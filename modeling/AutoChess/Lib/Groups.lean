/-
Grouping a list of pairs by their keys, as a `Map` of lists built with
`putIfAbsent` and `add` does: the groups in the order of their first entries,
each with its entries in the order of the list.
-/
import AutoChess.Lib.Assoc
import Mathlib.Data.List.Nodup

namespace Assoc

variable {κ α : Type} [DecidableEq κ]

/-- The entry is set, if there is one. -/
def setSome (m : Assoc κ α) : Option (κ × α) → Assoc κ α
  | some (key, v) => m.set key v
  | none => m

/-- The last value a loop sets for a key. -/
theorem get_foldl_setSome {β : Type} (f : β → Option (κ × α)) (l : List β) (m : Assoc κ α) (key : κ) :
    get (l.foldl (fun m b => m.setSome (f b)) m) key =
      (l.reverse.findSome? fun b => (f b).bind fun kv => if kv.1 = key then some kv.2 else none).or (get m key) := by
  induction l generalizing m with
  | nil => rfl
  | cons b l ih =>
    rw [List.foldl_cons, ih, List.reverse_cons, List.findSome?_append, Option.or_assoc]
    congr 1
    cases hf : f b with
    | none => simp [hf, setSome]
    | some kv =>
      obtain ⟨k, v⟩ := kv
      by_cases hk : k = key
      · simp [hf, hk, setSome]
      · simp [hf, hk, setSome, get_set_of_ne (Ne.symm hk)]

def push (m : Assoc κ (List α)) (key : κ) (a : α) : Assoc κ (List α) := m.set key ((m.get key).getD [] ++ [a])

/-- Setting a key rewrites its entry in its place, or adds it as the last
one. -/
theorem set_cases (m : Assoc κ α) (key : κ) (v : α) :
    (∃ m₁ w m₂, m = m₁ ++ (key, w) :: m₂ ∧ get m key = some w ∧ set m key v = m₁ ++ (key, v) :: m₂) ∨
      get m key = none ∧ set m key v = m ++ [(key, v)] := by
  induction m with
  | nil => exact .inr ⟨rfl, rfl⟩
  | cons f m ih =>
    obtain ⟨k, w⟩ := f
    by_cases hk : k = key
    · subst hk
      exact .inl ⟨[], w, m, rfl, by simp [get], by simp [set]⟩
    · have hne : (key == k) = false := by simpa using fun heq : key = k => hk heq.symm
      have hget : get ((k, w) :: m) key = get m key := by
        rw [get, get, List.lookup_cons, hne]
      have hset : set ((k, w) :: m) key v = (k, w) :: set m key v := by rw [set, if_neg hk]
      rw [hget, hset]
      rcases ih with ⟨m₁, w', m₂, rfl, hw, heq⟩ | ⟨hnone, heq⟩
      · exact .inl ⟨(k, w) :: m₁, w', m₂, rfl, hw, by rw [heq]; rfl⟩
      · exact .inr ⟨hnone, by rw [heq]; rfl⟩

/-- The groups of a list whose values come in the order `lt`. -/
structure Groups (lt : α → α → Prop) (l : List (κ × α)) (m : Assoc κ (List α)) : Prop where
  mem : ∀ k a, (∃ as, (k, as) ∈ m ∧ a ∈ as) ↔ (k, a) ∈ l
  filled : ∀ g ∈ m, g.2 ≠ []
  sorted : ∀ g ∈ m, g.2.Pairwise lt
  order : m.Pairwise fun g g' => g.1 ≠ g'.1 ∧ ∃ a ∈ g.2, ∀ b ∈ g'.2, lt a b

variable {lt : α → α → Prop} {l : List (κ × α)} {m : Assoc κ (List α)}

omit [DecidableEq κ] in
theorem Groups.nil : Groups lt ([] : List (κ × α)) [] := ⟨by simp, by simp, by simp, .nil⟩

/-- The next value goes to the end of its group. -/
theorem Groups.push (h : Groups lt l m) {key : κ} {a : α} (hlast : ∀ p ∈ l, lt p.2 a) :
    Groups lt (l ++ [(key, a)]) (push m key a) := by
  have hlt : ∀ {k as b}, (k, as) ∈ m → b ∈ as → lt b a := fun hg hb => hlast _ ((h.mem _ _).1 ⟨_, hg, hb⟩)
  unfold Assoc.push
  rcases set_cases m key ((m.get key).getD [] ++ [a]) with ⟨m₁, as, m₂, hm, hget, hset⟩ | ⟨hnone, hset⟩
  · rw [hset, hget, Option.getD_some]
    have has : (key, as) ∈ m := by simp [hm]
    refine ⟨fun k b => ?_, fun g hg => ?_, fun g hg => ?_, ?_⟩
    · rw [List.mem_append, List.mem_singleton, ← h.mem]
      simp only [hm, List.mem_append, List.mem_cons, Prod.mk.injEq]
      constructor
      · rintro ⟨bs, hmem | ⟨rfl, rfl⟩ | hmem, hb⟩
        · exact .inl ⟨bs, .inl hmem, hb⟩
        · rcases List.mem_append.1 hb with hb | hb
          · exact .inl ⟨as, .inr (.inl ⟨rfl, rfl⟩), hb⟩
          · exact .inr ⟨rfl, List.mem_singleton.1 hb⟩
        · exact .inl ⟨bs, .inr (.inr hmem), hb⟩
      · rintro (⟨bs, hmem | ⟨rfl, rfl⟩ | hmem, hb⟩ | ⟨rfl, rfl⟩)
        · exact ⟨bs, .inl hmem, hb⟩
        · exact ⟨_, .inr (.inl ⟨rfl, rfl⟩), List.mem_append_left _ hb⟩
        · exact ⟨bs, .inr (.inr hmem), hb⟩
        · exact ⟨_, .inr (.inl ⟨rfl, rfl⟩), by simp⟩
    · rcases List.mem_append.1 hg with hg | hg
      · exact h.filled g (by simp [hm, hg])
      · rcases List.mem_cons.1 hg with rfl | hg
        · simp
        · exact h.filled g (by simp [hm, hg])
    · rcases List.mem_append.1 hg with hg | hg
      · exact h.sorted g (by simp [hm, hg])
      · rcases List.mem_cons.1 hg with rfl | hg
        · refine List.pairwise_append.2 ⟨h.sorted _ has, List.pairwise_singleton _ _, fun b hb c hc => ?_⟩
          rw [List.mem_singleton.1 hc]
          exact hlt has hb
        · exact h.sorted g (by simp [hm, hg])
    · have horder := h.order
      rw [hm, List.pairwise_append, List.pairwise_cons] at horder
      obtain ⟨h₁, ⟨hkey, h₂⟩, hcross⟩ := horder
      refine List.pairwise_append.2 ⟨h₁, List.pairwise_cons.2 ⟨fun g hg => ?_, h₂⟩, fun g hg g' hg' => ?_⟩
      · obtain ⟨hne, b, hb, hlt⟩ := hkey g hg
        exact ⟨hne, b, List.mem_append_left _ hb, hlt⟩
      · rcases List.mem_cons.1 hg' with rfl | hg'
        · obtain ⟨hne, b, hb, hbefore⟩ := hcross g hg (key, as) List.mem_cons_self
          refine ⟨hne, b, hb, fun c hc => ?_⟩
          rcases List.mem_append.1 hc with hc | hc
          · exact hbefore c hc
          · rw [List.mem_singleton.1 hc]
            exact hlt (show (g.1, g.2) ∈ m by simp [hm, hg]) hb
        · exact hcross g hg g' (List.mem_cons_of_mem _ hg')
  · rw [hset, hnone, Option.getD_none, List.nil_append]
    have hnew : key ∉ keys m := not_mem_keys hnone
    refine ⟨fun k b => ?_, fun g hg => ?_, fun g hg => ?_, ?_⟩
    · rw [List.mem_append, List.mem_singleton, ← h.mem]
      simp only [List.mem_append, List.mem_singleton, Prod.mk.injEq]
      constructor
      · rintro ⟨bs, hmem | ⟨rfl, rfl⟩, hb⟩
        · exact .inl ⟨bs, hmem, hb⟩
        · exact .inr ⟨rfl, List.mem_singleton.1 hb⟩
      · rintro (⟨bs, hmem, hb⟩ | ⟨rfl, rfl⟩)
        · exact ⟨bs, .inl hmem, hb⟩
        · exact ⟨_, .inr ⟨rfl, rfl⟩, by simp⟩
    · rcases List.mem_append.1 hg with hg | hg
      · exact h.filled g hg
      · rw [List.mem_singleton.1 hg]
        simp
    · rcases List.mem_append.1 hg with hg | hg
      · exact h.sorted g hg
      · rw [List.mem_singleton.1 hg]
        exact List.pairwise_singleton _ _
    · refine List.pairwise_append.2 ⟨h.order, List.pairwise_singleton _ _, fun g hg g' hg' => ?_⟩
      rw [List.mem_singleton.1 hg']
      obtain ⟨b, hb⟩ := List.exists_mem_of_ne_nil _ (h.filled g hg)
      have hkey : g.1 ∈ keys m := List.mem_map_of_mem hg
      refine ⟨fun heq => hnew ((show g.1 = key from heq) ▸ hkey), b, hb, fun c hc => ?_⟩
      rw [List.mem_singleton.1 hc]
      exact hlt hg hb

theorem Groups.foldl_push {l' : List (κ × α)} (h : Groups lt l m) (hsorted : (l ++ l').Pairwise fun p q => lt p.2 q.2) :
    Groups lt (l ++ l') (l'.foldl (fun m p => Assoc.push m p.1 p.2) m) := by
  induction l' generalizing l m with
  | nil => rwa [List.append_nil]
  | cons p l' ih =>
    have hlast : ∀ q ∈ l, lt q.2 p.2 := fun q hq => (List.pairwise_append.1 hsorted).2.2 q hq p List.mem_cons_self
    rw [List.append_cons] at hsorted ⊢
    exact ih (h.push hlast) hsorted

omit [DecidableEq κ] in
/-- **The groups one after the other**: a pair comes before another when it is
of the same group and before it in the list, or when its group has a value
before all of the other's. -/
theorem Groups.flat (h : Groups lt l m) : (m.flatMap fun g => g.2.map (g.1, ·)).Pairwise fun p q =>
    p.1 = q.1 ∧ lt p.2 q.2 ∨ ∃ a, (p.1, a) ∈ l ∧ ∀ b, (q.1, b) ∈ l → lt a b := by
  have hnodup : (m.map (·.1)).Nodup := List.pairwise_map.2 (h.order.imp fun hg => hg.1)
  refine List.pairwise_flatMap.2 ⟨fun g hg => ?_, h.order.imp_of_mem fun {g g'} hg hg' hbefore p hp q hq => .inr ?_⟩
  · exact List.pairwise_map.2 ((h.sorted g hg).imp fun hlt => .inl ⟨rfl, hlt⟩)
  · obtain ⟨-, a, ha, hfirst⟩ := hbefore
    obtain ⟨-, -, rfl⟩ := List.mem_map.1 hp
    obtain ⟨-, -, rfl⟩ := List.mem_map.1 hq
    refine ⟨a, (h.mem _ _).1 ⟨g.2, hg, ha⟩, fun b hb => ?_⟩
    obtain ⟨bs, hbs, hmem⟩ := (h.mem _ _).2 hb
    have heq : (g'.1, bs) = g' := List.inj_on_of_nodup_map hnodup hbs hg' rfl
    exact hfirst b (heq ▸ hmem)

omit [DecidableEq κ] in
theorem Groups.mem_flat (h : Groups lt l m) (p : κ × α) : p ∈ m.flatMap (fun g => g.2.map (g.1, ·)) ↔ p ∈ l := by
  rw [← h.mem p.1 p.2, List.mem_flatMap]
  constructor
  · rintro ⟨g, hg, hp⟩
    obtain ⟨a, ha, rfl⟩ := List.mem_map.1 hp
    exact ⟨g.2, hg, ha⟩
  · rintro ⟨as, hg, ha⟩
    exact ⟨(p.1, as), hg, List.mem_map.2 ⟨p.2, ha, rfl⟩⟩

end Assoc
