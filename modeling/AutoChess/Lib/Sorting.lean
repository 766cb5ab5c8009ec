/-
Sorting and searching a list whose order does not matter. A comparator that
orders distinct elements by a key sorts every permutation of a list with
distinct keys alike, and a search for something unique finds it in every
permutation.
-/
import Mathlib.Data.List.Sort

namespace Sorting

variable {α κ : Type}

section
variable {r r' : α → α → Prop} [DecidableRel r] [DecidableRel r']

theorem orderedInsert_congr {a : α} : ∀ {l : List α}, (∀ b ∈ l, r a b ↔ r' a b) →
    l.orderedInsert r a = l.orderedInsert r' a
  | [], _ => rfl
  | b :: l, h => by
    obtain ⟨hb, hl⟩ := List.forall_mem_cons.1 h
    rw [List.orderedInsert_cons, List.orderedInsert_cons, orderedInsert_congr hl]
    simp only [hb]

/-- A sort only asks about elements at different places. -/
theorem insertionSort_congr : ∀ {l : List α}, l.Pairwise (fun a b => r a b ↔ r' a b) →
    l.insertionSort r = l.insertionSort r'
  | [], _ => rfl
  | a :: l, h => by
    obtain ⟨ha, hl⟩ := List.pairwise_cons.1 h
    rw [List.insertionSort_cons, List.insertionSort_cons, insertionSort_congr hl]
    exact orderedInsert_congr fun b hb => ha b ((List.mem_insertionSort r').1 hb)

end

section
variable [LinearOrder κ] (key : α → κ)

/-- The comparator orders elements with distinct keys by their keys. -/
def OrdersBy (r : α → α → Prop) (l : List α) : Prop :=
  ∀ a ∈ l, ∀ b ∈ l, key a ≠ key b → (r a b ↔ key a ≤ key b)

variable {key} {r : α → α → Prop} [DecidableRel r] {l l' : List α}

theorem OrdersBy.sorts (h : OrdersBy key r l) (hkeys : (l.map key).Nodup) :
    l.insertionSort r = l.insertionSort fun a b => key a ≤ key b := by
  refine insertionSort_congr ?_
  have hne : l.Pairwise fun a b => key a ≠ key b := List.pairwise_map.1 hkeys
  exact hne.imp_of_mem fun ha hb hab => h _ ha _ hb hab

theorem OrdersBy.pairwise (h : OrdersBy key r l) (hkeys : (l.map key).Nodup) :
    (l.insertionSort r).Pairwise fun a b => key a ≤ key b := by
  have htotal : Std.Total fun a b : α => key a ≤ key b := ⟨fun a b => le_total _ _⟩
  have htrans : IsTrans α fun a b : α => key a ≤ key b := ⟨fun _ _ _ => le_trans⟩
  rw [h.sorts hkeys]
  exact List.pairwise_insertionSort _ l

/-- **Sorting forgets the order of its input.** -/
theorem OrdersBy.eq_of_perm (h : OrdersBy key r l) (hkeys : (l.map key).Nodup) (hp : l.Perm l') :
    l.insertionSort r = l'.insertionSort r := by
  have h' : OrdersBy key r l' := fun a ha b hb => h a (hp.mem_iff.2 ha) b (hp.mem_iff.2 hb)
  have hkeys' : (l'.map key).Nodup := (hp.map key).nodup_iff.1 hkeys
  have hsorted := (List.perm_insertionSort r l).trans (hp.trans (List.perm_insertionSort r l').symm)
  refine hsorted.eq_of_pairwise (fun a b ha hb hab hba => ?_) (h.pairwise hkeys) (h'.pairwise hkeys')
  have ha' := (List.mem_insertionSort r).1 ha
  have hb' := hp.mem_iff.2 ((List.mem_insertionSort r).1 hb)
  exact List.inj_on_of_nodup_map hkeys ha' hb' (le_antisymm hab hba)

end

/-- What only one element satisfies is found wherever it stands. -/
theorem find?_eq_of_perm {p : α → Bool} {l l' : List α} (hp : l.Perm l')
    (hunique : ∀ a ∈ l, ∀ b ∈ l, p a = true → p b = true → a = b) : l.find? p = l'.find? p := by
  cases h : l.find? p with
  | none =>
    refine (List.find?_eq_none.2 fun a ha => ?_).symm
    exact List.find?_eq_none.1 h a (hp.mem_iff.2 ha)
  | some a =>
    have hfound := List.find?_some h
    have hmem := List.mem_of_find?_eq_some h
    cases h' : l'.find? p with
    | none => exact absurd hfound (List.find?_eq_none.1 h' a (hp.mem_iff.1 hmem))
    | some b =>
      rw [hunique a hmem b (hp.mem_iff.2 (List.mem_of_find?_eq_some h')) hfound (List.find?_some h')]

end Sorting
