/-
Association lists in the order of their keys' first insertion, as a `Map` or
an object keeps them: a key is read at its first entry and set in its place.
-/
import Mathlib.Data.List.Basic

abbrev Assoc (κ α : Type) := List (κ × α)

namespace Assoc

variable {κ α : Type} [DecidableEq κ]

def get (r : Assoc κ α) (key : κ) : Option α := r.lookup key

/-- The list with the key set: in its place, or as the last one. -/
def set : Assoc κ α → κ → α → Assoc κ α
  | [], key, v => [(key, v)]
  | (k, w) :: r, key, v => if k = key then (key, v) :: r else (k, w) :: set r key v

def delete (r : Assoc κ α) (key : κ) : Assoc κ α := r.filter (·.1 ≠ key)

def keys (r : Assoc κ α) : List κ := r.map (·.1)

@[simp] theorem get_set_self (r : Assoc κ α) (key : κ) (v : α) : get (set r key v) key = some v := by
  induction r with
  | nil => simp [set, get]
  | cons f r ih =>
    obtain ⟨k, w⟩ := f
    rw [set]
    split
    · simp [get]
    · next h =>
      have hne : (key == k) = false := by simpa using fun heq : key = k => h heq.symm
      rw [get, List.lookup_cons, hne]
      exact ih

theorem get_set_of_ne {r : Assoc κ α} {key other : κ} {v : α} (h : other ≠ key) :
    get (set r key v) other = get r other := by
  have hne : (other == key) = false := by simpa using h
  induction r with
  | nil => simp [set, get, List.lookup_cons, hne]
  | cons f r ih =>
    obtain ⟨k, w⟩ := f
    rw [set]
    split
    · next hk =>
      subst hk
      rw [get, get, List.lookup_cons, List.lookup_cons, hne]
    · rw [get, get, List.lookup_cons, List.lookup_cons]
      split
      · rfl
      · exact ih

theorem set_set (r : Assoc κ α) (key : κ) (v w : α) : set (set r key v) key w = set r key w := by
  induction r with
  | nil => simp [set]
  | cons f r ih =>
    obtain ⟨k, u⟩ := f
    rw [set]
    split
    · next h =>
      subst h
      simp [set]
    · next h => rw [set, if_neg h, set, if_neg h, ih]

/-- Setting what is there changes nothing. -/
theorem set_of_get {r : Assoc κ α} {key : κ} {v : α} (h : get r key = some v) : set r key v = r := by
  induction r with
  | nil => cases h
  | cons f r ih =>
    obtain ⟨k, w⟩ := f
    rw [get, List.lookup_cons] at h
    rw [set]
    split
    · next hk =>
      subst hk
      simp only [beq_self_eq_true, Option.some.injEq] at h
      rw [h]
    · next hk =>
      have hne : (key == k) = false := by simpa using fun heq : key = k => hk heq.symm
      rw [hne] at h
      rw [ih h]

@[simp] theorem get_delete_self (r : Assoc κ α) (key : κ) : get (delete r key) key = none := by
  rw [get, delete, List.lookup_eq_none_iff]
  rintro ⟨k, w⟩ h
  have hne : k ≠ key := by simpa using (List.mem_filter.1 h).2
  simpa using hne.symm

theorem get_delete_of_ne {r : Assoc κ α} {key other : κ} (h : other ≠ key) :
    get (delete r key) other = get r other := by
  induction r with
  | nil => rfl
  | cons f r ih =>
    obtain ⟨k, w⟩ := f
    change List.lookup other (List.filter _ _) = List.lookup other _ at ih ⊢
    rw [List.filter_cons]
    split
    · rw [List.lookup_cons, List.lookup_cons, ih]
    · next hk =>
      have hne : (other == k) = false := by
        have hkey : k = key := by simpa using hk
        simpa [hkey] using h
      rw [List.lookup_cons, hne]
      exact ih

theorem mem_keys_of_get {r : Assoc κ α} {key : κ} {v : α} (h : get r key = some v) : key ∈ keys r := by
  obtain ⟨l₁, l₂, rfl, -⟩ := List.lookup_eq_some_iff.1 h
  simp [keys]

theorem get_of_mem_keys {r : Assoc κ α} {key : κ} (h : key ∈ keys r) : ∃ v, get r key = some v := by
  cases hget : get r key with
  | some v => exact ⟨v, rfl⟩
  | none =>
    obtain ⟨⟨k, v⟩, hf, rfl⟩ := List.mem_map.1 h
    rw [get, List.lookup_eq_none_iff] at hget
    simpa using hget _ hf

theorem get_map {β : Type} (r : Assoc κ α) (g : κ → α → β) (key : κ) :
    get (r.map fun (k, v) => (k, g k v) : Assoc κ β) key = (get r key).map (g key) := by
  induction r with
  | nil => rfl
  | cons f r ih =>
    obtain ⟨k, v⟩ := f
    change List.lookup key ((k, g k v) :: _) = (List.lookup key ((k, v) :: r)).map (g key)
    rw [List.lookup_cons, List.lookup_cons]
    split
    · next h => rw [Option.map_some, eq_of_beq h]
    · exact ih

theorem not_mem_keys {r : Assoc κ α} {key : κ} (h : get r key = none) : key ∉ keys r := by
  rw [get, List.lookup_eq_none_iff] at h
  rintro hkey
  obtain ⟨⟨k, v⟩, hf, rfl⟩ := List.mem_map.1 hkey
  simpa using h _ hf

@[simp] theorem mem_keys_set {r : Assoc κ α} {key other : κ} {v : α} :
    other ∈ keys (set r key v) ↔ other = key ∨ other ∈ keys r := by
  induction r with
  | nil => simp [set, keys]
  | cons f r ih =>
    obtain ⟨k, w⟩ := f
    rw [set]
    split
    · next hk =>
      subst hk
      simp [keys]
    · change other ∈ k :: keys (set r key v) ↔ other = key ∨ other ∈ k :: keys r
      rw [List.mem_cons, List.mem_cons, ih, or_left_comm]

@[simp] theorem mem_keys_delete {r : Assoc κ α} {key other : κ} :
    other ∈ keys (delete r key) ↔ other ≠ key ∧ other ∈ keys r := by
  simp only [keys, delete, List.mem_map, List.mem_filter, decide_eq_true_eq]
  constructor
  · rintro ⟨f, ⟨hf, hne⟩, rfl⟩
    exact ⟨hne, f, hf, rfl⟩
  · rintro ⟨hne, f, hf, rfl⟩
    exact ⟨f, ⟨hf, hne⟩, rfl⟩

theorem mem_set {r : Assoc κ α} {key other : κ} {v w : α} (h : (other, w) ∈ set r key v) :
    other = key ∧ w = v ∨ (other, w) ∈ r := by
  induction r with
  | nil => simpa [set] using h
  | cons f r ih =>
    obtain ⟨k, u⟩ := f
    rw [set] at h
    split at h
    · rcases List.mem_cons.1 h with heq | hmem
      · exact .inl (Prod.mk.inj heq)
      · exact .inr (List.mem_cons_of_mem _ hmem)
    · rcases List.mem_cons.1 h with heq | hmem
      · exact .inr (heq ▸ List.mem_cons_self ..)
      · exact (ih hmem).imp_right (List.mem_cons_of_mem _)

theorem keys_set_nodup {r : Assoc κ α} (h : (keys r).Nodup) (key : κ) (v : α) : (keys (set r key v)).Nodup := by
  induction r with
  | nil => simp [set, keys]
  | cons f r ih =>
    obtain ⟨k, w⟩ := f
    have hcons : k ∉ keys r ∧ (keys r).Nodup := List.nodup_cons.1 h
    rw [set]
    split
    · next hk =>
      subst hk
      exact h
    · next hk =>
      change (k :: keys (set r key v)).Nodup
      refine List.nodup_cons.2 ⟨fun hmem => ?_, ih hcons.2⟩
      rcases mem_keys_set.1 hmem with heq | hmem
      · exact hk heq
      · exact hcons.1 hmem

end Assoc
