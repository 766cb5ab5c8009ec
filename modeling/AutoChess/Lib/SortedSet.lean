/-
Sorted sets: members with a score each, read in order of score, ties in the
order of the members. Adding never moves a member that is there.
-/
import Mathlib.Data.List.Sort
import Mathlib.Data.List.Nodup

/-- Members with their scores, each member once. -/
structure SortedSet (α : Type) where
  entries : List (α × Nat)
  nodup : (entries.map (·.1)).Nodup

namespace SortedSet

variable {α : Type} [LinearOrder α]

def empty : SortedSet α := ⟨[], List.nodup_nil⟩

def score (s : SortedSet α) (a : α) : Option Nat := (s.entries.find? (·.1 = a)).map (·.2)

/-- Adds the member unless it is there. -/
def addNX (s : SortedSet α) (a : α) (score : Nat) : SortedSet α :=
  if h : a ∈ s.entries.map (·.1) then s
  else ⟨(a, score) :: s.entries, List.nodup_cons.2 ⟨h, s.nodup⟩⟩

def remove (s : SortedSet α) (a : α) : SortedSet α :=
  ⟨s.entries.filter (·.1 ≠ a), s.nodup.sublist (List.filter_sublist.map _)⟩

/-- Adds the member, or gives it a new score. -/
def add (s : SortedSet α) (a : α) (score : Nat) : SortedSet α := (s.remove a).addNX a score

/-- The entries whose score is kept. -/
def retain (s : SortedSet α) (keeps : Nat → Bool) : SortedSet α :=
  ⟨s.entries.filter (keeps ·.2), s.nodup.sublist (List.filter_sublist.map _)⟩

def card (s : SortedSet α) : Nat := s.entries.length

/-- The order of the entries. -/
def before (x y : α × Nat) : Prop := x.2 < y.2 ∨ x.2 = y.2 ∧ x.1 ≤ y.1

instance : DecidableRel (before (α := α)) := fun x y =>
  inferInstanceAs (Decidable (x.2 < y.2 ∨ x.2 = y.2 ∧ x.1 ≤ y.1))

def ranked (s : SortedSet α) : List (α × Nat) := s.entries.insertionSort before

theorem remove_of_notMem {s : SortedSet α} {a : α} (h : a ∉ s.entries.map (·.1)) : s.remove a = s := by
  obtain ⟨entries, hnodup⟩ := s
  simp only [remove, mk.injEq, List.filter_eq_self, decide_eq_true_eq, ne_eq]
  rintro e he rfl
  exact h (List.mem_map_of_mem he)

theorem entries_add {s : SortedSet α} {a : α} (h : a ∉ s.entries.map (·.1)) (n : Nat) :
    (s.add a n).entries = (a, n) :: s.entries := by
  rw [add, remove_of_notMem h, addNX, dif_neg h]

end SortedSet
