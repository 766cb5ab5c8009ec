/-
Indexes of buckets: maps from a key to the entries filed under it, where a
bucket is made by its first entry and dropped with its last one.
-/
import AutoChess.Lib.Assoc

abbrev Index (κ α β : Type) := Assoc κ (Assoc α β)

namespace Index

variable {κ α β : Type} [DecidableEq κ] [DecidableEq α]

def bucket (ix : Index κ α β) (key : κ) : Assoc α β := (Assoc.get ix key).getD []

def add (ix : Index κ α β) (key : κ) (a : α) (b : β) : Index κ α β :=
  Assoc.set ix key (Assoc.set (bucket ix key) a b)

def remove (ix : Index κ α β) (key : κ) (a : α) : Index κ α β :=
  match Assoc.get ix key with
  | none => ix
  | some entries =>
    let kept := Assoc.delete entries a
    if kept.isEmpty then Assoc.delete ix key else Assoc.set ix key kept

/-- The removal that keeps an emptied bucket. -/
def discard (ix : Index κ α β) (key : κ) (a : α) : Index κ α β :=
  match Assoc.get ix key with
  | none => ix
  | some entries => Assoc.set ix key (Assoc.delete entries a)

/-- `a` is filed under the key. -/
def Holds (ix : Index κ α β) (key : κ) (a : α) : Prop := a ∈ Assoc.keys (bucket ix key)

instance (ix : Index κ α β) (key : κ) (a : α) : Decidable (Holds ix key a) :=
  inferInstanceAs (Decidable (a ∈ _))

variable {ix : Index κ α β} {key k : κ} {a x : α} {b : β}

omit [DecidableEq α] in
theorem bucket_set (entries : Assoc α β) :
    bucket (Assoc.set ix key entries) k = if k = key then entries else bucket ix k := by
  unfold bucket
  split
  · next h => rw [h, Assoc.get_set_self, Option.getD_some]
  · next h => rw [Assoc.get_set_of_ne h]

omit [DecidableEq α] in
theorem bucket_delete : bucket (Assoc.delete ix key) k = if k = key then [] else bucket ix k := by
  unfold bucket
  split
  · next h => rw [h, Assoc.get_delete_self, Option.getD_none]
  · next h => rw [Assoc.get_delete_of_ne h]

@[simp] theorem holds_add : Holds (add ix key a b) k x ↔ k = key ∧ x = a ∨ Holds ix k x := by
  unfold Holds add
  rw [bucket_set]
  split
  · next h =>
    subst h
    simp
  · next h => simp [h]

theorem bucket_add : bucket (add ix key a b) k = if k = key then Assoc.set (bucket ix key) a b else bucket ix k :=
  bucket_set _

theorem bucket_remove : bucket (remove ix key a) k = if k = key then Assoc.delete (bucket ix k) a else bucket ix k := by
  unfold remove
  split
  · next hnone =>
    split
    · next h => simp [bucket, h, hnone, Assoc.delete]
    · rfl
  · next entries hget =>
    have hentries : bucket ix key = entries := by rw [bucket, hget, Option.getD_some]
    dsimp only
    split
    · next hempty =>
      rw [bucket_delete]
      split
      · next h => rw [h, hentries, List.isEmpty_iff.1 hempty]
      · rfl
    · rw [bucket_set]
      split
      · next h => rw [h, hentries]
      · rfl

/-- Removing leaves the other entries in their order. -/
theorem bucket_remove_sublist : (bucket (remove ix key a) k).Sublist (bucket ix k) := by
  rw [bucket_remove]
  split
  · exact List.filter_sublist
  · exact .refl _

@[simp] theorem holds_remove : Holds (remove ix key a) k x ↔ Holds ix k x ∧ ¬(k = key ∧ x = a) := by
  unfold Holds
  rw [bucket_remove]
  split
  · next h => simp [h, and_comm]
  · next h => simp [h]

@[simp] theorem holds_discard : Holds (discard ix key a) k x ↔ Holds ix k x ∧ ¬(k = key ∧ x = a) := by
  unfold discard
  split
  · next hnone =>
    have hempty : bucket ix key = [] := by rw [bucket, hnone, Option.getD_none]
    constructor
    · intro h
      refine ⟨h, fun heq => ?_⟩
      rw [Holds, heq.1, hempty] at h
      cases h
    · exact fun h => h.1
  · next entries hget =>
    have hentries : bucket ix key = entries := by rw [bucket, hget, Option.getD_some]
    unfold Holds
    rw [bucket_set]
    split
    · next h =>
      subst h
      simp [hentries, and_comm]
    · next h => simp [h]

omit [DecidableEq α] in
@[simp] theorem holds_delete : Holds (Assoc.delete ix key) k x ↔ k ≠ key ∧ Holds ix k x := by
  unfold Holds
  rw [bucket_delete]
  split
  · next h => simp [h, Assoc.keys]
  · next h => simp [h]

@[simp] theorem mem_keys_add : k ∈ Assoc.keys (add ix key a b) ↔ k = key ∨ k ∈ Assoc.keys ix :=
  Assoc.mem_keys_set

@[simp] theorem mem_keys_discard : k ∈ Assoc.keys (discard ix key a) ↔ k ∈ Assoc.keys ix := by
  unfold discard
  split
  · rfl
  · next entries hget =>
    rw [Assoc.mem_keys_set]
    constructor
    · rintro (rfl | h)
      · exact Assoc.mem_keys_of_get hget
      · exact h
    · exact Or.inr

theorem holds_foldl_remove (a : α) (removed : List κ) (ix : Index κ α β) :
    Holds (removed.foldl (fun ix key => ix.remove key a) ix) k x ↔ Holds ix k x ∧ ¬(k ∈ removed ∧ x = a) := by
  induction removed generalizing ix with
  | nil => simp
  | cons key removed ih =>
    rw [List.foldl_cons, ih, holds_remove, List.mem_cons, or_and_right, not_or, and_assoc]

omit [DecidableEq α] in
theorem not_holds_of_get (h : Assoc.get ix key = none) : ¬Holds ix key a := by
  rw [Holds, bucket, h]
  rintro ⟨⟩

end Index
