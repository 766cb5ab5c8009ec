/-
Keys with an expiry on a millisecond clock. A key is readable up to and
including its expiry time and gone after it; a write that builds on a gone
key builds on nothing and leaves a key without expiry.
-/
namespace Expiring

/-- A value with the last millisecond it can be read at, if it expires. -/
structure Entry (α : Type) where
  value : α
  expireAt : Option Nat := none

structure Key (α : Type) where
  entry : Option (Entry α) := none

variable {α : Type}

def Entry.live (now : Nat) (e : Entry α) : Bool := e.expireAt.all (now ≤ ·)

/-- What can be read later can be read until then. -/
theorem Entry.live_earlier {now later : Nat} (h : now ≤ later) {e : Entry α} (hl : e.live later = true) :
    e.live now = true := by
  cases ht : e.expireAt with
  | none => simp [Entry.live, ht]
  | some t =>
    simp only [Entry.live, ht, Option.all_some, decide_eq_true_eq] at hl ⊢
    exact Nat.le_trans h hl

namespace Key

/-- The key as commands see it at `now`. -/
def current (now : Nat) (k : Key α) : Option (Entry α) := k.entry.filter (·.live now)

def get (now : Nat) (k : Key α) : Option α := (k.current now).map (·.value)

/-- A write that replaces the key, with a lifetime. -/
def setEx (now ms : Nat) (v : α) : Key α := ⟨some ⟨v, some (now + ms)⟩⟩

/-- A write into the value, created from `blank` when it is gone; the
lifetime stays. -/
def modify (now : Nat) (blank : α) (f : α → α) (k : Key α) : Key α :=
  match k.current now with
  | none => ⟨some ⟨f blank, none⟩⟩
  | some e => ⟨some ⟨f e.value, e.expireAt⟩⟩

/-- A new lifetime for a key that is there. -/
def expire (now ms : Nat) (k : Key α) : Key α :=
  ⟨(k.current now).map fun e => ⟨e.value, some (now + ms)⟩⟩

theorem current_live {now : Nat} {k : Key α} {e : Entry α} (h : k.current now = some e) :
    e.live now = true := (Option.filter_eq_some_iff.1 h).2

theorem get_of_live {now : Nat} {e : Entry α} (h : e.live now = true) :
    (⟨some e⟩ : Key α).get now = some e.value := by
  simp [get, current, Option.filter, h]

theorem entry_of_get {now : Nat} {k : Key α} {v : α} (h : k.get now = some v) :
    ∃ expireAt, k = ⟨some ⟨v, expireAt⟩⟩ := by
  obtain ⟨⟨w, expireAt⟩, hcurrent, rfl⟩ := Option.map_eq_some_iff.1 h
  have hentry := (Option.filter_eq_some_iff.1 hcurrent).1
  cases k with
  | mk entry => exact ⟨expireAt, congrArg Key.mk hentry⟩

@[simp] theorem get_absent (now : Nat) : (⟨none⟩ : Key α).get now = none := rfl

@[simp] theorem get_setEx (now ms : Nat) (v : α) : (setEx now ms v).get now = some v :=
  get_of_live (by simp [Entry.live])

@[simp] theorem get_modify (now : Nat) (blank : α) (f : α → α) (k : Key α) :
    (k.modify now blank f).get now = some (f ((k.get now).getD blank)) := by
  unfold modify get
  cases h : k.current now with
  | none => exact get_of_live rfl
  | some e =>
    have hl : e.live now = true := current_live h
    exact get_of_live (e := ⟨f e.value, e.expireAt⟩) hl

@[simp] theorem get_expire (now ms : Nat) (k : Key α) : (k.expire now ms).get now = k.get now := by
  unfold expire
  cases h : k.current now with
  | none => simp only [get, h]; rfl
  | some e =>
    have hk : k.get now = some e.value := by simp [get, h]
    exact (get_of_live (by simp [Entry.live])).trans hk.symm

/-- A write into the value and a new lifetime replace the key. -/
theorem expire_modify (now ms : Nat) (blank : α) (f : α → α) (k : Key α) :
    (k.modify now blank f).expire now ms = setEx now ms (f ((k.get now).getD blank)) := by
  unfold modify expire setEx get
  cases h : k.current now with
  | none => rfl
  | some e =>
    have hl : e.live now = true := current_live h
    have hcur : (⟨some ⟨f e.value, e.expireAt⟩⟩ : Key α).current now = some ⟨f e.value, e.expireAt⟩ := by
      have : (⟨f e.value, e.expireAt⟩ : Entry α).live now = true := hl
      simp [current, Option.filter, this]
    dsimp only
    rw [hcur]
    rfl

/-- Time can only take a key away. -/
theorem get_later {now later : Nat} (h : now ≤ later) (k : Key α) :
    k.get later = k.get now ∨ k.get later = none := by
  obtain ⟨_ | e⟩ := k
  · exact .inl rfl
  · cases hl : e.live later with
    | false => exact .inr (by simp [get, current, Option.filter, hl])
    | true =>
      have hn : e.live now = true := Entry.live_earlier h hl
      exact .inl ((get_of_live hl).trans (get_of_live hn).symm)

/-- The clock leaves a key alone until it expires. -/
theorem get_unexpired {now later : Nat} (h : now ≤ later) {k : Key α}
    (hlive : ∀ e, k.entry = some e → e.live later = true) : k.get later = k.get now := by
  obtain ⟨_ | e⟩ := k
  · rfl
  · have hl := hlive e rfl
    rw [get_of_live hl, get_of_live (Entry.live_earlier h hl)]

/-- A key readable later is readable until then, with the same value. -/
theorem get_earlier {now later : Nat} (h : now ≤ later) {k : Key α} {v : α}
    (hk : k.get later = some v) : k.get now = some v := by
  rcases get_later h k with heq | hgone
  · exact heq ▸ hk
  · rw [hgone] at hk
    cases hk

theorem get_setEx_later (now ms later : Nat) (v : α) :
    (setEx now ms v).get later = if later ≤ now + ms then some v else none := by
  by_cases h : later ≤ now + ms
  · rw [if_pos h]
    exact get_of_live (by simp [Entry.live, h])
  · rw [if_neg h]
    simp [get, current, setEx, Option.filter, Entry.live, h]

/-- A write into a key that is there keeps its lifetime. -/
theorem get_modify_later {now : Nat} (later : Nat) {k : Key α} (blank : α) (f : α → α)
    (hk : k.get now ≠ none) : (k.modify now blank f).get later = (k.get later).map f := by
  cases hcur : k.current now with
  | none => exact absurd (by simp [get, hcur]) hk
  | some e =>
    obtain ⟨entry⟩ := k
    obtain rfl : entry = some e := (Option.filter_eq_some_iff.1 hcur).1
    unfold modify
    rw [hcur]
    have hlive : (⟨f e.value, e.expireAt⟩ : Entry α).live later = e.live later := rfl
    cases hl : e.live later <;> simp [get, current, Option.filter, hlive, hl]

end Key

end Expiring
