/-
Classes whose properties are checked, as decorators check them. The library
that makes a plain object an instance of a class and checks it is a parameter;
what its documentation says of it is `Documented`.

An instance is its properties, read by name.
-/
import AutoChess.Lib.Json

namespace Json

inductive Check where
  | isInt
  | min (n : Int)
  | max (n : Int)
  | isIn (values : List String)
  | isBoolean
  | isUUID

structure Property where
  name : String
  checks : List Check
  /-- The checks are left out for `null` and for a property that is not there. -/
  isOptional : Bool := false

def isAbsent : Option Value → Bool
  | none | some .null => true
  | some _ => false

/-- The properties of a value, if it has any. -/
def Value.fields : Value → Record
  | .obj fields => fields
  | _ => []

/-- Neither a list nor an object. -/
def Value.isFlat : Value → Bool
  | .arr _ | .obj _ => false
  | _ => true

/-- No property holds a list or an object. -/
def Flat (fields : Record) : Prop := ∀ entry ∈ fields, entry.2.isFlat = true

/-- The library: its conversion to an instance of a class, which can throw, its
check of an instance, with the texts of each error and the instance it leaves,
and its single checks. -/
structure Validator (ε : Type) where
  plainToInstance : List Property → Record → Except ε Record
  validate : List Property → Record → List (List String) × Record
  passes : Check → Option Value → Bool

section
variable {ε : Type} (lib : Validator ε)

def Validator.isUUID (s : String) : Bool := lib.passes .isUUID (some (.str s))

/-- What a property is checked for. -/
def Validator.accepts (p : Property) (value : Option Value) : Bool :=
  p.isOptional && isAbsent value || p.checks.all (lib.passes · value)

/-- What the library says of itself. Of an object in an object nothing is said:
its conversion can throw. -/
structure Validator.Documented : Prop where
  isInt : ∀ value, lib.passes .isInt value = true ↔ ∃ n : Int, value = some (.num (ofInt n))
  min : ∀ lo n : Int, lib.passes (.min lo) (some (.num (ofInt n))) = true ↔ lo ≤ n
  max : ∀ hi n : Int, lib.passes (.max hi) (some (.num (ofInt n))) = true ↔ n ≤ hi
  isIn : ∀ values value, lib.passes (.isIn values) value = true ↔ ∃ s ∈ values, value = some (.str s)
  isBoolean : ∀ value, lib.passes .isBoolean value = true ↔ ∃ b, value = some (.bool b)
  isUUID : ∀ value, lib.passes .isUUID value = true → ∃ s, value = some (.str s)
  plainToInstance : ∀ properties fields, Flat fields → ∃ dto, lib.plainToInstance properties fields = .ok dto ∧
    ∀ p ∈ properties, Assoc.get dto p.name = Assoc.get fields p.name
  validate : ∀ properties dto, (lib.validate properties dto).1 = [] ↔
    ∀ p ∈ properties, lib.accepts p (Assoc.get dto p.name) = true
  whitelist : ∀ properties dto, ∀ p ∈ properties,
    Assoc.get (lib.validate properties dto).2 p.name = Assoc.get dto p.name

end

/-! ## What passes -/

theorem integer?_ofInt (n : Int) : (ofInt n).integer? = some n := by simp [ofInt, Number.integer?]

theorem ofInt_natCast (n : Nat) : ofInt n = ofNat n := rfl

section
variable {ε : Type} {lib : Validator ε}

/-- Whole numbers from a bound on. -/
theorem Validator.Documented.natural (h : lib.Documented) (value : Option Value) {lo : Int} (hlo : 0 ≤ lo) :
    lib.passes .isInt value = true ∧ lib.passes (.min lo) value = true ↔
      ∃ n : Nat, lo ≤ n ∧ value = some (.num (ofNat n)) := by
  constructor
  · intro hpasses
    obtain ⟨hint, hmin⟩ := hpasses
    obtain ⟨n, rfl⟩ := (h.isInt value).1 hint
    have hle : lo ≤ n := (h.min lo n).1 hmin
    refine ⟨n.toNat, by omega, ?_⟩
    rw [← ofInt_natCast, Int.toNat_of_nonneg (by omega)]
  · intro hn
    obtain ⟨n, hn, rfl⟩ := hn
    rw [← ofInt_natCast]
    exact ⟨(h.isInt _).2 ⟨n, rfl⟩, (h.min lo n).2 hn⟩

theorem Validator.Documented.bounded (h : lib.Documented) {hi : Int} {n : Nat} :
    lib.passes (.max hi) (some (.num (ofNat n))) = true ↔ n ≤ hi := by
  rw [← ofInt_natCast]
  exact h.max hi n

theorem Validator.Documented.uuid (h : lib.Documented) {value : Option Value} :
    lib.passes .isUUID value = true ↔ ∃ s, lib.isUUID s = true ∧ value = some (.str s) := by
  constructor
  · intro hpasses
    obtain ⟨s, rfl⟩ := h.isUUID value hpasses
    exact ⟨s, hpasses, rfl⟩
  · intro hs
    obtain ⟨s, hs, rfl⟩ := hs
    exact hs

end

/-! ## A library that is as documented -/

/-- `n ≤ x`. -/
def Number.atLeast (n : Int) : Number → Bool
  | .nan => false
  | .infinite negative => !negative
  | .finite q => (n : ℚ) ≤ q

/-- `x ≤ n`. -/
def Number.atMost (n : Int) : Number → Bool
  | .nan => false
  | .infinite negative => negative
  | .finite q => q ≤ (n : ℚ)

def Check.passesIf (isUUID : String → Bool) : Check → Option Value → Bool
  | .isInt, some (.num x) => x.integer?.isSome
  | .min n, some (.num x) => x.atLeast n
  | .max n, some (.num x) => x.atMost n
  | .isIn values, some (.str s) => values.contains s
  | .isBoolean, some (.bool _) => true
  | .isUUID, some (.str s) => isUUID s
  | _, _ => false

/-- The properties of the class. -/
def declared (properties : List Property) (fields : Record) : Record :=
  fields.filter fun entry => properties.any (·.name = entry.1)

/-- Flat objects alone are taken, and each property that fails has one text. -/
def Validator.flat {ε : Type} (thrown : ε) (isUUID : String → Bool) (text : Property → String) : Validator ε where
  plainToInstance _ fields := if fields.all (·.2.isFlat) then .ok fields else .error thrown
  validate properties dto :=
    ((properties.filter fun p => !(p.isOptional && isAbsent (Assoc.get dto p.name) ||
      p.checks.all (·.passesIf isUUID (Assoc.get dto p.name)))).map fun p => [text p], declared properties dto)
  passes := Check.passesIf isUUID

theorem get_declared {properties : List Property} {p : Property} (hp : p ∈ properties) (fields : Record) :
    Assoc.get (declared properties fields) p.name = Assoc.get fields p.name := by
  induction fields with
  | nil => rfl
  | cons entry fields ih =>
    obtain ⟨key, value⟩ := entry
    unfold declared Assoc.get at ih ⊢
    rw [List.filter_cons, List.lookup_cons]
    by_cases hkey : p.name = key
    · rw [if_pos (List.any_eq_true.2 ⟨p, hp, decide_eq_true hkey⟩), List.lookup_cons, hkey, beq_self_eq_true]
    · rw [beq_eq_false_iff_ne.2 hkey]
      split
      · rw [List.lookup_cons, beq_eq_false_iff_ne.2 hkey]
        exact ih
      · exact ih

theorem integer?_eq_some {x : Number} {n : Int} : x.integer? = some n ↔ x = ofInt n := by
  constructor
  · intro h
    unfold Number.integer? at h
    split at h
    · next q =>
      split at h
      · next hden =>
        cases h
        rw [ofInt, (Rat.den_eq_one_iff q).1 hden]
      · cases h
    · cases h
  · intro h
    subst h
    exact integer?_ofInt n

theorem atLeast_ofInt (n m : Int) : (ofInt m).atLeast n = decide (n ≤ m) :=
  decide_eq_decide.2 Rat.intCast_le_intCast

theorem atMost_ofInt (n m : Int) : (ofInt m).atMost n = decide (m ≤ n) :=
  decide_eq_decide.2 Rat.intCast_le_intCast

theorem flat_documented {ε : Type} (thrown : ε) (isUUID : String → Bool) (text : Property → String) :
    (Validator.flat thrown isUUID text).Documented where
  isInt value := by
    constructor
    · intro h
      replace h : Check.isInt.passesIf isUUID value = true := h
      unfold Check.passesIf at h
      split at h <;> try contradiction
      next x _ =>
        obtain ⟨n, hn⟩ := Option.isSome_iff_exists.1 h
        exact ⟨n, by rw [integer?_eq_some.1 hn]⟩
    · intro h
      obtain ⟨n, rfl⟩ := h
      simp [Validator.flat, Check.passesIf, integer?_ofInt]
  min lo n := by simp [Validator.flat, Check.passesIf, atLeast_ofInt]
  max hi n := by simp [Validator.flat, Check.passesIf, atMost_ofInt]
  isIn values value := by
    cases value with
    | none => simp [Validator.flat, Check.passesIf]
    | some v => cases v <;> simp [Validator.flat, Check.passesIf]
  isBoolean value := by
    cases value with
    | none => simp [Validator.flat, Check.passesIf]
    | some v => cases v <;> simp [Validator.flat, Check.passesIf]
  isUUID value h := by
    cases value with
    | none => cases h
    | some v =>
      cases v with
      | str s => exact ⟨s, rfl⟩
      | _ => cases h
  plainToInstance properties fields h := ⟨fields, if_pos (List.all_eq_true.2 h), fun _ _ => rfl⟩
  validate properties dto := by
    simp only [Validator.flat, List.map_eq_nil_iff, List.filter_eq_nil_iff, Bool.not_eq_true', Bool.not_eq_false]
    rfl
  whitelist properties dto p hp := get_declared hp dto

/-! ## Reading what passed -/

def numberOf : Option Value → Int
  | some (.num x) => x.integer?.getD 0
  | _ => 0

def textOf : Option Value → String
  | some (.str s) => s
  | _ => ""

def textOf? : Option Value → Option String
  | some (.str s) => some s
  | _ => none

def boolOf? : Option Value → Option Bool
  | some (.bool b) => some b
  | _ => none

end Json
