/-
JSON values as a program holds them after `JSON.parse`: numbers are rational
or not finite (`1e400` parses to an infinity), objects are their properties
in order.
-/
import AutoChess.Lib.Assoc
import Mathlib.Data.Rat.Defs

namespace Json

inductive Number where
  | nan
  | infinite (negative : Bool)
  | finite (value : ℚ)
  deriving DecidableEq

inductive Value where
  | null
  | bool (b : Bool)
  | num (x : Number)
  | str (s : String)
  | arr (elems : List Value)
  | obj (fields : List (String × Value))

/-- The properties of an object. -/
abbrev Record := Assoc String Value

def ofNat (n : Nat) : Number := .finite n

def ofInt (n : Int) : Number := .finite n

/-- `typeof value === 'object' && value !== null && !Array.isArray(value)`. -/
def Value.isRecord : Value → Bool
  | .obj _ => true
  | _ => false

/-- A number with no fraction, if it is one. -/
def Number.integer? : Number → Option Int
  | .finite q => if q.den = 1 then some q.num else none
  | _ => none

@[simp] theorem integer?_ofNat (n : Nat) : (ofNat n).integer? = some (n : Int) := by
  simp [ofNat, Number.integer?]

end Json
