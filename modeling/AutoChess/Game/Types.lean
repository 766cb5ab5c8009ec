/-
Combat engine types: units, the two boards, the event log.

Board geometry (3×3 per player): slot 0..8, row-major, `row = slot / 3`,
`col = slot % 3`; row 0 is the front.

The engine mutates `UnitInstance` objects it holds by reference. Here a
reference is the unit's `instanceId`, which is distinct on every board a
battle starts from (`Battle.ids`), and a mutation rewrites the unit with
that id (`BattleSim.update`).
-/
import Mathlib.Algebra.Order.Ring.Int
namespace AutoChess.Game

abbrev Star := Fin 3

instance (n : Nat) : OfNat Star n := ⟨Fin.ofNat 3 n⟩

inductive UnitId where
  | fighter | healer | ranger | tank
  deriving DecidableEq, Repr

inductive Side where
  | p1 | p2
  deriving DecidableEq, Repr

structure UnitInstance where
  instanceId : String
  unitId : UnitId
  star : Star
  hp : Int
  maxHp : Int
  /-- 0..8, row-major. -/
  slot : Nat
  side : Side
  alive : Bool
  /-- Tank revive, one per battle. -/
  revivedThisRound : Option Bool := none
  /-- Healer slow bookkeeping. -/
  slowActive : Option Bool := none
  slowUntilHealerAct : Option String := none
  /-- Current SPD after a slow; the unit's base SPD when undefined. -/
  effectiveSpd : Option Int := none
  deriving DecidableEq, Repr

def UnitInstance.row (u : UnitInstance) : Nat := u.slot / 3

def UnitInstance.col (u : UnitInstance) : Nat := u.slot % 3

/-- A unit's state at one point of the battle, sent with every event. -/
structure UnitSnapshot where
  instanceId : String
  unitId : UnitId
  star : Star
  hp : Int
  maxHp : Int
  slot : Nat
  side : Side
  alive : Bool
  deriving DecidableEq, Repr

def snapshotUnit (u : UnitInstance) : UnitSnapshot :=
  { instanceId := u.instanceId, unitId := u.unitId, star := u.star, hp := u.hp,
    maxHp := u.maxHp, slot := u.slot, side := u.side, alive := u.alive }

structure BattleState where
  p1Units : List UnitInstance
  p2Units : List UnitInstance
  roundSeed : UInt32
  matchSeed : String
  /-- Optional pre-built RNG; the engine falls back to `makeRng roundSeed`. -/
  rng : Option (Unit → Rat) := none

/-- The boards the engine works on. -/
structure BattleSim where
  p1Units : List UnitInstance
  p2Units : List UnitInstance
  deriving DecidableEq, Repr

def BattleSim.units (sim : BattleSim) : List UnitInstance := sim.p1Units ++ sim.p2Units

def snapshotAllUnits (sim : BattleSim) : List UnitSnapshot := sim.units.map snapshotUnit

/-- The identity fields an event carries of each unit it names
(`attackerSide`, `attackerSlot`, `attackerUnitId`, `attackerStar`, ...). -/
structure Actor where
  instanceId : String
  side : Side
  slot : Nat
  unitId : UnitId
  star : Star
  deriving DecidableEq, Repr

def UnitInstance.actor (u : UnitInstance) : Actor :=
  { instanceId := u.instanceId, side := u.side, slot := u.slot, unitId := u.unitId, star := u.star }

inductive EventKind where
  | attack (cycle tick : Nat) (attacker target : Actor) (damage targetHpAfter : Int)
  | death (cycle tick : Nat) (unit : Actor)
  | revive (cycle tick : Nat) (unit : Actor) (hpAfter : Int)
  | heal (cycle tick : Nat) (target healer : Actor) (amount targetHpAfter : Int)
  | lifesteal (cycle tick : Nat) (unit : Actor) (amount hpAfter : Int)
  | pierce (cycle tick : Nat) (attacker target : Actor) (damage : Int)
  | slow (cycle tick : Nat) (target healer : Actor)
  | cycleEnd (cycle : Nat)
  | battleEnd (cycle : Nat) (winner : Option Side)
  deriving DecidableEq, Repr

structure CombatEvent where
  kind : EventKind
  /-- Full board snapshot after this event's unit action. -/
  unitStates : List UnitSnapshot
  deriving DecidableEq, Repr

def enemySideOf : Side → Side
  | .p1 => .p2
  | .p2 => .p1

def unitsOf (sim : BattleSim) : Side → List UnitInstance
  | .p1 => sim.p1Units
  | .p2 => sim.p2Units

/-- The unit a reference points at. -/
def BattleSim.find (sim : BattleSim) (id : String) : Option UnitInstance :=
  sim.units.find? (·.instanceId == id)

/-- Writes through the reference `id`. -/
def BattleSim.update (sim : BattleSim) (id : String) (f : UnitInstance → UnitInstance) : BattleSim :=
  let write := fun u => if u.instanceId == id then f u else u
  { p1Units := sim.p1Units.map write, p2Units := sim.p2Units.map write }

end AutoChess.Game
