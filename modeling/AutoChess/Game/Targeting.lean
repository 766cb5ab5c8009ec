/-
`pickTarget` and the orders it breaks ties with.

`localeCompare` is the host's string collation, a parameter throughout the
engine: the code only ever uses the sign of its answer.
-/
import AutoChess.Game.Constants
import Mathlib.Data.List.Sort

namespace AutoChess.Game

/-- `[...units].sort(cmp)`: a stable sort by a comparator. -/
def sortBy (cmp : UnitInstance → UnitInstance → Int) (units : List UnitInstance) :
    List UnitInstance :=
  units.insertionSort fun a b => cmp a b ≤ 0

variable (localeCompare : String → String → Int)

/-- Col, then row, then instanceId, ascending. -/
def comparePosition (a b : UnitInstance) : Int :=
  if a.col != b.col then (a.col : Int) - b.col
  else if a.row != b.row then (a.row : Int) - b.row
  else localeCompare a.instanceId b.instanceId

def byPositionThenId (units : List UnitInstance) : List UnitInstance :=
  sortBy (comparePosition localeCompare) units

/-- `units.reduce((a, b) => (b.hp < a.hp ? b : a))` after the position sort;
`none` for no units. -/
def lowestHp (units : List UnitInstance) : Option UnitInstance :=
  match byPositionThenId localeCompare units with
  | [] => none
  | u :: rest => some (rest.foldl (fun a b => if b.hp < a.hp then b else a) u)

/-- Among a lane's units, the front row if any, else middle, else back. -/
def firstNonEmptyRow (laneUnits : List UnitInstance) : List UnitInstance :=
  (([0, 1, 2].map fun row => laneUnits.filter (·.row == row)).find? (!·.isEmpty)).getD []

/-- The fallback across lanes 0, 1, 2. -/
def firstNonEmptyLane (enemies : List UnitInstance) : List UnitInstance :=
  (([0, 1, 2].map fun col => firstNonEmptyRow (enemies.filter (·.col == col))).find?
    (!·.isEmpty)).getD []

def pickTarget (attacker : UnitInstance) (sim : BattleSim) : Option UnitInstance :=
  let enemies := (unitsOf sim (enemySideOf attacker.side)).filter (·.alive)
  if enemies.isEmpty then none
  -- 2★ global rules first.
  else if attacker.unitId == .ranger && attacker.star == 2 then lowestHp localeCompare enemies
  else
    -- Tank 2★ prioritize: only fighter, tank and healer attackers are steered.
    let tank2 :=
      if attacker.unitId == .fighter || attacker.unitId == .tank || attacker.unitId == .healer then
        enemies.find? fun e => e.unitId == .tank && e.star == 2
      else none
    match tank2 with
    | some tank => some tank
    | none =>
      let sameLane := firstNonEmptyRow (enemies.filter (·.col == attacker.col))
      let candidates := if sameLane.isEmpty then firstNonEmptyLane enemies else sameLane
      if attacker.unitId == .ranger then lowestHp localeCompare candidates
      else (byPositionThenId localeCompare candidates).head?

end AutoChess.Game
