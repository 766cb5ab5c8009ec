/-
`runBattle`: at most 30 cycles of 100 ticks. Each tick the units whose
cooldown lands on it act, in the tie-tick order; a wipe is checked at the
end of each cycle, and cycle 30 always ends the battle.

The loops of the source are recursions over the cycle and tick numbers and
over the acting units still to come. `unitAct` returns the events it
pushes, and the loop attaches the snapshot of the boards it leaves.
-/
import AutoChess.Game.Abilities

namespace AutoChess.Game

/-- The first draw of the seeded mulberry32 generator, the only one the
engine makes. -/
def makeRng (seed : UInt32) : Unit → Rat := fun _ =>
  let state := seed + 0x6d2b79f5
  let t := (state ^^^ (state >>> 15)) * (state ||| 1)
  let t := t ^^^ (t + (t ^^^ (t >>> 7)) * (t ||| 61))
  ((t ^^^ (t >>> 14)).toNat : Rat) / 4294967296

def initSideOf (state : BattleState) : Side :=
  let rng := state.rng.getD (makeRng state.roundSeed)
  if rng () < 1 / 2 then .p1 else .p2

def cloneUnit (u : UnitInstance) : UnitInstance :=
  { u with
    effectiveSpd := some (u.effectiveSpd.getD (spdFor u.unitId))
    revivedThisRound := some (u.revivedThisRound.getD false) }

def currentSpd (u : UnitInstance) : Int := u.effectiveSpd.getD (spdFor u.unitId)

def attachSnapshot (kind : EventKind) (sim : BattleSim) : CombatEvent :=
  { kind := kind, unitStates := snapshotAllUnits sim }

variable (localeCompare : String → String → Int)

/-- Tie-tick order: the init side first, then higher SPD, row, col, id. -/
def compareForTick (initSide : Side) (a b : UnitInstance) : Int :=
  if a.side != b.side then (if a.side == initSide then -1 else 1)
  else if currentSpd a != currentSpd b then currentSpd b - currentSpd a
  else if a.row != b.row then (a.row : Int) - b.row
  else if a.col != b.col then (a.col : Int) - b.col
  else localeCompare a.instanceId b.instanceId

def orderForTick (units : List UnitInstance) (initSide : Side) : List UnitInstance :=
  sortBy (compareForTick localeCompare initSide) units

def unitAct (unit : UnitInstance) (sim : BattleSim) (cycle tick : Nat) :
    BattleSim × List EventKind :=
  let dmg := atkFor unit.unitId unit.star
  match unit.unitId with
  | .fighter =>
    match pickTarget localeCompare unit sim with
    | none => (sim, [])
    | some target =>
      let hit := applyDamage target dmg unit sim cycle tick
      if dmg > 0 && unit.star ≥ 1 then
        let steal := applyLifesteal unit.instanceId dmg hit.1 cycle tick
        (steal.1, hit.2 ++ steal.2)
      else hit
  | .tank =>
    match pickTarget localeCompare unit sim with
    | none => (sim, [])
    | some target => applyDamage target dmg unit sim cycle tick
  | .ranger =>
    match pickTarget localeCompare unit sim with
    | none => (sim, [])
    | some target =>
      let hit := applyDamage target dmg unit sim cycle tick
      if unit.star == 1 then
        let pierce := applyPierce unit target dmg hit.1 cycle tick
        (pierce.1, hit.2 ++ pierce.2)
      else hit
  | .healer =>
    match pickTarget localeCompare unit sim with
    | none => applyHealerSupport localeCompare unit sim cycle tick
    | some target =>
      let hit := applyDamage target dmg unit (clearHealerSlows unit sim) cycle tick
      let support := applyHealerSupport localeCompare unit hit.1 cycle tick
      if unit.star ≥ 1 then
        let slow := applySlow unit target support.1 cycle tick
        (slow.1, hit.2 ++ support.2 ++ slow.2)
      else (support.1, hit.2 ++ support.2)

/-- The acting units of one tick, in order; one killed earlier in the same
tick is skipped. -/
def actAll (cycle tick : Nat) : List String → BattleSim → BattleSim × List CombatEvent
  | [], sim => (sim, [])
  | id :: rest, sim =>
    match sim.find id with
    | none => actAll cycle tick rest sim
    | some unit =>
      if unit.alive then
        let act := unitAct localeCompare unit sim cycle tick
        let more := actAll cycle tick rest act.1
        (more.1, act.2.map (attachSnapshot · act.1) ++ more.2)
      else actAll cycle tick rest sim

def acting (initSide : Side) (tick : Nat) (sim : BattleSim) : List UnitInstance :=
  orderForTick localeCompare
    (sim.units.filter fun u => u.alive && actsOnTick (currentSpd u) tick) initSide

def runTicks (initSide : Side) (cycle : Nat) : List Nat → BattleSim → BattleSim × List CombatEvent
  | [], sim => (sim, [])
  | tick :: ticks, sim =>
    let now := actAll localeCompare cycle tick
      ((acting localeCompare initSide tick sim).map (·.instanceId)) sim
    let later := runTicks initSide cycle ticks now.1
    (later.1, now.2 ++ later.2)

/-- A side has an alive unit. -/
def standing (sim : BattleSim) (side : Side) : Bool := (unitsOf sim side).any (·.alive)

/-- The verdict at the end of a cycle that wiped a side. -/
def winnerOf (p1Alive p2Alive : Bool) : Option Side :=
  if !p1Alive && !p2Alive then none else if !p1Alive then some .p2 else some .p1

def runCycles (initSide : Side) : List Nat → BattleSim → List CombatEvent
  | [], sim => [attachSnapshot (.battleEnd MAX_CYCLES none) sim]
  | cycle :: cycles, sim =>
    let played := runTicks localeCompare initSide cycle (List.range' 1 TICKS_PER_CYCLE) sim
    let p1Alive := standing played.1 .p1
    let p2Alive := standing played.1 .p2
    played.2 ++ attachSnapshot (.cycleEnd cycle) played.1 ::
      (if !p1Alive || !p2Alive then
        [attachSnapshot (.battleEnd cycle (winnerOf p1Alive p2Alive)) played.1]
      else runCycles initSide cycles played.1)

def cloneSim (state : BattleState) : BattleSim :=
  { p1Units := state.p1Units.map cloneUnit, p2Units := state.p2Units.map cloneUnit }

def runBattle (state : BattleState) : List CombatEvent :=
  runCycles localeCompare (initSideOf state) (List.range' 1 MAX_CYCLES) (cloneSim state)

end AutoChess.Game
