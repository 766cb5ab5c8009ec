/-
Unit stats, battle limits and ability rates.

The source's fractional rates are only ever applied to small integers
under a `floor` or a `round`, where the double product and the exact one
agree; they are kept as exact integer ratios.
-/
import AutoChess.Game.Types

namespace AutoChess.Game

structure UnitBaseStats where
  hp : Int
  atk : Int
  spd : Int
  deriving DecidableEq, Repr

def UNIT_BASE_STATS : UnitId → UnitBaseStats
  | .fighter => { hp := 100, atk := 15, spd := 20 }
  | .healer => { hp := 70, atk := 6, spd := 50 }
  | .ranger => { hp := 60, atk := 12, spd := 67 }
  | .tank => { hp := 150, atk := 8, spd := 0 }

def MAX_CYCLES : Nat := 30

def TICKS_PER_CYCLE : Nat := 100

/-- `Math.round(spd * 0.7)`, to the nearest integer, halves up. -/
def slowedSpd (spd : Int) : Int := (7 * spd + 5) / 10

/-- `Math.floor(dmg * LIFESTEAL_RATE[star])`: 0, 5 % and 10 %. -/
def lifestealOf (dmg : Int) : Star → Int
  | 0 => 0
  | 1 => 5 * dmg / 100
  | 2 => 10 * dmg / 100

/-- `Math.floor(dmg * PIERCE_RATE)`. -/
def pierceOf (dmg : Int) : Int := dmg / 10

def HEAL_AMOUNT : Int := 10

/-- `Math.floor(maxHp * REVIVE_HP_FRACTION)`. -/
def reviveHp (maxHp : Int) : Int := maxHp / 2

/-- ATK ×1 / ×1.5 / ×2 by star, floored. -/
def atkFor (unitId : UnitId) : Star → Int
  | 0 => (UNIT_BASE_STATS unitId).atk
  | 1 => (UNIT_BASE_STATS unitId).atk * 3 / 2
  | 2 => (UNIT_BASE_STATS unitId).atk * 2

def spdFor (unitId : UnitId) : Int := (UNIT_BASE_STATS unitId).spd

/-- A unit acts every `cooldown` ticks. -/
def actsOnTick (spd : Int) (tick : Nat) : Bool :=
  let cooldown := TICKS_PER_CYCLE - spd
  if cooldown ≤ 0 then tick == TICKS_PER_CYCLE else (tick : Int) % cooldown == 0

end AutoChess.Game
