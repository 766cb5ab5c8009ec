/-
Ability effects. Each is called by the engine after the primary
`applyDamage`, on the units as they are then.
-/
import AutoChess.Game.Damage
import AutoChess.Game.Targeting

namespace AutoChess.Game

/-- Fighter 1★/2★ lifesteal. -/
def lifestealHeal (fighter : UnitInstance) (dmg : Int) : Int :=
  max 0 (min (lifestealOf dmg fighter.star) (fighter.maxHp - fighter.hp))

def applyLifesteal (fighter : String) (dmg : Int) (sim : BattleSim) (cycle tick : Nat) :
    BattleSim × List EventKind :=
  match sim.find fighter with
  | none => (sim, [])
  | some u =>
    let heal := lifestealHeal u dmg
    (sim.update fighter fun v => { v with hp := v.hp + heal },
      [.lifesteal cycle tick u.actor heal (u.hp + heal)])

/-- The alive enemy directly behind the primary target: same column,
`row + 1` only. -/
def unitBehind (ranger primaryTarget : UnitInstance) (sim : BattleSim) : Option UnitInstance :=
  let behindRow := primaryTarget.row + 1
  if behindRow > 2 then none
  else (unitsOf sim (enemySideOf ranger.side)).find? fun u =>
    u.alive && u.col == primaryTarget.col && u.row == behindRow

/-- The unit behind after the pierce. -/
def pierced (dmg : Int) (behind : UnitInstance) : UnitInstance :=
  let hp := max 0 (behind.hp - dmg)
  { behind with hp := hp, alive := behind.alive && hp != 0 }

/-- Ranger 1★ pierce. -/
def applyPierce (ranger primaryTarget : UnitInstance) (primaryDamage : Int) (sim : BattleSim)
    (cycle tick : Nat) : BattleSim × List EventKind :=
  match unitBehind ranger primaryTarget sim with
  | none => (sim, [])
  | some behind =>
    let dmg := pierceOf primaryDamage
    let hit := EventKind.pierce cycle tick ranger.actor behind.actor dmg
    (sim.update behind.instanceId (pierced dmg),
      if max 0 (behind.hp - dmg) == 0 && behind.alive then [hit, .death cycle tick behind.actor]
      else [hit])

variable (localeCompare : String → String → Int)

/-- Lowest-HP alive ally, ties broken by instanceId; `exclude` is skipped. -/
def lowestHpAlly (allies : List UnitInstance) (exclude : Option UnitInstance) :
    Option UnitInstance :=
  match allies.filter fun u => u.alive && some u.instanceId != exclude.map (·.instanceId) with
  | [] => none
  | u :: rest => some (rest.foldl (fun a b =>
      if b.hp != a.hp then (if b.hp < a.hp then b else a)
      else if localeCompare b.instanceId a.instanceId < 0 then b else a) u)

def healAmount (target : UnitInstance) : Int := min HEAL_AMOUNT (target.maxHp - target.hp)

def healOne (target healer : UnitInstance) (sim : BattleSim) (cycle tick : Nat) :
    BattleSim × List EventKind :=
  let amount := healAmount target
  if amount ≤ 0 then (sim, [])
  else
    (sim.update target.instanceId fun u => { u with hp := u.hp + amount },
      [.heal cycle tick target.actor healer.actor amount (target.hp + amount)])

/-- Heals `target` when there is one. -/
def healIf (target : Option UnitInstance) (healer : UnitInstance) (sim : BattleSim)
    (cycle tick : Nat) : BattleSim × List EventKind :=
  match target with
  | none => (sim, [])
  | some u => healOne u healer sim cycle tick

/-- Healer support: heals the lowest-HP alive ally, and the next one at 2★. -/
def applyHealerSupport (healer : UnitInstance) (sim : BattleSim) (cycle tick : Nat) :
    BattleSim × List EventKind :=
  let first := lowestHpAlly localeCompare (unitsOf sim healer.side) none
  let healed := healIf first healer sim cycle tick
  if healer.star == 2 then
    let second := lowestHpAlly localeCompare (unitsOf healed.1 healer.side) first
    let again := healIf second healer healed.1 cycle tick
    (again.1, healed.2 ++ again.2)
  else healed

/-- The unit under this healer's slow. -/
def slowed (healer : String) (target : UnitInstance) : UnitInstance :=
  { target with
    effectiveSpd := some (max 0 (slowedSpd (spdFor target.unitId)))
    slowActive := some true
    slowUntilHealerAct := some healer }

/-- Healer 1★+ slow. -/
def applySlow (healer target : UnitInstance) (sim : BattleSim) (cycle tick : Nat) :
    BattleSim × List EventKind :=
  (sim.update target.instanceId (slowed healer.instanceId),
    [.slow cycle tick target.actor healer.actor])

/-- The unit with this healer's slow, if any, removed. -/
def unslowed (healer : String) (u : UnitInstance) : UnitInstance :=
  if u.slowUntilHealerAct == some healer then
    { u with effectiveSpd := some (spdFor u.unitId), slowActive := some false,
             slowUntilHealerAct := none }
  else u

def clearHealerSlows (healer : UnitInstance) (sim : BattleSim) : BattleSim :=
  { p1Units := sim.p1Units.map (unslowed healer.instanceId)
    p2Units := sim.p2Units.map (unslowed healer.instanceId) }

end AutoChess.Game
