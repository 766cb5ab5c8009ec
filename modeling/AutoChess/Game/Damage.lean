/-
`applyDamage`: a hit on one unit. A lethal hit on a 1★ or 2★ tank that has
not revived this battle is a `revive` and nothing else; any other hit
subtracts HP, reports the `death` it causes and then the `attack`.
-/
import AutoChess.Game.Constants

namespace AutoChess.Game

/-- Whether this hit triggers the target's revive. -/
def revives (target : UnitInstance) (dmg : Int) : Bool :=
  dmg ≥ target.hp && target.unitId == .tank && target.star ≥ 1 &&
    target.revivedThisRound != some true

/-- The target after the hit. -/
def damaged (dmg : Int) (target : UnitInstance) : UnitInstance :=
  if revives target dmg then
    { target with hp := reviveHp target.maxHp, revivedThisRound := some true }
  else if target.hp - dmg ≤ 0 then
    { target with hp := 0, alive := false }
  else
    { target with hp := target.hp - dmg }

/-- The events of the hit. -/
def damageEvents (target : UnitInstance) (dmg : Int) (source : UnitInstance) (cycle tick : Nat) :
    List EventKind :=
  if revives target dmg then
    [.revive cycle tick target.actor (reviveHp target.maxHp)]
  else if target.hp - dmg ≤ 0 then
    [.death cycle tick target.actor, .attack cycle tick source.actor target.actor dmg 0]
  else
    [.attack cycle tick source.actor target.actor dmg (target.hp - dmg)]

def applyDamage (target : UnitInstance) (dmg : Int) (source : UnitInstance) (sim : BattleSim)
    (cycle tick : Nat) : BattleSim × List EventKind :=
  (sim.update target.instanceId (damaged dmg), damageEvents target dmg source cycle tick)

end AutoChess.Game
