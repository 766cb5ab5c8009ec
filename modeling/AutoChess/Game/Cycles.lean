/-
The cycles of a battle. A cycle's number is written on its events and does
nothing else (`runTicks_inCycle`); so a board that one cycle leaves as it
found it is played the same way to the end of the battle
(`runCycles_steady`).
-/
import AutoChess.Game.Engine
import Mathlib.Tactic.Ring

namespace AutoChess.Game

/-- The event as it would be written in another cycle. -/
def EventKind.inCycle (cycle : Nat) : EventKind → EventKind
  | .attack _ tick attacker target damage hp => .attack cycle tick attacker target damage hp
  | .death _ tick unit => .death cycle tick unit
  | .revive _ tick unit hp => .revive cycle tick unit hp
  | .heal _ tick target healer amount hp => .heal cycle tick target healer amount hp
  | .lifesteal _ tick unit amount hp => .lifesteal cycle tick unit amount hp
  | .pierce _ tick attacker target damage => .pierce cycle tick attacker target damage
  | .slow _ tick target healer => .slow cycle tick target healer
  | .cycleEnd _ => .cycleEnd cycle
  | .battleEnd _ winner => .battleEnd cycle winner

def CombatEvent.inCycle (cycle : Nat) (e : CombatEvent) : CombatEvent := { e with kind := e.kind.inCycle cycle }

section
variable (localeCompare : String → String → Int) (cycle cycle' : Nat)

/-! ## One action -/

theorem applyDamage_inCycle (target : UnitInstance) (dmg : Int) (source : UnitInstance) (sim : BattleSim)
    (tick : Nat) : applyDamage target dmg source sim cycle' tick =
      ((applyDamage target dmg source sim cycle tick).1,
        (applyDamage target dmg source sim cycle tick).2.map (·.inCycle cycle')) := by
  unfold applyDamage damageEvents
  split
  · rfl
  · split <;> rfl

theorem applyLifesteal_inCycle (fighter : String) (dmg : Int) (sim : BattleSim) (tick : Nat) :
    applyLifesteal fighter dmg sim cycle' tick =
      ((applyLifesteal fighter dmg sim cycle tick).1,
        (applyLifesteal fighter dmg sim cycle tick).2.map (·.inCycle cycle')) := by
  unfold applyLifesteal
  split <;> rfl

theorem applyPierce_inCycle (ranger target : UnitInstance) (dmg : Int) (sim : BattleSim) (tick : Nat) :
    applyPierce ranger target dmg sim cycle' tick =
      ((applyPierce ranger target dmg sim cycle tick).1,
        (applyPierce ranger target dmg sim cycle tick).2.map (·.inCycle cycle')) := by
  unfold applyPierce
  split
  · rfl
  · dsimp only
    split <;> rfl

theorem healIf_inCycle (target : Option UnitInstance) (healer : UnitInstance) (sim : BattleSim) (tick : Nat) :
    healIf target healer sim cycle' tick =
      ((healIf target healer sim cycle tick).1,
        (healIf target healer sim cycle tick).2.map (·.inCycle cycle')) := by
  unfold healIf healOne
  split
  · rfl
  · dsimp only
    split <;> rfl

theorem applyHealerSupport_inCycle (healer : UnitInstance) (sim : BattleSim) (tick : Nat) :
    applyHealerSupport localeCompare healer sim cycle' tick =
      ((applyHealerSupport localeCompare healer sim cycle tick).1,
        (applyHealerSupport localeCompare healer sim cycle tick).2.map (·.inCycle cycle')) := by
  unfold applyHealerSupport
  simp only [healIf_inCycle cycle cycle']
  split <;> simp

theorem applySlow_inCycle (healer target : UnitInstance) (sim : BattleSim) (tick : Nat) :
    applySlow healer target sim cycle' tick =
      ((applySlow healer target sim cycle tick).1,
        (applySlow healer target sim cycle tick).2.map (·.inCycle cycle')) := rfl

theorem unitAct_inCycle (unit : UnitInstance) (sim : BattleSim) (tick : Nat) :
    unitAct localeCompare unit sim cycle' tick =
      ((unitAct localeCompare unit sim cycle tick).1,
        (unitAct localeCompare unit sim cycle tick).2.map (·.inCycle cycle')) := by
  unfold unitAct
  simp only [applyDamage_inCycle cycle cycle', applyLifesteal_inCycle cycle cycle', applyPierce_inCycle cycle cycle',
    applyHealerSupport_inCycle localeCompare cycle cycle', applySlow_inCycle cycle cycle']
  split <;> split <;> first | rfl | (split <;> simp)

/-! ## Whole cycles -/

theorem actAll_inCycle (tick : Nat) : ∀ (ids : List String) (sim : BattleSim),
    actAll localeCompare cycle' tick ids sim =
      ((actAll localeCompare cycle tick ids sim).1,
        (actAll localeCompare cycle tick ids sim).2.map (·.inCycle cycle'))
  | [], _ => rfl
  | id :: ids, sim => by
    unfold actAll
    split
    · exact actAll_inCycle tick ids sim
    · split
      · rw [unitAct_inCycle localeCompare cycle cycle']
        dsimp only
        rw [actAll_inCycle tick ids]
        simp [attachSnapshot, CombatEvent.inCycle]
      · exact actAll_inCycle tick ids sim

/-- **The number of a cycle only labels its events.** -/
theorem runTicks_inCycle (initSide : Side) : ∀ (ticks : List Nat) (sim : BattleSim),
    runTicks localeCompare initSide cycle' ticks sim =
      ((runTicks localeCompare initSide cycle ticks sim).1,
        (runTicks localeCompare initSide cycle ticks sim).2.map (·.inCycle cycle'))
  | [], _ => rfl
  | tick :: ticks, sim => by
    unfold runTicks
    simp only [actAll_inCycle localeCompare cycle cycle']
    rw [runTicks_inCycle initSide ticks]
    simp

section
variable {localeCompare cycle} {initSide : Side} {sim sim' : BattleSim} {seen : CombatEvent → Bool}

/-- Events counted whatever cycle they are labelled with. -/
structure Unlabelled (seen : CombatEvent → Bool) : Prop where
  label : ∀ c e, seen (CombatEvent.inCycle c e) = seen e
  cycleEnd : ∀ c sim, seen (attachSnapshot (.cycleEnd c) sim) = false
  battleEnd : ∀ c winner sim, seen (attachSnapshot (.battleEnd c winner) sim) = false

/-- One cycle that both sides survive, and the rest. -/
theorem runCycles_countP (hseen : Unlabelled seen)
    (hplayed : (runTicks localeCompare initSide cycle (List.range' 1 TICKS_PER_CYCLE) sim).1 = sim')
    (hp1 : standing sim' .p1 = true) (hp2 : standing sim' .p2 = true) (c : Nat) (cycles : List Nat) :
    (runCycles localeCompare initSide (c :: cycles) sim).countP seen =
      (runTicks localeCompare initSide cycle (List.range' 1 TICKS_PER_CYCLE) sim).2.countP seen +
        (runCycles localeCompare initSide cycles sim').countP seen := by
  have hrun := runTicks_inCycle localeCompare cycle c initSide (List.range' 1 TICKS_PER_CYCLE) sim
  rw [hplayed] at hrun
  have hcount : ∀ events : List CombatEvent, (events.map (·.inCycle c)).countP seen = events.countP seen := by
    intro events
    rw [List.countP_map]
    exact List.countP_congr fun e _ => by simp [hseen.label]
  conv_lhs => unfold runCycles
  simp only [hrun, hp1, hp2]
  simp only [Bool.not_true, Bool.or_self, Bool.false_eq_true, if_false, List.countP_append, List.countP_cons,
    hseen.cycleEnd, hcount, Nat.add_zero]

/-- **A board that a cycle leaves as it found it is played alike to the end**:
each cycle adds the same number of events that `seen` counts. -/
theorem runCycles_steady (hseen : Unlabelled seen)
    (hsteady : (runTicks localeCompare initSide cycle (List.range' 1 TICKS_PER_CYCLE) sim).1 = sim)
    (hp1 : standing sim .p1 = true) (hp2 : standing sim .p2 = true) (cycles : List Nat) :
    (runCycles localeCompare initSide cycles sim).countP seen = cycles.length *
      (runTicks localeCompare initSide cycle (List.range' 1 TICKS_PER_CYCLE) sim).2.countP seen := by
  induction cycles with
  | nil => simp [runCycles, hseen.battleEnd]
  | cons c cycles ih =>
    rw [runCycles_countP hseen hsteady hp1 hp2, ih, List.length_cons]
    ring

end

end

end AutoChess.Game
