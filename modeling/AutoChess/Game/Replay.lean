/-
The log as an account of the battle. `effect` is what an event says of
itself: the HP it sets, the unit it kills. Folded over the events of an
action it leads from the board before the action to the board after it
(`replay_unitAct`), so the log's own deltas and the snapshots the engine
attaches agree wherever an action ends.
-/
import AutoChess.Game.Health

namespace AutoChess.Game

/-! ## What an event says -/

/-- Rewrites the snapshot of one unit. -/
def onUnit (id : String) (f : UnitSnapshot → UnitSnapshot) (board : List UnitSnapshot) : List UnitSnapshot :=
  board.map fun s => if s.instanceId == id then f s else s

/-- The delta fields of an event. -/
def effect : EventKind → List UnitSnapshot → List UnitSnapshot
  | .attack _ _ _ target _ targetHpAfter => onUnit target.instanceId ({ · with hp := targetHpAfter })
  | .death _ _ unit => onUnit unit.instanceId ({ · with hp := 0, alive := false })
  | .revive _ _ unit hpAfter => onUnit unit.instanceId ({ · with hp := hpAfter })
  | .heal _ _ target _ _ targetHpAfter => onUnit target.instanceId ({ · with hp := targetHpAfter })
  | .lifesteal _ _ unit _ hpAfter => onUnit unit.instanceId ({ · with hp := hpAfter })
  | .pierce _ _ _ target damage => onUnit target.instanceId fun s => { s with hp := max 0 (s.hp - damage) }
  | .slow _ _ _ _ | .cycleEnd _ | .battleEnd _ _ => id

/-- Folds the deltas of the events over a board. -/
def replay (kinds : List EventKind) (board : List UnitSnapshot) : List UnitSnapshot :=
  kinds.foldl (fun board kind => effect kind board) board

@[simp] theorem replay_nil (board : List UnitSnapshot) : replay [] board = board := rfl

@[simp] theorem replay_cons (kind : EventKind) (kinds : List EventKind) (board : List UnitSnapshot) :
    replay (kind :: kinds) board = replay kinds (effect kind board) := rfl

theorem replay_append (a b : List EventKind) (board : List UnitSnapshot) :
    replay (a ++ b) board = replay b (replay a board) := List.foldl_append

theorem onUnit_onUnit (id : String) {f g : UnitSnapshot → UnitSnapshot}
    (hf : ∀ s, (f s).instanceId = s.instanceId) (board : List UnitSnapshot) :
    onUnit id g (onUnit id f board) = onUnit id (g ∘ f) board := by
  simp only [onUnit, List.map_map]
  refine List.map_congr_left fun s _ => ?_
  by_cases h : s.instanceId = id
  · simp [h, hf]
  · simp [h]

/-- A write to the boards, seen on their snapshot. -/
theorem snapshot_update {sim : BattleSim} {id : String} {f : UnitInstance → UnitInstance}
    {g : UnitSnapshot → UnitSnapshot}
    (h : ∀ u ∈ sim.units, u.instanceId = id → snapshotUnit (f u) = g (snapshotUnit u)) :
    snapshotAllUnits (sim.update id f) = onUnit id g (snapshotAllUnits sim) := by
  have hunits : (sim.update id f).units = sim.units.map fun u => if u.instanceId == id then f u else u := by
    simp [BattleSim.units, BattleSim.update]
  simp only [snapshotAllUnits, hunits, onUnit, List.map_map]
  refine List.map_congr_left fun u hu => ?_
  have hsame : (snapshotUnit u).instanceId = u.instanceId := rfl
  by_cases hid : u.instanceId = id
  · simp [hsame, hid, h u hu hid]
  · simp [hsame, hid]

/-- A pass over the boards that no snapshot shows. -/
theorem snapshot_each {sim : BattleSim} {f : UnitInstance → UnitInstance}
    (h : ∀ u, snapshotUnit (f u) = snapshotUnit u) :
    snapshotAllUnits (sim.each f) = snapshotAllUnits sim := by
  simp only [snapshotAllUnits, units_each, List.map_map]
  exact List.map_congr_left fun u _ => h u

/-! ## The effects of an action -/

section
variable {localeCompare : String → String → Int} {sim : BattleSim} {cycle tick : Nat}

/-- The two agree on everything a hit depends on. -/
structure SameHit (u v : UnitInstance) : Prop where
  hp : v.hp = u.hp
  maxHp : v.maxHp = u.maxHp
  revives : ∀ dmg, revives v dmg = revives u dmg

theorem replay_applyDamage {target : UnitInstance} (dmg : Int) (source : UnitInstance) (cycle tick : Nat)
    (hsame : ∀ u ∈ sim.units, u.instanceId = target.instanceId → SameHit target u) :
    replay (applyDamage target dmg source sim cycle tick).2 (snapshotAllUnits sim) =
      snapshotAllUnits (applyDamage target dmg source sim cycle tick).1 := by
  simp only [applyDamage, damageEvents]
  by_cases hrev : revives target dmg = true
  · rw [if_pos hrev]
    refine (snapshot_update fun u hu hid => ?_).symm
    have h := hsame u hu hid
    simp [damaged, h.revives, hrev, snapshotUnit, h.maxHp]
  rw [if_neg hrev]
  by_cases hdies : target.hp - dmg ≤ 0
  · rw [if_pos hdies, replay_cons, replay_cons, replay_nil]
    show onUnit _ _ (onUnit _ _ _) = _
    rw [onUnit_onUnit]
    · refine (snapshot_update fun u hu hid => ?_).symm
      have h := hsame u hu hid
      simp [damaged, h.revives, hrev, h.hp, hdies, snapshotUnit]
    · exact fun _ => rfl
  · rw [if_neg hdies]
    refine (snapshot_update fun u hu hid => ?_).symm
    have h := hsame u hu hid
    simp [damaged, h.revives, hrev, h.hp, hdies, snapshotUnit]

theorem replay_applyLifesteal {fighter : String} {dmg : Int} (hok : sim.Ok) :
    replay (applyLifesteal fighter dmg sim cycle tick).2 (snapshotAllUnits sim) =
      snapshotAllUnits (applyLifesteal fighter dmg sim cycle tick).1 := by
  unfold applyLifesteal
  split
  · rfl
  · next u hfind =>
    obtain rfl := find_id hfind
    refine (snapshot_update fun v hv hid => ?_).symm
    obtain rfl : v = u := hok.unique hv (List.mem_of_find?_eq_some hfind) hid
    rfl

theorem replay_applyPierce {ranger primary : UnitInstance} {dmg : Int} (hok : sim.Ok) :
    replay (applyPierce ranger primary dmg sim cycle tick).2 (snapshotAllUnits sim) =
      snapshotAllUnits (applyPierce ranger primary dmg sim cycle tick).1 := by
  unfold applyPierce
  split
  · rfl
  next behind hbehind =>
  have halive := unitBehind_alive hbehind
  have hmem := mem_units _ (unitBehind_mem hbehind)
  dsimp only
  by_cases hzero : max 0 (behind.hp - pierceOf dmg) = 0
  · rw [if_pos (by simp [hzero, halive]), replay_cons, replay_cons, replay_nil]
    show onUnit _ _ (onUnit _ _ _) = _
    rw [onUnit_onUnit]
    · refine (snapshot_update fun v hv hid => ?_).symm
      obtain rfl : v = behind := hok.unique hv hmem hid
      simp [pierced, snapshotUnit, hzero]
    · exact fun _ => rfl
  · rw [if_neg (by simp [hzero])]
    refine (snapshot_update fun v hv hid => ?_).symm
    obtain rfl : v = behind := hok.unique hv hmem hid
    simp [pierced, snapshotUnit, hzero]

theorem replay_healIf {target : Option UnitInstance} {healer : UnitInstance} (hok : sim.Ok)
    (htarget : ∀ u, target = some u → u ∈ sim.units ∧ u.alive = true) :
    replay (healIf target healer sim cycle tick).2 (snapshotAllUnits sim) =
      snapshotAllUnits (healIf target healer sim cycle tick).1 := by
  unfold healIf
  split
  · rfl
  next u =>
  simp only [healOne]
  split
  · rfl
  · refine (snapshot_update fun v hv hid => ?_).symm
    obtain rfl : v = u := hok.unique hv (htarget u rfl).1 hid
    rfl

theorem replay_applyHealerSupport {healer : UnitInstance} (hok : sim.Ok) :
    replay (applyHealerSupport localeCompare healer sim cycle tick).2 (snapshotAllUnits sim) =
      snapshotAllUnits (applyHealerSupport localeCompare healer sim cycle tick).1 := by
  simp only [applyHealerSupport]
  have hfirst : Ages sim (healIf (lowestHpAlly localeCompare (unitsOf sim healer.side) none) healer sim
      cycle tick).1 := healIf_ages hok lowestHpAlly_target
  split
  · rw [replay_append, replay_healIf hok lowestHpAlly_target]
    exact replay_healIf (hfirst.ok hok) lowestHpAlly_target
  · exact replay_healIf hok lowestHpAlly_target

theorem replay_applySlow {healer target : UnitInstance} :
    replay (applySlow healer target sim cycle tick).2 (snapshotAllUnits sim) =
      snapshotAllUnits (applySlow healer target sim cycle tick).1 := by
  have hsame : snapshotAllUnits (applySlow healer target sim cycle tick).1 = snapshotAllUnits sim := by
    refine snapshot_each (f := fun u => if u.instanceId == target.instanceId then _ else u) fun u => ?_
    split <;> rfl
  exact hsame.symm

theorem snapshot_clearHealerSlows {healer : UnitInstance} :
    snapshotAllUnits (clearHealerSlows healer sim) = snapshotAllUnits sim := by
  refine snapshot_each fun u => ?_
  unfold unslowed
  split <;> rfl

/-- Whoever carries the target's id is the target, but for slows. -/
theorem pickTarget_sameHit {unit target : UnitInstance} (hok : sim.Ok)
    (ht : pickTarget localeCompare unit sim = some target) :
    (∀ u ∈ sim.units, u.instanceId = target.instanceId → SameHit target u) ∧
      ∀ u ∈ (clearHealerSlows unit sim).units, u.instanceId = target.instanceId → SameHit target u := by
  have hmem := mem_units _ (pickTarget_mem ht).1
  refine ⟨fun u hu hid => ?_, fun u hu hid => ?_⟩
  · obtain rfl := hok.unique hu hmem hid
    exact ⟨rfl, rfl, fun _ => rfl⟩
  · have hcleared : (clearHealerSlows unit sim).units = sim.units.map (unslowed unit.instanceId) :=
      units_each sim _
    rw [hcleared, List.mem_map] at hu
    obtain ⟨v, hv, rfl⟩ := hu
    have hactor := unslowed_actor unit.instanceId v
    obtain rfl := hok.unique hv hmem ((congrArg Actor.instanceId hactor).symm.trans hid)
    unfold unslowed
    split <;> exact ⟨rfl, rfl, fun _ => rfl⟩

/-- **The events of an action account for it**: their deltas lead from the
board before it to the board after it. -/
theorem replay_unitAct {unit : UnitInstance} (hok : sim.Ok) (hu : unit ∈ unitsOf sim unit.side) :
    replay (unitAct localeCompare unit sim cycle tick).2 (snapshotAllUnits sim) =
      snapshotAllUnits (unitAct localeCompare unit sim cycle tick).1 := by
  unfold unitAct
  split
  · split
    · rfl
    · next target ht =>
      have hhit := replay_applyDamage (atkFor unit.unitId unit.star) unit cycle tick
        (pickTarget_sameHit hok ht).1
      have hspares : Spares unit.instanceId sim
          (applyDamage target (atkFor unit.unitId unit.star) unit sim cycle tick).1 :=
        applyDamage_spares sim (hok.ne_enemy hu (pickTarget_mem ht).1)
      simp only
      split
      · rw [replay_append, hhit]
        exact replay_applyLifesteal (hspares.ok hok)
      · exact hhit
  · split
    · rfl
    · next target ht => exact replay_applyDamage _ _ _ _ (pickTarget_sameHit hok ht).1
  · split
    · rfl
    · next target ht =>
      have hspares : Spares unit.instanceId sim
          (applyDamage target (atkFor unit.unitId unit.star) unit sim cycle tick).1 :=
        applyDamage_spares sim (hok.ne_enemy hu (pickTarget_mem ht).1)
      simp only
      split
      · rw [replay_append, replay_applyDamage _ _ _ _ (pickTarget_sameHit hok ht).1]
        exact replay_applyPierce (hspares.ok hok)
      · exact replay_applyDamage _ _ _ _ (pickTarget_sameHit hok ht).1
  · split
    · exact replay_applyHealerSupport hok
    · next target ht =>
      have hcleared : (clearHealerSlows unit sim).Ok := clearHealerSlows_ages.ok hok
      have hspares : Spares unit.instanceId (clearHealerSlows unit sim)
          (applyDamage target (atkFor unit.unitId unit.star) unit (clearHealerSlows unit sim)
            cycle tick).1 :=
        applyDamage_spares _ (hok.ne_enemy hu (pickTarget_mem ht).1)
      have hhit := replay_applyDamage (atkFor unit.unitId unit.star) unit cycle tick
        (pickTarget_sameHit hok ht).2
      rw [snapshot_clearHealerSlows] at hhit
      simp only
      split
      · rw [replay_append, replay_append, hhit, replay_applyHealerSupport (hspares.ok hcleared)]
        exact replay_applySlow
      · rw [replay_append, hhit]
        exact replay_applyHealerSupport (hspares.ok hcleared)

end

/-! ## The whole battle -/

/-- The deltas of a stretch of the log, folded over a board. -/
def replayLog (log : List CombatEvent) (board : List UnitSnapshot) : List UnitSnapshot :=
  replay (log.map (·.kind)) board

theorem kinds_log (t : Turn) : t.log.map (·.kind) = t.kinds := by
  simp [Turn.log, attachSnapshot, Function.comp_def]

section
variable {localeCompare : String → String → Int}

/-- A chain of turns is accounted for by its log. -/
theorem Played.replayed {sim last : BattleSim} {ts : List Turn} (h : Played localeCompare sim ts last)
    (hs : sim.Sound) : replayLog (ts.flatMap (·.log)) (snapshotAllUnits sim) = snapshotAllUnits last := by
  induction h with
  | nil sim => rfl
  | @act sim last rest unit cycle tick hfind halive _ ih =>
    rw [List.flatMap_cons, replayLog, List.map_append, kinds_log, replay_append]
    have hact : replay (actTurn localeCompare unit sim cycle tick).kinds (snapshotAllUnits sim) =
        snapshotAllUnits (unitAct localeCompare unit sim cycle tick).1 :=
      replay_unitAct hs.ok (mem_of_find hs.ok hfind)
    rw [hact]
    exact ih (unitAct_keeps localeCompare unit sim cycle tick hs hfind halive).1
  | @close sim last rest cycle kind hkind _ ih =>
    rw [List.flatMap_cons, replayLog, List.map_append, kinds_log, replay_append]
    have hnone : replay (closeTurn cycle kind sim).kinds (snapshotAllUnits sim) = snapshotAllUnits sim := by
      cases kind with
      | cycleEnd cycle => rfl
      | battleEnd cycle winner => rfl
      | _ => cases hkind
    rw [hnone]
    exact ih hs

end

/-- **The log is a complete account of the battle.** It is the log of the
battle's turns, and after any turn, be it a unit's action, a `cycle_end` or
the `battle_end`, folding the deltas of all events so far over the initial
board gives the snapshot that the events of that turn carry. -/
theorem runBattle_replayed (localeCompare : String → String → Int) (battle : Battle) :
    runBattle localeCompare battle.toBattleState =
      (turns localeCompare battle.toBattleState).flatMap (·.log) ∧
    ∀ pre t post, turns localeCompare battle.toBattleState = pre ++ t :: post → ∀ e ∈ t.log,
      e.unitStates =
        replayLog ((pre ++ [t]).flatMap (·.log)) (snapshotAllUnits battle.boards) := by
  refine ⟨runBattle_turns localeCompare _, fun pre t post hturns e he => ?_⟩
  obtain ⟨last, hplayed⟩ := @turns_played localeCompare battle.toBattleState
  rw [hturns] at hplayed
  obtain ⟨hpre, hturn, -⟩ := hplayed.split
  rw [mem_log he, ← snapshot_cloneSim]
  exact ((hpre.append hturn).replayed battle.sound).symm

end AutoChess.Game
