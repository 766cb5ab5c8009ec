/-
Exchanging the seats. `exchanged` puts each team on the other side; every
function of the engine commutes with it, since targets, heals and pierces
are chosen within one side and the tick order compares sides only through
the init side. So the battle with exchanged seats and the opposite init side
is the same battle, told from the other side.
-/
import AutoChess.Game.TwoRuns
import AutoChess.Game.Snapshots
import AutoChess.Game.Targets

namespace AutoChess.Game

/-- The unit on the other side. -/
@[simps]
def UnitInstance.flip (u : UnitInstance) : UnitInstance := { u with side := enemySideOf u.side }

def Actor.flip (a : Actor) : Actor := { a with side := enemySideOf a.side }

def UnitSnapshot.flip (s : UnitSnapshot) : UnitSnapshot := { s with side := enemySideOf s.side }

/-- The event with every side it names flipped. -/
def EventKind.flip : EventKind → EventKind
  | .attack c t attacker target dmg hp => .attack c t attacker.flip target.flip dmg hp
  | .death c t unit => .death c t unit.flip
  | .revive c t unit hp => .revive c t unit.flip hp
  | .heal c t target healer amount hp => .heal c t target.flip healer.flip amount hp
  | .lifesteal c t unit amount hp => .lifesteal c t unit.flip amount hp
  | .pierce c t attacker target dmg => .pierce c t attacker.flip target.flip dmg
  | .slow c t target healer => .slow c t target.flip healer.flip
  | .cycleEnd c => .cycleEnd c
  | .battleEnd c winner => .battleEnd c (winner.map enemySideOf)

/-- The units of p1 before those of p2, each side in its order. -/
def p1First (board : List UnitSnapshot) : List UnitSnapshot :=
  board.filter (·.side == .p1) ++ board.filter (·.side == .p2)

def CombatEvent.flip (e : CombatEvent) : CombatEvent :=
  { kind := e.kind.flip, unitStates := p1First (e.unitStates.map (·.flip)) }

/-- Each team on the other side. -/
def exchanged (sim : BattleSim) : BattleSim :=
  { p1Units := sim.p2Units.map (·.flip), p2Units := sim.p1Units.map (·.flip) }

@[simp] theorem flip_row (u : UnitInstance) : u.flip.row = u.row := rfl

@[simp] theorem flip_col (u : UnitInstance) : u.flip.col = u.col := rfl

@[simp] theorem flip_actor (u : UnitInstance) : u.flip.actor = u.actor.flip := rfl

@[simp] theorem enemySideOf_enemySideOf (side : Side) : enemySideOf (enemySideOf side) = side := by
  cases side <;> rfl

@[simp] theorem unitsOf_exchanged (sim : BattleSim) (side : Side) :
    unitsOf (exchanged sim) side = (unitsOf sim (enemySideOf side)).map (·.flip) := by
  cases side <;> rfl

theorem flip_keepsHeal : KeepsHeal UnitInstance.flip := by
  constructor <;> intro u <;> rfl

theorem units_exchanged (sim : BattleSim) :
    (exchanged sim).units = (sim.p2Units ++ sim.p1Units).map (·.flip) := by
  simp [BattleSim.units, exchanged]

/-- A write to the exchanged boards. -/
theorem exchanged_update {sim : BattleSim} {id : String} {f f' : UnitInstance → UnitInstance}
    (h : ∀ u, f' u.flip = (f u).flip) : (exchanged sim).update id f' = exchanged (sim.update id f) := by
  have hwrite : ∀ units : List UnitInstance,
      (units.map (·.flip)).map (fun u => if u.instanceId == id then f' u else u) =
        (units.map fun u => if u.instanceId == id then f u else u).map (·.flip) := by
    intro units
    rw [List.map_map, List.map_map]
    refine List.map_congr_left fun u _ => ?_
    by_cases hid : u.instanceId = id
    · simp [hid, h]
    · simp [hid]
  simp only [exchanged, BattleSim.update, hwrite]

/-! ## Targeting -/

section
variable {localeCompare : String → String → Int}

theorem byPositionThenId_flip (units : List UnitInstance) :
    byPositionThenId localeCompare (units.map (·.flip)) =
      (byPositionThenId localeCompare units).map (·.flip) :=
  (List.map_insertionSort _ _ UnitInstance.flip units fun _ _ _ _ => Iff.rfl).symm

theorem lowestHp_flip (units : List UnitInstance) :
    lowestHp localeCompare (units.map (·.flip)) = (lowestHp localeCompare units).map (·.flip) := by
  unfold lowestHp
  rw [byPositionThenId_flip]
  cases byPositionThenId localeCompare units with
  | nil => rfl
  | cons u rest =>
    simp only [List.map_cons, List.foldl_map, Option.map_some]
    refine congrArg some (List.foldl_hom UnitInstance.flip fun a b => ?_)
    simp only [UnitInstance.flip_hp, apply_ite UnitInstance.flip]

theorem filter_flip {p : UnitInstance → Bool} (hp : ∀ u, p u.flip = p u) (units : List UnitInstance) :
    (units.map (·.flip)).filter p = (units.filter p).map (·.flip) := by
  rw [List.filter_map]
  exact congrArg _ (List.filter_congr fun u _ => hp u)

/-- The first group that is not empty, among renamed groups. -/
theorem firstGroup_flip {groups groups' : List (List UnitInstance)}
    (h : groups' = groups.map (List.map UnitInstance.flip)) :
    ((groups'.find? (!·.isEmpty)).getD []) = ((groups.find? (!·.isEmpty)).getD []).map (·.flip) := by
  rw [h, List.find?_map]
  have hempty : ((!·.isEmpty) ∘ List.map UnitInstance.flip) = fun l : List UnitInstance => !l.isEmpty := by
    funext l
    cases l <;> rfl
  rw [hempty]
  cases groups.find? (!·.isEmpty) <;> rfl

theorem firstNonEmptyRow_flip (units : List UnitInstance) :
    firstNonEmptyRow (units.map (·.flip)) = (firstNonEmptyRow units).map (·.flip) := by
  refine firstGroup_flip ?_
  rw [List.map_map]
  exact List.map_congr_left fun row _ => filter_flip (fun _ => rfl) units

theorem firstNonEmptyLane_flip (units : List UnitInstance) :
    firstNonEmptyLane (units.map (·.flip)) = (firstNonEmptyLane units).map (·.flip) := by
  refine firstGroup_flip ?_
  rw [List.map_map]
  refine List.map_congr_left fun col _ => ?_
  rw [filter_flip (fun _ => rfl), firstNonEmptyRow_flip]
  rfl

theorem baseCandidates_flip (attacker : UnitInstance) (enemies : List UnitInstance) :
    baseCandidates attacker.flip (enemies.map (·.flip)) = (baseCandidates attacker enemies).map (·.flip) := by
  unfold baseCandidates
  dsimp only
  rw [filter_flip (fun _ => rfl), firstNonEmptyRow_flip, firstNonEmptyLane_flip, List.isEmpty_map]
  exact (apply_ite (List.map UnitInstance.flip) _ _ _).symm

/-- **The target of a unit is the same one, seen from the other side.** -/
theorem pickTarget_flip (attacker : UnitInstance) (sim : BattleSim) :
    pickTarget localeCompare attacker.flip (exchanged sim) =
      (pickTarget localeCompare attacker sim).map (·.flip) := by
  have henemies : aliveEnemies attacker.flip (exchanged sim) =
      (aliveEnemies attacker sim).map (·.flip) := by
    unfold aliveEnemies
    rw [unitsOf_exchanged, filter_flip (fun _ => rfl), UnitInstance.flip_side, enemySideOf_enemySideOf]
  have htank : ∀ enemies : List UnitInstance,
      (enemies.map (·.flip)).find? isTank2 = (enemies.find? isTank2).map (·.flip) := fun _ => List.find?_map
  rw [pickTarget_eq, pickTarget_eq, henemies]
  dsimp only
  rw [List.isEmpty_map, lowestHp_flip, baseCandidates_flip, lowestHp_flip, byPositionThenId_flip, htank,
    List.head?_map]
  simp only [UnitInstance.flip_unitId, UnitInstance.flip_star, show steered attacker.flip = steered attacker from rfl]
  split
  · rfl
  split
  · rfl
  rw [Option.map_or]
  congr 1
  · split <;> rfl
  · split <;> rfl

/-! ## The effects of an action -/

theorem unitAct_pair {a a' : BattleSim × List EventKind} (hsim : a'.1 = exchanged a.1)
    (hkinds : a'.2 = a.2.map (·.flip)) : a' = (exchanged a.1, a.2.map (·.flip)) := Prod.ext hsim hkinds

theorem damaged_flip (dmg : Int) (u : UnitInstance) : damaged dmg u.flip = (damaged dmg u).flip := by
  unfold damaged
  rw [show revives u.flip dmg = revives u dmg from rfl]
  split
  · rfl
  · rw [UnitInstance.flip_hp]
    split <;> rfl

theorem damageEvents_flip (target source : UnitInstance) (dmg : Int) (cycle tick : Nat) :
    damageEvents target.flip dmg source.flip cycle tick =
      (damageEvents target dmg source cycle tick).map (·.flip) := by
  unfold damageEvents
  rw [show revives target.flip dmg = revives target dmg from rfl]
  split
  · rfl
  · rw [UnitInstance.flip_hp]
    split <;> rfl

variable (target source healer : UnitInstance) (dmg : Int) (sim : BattleSim) (cycle tick : Nat)

theorem applyDamage_flip : applyDamage target.flip dmg source.flip (exchanged sim) cycle tick =
    (exchanged (applyDamage target dmg source sim cycle tick).1,
      (applyDamage target dmg source sim cycle tick).2.map (·.flip)) :=
  unitAct_pair (exchanged_update (damaged_flip dmg)) (damageEvents_flip target source dmg cycle tick)

variable {sim} in
/-- Ids find the same units on the exchanged boards. -/
theorem find_exchanged (hok : sim.Ok) (id : String) :
    (exchanged sim).find id = (sim.find id).map (·.flip) := by
  have hperm : (sim.p2Units ++ sim.p1Units).Perm sim.units := List.perm_append_comm
  have hsearch : ((fun u : UnitInstance => u.instanceId == id) ∘ UnitInstance.flip) =
      fun u : UnitInstance => u.instanceId == id := rfl
  rw [BattleSim.find, units_exchanged, List.find?_map, hsearch, BattleSim.find]
  refine congrArg _ (Sorting.find?_eq_of_perm hperm fun a ha b hb hida hidb => ?_)
  have heq : a.instanceId = b.instanceId := by
    simp only [beq_iff_eq] at hida hidb
    rw [hida, hidb]
  exact hok.unique (hperm.mem_iff.1 ha) (hperm.mem_iff.1 hb) heq

variable {sim} in
theorem applyLifesteal_flip (hok : sim.Ok) (id : String) :
    applyLifesteal id dmg (exchanged sim) cycle tick =
      (exchanged (applyLifesteal id dmg sim cycle tick).1,
        (applyLifesteal id dmg sim cycle tick).2.map (·.flip)) := by
  unfold applyLifesteal
  rw [find_exchanged hok]
  cases sim.find id with
  | none => rfl
  | some u => exact unitAct_pair (exchanged_update fun _ => rfl) rfl

theorem unitBehind_flip : unitBehind source.flip target.flip (exchanged sim) =
    (unitBehind source target sim).map (·.flip) := by
  unfold unitBehind
  dsimp only
  rw [unitsOf_exchanged, flip_row, UnitInstance.flip_side, enemySideOf_enemySideOf, List.find?_map]
  split
  · rfl
  · rfl

theorem applyPierce_flip : applyPierce source.flip target.flip dmg (exchanged sim) cycle tick =
    (exchanged (applyPierce source target dmg sim cycle tick).1,
      (applyPierce source target dmg sim cycle tick).2.map (·.flip)) := by
  unfold applyPierce
  rw [unitBehind_flip]
  cases unitBehind source target sim with
  | none => rfl
  | some behind =>
    refine unitAct_pair (exchanged_update fun _ => rfl) ?_
    simp only [Option.map_some, UnitInstance.flip_hp, UnitInstance.flip_alive]
    split <;> rfl

theorem healIf_flip (target : Option UnitInstance) :
    healIf (target.map (·.flip)) healer.flip (exchanged sim) cycle tick =
      (exchanged (healIf target healer sim cycle tick).1,
        (healIf target healer sim cycle tick).2.map (·.flip)) := by
  cases target with
  | none => rfl
  | some u =>
    simp only [healIf, healOne, Option.map_some]
    rw [show healAmount u.flip = healAmount u from rfl]
    split
    · rfl
    · exact unitAct_pair (exchanged_update fun _ => rfl) rfl

theorem allies_flip (exclude : Option UnitInstance) :
    lowestHpAlly localeCompare (unitsOf (exchanged sim) healer.flip.side) (exclude.map (·.flip)) =
      (lowestHpAlly localeCompare (unitsOf sim healer.side) exclude).map (·.flip) := by
  rw [unitsOf_exchanged, UnitInstance.flip_side, enemySideOf_enemySideOf]
  exact lowestHpAlly_map flip_keepsHeal _ _

theorem firstAlly_flip : firstAlly localeCompare healer.flip (exchanged sim) =
    (firstAlly localeCompare healer sim).map (·.flip) := allies_flip healer sim none

theorem secondAlly_flip : secondAlly localeCompare healer.flip (exchanged sim) =
    (secondAlly localeCompare healer sim).map (·.flip) := by
  unfold secondAlly
  rw [firstAlly_flip, allies_flip, UnitInstance.flip_star]
  split <;> rfl

theorem applyHealerSupport_flip : applyHealerSupport localeCompare healer.flip (exchanged sim) cycle tick =
    (exchanged (applyHealerSupport localeCompare healer sim cycle tick).1,
      (applyHealerSupport localeCompare healer sim cycle tick).2.map (·.flip)) := by
  simp only [applyHealerSupport_eq, firstAlly_flip, secondAlly_flip, healIf_flip, List.map_append]

theorem applySlow_flip : applySlow healer.flip target.flip (exchanged sim) cycle tick =
    (exchanged (applySlow healer target sim cycle tick).1,
      (applySlow healer target sim cycle tick).2.map (·.flip)) :=
  unitAct_pair (exchanged_update fun _ => rfl) rfl

theorem clearHealerSlows_flip :
    clearHealerSlows healer.flip (exchanged sim) = exchanged (clearHealerSlows healer sim) := by
  have hflip : ∀ units : List UnitInstance,
      (units.map (·.flip)).map (unslowed healer.instanceId) =
        (units.map (unslowed healer.instanceId)).map (·.flip) := by
    intro units
    rw [List.map_map, List.map_map]
    refine List.map_congr_left fun u _ => ?_
    simp only [Function.comp_apply, unslowed, UnitInstance.flip_slowUntilHealerAct]
    split <;> rfl
  simp only [clearHealerSlows, exchanged, UnitInstance.flip_instanceId, hflip]

variable {sim} in
/-- **An action on the exchanged boards is the same action.** -/
theorem unitAct_flip {unit : UnitInstance} (hs : sim.Sound) :
    unitAct localeCompare unit.flip (exchanged sim) cycle tick =
      (exchanged (unitAct localeCompare unit sim cycle tick).1,
        (unitAct localeCompare unit sim cycle tick).2.map (·.flip)) := by
  unfold unitAct
  rw [pickTarget_flip, UnitInstance.flip_unitId, UnitInstance.flip_star]
  cases hkind : unit.unitId with
  | fighter =>
    cases ht : pickTarget localeCompare unit sim with
    | none => rfl
    | some target =>
      have hok : (applyDamage target (atkFor .fighter unit.star) unit sim cycle tick).1.Ok :=
        ((applyDamage_ages (pickTarget_lives hs.ok ht).1 (atkFor_nonneg _ _)).sound hs).ok
      simp only [Option.map_some, applyDamage_flip]
      split
      · rw [show unit.flip.instanceId = unit.instanceId from rfl, applyLifesteal_flip _ _ _ hok, List.map_append]
      · rfl
  | tank =>
    cases pickTarget localeCompare unit sim with
    | none => rfl
    | some target => exact applyDamage_flip target unit _ sim cycle tick
  | ranger =>
    cases pickTarget localeCompare unit sim with
    | none => rfl
    | some target =>
      simp only [Option.map_some, applyDamage_flip, applyPierce_flip]
      split
      · rw [List.map_append]
      · rfl
  | healer =>
    cases pickTarget localeCompare unit sim with
    | none => exact applyHealerSupport_flip unit sim cycle tick
    | some target =>
      simp only [Option.map_some, clearHealerSlows_flip, applyDamage_flip, applyHealerSupport_flip,
        applySlow_flip]
      split
      · rw [List.map_append, List.map_append]
      · rw [List.map_append]

end

/-! ## The whole battle -/

section
variable {localeCompare : String → String → Int}

/-- The two battles, at any point. -/
structure Mirrors (sim sim' : BattleSim) : Prop where
  sound : sim.Sound
  seated : Seated sim
  exchanged : sim' = exchanged sim

theorem standing_exchanged (sim : BattleSim) (side : Side) :
    standing (exchanged sim) side = standing sim (enemySideOf side) := by
  unfold standing
  rw [unitsOf_exchanged, List.any_map]
  rfl

theorem compareForTick_flip (initSide : Side) (a b : UnitInstance) :
    compareForTick localeCompare (enemySideOf initSide) a.flip b.flip =
      compareForTick localeCompare initSide a b := by
  have hne : (a.flip.side != b.flip.side) = (a.side != b.side) := by
    cases ha : a.side <;> cases hb : b.side <;> simp [UnitInstance.flip, ha, hb, enemySideOf] <;> rfl
  have hinit : (a.flip.side == enemySideOf initSide) = (a.side == initSide) := by
    cases ha : a.side <;> cases initSide <;> simp [UnitInstance.flip, ha, enemySideOf]
  unfold compareForTick
  rw [hne, hinit]
  rfl

theorem acting_exchanged {sim : BattleSim} (hs : sim.Sound) (hseated : Seated sim) (initSide : Side)
    (tick : Nat) : acting localeCompare (enemySideOf initSide) tick (exchanged sim) =
      (acting localeCompare initSide tick sim).map (·.flip) := by
  have hperm : (sim.p2Units ++ sim.p1Units).Perm sim.units := List.perm_append_comm
  have hsort : ∀ units : List UnitInstance,
      orderForTick localeCompare (units.map (·.flip)) (enemySideOf initSide) =
        (orderForTick localeCompare units initSide).map (·.flip) := by
    intro units
    refine (List.map_insertionSort _ _ UnitInstance.flip units fun a _ b _ => ?_).symm
    rw [compareForTick_flip]
  unfold acting
  rw [units_exchanged, filter_flip fun _ => rfl, hsort]
  refine congrArg _ (orderForTick_eq_of_perm hs.ok hseated ?_ (fun u hu => ?_) (hperm.filter _))
  · exact (hperm.nodup_iff.2 (List.Nodup.of_map _ hs.ok.ids)).filter _
  · exact hperm.mem_iff.1 (List.mem_of_mem_filter hu)

theorem mirrors_simulates (initSide : Side) :
    Simulates localeCompare UnitInstance.flip EventKind.flip Mirrors (fun _ _ => True) initSide
      (enemySideOf initSide) where
  alive _ := rfl
  find := by
    rintro sim _ ⟨hs, -, rfl⟩ id
    exact find_exchanged hs.ok id
  acting := by
    rintro sim _ ⟨hs, hseated, rfl⟩ tick
    rw [acting_exchanged hs hseated, List.map_map]
    rfl
  act := by
    rintro sim _ unit ⟨hs, hseated, rfl⟩ hfind halive - cycle tick
    obtain ⟨hs', hages⟩ := unitAct_keeps localeCompare unit sim cycle tick hs hfind halive
    rw [unitAct_flip cycle tick hs]
    exact ⟨⟨hs', hages.seated hseated, rfl⟩, rfl⟩
  wiped := by
    rintro sim _ ⟨-, -, rfl⟩
    rw [standing_exchanged, standing_exchanged]
    exact Bool.or_comm _ _
  verdict := by
    rintro sim _ ⟨-, -, rfl⟩ hwiped cycle
    rw [standing_exchanged, standing_exchanged]
    simp only [enemySideOf]
    cases h1 : standing sim .p1 <;> cases h2 : standing sim .p2
    · rfl
    · rfl
    · rfl
    · simp [h1, h2] at hwiped
  cycleEnd _ := rfl
  draw _ := rfl

/-- A snapshot of the exchanged boards. -/
theorem snapshot_exchanged {sim : BattleSim} (hok : sim.Ok) :
    snapshotAllUnits (exchanged sim) = p1First ((snapshotAllUnits sim).map (·.flip)) := by
  have hside : ∀ side other, ∀ u ∈ unitsOf sim side,
      ((snapshotUnit u).flip.side == other) = (enemySideOf side == other) := by
    intro side other u hu
    rw [← hok.side side u hu]
    rfl
  have hkept : ∀ side, ((unitsOf sim side).map fun u => (snapshotUnit u).flip).filter
      (·.side == enemySideOf side) = (unitsOf sim side).map fun u => (snapshotUnit u).flip := by
    intro side
    refine List.filter_eq_self.2 fun s hs => ?_
    obtain ⟨u, hu, rfl⟩ := List.mem_map.1 hs
    rw [hside side _ u hu, beq_self_eq_true]
  have hdropped : ∀ side, ((unitsOf sim side).map fun u => (snapshotUnit u).flip).filter
      (·.side == side) = [] := by
    intro side
    refine List.filter_eq_nil_iff.2 fun s hs => ?_
    obtain ⟨u, hu, rfl⟩ := List.mem_map.1 hs
    rw [hside side side u hu]
    cases side <;> simp [enemySideOf]
  have h1 := hkept .p1
  have h2 := hkept .p2
  simp only [enemySideOf] at h1 h2
  simp only [p1First, snapshotAllUnits, units_eq, List.map_append, List.map_map, List.filter_append,
    Function.comp_def, unitsOf_exchanged, h1, h2, hdropped, List.nil_append, List.append_nil]
  rfl

end

/-- **The engine treats both sides alike.** A battle on the exchanged boards,
with the opposite init side, has the same log with every side flipped. -/
theorem runBattle_exchanged (localeCompare : String → String → Int) (battle : Battle) (state : BattleState)
    (hboards : state.boards = exchanged battle.boards)
    (hinit : initSideOf state = enemySideOf (initSideOf battle.toBattleState)) :
    runBattle localeCompare state = (runBattle localeCompare battle.toBattleState).map (·.flip) := by
  have hclone : cloneSim state = exchanged (cloneSim battle.toBattleState) := by
    have hclones : ∀ s : BattleState, cloneSim s = s.boards.each cloneUnit := fun _ => rfl
    rw [hclones, hclones, hboards]
    simp only [BattleSim.each, exchanged, List.map_map]
    rfl
  have hstart : Mirrors (cloneSim battle.toBattleState) (cloneSim state) :=
    ⟨battle.sound, battle.seated, hclone⟩
  have hsimulates : Simulates localeCompare _ _ _ _ (initSideOf battle.toBattleState) (initSideOf state) :=
    hinit ▸ mirrors_simulates _
  have hlog := matches_log
    ((cycleTurns_tracks hsimulates (List.range' 1 MAX_CYCLES) hstart).all fun _ _ _ _ => trivial)
  have heq : List.Forall₂ (· = ·)
      (((turns localeCompare battle.toBattleState).flatMap (·.log)).map (·.flip))
      ((turns localeCompare state).flatMap (·.log)) := by
    refine List.forall₂_map_left_iff.2 (hlog.imp fun e e' h => ?_)
    obtain ⟨hkind, sim, _, ⟨hs, -, rfl⟩, hboard, hboard'⟩ := h
    rw [snapshot_exchanged hs.ok, ← hboard] at hboard'
    simp only [CombatEvent.flip, ← hkind, ← hboard']
  rw [List.forall₂_eq_eq_eq] at heq
  rw [runBattle_turns, runBattle_turns]
  exact heq.symm

theorem runBattle_exchanged_duel :
    runBattle (fun _ _ => 0)
        { p1Units := [{ instanceId := "h", unitId := .healer, star := 0, hp := 70, maxHp := 70,
                        slot := 2, side := .p1, alive := true }]
          p2Units := [{ instanceId := "f", unitId := .fighter, star := 1, hp := 100, maxHp := 100,
                        slot := 0, side := .p2, alive := true }]
          roundSeed := 7
          matchSeed := "m"
          rng := some fun _ => 1 / 2 } =
      (runBattle (fun _ _ => 0) duel.toBattleState).map (·.flip) :=
  runBattle_exchanged _ duel _ rfl (by decide +kernel)

end AutoChess.Game
