/-
HP and life. Five mutations touch a unit's HP (the hit, the revive in it,
pierce, heal and lifesteal), each with its own clamp. Each takes a healthy
unit to a healthy one and wakes no dead one (`Aged`), given that whoever is
hit, healed or steals life is alive at that moment; the rest is induction
over the turns.
-/
import AutoChess.Game.Turns

namespace AutoChess.Game

/-- HP within bounds, and alive exactly while there is some. -/
structure Healthy (u : UnitInstance) : Prop where
  hp_nonneg : 0 ≤ u.hp
  hp_le : u.hp ≤ u.maxHp
  maxHp : 2 ≤ u.maxHp
  alive : u.alive = true ↔ 0 < u.hp

/-- What the battle may make of a unit. -/
structure Aged (u u' : UnitInstance) : Prop where
  actor : u'.actor = u.actor
  maxHp : u'.maxHp = u.maxHp
  healthy : Healthy u → Healthy u'
  dead : u.alive = false → u'.alive = false

theorem Aged.refl (u : UnitInstance) : Aged u u := ⟨rfl, rfl, id, id⟩

theorem Aged.trans {u₁ u₂ u₃ : UnitInstance} (h₁ : Aged u₁ u₂) (h₂ : Aged u₂ u₃) : Aged u₁ u₃ where
  actor := h₂.actor.trans h₁.actor
  maxHp := h₂.maxHp.trans h₁.maxHp
  healthy := fun h => h₂.healthy (h₁.healthy h)
  dead := fun h => h₂.dead (h₁.dead h)

/-- Every unit is rewritten in its place. -/
def BattleSim.each (sim : BattleSim) (f : UnitInstance → UnitInstance) : BattleSim :=
  { p1Units := sim.p1Units.map f, p2Units := sim.p2Units.map f }

theorem units_each (sim : BattleSim) (f : UnitInstance → UnitInstance) :
    (sim.each f).units = sim.units.map f := by
  simp [BattleSim.units, BattleSim.each]

theorem mem_unitsOf {sim : BattleSim} {side : Side} {u : UnitInstance} (hok : sim.Ok)
    (hu : u ∈ sim.units) (hside : u.side = side) : u ∈ unitsOf sim side := by
  rw [units_eq, List.mem_append] at hu
  rcases hu with hu | hu
  · have := hok.side .p1 u hu
    subst hside
    exact this ▸ hu
  · have := hok.side .p2 u hu
    subst hside
    exact this ▸ hu

/-- Every unit ages in its place. -/
def Ages (sim sim' : BattleSim) : Prop := ∃ f, sim' = sim.each f ∧ ∀ u ∈ sim.units, Aged u (f u)

theorem Ages.refl (sim : BattleSim) : Ages sim sim :=
  ⟨id, by simp [BattleSim.each], fun u _ => Aged.refl u⟩

theorem Ages.trans {sim₁ sim₂ sim₃ : BattleSim} (h₁ : Ages sim₁ sim₂) (h₂ : Ages sim₂ sim₃) :
    Ages sim₁ sim₃ := by
  obtain ⟨f, rfl, hf⟩ := h₁
  obtain ⟨g, rfl, hg⟩ := h₂
  refine ⟨g ∘ f, by simp [BattleSim.each], fun u hu => (hf u hu).trans (hg (f u) ?_)⟩
  rw [units_each]
  exact List.mem_map_of_mem hu

theorem Ages.ok {sim sim' : BattleSim} (h : Ages sim sim') (hok : sim.Ok) : sim'.Ok := by
  obtain ⟨f, rfl, hf⟩ := h
  refine hok.of_actors fun side => ?_
  rw [BattleSim.each, unitsOf_map, List.map_map]
  exact List.map_congr_left fun u hu => (hf u (mem_units side hu)).actor

/-- Units are told apart by their ids. -/
theorem BattleSim.Ok.unique {sim : BattleSim} (hok : sim.Ok) {u v : UnitInstance} (hu : u ∈ sim.units)
    (hv : v ∈ sim.units) (h : u.instanceId = v.instanceId) : u = v :=
  List.inj_on_of_nodup_map hok.ids hu hv h

/-- A write through a reference ages the unit it points at. -/
theorem ages_update {sim : BattleSim} {id : String} {f : UnitInstance → UnitInstance}
    (h : ∀ u ∈ sim.units, u.instanceId = id → Aged u (f u)) : Ages sim (sim.update id f) := by
  refine ⟨_, rfl, fun u hu => ?_⟩
  split
  · next heq => exact h u hu (by simpa using heq)
  · exact Aged.refl u

/-- Every unit with this id is alive. -/
def Lives (sim : BattleSim) (id : String) : Prop := ∀ u ∈ sim.units, u.instanceId = id → u.alive = true

theorem lives_of_mem {sim : BattleSim} (hok : sim.Ok) {u : UnitInstance} (hu : u ∈ sim.units)
    (halive : u.alive = true) : Lives sim u.instanceId :=
  fun _ hv heq => hok.unique hv hu heq ▸ halive

theorem lives_of_aliveOn {sim : BattleSim} (hok : sim.Ok) {side : Side} {id : String}
    (h : AliveOn sim side id) : Lives sim id := by
  obtain ⟨u, hu, rfl, halive⟩ := h
  exact lives_of_mem hok (mem_units side hu) halive

/-! ## The five mutations -/

theorem atkFor_nonneg (unitId : UnitId) (star : Star) : 0 ≤ atkFor unitId star := by
  cases unitId <;> revert star <;> decide

theorem damaged_aged {u : UnitInstance} {dmg : Int} (halive : u.alive = true) (hdmg : 0 ≤ dmg) :
    Aged u (damaged dmg u) := by
  unfold damaged
  split
  · refine ⟨rfl, rfl, fun h => ?_, fun hdead => by simp [halive] at hdead⟩
    have hmax := h.maxHp
    exact ⟨by simp only [reviveHp]; omega, by simp only [reviveHp]; omega, hmax,
      by simp only [halive, reviveHp, true_iff]; omega⟩
  · split
    · refine ⟨rfl, rfl, fun h => ?_, fun _ => rfl⟩
      have hmax := h.maxHp
      exact ⟨le_rfl, by dsimp only; omega, hmax, by simp⟩
    · next hlives =>
      refine ⟨rfl, rfl, fun h => ?_, fun hdead => by simp [halive] at hdead⟩
      have hle := h.hp_le
      exact ⟨by dsimp only; omega, by dsimp only; omega, h.maxHp,
        by simp only [halive, true_iff]; omega⟩

theorem pierced_aged {u : UnitInstance} {dmg : Int} (hdmg : 0 ≤ dmg) : Aged u (pierced dmg u) := by
  refine ⟨rfl, rfl, fun h => ?_, fun hdead => by simp [pierced, hdead]⟩
  have hle := h.hp_le
  have hmax := h.maxHp
  refine ⟨?_, ?_, hmax, ?_⟩
  · exact le_max_left 0 _
  · show max 0 (u.hp - dmg) ≤ u.maxHp
    omega
  · show (u.alive && max 0 (u.hp - dmg) != 0) = true ↔ 0 < max 0 (u.hp - dmg)
    simp only [Bool.and_eq_true, h.alive, bne_iff_ne, ne_eq]
    omega

/-- Healing an alive unit within its `maxHp`. -/
theorem healed_aged {u : UnitInstance} {amount : Int} (halive : u.alive = true) (hpos : 0 ≤ amount)
    (hfits : amount ≤ u.maxHp - u.hp ∨ amount = 0) : Aged u { u with hp := u.hp + amount } := by
  refine ⟨rfl, rfl, fun h => ?_, id⟩
  have hnonneg := h.hp_nonneg
  have hle := h.hp_le
  have hlive := h.alive.1 halive
  refine ⟨?_, ?_, h.maxHp, ?_⟩
  · show 0 ≤ u.hp + amount
    omega
  · show u.hp + amount ≤ u.maxHp
    omega
  · show u.alive = true ↔ 0 < u.hp + amount
    simp only [halive, true_iff]
    omega

theorem slowed_aged (healer : String) (u : UnitInstance) : Aged u (slowed healer u) :=
  ⟨rfl, rfl, fun h => ⟨h.hp_nonneg, h.hp_le, h.maxHp, h.alive⟩, id⟩

theorem unslowed_aged (healer : String) (u : UnitInstance) : Aged u (unslowed healer u) := by
  unfold unslowed
  split
  · exact ⟨rfl, rfl, fun h => ⟨h.hp_nonneg, h.hp_le, h.maxHp, h.alive⟩, id⟩
  · exact Aged.refl u

/-! ## The effects of an action -/

section
variable {localeCompare : String → String → Int} {sim : BattleSim} {cycle tick : Nat}

theorem applyDamage_ages {target source : UnitInstance} {dmg : Int} (hlives : Lives sim target.instanceId)
    (hdmg : 0 ≤ dmg) : Ages sim (applyDamage target dmg source sim cycle tick).1 :=
  ages_update fun u hu hid => damaged_aged (hlives u hu hid) hdmg

theorem applyLifesteal_ages {fighter : String} {dmg : Int} (hok : sim.Ok) (hlives : Lives sim fighter) :
    Ages sim (applyLifesteal fighter dmg sim cycle tick).1 := by
  unfold applyLifesteal
  split
  · exact Ages.refl sim
  · next u hfind =>
    refine ages_update fun v hv hid => ?_
    have hu : u ∈ sim.units := List.mem_of_find?_eq_some hfind
    obtain rfl : v = u := hok.unique hv hu (hid.trans (find_id hfind).symm)
    have hsteal : 0 ≤ lifestealHeal v dmg ∧
        (lifestealHeal v dmg ≤ v.maxHp - v.hp ∨ lifestealHeal v dmg = 0) := by
      unfold lifestealHeal
      omega
    exact healed_aged (hlives v hv hid) hsteal.1 hsteal.2

theorem unitBehind_alive {ranger primary behind : UnitInstance}
    (h : unitBehind ranger primary sim = some behind) : behind.alive = true := by
  simp only [unitBehind] at h
  split at h
  · cases h
  · have := List.find?_some h
    simp only [Bool.and_eq_true] at this
    exact this.1.1

theorem applyPierce_ages {ranger primary : UnitInstance} {dmg : Int} (hdmg : 0 ≤ dmg) :
    Ages sim (applyPierce ranger primary dmg sim cycle tick).1 := by
  unfold applyPierce
  split
  · exact Ages.refl sim
  · exact ages_update fun u _ _ => pierced_aged (by unfold pierceOf; omega)

theorem lowestHpAlly_mem {allies : List UnitInstance} {exclude : Option UnitInstance} {u : UnitInstance}
    (h : lowestHpAlly localeCompare allies exclude = some u) : u ∈ allies ∧ u.alive = true := by
  unfold lowestHpAlly at h
  split at h
  · cases h
  · next v rest heq =>
    cases h
    have hmem : ∀ w ∈ v :: rest, w ∈ allies ∧ w.alive = true := by
      intro w hw
      rw [← heq, List.mem_filter] at hw
      simp only [Bool.and_eq_true] at hw
      exact ⟨hw.1, hw.2.1⟩
    refine hmem _ (foldl_choose_mem (fun a b => ?_) rest v)
    split
    · split <;> simp
    · split <;> simp

theorem healIf_ages {target : Option UnitInstance} {healer : UnitInstance} (hok : sim.Ok)
    (htarget : ∀ u, target = some u → u ∈ sim.units ∧ u.alive = true) :
    Ages sim (healIf target healer sim cycle tick).1 := by
  unfold healIf
  split
  · exact Ages.refl sim
  · next u =>
    obtain ⟨hu, halive⟩ := htarget u rfl
    simp only [healOne]
    split
    · exact Ages.refl sim
    · next hpos =>
      refine ages_update fun v hv hid => ?_
      obtain rfl : v = u := hok.unique hv hu hid
      refine healed_aged halive (by omega) (.inl ?_)
      unfold healAmount
      exact min_le_right _ _

theorem lowestHpAlly_target {side : Side} {exclude : Option UnitInstance} :
    ∀ u, lowestHpAlly localeCompare (unitsOf sim side) exclude = some u → u ∈ sim.units ∧ u.alive = true :=
  fun _ h => ⟨mem_units side (lowestHpAlly_mem h).1, (lowestHpAlly_mem h).2⟩

theorem applyHealerSupport_ages {healer : UnitInstance} (hok : sim.Ok) :
    Ages sim (applyHealerSupport localeCompare healer sim cycle tick).1 := by
  simp only [applyHealerSupport]
  have hfirst : Ages sim (healIf (lowestHpAlly localeCompare (unitsOf sim healer.side) none) healer sim
      cycle tick).1 := healIf_ages hok lowestHpAlly_target
  split
  · exact hfirst.trans (healIf_ages (hfirst.ok hok) lowestHpAlly_target)
  · exact hfirst

theorem applySlow_ages {healer target : UnitInstance} (sim : BattleSim) (cycle tick : Nat) :
    Ages sim (applySlow healer target sim cycle tick).1 :=
  ages_update fun u _ _ => slowed_aged _ u

theorem clearHealerSlows_ages {healer : UnitInstance} : Ages sim (clearHealerSlows healer sim) :=
  ⟨_, rfl, fun u _ => unslowed_aged _ u⟩

/-- The target of an attack is alive, also once the healer's slows are cleared. -/
theorem pickTarget_lives {unit target : UnitInstance} (hok : sim.Ok)
    (h : pickTarget localeCompare unit sim = some target) :
    Lives sim target.instanceId ∧ Lives (clearHealerSlows unit sim) target.instanceId := by
  obtain ⟨hmem, halive⟩ := pickTarget_mem h
  have hon : AliveOn sim (enemySideOf unit.side) target.instanceId := ⟨target, hmem, rfl, halive⟩
  have hspares : Spares target.instanceId sim (clearHealerSlows unit sim) := clearHealerSlows_spares sim
  exact ⟨lives_of_aliveOn hok hon, lives_of_aliveOn (hspares.ok hok) (hspares.alive _ hon)⟩

/-- **An action ages every unit**: nobody leaves the bounds, nobody wakes. -/
theorem unitAct_ages {unit : UnitInstance} (hok : sim.Ok) (hu : unit ∈ unitsOf sim unit.side)
    (halive : unit.alive = true) : Ages sim (unitAct localeCompare unit sim cycle tick).1 := by
  have hdmg := atkFor_nonneg unit.unitId unit.star
  have hit : ∀ {target}, pickTarget localeCompare unit sim = some target →
      Ages sim (applyDamage target (atkFor unit.unitId unit.star) unit sim cycle tick).1 :=
    fun ht => applyDamage_ages (pickTarget_lives hok ht).1 hdmg
  unfold unitAct
  split
  · split
    · exact Ages.refl sim
    · next target ht =>
      simp only
      split
      · -- The fighter steals life after its hit, which leaves it alive.
        have hspares : Spares unit.instanceId sim
            (applyDamage target (atkFor unit.unitId unit.star) unit sim cycle tick).1 :=
          applyDamage_spares sim (hok.ne_enemy hu (pickTarget_mem ht).1)
        refine (hit ht).trans (applyLifesteal_ages (hspares.ok hok) ?_)
        exact lives_of_aliveOn (hspares.ok hok) (hspares.alive _ ⟨unit, hu, rfl, halive⟩)
      · exact hit ht
  · split
    · exact Ages.refl sim
    · next target ht => exact hit ht
  · split
    · exact Ages.refl sim
    · next target ht =>
      simp only
      split
      · exact (hit ht).trans (applyPierce_ages hdmg)
      · exact hit ht
  · split
    · exact applyHealerSupport_ages hok
    · next target ht =>
      have hcleared : Ages sim (clearHealerSlows unit sim) := clearHealerSlows_ages
      have hhit : Ages sim (applyDamage target (atkFor unit.unitId unit.star) unit
          (clearHealerSlows unit sim) cycle tick).1 :=
        hcleared.trans (applyDamage_ages (pickTarget_lives hok ht).2 hdmg)
      simp only
      split
      · exact (hhit.trans (applyHealerSupport_ages (hhit.ok hok))).trans (applySlow_ages _ cycle tick)
      · exact hhit.trans (applyHealerSupport_ages (hhit.ok hok))

end

/-! ## The whole battle -/

/-- The fields of a snapshot that a battle never changes. -/
def UnitSnapshot.identity (s : UnitSnapshot) : Actor × Int :=
  (⟨s.instanceId, s.side, s.slot, s.unitId, s.star⟩, s.maxHp)

/-- Whoever is dead on the first board is dead on the second. -/
def StaysDead (board board' : List UnitSnapshot) : Prop :=
  ∀ s ∈ board, s.alive = false → ∀ s' ∈ board', s'.instanceId = s.instanceId → s'.alive = false

/-- The snapshots of a log show one set of units, in bounds, that only die. -/
structure SoundLog (initial : List UnitSnapshot) (log : List CombatEvent) : Prop where
  same : ∀ e ∈ log, e.unitStates.map (·.identity) = initial.map (·.identity)
  bounds : ∀ e ∈ log, ∀ s ∈ e.unitStates, 0 ≤ s.hp ∧ s.hp ≤ s.maxHp ∧ (s.alive = true ↔ 0 < s.hp)
  dead : (initial :: log.map (·.unitStates)).Pairwise StaysDead

/-- Well-formed boards of healthy units. -/
structure BattleSim.Sound (sim : BattleSim) : Prop where
  ok : sim.Ok
  healthy : ∀ u ∈ sim.units, Healthy u

theorem Ages.sound {sim sim' : BattleSim} (h : Ages sim sim') (hs : sim.Sound) : sim'.Sound := by
  refine ⟨h.ok hs.ok, fun u hu => ?_⟩
  obtain ⟨f, rfl, hf⟩ := h
  rw [units_each, List.mem_map] at hu
  obtain ⟨v, hv, rfl⟩ := hu
  exact (hf v hv).healthy (hs.healthy v hv)

theorem Ages.identity {sim sim' : BattleSim} (h : Ages sim sim') :
    (snapshotAllUnits sim').map (·.identity) = (snapshotAllUnits sim).map (·.identity) := by
  obtain ⟨f, rfl, hf⟩ := h
  simp only [snapshotAllUnits, units_each, List.map_map]
  refine List.map_congr_left fun u hu => ?_
  exact Prod.ext (hf u hu).actor (hf u hu).maxHp

theorem Ages.staysDead {sim sim' : BattleSim} (h : Ages sim sim') (hok : sim.Ok) :
    StaysDead (snapshotAllUnits sim) (snapshotAllUnits sim') := by
  intro s hs hdead s' hs' hid
  obtain ⟨f, rfl, hf⟩ := h
  rw [snapshotAllUnits, List.mem_map] at hs hs'
  obtain ⟨u, hu, rfl⟩ := hs
  obtain ⟨_, hv, rfl⟩ := hs'
  rw [units_each, List.mem_map] at hv
  obtain ⟨v, hv, rfl⟩ := hv
  have hactor : (f v).instanceId = v.instanceId := congrArg Actor.instanceId (hf v hv).actor
  obtain rfl : v = u := hok.unique hv hu (hactor.symm.trans hid)
  exact (hf v hv).dead hdead

theorem unitAct_keeps (localeCompare : String → String → Int) (unit : UnitInstance) (sim : BattleSim)
    (cycle tick : Nat) (hs : sim.Sound) (hfind : sim.find unit.instanceId = some unit)
    (halive : unit.alive = true) : (unitAct localeCompare unit sim cycle tick).1.Sound ∧
      Ages sim (unitAct localeCompare unit sim cycle tick).1 := by
  have hages : Ages sim (unitAct localeCompare unit sim cycle tick).1 :=
    unitAct_ages hs.ok (mem_of_find hs.ok hfind) halive
  exact ⟨hages.sound hs, hages⟩

@[simp] theorem snapshot_cloneSim (state : BattleState) :
    snapshotAllUnits (cloneSim state) = snapshotAllUnits state.boards := by
  simp only [snapshotAllUnits, BattleSim.units, cloneSim, BattleState.boards, List.map_append, List.map_map]
  rfl

theorem Battle.sound (battle : Battle) : (cloneSim battle.toBattleState).Sound := by
  refine ⟨battle.boards_ok, fun u hu => ?_⟩
  obtain ⟨side, hu⟩ : ∃ side, u ∈ unitsOf (cloneSim battle.toBattleState) side := by
    rw [units_eq, List.mem_append] at hu
    exact hu.elim (⟨.p1, ·⟩) (⟨.p2, ·⟩)
  rw [unitsOf_cloneSim, List.mem_map] at hu
  obtain ⟨v, hv, rfl⟩ := hu
  obtain ⟨h0, hle, hmax⟩ := battle.hp side v hv
  refine ⟨h0, hle, hmax, ?_⟩
  have halive : (cloneUnit v).alive = decide (0 < v.hp) := battle.alive side v hv
  rw [halive, decide_eq_true_eq]
  rfl

/-- A battle keeps its boards sound from turn to turn. -/
theorem Played.sound {localeCompare : String → String → Int} {sim last : BattleSim} {ts : List Turn}
    (h : Played localeCompare sim ts last) (hs : sim.Sound) : last.Sound :=
  (h.induct (P := fun _ => True)
    (fun unit sim cycle tick hs hfind halive =>
      ⟨trivial, (unitAct_keeps localeCompare unit sim cycle tick hs hfind halive).1⟩)
    (fun _ _ _ _ _ => trivial) hs).2

theorem mem_log {t : Turn} {e : CombatEvent} (h : e ∈ t.log) : e.unitStates = snapshotAllUnits t.after := by
  obtain ⟨kind, -, rfl⟩ := List.mem_map.1 h
  rfl

/-- The log of turns played from sound boards is sound. -/
theorem Played.soundLog {localeCompare : String → String → Int} {sim last : BattleSim} {ts : List Turn}
    (h : Played localeCompare sim ts last) (hs : sim.Sound) : SoundLog (snapshotAllUnits sim) (ts.flatMap (·.log)) := by
  obtain ⟨hall, hpairs⟩ := h.related (r := Ages) Ages.refl (fun _ _ _ => Ages.trans) (unitAct_keeps localeCompare) hs
  refine ⟨fun e he => ?_, fun e he s hmem => ?_, ?_⟩
  · obtain ⟨t, ht, he⟩ := List.mem_flatMap.1 he
    rw [mem_log he]
    exact (hall t ht).2.identity
  · obtain ⟨t, ht, he⟩ := List.mem_flatMap.1 he
    rw [mem_log he, snapshotAllUnits, List.mem_map] at hmem
    obtain ⟨u, hu, rfl⟩ := hmem
    have hhealthy := (hall t ht).1.healthy u hu
    exact ⟨hhealthy.hp_nonneg, hhealthy.hp_le, hhealthy.alive⟩
  · refine .cons (fun board hboard => ?_) ?_
    · obtain ⟨e, he, rfl⟩ := List.mem_map.1 hboard
      obtain ⟨t, ht, he⟩ := List.mem_flatMap.1 he
      rw [mem_log he]
      exact (hall t ht).2.staysDead hs.ok
    · rw [List.map_flatMap, List.pairwise_flatMap]
      have hboards : ∀ t : Turn, ∀ board ∈ t.log.map (·.unitStates), board = snapshotAllUnits t.after := by
        intro t board hboard
        obtain ⟨e, he, rfl⟩ := List.mem_map.1 hboard
        exact mem_log he
      refine ⟨fun t ht => List.pairwise_of_forall_mem_list fun b hb b' hb' => ?_, ?_⟩
      · rw [hboards t b hb, hboards t b' hb']
        exact (Ages.refl t.after).staysDead (hall t ht).1.ok
      · refine hpairs.imp_of_mem fun {t t'} ht ht' hages b hb b' hb' => ?_
        rw [hboards t b hb, hboards t' b' hb']
        exact hages.staysDead (hall t ht).1.ok

/-- **HP and life, all battle long**: every snapshot lists the units the
battle began with, each with HP between 0 and its `maxHp` and alive exactly
while it has some, and no unit comes back from the dead. -/
theorem runBattle_sound (localeCompare : String → String → Int) (battle : Battle) :
    SoundLog (snapshotAllUnits battle.boards) (runBattle localeCompare battle.toBattleState) := by
  obtain ⟨last, hplayed⟩ := @turns_played localeCompare battle.toBattleState
  rw [runBattle_turns, ← snapshot_cloneSim]
  exact hplayed.soundLog battle.sound

end AutoChess.Game
