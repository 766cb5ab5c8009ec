/-
From the boards to a battle. Boards of units that were bought and fused
(`Standard`) are never refused, and make a battle: every unit in the slot it
stands in, under its own id, alive and at full health.
-/
import AutoChess.Game.Slows
import AutoChess.Runtime.Combat
import AutoChess.Shop.Ledger

namespace AutoChess.Runtime

open AutoChess.Game AutoChess.Shop

section
variable {side : Side}

/-- What a board puts into a battle: its units in their order, each with the
slot it stands in. -/
structure Fielded (side : Side) (slot : Nat) (slots : Slots) (us : List UnitInstance) : Prop where
  ids : us.map (·.instanceId) = (held slots).map (·.instanceId)
  order : (us.map (·.slot)).Pairwise (· < ·)
  entry : ∀ v ∈ us, slot ≤ v.slot ∧ ∃ u ∈ held slots, slots[v.slot - slot]? = some (some u) ∧
    unitFromEntry side v.slot u = .ok v

theorem unitFromEntry_eq {slot : Nat} {u : RuntimeUnitState} {v : UnitInstance}
    (h : unitFromEntry side slot u = .ok v) : ∃ star, v = unitFromEntry.unitOf side slot u star := by
  unfold unitFromEntry at h
  split at h
  · exact ⟨_, (Except.ok.inj h).symm⟩
  · exact ⟨_, (Except.ok.inj h).symm⟩
  · exact ⟨_, (Except.ok.inj h).symm⟩
  · cases h

theorem go_fielded {slots : Slots} {slot : Nat} {us : List UnitInstance}
    (h : unitsFromBoard.go side slot slots = .ok us) : Fielded side slot slots us := by
  induction slots generalizing slot us with
  | nil =>
    cases h
    exact ⟨rfl, .nil, fun v hv => by cases hv⟩
  | cons x slots ih =>
    have hshift : ∀ {v : UnitInstance} {u : RuntimeUnitState}, slot + 1 ≤ v.slot →
        slots[v.slot - (slot + 1)]? = some (some u) → (x :: slots)[v.slot - slot]? = some (some u) := by
      intro v u hle hget
      rw [show v.slot - slot = v.slot - (slot + 1) + 1 by omega, List.getElem?_cons_succ, hget]
    cases x with
    | none =>
      have hf := ih h
      refine ⟨hf.ids, hf.order, fun v hv => ?_⟩
      obtain ⟨hle, u, hu, hget, hunit⟩ := hf.entry v hv
      exact ⟨by omega, u, hu, hshift hle hget, hunit⟩
    | some w =>
      cases hunit : unitFromEntry side slot w with
      | error message =>
        simp only [unitsFromBoard.go, hunit] at h
        cases h
      | ok unit =>
        cases hgo : unitsFromBoard.go side (slot + 1) slots with
        | error message =>
          simp only [unitsFromBoard.go, hunit, hgo] at h
          cases h
        | ok rest =>
          simp only [unitsFromBoard.go, hunit, hgo] at h
          cases h
          have hf := ih hgo
          obtain ⟨star, hstar⟩ := unitFromEntry_eq hunit
          have hslot : unit.slot = slot := by rw [hstar]; rfl
          have hid : unit.instanceId = w.instanceId := by rw [hstar]; rfl
          refine ⟨?_, ?_, fun v hv => ?_⟩
          · rw [List.map_cons, hid, hf.ids, show held (some w :: slots) = w :: held slots from rfl, List.map_cons]
          · rw [List.map_cons, List.pairwise_cons]
            refine ⟨fun i hi => ?_, hf.order⟩
            obtain ⟨v, hv, rfl⟩ := List.mem_map.1 hi
            have := (hf.entry v hv).1
            omega
          · rcases List.mem_cons.1 hv with rfl | hv
            · refine ⟨hslot.ge, w, List.mem_cons_self .., ?_, ?_⟩
              · rw [hslot, Nat.sub_self]
                rfl
              · rw [hslot]
                exact hunit
            · obtain ⟨hle, u, hu, hget, hunit⟩ := hf.entry v hv
              exact ⟨by omega, u, List.mem_cons_of_mem _ hu, hshift hle hget, hunit⟩

theorem unitFromEntry_total {u : RuntimeUnitState} (slot : Nat) (h : u.star ≤ 2) :
    ∃ v, unitFromEntry side slot u = .ok v := by
  have hstar : u.star = 0 ∨ u.star = 1 ∨ u.star = 2 := by omega
  rcases hstar with h | h | h
  · exact ⟨unitFromEntry.unitOf side slot u 0, by rw [unitFromEntry, h]; rfl⟩
  · exact ⟨unitFromEntry.unitOf side slot u 1, by rw [unitFromEntry, h]; rfl⟩
  · exact ⟨unitFromEntry.unitOf side slot u 2, by rw [unitFromEntry, h]; rfl⟩

/-- Boards that were bought and fused make a battle. -/
theorem unitsFromBoard_ok {board : Slots} (side : Side) (h : ∀ u ∈ held board, u.star ≤ 2) :
    ∃ us, unitsFromBoard board side = .ok us := by
  have hgo : ∀ (slots : Slots) (slot : Nat), (∀ u ∈ held slots, u.star ≤ 2) →
      ∃ us, unitsFromBoard.go side slot slots = .ok us := by
    intro slots
    induction slots with
    | nil => exact fun _ _ => ⟨[], rfl⟩
    | cons x slots ih =>
      intro slot hstars
      cases x with
      | none => exact ih (slot + 1) hstars
      | some u =>
        obtain ⟨us, hus⟩ := ih (slot + 1) fun v hv => hstars v (List.mem_cons_of_mem _ hv)
        obtain ⟨unit, hunit⟩ := @unitFromEntry_total side u slot (hstars u (List.mem_cons_self ..))
        exact ⟨unit :: us, by simp only [unitsFromBoard.go, hunit, hus]; rfl⟩
  exact hgo board 0 h

/-! ## Standard units -/

/-- A unit as a battle starts with it. -/
structure Fit (side : Side) (v : UnitInstance) : Prop where
  side : v.side = side
  maxHp : v.maxHp = (UNIT_BASE_STATS v.unitId).hp
  hp : v.hp = v.maxHp
  alive : v.alive = true
  unslowed : v.slowActive = none ∧ v.slowUntilHealerAct = none ∧ v.effectiveSpd = none
  unrevived : v.revivedThisRound = none

theorem base_hp (unitId : UnitId) : 2 ≤ (UNIT_BASE_STATS unitId).hp := by cases unitId <;> decide

theorem fit_of_standard {u : RuntimeUnitState} {slot : Nat} {v : UnitInstance} (hu : Standard u)
    (h : unitFromEntry side slot u = .ok v) : Fit side v := by
  obtain ⟨star, rfl⟩ := unitFromEntry_eq h
  have hbase := base_hp u.unitId
  have hmax : finitePositive u.maxHp (UNIT_BASE_STATS u.unitId).hp = (UNIT_BASE_STATS u.unitId).hp := by
    rw [hu.maxHp, finitePositive, ite_self]
  have hhp : min (UNIT_BASE_STATS u.unitId).hp (finiteNonNegative u.hp (UNIT_BASE_STATS u.unitId).hp) =
      (UNIT_BASE_STATS u.unitId).hp := by
    rw [hu.hp, finiteNonNegative, ite_self, min_self]
  refine ⟨rfl, hmax, ?_, ?_, ⟨rfl, rfl, rfl⟩, rfl⟩
  · show min (finitePositive u.maxHp (UNIT_BASE_STATS u.unitId).hp) _ = finitePositive u.maxHp _
    rw [hmax, hhp]
  · show decide (min (finitePositive u.maxHp (UNIT_BASE_STATS u.unitId).hp) _ > 0) = true
    rw [hmax, hhp, decide_eq_true_eq]
    omega

theorem Fit.wellFormed {v : UnitInstance} (h : Fit side v) : 0 < v.hp ∧ v.hp ≤ v.maxHp ∧ 2 ≤ v.maxHp := by
  have hbase := base_hp v.unitId
  have hmax := h.maxHp
  have hhp := h.hp
  omega

/-- One side of a battle. -/
structure Team (side : Side) (board : Slots) (us : List UnitInstance) : Prop where
  slots : (us.map (·.slot)).Nodup
  slot_lt : ∀ v ∈ us, v.slot < board.length
  ids : us.map (·.instanceId) = (held board).map (·.instanceId)
  fit : ∀ v ∈ us, Fit side v

theorem unitsFromBoard_team {board : Slots} (h : ∀ u ∈ held board, Standard u) :
    ∃ us, unitsFromBoard board side = .ok us ∧ Team side board us := by
  obtain ⟨us, hus⟩ := unitsFromBoard_ok side fun u hu => (h u hu).star
  have hf := go_fielded (show unitsFromBoard.go side 0 board = .ok us from hus)
  refine ⟨us, hus, hf.order.imp Nat.ne_of_lt, fun v hv => ?_, hf.ids, fun v hv => ?_⟩
  · obtain ⟨-, u, -, hget, -⟩ := hf.entry v hv
    exact (List.getElem?_eq_some_iff.1 hget).1
  · obtain ⟨-, u, hu, -, hunit⟩ := hf.entry v hv
    exact fit_of_standard (h u hu) hunit

/-- **Two boards of standard units make a battle**, when no id is on both. -/
theorem battleOf_fresh {host : Host} {runtime : MatchRuntimeState}
    (hstandard : ∀ side, ∀ u ∈ held (sideState runtime side).board, Standard u)
    (hboard : ∀ side, (sideState runtime side).board.length = 9)
    (hids : ((held runtime.p1State.board ++ held runtime.p2State.board).map (·.instanceId)).Nodup) :
    ∃ battle : FreshBattle, battleOf host runtime = .ok battle.toBattleState ∧
      ∀ side, ∀ u ∈ unitsOf battle.boards side, 0 < u.hp ∧ u.hp ≤ u.maxHp := by
  obtain ⟨p1Units, hp1, h1⟩ := unitsFromBoard_team (hstandard .p1)
  obtain ⟨p2Units, hp2, h2⟩ := unitsFromBoard_team (hstandard .p2)
  have hteam : ∀ side, Team side (sideState runtime side).board (unitsOf ⟨p1Units, p2Units⟩ side) := by
    rintro (_ | _)
    · exact h1
    · exact h2
  have hfit : ∀ side, ∀ u ∈ unitsOf ⟨p1Units, p2Units⟩ side, Fit side u := fun side => (hteam side).fit
  refine ⟨⟨⟨⟨p1Units, p2Units, roundSeed host runtime.matchSeed runtime.round, runtime.matchSeed, none⟩,
    fun side u hu => (hfit side u hu).side, fun side => (hteam side).slots, fun side u hu => ?_, ?_,
    fun side u hu => ?_, fun side u hu => ?_, fun side u hu => ?_, fun side u hu => ?_⟩,
    fun side u hu => ?_⟩, ?_, fun side u hu => ?_⟩
  · have := (hteam side).slot_lt u hu
    have := hboard side
    omega
  · rw [List.map_append, h1.ids, h2.ids, ← List.map_append]
    exact hids
  · have := (hfit side u hu).wellFormed
    exact ⟨this.1.le, this.2⟩
  · rw [(hfit side u hu).alive, decide_eq_true (hfit side u hu).wellFormed.1]
  · rw [(hfit side u hu).unslowed.1]
    exact ⟨nofun, (hfit side u hu).unslowed.2.1⟩
  · rw [(hfit side u hu).unrevived]
    nofun
  · rw [currentSpd, (hfit side u hu).unslowed.2.2]
    rfl
  · rw [battleOf, show unitsFromBoard runtime.p1State.board .p1 = _ from hp1,
      show unitsFromBoard runtime.p2State.board .p2 = _ from hp2]
    rfl
  · have := (hfit side u hu).wellFormed
    exact ⟨this.1, this.2.1⟩

end

end AutoChess.Runtime
