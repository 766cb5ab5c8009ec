/-
Slots. A unit stands on a slot of its own, so the orders the engine sorts by
never need the ids they end on: col and row tell enemies apart, and side,
SPD and slot the units of a tick. What a sort returns does not depend on the
order of the arrays.
-/
import AutoChess.Game.Health
import AutoChess.Lib.Sorting
import Mathlib.Data.Prod.Lex

namespace AutoChess.Game

/-- Units on slots of their own. -/
structure Placed (units : List UnitInstance) : Prop where
  slots : (units.map (·.slot)).Nodup
  slot_le : ∀ u ∈ units, u.slot ≤ 8

/-- Both teams are placed. -/
def Seated (sim : BattleSim) : Prop := ∀ side, Placed (unitsOf sim side)

section
variable {units : List UnitInstance}

theorem Placed.unique (h : Placed units) {u v : UnitInstance} (hu : u ∈ units) (hv : v ∈ units)
    (hcol : u.col = v.col) (hrow : u.row = v.row) : u = v := by
  refine List.inj_on_of_nodup_map h.slots hu hv ?_
  simp only [UnitInstance.col, UnitInstance.row] at hcol hrow
  omega

theorem Placed.sub {units' : List UnitInstance} (h : Placed units) (hsub : units'.Sublist units) :
    Placed units' :=
  ⟨h.slots.sublist (hsub.map _), fun u hu => h.slot_le u (hsub.subset hu)⟩

theorem Placed.row_le (h : Placed units) : ∀ u ∈ units, u.row ≤ 2 := by
  intro u hu
  have := h.slot_le u hu
  simp only [UnitInstance.row]
  omega

end

section
variable {sim : BattleSim}

theorem Ages.seated {sim' : BattleSim} (h : Ages sim sim') (hseated : Seated sim) : Seated sim' := by
  obtain ⟨f, rfl, hf⟩ := h
  intro side
  have hslot : ∀ u ∈ unitsOf sim side, (f u).slot = u.slot :=
    fun u hu => congrArg Actor.slot (hf u (mem_units side hu)).actor
  rw [BattleSim.each, unitsOf_map]
  refine ⟨?_, fun u hu => ?_⟩
  · have hslots : ((unitsOf sim side).map f).map (·.slot) = (unitsOf sim side).map (·.slot) := by
      rw [List.map_map]
      exact List.map_congr_left hslot
    rw [hslots]
    exact (hseated side).slots
  · obtain ⟨v, hv, rfl⟩ := List.mem_map.1 hu
    exact (hslot v hv).trans_le ((hseated side).slot_le v hv)

theorem Battle.seated (battle : Battle) : Seated (cloneSim battle.toBattleState) := by
  intro side
  rw [unitsOf_cloneSim]
  refine ⟨?_, fun u hu => ?_⟩
  · rw [List.map_map]
    exact battle.slots side
  · obtain ⟨v, hv, rfl⟩ := List.mem_map.1 hu
    exact battle.slot_le side v hv

theorem Seated.unique (h : Seated sim) (hok : sim.Ok) {u v : UnitInstance} (hu : u ∈ sim.units)
    (hv : v ∈ sim.units) (hside : u.side = v.side) (hslot : u.slot = v.slot) : u = v :=
  List.inj_on_of_nodup_map (h v.side).slots (mem_unitsOf hok hu hside) (mem_unitsOf hok hv rfl) hslot

/-! ## The order of a tick -/

/-- The tie-tick order as one key: side, SPD, then slot, which is row and
then col. -/
def tickKey (initSide : Side) (u : UnitInstance) : Nat ×ₗ (Int ×ₗ Nat) :=
  toLex (if u.side = initSide then 0 else 1, toLex (-currentSpd u, u.slot))

theorem tickKey_ordersBy {localeCompare : String → String → Int} {initSide : Side}
    {units : List UnitInstance} :
    Sorting.OrdersBy (tickKey initSide) (fun a b => compareForTick localeCompare initSide a b ≤ 0) units := by
  intro a _ b _ hne
  have hle : tickKey initSide a ≤ tickKey initSide b ↔
      (if a.side = initSide then 0 else 1) < (if b.side = initSide then 0 else 1) ∨
        (if a.side = initSide then 0 else 1) = (if b.side = initSide then 0 else 1) ∧
          (-currentSpd a < -currentSpd b ∨ -currentSpd a = -currentSpd b ∧ a.slot ≤ b.slot) := by
    simp only [tickKey, Prod.Lex.toLex_le_toLex]
  rw [hle]
  unfold compareForTick
  by_cases hside : a.side = b.side
  · simp only [hside, bne_self_eq_false, Bool.false_eq_true, if_false, lt_self_iff_false, false_or, true_and]
    by_cases hspd : currentSpd a = currentSpd b
    · have hslot : a.slot ≠ b.slot := fun h => hne (by simp only [tickKey, hside, hspd, h])
      simp only [hspd, bne_self_eq_false, Bool.false_eq_true, if_false, lt_self_iff_false, false_or, true_and]
      simp only [UnitInstance.row, UnitInstance.col, bne_iff_ne, ne_eq]
      split
      · omega
      · rw [if_pos (by omega)]
        omega
    · simp only [bne_iff_ne, ne_eq, hspd, not_false_eq_true, if_true]
      omega
  · simp only [bne_iff_ne, ne_eq, hside, not_false_eq_true, if_true, beq_iff_eq]
    by_cases ha : a.side = initSide
    · have hb : b.side ≠ initSide := fun hb => hside (ha.trans hb.symm)
      simp [ha, hb]
    · have hb : b.side = initSide := by
        cases ha' : a.side <;> cases hb' : b.side <;> cases initSide <;> simp_all
      simp [ha, hb]

/-- **The order of a tick does not depend on the order of the arrays.** -/
theorem orderForTick_eq_of_perm {localeCompare : String → String → Int} {initSide : Side}
    {units units' : List UnitInstance} (hok : sim.Ok) (hseated : Seated sim) (hunits : units.Nodup)
    (hsub : ∀ u ∈ units, u ∈ sim.units) (hp : units.Perm units') :
    orderForTick localeCompare units initSide = orderForTick localeCompare units' initSide := by
  refine tickKey_ordersBy.eq_of_perm (hunits.map_on fun u hu v hv heq => ?_) hp
  have hkey := congrArg ofLex heq
  simp only [tickKey, ofLex_toLex, Prod.mk.injEq, EmbeddingLike.apply_eq_iff_eq] at hkey
  obtain ⟨hrank, -, hslot⟩ := hkey
  refine hseated.unique hok (hsub u hu) (hsub v hv) ?_ hslot
  cases hu' : u.side <;> cases hv' : v.side <;> cases initSide <;> simp_all

end

end AutoChess.Game
