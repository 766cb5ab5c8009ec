/-
A unit does not leave a target while it lives. Targets are picked anew at
every action, but the boards a unit picks from only lose units: ids, kinds
and slots stay, and the dead stay dead. The first 2★ tank of the array that
lives is the first until it dies, and slots being distinct, one unit stands in
front of the lane. Only a 2★ ranger, who goes by HP, changes her mind.
-/
import AutoChess.Game.Targets

namespace AutoChess.Game

section
variable {localeCompare : String → String → Int} {sim : BattleSim}

theorem find?_lasting {p : UnitInstance → Bool} {f : UnitInstance → UnitInstance} {units : List UnitInstance}
    {u : UnitInstance} (hu : units.find? p = some u) (hp : ∀ v ∈ units, p (f v) = true → p v = true)
    (hfu : p (f u) = true) : (units.map f).find? p = some (f u) := by
  induction units with
  | nil => cases hu
  | cons v units ih =>
    rw [List.map_cons, List.find?_cons]
    by_cases hv : p v = true
    · obtain rfl : v = u := by simpa [List.find?_cons, hv] using hu
      simp [hfu]
    · have hfv : p (f v) = false := by
        rw [Bool.eq_false_iff]
        exact fun h => hv (hp v (by simp) h)
      rw [hfv]
      have hv' : p v = false := by simpa using hv
      rw [List.find?_cons, hv'] at hu
      exact ih hu fun w hw => hp w (List.mem_cons_of_mem v hw)

theorem InFront.unique {attacker u v : UnitInstance} {enemies : List UnitInstance} (hplaced : Placed enemies)
    (hu : u ∈ enemies) (hv : v ∈ enemies) (hfu : InFront attacker enemies u) (hfv : InFront attacker enemies v) :
    u = v := by
  have hcol : u.col = v.col := by
    obtain ⟨hlu, -⟩ := hfu
    obtain ⟨hlv, -⟩ := hfv
    unfold InLane at hlu hlv
    split at hlu
    · next hlane =>
      rw [if_pos hlane] at hlv
      exact hlu.trans hlv.symm
    · next hlane =>
      rw [if_neg hlane] at hlv
      exact Nat.le_antisymm (hlu v hv) (hlv u hu)
  have hrow : u.row = v.row := Nat.le_antisymm (hfu.2 v hv hcol.symm) (hfv.2 u hu hcol)
  exact hplaced.unique hu hv hcol hrow

/-- Enemies that age and die leave the front of the lane to who stood there,
as long as it lives. -/
theorem InFront.lasting {attacker attacker' u : UnitInstance} {enemies enemies' : List UnitInstance}
    {f : UnitInstance → UnitInstance} (hcol : attacker'.col = attacker.col) (hu : f u ∈ enemies')
    (hfrom : ∀ v' ∈ enemies', ∃ v ∈ enemies, v'.slot = v.slot) (hslot : (f u).slot = u.slot)
    (h : InFront attacker enemies u) : InFront attacker' enemies' (f u) := by
  have hfu : (f u).col = u.col := congrArg (· % 3) hslot
  have hru : (f u).row = u.row := congrArg (· / 3) hslot
  have hplace : ∀ v' ∈ enemies', ∃ v ∈ enemies, v'.col = v.col ∧ v'.row = v.row := by
    intro v' hv'
    obtain ⟨v, hv, hsame⟩ := hfrom v' hv'
    exact ⟨v, hv, congrArg (· % 3) hsame, congrArg (· / 3) hsame⟩
  refine ⟨?_, fun v' hv' hsame => ?_⟩
  · have hlane := h.1
    unfold InLane at hlane ⊢
    by_cases hbefore : ∃ v ∈ enemies, v.col = attacker.col
    · rw [if_pos hbefore] at hlane
      have hin : (f u).col = attacker'.col := by omega
      rw [if_pos ⟨f u, hu, hin⟩]
      exact hin
    · rw [if_neg hbefore] at hlane
      rw [if_neg]
      · intro v' hv'
        obtain ⟨v, hv, hvcol, -⟩ := hplace v' hv'
        have := hlane v hv
        omega
      · rintro ⟨v', hv', hin⟩
        obtain ⟨v, hv, hvcol, -⟩ := hplace v' hv'
        exact hbefore ⟨v, hv, by omega⟩
  · obtain ⟨v, hv, hvcol, hvrow⟩ := hplace v' hv'
    have := h.2 v hv (by omega)
    omega

/-- The pick in the front of the lane. -/
def frontPick (localeCompare : String → String → Int) (attacker : UnitInstance) (enemies : List UnitInstance) :
    Option UnitInstance :=
  if attacker.unitId == .ranger then lowestHp localeCompare (baseCandidates attacker enemies)
  else (byPositionThenId localeCompare (baseCandidates attacker enemies)).head?

theorem frontPick_mem {attacker u : UnitInstance} {enemies : List UnitInstance}
    (h : frontPick localeCompare attacker enemies = some u) : u ∈ baseCandidates attacker enemies := by
  unfold frontPick at h
  split at h
  · exact lowestHp_mem h
  · exact mem_byPositionThenId.1 (List.mem_of_mem_head? h)

theorem frontPick_none {attacker : UnitInstance} {enemies : List UnitInstance} :
    frontPick localeCompare attacker enemies = none ↔ baseCandidates attacker enemies = [] := by
  unfold frontPick
  split
  · exact lowestHp_none
  · exact head?_byPositionThenId_none

/-- What a unit that does not go by HP aims at: the tank it is steered to, or
the front of its lane. -/
theorem pickTarget_front {attacker : UnitInstance} (hnot : ¬ (attacker.unitId = .ranger ∧ attacker.star = 2)) :
    pickTarget localeCompare attacker sim =
      (if steered attacker then (aliveEnemies attacker sim).find? isTank2 else none).or
        (frontPick localeCompare attacker (aliveEnemies attacker sim)) := by
  rw [pickTarget_eq]
  dsimp only
  by_cases hnil : aliveEnemies attacker sim = []
  · have hbase : baseCandidates attacker [] = [] := List.sublist_nil.1 baseCandidates_sublist
    rw [hnil, frontPick_none.2 hbase]
    simp
  · rw [if_neg (by simpa using hnil), if_neg (by simpa using hnot)]
    rfl

/-- **A unit does not leave a target while it lives**, whoever else dies,
revives or is healed; only a 2★ ranger may. -/
theorem pickTarget_lasting {sim' : BattleSim} {attacker attacker' target u : UnitInstance} (hok : sim.Ok)
    (hseated : Seated sim) (hages : Ages sim sim') (hnot : ¬ (attacker.unitId = .ranger ∧ attacker.star = 2))
    (hactor : attacker'.actor = attacker.actor) (ht : pickTarget localeCompare attacker sim = some target)
    (hu : u ∈ sim'.units) (hid : u.instanceId = target.instanceId) (halive : u.alive = true) :
    pickTarget localeCompare attacker' sim' = some u := by
  have hseated' := hages.seated hseated
  obtain ⟨f, rfl, hf⟩ := hages
  obtain ⟨hmem, -⟩ := pickTarget_mem ht
  have hside : attacker'.side = attacker.side := congrArg Actor.side hactor
  have hkind : attacker'.unitId = attacker.unitId := congrArg Actor.unitId hactor
  have hstar : attacker'.star = attacker.star := congrArg Actor.star hactor
  have hactors : ∀ v ∈ unitsOf sim (enemySideOf attacker.side), (f v).actor = v.actor :=
    fun v hv => (hf v (mem_units _ hv)).actor
  obtain rfl : u = f target := by
    rw [units_each, List.mem_map] at hu
    obtain ⟨v, hv, rfl⟩ := hu
    have hvid : (f v).instanceId = v.instanceId := congrArg Actor.instanceId (hf v hv).actor
    rw [hok.unique hv (mem_units _ hmem) (hvid.symm.trans hid)]
  have henemies : aliveEnemies attacker' (sim.each f) =
      ((unitsOf sim (enemySideOf attacker.side)).map f).filter (·.alive) := by
    rw [aliveEnemies, hside, BattleSim.each, unitsOf_map]
  have hlived : ∀ v ∈ unitsOf sim (enemySideOf attacker.side), (f v).alive = true → v.alive = true := by
    intro v hv hal
    by_contra hdead
    have := (hf v (mem_units _ hv)).dead (by simpa using hdead)
    simp [this] at hal
  have htank : ∀ v ∈ unitsOf sim (enemySideOf attacker.side), isTank2 (f v) = isTank2 v := by
    intro v hv
    have hunit : (f v).unitId = v.unitId := congrArg Actor.unitId (hactors v hv)
    have hstars : (f v).star = v.star := congrArg Actor.star (hactors v hv)
    rw [isTank2, hunit, hstars]
    rfl
  have hsteered : steered attacker' = steered attacker := by
    unfold steered
    rw [hkind]
  rw [pickTarget_front hnot] at ht
  rw [pickTarget_front (by rwa [hkind, hstar]), hsteered]
  cases hfind : (if steered attacker then (aliveEnemies attacker sim).find? isTank2 else none) with
  | some tank =>
    -- Steered to a 2★ tank: it stays the first of the array that is alive.
    obtain rfl : tank = target := by simpa [hfind] using ht
    have hsteer : steered attacker = true := by
      by_contra hno
      rw [if_neg hno] at hfind
      cases hfind
    rw [if_pos hsteer] at hfind ⊢
    have hlater : (aliveEnemies attacker' (sim.each f)).find? isTank2 = some (f tank) := by
      rw [henemies, List.find?_filter]
      rw [aliveEnemies, List.find?_filter] at hfind
      refine find?_lasting hfind (fun v hv hp => ?_) ?_
      · simp only [Bool.decide_and, Bool.decide_eq_true, Bool.and_eq_true] at hp ⊢
        exact ⟨hlived v hv hp.1, (htank v hv).symm.trans hp.2⟩
      · have := List.find?_some hfind
        simp only [Bool.decide_and, Bool.decide_eq_true, Bool.and_eq_true] at this ⊢
        exact ⟨halive, (htank tank hmem).trans this.2⟩
    rw [hlater, Option.some_or]
  | none =>
    have hnone : (if steered attacker then (aliveEnemies attacker' (sim.each f)).find? isTank2 else none) = none := by
      by_cases hsteer : steered attacker = true
      · rw [if_pos hsteer] at hfind ⊢
        rw [List.find?_eq_none]
        intro v' hv' hp
        rw [henemies, List.mem_filter, List.mem_map] at hv'
        obtain ⟨⟨v, hv, rfl⟩, hal⟩ := hv'
        refine List.find?_eq_none.1 hfind v ?_ ((htank v hv).symm.trans hp)
        exact List.mem_filter.2 ⟨hv, hlived v hv hal⟩
      · rw [if_neg hsteer]
    rw [hfind, Option.none_or] at ht
    rw [hnone, Option.none_or]
    have hplaced : Placed (aliveEnemies attacker sim) := (hseated _).sub List.filter_sublist
    have hplaced' : Placed (aliveEnemies attacker' (sim.each f)) := (hseated' _).sub List.filter_sublist
    have hmem' : f target ∈ aliveEnemies attacker' (sim.each f) := by
      rw [henemies, List.mem_filter]
      exact ⟨List.mem_map_of_mem hmem, halive⟩
    have hfront : InFront attacker' (aliveEnemies attacker' (sim.each f)) (f target) := by
      have hbefore := (mem_baseCandidates hplaced.row_le).1 (frontPick_mem ht)
      refine hbefore.2.lasting (congrArg (· % 3) (congrArg Actor.slot hactor)) hmem' (fun v' hv' => ?_)
        (congrArg Actor.slot (hactors target hmem))
      rw [henemies, List.mem_filter, List.mem_map] at hv'
      obtain ⟨⟨v, hv, rfl⟩, hal⟩ := hv'
      exact ⟨v, List.mem_filter.2 ⟨hv, hlived v hv hal⟩, congrArg Actor.slot (hactors v hv)⟩
    cases hpick : frontPick localeCompare attacker' (aliveEnemies attacker' (sim.each f)) with
    | none =>
      rw [frontPick_none] at hpick
      rw [baseCandidates_nil hplaced' hpick] at hmem'
      cases hmem'
    | some v =>
      have hv := (mem_baseCandidates hplaced'.row_le).1 (frontPick_mem hpick)
      rw [hv.2.unique hplaced' hv.1 hmem' hfront]

end

end AutoChess.Game
