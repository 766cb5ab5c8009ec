/-
The documented target. `Prescribed` states the targeting rules over the set
of alive enemies: which of them are candidates, and which candidate comes
first, by HP for a ranger and then by col, row and instanceId. `pickTarget`
meets it but for one branch, which takes the first 2★ tank of the array.
-/
import AutoChess.Game.Seats
import Mathlib.Data.List.MinMax

namespace AutoChess.Game

def aliveEnemies (attacker : UnitInstance) (sim : BattleSim) : List UnitInstance :=
  (unitsOf sim (enemySideOf attacker.side)).filter (·.alive)

def isTank2 (u : UnitInstance) : Bool := u.unitId == .tank && u.star == 2

/-- Only fighters, tanks and healers are steered to a 2★ tank. -/
def steered (attacker : UnitInstance) : Bool :=
  attacker.unitId == .fighter || attacker.unitId == .tank || attacker.unitId == .healer

/-! ## The documented order -/

/-- The lane aimed at: the attacker's, or the first that has enemies. -/
def InLane (attacker : UnitInstance) (enemies : List UnitInstance) (u : UnitInstance) : Prop :=
  if ∃ v ∈ enemies, v.col = attacker.col then u.col = attacker.col else ∀ v ∈ enemies, u.col ≤ v.col

/-- The front-most row of the lane aimed at. -/
def InFront (attacker : UnitInstance) (enemies : List UnitInstance) (u : UnitInstance) : Prop :=
  InLane attacker enemies u ∧ ∀ v ∈ enemies, v.col = u.col → u.row ≤ v.row

/-- The enemies among which ties are broken. -/
def Candidate (attacker : UnitInstance) (enemies : List UnitInstance) (u : UnitInstance) : Prop :=
  u ∈ enemies ∧
    if attacker.unitId = .ranger ∧ attacker.star = 2 then True
    else if attacker.unitId ≠ .ranger ∧ ∃ v ∈ enemies, isTank2 v = true then isTank2 u = true
    else InFront attacker enemies u

variable (localeCompare : String → String → Int)

/-- Lowest col, then lowest row, then lowest instanceId. -/
def ComesFirst (u v : UnitInstance) : Prop :=
  u.col < v.col ∨ u.col = v.col ∧
    (u.row < v.row ∨ u.row = v.row ∧ localeCompare u.instanceId v.instanceId < 0)

/-- The candidate the rules single out. -/
def Prescribed (attacker : UnitInstance) (enemies : List UnitInstance) (u : UnitInstance) : Prop :=
  Candidate attacker enemies u ∧ ∀ v, Candidate attacker enemies v → v ≠ u →
    if attacker.unitId = .ranger then u.hp < v.hp ∨ u.hp = v.hp ∧ ComesFirst localeCompare u v
    else ComesFirst localeCompare u v

/-- The attacker is not steered, or at most one alive enemy is a 2★ tank. -/
def Uncrowded (attacker : UnitInstance) (sim : BattleSim) : Prop :=
  steered attacker = true → ∀ a ∈ aliveEnemies attacker sim, ∀ b ∈ aliveEnemies attacker sim,
    isTank2 a = true → isTank2 b = true → a = b

/-! ## `pickTarget`, branch by branch -/

/-- The front-most units of the attacker's lane, or of the first lane with enemies. -/
def baseCandidates (attacker : UnitInstance) (enemies : List UnitInstance) : List UnitInstance :=
  let sameLane := firstNonEmptyRow (enemies.filter (·.col == attacker.col))
  if sameLane.isEmpty then firstNonEmptyLane enemies else sameLane

theorem pickTarget_eq (attacker : UnitInstance) (sim : BattleSim) :
    pickTarget localeCompare attacker sim =
      let enemies := aliveEnemies attacker sim
      let candidates := baseCandidates attacker enemies
      if enemies.isEmpty then none
      else if attacker.unitId == .ranger && attacker.star == 2 then lowestHp localeCompare enemies
      else (if steered attacker then enemies.find? isTank2 else none).or
        (if attacker.unitId == .ranger then lowestHp localeCompare candidates
         else (byPositionThenId localeCompare candidates).head?) := by
  unfold pickTarget
  dsimp only
  rw [show (unitsOf sim (enemySideOf attacker.side)).filter (·.alive) = aliveEnemies attacker sim from rfl]
  generalize aliveEnemies attacker sim = enemies
  split
  · rfl
  split
  · rfl
  rw [show (if attacker.unitId == .fighter || attacker.unitId == .tank || attacker.unitId == .healer then
      enemies.find? fun e => e.unitId == .tank && e.star == 2 else none) =
      if steered attacker then enemies.find? isTank2 else none from rfl]
  cases (if steered attacker then enemies.find? isTank2 else none) <;> rfl

section
variable {localeCompare : String → String → Int} {units enemies : List UnitInstance}

/-- The first group that is not empty. -/
theorem mem_firstGroup {α : Type} {group : Nat → List α} {u : α} :
    u ∈ ((([0, 1, 2].map group).find? (!·.isEmpty)).getD []) ↔
      ∃ i ≤ 2, u ∈ group i ∧ ∀ j < i, group j = [] := by
  have hfirst : (([0, 1, 2].map group).find? (!·.isEmpty)).getD [] =
      if group 0 = [] then (if group 1 = [] then group 2 else group 1) else group 0 := by
    cases h0 : group 0 <;> cases h1 : group 1 <;> cases h2 : group 2 <;> simp [h0, h1, h2]
  rw [hfirst]
  constructor
  · intro h
    by_cases h0 : group 0 = []
    · by_cases h1 : group 1 = []
      · rw [if_pos h0, if_pos h1] at h
        refine ⟨2, le_rfl, h, fun j hj => ?_⟩
        obtain rfl | rfl : j = 0 ∨ j = 1 := by omega
        · exact h0
        · exact h1
      · rw [if_pos h0, if_neg h1] at h
        refine ⟨1, by omega, h, fun j hj => ?_⟩
        obtain rfl : j = 0 := by omega
        exact h0
    · rw [if_neg h0] at h
      exact ⟨0, by omega, h, fun j hj => absurd hj (Nat.not_lt_zero j)⟩
  · rintro ⟨i, hi, hu, hbefore⟩
    have hne : group i ≠ [] := List.ne_nil_of_mem hu
    obtain rfl | rfl | rfl : i = 0 ∨ i = 1 ∨ i = 2 := by omega
    · rwa [if_neg hne]
    · rwa [if_pos (hbefore 0 (by omega)), if_neg hne]
    · rwa [if_pos (hbefore 0 (by omega)), if_pos (hbefore 1 (by omega))]

theorem firstGroup_sublist {α : Type} {group : Nat → List α} {l : List α} (h : ∀ i, (group i).Sublist l) :
    ((([0, 1, 2].map group).find? (!·.isEmpty)).getD []).Sublist l := by
  cases hfind : ([0, 1, 2].map group).find? (!·.isEmpty) with
  | none => exact List.nil_sublist l
  | some found =>
    obtain ⟨i, -, rfl⟩ := List.mem_map.1 (List.mem_of_find?_eq_some hfind)
    exact h i

theorem firstNonEmptyRow_sublist : (firstNonEmptyRow units).Sublist units :=
  firstGroup_sublist fun _ => List.filter_sublist

theorem firstNonEmptyLane_sublist : (firstNonEmptyLane units).Sublist units :=
  firstGroup_sublist fun _ => firstNonEmptyRow_sublist.trans List.filter_sublist

theorem baseCandidates_sublist {attacker : UnitInstance} :
    (baseCandidates attacker units).Sublist units := by
  unfold baseCandidates
  dsimp only
  split
  · exact firstNonEmptyLane_sublist
  · exact firstNonEmptyRow_sublist.trans List.filter_sublist

theorem mem_firstNonEmptyRow (hrow : ∀ u ∈ units, u.row ≤ 2) {u : UnitInstance} :
    u ∈ firstNonEmptyRow units ↔ u ∈ units ∧ ∀ v ∈ units, u.row ≤ v.row := by
  refine (@mem_firstGroup _ (fun row => units.filter (·.row == row)) u).trans ?_
  simp only [List.mem_filter, beq_iff_eq, List.filter_eq_nil_iff]
  constructor
  · rintro ⟨i, -, ⟨hu, rfl⟩, hbefore⟩
    exact ⟨hu, fun v hv => not_lt.1 fun hlt => hbefore _ hlt v hv rfl⟩
  · rintro ⟨hu, hleast⟩
    refine ⟨u.row, hrow u hu, ⟨hu, rfl⟩, fun j hj v hv heq => ?_⟩
    have := hleast v hv
    omega

theorem firstNonEmptyRow_nil (hrow : ∀ u ∈ units, u.row ≤ 2) : firstNonEmptyRow units = [] ↔ units = [] := by
  constructor
  · intro h
    by_contra hne
    -- A unit of least row would be in it.
    cases hleast : units.argmin (·.row) with
    | none => exact hne (List.argmin_eq_none.1 hleast)
    | some u =>
      have hmem := (mem_firstNonEmptyRow hrow).2
        ⟨List.argmin_mem hleast, fun v hv => List.le_of_mem_argmin hv hleast⟩
      simp [h] at hmem
  · rintro rfl
    rfl

theorem mem_firstNonEmptyLane (hrow : ∀ u ∈ units, u.row ≤ 2) {u : UnitInstance} :
    u ∈ firstNonEmptyLane units ↔
      u ∈ units ∧ (∀ v ∈ units, u.col ≤ v.col) ∧ ∀ v ∈ units, v.col = u.col → u.row ≤ v.row := by
  have hlane : ∀ col u, u ∈ firstNonEmptyRow (units.filter (·.col == col)) ↔
      (u ∈ units ∧ u.col = col) ∧ ∀ v ∈ units, v.col = col → u.row ≤ v.row := by
    intro col u
    rw [mem_firstNonEmptyRow fun v hv => hrow v (List.mem_of_mem_filter hv)]
    simp only [List.mem_filter, beq_iff_eq, and_imp]
  have hnone : ∀ col, firstNonEmptyRow (units.filter (·.col == col)) = [] ↔ ∀ v ∈ units, v.col ≠ col := by
    intro col
    rw [firstNonEmptyRow_nil fun v hv => hrow v (List.mem_of_mem_filter hv), List.filter_eq_nil_iff]
    simp only [beq_iff_eq, ne_eq]
  refine (@mem_firstGroup _ (fun col => firstNonEmptyRow (units.filter (·.col == col))) u).trans ?_
  simp only [hlane, hnone]
  constructor
  · rintro ⟨i, -, ⟨⟨hu, rfl⟩, hfront⟩, hbefore⟩
    exact ⟨hu, fun v hv => not_lt.1 fun hlt => hbefore _ hlt v hv rfl, hfront⟩
  · rintro ⟨hu, hleast, hfront⟩
    have hcol : u.col < 3 := Nat.mod_lt _ (by omega)
    refine ⟨u.col, by omega, ⟨⟨hu, rfl⟩, hfront⟩, fun j hj v hv heq => ?_⟩
    have := hleast v hv
    omega

theorem mem_baseCandidates (hrow : ∀ u ∈ enemies, u.row ≤ 2) {attacker u : UnitInstance} :
    u ∈ baseCandidates attacker enemies ↔ u ∈ enemies ∧ InFront attacker enemies u := by
  have hlane : ∀ v ∈ enemies.filter (·.col == attacker.col), v.row ≤ 2 :=
    fun v hv => hrow v (List.mem_of_mem_filter hv)
  unfold baseCandidates InFront InLane
  dsimp only
  by_cases hsome : ∃ v ∈ enemies, v.col = attacker.col
  · obtain ⟨v, hv, hcol⟩ := hsome
    have hne : ¬ (firstNonEmptyRow (enemies.filter (·.col == attacker.col))).isEmpty = true := by
      rw [List.isEmpty_iff, firstNonEmptyRow_nil hlane, List.filter_eq_nil_iff]
      exact fun h => h v hv (by simpa using hcol)
    rw [if_neg hne, if_pos ⟨v, hv, hcol⟩, mem_firstNonEmptyRow hlane]
    simp only [List.mem_filter, beq_iff_eq, and_imp]
    constructor
    · rintro ⟨⟨hu, hself⟩, hfront⟩
      exact ⟨hu, hself, fun w hw heq => hfront w hw (heq.trans hself)⟩
    · rintro ⟨hu, hself, hfront⟩
      exact ⟨⟨hu, hself⟩, fun w hw heq => hfront w hw (heq.trans hself.symm)⟩
  · have hnil : (firstNonEmptyRow (enemies.filter (·.col == attacker.col))).isEmpty = true := by
      rw [List.isEmpty_iff, firstNonEmptyRow_nil hlane, List.filter_eq_nil_iff]
      exact fun v hv h => hsome ⟨v, hv, by simpa using h⟩
    rw [if_pos hnil, if_neg hsome, mem_firstNonEmptyLane hrow]

/-! ## Ties -/

theorem ComesFirst.asymm (hplaced : Placed units) {u v : UnitInstance} (hu : u ∈ units) (hv : v ∈ units)
    (huv : ComesFirst localeCompare u v) (hvu : ComesFirst localeCompare v u) : u = v := by
  unfold ComesFirst at huv hvu
  refine hplaced.unique hu hv ?_ ?_ <;> omega

/-- The order of the columns, then the rows, as one number. -/
def positionKey (u : UnitInstance) : Nat := u.col * 3 + u.row

theorem Placed.keys (h : Placed units) : (units.map positionKey).Nodup := by
  refine List.Nodup.map_on (fun u hu v hv heq => ?_) (List.Nodup.of_map _ h.slots)
  have hu' := h.row_le u hu
  have hv' := h.row_le v hv
  unfold positionKey at heq
  exact h.unique hu hv (by omega) (by omega)

theorem Placed.ordersBy (h : Placed units) :
    Sorting.OrdersBy positionKey (fun a b => comparePosition localeCompare a b ≤ 0) units := by
  intro a ha b hb hne
  have ha' := h.row_le a ha
  have hb' := h.row_le b hb
  unfold positionKey at hne ⊢
  unfold comparePosition
  by_cases hcol : a.col = b.col
  · by_cases hrow : a.row = b.row
    · simp [hcol, hrow] at hne
    · simp only [bne_iff_ne, ne_eq, hcol, not_true, if_false, hrow, not_false_eq_true, if_true]
      omega
  · simp only [bne_iff_ne, ne_eq, hcol, not_false_eq_true, if_true]
    omega

theorem comesFirst_of_key (h : Placed units) {u v : UnitInstance} (hu : u ∈ units) (hv : v ∈ units)
    (hle : positionKey u ≤ positionKey v) (hne : u ≠ v) : ComesFirst localeCompare u v := by
  have hu' := h.row_le u hu
  have hv' := h.row_le v hv
  have hcol : u.col = v.col → u.row ≠ v.row := fun hcol hrow => hne (h.unique hu hv hcol hrow)
  unfold positionKey at hle
  unfold ComesFirst
  omega

/-- The position sort puts first what comes first. -/
theorem byPositionThenId_pairwise (h : Placed units) :
    (byPositionThenId localeCompare units).Pairwise (ComesFirst localeCompare) := by
  have hsorted := (@Placed.ordersBy localeCompare units h).pairwise h.keys
  have hmem : ∀ {u}, u ∈ byPositionThenId localeCompare units → u ∈ units := mem_byPositionThenId.1
  have hnodup : (byPositionThenId localeCompare units).Nodup :=
    (List.perm_insertionSort _ units).nodup_iff.2 (List.Nodup.of_map _ h.slots)
  exact (hsorted.and hnodup).imp_of_mem fun ha hb hab =>
    comesFirst_of_key h (hmem ha) (hmem hb) hab.1 hab.2

/-- The fold of `lowestHp`: it keeps the first of the lowest, or leaves its
start for something strictly lower. -/
theorem foldl_lowest {lt : UnitInstance → UnitInstance → Prop} {rest : List UnitInstance}
    (hsorted : rest.Pairwise lt) (a : UnitInstance) :
    let least := rest.foldl (fun a b => if b.hp < a.hp then b else a) a
    (least = a ∧ ∀ v ∈ rest, a.hp ≤ v.hp) ∨
      (least ∈ rest ∧ least.hp < a.hp ∧
        ∀ v ∈ rest, v ≠ least → least.hp < v.hp ∨ least.hp = v.hp ∧ lt least v) := by
  induction rest generalizing a with
  | nil => exact .inl ⟨rfl, by simp⟩
  | cons b rest ih =>
    obtain ⟨hb, hrest⟩ := List.pairwise_cons.1 hsorted
    simp only [List.foldl_cons]
    by_cases hlt : b.hp < a.hp
    · rw [if_pos hlt]
      refine .inr ?_
      rcases ih hrest b with ⟨heq, hle⟩ | ⟨hmem, hless, hothers⟩
      · rw [heq]
        refine ⟨List.mem_cons_self .., hlt, fun v hv hne => ?_⟩
        have hv := (List.mem_cons.1 hv).resolve_left hne
        exact (hle v hv).lt_or_eq.imp_right fun h => ⟨h, hb v hv⟩
      · refine ⟨List.mem_cons_of_mem b hmem, hless.trans hlt, fun v hv hne => ?_⟩
        rcases List.mem_cons.1 hv with rfl | hv
        · exact .inl hless
        · exact hothers v hv hne
    · rw [if_neg hlt]
      rcases ih hrest a with ⟨heq, hle⟩ | ⟨hmem, hless, hothers⟩
      · exact .inl ⟨heq, List.forall_mem_cons.2 ⟨not_lt.1 hlt, hle⟩⟩
      · refine .inr ⟨List.mem_cons_of_mem b hmem, hless, fun v hv hne => ?_⟩
        rcases List.mem_cons.1 hv with rfl | hv
        · exact .inl (lt_of_lt_of_le hless (not_lt.1 hlt))
        · exact hothers v hv hne

theorem lowestHp_first (h : Placed units) {u : UnitInstance} (hu : lowestHp localeCompare units = some u) :
    u ∈ units ∧ ∀ v ∈ units, v ≠ u → u.hp < v.hp ∨ u.hp = v.hp ∧ ComesFirst localeCompare u v := by
  refine ⟨lowestHp_mem hu, fun v hv hne => ?_⟩
  have hsorted := @byPositionThenId_pairwise localeCompare units h
  unfold lowestHp at hu
  rw [← @mem_byPositionThenId localeCompare] at hv
  cases hlist : byPositionThenId localeCompare units with
  | nil => simp [hlist] at hv
  | cons a rest =>
    rw [hlist] at hsorted hv
    simp only [hlist, Option.some.injEq] at hu
    obtain ⟨ha, hrest⟩ := List.pairwise_cons.1 hsorted
    rcases foldl_lowest hrest a with ⟨heq, hle⟩ | ⟨-, hless, hothers⟩
    · rw [hu] at heq
      subst heq
      have hv := (List.mem_cons.1 hv).resolve_left hne
      exact (hle v hv).lt_or_eq.imp_right fun h => ⟨h, ha v hv⟩
    · rw [hu] at hless hothers
      rcases List.mem_cons.1 hv with rfl | hv
      · exact .inl hless
      · exact hothers v hv hne

theorem byPositionThenId_first (h : Placed units) {u : UnitInstance}
    (hu : (byPositionThenId localeCompare units).head? = some u) :
    u ∈ units ∧ ∀ v ∈ units, v ≠ u → ComesFirst localeCompare u v := by
  refine ⟨mem_byPositionThenId.1 (List.mem_of_head? hu), fun v hv hne => ?_⟩
  have hsorted := @byPositionThenId_pairwise localeCompare units h
  rw [← @mem_byPositionThenId localeCompare] at hv
  obtain ⟨rest, hlist⟩ := List.head?_eq_some_iff.1 hu
  rw [hlist] at hsorted hv
  exact (List.pairwise_cons.1 hsorted).1 v ((List.mem_cons.1 hv).resolve_left hne)

/-! ## The documented target is picked -/

theorem Prescribed.unique {attacker u v : UnitInstance} (hplaced : Placed enemies)
    (hu : Prescribed localeCompare attacker enemies u) (hv : Prescribed localeCompare attacker enemies v) :
    u = v := by
  by_contra hne
  have huv := hu.2 v hv.1 (Ne.symm hne)
  have hvu := hv.2 u hu.1 hne
  have hasymm := @ComesFirst.asymm localeCompare enemies hplaced u v hu.1.1 hv.1.1
  split at huv
  · next hranger =>
    rw [if_pos hranger] at hvu
    rcases huv with hlt | ⟨heq, huv⟩
    · rcases hvu with hgt | ⟨heq, -⟩ <;> omega
    · rcases hvu with hgt | ⟨-, hvu⟩
      · omega
      · exact hne (hasymm huv hvu)
  · next hranger =>
    rw [if_neg hranger] at hvu
    exact hne (hasymm huv hvu)

theorem steered_iff {attacker : UnitInstance} : steered attacker = true ↔ attacker.unitId ≠ .ranger := by
  cases h : attacker.unitId <;> simp [steered, h]

/-- Unless two 2★ tanks compete, the target picked is the one prescribed. -/
theorem pickTarget_prescribed {attacker : UnitInstance} {sim : BattleSim}
    (hplaced : Placed (unitsOf sim (enemySideOf attacker.side))) (huncrowded : Uncrowded attacker sim)
    {u : UnitInstance} (hu : pickTarget localeCompare attacker sim = some u) :
    Prescribed localeCompare attacker (aliveEnemies attacker sim) u := by
  have hsub : Placed (aliveEnemies attacker sim) := hplaced.sub List.filter_sublist
  unfold Uncrowded at huncrowded
  rw [pickTarget_eq] at hu
  dsimp only at hu
  generalize aliveEnemies attacker sim = enemies at *
  have hbase : ∀ {v}, v ∈ baseCandidates attacker enemies ↔ v ∈ enemies ∧ InFront attacker enemies v :=
    mem_baseCandidates hsub.row_le
  split at hu
  · cases hu
  split at hu
  · next hglobal =>
    simp only [Bool.and_eq_true, beq_iff_eq] at hglobal
    obtain ⟨hmem, hleast⟩ := lowestHp_first hsub hu
    refine ⟨⟨hmem, by rw [if_pos hglobal]; trivial⟩, fun v hv hne => ?_⟩
    rw [if_pos hglobal.1]
    exact hleast v hv.1 hne
  next hglobal =>
  simp only [Bool.and_eq_true, beq_iff_eq] at hglobal
  by_cases htanks : attacker.unitId ≠ .ranger ∧ ∃ v ∈ enemies, isTank2 v = true
  · -- Steered: the tank found is the only one.
    have hcandidate : ∀ v, Candidate attacker enemies v ↔ v ∈ enemies ∧ isTank2 v = true := by
      intro v
      rw [Candidate, if_neg hglobal, if_pos htanks]
    rw [if_pos (steered_iff.2 htanks.1)] at hu
    cases hfind : enemies.find? isTank2 with
    | none =>
      obtain ⟨v, hv, htank⟩ := htanks.2
      exact absurd htank (List.find?_eq_none.1 hfind v hv)
    | some tank =>
      have hmem := List.mem_of_find?_eq_some hfind
      have htank := List.find?_some hfind
      obtain rfl : tank = u := by simpa [hfind] using hu
      refine ⟨(hcandidate tank).2 ⟨hmem, htank⟩, fun v hv hne => ?_⟩
      obtain ⟨hv, hvtank⟩ := (hcandidate v).1 hv
      exact absurd (huncrowded (steered_iff.2 htanks.1) v hv tank hmem hvtank htank) hne
  · have hcandidate : ∀ v, Candidate attacker enemies v ↔ v ∈ baseCandidates attacker enemies := by
      intro v
      rw [Candidate, if_neg hglobal, if_neg htanks, hbase]
    have hnone : (if steered attacker then enemies.find? isTank2 else none) = none := by
      split
      · next hsteered =>
        refine List.find?_eq_none.2 fun v hv htank => htanks ⟨steered_iff.1 hsteered, v, hv, htank⟩
      · rfl
    rw [hnone, Option.none_or] at hu
    have hcandidates : Placed (baseCandidates attacker enemies) := hsub.sub baseCandidates_sublist
    by_cases hranger : attacker.unitId = .ranger
    · rw [if_pos (by simpa using hranger)] at hu
      obtain ⟨hmem, hleast⟩ := lowestHp_first hcandidates hu
      refine ⟨(hcandidate u).2 hmem, fun v hv hne => ?_⟩
      rw [if_pos hranger]
      exact hleast v ((hcandidate v).1 hv) hne
    · rw [if_neg (by simpa using hranger)] at hu
      obtain ⟨hmem, hfirst⟩ := byPositionThenId_first hcandidates hu
      refine ⟨(hcandidate u).2 hmem, fun v hv hne => ?_⟩
      rw [if_neg hranger]
      exact hfirst v ((hcandidate v).1 hv) hne

theorem head?_byPositionThenId_none : (byPositionThenId localeCompare units).head? = none ↔ units = [] := by
  rw [List.head?_eq_none_iff]
  constructor
  · intro h
    refine List.eq_nil_iff_forall_not_mem.2 fun u hu => ?_
    rw [← @mem_byPositionThenId localeCompare, h] at hu
    cases hu
  · rintro rfl
    rfl

theorem lowestHp_none : lowestHp localeCompare units = none ↔ units = [] := by
  rw [← @head?_byPositionThenId_none localeCompare]
  unfold lowestHp
  cases byPositionThenId localeCompare units <;> simp

theorem baseCandidates_nil (h : Placed units) {attacker : UnitInstance}
    (hnil : baseCandidates attacker units = []) : units = [] := by
  unfold baseCandidates at hnil
  dsimp only at hnil
  split at hnil
  · cases hleast : units.argmin positionKey with
    | none => exact List.argmin_eq_none.1 hleast
    | some u =>
      have hu := List.argmin_mem hleast
      have hfirst : u ∈ firstNonEmptyLane units := by
        refine (mem_firstNonEmptyLane h.row_le).2 ⟨hu, fun v hv => ?_, fun v hv hcol => ?_⟩
        all_goals
          have hle := List.le_of_mem_argmin hv hleast
          have hu' := h.row_le u hu
          have hv' := h.row_le v hv
          unfold positionKey at hle
          omega
      simp [hnil] at hfirst
  · next hne => simp [hnil] at hne

/-- Someone is picked as long as an enemy is alive. -/
theorem pickTarget_none {attacker : UnitInstance} {sim : BattleSim}
    (hplaced : Placed (unitsOf sim (enemySideOf attacker.side))) :
    pickTarget localeCompare attacker sim = none ↔ aliveEnemies attacker sim = [] := by
  have hsub : Placed (aliveEnemies attacker sim) := hplaced.sub List.filter_sublist
  rw [pickTarget_eq]
  dsimp only
  generalize aliveEnemies attacker sim = enemies at *
  by_cases hnil : enemies = []
  · simp [hnil]
  have hbase : baseCandidates attacker enemies ≠ [] := fun h => hnil (baseCandidates_nil hsub h)
  rw [if_neg (by simpa using hnil), iff_false_intro hnil, iff_false]
  split
  · rwa [lowestHp_none]
  · intro h
    obtain ⟨-, h⟩ := Option.or_eq_none_iff.1 h
    split at h
    · exact hbase (lowestHp_none.1 h)
    · exact hbase (head?_byPositionThenId_none.1 h)

end

end AutoChess.Game
