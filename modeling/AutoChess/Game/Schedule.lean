/-
How often a unit acts. The schedule is recomputed every tick from the
unit's current SPD, so a change of SPD in the middle of a cycle can move a
later tick into it. A living unit changes SPD once in a battle, when a
healer first slows it, and healers act at ticks 50, 65 and 100 only; from
there the count is a finite matter, settled unit kind by unit kind
(`mostActs_le`).
-/
import AutoChess.Game.Slows

namespace AutoChess.Game

/-- Whether the turn is an action of the unit `id` in the cycle. -/
def Turn.isActionOf (cycle : Nat) (id : String) (t : Turn) : Bool :=
  t.cycle == cycle && t.unit.any (·.instanceId == id)

/-- How often the unit acts in the cycle. -/
def actions (ts : List Turn) (cycle : Nat) (id : String) : Nat := ts.countP (Turn.isActionOf cycle id)

/-- `floor(100 / cooldown)`, the documented number of actions per cycle. -/
def actionsPerCycle (unitId : UnitId) : Int := TICKS_PER_CYCLE / (TICKS_PER_CYCLE - spdFor unitId)

/-! ## The worst case -/

def spdWhen (unitId : UnitId) (isSlowed : Bool) : Int :=
  if isSlowed then max 0 (slowedSpd (spdFor unitId)) else spdFor unitId

/-- A tick at which healers act, slowed or not. -/
def healersAct (tick : Nat) : Bool := actsOnTick (spdWhen .healer false) tick || actsOnTick (spdWhen .healer true) tick

/-- The most actions the ticks leave a unit that may be slowed whenever healers act. -/
def mostActs (unitId : UnitId) : List Nat → Bool → Nat
  | [], _ => 0
  | tick :: ticks, isSlowed =>
    (actsOnTick (spdWhen unitId isSlowed) tick).toNat +
      if isSlowed then mostActs unitId ticks true
      else if healersAct tick then max (mostActs unitId ticks true) (mostActs unitId ticks false)
      else mostActs unitId ticks false

set_option maxRecDepth 100000 in
theorem mostActs_le (unitId : UnitId) (isSlowed : Bool) :
    (mostActs unitId (List.range' 1 TICKS_PER_CYCLE) isSlowed : Int) ≤ actionsPerCycle unitId := by
  cases unitId <;> cases isSlowed <;> decide +kernel

set_option maxRecDepth 100000 in
/-- At base SPD the schedule gives the documented number. -/
theorem acts_at_base (unitId : UnitId) :
    ((List.range' 1 TICKS_PER_CYCLE).countP (actsOnTick (spdFor unitId)) : Int) = actionsPerCycle unitId := by
  cases unitId <;> decide +kernel

/-! ## One tick -/

section
variable {localeCompare : String → String → Int} {past : List Turn} {sim : BattleSim} {initSide : Side}
  {cycle tick : Nat}

theorem mem_acting {u : UnitInstance} :
    u ∈ acting localeCompare initSide tick sim ↔
      u ∈ sim.units ∧ u.alive = true ∧ actsOnTick (currentSpd u) tick = true := by
  simp [acting, orderForTick, sortBy, List.mem_insertionSort]

theorem acting_nodup (hok : sim.Ok) : ((acting localeCompare initSide tick sim).map (·.instanceId)).Nodup := by
  have hperm : (acting localeCompare initSide tick sim).Perm
      (sim.units.filter fun u => u.alive && actsOnTick (currentSpd u) tick) := List.perm_insertionSort _ _
  refine (hperm.map _).nodup_iff.2 ?_
  exact hok.ids.sublist (List.filter_sublist.map _)

theorem Played.ages {last : BattleSim} {ts : List Turn} (h : Played localeCompare sim ts last)
    (hs : sim.Sound) : Ages sim last := by
  have hkept := h.history (I := fun _ s => s.Sound ∧ Ages sim s)
    (fun _ unit s cycle tick hI hfind halive => by
      obtain ⟨hsound, hages⟩ := unitAct_keeps localeCompare unit s cycle tick hI.1 hfind halive
      exact ⟨hsound, hI.2.trans hages⟩)
    (fun _ _ _ _ hI _ => hI) [] ⟨hs, Ages.refl sim⟩
  exact hkept.2

theorem actTurns_cycle {ids : List String} {t : Turn} :
    t ∈ actTurns localeCompare cycle tick ids sim → t.cycle = cycle ∧ ∃ id ∈ ids, t.unit.any (·.instanceId == id) := by
  induction ids generalizing sim with
  | nil => simp [actTurns]
  | cons id ids ih =>
    have hrest : ∀ {s}, t ∈ actTurns localeCompare cycle tick ids s →
        t.cycle = cycle ∧ ∃ id' ∈ id :: ids, t.unit.any (·.instanceId == id') := by
      intro s ht
      obtain ⟨hcycle, id', hid', hany⟩ := ih ht
      exact ⟨hcycle, id', List.mem_cons_of_mem id hid', hany⟩
    intro ht
    unfold actTurns at ht
    split at ht
    · exact hrest ht
    · next unit hfind =>
      split at ht
      · rcases List.mem_cons.1 ht with rfl | ht
        · exact ⟨rfl, id, by simp, by simp [actTurn, find_id hfind]⟩
        · exact hrest ht
      · exact hrest ht

/-- A unit that is not among the acting ones does not act. -/
theorem actTurns_count_zero {ids : List String} {id : String} (hid : id ∉ ids) (c : Nat) :
    actions (actTurns localeCompare cycle tick ids sim) c id = 0 := by
  rw [actions, List.countP_eq_zero]
  intro t ht hacts
  obtain ⟨-, id', hid', hany⟩ := actTurns_cycle ht
  unfold Turn.isActionOf at hacts
  cases hunit : t.unit with
  | none => simp [hunit] at hany
  | some unit =>
    have h₁ : unit.instanceId = id' := by simpa [hunit] using hany
    have h₂ : unit.instanceId = id := by
      have : t.cycle = c ∧ unit.instanceId = id := by simpa [hunit] using hacts
      exact this.2
    exact hid (by rwa [← h₂, h₁])

/-- A unit acts at most once in a tick. -/
theorem actTurns_count_le {ids : List String} (hnodup : ids.Nodup) (id : String) :
    actions (actTurns localeCompare cycle tick ids sim) cycle id ≤ 1 := by
  induction ids generalizing sim with
  | nil => simp [actTurns, actions]
  | cons first ids ih =>
    obtain ⟨hfirst, hnodup⟩ := List.nodup_cons.1 hnodup
    unfold actTurns
    split
    · exact ih hnodup
    · next unit hfind =>
      split
      · by_cases hself : first = id
        · subst hself
          have hrest := @actTurns_count_zero localeCompare (unitAct localeCompare unit sim cycle tick).1 cycle tick
            ids first hfirst cycle
          rw [actions] at hrest ⊢
          rw [List.countP_cons, hrest]
          split <;> omega
        · rw [actions, List.countP_cons_of_neg]
          · exact ih hnodup
          · simp [Turn.isActionOf, actTurn, find_id hfind, hself]
      · exact ih hnodup

/-- An acting unit that is alive at the end has acted. -/
theorem actTurns_count {ids : List String} {id : String} (hid : id ∈ ids) (hs : sim.Sound) {u : UnitInstance}
    (hu : u ∈ (actAll localeCompare cycle tick ids sim).1.units) (huid : u.instanceId = id)
    (halive : u.alive = true) : 1 ≤ actions (actTurns localeCompare cycle tick ids sim) cycle id := by
  induction ids generalizing sim with
  | nil => cases hid
  | cons first ids ih =>
    have hages : Ages sim (actAll localeCompare cycle tick (first :: ids) sim).1 :=
      (actTurns_played cycle tick (first :: ids) sim).ages hs
    obtain ⟨v, hv, haged⟩ := hages.from hu
    have hvid : v.instanceId = id := (congrArg Actor.instanceId haged.actor).symm.trans huid
    by_cases hself : first = id
    · -- It is found, and alive still.
      subst hself
      have hfind : sim.find first = some v := by
        obtain ⟨w, hw⟩ : ∃ w, sim.find first = some w := by
          rw [← Option.isSome_iff_exists, BattleSim.find, List.find?_isSome]
          exact ⟨v, hv, by simpa using hvid⟩
        have hwmem := mem_units _ (mem_of_find hs.ok hw)
        rw [hw, hs.ok.unique hwmem hv ((find_id hw).trans hvid.symm)]
      simp only [actTurns, hfind, haged.lived halive, ↓reduceIte]
      rw [actions, List.countP_cons_of_pos]
      · omega
      · simp [Turn.isActionOf, actTurn, hvid]
    · have hid' : id ∈ ids := (List.mem_cons.1 hid).resolve_left (Ne.symm hself)
      unfold actTurns
      unfold actAll at hu
      split
      · next hfind =>
        simp only [hfind] at hu
        exact ih hid' hs hu
      · next unit hfind =>
        simp only [hfind] at hu
        split
        · next hlives =>
          simp only [hlives, ↓reduceIte] at hu
          have hkeeps := unitAct_keeps localeCompare unit sim cycle tick hs (by rwa [find_id hfind]) hlives
          have hmore := ih hid' hkeeps.1 hu
          rw [actions] at hmore ⊢
          rw [List.countP_cons]
          omega
        · next hdead =>
          simp only [hdead, Bool.false_eq_true, ↓reduceIte] at hu
          exact ih hid' hs hu

/-- While no healer acts, nobody is slowed. -/
theorem actAll_unslowed {ids : List String} (h : SlowBooks localeCompare past sim)
    (hids : ∀ v ∈ sim.units, v.instanceId ∈ ids → v.unitId ≠ .healer) {u u' : UnitInstance} (hu : u ∈ sim.units)
    (howner : u.slowUntilHealerAct = none) (hu' : u' ∈ (actAll localeCompare cycle tick ids sim).1.units)
    (hid : u'.instanceId = u.instanceId) (halive : u'.alive = true) : u'.slowUntilHealerAct = none := by
  induction ids generalizing past sim u with
  | nil =>
    obtain rfl : u' = u := h.sound.ok.unique hu' hu hid
    exact howner
  | cons first ids ih =>
    have hids' : ∀ v ∈ sim.units, v.instanceId ∈ ids → v.unitId ≠ .healer :=
      fun v hv hmem => hids v hv (List.mem_cons_of_mem first hmem)
    unfold actAll at hu'
    split at hu'
    · exact ih h hids' hu howner hu' hid
    · next unit hfind =>
      split at hu'
      · next hlives =>
        have hself := find_id hfind
        have hfind' : sim.find unit.instanceId = some unit := by rwa [hself]
        have hunit := mem_units _ (mem_of_find h.sound.ok hfind)
        have hkind := hids unit hunit (by simp [hself])
        have hbooks : SlowBooks localeCompare (past ++ [actTurn localeCompare unit sim cycle tick])
            (unitAct localeCompare unit sim cycle tick).1 := h.act hfind' hlives
        obtain ⟨-, hages⟩ := unitAct_keeps localeCompare unit sim cycle tick h.sound hfind' hlives
        obtain ⟨v, hv, haged⟩ := hages.to hu
        have hvid : v.instanceId = u.instanceId := congrArg Actor.instanceId haged.actor
        have hlater : Ages (unitAct localeCompare unit sim cycle tick).1
            (actAll localeCompare cycle tick ids (unitAct localeCompare unit sim cycle tick).1).1 :=
          (actTurns_played cycle tick ids _).ages hbooks.sound
        have hvlives : v.alive = true := (hlater.aged hbooks.sound.ok hv hu' (hid.trans hvid.symm)).lived halive
        have hvowner : v.slowUntilHealerAct = none := by
          obtain ⟨w, hw, hwaged, hslow⟩ := h.act_unit hfind' hlives hv
          obtain rfl : w = u := h.sound.ok.unique hw hu ((congrArg Actor.instanceId hwaged.actor).symm.trans hvid)
          have hstate := hslow hvlives
          rw [if_neg (fun hs => hkind hs.1)] at hstate
          exact (congrArg (·.2.1) hstate).trans howner
        refine ih hbooks (fun x hx hmem => ?_) hv hvowner hu' (hid.trans hvid.symm)
        obtain ⟨y, hy, hyaged⟩ := hages.from hx
        have hyid : x.instanceId = y.instanceId := congrArg Actor.instanceId hyaged.actor
        have hykind : x.unitId = y.unitId := congrArg Actor.unitId hyaged.actor
        rw [hykind]
        exact hids' y hy (hyid ▸ hmem)
      · exact ih h hids' hu howner hu' hid

theorem SlowBooks.currentSpd (h : SlowBooks localeCompare past sim) {u : UnitInstance} (hu : u ∈ sim.units)
    (halive : u.alive = true) : currentSpd u = spdWhen u.unitId u.slowUntilHealerAct.isSome := by
  obtain ⟨howned, hfree⟩ := h.speed hu halive
  cases howner : u.slowUntilHealerAct with
  | none => simp [Game.currentSpd, (hfree howner).2, spdWhen]
  | some id => simp [Game.currentSpd, (howned (by simp [howner])).2, spdWhen]

/-- The boards after one tick. -/
def tickOn (localeCompare : String → String → Int) (initSide : Side) (cycle tick : Nat) (sim : BattleSim) : BattleSim :=
  (actAll localeCompare cycle tick ((acting localeCompare initSide tick sim).map (·.instanceId)) sim).1

/-- The turns of one tick. -/
def turnsOn (localeCompare : String → String → Int) (initSide : Side) (cycle tick : Nat) (sim : BattleSim) : List Turn :=
  actTurns localeCompare cycle tick ((acting localeCompare initSide tick sim).map (·.instanceId)) sim

theorem turnsOn_played : Played localeCompare sim (turnsOn localeCompare initSide cycle tick sim)
    (tickOn localeCompare initSide cycle tick sim) := actTurns_played _ _ _ _

/-- A unit is first slowed at a tick at which healers act. -/
theorem tick_slows (h : SlowBooks localeCompare past sim) {u u' : UnitInstance} (hu : u ∈ sim.units)
    (howner : u.slowUntilHealerAct = none) (hu' : u' ∈ (tickOn localeCompare initSide cycle tick sim).units)
    (hid : u'.instanceId = u.instanceId) (halive : u'.alive = true) (howner' : u'.slowUntilHealerAct ≠ none) :
    healersAct tick = true := by
  by_contra hnot
  refine howner' (actAll_unslowed h (fun v hv hmem hkind => hnot ?_) hu howner hu' hid halive)
  obtain ⟨w, hw, hwid⟩ := List.mem_map.1 hmem
  rw [mem_acting] at hw
  obtain ⟨hw, hlives, hacts⟩ := hw
  obtain rfl : w = v := h.sound.ok.unique hw hv hwid
  rw [h.currentSpd hw hlives, hkind] at hacts
  unfold healersAct
  cases hslow : w.slowUntilHealerAct.isSome <;> simp [hslow] at hacts <;> simp [hacts]

theorem mem_acting_ids (hok : sim.Ok) {u : UnitInstance} (hu : u ∈ sim.units) :
    u.instanceId ∈ (acting localeCompare initSide tick sim).map (·.instanceId) ↔
      u.alive = true ∧ actsOnTick (currentSpd u) tick = true := by
  rw [List.mem_map]
  constructor
  · rintro ⟨v, hv, hid⟩
    rw [mem_acting] at hv
    obtain rfl : v = u := hok.unique hv.1 hu hid
    exact hv.2
  · intro hacts
    exact ⟨u, mem_acting.2 ⟨hu, hacts⟩, rfl⟩

/-- In one tick a unit acts once at most, and only if it is alive and due. -/
theorem turnsOn_count_le (h : SlowBooks localeCompare past sim) {u : UnitInstance} (hu : u ∈ sim.units) :
    actions (turnsOn localeCompare initSide cycle tick sim) cycle u.instanceId ≤
      if u.alive = true then (actsOnTick (spdWhen u.unitId u.slowUntilHealerAct.isSome) tick).toNat else 0 := by
  have hmem := @mem_acting_ids localeCompare sim initSide tick h.sound.ok u hu
  by_cases hdue : u.alive = true ∧ actsOnTick (currentSpd u) tick = true
  · rw [if_pos hdue.1, ← h.currentSpd hu hdue.1, hdue.2]
    exact actTurns_count_le (acting_nodup h.sound.ok) _
  · unfold turnsOn
    rw [actTurns_count_zero (fun hin => hdue (hmem.1 hin))]
    exact Nat.zero_le _

/-- A unit that lives on and is due acts. -/
theorem turnsOn_count (h : SlowBooks localeCompare past sim) {u u' : UnitInstance} (hu : u ∈ sim.units)
    (hu' : u' ∈ (tickOn localeCompare initSide cycle tick sim).units) (hid : u'.instanceId = u.instanceId)
    (halive : u'.alive = true) :
    actions (turnsOn localeCompare initSide cycle tick sim) cycle u.instanceId =
      (actsOnTick (spdWhen u.unitId u.slowUntilHealerAct.isSome) tick).toNat := by
  have hages : Ages sim (tickOn localeCompare initSide cycle tick sim) := turnsOn_played.ages h.sound
  have hlives := (hages.aged h.sound.ok hu hu' hid).lived halive
  have hle := @turnsOn_count_le localeCompare past sim initSide cycle tick h u hu
  rw [if_pos hlives] at hle
  refine Nat.le_antisymm hle ?_
  by_cases hdue : actsOnTick (currentSpd u) tick = true
  · have hin := (@mem_acting_ids localeCompare sim initSide tick h.sound.ok u hu).2 ⟨hlives, hdue⟩
    have hmore := actTurns_count hin h.sound hu' hid halive
    rw [← h.currentSpd hu hlives, hdue]
    exact hmore
  · rw [← h.currentSpd hu hlives, Bool.eq_false_iff.2 hdue]
    exact Nat.zero_le _

/-! ## One cycle -/

theorem actions_append (a b : List Turn) (c : Nat) (id : String) :
    actions (a ++ b) c id = actions a c id + actions b c id := List.countP_append

theorem tickTurns_cons (ticks : List Nat) :
    tickTurns localeCompare initSide cycle (tick :: ticks) sim =
      turnsOn localeCompare initSide cycle tick sim ++
        tickTurns localeCompare initSide cycle ticks (tickOn localeCompare initSide cycle tick sim) := rfl

theorem runTicks_cons (ticks : List Nat) :
    (runTicks localeCompare initSide cycle (tick :: ticks) sim).1 =
      (runTicks localeCompare initSide cycle ticks (tickOn localeCompare initSide cycle tick sim)).1 := rfl

/-- Over the ticks to come a unit acts at most as often as the worst case
allows. -/
theorem tickTurns_count_le (ticks : List Nat) (h : SlowBooks localeCompare past sim) {u : UnitInstance}
    (hu : u ∈ sim.units) :
    actions (tickTurns localeCompare initSide cycle ticks sim) cycle u.instanceId ≤
      if u.alive = true then mostActs u.unitId ticks u.slowUntilHealerAct.isSome else 0 := by
  induction ticks generalizing past sim u with
  | nil => simp [tickTurns, actions]
  | cons tick ticks ih =>
    have hplayed := @turnsOn_played localeCompare sim initSide cycle tick
    have hbooks := hplayed.slowBooks h
    obtain ⟨u', hu', haged⟩ := (hplayed.ages h.sound).to hu
    have hid : u'.instanceId = u.instanceId := congrArg Actor.instanceId haged.actor
    have hkind : u'.unitId = u.unitId := congrArg Actor.unitId haged.actor
    have hnow := @turnsOn_count_le localeCompare past sim initSide cycle tick h u hu
    have hlater := ih hbooks hu'
    rw [hid, hkind] at hlater
    rw [tickTurns_cons, actions_append]
    by_cases hdead : u'.alive = true
    · rw [if_pos hdead] at hlater
      have hlives := haged.lived hdead
      rw [if_pos hlives] at hnow ⊢
      have hrest : actions (tickTurns localeCompare initSide cycle ticks
          (tickOn localeCompare initSide cycle tick sim)) cycle u.instanceId ≤
          if u.slowUntilHealerAct.isSome then mostActs u.unitId ticks true
          else if healersAct tick then max (mostActs u.unitId ticks true) (mostActs u.unitId ticks false)
          else mostActs u.unitId ticks false := by
        refine hlater.trans ?_
        cases howner : u.slowUntilHealerAct with
        | some id =>
          have := hplayed.slow_lasts h hu (by simp [howner]) u' hu' hid hdead
          simp [Option.isSome_iff_ne_none.2 this]
        | none =>
          cases howner' : u'.slowUntilHealerAct with
          | none =>
            simp only [Option.isSome_none, Bool.false_eq_true, ↓reduceIte]
            split
            · exact le_max_right _ _
            · exact le_rfl
          | some id =>
            have := tick_slows h hu howner hu' hid hdead (by simp [howner'])
            simp only [Option.isSome_none, Option.isSome_some, Bool.false_eq_true, ↓reduceIte, this]
            exact le_max_left _ _
      rw [mostActs]
      omega
    · rw [if_neg hdead] at hlater
      split
      · next hlives =>
        rw [if_pos hlives] at hnow
        rw [mostActs]
        omega
      · next hlives =>
        rw [if_neg hlives] at hnow
        omega

/-- A unit that comes out of the ticks alive and at its base SPD acted at
every tick its base SPD sets. -/
theorem tickTurns_count (ticks : List Nat) (h : SlowBooks localeCompare past sim) {u last : UnitInstance}
    (hu : u ∈ sim.units) (hlast : last ∈ (runTicks localeCompare initSide cycle ticks sim).1.units)
    (hid : last.instanceId = u.instanceId) (halive : last.alive = true) (howner : last.slowUntilHealerAct = none) :
    actions (tickTurns localeCompare initSide cycle ticks sim) cycle u.instanceId =
      ticks.countP (actsOnTick (spdFor u.unitId)) := by
  induction ticks generalizing past sim u with
  | nil => simp [tickTurns, actions]
  | cons tick ticks ih =>
    have hplayed := @turnsOn_played localeCompare sim initSide cycle tick
    have hbooks := hplayed.slowBooks h
    have hwhole := @tickTurns_played localeCompare initSide cycle (tick :: ticks) sim
    have hafter := @tickTurns_played localeCompare initSide cycle ticks (tickOn localeCompare initSide cycle tick sim)
    rw [runTicks_cons] at hlast hwhole
    obtain ⟨u', hu', haged⟩ := (hplayed.ages h.sound).to hu
    have hid' : u'.instanceId = u.instanceId := congrArg Actor.instanceId haged.actor
    have hkind : u'.unitId = u.unitId := congrArg Actor.unitId haged.actor
    have hlives' : u'.alive = true :=
      ((hafter.ages hbooks.sound).aged hbooks.sound.ok hu' hlast (hid.trans hid'.symm)).lived halive
    have hunslowed : u.slowUntilHealerAct = none := by
      by_contra hslow
      exact hwhole.slow_lasts h hu hslow last hlast hid halive howner
    have hnow := turnsOn_count h hu hu' hid' hlives'
    have hlater := ih hbooks hu' hlast (hid.trans hid'.symm)
    rw [hid', hkind] at hlater
    rw [tickTurns_cons, actions_append, hnow, hlater, List.countP_cons, hunslowed]
    simp only [spdWhen, Option.isSome_none, Bool.false_eq_true, ↓reduceIte]
    cases actsOnTick (spdFor u.unitId) tick <;> simp [Nat.add_comm]

/-! ## The whole battle -/

theorem tickTurns_cycle {ticks : List Nat} {t : Turn} (ht : t ∈ tickTurns localeCompare initSide cycle ticks sim) :
    t.cycle = cycle ∧ t.unit ≠ none := by
  induction ticks generalizing sim with
  | nil => cases ht
  | cons tick ticks ih =>
    rw [tickTurns_cons] at ht
    rcases List.mem_append.1 ht with ht | ht
    · obtain ⟨hcycle, id, -, hany⟩ := actTurns_cycle ht
      refine ⟨hcycle, fun hnone => ?_⟩
      rw [hnone] at hany
      cases hany
    · exact ih ht

theorem actions_zero {ts : List Turn} {c : Nat} {id : String} (h : ∀ t ∈ ts, t.unit ≠ none → t.cycle ≠ c) :
    actions ts c id = 0 := by
  rw [actions, List.countP_eq_zero]
  intro t ht hacts
  simp only [Turn.isActionOf, Bool.and_eq_true, beq_iff_eq] at hacts
  refine h t ht (fun hnone => ?_) hacts.1
  rw [hnone] at hacts
  cases hacts.2

theorem cycleTurns_cycle {cycles : List Nat} {t : Turn} (ht : t ∈ cycleTurns localeCompare initSide cycles sim)
    (hunit : t.unit ≠ none) : t.cycle ∈ cycles := by
  induction cycles generalizing sim with
  | nil =>
    obtain rfl : t = _ := List.mem_singleton.1 ht
    exact absurd rfl hunit
  | cons first cycles ih =>
    unfold cycleTurns at ht
    dsimp only at ht
    rcases List.mem_append.1 ht with ht | ht
    · exact (tickTurns_cycle ht).1 ▸ List.mem_cons_self
    · rcases List.mem_cons.1 ht with rfl | ht
      · exact absurd rfl hunit
      · split at ht
        · obtain rfl : t = _ := List.mem_singleton.1 ht
          exact absurd rfl hunit
        · exact List.mem_cons_of_mem first (ih ht)

theorem cycleTurns_closes {cycles : List Nat} {c : Nat} {closed : BattleSim}
    (ht : closeTurn c (.cycleEnd c) closed ∈ cycleTurns localeCompare initSide cycles sim) : c ∈ cycles := by
  induction cycles generalizing sim with
  | nil =>
    have := List.mem_singleton.1 ht
    simp [closeTurn] at this
  | cons first cycles ih =>
    unfold cycleTurns at ht
    dsimp only at ht
    rcases List.mem_append.1 ht with ht | ht
    · exact absurd rfl (tickTurns_cycle ht).2
    · rcases List.mem_cons.1 ht with heq | ht
      · have : c = first := congrArg Turn.cycle heq
        simp [this]
      · split at ht
        · have := List.mem_singleton.1 ht
          simp [closeTurn] at this
        · exact List.mem_cons_of_mem first (ih ht)

/-- No cycle sees a unit act more often than its base SPD sets. -/
theorem cycleTurns_count_le (cycles : List Nat) (hnodup : cycles.Nodup) (h : SlowBooks localeCompare past sim)
    {u : UnitInstance} (hu : u ∈ sim.units) (c : Nat) :
    (actions (cycleTurns localeCompare initSide cycles sim) c u.instanceId : Int) ≤ actionsPerCycle u.unitId := by
  have hpos : 0 ≤ actionsPerCycle u.unitId := by cases u.unitId <;> decide
  induction cycles generalizing past sim u with
  | nil =>
    rw [actions_zero]
    · exact hpos
    · intro t ht hunit
      exact absurd (cycleTurns_cycle ht hunit) (by simp)
  | cons first cycles ih =>
    obtain ⟨hfirst, hnodup⟩ := List.nodup_cons.1 hnodup
    have hplayed := @tickTurns_played localeCompare initSide first (List.range' 1 TICKS_PER_CYCLE) sim
    have hmost := mostActs_le u.unitId
    unfold cycleTurns
    generalize List.range' 1 TICKS_PER_CYCLE = ticks at *
    dsimp only
    rw [actions_append]
    have hcloses : ∀ {kind s} {rest : List Turn}, actions (closeTurn first kind s :: rest) c u.instanceId =
        actions rest c u.instanceId := by
      intro kind s rest
      rw [actions, actions, List.countP_cons_of_neg]
      simp [Turn.isActionOf, closeTurn]
    rw [hcloses]
    by_cases hc : first = c
    · subst hc
      have hcount : ∀ rest : List Turn, (∀ t ∈ rest, t.unit ≠ none → t.cycle ≠ first) →
          ((actions (tickTurns localeCompare initSide first ticks sim) first u.instanceId +
            actions rest first u.instanceId : Nat) : Int) ≤ actionsPerCycle u.unitId := by
        intro rest hrest
        have hle := @tickTurns_count_le localeCompare past sim initSide first ticks h u hu
        have hworst := hmost u.slowUntilHealerAct.isSome
        rw [actions_zero hrest]
        split at hle <;> omega
      refine hcount _ fun t ht hunit hcycle => ?_
      split at ht
      · obtain rfl : t = _ := List.mem_singleton.1 ht
        exact hunit rfl
      · exact hfirst (hcycle ▸ cycleTurns_cycle ht hunit)
    · rw [actions_zero (fun t ht _ hcycle => hc ((tickTurns_cycle ht).1.symm.trans hcycle)), Nat.zero_add]
      split
      · rw [hcloses]
        exact hpos
      · obtain ⟨u', hu', haged⟩ := (hplayed.ages h.sound).to hu
        have hid : u'.instanceId = u.instanceId := congrArg Actor.instanceId haged.actor
        have hkind : u'.unitId = u.unitId := congrArg Actor.unitId haged.actor
        have hlater := ih hnodup (hplayed.slowBooks h) hu' (by rwa [hkind])
        rwa [hid, hkind] at hlater

/-- In a cycle it ends alive and unslowed, a unit acts as often as its base
SPD sets. -/
theorem cycleTurns_count (cycles : List Nat) (hnodup : cycles.Nodup) (h : SlowBooks localeCompare past sim)
    {u : UnitInstance} (hu : u ∈ sim.units) {c : Nat} {closed : BattleSim}
    (hclosed : closeTurn c (.cycleEnd c) closed ∈ cycleTurns localeCompare initSide cycles sim)
    (hlast : ∀ v ∈ closed.units, v.instanceId = u.instanceId → v.alive = true ∧ v.slowActive ≠ some true) :
    (actions (cycleTurns localeCompare initSide cycles sim) c u.instanceId : Int) = actionsPerCycle u.unitId := by
  induction cycles generalizing past sim u with
  | nil =>
    obtain hclosed := List.mem_singleton.1 hclosed
    simp [closeTurn] at hclosed
  | cons first cycles ih =>
    obtain ⟨hfirst, hnodup⟩ := List.nodup_cons.1 hnodup
    have hplayed := @tickTurns_played localeCompare initSide first (List.range' 1 TICKS_PER_CYCLE) sim
    have hbase := acts_at_base u.unitId
    unfold cycleTurns at hclosed ⊢
    generalize List.range' 1 TICKS_PER_CYCLE = ticks at *
    dsimp only at hclosed ⊢
    rw [actions_append]
    obtain ⟨u', hu', haged⟩ := (hplayed.ages h.sound).to hu
    have hid : u'.instanceId = u.instanceId := congrArg Actor.instanceId haged.actor
    have hkind : u'.unitId = u.unitId := congrArg Actor.unitId haged.actor
    have hbooks := hplayed.slowBooks h
    have hnot : closeTurn c (.cycleEnd c) closed ∉ tickTurns localeCompare initSide first ticks sim :=
      fun hmem => (tickTurns_cycle hmem).2 rfl
    replace hclosed := List.mem_cons.1 ((List.mem_append.1 hclosed).resolve_left hnot)
    have hcloses : ∀ {kind s} {rest : List Turn}, actions (closeTurn first kind s :: rest) c u.instanceId =
        actions rest c u.instanceId := by
      intro kind s rest
      rw [actions, actions, List.countP_cons_of_neg]
      simp [Turn.isActionOf, closeTurn]
    rw [hcloses]
    by_cases hc : first = c
    · subst hc
      have hcount : ∀ rest : List Turn, (∀ t ∈ rest, t.unit ≠ none → t.cycle ≠ first) →
          closed = (runTicks localeCompare initSide first ticks sim).1 →
          ((actions (tickTurns localeCompare initSide first ticks sim) first u.instanceId +
            actions rest first u.instanceId : Nat) : Int) = actionsPerCycle u.unitId := by
        rintro rest hrest rfl
        obtain ⟨halive, hactive⟩ := hlast u' hu' hid
        have howner : u'.slowUntilHealerAct = none := by
          by_contra hslow
          exact hactive ((hbooks.speed hu' halive).1 hslow).1
        rw [actions_zero hrest, tickTurns_count ticks h hu hu' hid halive howner, Nat.add_zero]
        exact hbase
      refine hcount _ (fun t ht hunit hcycle => ?_) ?_
      · split at ht
        · obtain rfl : t = _ := List.mem_singleton.1 ht
          exact hunit rfl
        · exact hfirst (hcycle ▸ cycleTurns_cycle ht hunit)
      · rcases hclosed with hclosed | hclosed
        · simpa [closeTurn] using hclosed
        · -- A cycle is closed once.
          split at hclosed
          · simp [closeTurn] at hclosed
          · exact absurd (cycleTurns_closes hclosed) hfirst
    · rw [actions_zero (fun t ht _ hcycle => hc ((tickTurns_cycle ht).1.symm.trans hcycle)), Nat.zero_add]
      have hclosed' := hclosed.resolve_left (fun heq => hc (congrArg Turn.cycle heq).symm)
      split at hclosed'
      · simp [closeTurn] at hclosed'
      · next hstands =>
        rw [if_neg hstands]
        have hlater := ih hnodup hbooks hu' hclosed' (by rwa [hid])
        rwa [hid, hkind] at hlater

/-- No unit acts more often in a cycle than its base SPD sets; and a unit that
is alive and not slowed in any turn of a cycle played to its end acts exactly
as often. -/
structure OnSchedule (units : List UnitInstance) (ts : List Turn) : Prop where
  atMost : ∀ cycle, ∀ u ∈ units, (actions ts cycle u.instanceId : Int) ≤ actionsPerCycle u.unitId
  exactly : ∀ cycle, ∀ u ∈ units, (∃ closed, closeTurn cycle (.cycleEnd cycle) closed ∈ ts) →
    (∀ t ∈ ts, t.cycle = cycle → ∀ v ∈ t.before.units ++ t.after.units, v.instanceId = u.instanceId →
      v.alive = true ∧ v.slowActive ≠ some true) →
    (actions ts cycle u.instanceId : Int) = actionsPerCycle u.unitId

/-- **A slow never grants an action**, also when it lands in the middle of a
cycle. -/
theorem runBattle_onSchedule (localeCompare : String → String → Int) (battle : FreshBattle) :
    OnSchedule battle.boards.units (turns localeCompare battle.toBattleState) := by
  have hnodup : (List.range' 1 MAX_CYCLES).Nodup := List.nodup_range'
  have hbooks : SlowBooks localeCompare [] (cloneSim battle.toBattleState) := battle.slowBooks
  have hunit : ∀ u ∈ battle.boards.units, cloneUnit u ∈ (cloneSim battle.toBattleState).units := by
    intro u hu
    rw [units_eq, List.mem_append] at hu ⊢
    rw [unitsOf_cloneSim, unitsOf_cloneSim]
    exact hu.imp (List.mem_map_of_mem) (List.mem_map_of_mem)
  refine ⟨fun cycle u hu => cycleTurns_count_le _ hnodup hbooks (hunit u hu) cycle,
    fun cycle u hu hclosed hall => ?_⟩
  obtain ⟨closed, hclosed⟩ := hclosed
  refine cycleTurns_count _ hnodup hbooks (hunit u hu) hclosed fun v hv hid => ?_
  exact hall _ hclosed rfl v (List.mem_append_right _ hv) hid

end

end AutoChess.Game
