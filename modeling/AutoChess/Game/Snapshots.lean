/-
Whose board a snapshot is. An event's `unitStates` is documented as the board
after this event, and `attachSnapshot` as called after every push; the loop
attaches it after the whole action. So the events of an action carry their
own boards exactly when nothing but the first of them changes a snapshot
(`reportsAlone`): no lifesteal of a hurt fighter, no pierce, no heal after a
hit and no second heal.
-/
import AutoChess.Game.Replay
import Mathlib.Algebra.Order.BigOperators.Group.List
import Mathlib.Data.List.Find

namespace AutoChess.Game

/-- The unit an event restores HP to, and the amount it reports. -/
def EventKind.gain : EventKind → Option (String × Int)
  | .heal _ _ target _ amount _ => some (target.instanceId, amount)
  | .lifesteal _ _ unit amount _ => some (unit.instanceId, amount)
  | _ => none

/-- The event carries the board right after it: the board before it, changed
by the event's own effect, and by the amount it reports if it reports one. -/
structure After (board : List UnitSnapshot) (e : CombatEvent) : Prop where
  effect : e.unitStates = effect e.kind board
  gain : ∀ id amount, e.kind.gain = some (id, amount) →
    e.unitStates = onUnit id (fun s => { s with hp := s.hp + amount }) board

/-- Every event of the log carries the board right after it. -/
def Stepwise : List UnitSnapshot → List CombatEvent → Prop
  | _, [] => True
  | board, e :: rest => After board e ∧ Stepwise e.unitStates rest

/-! ## What an action may change -/

/-- A heal would change this unit's HP. -/
def wounded (target : Option UnitInstance) : Bool := target.any fun u => 0 < healAmount u

variable (localeCompare : String → String → Int)

/-- The ally a healer heals first. -/
def firstAlly (healer : UnitInstance) (sim : BattleSim) : Option UnitInstance :=
  lowestHpAlly localeCompare (unitsOf sim healer.side) none

/-- The ally a 2★ healer heals next. -/
def secondAlly (healer : UnitInstance) (sim : BattleSim) : Option UnitInstance :=
  if healer.star == 2 then
    lowestHpAlly localeCompare (unitsOf sim healer.side) (firstAlly localeCompare healer sim)
  else none

/-- On these boards the unit's action changes the snapshot with its first
event only. -/
def reportsAlone (unit : UnitInstance) (sim : BattleSim) : Bool :=
  let first := wounded (firstAlly localeCompare unit sim)
  let second := wounded (secondAlly localeCompare unit sim)
  match pickTarget localeCompare unit sim with
  | none => unit.unitId != .healer || !(first && second)
  | some target =>
    match unit.unitId with
    | .fighter => unit.star == 0 || unit.maxHp ≤ unit.hp
    | .tank => true
    | .ranger => unit.star != 1 || (unitBehind unit target sim).isNone
    | .healer => !first && !second

/-! ## Stretches of a log -/

/-- A stretch of events that all carry one board, and what follows it. -/
theorem stepwise_append {board after : List UnitSnapshot} {a b : List CombatEvent}
    (hboards : ∀ e ∈ a, e.unitStates = after) (hnone : a = [] → board = after) :
    Stepwise board (a ++ b) ↔ Stepwise board a ∧ Stepwise after b := by
  induction a generalizing board with
  | nil => simp [Stepwise, hnone rfl]
  | cons e a ih =>
    obtain ⟨rfl, hrest⟩ := List.forall_mem_cons.1 hboards
    simp only [List.cons_append, Stepwise, ih hrest fun _ => rfl, and_assoc]

/-- Events that all carry the board before them. -/
theorem stepwise_still {board : List UnitSnapshot} {kinds : List EventKind} :
    Stepwise board (kinds.map (⟨·, board⟩)) ↔ ∀ kind ∈ kinds, After board ⟨kind, board⟩ := by
  induction kinds with
  | nil => simp [Stepwise]
  | cons kind kinds ih => simp only [List.map_cons, Stepwise, ih, List.forall_mem_cons]

/-- The events of a turn carry one board, so only the first may change it. -/
theorem stepwise_cons {board after : List UnitSnapshot} {kind : EventKind} {kinds : List EventKind} :
    Stepwise board ((kind :: kinds).map (⟨·, after⟩)) ↔
      After board ⟨kind, after⟩ ∧ ∀ kind ∈ kinds, After after ⟨kind, after⟩ := by
  rw [← stepwise_still]
  rfl

/-! ## Changed boards -/

/-- The HP on a board, all units together. -/
def boardHp (board : List UnitSnapshot) : Int := (board.map (·.hp)).sum

section
variable {localeCompare : String → String → Int} {sim : BattleSim} {cycle tick : Nat}

theorem snapshot_update_ne {f : UnitInstance → UnitInstance} {u : UnitInstance} (hu : u ∈ sim.units)
    (hne : (f u).hp ≠ u.hp) : snapshotAllUnits (sim.update u.instanceId f) ≠ snapshotAllUnits sim := by
  intro h
  have heach : sim.update u.instanceId f =
      sim.each fun v => if v.instanceId == u.instanceId then f v else v := rfl
  rw [heach, snapshotAllUnits, snapshotAllUnits, units_each, List.map_map, List.map_inj_left] at h
  have hself := congrArg UnitSnapshot.hp (h u hu)
  simp only [Function.comp_apply, beq_self_eq_true, if_true] at hself
  exact hne hself

theorem boardHp_update_lt {f : UnitInstance → UnitInstance} {id : String} (hlt : ∀ v, v.hp < (f v).hp)
    (hid : ∃ u ∈ sim.units, u.instanceId = id) :
    boardHp (snapshotAllUnits sim) < boardHp (snapshotAllUnits (sim.update id f)) := by
  obtain ⟨u, hu, rfl⟩ := hid
  have heach : sim.update u.instanceId f =
      sim.each fun v => if v.instanceId == u.instanceId then f v else v := rfl
  simp only [boardHp, snapshotAllUnits, heach, units_each, List.map_map]
  refine List.sum_lt_sum _ _ (fun v hv => ?_) ⟨u, hu, ?_⟩
  · simp only [Function.comp_apply, snapshotUnit]
    split
    · exact (hlt v).le
    · exact le_rfl
  · simpa [snapshotUnit] using hlt u

/-! ## The hit -/

/-- The events of a hit: the first leads to the boards after the hit, the
others add nothing to it. -/
theorem stepwise_hit {target : UnitInstance} (source : UnitInstance) (dmg : Int) (cycle tick : Nat)
    (more : List EventKind) (after : List UnitSnapshot)
    (hsame : ∀ u ∈ sim.units, u.instanceId = target.instanceId → SameHit target u) :
    Stepwise (snapshotAllUnits sim)
        ((damageEvents target dmg source cycle tick ++ more).map (⟨·, after⟩)) ↔
      after = snapshotAllUnits (applyDamage target dmg source sim cycle tick).1 ∧
        ∀ kind ∈ more, After after ⟨kind, after⟩ := by
  have hreplay := replay_applyDamage dmg source cycle tick hsame
  simp only [applyDamage] at hreplay ⊢
  generalize hafter : snapshotAllUnits (sim.update target.instanceId (damaged dmg)) = board at *
  -- The events the hit may begin with report no amount.
  have first : ∀ {kind rest}, kind.gain = none → effect kind (snapshotAllUnits sim) = board →
      (∀ k ∈ rest, After board ⟨k, board⟩) →
      (Stepwise (snapshotAllUnits sim) ((kind :: rest ++ more).map (⟨·, after⟩)) ↔
        after = board ∧ ∀ k ∈ more, After after ⟨k, after⟩) := by
    intro kind rest hgain heffect hrest
    rw [List.cons_append, stepwise_cons]
    constructor
    · rintro ⟨hkind, hmore⟩
      exact ⟨hkind.effect.trans heffect, fun k hk => hmore k (List.mem_append_right rest hk)⟩
    · rintro ⟨rfl, hmore⟩
      refine ⟨⟨heffect.symm, by simp [hgain]⟩, fun k hk => ?_⟩
      exact (List.mem_append.1 hk).elim (hrest k) (hmore k)
  unfold damageEvents at hreplay ⊢
  by_cases hrev : revives target dmg = true
  · rw [if_pos hrev] at hreplay ⊢
    exact first rfl hreplay (by simp)
  rw [if_neg hrev] at hreplay ⊢
  by_cases hdies : target.hp - dmg ≤ 0
  · rw [if_pos hdies] at hreplay ⊢
    have hdeath : effect (.death cycle tick target.actor) (snapshotAllUnits sim) = board := by
      rw [← hafter]
      refine (snapshot_update fun u hu hid => ?_).symm
      have h := hsame u hu hid
      simp [damaged, h.revives, hrev, h.hp, hdies, snapshotUnit]
    rw [replay_cons, hdeath] at hreplay
    refine first rfl hdeath fun k hk => ?_
    obtain rfl := List.mem_singleton.1 hk
    exact ⟨hreplay.symm, by simp [EventKind.gain]⟩
  · rw [if_neg hdies] at hreplay ⊢
    exact first rfl hreplay (by simp)

/-! ## Pierce -/

/-- A hit moves nobody into the row behind its target, nor out of it. -/
theorem unitBehind_hit {ranger target : UnitInstance} (dmg : Int) (hok : sim.Ok)
    (ht : target ∈ unitsOf sim (enemySideOf ranger.side)) :
    (unitBehind ranger target (sim.update target.instanceId (damaged dmg))).isNone =
      (unitBehind ranger target sim).isNone := by
  unfold unitBehind
  by_cases hrow : target.row + 1 > 2
  · simp [hrow]
  rw [if_neg hrow, if_neg hrow, BattleSim.update, unitsOf_map, List.find?_map, Option.isNone_map]
  refine congrArg _ (List.find?_congr fun u hu => ?_)
  by_cases hid : u.instanceId = target.instanceId
  · obtain rfl := hok.unique (mem_units _ hu) (mem_units _ ht) hid
    have hrow : (damaged dmg u).row = u.row := by
      have h : (damaged dmg u).slot = u.slot := congrArg Actor.slot (damaged_actor dmg u)
      rw [UnitInstance.row, UnitInstance.row, h]
    have hnot : (u.row == u.row + 1) = false := by simp
    simp only [Function.comp_apply, beq_self_eq_true, if_true, hrow, hnot, Bool.and_false]
  · simp [hid]

theorem applyPierce_ne {ranger primary behind : UnitInstance} (hs : sim.Sound)
    (hbehind : unitBehind ranger primary sim = some behind) {dmg : Int} (hdmg : 10 ≤ dmg) :
    snapshotAllUnits (applyPierce ranger primary dmg sim cycle tick).1 ≠ snapshotAllUnits sim := by
  have hmem := mem_units _ (unitBehind_mem hbehind)
  have hhp := ((hs.healthy behind hmem).alive).1 (unitBehind_alive hbehind)
  simp only [applyPierce, hbehind]
  refine snapshot_update_ne hmem ?_
  simp only [pierced, pierceOf]
  omega

/-! ## Healer support -/

/-- A pass over the units that keeps what healing looks at. -/
structure KeepsHeal (f : UnitInstance → UnitInstance) : Prop where
  alive : ∀ u, (f u).alive = u.alive
  hp : ∀ u, (f u).hp = u.hp
  maxHp : ∀ u, (f u).maxHp = u.maxHp
  instanceId : ∀ u, (f u).instanceId = u.instanceId

theorem unslowed_keepsHeal (healer : String) : KeepsHeal (unslowed healer) := by
  constructor <;> intro u <;> unfold unslowed <;> split <;> rfl

theorem lowestHpAlly_map {f : UnitInstance → UnitInstance} (hf : KeepsHeal f) (allies : List UnitInstance)
    (exclude : Option UnitInstance) :
    lowestHpAlly localeCompare (allies.map f) (exclude.map f) =
      (lowestHpAlly localeCompare allies exclude).map f := by
  have hexclude : (exclude.map f).map (·.instanceId) = exclude.map (·.instanceId) := by
    cases exclude with
    | none => rfl
    | some u => simp [hf.instanceId]
  have hpool : (allies.map f).filter
      (fun u => u.alive && some u.instanceId != (exclude.map f).map (·.instanceId)) =
      (allies.filter fun u => u.alive && some u.instanceId != exclude.map (·.instanceId)).map f := by
    rw [List.filter_map, hexclude]
    simp only [Function.comp_def, hf.alive, hf.instanceId]
  unfold lowestHpAlly
  rw [hpool]
  cases allies.filter fun u => u.alive && some u.instanceId != exclude.map (·.instanceId) with
  | nil => rfl
  | cons u rest =>
    simp only [List.map_cons, Option.map_some, List.foldl_map]
    refine congrArg some (List.foldl_hom f fun a b => ?_)
    simp only [hf.hp, hf.instanceId]
    split
    · split <;> rfl
    · split <;> rfl

/-- Writing to the unit that is skipped changes nothing. -/
theorem lowestHpAlly_skip {first : UnitInstance} {f : UnitInstance → UnitInstance}
    (hf : ∀ u, (f u).instanceId = u.instanceId) (allies : List UnitInstance) :
    lowestHpAlly localeCompare
        (allies.map fun u => if u.instanceId == first.instanceId then f u else u) (some first) =
      lowestHpAlly localeCompare allies (some first) := by
  have hpool : (allies.map fun u => if u.instanceId == first.instanceId then f u else u).filter
      (fun u => u.alive && some u.instanceId != (some first).map (·.instanceId)) =
      allies.filter fun u => u.alive && some u.instanceId != (some first).map (·.instanceId) := by
    induction allies with
    | nil => rfl
    | cons u rest ih =>
      by_cases hid : u.instanceId = first.instanceId
      · simpa [hid, hf] using ih
      · simp only [List.map_cons, List.filter_cons, ih]
        simp [hid]
  unfold lowestHpAlly
  rw [hpool]

theorem wounded_some {target : Option UnitInstance} (h : wounded target = true) : ∃ u, target = some u := by
  cases target with
  | none => cases h
  | some u => exact ⟨u, rfl⟩

theorem healIf_idle {target : Option UnitInstance} {healer : UnitInstance} (h : wounded target = false) :
    healIf target healer sim cycle tick = (sim, []) := by
  cases target with
  | none => rfl
  | some u =>
    have hamount : healAmount u ≤ 0 := by simpa [wounded] using h
    simp only [healIf, healOne, if_pos hamount]

theorem healIf_heals {u healer : UnitInstance} (h : wounded (some u) = true) :
    healIf (some u) healer sim cycle tick =
      (sim.update u.instanceId fun v => { v with hp := v.hp + healAmount u },
        [.heal cycle tick u.actor healer.actor (healAmount u) (u.hp + healAmount u)]) := by
  have hamount : ¬ healAmount u ≤ 0 := by simpa [wounded] using h
  simp only [healIf, healOne, if_neg hamount]

/-- A heal raises the HP on the board, unless there is nothing to heal. -/
theorem healIf_boardHp {target : Option UnitInstance} (healer : UnitInstance) (cycle tick : Nat)
    (htarget : ∀ u, target = some u → ∃ v ∈ sim.units, v.instanceId = u.instanceId) :
    boardHp (snapshotAllUnits sim) ≤ boardHp (snapshotAllUnits (healIf target healer sim cycle tick).1) ∧
      (wounded target = true →
        boardHp (snapshotAllUnits sim) <
          boardHp (snapshotAllUnits (healIf target healer sim cycle tick).1)) := by
  by_cases h : wounded target = true
  · obtain ⟨u, rfl⟩ := wounded_some h
    have hpos : 0 < healAmount u := by simpa [wounded] using h
    have hlt : boardHp (snapshotAllUnits sim) <
        boardHp (snapshotAllUnits (healIf (some u) healer sim cycle tick).1) := by
      rw [healIf_heals h]
      refine boardHp_update_lt (fun v => ?_) (htarget u rfl)
      show v.hp < v.hp + healAmount u
      omega
    exact ⟨hlt.le, fun _ => hlt⟩
  · rw [healIf_idle (by simpa using h)]
    exact ⟨le_rfl, fun h' => absurd h' h⟩

/-- Both heals of a healer, chosen on the boards before the first of them. -/
theorem applyHealerSupport_eq (healer : UnitInstance) (sim : BattleSim) (cycle tick : Nat) :
    applyHealerSupport localeCompare healer sim cycle tick =
      let healed := healIf (firstAlly localeCompare healer sim) healer sim cycle tick
      let again := healIf (secondAlly localeCompare healer sim) healer healed.1 cycle tick
      (again.1, healed.2 ++ again.2) := by
  unfold applyHealerSupport secondAlly
  by_cases hstar : (healer.star == 2) = true
  · simp only [if_pos hstar]
    have hsecond : lowestHpAlly localeCompare
        (unitsOf (healIf (firstAlly localeCompare healer sim) healer sim cycle tick).1 healer.side)
        (firstAlly localeCompare healer sim) =
        lowestHpAlly localeCompare (unitsOf sim healer.side) (firstAlly localeCompare healer sim) := by
      cases hfirst : firstAlly localeCompare healer sim with
      | none => rfl
      | some u =>
        by_cases hwounded : wounded (some u) = true
        · rw [healIf_heals hwounded, BattleSim.update, unitsOf_map]
          exact lowestHpAlly_skip (f := fun v => { v with hp := v.hp + healAmount u }) (fun _ => rfl) _
        · rw [healIf_idle (by simpa using hwounded)]
    rw [← hsecond]
    rfl
  · simp only [if_neg hstar, healIf, List.append_nil]
    rfl

theorem firstAlly_mem {healer : UnitInstance} :
    ∀ u, firstAlly localeCompare healer sim = some u → u ∈ sim.units ∧ u.alive = true :=
  lowestHpAlly_target

theorem secondAlly_mem {healer : UnitInstance} :
    ∀ u, secondAlly localeCompare healer sim = some u → u ∈ sim.units ∧ u.alive = true := by
  intro u h
  unfold secondAlly at h
  split at h
  · exact lowestHpAlly_target u h
  · cases h

/-- A heal alone carries the board after it. -/
theorem heal_after {u : UnitInstance} (healer : UnitInstance) (cycle tick : Nat) (hok : sim.Ok) (hu : u ∈ sim.units) :
    After (snapshotAllUnits sim)
      ⟨.heal cycle tick u.actor healer.actor (healAmount u) (u.hp + healAmount u),
        snapshotAllUnits (sim.update u.instanceId fun v => { v with hp := v.hp + healAmount u })⟩ := by
  refine ⟨snapshot_update fun v hv hid => ?_, fun id amount hgain => ?_⟩
  · obtain rfl := hok.unique hv hu hid
    rfl
  · simp only [EventKind.gain, Option.some.injEq, Prod.mk.injEq] at hgain
    obtain ⟨rfl, rfl⟩ := hgain
    exact snapshot_update fun v _ _ => rfl

/-- Aged boards still hold everyone. -/
theorem Ages.holds {sim' : BattleSim} (h : Ages sim sim') {u : UnitInstance} (hu : u ∈ sim.units) :
    ∃ v ∈ sim'.units, v.instanceId = u.instanceId := by
  obtain ⟨f, rfl, hf⟩ := h
  refine ⟨f u, ?_, congrArg Actor.instanceId (hf u hu).actor⟩
  rw [units_each]
  exact List.mem_map_of_mem hu

theorem applyHealerSupport_idle {healer : UnitInstance}
    (h1 : wounded (firstAlly localeCompare healer sim) = false)
    (h2 : wounded (secondAlly localeCompare healer sim) = false) :
    applyHealerSupport localeCompare healer sim cycle tick = (sim, []) := by
  rw [applyHealerSupport_eq, healIf_idle h1]
  simp only [healIf_idle h2, List.append_nil]

/-- Support raises the HP on the board, unless there is nothing to heal. -/
theorem applyHealerSupport_boardHp {healer : UnitInstance} (hok : sim.Ok)
    (h : wounded (firstAlly localeCompare healer sim) = true ∨
      wounded (secondAlly localeCompare healer sim) = true) :
    boardHp (snapshotAllUnits sim) <
      boardHp (snapshotAllUnits (applyHealerSupport localeCompare healer sim cycle tick).1) := by
  have hages : Ages sim (healIf (firstAlly localeCompare healer sim) healer sim cycle tick).1 :=
    healIf_ages hok firstAlly_mem
  have hthere := @firstAlly_mem localeCompare sim healer
  have hothers := @secondAlly_mem localeCompare sim healer
  have hfirst := healIf_boardHp healer cycle tick fun u hu => ⟨u, (hthere u hu).1, rfl⟩
  have hsecond := healIf_boardHp healer cycle tick fun u hu => hages.holds (hothers u hu).1
  rw [applyHealerSupport_eq]
  rcases h with h | h
  · exact lt_of_lt_of_le (hfirst.2 h) hsecond.1
  · exact lt_of_le_of_lt hfirst.1 (hsecond.2 h)

/-- The support of a healer without a target: its heals are the whole
action, so one of them may change the board, and two may not. -/
theorem stepwise_support {healer : UnitInstance} (hs : sim.Sound) :
    Stepwise (snapshotAllUnits sim)
        ((applyHealerSupport localeCompare healer sim cycle tick).2.map
          (attachSnapshot · (applyHealerSupport localeCompare healer sim cycle tick).1)) ↔
      ¬ (wounded (firstAlly localeCompare healer sim) = true ∧
        wounded (secondAlly localeCompare healer sim) = true) := by
  rw [applyHealerSupport_eq]
  dsimp only
  have hfirst := @firstAlly_mem localeCompare sim healer
  have hsecond := @secondAlly_mem localeCompare sim healer
  generalize firstAlly localeCompare healer sim = first at *
  generalize secondAlly localeCompare healer sim = second at *
  have hages : Ages sim (healIf first healer sim cycle tick).1 := healIf_ages hs.ok hfirst
  have hraises := healIf_boardHp healer cycle tick fun u hu => hages.holds (hsecond u hu).1
  by_cases h1 : wounded first = true
  · obtain ⟨u, rfl⟩ := wounded_some h1
    have hafter := heal_after healer cycle tick hs.ok (hfirst u rfl).1
    by_cases h2 : wounded second = true
    · -- The board of the first heal contains the second one.
      refine iff_of_false (fun h => ?_) (not_not.2 ⟨h1, h2⟩)
      have hlt := hraises.2 h2
      rw [healIf_heals h1] at h hlt
      have hboard := h.1.effect.trans hafter.effect.symm
      simp only [attachSnapshot] at hboard
      rw [hboard] at hlt
      exact lt_irrefl _ hlt
    · rw [healIf_heals h1, healIf_idle (by simpa using h2)]
      exact iff_of_true ⟨hafter, trivial⟩ fun h => h2 h.2
  · rw [@healIf_idle sim cycle tick first healer (by simpa using h1)]
    refine iff_of_true ?_ fun h => h1 h.1
    by_cases h2 : wounded second = true
    · obtain ⟨v, rfl⟩ := wounded_some h2
      rw [healIf_heals h2]
      exact ⟨heal_after healer cycle tick hs.ok (hsecond v rfl).1, trivial⟩
    · rw [healIf_idle (by simpa using h2)]
      trivial

/-- The allies a healer heals are the same after its hit on an enemy. -/
theorem wounded_hit {healer target : UnitInstance} {dmg : Int} (hok : sim.Ok)
    (ht : target ∈ unitsOf sim (enemySideOf healer.side)) :
    let hit := (clearHealerSlows healer sim).update target.instanceId (damaged dmg)
    wounded (firstAlly localeCompare healer hit) = wounded (firstAlly localeCompare healer sim) ∧
      wounded (secondAlly localeCompare healer hit) = wounded (secondAlly localeCompare healer sim) := by
  intro hit
  have hkeeps := unslowed_keepsHeal healer.instanceId
  have hunits : unitsOf hit healer.side = (unitsOf sim healer.side).map (unslowed healer.instanceId) := by
    simp only [hit, BattleSim.update, unitsOf_map, clearHealerSlows, List.map_map]
    refine List.map_congr_left fun u hu => ?_
    have hne : (unslowed healer.instanceId u).instanceId ≠ target.instanceId :=
      fun h => hok.ne_enemy hu ht (h.symm.trans (hkeeps.instanceId u))
    simp [hne]
  have hfirst : firstAlly localeCompare healer hit =
      (firstAlly localeCompare healer sim).map (unslowed healer.instanceId) := by
    unfold firstAlly
    rw [hunits]
    exact lowestHpAlly_map hkeeps _ none
  have hsecond : secondAlly localeCompare healer hit =
      (secondAlly localeCompare healer sim).map (unslowed healer.instanceId) := by
    unfold secondAlly
    rw [hunits, hfirst]
    split
    · exact lowestHpAlly_map hkeeps _ _
    · rfl
  have hwounded : ∀ u : Option UnitInstance, wounded (u.map (unslowed healer.instanceId)) = wounded u := by
    intro u
    cases u with
    | none => rfl
    | some u => simp [wounded, healAmount, hkeeps.hp, hkeeps.maxHp]
  rw [hfirst, hsecond, hwounded, hwounded]
  exact ⟨rfl, rfl⟩

/-! ## Lifesteal -/

theorem lifesteal_after {u : UnitInstance} (dmg : Int) (cycle tick : Nat) (hok : sim.Ok) (hu : u ∈ sim.units) :
    After (snapshotAllUnits sim)
      ⟨.lifesteal cycle tick u.actor (lifestealHeal u dmg) (u.hp + lifestealHeal u dmg),
        snapshotAllUnits
          (sim.update u.instanceId fun v => { v with hp := v.hp + lifestealHeal u dmg })⟩ := by
  refine ⟨snapshot_update fun v hv hid => ?_, fun id amount hgain => ?_⟩
  · obtain rfl := hok.unique hv hu hid
    rfl
  · simp only [EventKind.gain, Option.some.injEq, Prod.mk.injEq] at hgain
    obtain ⟨rfl, rfl⟩ := hgain
    exact snapshot_update fun v _ _ => rfl

/-- A fighter with a star steals life unless it has all its HP. -/
theorem lifestealHeal_zero {u : UnitInstance} (hstar : u.star ≠ 0) :
    lifestealHeal u (atkFor .fighter u.star) = 0 ↔ u.maxHp ≤ u.hp := by
  have hsteals : ∀ star : Star, star ≠ 0 → 0 < lifestealOf (atkFor .fighter star) star := by decide
  have hpos := hsteals u.star hstar
  unfold lifestealHeal
  omega

/-! ## Actions -/

theorem find_update {tid id : String} {f : UnitInstance → UnitInstance} {u : UnitInstance}
    (hf : ∀ u, (f u).instanceId = u.instanceId) (hne : tid ≠ id) (h : sim.find id = some u) :
    (sim.update tid f).find id = some u := by
  have hkeeps : ∀ v : UnitInstance,
      ((if v.instanceId == tid then f v else v).instanceId == id) = (v.instanceId == id) := by
    intro v
    split
    · rw [hf]
    · rfl
  have hother : (u.instanceId == tid) = false := by
    rw [find_id h]
    simpa using hne.symm
  have heach : sim.update tid f = sim.each fun v => if v.instanceId == tid then f v else v := rfl
  rw [BattleSim.find, heach, units_each, List.find?_map, Function.comp_def]
  simp only [hkeeps]
  rw [show sim.units.find? (fun v => v.instanceId == id) = some u from h, Option.map_some, if_neg (by simp [hother])]

section
variable {unit target : UnitInstance}

/-- An action that is a hit and nothing else. -/
theorem stepwise_hit_alone (dmg : Int)
    (hsame : ∀ u ∈ sim.units, u.instanceId = target.instanceId → SameHit target u) :
    Stepwise (snapshotAllUnits sim) ((applyDamage target dmg unit sim cycle tick).2.map
      (attachSnapshot · (applyDamage target dmg unit sim cycle tick).1)) := by
  have h := stepwise_hit unit dmg cycle tick []
    (snapshotAllUnits (applyDamage target dmg unit sim cycle tick).1) hsame
  rw [List.append_nil] at h
  exact h.2 ⟨rfl, by simp⟩

/-- A hit that steals life. -/
theorem stepwise_fighter {dmg : Int} (hs : sim.Sound) (ht : target ∈ unitsOf sim (enemySideOf unit.side))
    (hfind : sim.find unit.instanceId = some unit) (hages : Ages sim (applyDamage target dmg unit sim cycle tick).1)
    (hsame : ∀ u ∈ sim.units, u.instanceId = target.instanceId → SameHit target u) :
    let hit := applyDamage target dmg unit sim cycle tick
    let steal := applyLifesteal unit.instanceId dmg hit.1 cycle tick
    Stepwise (snapshotAllUnits sim) ((hit.2 ++ steal.2).map (attachSnapshot · steal.1)) ↔
      lifestealHeal unit dmg = 0 := by
  intro hit steal
  have hstill : hit.1.find unit.instanceId = some unit :=
    find_update (fun u => congrArg Actor.instanceId (damaged_actor dmg u))
      (hs.ok.ne_enemy (mem_of_find hs.ok hfind) ht) hfind
  have hmem : unit ∈ hit.1.units := List.mem_of_find?_eq_some hstill
  have hsteal : steal = (hit.1.update unit.instanceId fun v => { v with hp := v.hp + lifestealHeal unit dmg },
      [.lifesteal cycle tick unit.actor (lifestealHeal unit dmg) (unit.hp + lifestealHeal unit dmg)]) := by
    simp only [steal, applyLifesteal, hstill]
  have hafter : After (snapshotAllUnits hit.1)
      ⟨.lifesteal cycle tick unit.actor (lifestealHeal unit dmg) (unit.hp + lifestealHeal unit dmg),
        snapshotAllUnits
          (hit.1.update unit.instanceId fun v => { v with hp := v.hp + lifestealHeal unit dmg })⟩ :=
    lifesteal_after dmg cycle tick (hages.ok hs.ok) hmem
  refine (stepwise_hit unit dmg cycle tick steal.2 (snapshotAllUnits steal.1) hsame).trans ?_
  rw [hsteal]
  change _ = snapshotAllUnits hit.1 ∧ _ ↔ _
  constructor
  · rintro ⟨hsteals, -⟩
    by_contra hheal
    refine snapshot_update_ne hmem ?_ hsteals
    show unit.hp + lifestealHeal unit dmg ≠ unit.hp
    omega
  · intro hzero
    have hboard : snapshotAllUnits
        (hit.1.update unit.instanceId fun v => { v with hp := v.hp + lifestealHeal unit dmg }) =
        snapshotAllUnits hit.1 := by
      refine snapshot_each fun v => ?_
      split <;> simp [snapshotUnit, hzero]
    refine ⟨hboard, fun kind hkind => ?_⟩
    obtain rfl := List.mem_singleton.1 hkind
    rw [hboard] at hafter ⊢
    exact hafter

/-- A hit that pierces. -/
theorem stepwise_ranger {dmg : Int} (hs : sim.Sound) (ht : target ∈ unitsOf sim (enemySideOf unit.side))
    (hdmg : 10 ≤ dmg) (hages : Ages sim (applyDamage target dmg unit sim cycle tick).1)
    (hsame : ∀ u ∈ sim.units, u.instanceId = target.instanceId → SameHit target u) :
    let hit := applyDamage target dmg unit sim cycle tick
    let pierce := applyPierce unit target dmg hit.1 cycle tick
    Stepwise (snapshotAllUnits sim) ((hit.2 ++ pierce.2).map (attachSnapshot · pierce.1)) ↔
      (unitBehind unit target sim).isNone = true := by
  intro hit pierce
  refine (stepwise_hit unit dmg cycle tick pierce.2 (snapshotAllUnits pierce.1) hsame).trans ?_
  rw [← unitBehind_hit dmg hs.ok ht]
  change _ = snapshotAllUnits hit.1 ∧ _ ↔ (unitBehind unit target hit.1).isNone = true
  cases hbehind : unitBehind unit target hit.1 with
  | none =>
    have hnone : pierce = (hit.1, []) := by simp only [pierce, applyPierce, hbehind]
    rw [hnone]
    exact iff_of_true ⟨rfl, by simp⟩ rfl
  | some behind =>
    refine iff_of_false (fun h => ?_) (by simp)
    exact applyPierce_ne (hages.sound hs) hbehind hdmg h.1

/-- A hit, then support, then perhaps a slow. -/
theorem stepwise_healer {dmg : Int} {slows : List EventKind} {after : List UnitSnapshot} (hs : sim.Sound)
    (ht : target ∈ unitsOf sim (enemySideOf unit.side))
    (hages : Ages sim (applyDamage target dmg unit (clearHealerSlows unit sim) cycle tick).1)
    (hsame : ∀ u ∈ (clearHealerSlows unit sim).units, u.instanceId = target.instanceId → SameHit target u)
    (hslows : ∀ kind ∈ slows, ∀ board, After board ⟨kind, board⟩) :
    let hit := applyDamage target dmg unit (clearHealerSlows unit sim) cycle tick
    let support := applyHealerSupport localeCompare unit hit.1 cycle tick
    after = snapshotAllUnits support.1 →
    (Stepwise (snapshotAllUnits sim) ((hit.2 ++ (support.2 ++ slows)).map (⟨·, after⟩)) ↔
      wounded (firstAlly localeCompare unit sim) = false ∧
        wounded (secondAlly localeCompare unit sim) = false) := by
  intro hit support hafter
  have hboard := stepwise_hit unit dmg cycle tick (support.2 ++ slows) after hsame
  rw [snapshot_clearHealerSlows] at hboard
  refine hboard.trans ?_
  obtain ⟨hfirst, hsecond⟩ := @wounded_hit localeCompare sim unit target dmg hs.ok ht
  rw [← hfirst, ← hsecond]
  change after = snapshotAllUnits hit.1 ∧ _ ↔ wounded (firstAlly localeCompare unit hit.1) = false ∧
    wounded (secondAlly localeCompare unit hit.1) = false
  by_cases hidle : wounded (firstAlly localeCompare unit hit.1) = false ∧
      wounded (secondAlly localeCompare unit hit.1) = false
  · have hnone : support = (hit.1, []) := applyHealerSupport_idle hidle.1 hidle.2
    rw [hafter, hnone]
    exact iff_of_true ⟨rfl, fun kind hkind => hslows kind hkind _⟩ hidle
  · refine iff_of_false (fun h => ?_) hidle
    have hheals : wounded (firstAlly localeCompare unit hit.1) = true ∨
        wounded (secondAlly localeCompare unit hit.1) = true :=
      (not_and_or.1 hidle).imp (by simp) (by simp)
    have hlt : boardHp (snapshotAllUnits hit.1) < boardHp (snapshotAllUnits support.1) :=
      applyHealerSupport_boardHp (hages.ok hs.ok) hheals
    rw [← hafter, h.1] at hlt
    exact lt_irrefl _ hlt

end

/-- **The events of an action carry their own boards exactly when it
`reportsAlone`.** -/
theorem stepwise_unitAct {unit : UnitInstance} (hs : sim.Sound)
    (hfind : sim.find unit.instanceId = some unit) :
    Stepwise (snapshotAllUnits sim)
        ((unitAct localeCompare unit sim cycle tick).2.map
          (attachSnapshot · (unitAct localeCompare unit sim cycle tick).1)) ↔
      reportsAlone localeCompare unit sim = true := by
  cases ht : pickTarget localeCompare unit sim with
  | none =>
    cases hkind : unit.unitId with
    | fighter | tank | ranger =>
      simp only [unitAct, reportsAlone, hkind, ht]
      exact iff_of_true trivial rfl
    | healer =>
      simp only [unitAct, reportsAlone, hkind, ht]
      rw [stepwise_support hs, ← Bool.and_eq_true]
      simp only [bne_self_eq_false, Bool.false_or, Bool.not_eq_true', Bool.not_eq_true]
  | some target =>
    obtain ⟨hmem, -⟩ := pickTarget_mem ht
    obtain ⟨hsame, hcleared⟩ := pickTarget_sameHit hs.ok ht
    obtain ⟨hlives, hlivesCleared⟩ := pickTarget_lives hs.ok ht
    cases hkind : unit.unitId with
    | fighter =>
      simp only [unitAct, reportsAlone, hkind, ht]
      by_cases hstar : unit.star = 0
      · simp only [hstar]
        exact iff_of_true (stepwise_hit_alone _ hsame) rfl
      · have hpos : ∀ star : Star, star ≠ 0 → (atkFor .fighter star > 0 && star ≥ 1) = true := by decide
        simp only [hpos unit.star hstar, if_true]
        refine (stepwise_fighter hs hmem hfind (applyDamage_ages hlives (atkFor_nonneg _ _)) hsame).trans ?_
        rw [lifestealHeal_zero hstar]
        simp [hstar]
    | tank =>
      simp only [unitAct, reportsAlone, hkind, ht]
      exact iff_of_true (stepwise_hit_alone _ hsame) trivial
    | ranger =>
      simp only [unitAct, reportsAlone, hkind, ht]
      by_cases hstar : (unit.star == 1) = true
      · have hone : unit.star = 1 := by simpa using hstar
        have hdmg : 10 ≤ atkFor .ranger unit.star := by
          rw [hone]
          decide
        simp only [if_pos hstar]
        refine (stepwise_ranger hs hmem hdmg (applyDamage_ages hlives (atkFor_nonneg _ _)) hsame).trans ?_
        simp [hone]
      · simp only [if_neg hstar]
        refine iff_of_true (stepwise_hit_alone _ hsame) ?_
        simp [bne, hstar]
    | healer =>
      simp only [unitAct, reportsAlone, hkind, ht]
      have hages : Ages sim (applyDamage target (atkFor .healer unit.star) unit (clearHealerSlows unit sim)
          cycle tick).1 := clearHealerSlows_ages.trans (applyDamage_ages hlivesCleared (atkFor_nonneg _ _))
      by_cases hstar : unit.star ≥ 1
      · simp only [if_pos hstar, List.append_assoc]
        refine (stepwise_healer hs hmem hages hcleared (fun kind hkind board => ?_) ?_).trans ?_
        · obtain rfl := List.mem_singleton.1 hkind
          exact ⟨rfl, by simp [EventKind.gain]⟩
        · exact replay_applySlow.symm
        · simp
      · simp only [if_neg hstar]
        have h := @stepwise_healer localeCompare sim cycle tick unit target _ [] _ hs hmem hages hcleared
          (by simp) rfl
        rw [List.append_nil] at h
        refine h.trans ?_
        simp

/-! ## The whole battle -/

/-- By induction on the turns: each log starts from the board the turns
before it left. -/
theorem Played.stepwise {last : BattleSim} {ts : List Turn} (h : Played localeCompare sim ts last)
    (hs : sim.Sound) :
    Stepwise (snapshotAllUnits sim) (ts.flatMap (·.log)) ↔
      ∀ t ∈ ts, ∀ unit, t.unit = some unit → reportsAlone localeCompare unit t.before = true := by
  induction h with
  | nil sim => exact iff_of_true trivial (by simp)
  | @act sim last rest unit cycle tick hfind halive _ ih =>
    have hkeeps := unitAct_keeps localeCompare unit sim cycle tick hs hfind halive
    have hidle : (actTurn localeCompare unit sim cycle tick).log = [] →
        snapshotAllUnits sim = snapshotAllUnits (actTurn localeCompare unit sim cycle tick).after := by
      intro hnil
      have hreplay := @replay_unitAct localeCompare sim cycle tick unit hs.ok (mem_of_find hs.ok hfind)
      rw [show (unitAct localeCompare unit sim cycle tick).2 = [] from List.map_eq_nil_iff.1 hnil] at hreplay
      exact hreplay
    rw [List.flatMap_cons, stepwise_append (fun e he => mem_log he) hidle, List.forall_mem_cons]
    refine and_congr ((stepwise_unitAct hs hfind).trans ?_) (ih hkeeps.1)
    simp [actTurn]
  | @close sim last rest cycle kind hkind _ ih =>
    have hafter : Stepwise (snapshotAllUnits sim) (closeTurn cycle kind sim).log := by
      cases kind with
      | cycleEnd cycle => exact ⟨⟨rfl, by simp [attachSnapshot, EventKind.gain]⟩, trivial⟩
      | battleEnd cycle winner => exact ⟨⟨rfl, by simp [attachSnapshot, EventKind.gain]⟩, trivial⟩
      | _ => cases hkind
    have hclose : ∀ e ∈ (closeTurn cycle kind sim).log, e.unitStates = snapshotAllUnits sim :=
      fun e he => mem_log he
    rw [List.flatMap_cons, stepwise_append hclose fun _ => rfl, List.forall_mem_cons]
    refine and_congr (iff_of_true hafter ?_) (ih hs)
    simp [closeTurn]

end

/-- **When every event carries the board right after it**: exactly when each
action of the battle changes the snapshot with its first event only. -/
theorem runBattle_stepwise (localeCompare : String → String → Int) (battle : Battle) :
    Stepwise (snapshotAllUnits battle.boards) (runBattle localeCompare battle.toBattleState) ↔
      ∀ t ∈ turns localeCompare battle.toBattleState, ∀ unit, t.unit = some unit →
        reportsAlone localeCompare unit t.before = true := by
  obtain ⟨last, hplayed⟩ := @turns_played localeCompare battle.toBattleState
  rw [runBattle_turns, ← snapshot_cloneSim]
  exact hplayed.stepwise battle.sound

/-- A 1★ ranger facing a healer behind a tank. -/
def skewer : Battle where
  p1Units := [{ instanceId := "r", unitId := .ranger, star := 1, hp := 60, maxHp := 60,
                slot := 1, side := .p1, alive := true }]
  p2Units := [{ instanceId := "t", unitId := .tank, star := 0, hp := 150, maxHp := 150,
                slot := 1, side := .p2, alive := true },
              { instanceId := "h", unitId := .healer, star := 0, hp := 70, maxHp := 70,
                slot := 4, side := .p2, alive := true }]
  roundSeed := 7
  matchSeed := "m"
  side := by intro side; cases side <;> simp [unitsOf]
  slots := by intro side; cases side <;> simp [unitsOf]
  slot_le := by intro side; cases side <;> simp [unitsOf]
  ids := by simp
  hp := by intro side; cases side <;> simp [unitsOf]
  alive := by intro side; cases side <;> simp [unitsOf]
  unslowed := by intro side; cases side <;> simp [unitsOf]
  unrevived := by intro side; cases side <;> simp [unitsOf]

/-- The first attack's board already shows the pierce that follows it. -/
theorem runBattle_not_stepwise :
    ¬ Stepwise (snapshotAllUnits skewer.boards) (runBattle (fun _ _ => 0) skewer.toBattleState) := by
  intro h
  have hhead : (runBattle (fun _ _ => 0) skewer.toBattleState).head?.map
      (fun e => decide (e.unitStates = effect e.kind (snapshotAllUnits skewer.boards))) = some false := by
    decide +kernel
  cases hlog : runBattle (fun _ _ => 0) skewer.toBattleState with
  | nil => simp [hlog] at hhead
  | cons e rest =>
    rw [hlog] at h hhead
    simp only [List.head?_cons, Option.map_some, Option.some.injEq, decide_eq_false_iff_not] at hhead
    exact hhead h.1.effect

end AutoChess.Game
