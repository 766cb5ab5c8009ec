/-
What playback shows. Clients play the log without its `cycle_end`,
`battle_end` and `death` events, and the server counts the same events for
the deadline. Nothing is lost on the boards: an action that logs anything
logs an event that is played, all its events carry one board, and closing
events change none.
-/
import AutoChess.Game.Grammar
import AutoChess.Runtime.Resolution
import Mathlib.Data.List.Destutter

namespace AutoChess.Runtime

open AutoChess.Game

/-- The events a client plays. -/
def visible (log : List CombatEvent) : List CombatEvent := log.filter isVisible

/-- The distinct boards along a list of boards. -/
def distinctBoards (boards : List (List UnitSnapshot)) : List (List UnitSnapshot) :=
  boards.destutter (· ≠ ·)

/-- On the board the unit is dead. -/
def showsDead (board : List UnitSnapshot) (id : String) : Prop :=
  ∃ s ∈ board, s.instanceId = id ∧ s.alive = false

/-! ## What an action logs -/

/-- An event of this kind is played. -/
def Plays (kind : EventKind) : Prop := ∀ board, isVisible ⟨kind, board⟩ = true

/-- Either nothing is logged, or something that is played. -/
def Shows (kinds : List EventKind) : Prop := kinds = [] ∨ ∃ kind ∈ kinds, Plays kind

theorem Shows.append {a b : List EventKind} (ha : Shows a) (hb : Shows b) : Shows (a ++ b) := by
  rcases ha with rfl | ⟨kind, hmem, hplays⟩
  · exact hb
  · exact .inr ⟨kind, List.mem_append_left b hmem, hplays⟩

section
variable {localeCompare : String → String → Int} {sim : BattleSim} {cycle tick : Nat}

theorem damageEvents_shows (target source : UnitInstance) (dmg : Int) :
    ∃ kind ∈ damageEvents target dmg source cycle tick, Plays kind := by
  unfold damageEvents
  split
  · exact ⟨_, List.mem_cons_self .., fun _ => rfl⟩
  · split
    · exact ⟨_, List.mem_cons_of_mem _ (List.mem_cons_self ..), fun _ => rfl⟩
    · exact ⟨_, List.mem_cons_self .., fun _ => rfl⟩

theorem healIf_shows (target : Option UnitInstance) (healer : UnitInstance) :
    Shows (healIf target healer sim cycle tick).2 := by
  unfold healIf
  split
  · exact .inl rfl
  · simp only [healOne]
    split
    · exact .inl rfl
    · exact .inr ⟨_, List.mem_cons_self .., fun _ => rfl⟩

theorem applyHealerSupport_shows (healer : UnitInstance) :
    Shows (applyHealerSupport localeCompare healer sim cycle tick).2 := by
  simp only [applyHealerSupport]
  split
  · exact (healIf_shows _ _).append (healIf_shows _ _)
  · exact healIf_shows _ _

/-- An action that logs anything logs an event that is played. -/
theorem unitAct_shows (unit : UnitInstance) : Shows (unitAct localeCompare unit sim cycle tick).2 := by
  -- Whatever follows the hit, the hit itself is played.
  have hit : ∀ (target : UnitInstance) (dmg : Int) (more : List EventKind),
      Shows (damageEvents target dmg unit cycle tick ++ more) := by
    intro target dmg more
    obtain ⟨kind, hmem, hplays⟩ := damageEvents_shows target unit dmg
    exact .inr ⟨kind, List.mem_append_left more hmem, hplays⟩
  have alone : ∀ (target : UnitInstance) (dmg : Int), Shows (damageEvents target dmg unit cycle tick) :=
    fun target dmg => .inr (damageEvents_shows target unit dmg)
  unfold unitAct
  split
  · split
    · exact .inl rfl
    · dsimp only
      split
      · exact hit _ _ _
      · exact alone _ _
  · split
    · exact .inl rfl
    · exact alone _ _
  · split
    · exact .inl rfl
    · dsimp only
      split
      · exact hit _ _ _
      · exact alone _ _
  · split
    · exact applyHealerSupport_shows unit
    · dsimp only
      split
      · rw [List.append_assoc]
        exact hit _ _ _
      · exact hit _ _ _

/-! ## Deaths -/

/-- Every death that is logged is one of a unit on the boards. -/
def NamesDead (sim : BattleSim) (kinds : List EventKind) : Prop :=
  ∀ cycle tick actor, .death cycle tick actor ∈ kinds → ∃ u ∈ sim.units, u.actor = actor

theorem NamesDead.append {a b : List EventKind} (ha : NamesDead sim a) (hb : NamesDead sim b) :
    NamesDead sim (a ++ b) :=
  fun cycle tick actor h => (List.mem_append.1 h).elim (ha cycle tick actor) (hb cycle tick actor)

theorem NamesDead.earlier {sim' : BattleSim} {kinds : List EventKind} (h : NamesDead sim' kinds)
    (hages : Ages sim sim') : NamesDead sim kinds := by
  intro cycle tick actor hmem
  obtain ⟨u, hu, rfl⟩ := h cycle tick actor hmem
  obtain ⟨f, rfl, hf⟩ := hages
  rw [units_each, List.mem_map] at hu
  obtain ⟨v, hv, rfl⟩ := hu
  exact ⟨v, hv, (hf v hv).actor.symm⟩

theorem damageEvents_namesDead {target source : UnitInstance} {dmg : Int} (ht : target ∈ sim.units) :
    NamesDead sim (damageEvents target dmg source cycle tick) := by
  intro c k actor h
  unfold damageEvents at h
  split at h
  · simp at h
  · split at h
    · simp only [List.mem_cons, EventKind.death.injEq, List.not_mem_nil, or_false] at h
      rcases h with ⟨-, -, rfl⟩ | h
      · exact ⟨target, ht, rfl⟩
      · cases h
    · simp at h

theorem applyPierce_namesDead {ranger primary : UnitInstance} {dmg : Int} :
    NamesDead sim (applyPierce ranger primary dmg sim cycle tick).2 := by
  intro c k actor h
  unfold applyPierce at h
  split at h
  · simp at h
  · next behind hbehind =>
    refine ⟨behind, mem_units _ (unitBehind_mem hbehind), ?_⟩
    dsimp only at h
    split at h
    · simp at h
      exact h.2.2.symm
    · simp at h

theorem no_death_namesDead {kinds : List EventKind} (h : ∀ c k actor, .death c k actor ∉ kinds) :
    NamesDead sim kinds := fun c k actor hmem => absurd hmem (h c k actor)

theorem healIf_no_death {target : Option UnitInstance} {healer : UnitInstance} (c k : Nat) (actor : Actor) :
    .death c k actor ∉ (healIf target healer sim cycle tick).2 := by
  unfold healIf
  split
  · simp
  · simp only [healOne]
    split <;> simp

theorem applyHealerSupport_no_death {healer : UnitInstance} (c k : Nat) (actor : Actor) :
    .death c k actor ∉ (applyHealerSupport localeCompare healer sim cycle tick).2 := by
  simp only [applyHealerSupport]
  split
  · simp [healIf_no_death]
  · exact healIf_no_death c k actor

/-- The deaths an action logs are of units on the boards. -/
theorem unitAct_namesDead {unit : UnitInstance} (hok : sim.Ok) :
    NamesDead sim (unitAct localeCompare unit sim cycle tick).2 := by
  have hit : ∀ {target}, pickTarget localeCompare unit sim = some target →
      NamesDead sim (damageEvents target (atkFor unit.unitId unit.star) unit cycle tick) :=
    fun ht => damageEvents_namesDead (mem_units _ (pickTarget_mem ht).1)
  unfold unitAct
  split
  · split
    · exact no_death_namesDead (by simp)
    · next target ht =>
      dsimp only
      split
      · refine (hit ht).append (no_death_namesDead fun c k actor => ?_)
        unfold applyLifesteal
        split <;> simp
      · exact hit ht
  · split
    · exact no_death_namesDead (by simp)
    · next target ht => exact hit ht
  · split
    · exact no_death_namesDead (by simp)
    · next target ht =>
      dsimp only
      split
      · refine (hit ht).append (applyPierce_namesDead.earlier ?_)
        exact applyDamage_ages (pickTarget_lives hok ht).1 (atkFor_nonneg _ _)
      · exact hit ht
  · split
    · exact no_death_namesDead applyHealerSupport_no_death
    · next target ht =>
      dsimp only
      split
      · refine ((hit ht).append (no_death_namesDead applyHealerSupport_no_death)).append ?_
        exact no_death_namesDead (by simp [applySlow])
      · exact (hit ht).append (no_death_namesDead applyHealerSupport_no_death)

end

/-! ## The boards along the log -/

section
variable {α : Type} [DecidableEq α]

/-- A block of one board adds that board, unless it is the one before it. -/
theorem destutter_block {a x : α} {block rest : List α} (hblock : ∀ b ∈ block, b = x)
    (hnone : block = [] → a = x) :
    (block ++ rest).destutter' (· ≠ ·) a =
      if a = x then rest.destutter' (· ≠ ·) a else a :: rest.destutter' (· ≠ ·) x := by
  induction block generalizing a with
  | nil => simp [hnone rfl]
  | cons b block ih =>
    obtain ⟨rfl, hrest⟩ := List.forall_mem_cons.1 hblock
    by_cases h : a = b
    · subst h
      simp [ih hrest fun _ => rfl]
    · simp [h, ih hrest fun _ => rfl]

theorem getLast?_destutter (a : α) (l : List α) :
    (l.destutter' (· ≠ ·) a).getLast? = (a :: l).getLast? := by
  induction l generalizing a with
  | nil => rfl
  | cons b l ih =>
    by_cases h : a = b
    · subst h
      simpa [List.getLast?_cons_cons] using ih a
    · rw [List.destutter'_cons_pos _ h, List.getLast?_cons_cons, ← ih b]
      obtain ⟨c, cs, hcs⟩ := List.exists_cons_of_ne_nil (List.destutter'_ne_nil (R := (· ≠ ·)) (a := b) (l := l))
      rw [hcs, List.getLast?_cons_cons]

end

/-- All events of a turn carry one board, and when none of them is played it
is the board before the turn. -/
theorem log_boards (t : Turn) : ∀ b ∈ t.log.map (·.unitStates), b = snapshotAllUnits t.after := by
  intro b hb
  obtain ⟨e, he, rfl⟩ := List.mem_map.1 hb
  exact mem_log he

theorem visible_boards (t : Turn) :
    ∀ b ∈ (visible t.log).map (·.unitStates), b = snapshotAllUnits t.after := by
  intro b hb
  obtain ⟨e, he, rfl⟩ := List.mem_map.1 hb
  exact mem_log (List.mem_of_mem_filter he)

section
variable {localeCompare : String → String → Int}

theorem visible_append (a b : List CombatEvent) : visible (a ++ b) = visible a ++ visible b :=
  List.filter_append a b

theorem visible_nil {t : Turn} (hshows : Shows t.kinds) (h : visible t.log = []) : t.kinds = [] := by
  rcases hshows with hnil | ⟨kind, hmem, hplays⟩
  · exact hnil
  · have hkept : attachSnapshot kind t.after ∈ visible t.log :=
      List.mem_filter.2 ⟨List.mem_map_of_mem hmem, hplays _⟩
    simp [h] at hkept

/-- Along a chain of turns the distinct boards are those of the events that
are played. By induction on the turns: each is one block of one board. -/
theorem played_distinct {sim last : BattleSim} {ts : List Turn} (h : Played localeCompare sim ts last)
    (hs : sim.Sound) :
    ((visible (ts.flatMap (·.log))).map (·.unitStates)).destutter' (· ≠ ·) (snapshotAllUnits sim) =
      ((ts.flatMap (·.log)).map (·.unitStates)).destutter' (· ≠ ·) (snapshotAllUnits sim) := by
  induction h with
  | nil sim => rfl
  | @act sim last rest unit cycle tick hfind halive _ ih =>
    have hkeeps := unitAct_keeps localeCompare unit sim cycle tick hs hfind halive
    have hreplay : replay (unitAct localeCompare unit sim cycle tick).2 (snapshotAllUnits sim) =
        snapshotAllUnits (unitAct localeCompare unit sim cycle tick).1 :=
      replay_unitAct hs.ok (mem_of_find hs.ok hfind)
    generalize ht : actTurn localeCompare unit sim cycle tick = t
    have hafter : t.after = (unitAct localeCompare unit sim cycle tick).1 := ht ▸ rfl
    have hkinds : t.kinds = (unitAct localeCompare unit sim cycle tick).2 := ht ▸ rfl
    -- An action that logs nothing leaves the board as it was.
    have hidle : t.kinds = [] → snapshotAllUnits sim = snapshotAllUnits t.after := by
      intro hnil
      rw [hafter, ← hreplay, ← hkinds, hnil]
      rfl
    rw [← hafter] at ih hkeeps
    have hrest := ih hkeeps.1
    rw [List.flatMap_cons, visible_append, List.map_append, List.map_append]
    rw [destutter_block (visible_boards t), destutter_block (log_boards t), hrest]
    · split
      · next heq => rw [heq, hrest]
      · rfl
    · intro hnil
      exact hidle (by simpa [Turn.log] using hnil)
    · intro hnil
      exact hidle (visible_nil (hkinds ▸ unitAct_shows unit) (List.map_eq_nil_iff.1 hnil))
  | @close sim last rest cycle kind hkind _ ih =>
    have hhidden : isVisible (attachSnapshot kind sim) = false := by
      cases kind with
      | cycleEnd cycle => rfl
      | battleEnd cycle winner => rfl
      | _ => cases hkind
    have hlog : (closeTurn cycle kind sim).log = [attachSnapshot kind sim] := rfl
    rw [List.flatMap_cons, hlog, List.singleton_append, List.map_cons, visible,
      List.filter_cons_of_neg (by simp [hhidden])]
    rw [List.destutter'_cons_neg _ (by simp [attachSnapshot])]
    exact ih hs

/-- A death in a turn's log is on the board that the turn's events carry. -/
theorem played_death {sim last : BattleSim} {t : Turn} (h : Played localeCompare sim [t] last)
    (hs : sim.Sound) {cycle tick : Nat} {actor : Actor} (hmem : .death cycle tick actor ∈ t.kinds) :
    ∃ v ∈ visible t.log, showsDead v.unitStates actor.instanceId := by
  cases h with
  | @act _ _ _ unit c k hfind halive _ =>
    rcases @unitAct_shows localeCompare sim c k unit with hnil | ⟨kind, hkind, hplays⟩
    · have hmem' : .death cycle tick actor ∈ (unitAct localeCompare unit sim c k).2 := hmem
      simp [hnil] at hmem'
    have hdead := @replay_dead _ (snapshotAllUnits sim) actor.instanceId (.inr ⟨_, hmem, rfl⟩)
    obtain ⟨u, hu, rfl⟩ := unitAct_namesDead hs.ok cycle tick actor hmem
    rw [show (actTurn localeCompare unit sim c k).kinds = (unitAct localeCompare unit sim c k).2 from rfl,
      replay_unitAct hs.ok (mem_of_find hs.ok hfind)] at hdead
    refine ⟨attachSnapshot kind _, List.mem_filter.2 ⟨List.mem_map_of_mem hkind, hplays _⟩, ?_⟩
    obtain ⟨f, hf, haged⟩ := (unitAct_keeps localeCompare unit sim c k hs hfind halive).2
    have hafter : snapshotUnit (f u) ∈ snapshotAllUnits (unitAct localeCompare unit sim c k).1 := by
      rw [hf, snapshotAllUnits, units_each]
      exact List.mem_map_of_mem (List.mem_map_of_mem hu)
    have hid : (snapshotUnit (f u)).instanceId = u.instanceId := congrArg Actor.instanceId (haged u hu).actor
    exact ⟨_, hafter, hid, hdead _ hafter hid⟩
  | close c hkind _ =>
    obtain rfl := List.mem_singleton.1 hmem
    cases hkind

end

/-- **Dropping the hidden events loses nothing.** Along the events that are
played the boards change as along the whole log, the last of them shows the
board of `battle_end`, and every death shows on an event of the same action
that is played. -/
theorem visible_complete (localeCompare : String → String → Int) (battle : Battle) :
    let log := runBattle localeCompare battle.toBattleState
    let initial := snapshotAllUnits battle.boards
    distinctBoards (initial :: (visible log).map (·.unitStates)) =
      distinctBoards (initial :: log.map (·.unitStates)) ∧
    (∀ v, (visible log).getLast? = some v → ∀ e ∈ log, ∀ cycle winner,
      e.kind = .battleEnd cycle winner → v.unitStates = e.unitStates) ∧
    log = (turns localeCompare battle.toBattleState).flatMap (·.log) ∧
    ∀ t ∈ turns localeCompare battle.toBattleState, ∀ e ∈ t.log, ∀ cycle tick unit,
      e.kind = .death cycle tick unit →
        ∃ v ∈ visible t.log, showsDead v.unitStates unit.instanceId := by
  intro log initial
  obtain ⟨last, hplayed⟩ := @turns_played localeCompare battle.toBattleState
  have hdistinct : distinctBoards (initial :: (visible log).map (·.unitStates)) =
      distinctBoards (initial :: log.map (·.unitStates)) := by
    have h := played_distinct hplayed battle.sound
    rw [← runBattle_turns, snapshot_cloneSim] at h
    exact h
  refine ⟨hdistinct, fun v hv e he cycle winner hkind => ?_, runBattle_turns localeCompare _, ?_⟩
  · obtain ⟨N, w, board, hends, -⟩ :=
      @runCycles_ends localeCompare (initSideOf battle.toBattleState) 29 1 _ rfl battle.boards_ok
    obtain ⟨front, hlog, hfront⟩ := hends.last
    change log = _ at hlog
    obtain rfl : e = ⟨.battleEnd N w, board⟩ := by
      rw [hlog, List.mem_append, List.mem_singleton] at he
      exact he.elim (fun he => absurd hkind (hfront e he cycle winner)) id
    -- Both sequences of distinct boards end on the same board.
    have hlast := congrArg List.getLast? hdistinct
    simp only [distinctBoards, List.destutter_cons', getLast?_destutter, List.getLast?_cons,
      List.getLast?_map, hv] at hlast
    rw [hlog] at hlast
    simpa using hlast
  · intro t ht e he cycle tick unit hkind
    obtain ⟨pre, post, hsplit⟩ := List.append_of_mem ht
    rw [hsplit] at hplayed
    obtain ⟨hpre, hturn, -⟩ := hplayed.split
    obtain ⟨kind, hmem, rfl⟩ := List.mem_map.1 he
    obtain rfl : kind = .death cycle tick unit := hkind
    exact played_death hturn (hpre.sound battle.sound) hmem

end AutoChess.Runtime
