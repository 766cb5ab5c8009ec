/-
What a player sees of a battle. The client draws each playhead from the board
that came with an event, which is the server's of after the unit's whole
action, and the hit, heal and recoil marks change no bar on it. So the bars
are those of the boards in the log, event by event, whether the batch came as
the round was fought or again on a reconnect.
-/
import AutoChess.Client.Marker
import AutoChess.Client.Messages

namespace AutoChess.Client.Battle

open AutoChess.Game (Side UnitId)

/-! ## The bars -/

/-- What a unit's tile says of it: the unit, its HP and whether it lives. -/
structure Bars where
  unitId : UnitId
  star : Nat
  hp : Int
  maxHp : Int
  alive : Bool
  deriving DecidableEq, Repr

def bars (u : UnitVisualState) : Bars := ⟨u.unitId, u.star, u.hp, u.maxHp, u.alive⟩

/-- The bars of all the tiles. -/
def Units.bars (map : Units) : Assoc UnitKey Bars := map.map fun (key, u) => (key, Battle.bars u)

/-- The bars of a board of the server. -/
def drawn (board : List Game.UnitSnapshot) : Assoc UnitKey Bars :=
  board.map fun s => (⟨s.side, s.slot⟩, ⟨s.unitId, s.star, s.hp, s.maxHp, s.alive⟩)

theorem set_fresh {κ α : Type} [DecidableEq κ] {r : Assoc κ α} {key : κ} (h : key ∉ r.keys) (v : α) :
    r.set key v = r ++ [(key, v)] := by
  induction r with
  | nil => rfl
  | cons entry r ih =>
    obtain ⟨k, w⟩ := entry
    obtain ⟨hne, hfresh⟩ : key ≠ k ∧ key ∉ Assoc.keys r := by simpa [Assoc.keys] using h
    rw [Assoc.set, if_neg (Ne.symm hne), ih hfresh, List.cons_append]

/-- Units of different slots are all put on the board. -/
theorem addSnapshots_nodup {snapshots : List UnitSnapshot} {map : Units}
    (h : (map.keys ++ snapshots.map fun s => (⟨s.side, s.slot⟩ : UnitKey)).Nodup) :
    addSnapshots snapshots map = map ++ snapshots.map fun s => (⟨s.side, s.slot⟩, s.visual) := by
  unfold addSnapshots
  induction snapshots generalizing map with
  | nil => simp
  | cons s snapshots ih =>
    have hfresh : (⟨s.side, s.slot⟩ : UnitKey) ∉ map.keys := by
      intro hmem
      exact List.disjoint_of_nodup_append h hmem (by simp)
    rw [List.foldl_cons, set_fresh hfresh, ih]
    · simp
    · simpa [Assoc.keys] using h

theorem drawn_keys (board : List Game.UnitSnapshot) :
    (drawn board).keys = board.map fun s => ⟨s.side, s.slot⟩ := by
  simp [drawn, Assoc.keys]

theorem addSnapshots_bars {board : List Game.UnitSnapshot} (h : (drawn board).keys.Nodup) :
    Units.bars (addSnapshots (board.map snapshot) []) = drawn board := by
  rw [addSnapshots_nodup]
  · simp [Units.bars, drawn, bars, UnitSnapshot.visual, snapshot]
  · rw [drawn_keys] at h
    rw [List.map_map]
    exact h

/-! ## Marks change no bar -/

theorem set_bars {map : Units} {key : UnitKey} {u v : UnitVisualState} (hget : map.get key = some u)
    (hbars : bars v = bars u) : Units.bars (map.set key v) = Units.bars map := by
  induction map with
  | nil => cases hget
  | cons entry map ih =>
    obtain ⟨k, w⟩ := entry
    unfold Assoc.get at hget
    rw [List.lookup_cons] at hget
    by_cases heq : k = key
    · subst heq
      simp only [beq_self_eq_true, Option.some.injEq] at hget
      simp [Assoc.set, Units.bars, hbars, hget]
    · rw [beq_eq_false_iff_ne.2 (Ne.symm heq)] at hget
      have hrest := ih hget
      unfold Units.bars at hrest ⊢
      rw [Assoc.set, if_neg heq, List.map_cons, hrest, List.map_cons]

theorem setFloating_bars (target : Named) (amount : Int) (isHeal : Bool) (map : Units) :
    Units.bars (setFloating target amount isHeal map) = Units.bars map := by
  unfold setFloating
  split
  · rfl
  · split
    · rfl
    · next existing hget => exact set_bars hget rfl

theorem float_bars (e : CombatEvent) (map : Units) : Units.bars (float e map) = Units.bars map := by
  unfold float
  split
  · exact setFloating_bars _ _ _ map
  · exact setFloating_bars _ _ _ map
  · exact setFloating_bars _ _ _ map
  · exact setFloating_bars _ _ _ map
  · rfl

/-- The bars at a playhead are those of the board it is drawn from. -/
theorem deriveUnitStates_bars {events : List CombatEvent} {p : Nat} (hp : p < events.length) (view : View) :
    Units.bars (deriveUnitStates events p view) =
      Units.bars (boardAt events (if view.currentEventLanded ∨ p = 0 then p + 1 else p) view.playerBoard
        view.opponentBoard view.mySide view.initialBoard) := by
  have hlimit : min p (events.length - 1) = p := by omega
  have hempty : events.isEmpty = false := by
    cases events with
    | nil => cases hp
    | cons => rfl
  have henrich : ∀ (map : Units) (landed : Nat),
      Units.bars (map.map fun (key, existing) => (key, enrich events view p landed key existing)) = Units.bars map := by
    intro map landed
    unfold Units.bars
    rw [List.map_map]
    rfl
  unfold deriveUnitStates
  rw [hempty, hlimit]
  simp only [Bool.false_eq_true, if_false]
  rw [henrich, List.getElem?_eq_getElem hp]
  by_cases hlanded : view.currentEventLanded = true
  · simp [hlanded, float_bars]
  · by_cases hzero : p = 0 <;> simp [hlanded, hzero]

/-- A board of the events is drawn as it is, once it has a unit. -/
theorem boardAt_last {events : List CombatEvent} {k : Nat} (hk : k < events.length) {snapshots : List UnitSnapshot}
    (hstates : events[k].unitStates = some snapshots) (hsome : snapshots ≠ []) (playerBoard opponentBoard : List (Option Unit))
    (mySide : Side) (initialBoard : Option CombatBoardState) :
    boardAt events (k + 1) playerBoard opponentBoard mySide initialBoard = addSnapshots snapshots [] := by
  have hfound : (events.take (k + 1)).reverse.findSome? (fun e => e.unitStates.filter (! ·.isEmpty)) =
      some snapshots := by
    rw [List.take_succ_eq_append_getElem hk, List.reverse_append, List.reverse_singleton, List.singleton_append,
      List.findSome?_cons, hstates, Option.filter_some, if_pos (by simpa using hsome)]
  unfold boardAt
  rw [hfound]

/-! ## A battle and its replay -/

section

variable {localeCompare : String → String → Int} {battle : Game.Battle}

/-- The tiles of a board, from what never changes of its units. -/
def tile (identity : Game.Actor × Int) : UnitKey := ⟨identity.1.side, identity.1.slot⟩

theorem drawn_tiles (board : List Game.UnitSnapshot) : (drawn board).keys = (board.map (·.identity)).map tile := by
  rw [drawn_keys, List.map_map]
  rfl

theorem boards_keys (battle : Game.Battle) : (drawn (Game.snapshotAllUnits battle.boards)).keys.Nodup := by
  have hkeys : (drawn (Game.snapshotAllUnits battle.boards)).keys =
      battle.p1Units.map (fun u => ⟨u.side, u.slot⟩) ++ battle.p2Units.map fun u => ⟨u.side, u.slot⟩ := by
    rw [drawn_keys, Game.snapshotAllUnits, List.map_map, Game.BattleSim.units, List.map_append]
    rfl
  have hside : ∀ side,
      ((Game.unitsOf battle.boards side).map fun u => (⟨u.side, u.slot⟩ : UnitKey)).Nodup := fun side =>
    List.Nodup.of_map UnitKey.slot (by rw [List.map_map]; exact battle.slots side)
  rw [hkeys]
  refine (hside .p1).append (hside .p2) fun key h₁ h₂ => ?_
  obtain ⟨u, hu, rfl⟩ := List.mem_map.1 h₁
  obtain ⟨v, hv, heq⟩ := List.mem_map.1 h₂
  have hsides : v.side = u.side := congrArg UnitKey.side heq
  rw [battle.side .p1 u hu, battle.side .p2 v hv] at hsides
  cases hsides

/-- The boards of a log list the units that began the battle. -/
theorem log_identity {e : Game.CombatEvent} (he : e ∈ Game.runBattle localeCompare battle.toBattleState) :
    e.unitStates.map (·.identity) = (Game.snapshotAllUnits battle.boards).map (·.identity) := by
  obtain ⟨last, hplayed⟩ := @Game.turns_played localeCompare battle.toBattleState
  rw [Game.runBattle_turns] at he
  have hsame := (hplayed.soundLog battle.sound).same e he
  rwa [Game.snapshot_cloneSim] at hsame

/-- No two tiles of a log are one. -/
theorem log_keys {e : Game.CombatEvent} (he : e ∈ Game.runBattle localeCompare battle.toBattleState) :
    (drawn e.unitStates).keys.Nodup := by
  rw [drawn_tiles, log_identity he, ← drawn_tiles]
  exact boards_keys battle

/-- An event that is played has units on its board. -/
theorem visible_board {e : Game.CombatEvent}
    (he : e ∈ Runtime.visible (Game.runBattle localeCompare battle.toBattleState)) : e.unitStates ≠ [] := by
  obtain ⟨last, hplayed⟩ := @Game.turns_played localeCompare battle.toBattleState
  obtain ⟨hmem, hvisible⟩ := List.mem_filter.1 he
  rw [Game.runBattle_turns] at hmem
  obtain ⟨t, ht, he⟩ := List.mem_flatMap.1 hmem
  have hturns := hplayed.induct (I := Game.BattleSim.Sound)
    (P := fun t => ∀ e ∈ t.log, Runtime.isVisible e = true → e.unitStates ≠ [])
    (fun unit sim cycle tick hsound hfind halive => by
      obtain ⟨hsound', hages⟩ := Game.unitAct_keeps localeCompare unit sim cycle tick hsound hfind halive
      refine ⟨fun e he _ hnil => ?_, hsound'⟩
      have hboard : Game.snapshotAllUnits (Game.unitAct localeCompare unit sim cycle tick).1 = [] :=
        (Game.mem_log he).symm.trans hnil
      have hidentity := hages.identity
      rw [hboard, List.map_nil, eq_comm, List.map_eq_nil_iff, Game.snapshotAllUnits, List.map_eq_nil_iff] at hidentity
      have hunit : unit ∈ sim.units := List.mem_of_find?_eq_some hfind
      rw [hidentity] at hunit
      cases hunit)
    (fun cycle kind sim _ hkind e he hseen => by
      obtain ⟨kind', hmem', rfl⟩ := List.mem_map.1 he
      obtain rfl := List.mem_singleton.1 hmem'
      cases kind' <;> cases hkind
      · cases hseen
      · cases hseen)
    battle.sound
  exact hturns.1 t ht e he hvisible

/-- The board a playhead is drawn from: that of its event once the event has
landed, else that of the event before. -/
def shownAt (log : List Game.CombatEvent) (p : Nat) (landed : Bool) : List Game.UnitSnapshot :=
  (((Runtime.visible log)[if landed ∨ p = 0 then p else p - 1]?).map (·.unitStates)).getD []

/-- A playhead on an event whose board has units shows that board. -/
theorem deriveUnitStates_shown {log : List Game.CombatEvent} {p : Nat} (hp : p < log.length) (view : View)
    (hsome : log[p].unitStates ≠ []) (hkeys : (drawn log[p].unitStates).keys.Nodup)
    (hat : view.currentEventLanded = true ∨ p = 0) :
    Units.bars (deriveUnitStates (log.map received) p view) = drawn log[p].unitStates := by
  rw [deriveUnitStates_bars (by simpa using hp), if_pos hat,
    @boardAt_last _ _ (by simpa using hp) (log[p].unitStates.map snapshot) (by simp [received]) (by simpa using hsome)]
  exact addSnapshots_bars hkeys

/-- Before its event has landed, a playhead shows the board of the event before. -/
theorem deriveUnitStates_before {log : List Game.CombatEvent} {p : Nat} (hp : p + 1 < log.length) (view : View)
    (hsome : log[p].unitStates ≠ []) (hkeys : (drawn log[p].unitStates).keys.Nodup)
    (hat : view.currentEventLanded = false) :
    Units.bars (deriveUnitStates (log.map received) (p + 1) view) = drawn log[p].unitStates := by
  rw [deriveUnitStates_bars (by simpa using hp), if_neg (by simp [hat]),
    @boardAt_last _ _ (by simp; omega) (log[p].unitStates.map snapshot) (by simp [received]) (by simpa using hsome)]
  exact addSnapshots_bars hkeys

/-- The client replays a battle: every playhead shows the board of an event,
and the last event, which `finish` goes to, the last one. Of a battle without
units it draws the boards it has. -/
structure Replays (log : List Game.CombatEvent) (count : Nat) (events : List CombatEvent) : Prop where
  shows : ∀ p < (loadBatch events).length, ∀ view, Units.bars (deriveUnitStates (loadBatch events) p view) =
    drawn (shownAt log p view.currentEventLanded)
  tiles : ∀ p < (loadBatch events).length, ∀ landed, (shownAt log p landed).length = count
  finish : 0 < count → ∀ view, view.currentEventLanded = true →
    ∃ e, log.getLast? = some e ∧ e.unitStates.length = count ∧
      Units.bars (deriveUnitStates events (events.length - 1) view) = drawn e.unitStates

theorem runCycles_ne_nil (initSide : Side) (cycles : List Nat) (sim : Game.BattleSim) :
    Game.runCycles localeCompare initSide cycles sim ≠ [] := by
  cases cycles with
  | nil => simp [Game.runCycles]
  | cons cycle cycles =>
    unfold Game.runCycles
    simp

theorem battle_replays (localeCompare : String → String → Int) (battle : Game.Battle) :
    Replays (Game.runBattle localeCompare battle.toBattleState) battle.boards.units.length
      ((Game.runBattle localeCompare battle.toBattleState).map received) := by
  generalize hlog : Game.runBattle localeCompare battle.toBattleState = log
  have hlength : ∀ e ∈ log, e.unitStates.length = battle.boards.units.length := by
    intro e he
    subst hlog
    have hidentity := congrArg List.length (log_identity he)
    simpa [Game.snapshotAllUnits] using hidentity
  have hkeys : ∀ e ∈ log, (drawn e.unitStates).keys.Nodup := fun e he => by
    subst hlog
    exact log_keys he
  have hseen : ∀ e ∈ Runtime.visible log, e ∈ log ∧ e.unitStates ≠ [] := fun e he => by
    subst hlog
    exact ⟨List.mem_of_mem_filter he, visible_board he⟩
  constructor
  · intro p hp view
    rw [loadBatch_received, List.length_map] at hp
    rw [loadBatch_received]
    by_cases hat : view.currentEventLanded = true ∨ p = 0
    · obtain ⟨hmem, hsome⟩ := hseen _ (List.getElem_mem hp)
      rw [deriveUnitStates_shown hp view hsome (hkeys _ hmem) hat, shownAt, if_pos hat, List.getElem?_eq_getElem hp]
      rfl
    · obtain ⟨q, rfl⟩ : ∃ q, p = q + 1 := ⟨p - 1, by omega⟩
      obtain ⟨hmem, hsome⟩ := hseen _ (List.getElem_mem (Nat.lt_of_succ_lt hp))
      rw [deriveUnitStates_before hp view hsome (hkeys _ hmem) (by simpa using hat), shownAt, if_neg hat,
        Nat.add_sub_cancel, List.getElem?_eq_getElem (Nat.lt_of_succ_lt hp)]
      rfl
  · intro p hp landed
    rw [loadBatch_received, List.length_map] at hp
    have hat : (if landed = true ∨ p = 0 then p else p - 1) < (Runtime.visible log).length := by split <;> omega
    rw [shownAt, List.getElem?_eq_getElem hat]
    exact hlength _ (hseen _ (List.getElem_mem hat)).1
  · intro hunits view hlanded
    have hne : log ≠ [] := hlog ▸ runCycles_ne_nil _ _ _
    have hp : log.length - 1 < log.length := by
      have := List.length_pos_of_ne_nil hne
      omega
    refine ⟨_, List.getLast?_eq_getLast_of_ne_nil hne, hlength _ (List.getLast_mem hne), ?_⟩
    have hsome : log[log.length - 1].unitStates ≠ [] := by
      intro hnil
      have := hlength _ (List.getElem_mem hp)
      rw [hnil, List.length_nil] at this
      omega
    rw [List.length_map, deriveUnitStates_shown hp view hsome (hkeys _ (List.getElem_mem hp)) (.inl hlanded),
      List.getLast_eq_getElem]

/-- **A battle as its players see it.** The batch sent as the round is fought and
the one sent again on a reconnect, without the boards it began on, are both
read, and whatever boards the client has beside them, each playhead shows the
board attached to its event. -/
theorem replay_shown (localeCompare : String → String → Int) (battle : Game.Battle) (matchId : String)
    (round cycleCount : Nat) (endedAt : Int) (initialP1 initialP2 : Runtime.Slots) :
    ∀ boards ∈ [Messages.boardsFields initialP1 initialP2, []], ∃ batch,
      Messages.CombatEventBatch.fromJson (Messages.combatFields matchId round cycleCount
        (Game.runBattle localeCompare battle.toBattleState) endedAt ++ boards) = some batch ∧
      Replays (Game.runBattle localeCompare battle.toBattleState) battle.boards.units.length batch.events := by
  intro boards hboards
  have hread : ∃ board, Messages.initialBoardOf (Assoc.get boards "initialBoard") = some board := by
    simp only [List.mem_cons, List.not_mem_nil, or_false] at hboards
    obtain rfl | rfl := hboards
    · exact ⟨_, Messages.boards_read initialP1 initialP2⟩
    · exact ⟨none, rfl⟩
  obtain ⟨board, hread⟩ := hread
  exact ⟨_, Messages.combat_read matchId round cycleCount _ endedAt boards hread, battle_replays localeCompare battle⟩

/-- The siege as a player sees it who has connected again. -/
theorem siege_replayed :
    ∃ batch,
      Messages.CombatEventBatch.fromJson (Messages.combatFields "m" 1 3
        (Game.runBattle (fun _ _ => 0) siege.toBattleState) 0 ++ []) = some batch ∧
      Replays (Game.runBattle (fun _ _ => 0) siege.toBattleState) 3 batch.events :=
  replay_shown (fun _ _ => 0) siege "m" 1 3 0 [] [] [] (by simp)

end

end AutoChess.Client.Battle
