/-
How a battle ends. Between two cycle ends only actions are logged
(`Plays`), an action leaves the acting unit alive, so a wipe is always
one-sided, and the cycle loop closes every cycle once, in order.
-/
import AutoChess.Game.Boards

namespace AutoChess.Game

/-! ## Well-formed battles -/

/-- What `runBattle` is given: both teams on their own side, slots distinct,
ids distinct, alive exactly when HP is left, and no flag of an earlier
battle. -/
structure Battle extends BattleState where
  side : ∀ side, ∀ u ∈ unitsOf ⟨p1Units, p2Units⟩ side, u.side = side
  slots : ∀ side, ((unitsOf ⟨p1Units, p2Units⟩ side).map (·.slot)).Nodup
  slot_le : ∀ side, ∀ u ∈ unitsOf ⟨p1Units, p2Units⟩ side, u.slot ≤ 8
  ids : ((p1Units ++ p2Units).map (·.instanceId)).Nodup
  hp : ∀ side, ∀ u ∈ unitsOf ⟨p1Units, p2Units⟩ side, 0 ≤ u.hp ∧ u.hp ≤ u.maxHp ∧ 2 ≤ u.maxHp
  alive : ∀ side, ∀ u ∈ unitsOf ⟨p1Units, p2Units⟩ side, u.alive = decide (0 < u.hp)
  unslowed : ∀ side, ∀ u ∈ unitsOf ⟨p1Units, p2Units⟩ side,
    u.slowActive ≠ some true ∧ u.slowUntilHealerAct = none
  unrevived : ∀ side, ∀ u ∈ unitsOf ⟨p1Units, p2Units⟩ side, u.revivedThisRound ≠ some true

/-- The boards a battle starts from. -/
def BattleState.boards (state : BattleState) : BattleSim := ⟨state.p1Units, state.p2Units⟩

/-- A side has an alive unit on a snapshot of the boards. -/
def standingOn (board : List UnitSnapshot) (side : Side) : Bool :=
  board.any fun s => s.side == side && s.alive

/-- The number a `cycle_end` carries. -/
def EventKind.cycleNumber : EventKind → Option Nat
  | .cycleEnd cycle => some cycle
  | _ => none

/-- The log of a battle resumed at cycle `first`: how it ends, when, and
with which verdict on the last board. -/
structure Ends (first : Nat) (log : List CombatEvent) (N : Nat) (winner : Option Side)
    (board : List UnitSnapshot) : Prop where
  last : ∃ front, log = front ++ [⟨.battleEnd N winner, board⟩] ∧
    ∀ e ∈ front, ∀ cycle w, e.kind ≠ .battleEnd cycle w
  cycles : log.filterMap (·.kind.cycleNumber) = List.range' first (N + 1 - first)
  bound : first ≤ N ∧ N ≤ MAX_CYCLES
  fighting : ∀ e ∈ log, ∀ i, e.kind = .cycleEnd i → i < N → ∀ side, standingOn e.unitStates side
  verdict : ∀ side, winner = some side ↔
    standingOn board side ∧ standingOn board (enemySideOf side) = false
  /-- With a unit left somewhere, a battle without a winner ran to the last
  cycle and both sides stand. -/
  stalemate : (∃ side, standingOn board side) → winner = none →
    N = MAX_CYCLES ∧ ∀ side, standingOn board side

theorem standing_iff {sim : BattleSim} {side : Side} :
    standing sim side = true ↔ ∃ id, AliveOn sim side id := by
  simp only [standing, List.any_eq_true, AliveOn]
  constructor
  · rintro ⟨u, hu, hal⟩
    exact ⟨u.instanceId, u, hu, rfl, hal⟩
  · rintro ⟨_, u, hu, -, hal⟩
    exact ⟨u, hu, hal⟩

/-- A snapshot of well-formed boards shows what stands. -/
theorem standingOn_snapshot {sim : BattleSim} (hok : sim.Ok) (side : Side) :
    standingOn (snapshotAllUnits sim) side = standing sim side := by
  have hother : ∀ s, s ≠ side → ∀ u ∈ unitsOf sim s, ¬ (u.side = side ∧ u.alive = true) :=
    fun s hne u hu h => hne ((hok.side s u hu).symm.trans h.1)
  rw [Bool.eq_iff_iff]
  simp only [standingOn, snapshotAllUnits, units_eq, standing, List.any_eq_true, List.mem_map,
    List.mem_append, Bool.and_eq_true, beq_iff_eq]
  constructor
  · rintro ⟨_, ⟨u, hu, rfl⟩, hside, hal⟩
    have hs : u.side = side := hside
    refine ⟨u, ?_, hal⟩
    rcases hu with hu | hu
    · have : Side.p1 = side := (hok.side .p1 u hu).symm.trans hs
      exact this ▸ hu
    · have : Side.p2 = side := (hok.side .p2 u hu).symm.trans hs
      exact this ▸ hu
  · rintro ⟨u, hu, hal⟩
    refine ⟨snapshotUnit u, ⟨u, ?_, rfl⟩, hok.side side u hu, hal⟩
    cases side with
    | p1 => exact .inl hu
    | p2 => exact .inr hu

/-! ## Runs of actions -/

/-- Some side has an alive unit. -/
def Contested (sim : BattleSim) : Prop := ∃ side, standing sim side = true

/-- The boards and log a run of actions leaves. -/
structure Plays (sim : BattleSim) (out : BattleSim × List CombatEvent) : Prop where
  ok : out.1.Ok
  actions : ∀ e ∈ out.2, e.kind.isAction = true
  contested : Contested sim → Contested out.1 ∧ ∀ e ∈ out.2, ∃ side, standingOn e.unitStates side

theorem Plays.none {sim : BattleSim} (hok : sim.Ok) : Plays sim (sim, []) :=
  ⟨hok, by simp, fun h => ⟨h, by simp⟩⟩

theorem Plays.append {sim : BattleSim} {a b : BattleSim × List CombatEvent} (ha : Plays sim a)
    (hb : Plays a.1 b) : Plays sim (b.1, a.2 ++ b.2) := by
  refine ⟨hb.ok, fun e he => ?_, fun h => ?_⟩
  · exact (List.mem_append.1 he).elim (ha.actions e) (hb.actions e)
  · obtain ⟨hmid, hea⟩ := ha.contested h
    obtain ⟨hend, heb⟩ := hb.contested hmid
    exact ⟨hend, fun e he => (List.mem_append.1 he).elim (hea e) (heb e)⟩

section
variable {localeCompare : String → String → Int}

theorem mem_of_find {sim : BattleSim} {id : String} {u : UnitInstance} (hok : sim.Ok)
    (h : sim.find id = some u) : u ∈ unitsOf sim u.side := by
  have hu : u ∈ unitsOf sim .p1 ++ unitsOf sim .p2 := List.mem_of_find?_eq_some h
  rcases List.mem_append.1 hu with hu | hu
  · exact (hok.side .p1 u hu).symm ▸ hu
  · exact (hok.side .p2 u hu).symm ▸ hu

/-- One action of an alive unit: afterwards that unit still stands. -/
theorem unitAct_plays {unit : UnitInstance} {sim : BattleSim} {cycle tick : Nat} (hok : sim.Ok)
    (hu : unit ∈ unitsOf sim unit.side) (hal : unit.alive = true) :
    let act := unitAct localeCompare unit sim cycle tick
    Plays sim (act.1, act.2.map (attachSnapshot · act.1)) := by
  intro act
  have hspares : Spares unit.instanceId sim act.1 := unitAct_spares hok hu
  have hok' : act.1.Ok := hspares.ok hok
  have hstands : standing act.1 unit.side = true :=
    standing_iff.2 ⟨_, hspares.alive unit.side ⟨unit, hu, rfl, hal⟩⟩
  refine ⟨hok', fun e he => ?_, fun _ => ⟨⟨_, hstands⟩, fun e he => ⟨unit.side, ?_⟩⟩⟩
  · obtain ⟨k, hk, rfl⟩ := List.mem_map.1 he
    exact unitAct_isAction k hk
  · obtain ⟨k, -, rfl⟩ := List.mem_map.1 he
    exact (standingOn_snapshot hok' unit.side).trans hstands

theorem actAll_plays {cycle tick : Nat} : ∀ (ids : List String) {sim : BattleSim}, sim.Ok →
    Plays sim (actAll localeCompare cycle tick ids sim)
  | [], _, hok => Plays.none hok
  | id :: ids, sim, hok => by
    unfold actAll
    split
    · exact actAll_plays ids hok
    · next unit hfind =>
      split
      · next hal =>
        have hact : Plays sim (_, (unitAct localeCompare unit sim cycle tick).2.map _) :=
          unitAct_plays hok (mem_of_find hok hfind) hal
        exact hact.append (actAll_plays ids hact.ok)
      · exact actAll_plays ids hok

theorem runTicks_plays {initSide : Side} {cycle : Nat} : ∀ (ticks : List Nat) {sim : BattleSim},
    sim.Ok → Plays sim (runTicks localeCompare initSide cycle ticks sim)
  | [], _, hok => Plays.none hok
  | tick :: ticks, sim, hok => by
    have hnow : Plays sim (actAll localeCompare cycle tick
        ((acting localeCompare initSide tick sim).map (·.instanceId)) sim) := actAll_plays _ hok
    exact hnow.append (runTicks_plays ticks hnow.ok)

end

/-! ## The cycle loop -/

/-- Actions close neither a cycle nor the battle. -/
theorem Plays.cycleNumber {sim : BattleSim} {out : BattleSim × List CombatEvent}
    (h : Plays sim out) : out.2.filterMap (·.kind.cycleNumber) = [] := by
  rw [List.filterMap_eq_nil_iff]
  intro e he
  have hact := h.actions e he
  cases hk : e.kind <;> simp_all [EventKind.cycleNumber, EventKind.isAction]

theorem Plays.ne_battleEnd {sim : BattleSim} {out : BattleSim × List CombatEvent}
    (h : Plays sim out) : ∀ e ∈ out.2, ∀ cycle w, e.kind ≠ .battleEnd cycle w := by
  intro e he cycle w hk
  simpa [hk, EventKind.isAction] using h.actions e he

/-- A log of one cycle's actions and its `cycle_end`, continued by the log of
the cycles after it. -/
theorem Ends.cons {sim : BattleSim} {out : BattleSim × List CombatEvent} {cycle N : Nat}
    {log : List CombatEvent} {winner : Option Side} {board : List UnitSnapshot}
    (hplay : Plays sim out) (hstand : ∀ side, standing out.1 side = true)
    (h : Ends (cycle + 1) log N winner board) :
    Ends cycle (out.2 ++ attachSnapshot (.cycleEnd cycle) out.1 :: log) N winner board where
  last := by
    obtain ⟨front, rfl, hfront⟩ := h.last
    refine ⟨out.2 ++ attachSnapshot (.cycleEnd cycle) out.1 :: front, by simp, fun e he => ?_⟩
    rcases List.mem_append.1 he with he | he
    · exact hplay.ne_battleEnd e he
    · rcases List.mem_cons.1 he with rfl | he
      · intro c w hk; cases hk
      · exact hfront e he
  cycles := by
    have hN : N + 1 - cycle = (N + 1 - (cycle + 1)) + 1 := by have := h.bound.1; omega
    rw [List.filterMap_append, hplay.cycleNumber, hN, List.range'_succ, ← h.cycles]
    rfl
  bound := ⟨by have := h.bound.1; omega, h.bound.2⟩
  fighting := by
    intro e he i hk hlt side
    rcases List.mem_append.1 he with he | he
    · simpa [hk, EventKind.isAction] using hplay.actions e he
    · rcases List.mem_cons.1 he with rfl | he
      · exact (standingOn_snapshot hplay.ok side).trans (hstand side)
      · exact h.fighting e he i hk hlt side
  verdict := h.verdict
  stalemate := h.stalemate

/-- The verdict on the boards of the last cycle: the wiped side loses, a
double wipe or two standing sides have no winner. -/
def IsVerdict (sim : BattleSim) (winner : Option Side) : Prop :=
  ∀ side, winner = some side ↔ standing sim side = true ∧ standing sim (enemySideOf side) = false

/-- A log of one cycle's actions, its `cycle_end` and the `battle_end` of
that cycle. -/
theorem Ends.last_cycle {sim : BattleSim} {out : BattleSim × List CombatEvent} {cycle : Nat}
    {winner : Option Side} (hplay : Plays sim out) (hle : cycle ≤ MAX_CYCLES)
    (hverdict : IsVerdict out.1 winner)
    (hlast : (∀ side, standing out.1 side = true) → cycle = MAX_CYCLES) :
    Ends cycle (out.2 ++ [attachSnapshot (.cycleEnd cycle) out.1,
      attachSnapshot (.battleEnd cycle winner) out.1]) cycle winner (snapshotAllUnits out.1) where
  last := by
    refine ⟨out.2 ++ [attachSnapshot (.cycleEnd cycle) out.1], by simp [attachSnapshot],
      fun e he => ?_⟩
    rcases List.mem_append.1 he with he | he
    · exact hplay.ne_battleEnd e he
    · obtain rfl := List.mem_singleton.1 he
      intro c w hk; cases hk
  cycles := by
    rw [List.filterMap_append, hplay.cycleNumber, show cycle + 1 - cycle = 1 by omega]
    rfl
  bound := ⟨le_rfl, hle⟩
  fighting := by
    intro e he i hk hlt side
    rcases List.mem_append.1 he with he | he
    · simpa [hk, EventKind.isAction] using hplay.actions e he
    · simp only [List.mem_cons, List.not_mem_nil, or_false] at he
      rcases he with rfl | rfl <;> cases hk
      exact absurd hlt (Nat.lt_irrefl _)
  verdict := fun side => by
    rw [standingOn_snapshot hplay.ok, standingOn_snapshot hplay.ok]
    exact hverdict side
  stalemate := by
    rintro ⟨s, hs⟩ hnone
    rw [standingOn_snapshot hplay.ok] at hs
    have hnot : ∀ side, standing out.1 side = true → standing out.1 (enemySideOf side) = true := by
      intro side hside
      by_contra hwiped
      have hwon := (hverdict side).2 ⟨hside, by simpa using hwiped⟩
      cases hnone.symm.trans hwon
    have hboth : ∀ side, standing out.1 side = true := by
      intro side
      cases s <;> cases side <;> first | exact hs | exact hnot _ hs
    exact ⟨hlast hboth, fun side => (standingOn_snapshot hplay.ok side).trans (hboth side)⟩

theorem winnerOf_isVerdict {sim : BattleSim}
    (hwiped : (!standing sim .p1 || !standing sim .p2) = true) :
    IsVerdict sim (winnerOf (standing sim .p1) (standing sim .p2)) := by
  intro side
  cases h1 : standing sim .p1 <;> cases h2 : standing sim .p2 <;> cases side <;>
    simp_all [winnerOf, enemySideOf]

section
variable (localeCompare : String → String → Int)

/-- **The cycles from `cycle` to the last close in order, and the battle
ends on a one-sided verdict.** By induction on the cycles still to come. -/
theorem runCycles_ends {initSide : Side} : ∀ (rest cycle : Nat) {sim : BattleSim},
    cycle + rest = MAX_CYCLES → sim.Ok →
    ∃ N winner board,
      Ends cycle (runCycles localeCompare initSide (List.range' cycle (rest + 1)) sim) N winner board ∧
      (Contested sim →
        ∀ e ∈ runCycles localeCompare initSide (List.range' cycle (rest + 1)) sim,
          ∃ side, standingOn e.unitStates side)
  | rest, cycle, sim, hsum, hok => by
    have hplay : Plays sim
        (runTicks localeCompare initSide cycle (List.range' 1 TICKS_PER_CYCLE) sim) :=
      runTicks_plays _ hok
    rw [List.range'_succ]
    simp only [runCycles]
    generalize runTicks localeCompare initSide cycle (List.range' 1 TICKS_PER_CYCLE) sim = out at hplay
    -- Every snapshot of this cycle, and of the closing events, shows a standing side.
    have hend : Contested sim → ∀ kind,
        ∃ side, standingOn (attachSnapshot kind out.1).unitStates side := by
      intro hc kind
      obtain ⟨side, hside⟩ := (hplay.contested hc).1
      exact ⟨side, (standingOn_snapshot hplay.ok side).trans hside⟩
    have hlog : Contested sim → ∀ tail, (∀ e ∈ tail, ∃ side, standingOn e.unitStates side) →
        ∀ e ∈ out.2 ++ attachSnapshot (.cycleEnd cycle) out.1 :: tail,
          ∃ side, standingOn e.unitStates side := by
      intro hc tail htail e he
      rcases List.mem_append.1 he with he | he
      · exact (hplay.contested hc).2 e he
      · rcases List.mem_cons.1 he with rfl | he
        · exact hend hc _
        · exact htail e he
    split
    · next hwiped =>
      have hnot : (∀ side, standing out.1 side = true) → cycle = MAX_CYCLES := by
        intro hboth
        simp [hboth] at hwiped
      refine ⟨_, _, _, Ends.last_cycle hplay (by omega) (winnerOf_isVerdict hwiped) hnot, ?_⟩
      intro hc
      exact hlog hc _ fun e he => List.mem_singleton.1 he ▸ hend hc _
    · next hboth =>
      have hstand : ∀ side, standing out.1 side = true := by
        intro side
        cases side <;> simp_all
      match rest with
      | 0 =>
        obtain rfl : cycle = MAX_CYCLES := hsum
        have hnone : IsVerdict out.1 none := by
          intro side
          simp [hstand]
        refine ⟨_, _, _, Ends.last_cycle hplay le_rfl hnone fun _ => rfl, ?_⟩
        intro hc
        exact hlog hc _ fun e he => List.mem_singleton.1 he ▸ hend hc _
      | rest + 1 =>
        obtain ⟨N, winner, board, hends, hall⟩ :=
          runCycles_ends rest (cycle + 1) (by omega : cycle + 1 + rest = MAX_CYCLES) hplay.ok
        refine ⟨N, winner, board, hends.cons hplay hstand, ?_⟩
        intro hc
        exact hlog hc _ (hall (hplay.contested hc).1)

theorem unitsOf_cloneSim (state : BattleState) (side : Side) :
    unitsOf (cloneSim state) side = (unitsOf state.boards side).map cloneUnit := by
  cases side <;> rfl

/-- A well-formed battle starts on well-formed boards. -/
theorem Battle.boards_ok (battle : Battle) : (cloneSim battle.toBattleState).Ok := by
  have hok : battle.boards.Ok := ⟨battle.side, battle.ids⟩
  refine hok.of_actors fun side => ?_
  rw [unitsOf_cloneSim, List.map_map]
  rfl

theorem standing_cloneSim (state : BattleState) (side : Side) :
    standing (cloneSim state) side = standing state.boards side := by
  simp only [standing, unitsOf_cloneSim, List.any_map]
  rfl

/-- **How every battle ends.** The log of `runBattle` has one `battle_end`,
last, and the `cycle_end` events 1..N before it, N ≤ 30; before cycle N both
sides stood at each cycle's end, and the winner is the only side standing.
When both sides start with an alive unit they are never both wiped, so only
a battle of 30 cycles that leaves both standing has no winner. -/
theorem runBattle_ends (battle : Battle) :
    ∃ N winner board,
      Ends 1 (runBattle localeCompare battle.toBattleState) N winner board ∧
      ((∀ side, standing battle.boards side) →
        (∀ e ∈ runBattle localeCompare battle.toBattleState, ∃ side, standingOn e.unitStates side) ∧
        (winner = none → N = MAX_CYCLES ∧ ∀ side, standingOn board side)) := by
  obtain ⟨N, winner, board, hends, hall⟩ :=
    @runCycles_ends localeCompare (initSideOf battle.toBattleState) 29 1 _ rfl battle.boards_ok
  refine ⟨N, winner, board, hends, fun hstart => ?_⟩
  have hcontested : Contested (cloneSim battle.toBattleState) :=
    ⟨.p1, (standing_cloneSim _ _).trans (hstart .p1)⟩
  refine ⟨hall hcontested, hends.stalemate ?_⟩
  obtain ⟨front, hlog, -⟩ := hends.last
  exact hall hcontested ⟨.battleEnd N winner, board⟩ (hlog ▸ by simp)

/-- A 1★ fighter against a healer. -/
def duel : Battle where
  p1Units := [{ instanceId := "f", unitId := .fighter, star := 1, hp := 100, maxHp := 100,
                slot := 0, side := .p1, alive := true }]
  p2Units := [{ instanceId := "h", unitId := .healer, star := 0, hp := 70, maxHp := 70,
                slot := 2, side := .p2, alive := true }]
  roundSeed := 7
  matchSeed := "m"
  side := by intro side; cases side <;> simp [unitsOf]
  slots := by intro side; cases side <;> simp [unitsOf]
  slot_le := by intro side; cases side <;> simp [unitsOf]
  ids := by simp
  hp := by intro side; cases side <;> simp [unitsOf]
  alive := by intro side; cases side <;> simp [unitsOf]
  unslowed := by intro side; cases side <;> simp [unitsOf]
  unrevived := by intro side; cases side <;> simp [unitsOf]

theorem runBattle_ends_duel :
    ∃ N winner board,
      Ends 1 (runBattle (fun _ _ => 0) duel.toBattleState) N winner board ∧
      (winner = none → N = MAX_CYCLES ∧ ∀ side, standingOn board side) := by
  obtain ⟨N, winner, board, hends, hstart⟩ := runBattle_ends (fun _ _ => 0) duel
  exact ⟨N, winner, board, hends, (hstart fun side => by cases side <;> rfl).2⟩

end

end AutoChess.Game
