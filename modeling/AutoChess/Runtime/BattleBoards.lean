/-
The board that is shown as a battle starts, against the board that fights.
The roster sent by the request that starts the battle is of the runtime it
read before its transition; the engine, the announcement of the battle and
the resolution read the runtime after it. They agree when no roster action
moved a unit between that read and the transition, and every round advanced
from its stored result (`one_board`).
-/
import AutoChess.Runtime.Results
import AutoChess.Runtime.Deeds

namespace AutoChess.Runtime

open AutoChess.Game AutoChess.Shop Calls

/-- A stored board, as a read returns it. -/
def storedBoard (h : RuntimeHash) : Side → Slots
  | .p1 => (normalizePlayerState h.p1State).board
  | .p2 => (normalizePlayerState h.p2State).board

/-- The last read of the runtime by `pid`. -/
def lastRead (pid : Nat) : List RuntimeEvent → Option RuntimeEvent
  | [] => none
  | e :: log =>
    match e.cmd with
    | .hgetall => if e.pid = pid then some e else lastRead pid log
    | _ => lastRead pid log

/-- The condition: when a battle starts, the boards stored still have the
units, slot by slot, that its request read. -/
def StartsAsRead (log : List RuntimeEvent) (e : RuntimeEvent) : Prop :=
  ∀ round ∈ e.before.hash.round, Enters .shop_place .battle round e → ∀ read ∈ lastRead e.pid log,
    summarizeBoard (storedBoard read.before.hash .p1) = summarizeBoard (storedBoard e.before.hash .p1) ∧
      summarizeBoard (storedBoard read.before.hash .p2) = summarizeBoard (storedBoard e.before.hash .p2)

instance (log : List RuntimeEvent) (e : RuntimeEvent) : Decidable (StartsAsRead log e) :=
  inferInstanceAs (Decidable (∀ _ ∈ _, _))

/-- The condition on a whole run. -/
def Unmoved (log : List RuntimeEvent) (e : RuntimeEvent) : Prop := AdvancesFromResult log e ∧ StartsAsRead log e

instance (log : List RuntimeEvent) (e : RuntimeEvent) : Decidable (Unmoved log e) :=
  inferInstanceAs (Decidable (_ ∧ _))

/-- The round a request resolves. -/
def Request.resolving : Request → Option Nat
  | .combatDoneTimeout round | .action _ round .combatDone => some round
  | _ => none

/-- Wherever a log says what fights in a round, it says `board`. -/
structure OneBoard (log : List RuntimeEvent) (round : Nat) (board : Side → Slots) : Prop where
  /-- The rosters sent by the request that starts the battle. -/
  shown : ∀ newer e older, log = newer ++ e :: older → ∀ target payload, e.cmd = .publish ⟨target, .state payload⟩ →
    Won (own e.pid older) .shop_place .battle round none →
    payload.opponent.battleBoardSummary = some (summarizeBoard (board (enemySideOf payload.yourSide)))
  announced : ∀ e ∈ log, ∀ target matchId cycleCount events p1 p2,
    e.cmd = .publish ⟨target, .combatEvents matchId round cycleCount events p1 p2⟩ → p1 = board .p1 ∧ p2 = board .p2
  engine : ∀ e ∈ log, ∀ state, e.cmd = .runBattle round state →
    unitsFromBoard (board .p1) .p1 = .ok state.p1Units ∧ unitsFromBoard (board .p2) .p2 = .ok state.p2Units
  /-- What is stored as the round is resolved. -/
  kept : ∀ e ∈ log, Enters .battle .resolved round e → ∀ side, storedBoard e.before.hash side = board side
  /-- What the requests that resolve the round store. -/
  resolved : ∀ e ∈ log, e.request.resolving = some round → ∀ fields, e.cmd = .hset fields → ∀ state,
    (.p1State state ∈ fields → state.board = board .p1) ∧ (.p2State state ∈ fields → state.board = board .p2)

section
variable {matchId : String} {host : Host} {init s : Store} {log newer older : List RuntimeEvent} {e : RuntimeEvent}
  {round : Nat} {runtime : MatchRuntimeState}

/-! ## Boards and reads -/

theorem lastRead_split {pid : Nat} {read : RuntimeEvent} (hpid : read.pid = pid) (hread : read.cmd = .hgetall)
    (hnewer : ∀ e ∈ newer, e.pid = pid → e.cmd ≠ .hgetall) : lastRead pid (newer ++ read :: older) = some read := by
  induction newer with
  | nil => simp [lastRead, hread, hpid]
  | cons e newer ih =>
    have ih := ih fun e' he' => hnewer e' (List.mem_cons_of_mem _ he')
    simp only [List.cons_append, lastRead]
    split
    · next hcmd =>
      rw [if_neg fun hp => hnewer e (List.mem_cons_self ..) hp hcmd]
      exact ih
    · exact ih

theorem ReadAs.boards {hash : RuntimeHash} (h : ReadAs matchId hash runtime) (side : Side) :
    (sideState runtime side).board = storedBoard hash side := by
  obtain ⟨a, b, h⟩ := h
  simp only [parseRuntimeHash, Option.bind_eq_bind, Option.bind_eq_some_iff, Option.pure_def, Option.some.injEq,
    MatchRuntimeState.mk.injEq] at h
  obtain ⟨phase, -, r, -, -, -, -, -, -, -, -, -, hp1, hp2, -⟩ := h
  cases side with
  | p1 => exact congrArg RuntimePlayerState.board hp1.symm
  | p2 => exact congrArg RuntimePlayerState.board hp2.symm

theorem storedBoard_players {h h' : RuntimeHash} (heq : players h' = players h) (side : Side) :
    storedBoard h' side = storedBoard h side := by
  simp only [players, Players.mk.injEq] at heq
  cases side with
  | p1 => simp only [storedBoard, heq.1]
  | p2 => simp only [storedBoard, heq.2.1]

/-- A read is of what is stored. -/
theorem Run.read_reply {read : RuntimeEvent} {hash : RuntimeHash} (h : Run matchId host init (newer ++ read :: older) s)
    (hcall : read.toCall = ⟨.hgetall, some hash⟩) : hash = read.before.hash := by
  have hdo := h.of_split.2.2
  obtain ⟨⟨cmd, reply⟩, pid, request, before, after⟩ := read
  cases hcall
  exact (hdo.of_reply rfl).1

theorem battleOf_units {battle : BattleState} (h : battleOf host runtime = .ok battle) :
    unitsFromBoard (sideState runtime .p1).board .p1 = .ok battle.p1Units ∧
      unitsFromBoard (sideState runtime .p2).board .p2 = .ok battle.p2Units := by
  unfold battleOf at h
  simp only [sideState]
  cases h1 : unitsFromBoard runtime.p1State.board .p1 with
  | error message =>
    rw [h1] at h
    cases h
  | ok p1Units =>
    cases h2 : unitsFromBoard runtime.p2State.board .p2 with
    | error message =>
      rw [h1, h2] at h
      cases h
    | ok p2Units =>
      rw [h1, h2] at h
      cases h
      exact ⟨rfl, rfl⟩

/-! ## During the battle -/

/-- The boards of a battle are those its transition found. -/
theorem Run.battle_boards (h : Run matchId host init (newer ++ e :: older) s) (hinit : stage init.hash = .some 3)
    (hok : Meets AdvancesFromResult (newer ++ e :: older)) (hen : Enters .shop_place .battle round e)
    (hs : s.hash.phase = some .battle ∧ s.hash.round = some round) (side : Side) :
    storedBoard s.hash side = storedBoard e.before.hash side := by
  obtain ⟨-, ha⟩ := enters_battle_stage hen h.phaseStep
  have hstill : Still (3 * round + 1) e.after s := by
    refine h.still_since fun newer' e' older' heq hst => ?_
    subst heq
    have h' := h
    rw [List.append_assoc, List.cons_append] at h' hok
    exact h'.battle_step hinit (Meets.of_append hok).2 hst
  have hplayers := hstill.2 ha (stage_battle hs)
  obtain ⟨next, hcmd, -⟩ := h.flip_of_enters hen (by decide) (by decide)
  have hflip : players e.after.hash = players e.before.hash := by
    rcases does_hash h.of_split.2.2 with heq | heq
    · rw [heq]
    · rw [heq, hcmd]
      simp only [written]
      split
      · cases next <;> rfl
      · rfl
  rw [storedBoard_players hplayers, storedBoard_players hflip]

/-- In the battle of a round the boards stored are those it started with. -/
theorem Run.in_battle (h : Run matchId host init log s) (hinit : stage init.hash = .some 3)
    (hok : Meets AdvancesFromResult log) (hs : s.hash.phase = some .battle ∧ s.hash.round = some round) :
    ∃ f ∈ log, Enters .shop_place .battle round f ∧ ∀ side, storedBoard s.hash side = storedBoard f.before.hash side := by
  have hstage := stage_battle hs
  obtain ⟨f, hf, hen⟩ : ∃ f ∈ log, Enters .shop_place .battle round f := by
    have hle := h.stage_first
    rw [hinit, hstage] at hle
    have := WithTop.coe_le_coe.1 hle
    obtain ⟨f, hf, hb, ha⟩ := h.passed (k := 3 * round) hinit hstage (by omega) (by omega)
    exact ⟨f, hf, (stage_shop_iff.1 hb).1, (stage_shop_iff.1 hb).2, (stage_battle_iff.1 ha).1⟩
  refine ⟨f, hf, hen, fun side => ?_⟩
  obtain ⟨l₁, l₂, rfl⟩ := List.append_of_mem hf
  exact h.battle_boards hinit hok hen hs side

/-- A request that read the runtime in the battle of a round read the boards
the battle started with. -/
theorem Run.read_boards {read : RuntimeEvent} (h : Run matchId host init (newer ++ read :: older) s)
    (hinit : stage init.hash = .some 3) (hok : Meets AdvancesFromResult (newer ++ read :: older))
    (hread : ReadAs matchId read.before.hash runtime) (hphase : runtime.phase = .battle)
    (hround : runtime.round = round) : ∃ f ∈ older, Enters .shop_place .battle round f ∧
      ∀ side, (sideState runtime side).board = storedBoard f.before.hash side := by
  have hrun : Run matchId host init older read.before := h.of_split.1
  have hat : read.before.hash.phase = some .battle ∧ read.before.hash.round = some round :=
    ⟨hphase ▸ hread.fields.1, hround ▸ hread.fields.2.1⟩
  obtain ⟨f, hf, hen, hboards⟩ := hrun.in_battle hinit (Meets.of_append hok).2 hat
  exact ⟨f, hf, hen, fun side => (hread.boards side).trans (hboards side)⟩

/-! ## Who says what -/

/-- What the engine is given and what is announced was read in the battle. -/
theorem Run.engaged_boards (h : Run matchId host init log s) (hinit : stage init.hash = .some 3)
    (hok : Meets AdvancesFromResult log) {pid : Nat} (hengaged : Engaged matchId (own pid log) round runtime) :
    ∃ f ∈ log, Enters .shop_place .battle round f ∧
      ∀ side, (sideState runtime side).board = storedBoard f.before.hash side := by
  obtain ⟨newerC, hash, olderC, hcalls, -, hread⟩ := hengaged.read
  obtain ⟨l₁, read, l₂, rfl, -, hcall, -, -⟩ := own_split hcalls
  rw [h.read_reply hcall] at hread
  obtain ⟨f, hf, hen, hboards⟩ := h.read_boards hinit hok hread hengaged.inBattle hengaged.ofRound
  exact ⟨f, by simp [hf], hen, hboards⟩

/-- What the starter shows is what its transition found, under the condition. -/
theorem Run.started_boards (h : Run matchId host init log s) (hok : Meets StartsAsRead log) {pid : Nat}
    (hstarted : StartedFrom matchId (own pid log) round runtime) :
    ∃ f ∈ log, Enters .shop_place .battle round f ∧ ∀ side,
      summarizeBoard (sideState runtime side).board = summarizeBoard (storedBoard f.before.hash side) := by
  obtain ⟨newerC, mid, hash, olderC, hcalls, hquiet, hread⟩ := hstarted
  obtain ⟨l₁, f, l₂, rfl, hpid, hflip, hcalls, -⟩ := own_split hcalls
  obtain ⟨m₁, read, m₂, rfl, hpid', hcall, -, hmid⟩ := own_split hcalls
  have hen := (h.enters_of_flip hflip).1
  have hlast : lastRead f.pid (m₁ ++ read :: m₂) = some read := by
    refine lastRead_split (hpid'.trans hpid.symm) (congrArg Call.cmd hcall) fun e he hp hget => ?_
    have hc := hquiet e.toCall (hmid ▸ mem_own.2 ⟨e, he, hp.trans hpid, rfl⟩)
    rw [hget] at hc
    exact hc
  have hrun : Run matchId host init (m₁ ++ read :: m₂) f.before := h.of_split.1
  rw [hrun.read_reply hcall] at hread
  obtain ⟨h1, h2⟩ := (Meets.of_append hok).1 round hen.2.1 hen read hlast
  refine ⟨f, by simp, hen, fun side => ?_⟩
  rw [hread.boards]
  cases side with
  | p1 => exact h1
  | p2 => exact h2

/-- A resolution leaves the boards its request read in the battle. -/
theorem Run.computed_boards (h : Run matchId host init log s) (hinit : stage init.hash = .some 3)
    (hok : Meets AdvancesFromResult log) {pid : Nat} {events : List CombatEvent} {resolution : Resolution}
    (hc : Computed matchId (own pid log) round runtime events resolution) :
    ∃ f ∈ log, Enters .shop_place .battle round f ∧
      resolution.p1.board = storedBoard f.before.hash .p1 ∧ resolution.p2.board = storedBoard f.before.hash .p2 := by
  obtain ⟨newerC, mid, olderC, hcalls, hash, hmem, hread⟩ := hc.calls
  have hsaw : Saw matchId (own pid log) runtime := ⟨hash, by simp [hcalls, hmem], hread⟩
  obtain ⟨l₁, read, l₂, rfl, -, hread⟩ := h.saw_read hsaw
  obtain ⟨f, hf, hen, hboards⟩ := h.read_boards hinit hok hread hc.inBattle hc.ofRound
  obtain ⟨h1, h2⟩ := resolveRound_boards hc.resolved
  exact ⟨f, by simp [hf], hen, h1.trans (hboards .p1), h2.trans (hboards .p2)⟩

/-- The request that resolves a round is named after it. -/
theorem DeedRun.resolving (h : DeedRun matchId host init log s) {pid : Nat}
    (hw : Won (own pid log) .battle .resolved round none) :
    ∃ f ∈ log, f.pid = pid ∧ f.request.resolving = some round := by
  obtain ⟨f, hf, hpid, hcall⟩ := mem_own.1 hw
  obtain ⟨l₁, l₂, rfl⟩ := List.append_of_mem hf
  have hdeed := h.of_split.2.1.2
  rw [congrArg Call.cmd hcall] at hdeed
  refine ⟨f, hf, hpid, ?_⟩
  obtain hq | ⟨userId, count, hq, -⟩ := hdeed <;> rw [hq] <;> rfl

/-- What a resolution stores of the players. -/
theorem DeedRun.stores_boards (h : DeedRun matchId host init (newer ++ e :: older) s)
    (hinit : stage init.hash = .some 3) (hok : Meets AdvancesFromResult older)
    (hsame : ∀ f ∈ older, f.pid = e.pid → f.request = e.request) (hround : e.request.resolving = some round)
    {fields : List FieldWrite} (hcmd : e.cmd = .hset fields) {state : RuntimePlayerState}
    (hfield : .p1State state ∈ fields ∨ .p2State state ∈ fields) :
    ∃ f ∈ older, Enters .shop_place .battle round f ∧
      (.p1State state ∈ fields → state.board = storedBoard f.before.hash .p1) ∧
      (.p2State state ∈ fields → state.board = storedBoard f.before.hash .p2) := by
  have hrun : Run matchId host init older e.before := h.run.of_split.1
  have hg := h.of_split.2.1.1
  rw [hcmd] at hg
  have hcomputed : ∀ {round' runtime events resolution},
      Computed matchId (own e.pid older) round' runtime events resolution → ∃ f ∈ older,
        Enters .shop_place .battle round f ∧ resolution.p1.board = storedBoard f.before.hash .p1 ∧
          resolution.p2.board = storedBoard f.before.hash .p2 := by
    intro round' runtime events resolution hc
    obtain ⟨f, hf, hpid, hresolves⟩ := DeedRun.resolving h.of_split.1 hc.won
    rw [hsame f hf hpid, hround] at hresolves
    obtain rfl : round = round' := Option.some.inj hresolves
    exact hrun.computed_boards hinit hok hc
  cases hg with
  | result hc _ _ _ =>
    obtain ⟨f, hf, hen, h1, h2⟩ := hcomputed hc
    refine ⟨f, hf, hen, fun hmem => ?_, fun hmem => ?_⟩
    · obtain rfl : state = rewarded _ := by simpa [resultFields] using hmem
      exact h1
    · obtain rfl : state = rewarded _ := by simpa [resultFields] using hmem
      exact h2
  | knockout hc _ _ _ =>
    obtain ⟨f, hf, hen, h1, h2⟩ := hcomputed hc
    refine ⟨f, hf, hen, fun hmem => ?_, fun hmem => ?_⟩
    · obtain rfl : state = _ := by simpa [knockoutFields] using hmem
      exact h1
    · obtain rfl : state = _ := by simpa [knockoutFields] using hmem
      exact h2
  | names => simp at hfield
  | fought _ _ _ => simp at hfield
  | reset _ _ => simp [resetFields] at hfield
  | @roundReady _ _ _ side _ _ _ _ => cases side <;> simp [readyField] at hfield
  | @markReady _ _ side _ => cases side <;> simp [readyField] at hfield

end

/-- **The board shown is the board that fights**, in every run in which a
battle starts from the boards its request read, and a round advances from its
stored result. -/
theorem one_board (matchId : String) (host : Host) (m : Match) (names : PlayerNames) (users : String → Option User)
    (moves : List (Move Request Nat))
    (hok : Meets Unmoved ((pool matchId host).run ⟨freshStore m names users, [], []⟩ moves).log) (round : Nat) :
    ∃ board, OneBoard ((pool matchId host).run ⟨freshStore m names users, [], []⟩ moves).log round board := by
  have h : DeedRun matchId host (freshStore m names users) _ _ := run_deeds (freshStore m names users) moves
  have hrun := h.run
  have hinit : stage (freshStore m names users).hash = .some 3 := stage_shop (r := 1) ⟨rfl, rfl⟩
  have hsame : ∀ e ∈ ((pool matchId host).run ⟨freshStore m names users, [], []⟩ moves).log,
      ∀ f ∈ ((pool matchId host).run ⟨freshStore m names users, [], []⟩ moves).log, f.pid = e.pid →
        f.request = e.request := fun e he f hf hpid => Pool.same_request _ _ moves he hf hpid
  generalize ((pool matchId host).run ⟨freshStore m names users, [], []⟩ moves).log = log at h hrun hok hsame ⊢
  generalize ((pool matchId host).run ⟨freshStore m names users, [], []⟩ moves).store = s at h hrun
  have hresult := hok.imp fun _ _ => And.left
  have hstart := hok.imp fun _ _ => And.right
  -- The boards a battle of this round started with, if there was one.
  obtain ⟨board, hboard⟩ : ∃ board : Side → Slots, ∀ f ∈ log, Enters .shop_place .battle round f →
      ∀ side, storedBoard f.before.hash side = board side := by
    by_cases hstarted : ∃ f ∈ log, Enters .shop_place .battle round f
    · obtain ⟨f, hf, hen⟩ := hstarted
      exact ⟨storedBoard f.before.hash, fun f' hf' hen' side => by rw [hrun.starter_unique hf' hf hen' hen]⟩
    · exact ⟨fun _ => [], fun f hf hen => (hstarted ⟨f, hf, hen⟩).elim⟩
  refine ⟨board, ⟨?_, ?_, ?_, ?_, ?_⟩⟩
  · rintro newer e older rfl target payload hcmd hwon
    have hdeed := h.of_split.2.1.2
    rw [hcmd] at hdeed
    obtain ⟨runtime, hfrom, hsummary⟩ := hdeed round hwon
    obtain ⟨f, hf, hen, hboards⟩ := Run.started_boards hrun.of_split.1 (Meets.of_append hstart).2 hfrom
    rw [hsummary, hboards, hboard f (by simp [hf]) hen]
  · intro e he target matchId' cycleCount events p1 p2 hcmd
    obtain ⟨newer, older, rfl⟩ := List.append_of_mem he
    have hdeed := h.of_split.2.1.2
    rw [hcmd] at hdeed
    obtain ⟨runtime, hengaged, rfl, rfl⟩ := hdeed
    obtain ⟨f, hf, hen, hboards⟩ := Run.engaged_boards hrun.of_split.1 hinit (Meets.of_append hresult).2 hengaged
    have hsides := hboard f (by simp [hf]) hen
    exact ⟨(hboards .p1).trans (hsides .p1), (hboards .p2).trans (hsides .p2)⟩
  · intro e he state hcmd
    obtain ⟨newer, older, rfl⟩ := List.append_of_mem he
    have hdeed := h.of_split.2.1.2
    rw [hcmd] at hdeed
    obtain ⟨runtime, hengaged, hbattle⟩ := hdeed
    obtain ⟨f, hf, hen, hboards⟩ := Run.engaged_boards hrun.of_split.1 hinit (Meets.of_append hresult).2 hengaged
    have hsides := hboard f (by simp [hf]) hen
    rw [← hsides .p1, ← hsides .p2, ← hboards .p1, ← hboards .p2]
    exact battleOf_units hbattle
  · intro e he hen side
    obtain ⟨newer, older, rfl⟩ := List.append_of_mem he
    obtain ⟨f, hf, hen', hboards⟩ := Run.in_battle hrun.of_split.1 hinit (Meets.of_append hresult).2 ⟨hen.1, hen.2.1⟩
    rw [hboards, hboard f (by simp [hf]) hen']
  · intro e he hround fields hcmd state
    obtain ⟨newer, older, rfl⟩ := List.append_of_mem he
    have hstores := fun hfield : .p1State state ∈ fields ∨ .p2State state ∈ fields =>
      h.stores_boards hinit (Meets.of_append hresult).2 (fun f hf hpid => hsame e he f (by simp [hf]) hpid) hround
        hcmd hfield
    refine ⟨fun hmem => ?_, fun hmem => ?_⟩
    · obtain ⟨f, hf, hen, h1, -⟩ := hstores (.inl hmem)
      rw [h1 hmem, hboard f (by simp [hf]) hen]
    · obtain ⟨f, hf, hen, -, h2⟩ := hstores (.inr hmem)
      rw [h2 hmem, hboard f (by simp [hf]) hen]

/-- Each player buys a unit and puts it on the board, and the round is fought
to the next one. -/
def fielded : List (Move Request Nat) :=
  .start (.announce friendly ⟨"one", "two"⟩) :: answers 0 20 ++
  .start (.action "u1" 1 (.shop (.buy 4) "a")) :: answers 1 25 ++
  .start (.action "u1" 1 (.place "u" .board 0 "b")) :: answers 2 25 ++
  .start (.action "u2" 1 (.shop (.buy 0) "a")) :: answers 3 25 ++
  .start (.action "u2" 1 (.place "uuuu" .board 0 "b")) :: answers 4 25 ++
  .start (.phaseTimer 1) :: answers 5 25 ++
  .start (.action "u1" 1 .combatDone) :: answers 6 25 ++
  .start (.action "u2" 1 .combatDone) :: answers 7 25 ++
  .start (.action "u1" 1 .roundReady) :: answers 8 25 ++
  .start (.action "u2" 1 .roundReady) :: answers 9 25

set_option maxRecDepth 100000 in
theorem one_board_fielded : ∃ board, OneBoard (play fielded).log 1 board :=
  one_board "m" plainHost friendly ⟨"one", "two"⟩ (fun _ => none) fielded (by decide +kernel) 1

/-! ## A unit placed in between -/

/-- The first player buys a unit, and places it between the timer's read and
its transition. -/
def ambush : List (Move Request Nat) :=
  .start (.announce friendly ⟨"one", "two"⟩) :: answers 0 20 ++
  .start (.action "u1" 1 (.shop (.buy 4) "a")) :: answers 1 25 ++
  .start (.phaseTimer 1) :: answers 2 1 ++
  .start (.action "u1" 1 (.place "u" .board 0 "b")) :: answers 3 25 ++ answers 2 14

/-- The first player's board, as the battle is announced. -/
def Cmd.announcedP1 : Cmd → Option (Nat × Slots)
  | .publish ⟨_, .combatEvents _ round _ _ p1 _⟩ => some (round, p1)
  | _ => none

/-- The first player's board, as it is shown to the second. -/
def Cmd.shownP1 : Cmd → Option OpponentBoardSummary
  | .publish ⟨_, .state payload⟩ => if payload.yourSide = .p2 then payload.opponent.battleBoardSummary else none
  | _ => none

theorem announcedP1_eq {c : Cmd} {round : Nat} {p1 : Slots} (h : c.announcedP1 = some (round, p1)) :
    ∃ target matchId cycleCount events p2,
      c = .publish ⟨target, .combatEvents matchId round cycleCount events p1 p2⟩ := by
  unfold Cmd.announcedP1 at h
  split at h
  · cases h
    exact ⟨_, _, _, _, _, rfl⟩
  · cases h

theorem shownP1_eq {c : Cmd} {summary : OpponentBoardSummary} (h : c.shownP1 = some summary) :
    ∃ target payload, c = .publish ⟨target, .state payload⟩ ∧ payload.yourSide = .p2 ∧
      payload.opponent.battleBoardSummary = some summary := by
  unfold Cmd.shownP1 at h
  split at h
  · split at h
    · next hside => exact ⟨_, _, rfl, hside, h⟩
    · cases h
  · cases h

set_option maxRecDepth 100000 in
/-- The second player is shown an empty board, and fights a healer. -/
theorem ambushed_board : ¬ ∃ board, OneBoard (play ambush).log 1 board := by
  rintro ⟨board, h⟩
  have hannounced : ∃ e ∈ (play ambush).log,
      e.cmd.announcedP1 = some (1, some (newUnit .healer 1 "u") :: List.replicate 8 none) := by decide
  obtain ⟨e, hmem, hannounced⟩ := hannounced
  obtain ⟨target, matchId, cycleCount, events, p2, hcmd⟩ := announcedP1_eq hannounced
  have hboard := (h.announced e hmem target matchId cycleCount events _ p2 hcmd).1
  -- The roster shown is the tenth call from the end, the transition the thirteenth.
  have hlog := (List.take_append_drop 10 (play ambush).log).symm
  have hshown : (((play ambush).log.drop 10).head?.any fun e =>
      e.pid == 2 && e.cmd.shownP1 == some emptyBoardSummary) = true := by decide
  have hflip : (⟨.phaseFlip .shop_place .battle 1 none, some true⟩ : Call Cmd Resp) ∈
      own 2 ((play ambush).log.drop 10).tail := .tail _ (.tail _ (.head _))
  have hshows := h.shown
  generalize (play ambush).log.drop 10 = tail at hlog hshown hflip
  cases tail with
  | nil => cases hshown
  | cons e older =>
    obtain ⟨hpid, hshown⟩ := Bool.and_eq_true_iff.1 hshown
    obtain ⟨target, payload, hcmd, hside, hsummary⟩ := shownP1_eq (eq_of_beq hshown)
    have hsame := hshows _ e older hlog target payload hcmd (eq_of_beq hpid ▸ hflip)
    rw [hsummary, hside] at hsame
    have hempty : emptyBoardSummary = summarizeBoard (board .p1) := Option.some.inj hsame
    rw [← hboard] at hempty
    exact absurd hempty (by decide)

end AutoChess.Runtime
