/-
What a request's own earlier calls guarantee whenever it makes a call
(`Guard`), proved of every program of the adapter. Nothing here depends on
what other requests do: the concurrency arguments of the later modules start
from these guards and the log.
-/
import AutoChess.Runtime.Adapter

namespace AutoChess.Runtime

open AutoChess.Game AutoChess.Shop Calls

/-- The calls a request has made, newest first. -/
abbrev History := List (Call Cmd Resp)

/-! ## The guards -/

/-- Commands that matter to no round: they may come at any time. -/
def Quiet : Cmd → Prop
  | .hgetall | .phaseFlip _ _ _ _ | .actionLog _ _ _ _ _ _ | .delCombatKeys
  | .writeCombatResult _ _ | .runBattle _ _ | .updateRuntimeSnapshot _ _ _ _ => False
  | .hset fields => ∃ a b, fields = [.player1Name a, .player2Name b]
  | _ => True

/-- The steps of a battle, before it is announced as fought. -/
def Cmd.isCombat : Cmd → Bool
  | .runBattle _ _ | .delCombatKeys | .writeCombatResult _ _ => true
  | .hset [.combatRound (some _)] => true
  | _ => false

/-- The engine. -/
def Cmd.isEngine : Cmd → Bool
  | .runBattle _ _ => true
  | _ => false

/-- The writes of a fought battle: its events, then that it is fought. -/
def Cmd.isFought : Cmd → Bool
  | .writeCombatResult _ _ => true
  | .hset [.combatRound (some _)] => true
  | _ => false

/-- The writes of a round's result to Redis. -/
def Cmd.isResult : Cmd → Bool
  | .hset (.p1State _ :: _) => true
  | .hset (.phase .finished :: _) => true
  | _ => false

/-- The reset of a new planning phase. -/
def Cmd.isReset : Cmd → Bool
  | .hset (.readyP1 _ :: .readyP2 _ :: _) => true
  | _ => false

/-- No call so far satisfies `p`. -/
def Never (p : Cmd → Bool) (h : History) : Prop := ∀ c ∈ h, p c.cmd = false

/-- The request's own transition: it got the answer that it flipped. -/
def Won (h : History) (expectedPhase newPhase : MatchPhase) (round : Nat) (next : Option Nat) : Prop :=
  (⟨.phaseFlip expectedPhase newPhase round next, some true⟩ : Call Cmd Resp) ∈ h

/-- Requests that change a roster. -/
def Request.edits : Request → Bool
  | .action _ _ (.shop _ _) | .action _ _ (.place _ _ _ _) => true
  | _ => false

/-- Requests that resolve a round. -/
def Request.resolves : Request → Bool
  | .action _ _ .combatDone | .combatDoneTimeout _ => true
  | _ => false

variable (matchId : String)

/-- The runtime as a read returned it, but for player names looked up since. -/
def ReadAs (hash : RuntimeHash) (runtime : MatchRuntimeState) : Prop :=
  ∃ a b, parseRuntimeHash matchId hash = some { runtime with player1Name := a, player2Name := b }

/-- An earlier read returned this runtime. -/
def Saw (h : History) (runtime : MatchRuntimeState) : Prop :=
  ∃ hash, (⟨.hgetall, some hash⟩ : Call Cmd Resp) ∈ h ∧ ReadAs matchId hash runtime

/-- The last read returned this runtime. -/
def LastSaw (h : History) (runtime : MatchRuntimeState) : Prop :=
  ∃ newer hash older, h = newer ++ (⟨.hgetall, some hash⟩ : Call Cmd Resp) :: older ∧
    (∀ c ∈ newer, c.cmd ≠ .hgetall) ∧ ReadAs matchId hash runtime

/-- What makes a request start the battle of a round: its timer, a recorded
`match:ready` right after which it read both flags set, or the older
`markReady`. -/
inductive Starts (q : Request) (h : History) (round : Nat) : Prop where
  | timer (hq : q = .phaseTimer round)
  | ready {userId id : String} {ready : Option Bool} {side : Side} {newer older : History}
      {hash : RuntimeHash} (hq : q = .action userId round (.ready ready id))
      (hh : h = newer ++ (⟨.hgetall, some hash⟩ : Call Cmd Resp) ::
        (⟨.actionLog userId id (readyField side (ready.getD true)) none .shop_place round,
          some .recorded⟩ : Call Cmd Resp) :: older)
      (h1 : hash.readyP1 = true) (h2 : hash.readyP2 = true)
  | markReady {userId : String} (hq : q = .markReady userId round)

inductive FlipGuard (q : Request) (h : History) :
    MatchPhase → MatchPhase → Nat → Option Nat → Prop where
  | start {round : Nat} (hs : Starts q h round) : FlipGuard q h .shop_place .battle round none
  | resolve {round : Nat} {runtime : MatchRuntimeState} {events : List CombatEvent}
      {newer older : History}
      (hh : h = newer ++ (⟨.getCombatResult, some (some events)⟩ : Call Cmd Resp) :: older)
      (hsaw : Saw matchId older runtime) (hphase : runtime.phase = .battle)
      (hround : runtime.round = round) (hfought : runtime.combatRound = some round)
      (hq : q.resolves = true) : FlipGuard q h .battle .resolved round none
  | advance {round : Nat} {runtime : MatchRuntimeState} (hsaw : LastSaw matchId h runtime)
      (hphase : runtime.phase = .resolved) (hround : runtime.round = round) :
      FlipGuard q h .resolved .shop_place round (some (round + 1))
  | finish {phase : MatchPhase} {round : Nat} (hphase : phase ≠ .finished) :
      FlipGuard q h phase .finished round none

/-- The result of a round, as its writer computed it: from the runtime and the
events it read before it won the transition. -/
structure Computed (h : History) (round : Nat) (runtime : MatchRuntimeState)
    (events : List CombatEvent) (resolution : Resolution) : Prop where
  calls : ∃ newer mid older,
    h = newer ++ (⟨.phaseFlip .battle .resolved round none, some true⟩ : Call Cmd Resp) ::
      (mid ++ (⟨.getCombatResult, some (some events)⟩ : Call Cmd Resp) :: older) ∧
      Saw matchId older runtime
  inBattle : runtime.phase = .battle
  ofRound : runtime.round = round
  fought : runtime.combatRound = some round
  resolved : resolveRound runtime round events = some resolution

inductive WriteGuard (q : Request) (h : History) : List FieldWrite → Prop where
  | names {a b : String} : WriteGuard q h [.player1Name a, .player2Name b]
  | fought {round ttl : Nat} {state : BattleState} {events : List CombatEvent} {older : History}
      (hh : h = (⟨.writeCombatResult events ttl, some ()⟩ : Call Cmd Resp) :: older)
      (hwon : Won older .shop_place .battle round none)
      (hrun : (⟨.runBattle round state, some events⟩ : Call Cmd Resp) ∈ older) :
      WriteGuard q h [.combatRound (some round)]
  | result {round : Nat} {runtime : MatchRuntimeState} {events : List CombatEvent}
      {resolution : Resolution} (hc : Computed matchId h round runtime events resolution)
      (hlive : resolution.winnerId = none) (hfirst : Never Cmd.isResult h) (hq : q.resolves = true) :
      WriteGuard q h (resultFields round resolution.damage (rewarded resolution.p1)
        (rewarded resolution.p2))
  | knockout {round : Nat} {runtime : MatchRuntimeState} {events : List CombatEvent}
      {resolution : Resolution} (hc : Computed matchId h round runtime events resolution)
      (hover : resolution.winnerId ≠ none) (hfirst : Never Cmd.isResult h) (hq : q.resolves = true) :
      WriteGuard q h (knockoutFields resolution.damage resolution.p1 resolution.p2)
  | reset {round : Nat} (hwon : Won h .resolved .shop_place round (some (round + 1)))
      (hfirst : Never Cmd.isReset h) : WriteGuard q h resetFields
  | roundReady {userId : String} {round : Nat} {runtime : MatchRuntimeState} {side : Side}
      (hq : q = .action userId round .roundReady) (hsaw : Saw matchId h runtime)
      (hphase : runtime.phase = .resolved) (hround : runtime.round = round) :
      WriteGuard q h [readyField side true]
  | markReady {userId : String} {round : Nat} {side : Side} (hq : q = .markReady userId round) :
      WriteGuard q h [readyField side true]

inductive LogGuard (q : Request) : FieldWrite → MatchPhase → Prop where
  | state {side : Side} {state : RuntimePlayerState} (hq : q.edits = true) :
      LogGuard q (stateField side state) .shop_place
  | ready {userId id : String} {round : Nat} {ready : Option Bool} {side : Side}
      (hq : q = .action userId round (.ready ready id)) :
      LogGuard q (readyField side (ready.getD true)) .shop_place

/-- What the calls `h` of request `q` guarantee when it makes a call. -/
def Guard (q : Request) (h : History) : Cmd → Prop
  | .phaseFlip expectedPhase newPhase round next =>
    FlipGuard matchId q h expectedPhase newPhase round next
  | .hset fields => WriteGuard matchId q h fields
  | .actionLog _ _ field _ expectedPhase _ => LogGuard q field expectedPhase
  | .delCombatKeys => Never Cmd.isCombat h ∧ ∃ round, Won h .shop_place .battle round none
  | .runBattle round _ => Never Cmd.isEngine h ∧ Won h .shop_place .battle round none
  | .writeCombatResult events _ => Never Cmd.isFought h ∧ ∃ round state,
      Won h .shop_place .battle round none ∧
      (⟨.runBattle round state, some events⟩ : Call Cmd Resp) ∈ h
  | .updateRuntimeSnapshot _ _ _ _ => Never Cmd.isResult h ∧ ∃ round,
      Won h .battle .resolved round none
  | _ => True

/-! ## Rules -/

section
variable {matchId : String} {q : Request} {h : History}

/-- The program is guarded, after the calls `h`. -/
abbrev Guarded {α : Type} (matchId : String) (q : Request) (h : History) (p : M α) : Prop :=
  p.Obeys (Guard matchId q) (fun _ _ => True) h

theorem guard_of_quiet {c : Cmd} (hc : Quiet c) : Guard matchId q h c := by
  cases c with
  | hset fields =>
    obtain ⟨a, b, rfl⟩ := hc
    exact .names
  | _ => trivial

theorem Never.cons {p : Cmd → Bool} {c : Call Cmd Resp} (hc : p c.cmd = false) (hh : Never p h) :
    Never p (c :: h) := List.forall_mem_cons.2 ⟨hc, hh⟩

theorem Never.append {p : Cmd → Bool} {new : History} (hnew : ∀ c ∈ new, p c.cmd = false)
    (hh : Never p h) : Never p (new ++ h) := List.forall_mem_append.2 ⟨hnew, hh⟩

/-- Quiet calls satisfy none of the markers. -/
theorem Quiet.marker {p : Cmd → Bool} (hp : p = Cmd.isCombat ∨ p = Cmd.isEngine ∨ p = Cmd.isFought ∨
    p = Cmd.isResult ∨ p = Cmd.isReset) {c : Cmd} (hc : Quiet c) : p c = false := by
  rcases hp with rfl | rfl | rfl | rfl | rfl <;> cases c <;>
    first | rfl | (obtain ⟨a, b, rfl⟩ := hc; rfl) | cases hc

theorem guarded_call {α : Type} {Q : Except Err α → History → Prop} {c : Cmd} {f : Resp c → M α}
    (hc : Guard matchId q h c) (hf : ∀ r, (f r).Obeys (Guard matchId q) Q (⟨c, some r⟩ :: h))
    (hfault : Q (.error .fault) (⟨c, none⟩ :: h)) :
    ((call c).bind f).Obeys (Guard matchId q) Q h :=
  Prog.Obeys.perform_bind hc hf hfault

/-- What quiet calls leave known: the history grew by quiet calls. -/
def Grown (h h' : History) : Prop := ∃ new, h' = new ++ h ∧ ∀ c ∈ new, Quiet c.cmd

theorem quiet_obeys {α : Type} {p : M α} (hp : p.Issues Quiet) :
    p.Obeys (Guard matchId q) (fun _ h' => Grown h h') h :=
  Prog.Issues.obeys hp fun _ _ => guard_of_quiet

theorem guarded_of_quiet {α : Type} {p : M α} (hp : p.Issues Quiet) : Guarded matchId q h p :=
  (quiet_obeys hp).mono fun _ _ _ _ => trivial

theorem quiet_call {c : Cmd} (hc : Quiet c) : (call c).Issues Quiet := Prog.Issues.perform hc _

theorem quiet_then {α : Type} {c : Cmd} {f : Resp c → M α} (hc : Quiet c)
    (hf : ∀ r, (f r).Issues Quiet) : ((call c).bind f).Issues Quiet := Prog.Issues.perform_bind hc hf

/-- Quiet calls, then the rest. -/
theorem guarded_quiet {α β : Type} {p : M α} {f : α → M β} (hp : p.Issues Quiet)
    (hf : ∀ a h', Grown h h' → Guarded matchId q h' (f a)) : Guarded matchId q h (p.bind f) := by
  refine Prog.Obeys.bind ((quiet_obeys hp).mono fun o h' _ hg => ?_)
  cases o with
  | ok a => exact hf a h' hg
  | error e => trivial

end

/-! ## Quiet programs -/

section
variable {matchId : String} {host : Host}

theorem orReject_quiet {α : Type} (o : Except Rejection α) : (orReject o).Issues Quiet := by
  cases o <;> trivial

theorem sideFor_silent (runtime : MatchRuntimeState) (userId : String) :
    (sideFor runtime userId).Issues fun _ => False := by
  unfold sideFor
  split
  · trivial
  · split <;> trivial

theorem sideFor_quiet (runtime : MatchRuntimeState) (userId : String) :
    (sideFor runtime userId).Issues Quiet := by
  unfold sideFor
  split
  · trivial
  · split <;> trivial

theorem shopSide_quiet (runtime : MatchRuntimeState) (userId : String) :
    (shopSide runtime userId).Issues Quiet := by
  unfold shopSide
  split
  · trivial
  · split <;> trivial

theorem publish_quiet (payload : Payload) : (publish payload).Issues Quiet := quiet_call trivial

theorem publishToUser_quiet (userId : String) (payload : Payload) :
    (publishToUser userId payload).Issues Quiet := quiet_call trivial

theorem publishState_quiet (runtime : MatchRuntimeState) (side : Side) (state : RuntimePlayerState) :
    (publishState runtime side state).Issues Quiet :=
  (publishToUser_quiet _ _).both (publishToUser_quiet _ _)

theorem acquireLock_quiet (lock : Lock) (owner : String) (busy : Rejection) :
    ∀ attempts, (acquireLock lock owner busy attempts).Issues Quiet
  | 0 => trivial
  | attempts + 1 => by
    refine quiet_then (by trivial) fun acquired => ?_
    split
    · trivial
    · exact quiet_then (by trivial) fun _ => acquireLock_quiet lock owner busy attempts

theorem resetShop_quiet (runtime : MatchRuntimeState) (playerId : String) :
    (resetShop host runtime playerId).Issues Quiet :=
  quiet_then (by trivial) fun _ => publishToUser_quiet _ _

theorem rollOffersForMatch_quiet (runtime : MatchRuntimeState) :
    (rollOffersForMatch host runtime).Issues Quiet :=
  (resetShop_quiet runtime _).both (resetShop_quiet runtime _)

theorem finalize_quiet (winnerId : Option String) (reason : MatchEndReason) :
    (finalize winnerId reason).Issues Quiet := by
  refine quiet_then (by trivial) fun reply => ?_
  cases reply with
  | invalidWinner => trivial
  | playerNotFound => trivial
  | notInProgress terminal =>
    dsimp only
    split
    · exact quiet_then (by trivial) fun _ => trivial
    · trivial
  | finalized row rating =>
    refine quiet_then (by trivial) fun _ => quiet_then (by trivial) fun _ => ?_
    exact quiet_then (by trivial) fun _ => (publish_quiet _).bind fun _ => trivial

theorem forfeitDisconnectedPlayer_quiet (userId : String) :
    (forfeitDisconnectedPlayer userId).Issues Quiet := by
  refine quiet_then (by trivial) fun row => ?_
  split
  · trivial
  · split
    · trivial
    · exact finalize_quiet _ _

theorem resolveMatch_quiet (userId : String) : (resolveMatch userId).Issues Quiet := by
  refine quiet_then (by trivial) fun found => ?_
  cases found <;> trivial

theorem announceMatch_quiet (m : Match) (names : PlayerNames) :
    (announceMatch host m names).Issues Quiet := by
  refine quiet_then (by trivial) fun _ => quiet_then (by trivial) fun _ => ?_
  exact (publish_quiet _).bind fun _ => (publishState_quiet _ _ _).bind fun _ =>
    rollOffersForMatch_quiet _

/-! ## Reads -/

variable {q : Request} {h : History}

/-- The runtime was just read. -/
def Fresh (matchId : String) (h h' : History) (runtime : MatchRuntimeState) : Prop :=
  ∃ hash new, h' = new ++ (⟨.hgetall, some hash⟩ : Call Cmd Resp) :: h ∧ (∀ c ∈ new, Quiet c.cmd) ∧
    ReadAs matchId hash runtime

theorem Fresh.saw {h' : History} {runtime : MatchRuntimeState} (hf : Fresh matchId h h' runtime) :
    Saw matchId h' runtime := by
  obtain ⟨hash, new, rfl, -, hread⟩ := hf
  exact ⟨hash, by simp, hread⟩

theorem Fresh.lastSaw {h' : History} {runtime : MatchRuntimeState}
    (hf : Fresh matchId h h' runtime) : LastSaw matchId h' runtime := by
  obtain ⟨hash, new, rfl, hquiet, hread⟩ := hf
  refine ⟨new, hash, h, rfl, fun c hc heq => ?_, hread⟩
  have := hquiet c hc
  rw [heq] at this
  exact this

theorem Fresh.never {p : Cmd → Bool} (hp : p = Cmd.isCombat ∨ p = Cmd.isEngine ∨ p = Cmd.isFought ∨
    p = Cmd.isResult ∨ p = Cmd.isReset) {h' : History} {runtime : MatchRuntimeState}
    (hf : Fresh matchId h h' runtime) (hh : Never p h) : Never p h' := by
  obtain ⟨hash, new, rfl, hquiet, -⟩ := hf
  refine Never.append (fun c hc => (hquiet c hc).marker hp) (Never.cons ?_ hh)
  rcases hp with rfl | rfl | rfl | rfl | rfl <;> rfl

theorem Fresh.suffix {h' : History} {runtime : MatchRuntimeState} (hf : Fresh matchId h h' runtime) :
    h <:+ h' := by
  obtain ⟨hash, new, rfl, -, -⟩ := hf
  exact ⟨new ++ [⟨.hgetall, some hash⟩], by simp⟩

/-- The commands of a read. -/
def Reads : Cmd → Prop
  | .hgetall | .usernamesForPlayers _ _ => True
  | .hset fields => ∃ a b, fields = [.player1Name a, .player2Name b]
  | _ => False

theorem guard_of_reads (h : History) {c : Cmd} (hc : Reads c) : Guard matchId q h c := by
  cases c with
  | hset fields =>
    obtain ⟨a, b, rfl⟩ := hc
    exact .names
  | hgetall => trivial
  | usernamesForPlayers player1Id player2Id => trivial
  | _ => cases hc

section
variable {S : History → Cmd → Prop} (hS : ∀ h' c, Reads c → S h' c)
include hS

/-- A read, under any guard that lets it be made. -/
theorem findRuntime_fresh : (findRuntime matchId).Obeys S (fun o h' =>
    ∀ runtime, o = .ok (some runtime) → Fresh matchId h h' runtime) h := by
  refine Prog.Obeys.perform_bind (hS _ _ trivial) (fun hash => ?_) (by simp)
  split
  · rintro _ ⟨⟩
  · next runtime hparse =>
    split
    · refine Prog.Obeys.perform_bind (hS _ _ trivial) (fun names => ?_) (by simp)
      refine Prog.Obeys.perform_bind (hS _ _ ⟨_, _, rfl⟩) (fun _ => ?_) (by simp)
      rintro _ ⟨⟩
      exact ⟨hash, [⟨.hset _, some ()⟩, ⟨.usernamesForPlayers _ _, some names⟩], rfl,
        List.forall_mem_cons.2 ⟨⟨_, _, rfl⟩, List.forall_mem_singleton.2 trivial⟩,
        runtime.player1Name, runtime.player2Name, hparse⟩
    · rintro _ ⟨⟩
      exact ⟨hash, [], rfl, by simp, runtime.player1Name, runtime.player2Name, hparse⟩

theorem getRuntime_fresh : (getRuntime matchId).Obeys S (fun o h' =>
    ∀ runtime, o = .ok runtime → Fresh matchId h h' runtime) h := by
  refine Prog.Obeys.bind ((findRuntime_fresh hS).mono fun o h' _ hf => ?_)
  rcases o with e | _ | runtime
  · rintro _ ⟨⟩
  · rintro _ ⟨⟩
  · rintro _ ⟨⟩
    exact hf runtime rfl

theorem requireActionPhase_fresh {round : Nat} {phase : MatchPhase} :
    (requireActionPhase matchId round phase).Obeys S (fun o h' => ∀ runtime, o = .ok runtime →
      Fresh matchId h h' runtime ∧ runtime.round = round ∧ runtime.phase = phase) h := by
  refine Prog.Obeys.bind ((getRuntime_fresh hS).mono fun o h' _ hf => ?_)
  rcases o with e | runtime
  · simp
  · dsimp only
    split
    · rintro _ ⟨⟩
    · next hround =>
      split
      · rintro _ ⟨⟩
      · next hphase =>
        rintro _ ⟨⟩
        exact ⟨hf runtime rfl, not_not.1 hround, not_not.1 hphase⟩

end

theorem findRuntime_obeys :
    (findRuntime matchId).Obeys (Guard matchId q) (fun o h' =>
      ∀ runtime, o = .ok (some runtime) → Fresh matchId h h' runtime) h :=
  findRuntime_fresh fun _ _ => guard_of_reads _

theorem getRuntime_obeys :
    (getRuntime matchId).Obeys (Guard matchId q) (fun o h' =>
      ∀ runtime, o = .ok runtime → Fresh matchId h h' runtime) h :=
  getRuntime_fresh fun _ _ => guard_of_reads _

theorem requireActionPhase_obeys {round : Nat} {phase : MatchPhase} :
    (requireActionPhase matchId round phase).Obeys (Guard matchId q) (fun o h' =>
      ∀ runtime, o = .ok runtime →
        Fresh matchId h h' runtime ∧ runtime.round = round ∧ runtime.phase = phase) h :=
  requireActionPhase_fresh fun _ _ => guard_of_reads _

/-! ## The programs -/

theorem Never.imp {p p' : Cmd → Bool} (hp : ∀ c, p' c = true → p c = true) (hh : Never p h) :
    Never p' h := by
  intro c hc
  have := hh c hc
  cases hc' : p' c.cmd with
  | false => rfl
  | true => exact absurd (hp _ hc') (by simp [this])

theorem engine_isCombat : ∀ c : Cmd, c.isEngine = true → c.isCombat = true := by
  intro c hc
  cases c <;> first | rfl | cases hc

theorem fought_isCombat : ∀ c : Cmd, c.isFought = true → c.isCombat = true := by
  intro c hc
  unfold Cmd.isFought at hc
  split at hc
  · rfl
  · rfl
  · cases hc

theorem Grown.never {p : Cmd → Bool} (hp : p = Cmd.isCombat ∨ p = Cmd.isEngine ∨ p = Cmd.isFought ∨
    p = Cmd.isResult ∨ p = Cmd.isReset) {h' : History} (hg : Grown h h') (hh : Never p h) :
    Never p h' := by
  obtain ⟨new, rfl, hquiet⟩ := hg
  exact Never.append (fun c hc => (hquiet c hc).marker hp) hh

theorem Grown.mem {h' : History} (hg : Grown h h') {c : Call Cmd Resp} (hc : c ∈ h) : c ∈ h' := by
  obtain ⟨new, rfl, -⟩ := hg
  exact List.mem_append_right new hc

theorem ensuring_guarded {α : Type} {p : M α} {cleanup : M Unit} (hc : cleanup.Issues Quiet)
    (hp : Guarded matchId q h p) : Guarded matchId q h (p.ensuring cleanup) :=
  Prog.Obeys.ensuring hc (fun _ _ => guard_of_quiet) (hp.mono fun _ _ _ _ _ _ => ⟨trivial, fun _ => trivial⟩)

theorem fightRound_guarded {round : Nat} (hwon : Won h .shop_place .battle round none)
    (hnever : Never Cmd.isCombat h) : Guarded matchId q h (fightRound matchId host round) := by
  refine guarded_call trivial (fun hash => ?_) trivial
  split
  · trivial
  next runtime hparse =>
  split
  · trivial
  next hcond =>
  simp only [Bool.or_eq_true, bne_iff_ne, ne_eq, beq_iff_eq, not_or, not_not] at hcond
  obtain ⟨⟨-, rfl⟩, -⟩ := hcond
  have hnever₁ : Never Cmd.isCombat ((⟨.hgetall, some hash⟩ : Call Cmd Resp) :: h) :=
    hnever.cons rfl
  have hwon₁ : Won ((⟨.hgetall, some hash⟩ : Call Cmd Resp) :: h) .shop_place .battle
      runtime.round none := List.mem_cons_of_mem _ hwon
  refine guarded_call ⟨hnever₁, _, hwon₁⟩ (fun _ => ?_) trivial
  split
  · trivial
  next battle hbattle =>
  refine guarded_call ⟨(hnever₁.imp engine_isCombat).cons rfl, List.mem_cons_of_mem _ hwon₁⟩
    (fun events => ?_) trivial
  refine guarded_call trivial (fun hash' => ?_) trivial
  split
  · trivial
  next current hparse' =>
  split
  · trivial
  refine guarded_call (guard_of_quiet (by trivial)) (fun _ => ?_) trivial
  refine guarded_call ⟨?_, runtime.round, battle, .tail _ (.tail _ (.tail _ (.tail _ hwon₁))),
    .tail _ (.tail _ (.head _))⟩ (fun _ => ?_) trivial
  · exact ((((hnever₁.imp fought_isCombat).cons rfl).cons rfl).cons rfl).cons rfl
  refine guarded_call (.fought rfl (.tail _ (.tail _ (.tail _ (.tail _ hwon₁))))
    (.tail _ (.tail _ (.head _)))) (fun _ => ?_) trivial
  refine guarded_of_quiet ((publish_quiet _).bind fun _ => quiet_then (by trivial) fun _ => trivial)

theorem runCombat_guarded {round : Nat} (hwon : Won h .shop_place .battle round none)
    (hnever : Never Cmd.isCombat h) : Guarded matchId q h (runCombat matchId host round) := by
  refine guarded_call trivial (fun owner => ?_) trivial
  refine guarded_call trivial (fun acquired => ?_) trivial
  split
  · refine ensuring_guarded (quiet_call trivial) (fightRound_guarded ?_ ?_)
    · exact List.mem_cons_of_mem _ (List.mem_cons_of_mem _ hwon)
    · exact (hnever.cons rfl).cons rfl
  · trivial

theorem publishDamagePreview_quiet (runtime : MatchRuntimeState) (round : Nat) :
    (publishDamagePreview runtime round).Issues Quiet := by
  refine quiet_then (by trivial) fun found => ?_
  split
  · trivial
  · split
    · trivial
    · exact publish_quiet _

theorem tryStartCombat_guarded {round : Nat} (hstarts : ∀ h', h <:+ h' → Starts q h' round)
    (hnever : Never Cmd.isCombat h) : Guarded matchId q h (tryStartCombat matchId host round) := by
  refine Prog.Obeys.bind (findRuntime_obeys.mono fun o h₁ _ hfound => ?_)
  rcases o with e | _ | runtime
  · trivial
  · trivial
  have hfresh := hfound runtime rfl
  dsimp only
  split
  · trivial
  refine guarded_call (.start (hstarts h₁ hfresh.suffix)) (fun flipped => ?_) trivial
  split
  · trivial
  next hflipped =>
  obtain rfl : flipped = true := by simpa using hflipped
  refine guarded_quiet (publish_quiet _) fun _ h₂ hg₂ => ?_
  refine guarded_quiet (publishState_quiet _ _ _) fun _ h₃ hg₃ => ?_
  refine Prog.Obeys.andThen (runCombat_guarded ?_ ?_) (fun ran h₄ => ?_) fun _ _ => trivial
  · exact hg₃.mem (hg₂.mem (List.mem_cons_self ..))
  · refine hg₃.never (.inl rfl) (hg₂.never (.inl rfl) (Never.cons rfl ?_))
    exact hfresh.never (.inl rfl) hnever
  · split
    · exact guarded_of_quiet ((publishDamagePreview_quiet _ _).bind fun _ => trivial)
    · trivial

theorem storeResolution_guarded {round : Nat} {runtime : MatchRuntimeState}
    {events : List CombatEvent} {resolution : Resolution} (hq : q.resolves = true)
    (hc : Computed matchId h round runtime events resolution) (hnever : Never Cmd.isResult h) :
    Guarded matchId q h (storeResolution runtime round resolution) := by
  have hwon : Won h .battle .resolved round none := by
    obtain ⟨newer, mid, older, rfl, -⟩ := hc.calls
    simp [Won]
  have hc' : ∀ c, Computed matchId (c :: h) round runtime events resolution := by
    intro c
    obtain ⟨newer, mid, older, hh, hsaw⟩ := hc.calls
    exact { hc with calls := ⟨c :: newer, mid, older, by simp [hh], hsaw⟩ }
  unfold storeResolution
  split
  · next winnerId hwinner =>
    refine guarded_call ⟨hnever, round, hwon⟩ (fun _ => ?_) trivial
    refine guarded_call (.knockout (hc' _) (by simp [hwinner]) (hnever.cons rfl) hq) (fun _ => ?_) trivial
    exact guarded_of_quiet ((publish_quiet _).bind fun _ => (finalize_quiet _ _).bind fun _ => trivial)
  · next hwinner =>
    refine guarded_call ⟨hnever, round, hwon⟩ (fun _ => ?_) trivial
    refine guarded_call (.result (hc' _) hwinner (hnever.cons rfl) hq) (fun _ => ?_) trivial
    refine guarded_of_quiet (quiet_then (by trivial) fun _ => (publish_quiet _).bind fun _ => ?_)
    exact (publish_quiet _).bind fun _ => (publishState_quiet _ _ _).bind fun _ => trivial

theorem applyDamageAndAdvance_guarded {round : Nat} (hq : q.resolves = true)
    (hnever : Never Cmd.isResult h) :
    Guarded matchId q h (applyDamageAndAdvance matchId round) := by
  refine Prog.Obeys.bind (findRuntime_obeys.mono fun o h₁ _ hfound => ?_)
  rcases o with e | _ | runtime
  · trivial
  · trivial
  have hfresh := hfound runtime rfl
  dsimp only
  split
  · trivial
  next hcond =>
  simp only [not_or, not_not, ne_eq] at hcond
  refine guarded_call (guard_of_quiet (by trivial)) (fun found => ?_) trivial
  rcases found with _ | events
  · trivial
  dsimp only
  split
  · trivial
  next resolution hres =>
  refine guarded_call (@FlipGuard.resolve _ _ _ _ _ events [] h₁ rfl hfresh.saw hcond.1 hcond.2.1
    hcond.2.2 hq) (fun flipped => ?_) trivial
  split
  · trivial
  next hflipped =>
  obtain rfl : flipped = true := by simpa using hflipped
  refine storeResolution_guarded hq ⟨⟨[], [], h₁, rfl, hfresh.saw⟩, hcond.1, hcond.2.1, hcond.2.2, hres⟩ ?_
  exact ((hfresh.never (by simp) hnever).cons rfl).cons rfl

theorem handleCombatDone_guarded {userId : String} {round : Nat} (hq : q.resolves = true) :
    Guarded matchId q [] (handleCombatDone matchId userId round) := by
  refine Prog.Obeys.bind (requireActionPhase_obeys.mono fun o h₁ _ hread => ?_)
  rcases o with e | runtime
  · trivial
  have hfresh := (hread runtime rfl).1
  refine guarded_quiet (sideFor_quiet _ _) fun _ h₂ hg₂ => ?_
  refine guarded_call (guard_of_quiet (by trivial)) (fun count => ?_) trivial
  split
  · refine Prog.Obeys.andThen (applyDamageAndAdvance_guarded hq ?_) (fun _ _ => trivial)
      fun _ _ => trivial
    exact (hg₂.never (by simp) (hfresh.never (by simp) (by simp [Never]))).cons rfl
  · trivial

theorem advanceResolvedRound_guarded {round : Nat} (hnever : Never Cmd.isReset h) :
    Guarded matchId q h (advanceResolvedRound matchId host round) := by
  refine Prog.Obeys.bind (findRuntime_obeys.mono fun o h₁ _ hfound => ?_)
  rcases o with e | _ | runtime
  · trivial
  · trivial
  have hfresh := hfound runtime rfl
  dsimp only
  split
  · trivial
  next hcond =>
  simp only [not_or, not_not, ne_eq] at hcond
  refine guarded_call (.advance hfresh.lastSaw hcond.1 hcond.2) (fun flipped => ?_) trivial
  split
  · trivial
  next hflipped =>
  obtain rfl : flipped = true := by simpa using hflipped
  refine guarded_call (.reset (List.mem_cons_self ..)
    ((hfresh.never (by simp) hnever).cons rfl)) (fun _ => ?_) trivial
  refine guarded_of_quiet (quiet_then (by trivial) fun _ => quiet_then (by trivial) fun _ => ?_)
  exact (publish_quiet _).bind fun _ => (publishState_quiet _ _ _).bind fun _ =>
    (rollOffersForMatch_quiet _).bind fun _ => trivial

theorem markRoundReady_guarded {userId : String} {round : Nat}
    (hq : q = .action userId round .roundReady) :
    Guarded matchId q [] (markRoundReady matchId host userId round) := by
  refine Prog.Obeys.bind (requireActionPhase_obeys.mono fun o h₁ _ hread => ?_)
  rcases o with e | runtime
  · trivial
  obtain ⟨hfresh, hround, hphase⟩ := hread runtime rfl
  refine guarded_quiet (sideFor_quiet _ _) fun side h₂ hg₂ => ?_
  split
  · trivial
  have hsaw : Saw matchId h₂ runtime := by
    obtain ⟨hash, hmem, hread⟩ := hfresh.saw
    exact ⟨hash, hg₂.mem hmem, hread⟩
  refine guarded_call (.roundReady hq hsaw hphase hround) (fun _ => ?_) trivial
  refine Prog.Obeys.bind (getRuntime_obeys.mono fun o h₃ _ hread' => ?_)
  rcases o with e | updated
  · trivial
  dsimp only
  split
  · refine Prog.Obeys.andThen (advanceResolvedRound_guarded ?_) (fun _ _ => trivial)
      fun _ _ => trivial
    refine (hread' updated rfl).never (by simp) (Never.cons ?_ ?_)
    · cases side <;> rfl
    · exact hg₂.never (by simp) (hfresh.never (by simp) (by simp [Never]))
  · exact guarded_of_quiet (quiet_then (by trivial) fun _ => (publish_quiet _).bind fun _ => trivial)

theorem commitRuntimeAction_guarded {runtime : MatchRuntimeState} {userId id : String}
    {field : FieldWrite} {phase : MatchPhase} (hlog : LogGuard q field phase) :
    (commitRuntimeAction runtime userId field id phase).Obeys (Guard matchId q) (fun o h' =>
      ∃ reply, h' = ⟨.actionLog userId id field none phase runtime.round, reply⟩ :: h ∧
        (o = .ok true → reply = some .recorded)) h := by
  refine guarded_call hlog (fun reply => ?_) ⟨none, rfl, by simp⟩
  cases reply <;> exact ⟨_, rfl, by simp⟩

/-- A count of two means both flags were set. -/
theorem flags_of_count {runtime : MatchRuntimeState} (h : readyCount runtime = 2) :
    runtime.readyP1 = true ∧ runtime.readyP2 = true := by
  cases h1 : runtime.readyP1 <;> cases h2 : runtime.readyP2 <;> simp_all [readyCount]

theorem ReadAs.flags {hash : RuntimeHash} {runtime : MatchRuntimeState}
    (hread : ReadAs matchId hash runtime) :
    hash.readyP1 = runtime.readyP1 ∧ hash.readyP2 = runtime.readyP2 := by
  obtain ⟨a, b, hread⟩ := hread
  simp only [parseRuntimeHash, Option.bind_eq_bind, Option.bind_eq_some_iff, Option.pure_def,
    Option.some.injEq] at hread
  obtain ⟨phase, -, round, -, heq⟩ := hread
  exact ⟨congrArg (·.readyP1) heq, congrArg (·.readyP2) heq⟩

theorem markReadyAction_guarded {userId id : String} {round : Nat} {ready : Option Bool}
    (hq : q = .action userId round (.ready ready id)) (hnever : Never Cmd.isCombat h) :
    Guarded matchId q h (markReadyAction matchId host userId round (ready.getD true) id) := by
  refine Prog.Obeys.bind (requireActionPhase_obeys.mono fun o h₁ _ hread => ?_)
  rcases o with e | runtime
  · trivial
  obtain ⟨hfresh, hround, -⟩ := hread runtime rfl
  refine guarded_quiet (sideFor_quiet _ _) fun side h₂ hg₂ => ?_
  refine Prog.Obeys.bind ((commitRuntimeAction_guarded (.ready hq)).mono fun o h₃ _ hcommit => ?_)
  obtain ⟨reply, rfl, hreply⟩ := hcommit
  rcases o with e | stored
  · trivial
  refine Prog.Obeys.bind (getRuntime_obeys.mono fun o h₄ _ hread' => ?_)
  rcases o with e | updated
  · trivial
  have hfresh' := hread' updated rfl
  dsimp only
  split
  · next hstored =>
    obtain rfl : stored = true := by simpa using hstored
    obtain rfl := hreply rfl
    subst hround
    refine guarded_quiet (publishState_quiet _ _ _) fun _ h₅ hg₅ => ?_
    split
    · next hcount =>
      refine Prog.Obeys.andThen (tryStartCombat_guarded (fun h' hsuf => ?_) ?_) (fun _ _ => trivial)
        fun _ _ => trivial
      · obtain ⟨hash, new, rfl, -, hreadAs⟩ := hfresh'
        obtain ⟨new', rfl, -⟩ := hg₅
        obtain ⟨pre, rfl⟩ := hsuf
        have hflags := flags_of_count hcount
        rw [← hreadAs.flags.1, ← hreadAs.flags.2] at hflags
        exact @Starts.ready _ _ _ _ _ _ side (pre ++ (new' ++ new)) h₂ hash hq (by simp)
          hflags.1 hflags.2
      · refine hg₅.never (by simp) (hfresh'.never (by simp) (Never.cons ?_ ?_))
        · cases side <;> rfl
        · exact hg₂.never (by simp) (hfresh.never (by simp) hnever)
    · trivial
  · trivial

theorem markReady_guarded {userId : String} {round : Nat} (hq : q = .markReady userId round) :
    Guarded matchId q [] (markReady matchId host userId round) := by
  refine Prog.Obeys.bind (requireActionPhase_obeys.mono fun o h₁ _ hread => ?_)
  rcases o with e | runtime
  · trivial
  have hfresh := (hread runtime rfl).1
  refine guarded_quiet (sideFor_quiet _ _) fun side h₂ hg₂ => ?_
  refine guarded_call (.markReady hq) (fun _ => ?_) trivial
  refine Prog.Obeys.bind (getRuntime_obeys.mono fun o h₃ _ hread' => ?_)
  rcases o with e | updated
  · trivial
  dsimp only
  split
  · refine Prog.Obeys.andThen (tryStartCombat_guarded (fun _ _ => .markReady hq) ?_)
      (fun _ _ => trivial) fun _ _ => trivial
    refine (hread' updated rfl).never (by simp) (Never.cons ?_ ?_)
    · cases side <;> rfl
    · exact hg₂.never (by simp) (hfresh.never (by simp) (by simp [Never]))
  · trivial

theorem placeLocked_guarded {userId id instanceId : String} {round slot : Nat} {target : Place}
    (hq : q.edits = true) : Guarded matchId q h (placeLocked matchId userId round instanceId target slot id) := by
  refine guarded_quiet (quiet_call trivial) fun logged h₁ _ => ?_
  split
  · trivial
  refine Prog.Obeys.bind (requireActionPhase_obeys.mono fun o h₂ _ _ => ?_)
  rcases o with e | runtime
  · trivial
  refine guarded_quiet (sideFor_quiet _ _) fun side h₃ _ => ?_
  refine guarded_quiet (orReject_quiet _) fun state h₄ _ => ?_
  refine Prog.Obeys.bind ((commitRuntimeAction_guarded (.state hq)).mono fun o h₅ _ _ => ?_)
  rcases o with e | stored
  · trivial
  dsimp only
  split
  · trivial
  · exact guarded_of_quiet (quiet_then (by trivial) fun _ =>
      (publishState_quiet _ _ _).bind fun _ => trivial)

theorem mutate_quiet (userId : String) (round : Nat) (runtime : MatchRuntimeState) (held : Holdings)
    (action : ShopAction) : (mutate host userId round runtime held action).Issues Quiet := by
  cases action with
  | buy offerIndex =>
    exact (orReject_quiet _).bind fun _ => quiet_then (by trivial) fun _ => orReject_quiet _
  | _ => exact orReject_quiet _

theorem actionContext_guarded {userId : String} {round : Nat} :
    Guarded matchId q h (actionContext matchId userId round) := by
  refine guarded_call trivial (fun hash => ?_) trivial
  split
  · trivial
  split
  · trivial
  split
  · trivial
  refine guarded_quiet (shopSide_quiet _ _) fun side h₁ _ => ?_
  refine guarded_quiet (quiet_call trivial) fun found h₂ _ => ?_
  rcases found with _ | shop
  · trivial
  dsimp only
  split <;> trivial

theorem persistAction_guarded {context : ActionContext} {after : Holdings} {id : String}
    (hq : q.edits = true) :
    Guarded matchId q h (persistAction context after id) := by
  refine guarded_call (.state hq) (fun reply => ?_) trivial
  cases reply with
  | recorded =>
    exact guarded_of_quiet (quiet_then (by trivial) fun _ =>
      (publishState_quiet _ _ _).bind fun _ => trivial)
  | _ => trivial

theorem performAction_guarded {userId id : String} {round : Nat} {action : ShopAction}
    (hq : q.edits = true) :
    Guarded matchId q h (performAction matchId host userId round id action) := by
  refine guarded_quiet (quiet_call trivial) fun logged h₁ _ => ?_
  split
  · trivial
  refine Prog.Obeys.andThen actionContext_guarded (fun context h₂ => ?_) fun _ _ => trivial
  refine guarded_quiet (mutate_quiet _ _ _ _ _) fun after h₃ _ => ?_
  refine Prog.Obeys.andThen (persistAction_guarded hq) (fun stored h₄ => ?_) fun _ _ => trivial
  split
  · trivial
  split
  · exact guarded_of_quiet ((publishToUser_quiet _ _).bind fun _ => trivial)
  · trivial

theorem withAction_guarded {userId id : String} {round : Nat} {action : ShopAction}
    (hq : q.edits = true) :
    Guarded matchId q h (withAction matchId host userId round id action) := by
  refine guarded_quiet (quiet_call trivial) fun logged h₁ _ => ?_
  split
  · trivial
  refine guarded_quiet (quiet_call trivial) fun owner h₂ _ => ?_
  refine guarded_quiet (acquireLock_quiet _ _ _ _) fun _ h₃ _ => ?_
  exact ensuring_guarded (quiet_call trivial) (performAction_guarded hq)

theorem place_guarded {userId id instanceId : String} {round slot : Nat} {target : Place}
    (hq : q.edits = true) : Guarded matchId q h (place matchId userId round instanceId target slot id) := by
  refine guarded_quiet (quiet_call trivial) fun owner h₁ _ => ?_
  refine guarded_quiet (acquireLock_quiet _ _ _ _) fun _ h₂ _ => ?_
  exact ensuring_guarded (quiet_call trivial) (placeLocked_guarded hq)

theorem surrender_guarded {userId : String} {round : Nat} :
    Guarded matchId q h (surrender matchId userId round) := by
  refine Prog.Obeys.bind (getRuntime_obeys.mono fun o h₁ _ _ => ?_)
  rcases o with e | runtime
  · trivial
  dsimp only
  split
  · trivial
  next hcond =>
  refine guarded_quiet (sideFor_quiet _ _) fun side h₂ _ => ?_
  refine guarded_call (.finish fun heq => hcond (.inr heq)) (fun flipped => ?_) trivial
  split
  · trivial
  · exact guarded_of_quiet (finalize_quiet _ _)

theorem handleDisconnect_guarded {userId : String} :
    Guarded matchId q h (handleDisconnect matchId userId) := by
  refine Prog.Obeys.bind (findRuntime_obeys.mono fun o h₁ _ _ => ?_)
  rcases o with e | _ | runtime
  · trivial
  · exact guarded_of_quiet (forfeitDisconnectedPlayer_quiet _)
  refine guarded_quiet (sideFor_quiet _ _) fun side h₂ _ => ?_
  split
  · trivial
  next hphase =>
  refine guarded_call (.finish hphase) (fun flipped => ?_) trivial
  split
  · trivial
  · exact guarded_of_quiet (forfeitDisconnectedPlayer_quiet _)

theorem handleUserDisconnect_guarded {userId : String} :
    Guarded matchId q h (handleUserDisconnect matchId userId) := by
  refine guarded_quiet (quiet_call trivial) fun found h₁ _ => ?_
  cases found with
  | none => trivial
  | some _ => exact handleDisconnect_guarded

theorem handleAction_guarded {userId : String} {round : Nat} {action : RuntimeAction} :
    Guarded matchId (.action userId round action) []
      (handleAction matchId host userId round action) := by
  cases action with
  | shop action id =>
    refine guarded_quiet (resolveMatch_quiet _) fun _ _ _ => ?_
    exact Prog.Obeys.andThen (withAction_guarded rfl) (fun _ _ => trivial) fun _ _ => trivial
  | place instanceId target slot id =>
    refine guarded_quiet (resolveMatch_quiet _) fun _ _ _ => ?_
    exact Prog.Obeys.andThen (place_guarded rfl) (fun _ _ => trivial) fun _ _ => trivial
  | ready ready id =>
    refine guarded_quiet (resolveMatch_quiet _) fun _ h₁ hg₁ => ?_
    refine Prog.Obeys.andThen (markReadyAction_guarded rfl ?_) (fun _ _ => trivial) fun _ _ => trivial
    exact hg₁.never (by simp) (by simp [Never])
  | combatDone =>
    exact Prog.Obeys.andThen (handleCombatDone_guarded rfl) (fun _ _ => trivial) fun _ _ => trivial
  | roundReady =>
    exact Prog.Obeys.andThen (markRoundReady_guarded rfl) (fun _ _ => trivial) fun _ _ => trivial
  | surrender => exact Prog.Obeys.andThen surrender_guarded (fun _ _ => trivial) fun _ _ => trivial

/-- **Every program of the adapter makes its calls under their guards.** -/
theorem program_guarded (q : Request) : Guarded matchId q [] (program matchId host q) := by
  have hnever : ∀ p, Never p [] := fun p => by simp [Never]
  cases q with
  | announce m names => exact guarded_of_quiet (announceMatch_quiet m names)
  | action userId round action => exact handleAction_guarded
  | markReady userId round =>
    exact Prog.Obeys.andThen (markReady_guarded rfl) (fun _ _ => trivial) fun _ _ => trivial
  | phaseTimer round =>
    exact Prog.Obeys.andThen (tryStartCombat_guarded (fun _ _ => .timer rfl) (hnever _))
      (fun _ _ => trivial) fun _ _ => trivial
  | combatDoneTimeout round =>
    exact Prog.Obeys.andThen (applyDamageAndAdvance_guarded rfl (hnever _)) (fun _ _ => trivial)
      fun _ _ => trivial
  | roundReadyTimeout round =>
    exact Prog.Obeys.andThen (advanceResolvedRound_guarded (hnever _)) (fun _ _ => trivial)
      fun _ _ => trivial
  | userDisconnect userId =>
    exact Prog.Obeys.andThen handleUserDisconnect_guarded (fun _ _ => trivial) fun _ _ => trivial
  | disconnectJob userId =>
    exact Prog.Obeys.andThen handleDisconnect_guarded (fun _ _ => trivial) fun _ _ => trivial

end

end AutoChess.Runtime
