/-
What a request publishes about phases and rosters, by its own earlier calls
(`Tells`): a phase event describes a transition the request won, or what it
just read; a roster shows the boards scouted in the runtime that was read.
-/
import AutoChess.Runtime.Guards

namespace AutoChess.Runtime

open AutoChess.Game AutoChess.Shop Calls

/-- The board scouted for a side: the other player's. -/
def scouted (runtime : MatchRuntimeState) : Side → OpponentBoardSummary
  | .p1 => runtime.scoutP2Board
  | .p2 => runtime.scoutP1Board

section
variable (matchId : String) (q : Request) (h : History)

/-- What a phase event describes. -/
inductive PhaseTold (payload : PhasePayload) : Prop where
  | announced {m : Match} {names : PlayerNames} (hq : q = .announce m names)
      (hphase : payload.phase = .shop_place) (hround : payload.round = 1)
      (htimer : payload.timer = SHOP_PHASE_SECONDS)
  | started (hwon : Won h .shop_place .battle payload.round none) (hphase : payload.phase = .battle)
      (htimer : payload.timer = 0)
  | resolved (hwon : Won h .battle .resolved payload.round none) (hphase : payload.phase = .resolved)
      (htimer : payload.timer = 0)
  | advanced {round : Nat} (hwon : Won h .resolved .shop_place round (some (round + 1)))
      (hphase : payload.phase = .shop_place) (hround : payload.round = round + 1)
      (htimer : payload.timer = SHOP_PHASE_SECONDS)
  /-- The grace period of the first summary ack, with the runtime read after
  the flag was stored. -/
  | grace {userId : String} {round : Nat} {side : Side} {hash : RuntimeHash}
      {runtime : MatchRuntimeState} {newer older : History} (hq : q = .action userId round .roundReady)
      (hh : h = newer ++ (⟨.hgetall, some hash⟩ : Call Cmd Resp) :: older)
      (hnewer : ∀ c ∈ newer, c.cmd ≠ .hgetall)
      (hflag : ∃ c ∈ older, c.cmd = .hset [readyField side true])
      (hread : ReadAs matchId hash runtime) (hcount : readyCount runtime < 2)
      (hphase : payload.phase = runtime.phase) (hround : payload.round = runtime.round)
      (htimer : payload.timer = ROUND_READY_GRACE_SECONDS)

/-- What a roster shows, and to whom. -/
inductive StateTold (target : Option String) (payload : StatePayload) : Prop where
  | read {runtime live : MatchRuntimeState} (hq : q.resolves = false) (hsaw : Saw matchId h runtime)
      (hlive : Saw matchId h live ∧ live.phase ≠ .finished)
      (htarget : target = some (playerId runtime payload.yourSide))
      (hscout : payload.opponent.boardSummary = scouted runtime payload.yourSide)
  /-- After a resolution, the boards that fought: those read before its result
  was stored. -/
  | resolved {round : Nat} {runtime : MatchRuntimeState} {older : History}
      (hwon : Won h .battle .resolved round none) (hsuf : older <:+ h)
      (hfirst : Never Cmd.isResult older) (hsaw : Saw matchId older runtime)
      (hphase : runtime.phase = .battle)
      (htarget : target = some (playerId runtime payload.yourSide))
      (hscout : payload.opponent.boardSummary =
        summarizeBoard (sideState runtime (enemySideOf payload.yourSide)).board)
  | announced {m : Match} {names : PlayerNames} (hq : q = .announce m names)
      (hscout : payload.opponent.boardSummary = emptyBoardSummary)

def Told (target : Option String) : Payload → Prop
  | .phase payload => PhaseTold matchId q h payload
  | .state payload => StateTold matchId q h target payload
  | _ => True

def Tells : Cmd → Prop
  | .publish publication => Told matchId q h publication.targetUserId publication.payload
  | _ => True

end

/-- Commands that publish neither a phase nor a roster. -/
def Mute : Cmd → Prop
  | .publish ⟨_, .phase _⟩ | .publish ⟨_, .state _⟩ => False
  | _ => True

section
variable {matchId : String} {host : Host} {q : Request} {h : History} {α β : Type}

/-- The program publishes what its calls tell, after the calls `h`. -/
abbrev Telling (matchId : String) (q : Request) (h : History) (p : M α) : Prop :=
  p.Obeys (Tells matchId q) (fun _ _ => True) h

theorem tells_of_mute (h : History) {c : Cmd} (hc : Mute c) : Tells matchId q h c := by
  cases c with
  | publish publication =>
    obtain ⟨target, payload⟩ := publication
    cases payload <;> trivial
  | _ => trivial

theorem tells_of_reads (h : History) {c : Cmd} (hc : Reads c) : Tells matchId q h c := by
  cases c with
  | publish publication => cases hc
  | _ => trivial

theorem telling_call {c : Cmd} {f : Resp c → M α} (hc : Tells matchId q h c)
    (hf : ∀ r, Telling matchId q (⟨c, some r⟩ :: h) (f r)) : Telling matchId q h ((call c).bind f) :=
  Prog.Obeys.perform_bind hc hf trivial

theorem telling_of_mute {p : M α} (hp : p.Issues Mute) : Telling matchId q h p :=
  (hp.obeys fun h' _ => tells_of_mute h').mono fun _ _ _ _ => trivial

/-- Mute calls, then the rest. -/
theorem telling_mute {p : M α} {f : α → M β} (hp : p.Issues Mute)
    (hf : ∀ a new, Telling matchId q (new ++ h) (f a)) : Telling matchId q h (p.bind f) := by
  refine Prog.Obeys.bind ((hp.obeys fun h' _ => tells_of_mute h').mono fun o h' _ hnew => ?_)
  obtain ⟨new, rfl, -⟩ := hnew
  cases o with
  | ok a => exact hf a new
  | error e => trivial

theorem mute_call {c : Cmd} (hc : Mute c) : (call c).Issues Mute := Prog.Issues.perform hc _

theorem mute_then {c : Cmd} {f : Resp c → M α} (hc : Mute c) (hf : ∀ r, (f r).Issues Mute) :
    ((call c).bind f).Issues Mute := Prog.Issues.perform_bind hc hf

/-! ## Mute programs -/

theorem orReject_mute (o : Except Rejection α) : (orReject o).Issues Mute := by
  cases o <;> trivial

theorem sideFor_mute (runtime : MatchRuntimeState) (userId : String) :
    (sideFor runtime userId).Issues Mute := (sideFor_silent runtime userId).mono fun _ => False.elim

theorem shopSide_mute (runtime : MatchRuntimeState) (userId : String) :
    (shopSide runtime userId).Issues Mute := by
  unfold shopSide
  split
  · trivial
  · split <;> trivial

theorem acquireLock_mute (lock : Lock) (owner : String) (busy : Rejection) :
    ∀ attempts, (acquireLock lock owner busy attempts).Issues Mute
  | 0 => trivial
  | attempts + 1 => by
    refine mute_then (by trivial) fun acquired => ?_
    split
    · trivial
    · exact mute_then (by trivial) fun _ => acquireLock_mute lock owner busy attempts

theorem rollOffersForMatch_mute (runtime : MatchRuntimeState) :
    (rollOffersForMatch host runtime).Issues Mute := by
  have hreset : ∀ playerId, (resetShop host runtime playerId).Issues Mute := fun playerId =>
    mute_then (by trivial) fun _ => mute_call (by trivial)
  exact (hreset _).both (hreset _)

theorem finalize_mute (winnerId : Option String) (reason : MatchEndReason) :
    (finalize winnerId reason).Issues Mute := by
  refine mute_then (by trivial) fun reply => ?_
  cases reply with
  | invalidWinner => trivial
  | playerNotFound => trivial
  | notInProgress terminal =>
    dsimp only
    split
    · exact mute_then (by trivial) fun _ => trivial
    · trivial
  | finalized row rating =>
    refine mute_then (by trivial) fun _ => mute_then (by trivial) fun _ => ?_
    exact mute_then (by trivial) fun _ => mute_then (by trivial) fun _ => trivial

theorem forfeitDisconnectedPlayer_mute (userId : String) :
    (forfeitDisconnectedPlayer userId).Issues Mute := by
  refine mute_then (by trivial) fun row => ?_
  split
  · trivial
  · split
    · trivial
    · exact finalize_mute _ _

theorem findRuntime_mute : (findRuntime matchId).Issues Mute := by
  refine mute_then (by trivial) fun hash => ?_
  split
  · trivial
  · split
    · exact mute_then (by trivial) fun _ => mute_then (by trivial) fun _ => trivial
    · trivial

theorem surrender_mute (userId : String) (round : Nat) : (surrender matchId userId round).Issues Mute := by
  refine Prog.Issues.bind (findRuntime_mute.bind fun found => ?_) fun runtime => ?_
  · cases found <;> trivial
  split
  · trivial
  · refine (sideFor_mute _ _).bind fun side => mute_then (by trivial) fun flipped => ?_
    split
    · trivial
    · exact finalize_mute _ _

theorem handleDisconnect_mute (userId : String) : (handleDisconnect matchId userId).Issues Mute := by
  refine findRuntime_mute.bind fun found => ?_
  cases found with
  | none => exact forfeitDisconnectedPlayer_mute _
  | some runtime =>
    refine (sideFor_mute _ _).bind fun side => ?_
    split
    · trivial
    · refine mute_then (by trivial) fun flipped => ?_
      split
      · trivial
      · exact forfeitDisconnectedPlayer_mute _

theorem fightRound_mute (round : Nat) : (fightRound matchId host round).Issues Mute := by
  refine mute_then (by trivial) fun hash => ?_
  split
  · trivial
  split
  · trivial
  refine mute_then (by trivial) fun _ => ?_
  split
  · trivial
  refine mute_then (by trivial) fun events => mute_then (by trivial) fun hash' => ?_
  split
  · trivial
  split
  · trivial
  refine mute_then (by trivial) fun _ => mute_then (by trivial) fun _ => mute_then (by trivial) fun _ => ?_
  exact mute_then (by trivial) fun _ => mute_then (by trivial) fun _ => trivial

theorem runCombat_mute (round : Nat) : (runCombat matchId host round).Issues Mute := by
  refine mute_then (by trivial) fun owner => mute_then (by trivial) fun acquired => ?_
  split
  · refine Prog.Issues.bind (fightRound_mute round).attempt fun outcome => ?_
    refine Prog.Issues.bind (mute_call (by trivial)) fun _ => ?_
    cases outcome <;> trivial
  · trivial

theorem publishDamagePreview_mute (runtime : MatchRuntimeState) (round : Nat) :
    (publishDamagePreview runtime round).Issues Mute := by
  refine mute_then (by trivial) fun found => ?_
  split
  · trivial
  · split
    · trivial
    · exact mute_call (by trivial)

theorem mutate_mute (userId : String) (round : Nat) (runtime : MatchRuntimeState) (held : Holdings)
    (action : ShopAction) : (mutate host userId round runtime held action).Issues Mute := by
  cases action with
  | buy offerIndex =>
    exact (orReject_mute _).bind fun _ => mute_then (by trivial) fun _ => orReject_mute _
  | _ => exact orReject_mute _

theorem commitRuntimeAction_mute (runtime : MatchRuntimeState) (userId id : String) (field : FieldWrite)
    (phase : MatchPhase) : (commitRuntimeAction runtime userId field id phase).Issues Mute := by
  refine mute_then (by trivial) fun reply => ?_
  cases reply <;> trivial

theorem resolveMatch_mute (userId : String) : (resolveMatch userId).Issues Mute := by
  refine mute_then (by trivial) fun found => ?_
  cases found <;> trivial

/-! ## The programs -/

theorem Saw.later {h' : History} {runtime : MatchRuntimeState} (hsaw : Saw matchId h runtime) (hsuf : h <:+ h') :
    Saw matchId h' runtime := by
  obtain ⟨hash, hmem, hread⟩ := hsaw
  exact ⟨hash, hsuf.subset hmem, hread⟩

/-- Both rosters are told alike. -/
theorem publishState_tells {runtime : MatchRuntimeState} {side : Side} {state : RuntimePlayerState}
    (htold : ∀ h' payload, h <:+ h' → payload.opponent.boardSummary = scouted runtime payload.yourSide →
      StateTold matchId q h' (some (playerId runtime payload.yourSide)) payload) :
    Telling matchId q h (publishState runtime side state) := by
  refine ⟨?_, fun r => ⟨?_, fun r' => ?_⟩⟩
  · exact htold h (matchStatePayload runtime .p1 _ _ _) (List.suffix_refl _) rfl
  · exact htold _ (matchStatePayload runtime .p2 _ _ _) (List.suffix_cons ..) rfl
  · cases r <;> cases r' <;> trivial

/-- The rosters of a runtime that was read, or made from one with the same
players and scouted boards. -/
theorem publishState_read {runtime runtime' live : MatchRuntimeState} {side : Side}
    {state : RuntimePlayerState} {h₀ : History} (hq : q.resolves = false) (hsuf : h₀ <:+ h)
    (hsaw : Saw matchId h₀ runtime) (hlive : Saw matchId h₀ live ∧ live.phase ≠ .finished)
    (hids : ∀ side, playerId runtime' side = playerId runtime side)
    (hscouted : ∀ side, scouted runtime' side = scouted runtime side) :
    Telling matchId q h (publishState runtime' side state) :=
  publishState_tells fun _ _ hsuf' hscout =>
    .read hq (hsaw.later (hsuf.trans hsuf')) ⟨hlive.1.later (hsuf.trans hsuf'), hlive.2⟩
      (congrArg some (hids _)) (hscout.trans (hscouted _))

theorem tryStartCombat_tells {round : Nat} (hq : q.resolves = false) :
    Telling matchId q h (tryStartCombat matchId host round) := by
  refine Prog.Obeys.bind ((findRuntime_fresh fun h' _ => tells_of_reads h').mono fun o h₁ _ hfound => ?_)
  rcases o with e | _ | runtime
  · trivial
  · trivial
  have hsaw := (hfound runtime rfl).saw
  dsimp only
  split
  · trivial
  next hcond =>
  simp only [not_or, not_not, ne_eq] at hcond
  refine telling_call trivial fun flipped => ?_
  split
  · trivial
  next hflipped =>
  obtain rfl : flipped = true := by simpa using hflipped
  refine telling_call (.started ?_ rfl rfl) fun _ => ?_
  · rw [← hcond.2]
    exact List.mem_cons_self ..
  have hlive : runtime.phase ≠ .finished := hcond.1 ▸ by decide
  refine Prog.Obeys.andThen (publishState_read hq ?_ hsaw ⟨hsaw, hlive⟩ (fun side => by cases side <;> rfl)
    fun side => by cases side <;> rfl) (fun _ h₂ => ?_) fun _ _ => trivial
  · exact (List.suffix_cons ..).trans (List.suffix_cons ..)
  refine telling_mute (runCombat_mute round) fun ran new => ?_
  split
  · exact telling_of_mute ((publishDamagePreview_mute _ _).bind fun _ => trivial)
  · trivial

/-- A resolution leaves the boards as they fought. -/
theorem resolveRound_boards {runtime : MatchRuntimeState} {events : List CombatEvent} {round : Nat}
    {resolution : Resolution} (h : resolveRound runtime round events = some resolution) :
    resolution.p1.board = runtime.p1State.board ∧ resolution.p2.board = runtime.p2State.board := by
  simp only [resolveRound, Option.bind_eq_bind, Option.bind_eq_some_iff, Option.pure_def,
    Option.some.injEq] at h
  obtain ⟨winner, -, rfl⟩ := h
  exact ⟨rfl, rfl⟩

theorem storeResolution_tells {runtime : MatchRuntimeState} {events : List CombatEvent} {round : Nat}
    {resolution : Resolution} (hround : runtime.round = round) (hphase : runtime.phase = .battle)
    (hres : resolveRound runtime round events = some resolution) (hsaw : Saw matchId h runtime)
    (hwon : Won h .battle .resolved round none) (hnever : Never Cmd.isResult h) :
    Telling matchId q h (storeResolution runtime round resolution) := by
  obtain ⟨hboard1, hboard2⟩ := resolveRound_boards hres
  unfold storeResolution
  split
  · refine telling_call trivial fun _ => telling_call trivial fun _ => telling_call trivial fun _ => ?_
    exact telling_of_mute ((finalize_mute _ _).bind fun _ => trivial)
  · refine telling_call trivial fun _ => telling_call trivial fun _ => telling_call trivial fun _ => ?_
    refine telling_call trivial fun _ => telling_call (.resolved ?_ rfl rfl) fun _ => ?_
    · show Won _ .battle .resolved runtime.round none
      rw [hround]
      exact List.mem_cons_of_mem _ (List.mem_cons_of_mem _ (List.mem_cons_of_mem _
        (List.mem_cons_of_mem _ hwon)))
    refine Prog.Obeys.andThen (publishState_tells fun h' payload hsuf hscout => ?_) (fun _ _ => trivial)
      fun _ _ => trivial
    have hsuf' : h <:+ h' := (((((List.suffix_cons _ _).trans (List.suffix_cons _ _)).trans
      (List.suffix_cons _ _)).trans (List.suffix_cons _ _)).trans (List.suffix_cons _ _)).trans hsuf
    refine .resolved (hsuf'.subset hwon) hsuf' hnever hsaw hphase ?_ ?_
    · cases payload.yourSide <;> rfl
    · rw [hscout]
      cases payload.yourSide with
      | p1 => exact congrArg summarizeBoard hboard2
      | p2 => exact congrArg summarizeBoard hboard1

theorem applyDamageAndAdvance_tells {round : Nat} (hnever : Never Cmd.isResult h) :
    Telling matchId q h (applyDamageAndAdvance matchId round) := by
  refine Prog.Obeys.bind ((findRuntime_fresh fun h' _ => tells_of_reads h').mono fun o h₁ _ hfound => ?_)
  rcases o with e | _ | runtime
  · trivial
  · trivial
  have hfresh := hfound runtime rfl
  dsimp only
  split
  · trivial
  next hcond =>
  simp only [not_or, not_not, ne_eq] at hcond
  refine telling_call trivial fun found => ?_
  rcases found with _ | events
  · trivial
  dsimp only
  split
  · trivial
  next resolution hres =>
  refine telling_call trivial fun flipped => ?_
  split
  · trivial
  next hflipped =>
  obtain rfl : flipped = true := by simpa using hflipped
  refine storeResolution_tells hcond.2.1 hcond.1 hres (hfresh.saw.later ?_) (List.mem_cons_self ..) ?_
  · exact (List.suffix_cons ..).trans (List.suffix_cons ..)
  · exact ((hfresh.never (by simp) hnever).cons rfl).cons rfl

theorem handleCombatDone_tells {userId : String} {round : Nat} :
    Telling matchId q [] (handleCombatDone matchId userId round) := by
  refine Prog.Obeys.bind ((requireActionPhase_fresh fun h' _ => tells_of_reads h').mono fun o h₁ _ hread => ?_)
  rcases o with e | runtime
  · trivial
  have hfresh := (hread runtime rfl).1
  refine Prog.Obeys.bind (((sideFor_silent runtime userId).obeys fun _ _ => False.elim).mono fun o h₂ _ hnew => ?_)
  obtain ⟨new, rfl, hnone⟩ := hnew
  rcases o with e | side
  · trivial
  refine telling_call trivial fun count => ?_
  split
  · refine Prog.Obeys.andThen (applyDamageAndAdvance_tells ?_) (fun _ _ => trivial) fun _ _ => trivial
    have hread : Never Cmd.isResult h₁ := hfresh.never (by simp) (by simp [Never])
    exact (Never.append (fun c hc => (hnone c hc).elim) hread).cons rfl
  · trivial

theorem advanceResolvedRound_tells {round : Nat} (hq : q.resolves = false) :
    Telling matchId q h (advanceResolvedRound matchId host round) := by
  refine Prog.Obeys.bind ((findRuntime_fresh fun h' _ => tells_of_reads h').mono fun o h₁ _ hfound => ?_)
  rcases o with e | _ | runtime
  · trivial
  · trivial
  have hsaw := (hfound runtime rfl).saw
  dsimp only
  split
  · trivial
  next hcond =>
  simp only [not_or, not_not, ne_eq] at hcond
  refine telling_call trivial fun flipped => ?_
  split
  · trivial
  next hflipped =>
  obtain rfl : flipped = true := by simpa using hflipped
  refine telling_call trivial fun _ => telling_call trivial fun _ => telling_call trivial fun _ => ?_
  refine telling_call (.advanced ?_ rfl rfl rfl) fun _ => ?_
  · exact List.mem_cons_of_mem _ (List.mem_cons_of_mem _ (List.mem_cons_of_mem _ (List.mem_cons_self ..)))
  have hlive : runtime.phase ≠ .finished := hcond.1 ▸ by decide
  refine Prog.Obeys.andThen (publishState_read hq ?_ hsaw ⟨hsaw, hlive⟩ (fun side => by cases side <;> rfl)
    fun side => by cases side <;> rfl) (fun _ h₂ => ?_) fun _ _ => trivial
  · exact ((((List.suffix_cons ..).trans (List.suffix_cons ..)).trans (List.suffix_cons ..)).trans
      (List.suffix_cons ..)).trans (List.suffix_cons ..)
  · exact telling_of_mute ((rollOffersForMatch_mute _).bind fun _ => trivial)

theorem markRoundReady_tells {userId : String} {round : Nat} (hq : q = .action userId round .roundReady) :
    Telling matchId q h (markRoundReady matchId host userId round) := by
  refine Prog.Obeys.bind ((requireActionPhase_fresh fun h' _ => tells_of_reads h').mono fun o h₁ _ _ => ?_)
  rcases o with e | runtime
  · trivial
  refine telling_mute (sideFor_mute _ _) fun side new => ?_
  split
  · trivial
  refine telling_call trivial fun _ => ?_
  refine Prog.Obeys.bind ((getRuntime_fresh fun h' _ => tells_of_reads h').mono fun o h₃ _ hread => ?_)
  rcases o with e | updated
  · trivial
  obtain ⟨hash, newer, rfl, hquiet, hreadAs⟩ := hread updated rfl
  dsimp only
  split
  · exact Prog.Obeys.andThen (advanceResolvedRound_tells (hq ▸ rfl)) (fun _ _ => trivial) fun _ _ => trivial
  next hcount =>
  refine telling_call trivial fun _ => telling_call ?_ fun _ => trivial
  refine @PhaseTold.grace _ _ _ _ userId round side hash updated (⟨.schedule _ _, some ()⟩ :: newer) _ hq rfl
    (fun c hc => ?_) ⟨_, List.mem_cons_self .., rfl⟩ hreadAs (Nat.lt_of_not_le hcount) rfl rfl rfl
  rcases List.mem_cons.1 hc with rfl | hc
  · exact Cmd.noConfusion
  · intro heq
    have := hquiet c hc
    rw [heq] at this
    exact this

theorem markReadyAction_tells {userId id : String} {round : Nat} {ready : Bool} (hq : q.resolves = false) :
    Telling matchId q h (markReadyAction matchId host userId round ready id) := by
  refine Prog.Obeys.bind ((requireActionPhase_fresh fun h' _ => tells_of_reads h').mono fun o h₁ _ hfirst => ?_)
  rcases o with e | runtime
  · trivial
  obtain ⟨hfresh, -, hphase⟩ := hfirst runtime rfl
  refine telling_mute (sideFor_mute _ _) fun side new => ?_
  refine telling_mute (commitRuntimeAction_mute _ _ _ _ _) fun stored new' => ?_
  refine Prog.Obeys.bind ((getRuntime_fresh fun h' _ => tells_of_reads h').mono fun o h₂ hsuf hread => ?_)
  rcases o with e | updated
  · trivial
  have hlive : Saw matchId h₂ runtime ∧ runtime.phase ≠ .finished := by
    refine ⟨hfresh.saw.later (((List.suffix_append new _).trans (List.suffix_append new' _)).trans hsuf), ?_⟩
    rw [hphase]
    decide
  dsimp only
  split
  · refine Prog.Obeys.andThen (publishState_read hq (List.suffix_refl _) (hread updated rfl).saw hlive (fun _ => rfl) fun _ => rfl)
      (fun _ h₃ => ?_) fun _ _ => trivial
    split
    · exact Prog.Obeys.andThen (tryStartCombat_tells hq) (fun _ _ => trivial) fun _ _ => trivial
    · trivial
  · trivial

theorem markReady_tells {userId : String} {round : Nat} (hq : q.resolves = false) :
    Telling matchId q h (markReady matchId host userId round) := by
  refine Prog.Obeys.bind ((requireActionPhase_fresh fun h' _ => tells_of_reads h').mono fun o h₁ _ _ => ?_)
  rcases o with e | runtime
  · trivial
  refine telling_mute (sideFor_mute _ _) fun side new => telling_call trivial fun _ => ?_
  refine Prog.Obeys.bind ((getRuntime_fresh fun h' _ => tells_of_reads h').mono fun o h₂ _ _ => ?_)
  rcases o with e | updated
  · trivial
  dsimp only
  split
  · exact Prog.Obeys.andThen (tryStartCombat_tells hq) (fun _ _ => trivial) fun _ _ => trivial
  · trivial

theorem ensuring_tells {p : M α} {cleanup : M Unit} (hc : cleanup.Issues Mute) (hp : Telling matchId q h p) :
    Telling matchId q h (p.ensuring cleanup) :=
  Prog.Obeys.ensuring hc (fun h' _ => tells_of_mute h') (hp.mono fun _ _ _ _ _ _ => ⟨trivial, fun _ => trivial⟩)

theorem place_tells {userId id instanceId : String} {round slot : Nat} {target : Place}
    (hq : q.resolves = false) : Telling matchId q h (place matchId userId round instanceId target slot id) := by
  refine telling_call trivial fun owner => telling_mute (acquireLock_mute _ _ _ _) fun _ new => ?_
  refine ensuring_tells (mute_call (by trivial)) (telling_call trivial fun logged => ?_)
  split
  · trivial
  refine Prog.Obeys.bind ((requireActionPhase_fresh fun h' _ => tells_of_reads h').mono fun o h₁ _ hread => ?_)
  rcases o with e | runtime
  · trivial
  obtain ⟨hfresh, -, hphase⟩ := hread runtime rfl
  have hlive : runtime.phase ≠ .finished := hphase ▸ by decide
  refine telling_mute (sideFor_mute _ _) fun side new₁ => telling_mute (orReject_mute _) fun state new₂ => ?_
  refine telling_mute (commitRuntimeAction_mute _ _ _ _ _) fun stored new₃ => ?_
  split
  · trivial
  · refine telling_call trivial fun _ => Prog.Obeys.andThen (publishState_read hq ?_ hfresh.saw
      ⟨hfresh.saw, hlive⟩ (fun _ => rfl) fun _ => rfl) (fun _ _ => trivial) fun _ _ => trivial
    exact (((List.suffix_append new₁ _).trans (List.suffix_append new₂ _)).trans
      (List.suffix_append new₃ _)).trans (List.suffix_cons ..)

theorem performAction_tells {userId id : String} {round : Nat} {action : ShopAction}
    (hq : q.resolves = false) : Telling matchId q h (performAction matchId host userId round id action) := by
  refine telling_call trivial fun logged => ?_
  split
  · trivial
  refine Prog.Obeys.bind (Prog.Obeys.mono (Q := fun o h' => ∀ context, o = .ok context →
    Saw matchId h' context.runtime ∧ context.runtime.phase ≠ .finished) ?_ fun o h₁ _ hcontext => ?_)
  · refine Prog.Obeys.perform_bind trivial (fun hash => ?_) (by rintro _ ⟨⟩)
    split
    · rintro _ ⟨⟩
    next runtime hparse =>
    split
    · rintro _ ⟨⟩
    split
    · rintro _ ⟨⟩
    next hphase =>
    refine Prog.Obeys.bind (((shopSide_mute runtime userId).obeys fun h' _ => tells_of_mute h').mono
      fun o h₁ hsuf _ => ?_)
    rcases o with e | side
    · rintro _ ⟨⟩
    refine Prog.Obeys.perform_bind trivial (fun found => ?_) (by rintro _ ⟨⟩)
    rcases found with _ | shop
    · rintro _ ⟨⟩
    dsimp only
    split
    · rintro _ ⟨⟩
    · rintro _ ⟨⟩
      refine ⟨Saw.later ⟨hash, List.mem_cons_self .., runtime.player1Name, runtime.player2Name, hparse⟩
        (hsuf.trans (List.suffix_cons ..)), ?_⟩
      rw [not_not.1 hphase]
      decide
  rcases o with e | context
  · trivial
  obtain ⟨hsaw, hlive⟩ := hcontext context rfl
  refine telling_mute (mutate_mute _ _ _ _ _) fun after new => ?_
  refine Prog.Obeys.andThen (telling_call trivial fun reply => ?_) (fun stored h₂ => ?_) fun _ _ => trivial
  · cases reply with
    | recorded =>
      refine telling_call trivial fun _ => Prog.Obeys.andThen (publishState_read hq ?_ hsaw ⟨hsaw, hlive⟩
        (fun _ => rfl) fun _ => rfl) (fun _ _ => trivial) fun _ _ => trivial
      exact ((List.suffix_append new _).trans (List.suffix_cons ..)).trans (List.suffix_cons ..)
    | _ => trivial
  · split
    · trivial
    split
    · exact telling_of_mute ((mute_call (by trivial)).bind fun _ => trivial)
    · trivial

theorem withAction_tells {userId id : String} {round : Nat} {action : ShopAction}
    (hq : q.resolves = false) : Telling matchId q h (withAction matchId host userId round id action) := by
  refine telling_call trivial fun logged => ?_
  split
  · trivial
  refine telling_call trivial fun owner => telling_mute (acquireLock_mute _ _ _ _) fun _ new => ?_
  exact ensuring_tells (mute_call (by trivial)) (performAction_tells hq)

theorem announceMatch_tells {m : Match} {names : PlayerNames} (hq : q = .announce m names) :
    Telling matchId q h (announceMatch host m names) := by
  refine telling_call trivial fun _ => telling_call trivial fun _ => ?_
  refine telling_call (.announced hq rfl rfl rfl) fun _ => ?_
  refine Prog.Obeys.andThen (publishState_tells fun _ payload _ hscout => .announced hq ?_)
    (fun _ _ => telling_of_mute (rollOffersForMatch_mute _)) fun _ _ => trivial
  rw [hscout]
  cases payload.yourSide <;> rfl

theorem handleAction_tells {userId : String} {round : Nat} {action : RuntimeAction} :
    Telling matchId (.action userId round action) [] (handleAction matchId host userId round action) := by
  cases action with
  | shop action id =>
    refine telling_mute (resolveMatch_mute _) fun _ new => ?_
    exact Prog.Obeys.andThen (withAction_tells rfl) (fun _ _ => trivial) fun _ _ => trivial
  | place instanceId target slot id =>
    refine telling_mute (resolveMatch_mute _) fun _ new => ?_
    exact Prog.Obeys.andThen (place_tells rfl) (fun _ _ => trivial) fun _ _ => trivial
  | ready ready id =>
    refine telling_mute (resolveMatch_mute _) fun _ new => ?_
    exact Prog.Obeys.andThen (markReadyAction_tells rfl) (fun _ _ => trivial) fun _ _ => trivial
  | combatDone =>
    exact Prog.Obeys.andThen handleCombatDone_tells (fun _ _ => trivial) fun _ _ => trivial
  | roundReady =>
    exact Prog.Obeys.andThen (markRoundReady_tells rfl) (fun _ _ => trivial) fun _ _ => trivial
  | surrender => exact telling_of_mute ((surrender_mute _ _).bind fun _ => trivial)

/-- **Every request publishes phases and rosters only as its calls tell them.** -/
theorem program_tells (q : Request) : Telling matchId q [] (program matchId host q) := by
  cases q with
  | announce m names => exact announceMatch_tells rfl
  | action userId round action => exact handleAction_tells
  | markReady userId round =>
    exact Prog.Obeys.andThen (markReady_tells rfl) (fun _ _ => trivial) fun _ _ => trivial
  | phaseTimer round =>
    exact Prog.Obeys.andThen (tryStartCombat_tells rfl) (fun _ _ => trivial) fun _ _ => trivial
  | combatDoneTimeout round =>
    exact Prog.Obeys.andThen (applyDamageAndAdvance_tells (by simp [Never])) (fun _ _ => trivial) fun _ _ => trivial
  | roundReadyTimeout round =>
    exact Prog.Obeys.andThen (advanceResolvedRound_tells rfl) (fun _ _ => trivial) fun _ _ => trivial
  | userDisconnect userId =>
    refine Prog.Obeys.andThen (telling_call trivial fun found => ?_) (fun _ _ => trivial) fun _ _ => trivial
    cases found with
    | none => trivial
    | some _ => exact telling_of_mute (handleDisconnect_mute _)
  | disconnectJob userId => exact telling_of_mute ((handleDisconnect_mute _).bind fun _ => trivial)

end

end AutoChess.Runtime
