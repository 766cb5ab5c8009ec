/-
What a request did before it acknowledges a battle, resolves it or fights it
(`Deeds`): an ack names the battle it read, a resolution is the timeout's or
follows a second ack, and a battle is fought and shown with the boards of
particular reads.
-/
import AutoChess.Runtime.Edits
import AutoChess.Runtime.Tells

namespace AutoChess.Runtime

open AutoChess.Game AutoChess.Shop Calls

section
variable (matchId : String) (host : Host) (q : Request) (h : History)

/-- The runtime, read in battle by the request that started it. -/
structure Engaged (round : Nat) (runtime : MatchRuntimeState) : Prop where
  read : ∃ newer hash older, h = newer ++ (⟨.hgetall, some hash⟩ : Call Cmd Resp) :: older ∧
    Won older .shop_place .battle round none ∧ ReadAs matchId hash runtime
  inBattle : runtime.phase = .battle
  ofRound : runtime.round = round

/-- The runtime, read last before the request started the battle. -/
def StartedFrom (round : Nat) (runtime : MatchRuntimeState) : Prop :=
  ∃ newer mid hash older,
    h = newer ++ (⟨.phaseFlip .shop_place .battle round none, some true⟩ : Call Cmd Resp) ::
      (mid ++ (⟨.hgetall, some hash⟩ : Call Cmd Resp) :: older) ∧
    (∀ c ∈ mid, Quiet c.cmd) ∧ ReadAs matchId hash runtime

/-- What is shown of a battle. -/
def Displays : Payload → Prop
  | .state payload => ∀ round, Won h .shop_place .battle round none → ∃ runtime,
      StartedFrom matchId h round runtime ∧ payload.opponent.battleBoardSummary =
        some (summarizeBoard (sideState runtime (enemySideOf payload.yourSide)).board)
  | .combatEvents _ round _ _ initialP1 initialP2 => ∃ runtime, Engaged matchId h round runtime ∧
      initialP1 = runtime.p1State.board ∧ initialP2 = runtime.p2State.board
  | _ => True

def Deeds : Cmd → Prop
  | .combatDone userId => ∃ round runtime, q = .action userId round .combatDone ∧ Saw matchId h runtime ∧
      runtime.phase = .battle ∧ runtime.round = round ∧
      (runtime.player1Id = userId ∨ runtime.player2Id = userId)
  | .phaseFlip .battle .resolved round _ => q = .combatDoneTimeout round ∨ ∃ userId count,
      q = .action userId round .combatDone ∧ 2 ≤ count ∧
      (⟨.combatDone userId, some count⟩ : Call Cmd Resp) ∈ h
  | .hset fields => ∀ round, fields = [.combatRound (some round)] → ∃ newer older,
      h = newer ++ (⟨.delCombatKeys, some ()⟩ : Call Cmd Resp) :: older ∧
      Won older .shop_place .battle round none
  | .runBattle round state => ∃ runtime, Engaged matchId h round runtime ∧ battleOf host runtime = .ok state
  | .publish publication => Displays matchId h publication.payload
  | _ => True

end

/-- The request has started no battle. -/
def Unstarted (h : History) : Prop := ∀ round, ¬ Won h .shop_place .battle round none

/-- Commands that neither start, acknowledge, fight nor resolve a battle. -/
def Aside : Cmd → Prop
  | .combatDone _ | .runBattle _ _ => False
  | .phaseFlip old new _ _ => ¬ (old = .shop_place ∧ new = .battle) ∧ ¬ (old = .battle ∧ new = .resolved)
  | .hset fields => ∀ round, fields ≠ [.combatRound (some round)]
  | .publish ⟨_, .combatEvents _ _ _ _ _ _⟩ => False
  | _ => True

section
variable {matchId : String} {host : Host} {q : Request} {h : History} {α β : Type}

/-- The program does what `Deeds` lets it do, after the calls `h`. -/
abbrev Doing (matchId : String) (host : Host) (q : Request) (h : History) (p : M α) : Prop :=
  p.Obeys (Deeds matchId host q) (fun _ _ => True) h

theorem Aside.deeds {c : Cmd} (hc : Aside c) (hh : Unstarted h) : Deeds matchId host q h c := by
  cases c with
  | combatDone userId => cases hc
  | runBattle round state => cases hc
  | phaseFlip old new round next =>
    cases old <;> cases new <;> first | trivial | exact absurd ⟨rfl, rfl⟩ hc.2
  | hset fields => exact fun round heq => absurd heq (hc round)
  | publish publication =>
    obtain ⟨target, payload⟩ := publication
    cases payload with
    | state payload => exact fun round hwon => absurd hwon (hh round)
    | combatEvents id round cycles events p1 p2 => cases hc
    | _ => trivial
  | _ => trivial

theorem Aside.no_start {c : Cmd} (hc : Aside c) (round : Nat) :
    c ≠ .phaseFlip .shop_place .battle round none := by
  rintro rfl
  exact hc.1 ⟨rfl, rfl⟩

theorem Unstarted.cons {c : Call Cmd Resp} (hc : ∀ round, c.cmd ≠ .phaseFlip .shop_place .battle round none)
    (hh : Unstarted h) : Unstarted (c :: h) := by
  intro round hwon
  rcases List.mem_cons.1 hwon with rfl | hwon
  · exact hc round rfl
  · exact hh round hwon

/-- Commands aside, after calls that started no battle. -/
theorem aside_obeys {p : M α} (hp : p.Issues Aside) (hh : Unstarted h) :
    p.Obeys (Deeds matchId host q) (fun _ h' => Unstarted h' ∧ h <:+ h') h := by
  have key : ∀ {p : M α} {h' : History}, p.Issues Aside → Unstarted h' → h <:+ h' →
      p.Obeys (Deeds matchId host q) (fun _ h' => Unstarted h' ∧ h <:+ h') h' := by
    intro p
    induction p with
    | pure a => exact fun _ hh hsuf => ⟨hh, hsuf⟩
    | throw e => exact fun _ hh hsuf => ⟨hh, hsuf⟩
    | call c k ih =>
      intro h' hp hh hsuf
      exact ⟨hp.1.deeds hh, fun r => ih r (hp.2 r) (hh.cons hp.1.no_start) (hsuf.trans (List.suffix_cons ..))⟩
  exact key hp hh (List.suffix_refl h)

theorem doing_aside {p : M α} {f : α → M β} (hp : p.Issues Aside) (hh : Unstarted h)
    (hf : ∀ a h', Unstarted h' → h <:+ h' → Doing matchId host q h' (f a)) :
    Doing matchId host q h (p.bind f) := by
  refine Prog.Obeys.bind ((aside_obeys hp hh).mono fun o h' _ hh' => ?_)
  cases o with
  | ok a => exact hf a h' hh'.1 hh'.2
  | error e => trivial

theorem doing_of_aside {p : M α} (hp : p.Issues Aside) (hh : Unstarted h) : Doing matchId host q h p :=
  (aside_obeys hp hh).mono fun _ _ _ _ => trivial

theorem doing_call {c : Cmd} {f : Resp c → M α} (hc : Deeds matchId host q h c)
    (hf : ∀ r, Doing matchId host q (⟨c, some r⟩ :: h) (f r)) : Doing matchId host q h ((call c).bind f) :=
  Prog.Obeys.perform_bind hc hf trivial

theorem aside_call {c : Cmd} (hc : Aside c) : (call c).Issues Aside := Prog.Issues.perform hc _

theorem aside_then {c : Cmd} {f : Resp c → M α} (hc : Aside c) (hf : ∀ r, (f r).Issues Aside) :
    ((call c).bind f).Issues Aside := Prog.Issues.perform_bind hc hf

/-! ## Programs aside -/

theorem findRuntime_aside : (findRuntime matchId).Issues Aside := by
  refine aside_then (by trivial) fun hash => ?_
  split
  · trivial
  · split
    · exact aside_then (by trivial) fun _ => aside_then (by rintro round ⟨⟩) fun _ => trivial
    · trivial

theorem getRuntime_aside : (getRuntime matchId).Issues Aside :=
  findRuntime_aside.bind fun found => by cases found <;> trivial

theorem requireActionPhase_aside {round : Nat} {phase : MatchPhase} :
    (requireActionPhase matchId round phase).Issues Aside := by
  refine getRuntime_aside.bind fun runtime => ?_
  split
  · trivial
  · split <;> trivial

theorem sideFor_aside (runtime : MatchRuntimeState) (userId : String) :
    (sideFor runtime userId).Issues Aside := (sideFor_silent runtime userId).mono fun _ => False.elim

theorem publishState_aside (runtime : MatchRuntimeState) (side : Side) (state : RuntimePlayerState) :
    (publishState runtime side state).Issues Aside := (aside_call (by trivial)).both (aside_call (by trivial))

theorem rollOffersForMatch_aside (runtime : MatchRuntimeState) :
    (rollOffersForMatch host runtime).Issues Aside := by
  have hreset : ∀ playerId, (resetShop host runtime playerId).Issues Aside := fun playerId =>
    aside_then (by trivial) fun _ => aside_call (by trivial)
  exact (hreset _).both (hreset _)

theorem finalize_aside (winnerId : Option String) (reason : MatchEndReason) :
    (finalize winnerId reason).Issues Aside := by
  refine aside_then (by trivial) fun reply => ?_
  cases reply with
  | invalidWinner => trivial
  | playerNotFound => trivial
  | notInProgress terminal =>
    dsimp only
    split
    · exact aside_then (by trivial) fun _ => trivial
    · trivial
  | finalized row rating =>
    refine aside_then (by trivial) fun _ => aside_then (by trivial) fun _ => ?_
    exact aside_then (by trivial) fun _ => (aside_call (by trivial)).bind fun _ => trivial

theorem forfeitDisconnectedPlayer_aside (userId : String) :
    (forfeitDisconnectedPlayer userId).Issues Aside := by
  refine aside_then (by trivial) fun row => ?_
  split
  · trivial
  · split
    · trivial
    · exact finalize_aside _ _

theorem surrender_aside (userId : String) (round : Nat) : (surrender matchId userId round).Issues Aside := by
  refine getRuntime_aside.bind fun runtime => ?_
  split
  · trivial
  refine (sideFor_aside _ _).bind fun side => aside_then (by constructor <;> simp) fun flipped => ?_
  split
  · trivial
  · exact finalize_aside _ _

theorem handleDisconnect_aside (userId : String) : (handleDisconnect matchId userId).Issues Aside := by
  refine findRuntime_aside.bind fun found => ?_
  rcases found with _ | runtime
  · exact forfeitDisconnectedPlayer_aside _
  refine (sideFor_aside _ _).bind fun side => ?_
  split
  · trivial
  refine aside_then (by constructor <;> simp) fun flipped => ?_
  split
  · trivial
  · exact forfeitDisconnectedPlayer_aside _

theorem handleUserDisconnect_aside (userId : String) : (handleUserDisconnect matchId userId).Issues Aside := by
  refine aside_then (by trivial) fun found => ?_
  cases found with
  | none => trivial
  | some _ => exact handleDisconnect_aside userId

theorem advanceResolvedRound_aside (round : Nat) : (advanceResolvedRound matchId host round).Issues Aside := by
  refine findRuntime_aside.bind fun found => ?_
  rcases found with _ | runtime
  · trivial
  dsimp only
  split
  · trivial
  refine aside_then (by constructor <;> simp) fun flipped => ?_
  split
  · trivial
  refine aside_then (by rintro round ⟨⟩) fun _ => aside_then (by trivial) fun _ => aside_then (by trivial) fun _ => ?_
  exact (aside_call (by trivial)).bind fun _ => (publishState_aside _ _ _).bind fun _ =>
    (rollOffersForMatch_aside _).bind fun _ => trivial

theorem markRoundReady_aside (userId : String) (round : Nat) :
    (markRoundReady matchId host userId round).Issues Aside := by
  refine requireActionPhase_aside.bind fun runtime => (sideFor_aside _ _).bind fun side => ?_
  split
  · trivial
  refine aside_then (fun round => by cases side <;> rintro ⟨⟩) fun _ => getRuntime_aside.bind fun updated => ?_
  split
  · exact (advanceResolvedRound_aside _).bind fun _ => trivial
  · exact aside_then (by trivial) fun _ => (aside_call (by trivial)).bind fun _ => trivial

theorem announceMatch_aside (m : Match) (names : PlayerNames) : (announceMatch host m names).Issues Aside := by
  refine aside_then (by trivial) fun _ => aside_then (by trivial) fun _ => ?_
  exact (aside_call (by trivial)).bind fun _ => (publishState_aside _ _ _).bind fun _ => rollOffersForMatch_aside _

theorem storeResolution_aside (runtime : MatchRuntimeState) (round : Nat) (resolution : Resolution) :
    (storeResolution runtime round resolution).Issues Aside := by
  unfold storeResolution
  dsimp only
  split
  · refine aside_then (by trivial) fun _ => aside_then (by rintro round ⟨⟩) fun _ => ?_
    exact (aside_call (by trivial)).bind fun _ => (finalize_aside _ _).bind fun _ => trivial
  · refine aside_then (by trivial) fun _ => aside_then (by rintro round ⟨⟩) fun _ => aside_then (by trivial) fun _ => ?_
    exact (aside_call (by trivial)).bind fun _ => (aside_call (by trivial)).bind fun _ =>
      (publishState_aside _ _ _).bind fun _ => trivial

theorem OfRoster.aside {c : Cmd} (hc : OfRoster c) : Aside c := by
  cases c with
  | hset fields =>
    obtain ⟨a, b, rfl⟩ := hc
    rintro round ⟨⟩
  | publish publication =>
    obtain ⟨target, payload⟩ := publication
    cases payload with
    | combatEvents id round cycles events p1 p2 => cases hc
    | _ => trivial
  | combatDone userId => cases hc
  | runBattle round state => cases hc
  | phaseFlip old new round next => cases hc
  | _ => trivial

theorem commitRuntimeAction_aside (runtime : MatchRuntimeState) (userId id : String) (field : FieldWrite)
    (phase : MatchPhase) : (commitRuntimeAction runtime userId field id phase).Issues Aside := by
  refine aside_then (by trivial) fun reply => ?_
  cases reply <;> trivial

theorem resolveMatch_aside (userId : String) : (resolveMatch userId).Issues Aside := by
  refine aside_then (by trivial) fun found => ?_
  cases found <;> trivial

/-! ## Battles -/

theorem deeds_of_reads (h : History) {c : Cmd} (hc : Reads c) : Deeds matchId host q h c := by
  cases c with
  | hset fields =>
    obtain ⟨a, b, rfl⟩ := hc
    rintro round ⟨⟩
  | hgetall => trivial
  | usernamesForPlayers player1Id player2Id => trivial
  | _ => cases hc

/-- A runtime read by the programs of this module. -/
theorem findRuntime_deeds (hh : Unstarted h) : (findRuntime matchId).Obeys (Deeds matchId host q)
    (fun o h' => (∀ runtime, o = .ok (some runtime) → Fresh matchId h h' runtime) ∧ Unstarted h') h :=
  (findRuntime_fresh fun h' _ => deeds_of_reads h').and
    ((aside_obeys findRuntime_aside hh).mono fun _ _ _ hh' => hh'.1)

theorem requireActionPhase_deeds {round : Nat} {phase : MatchPhase} (hh : Unstarted h) :
    (requireActionPhase matchId round phase).Obeys (Deeds matchId host q) (fun o h' =>
      (∀ runtime, o = .ok runtime →
        Fresh matchId h h' runtime ∧ runtime.round = round ∧ runtime.phase = phase) ∧ Unstarted h') h :=
  (requireActionPhase_fresh fun h' _ => deeds_of_reads h').and
    ((aside_obeys requireActionPhase_aside hh).mono fun _ _ _ hh' => hh'.1)

theorem fightRound_deeds {round : Nat} (hwon : Won h .shop_place .battle round none) :
    Doing matchId host q h (fightRound matchId host round) := by
  refine doing_call trivial fun hash => ?_
  split
  · trivial
  next runtime hparse =>
  split
  · trivial
  next hcond =>
  simp only [Bool.or_eq_true, bne_iff_ne, beq_iff_eq, not_or, not_not, ne_eq] at hcond
  obtain ⟨⟨hphase, hround⟩, -⟩ := hcond
  have hengaged : ∀ new, Engaged matchId (new ++ (⟨.hgetall, some hash⟩ : Call Cmd Resp) :: h) round runtime :=
    fun new => ⟨⟨new, hash, h, rfl, hwon, runtime.player1Name, runtime.player2Name, hparse⟩, hphase, hround⟩
  subst hround
  refine doing_call trivial fun _ => ?_
  split
  · trivial
  next battle hbattle =>
  refine doing_call ⟨runtime, hengaged [_], hbattle⟩ fun events => doing_call trivial fun hash' => ?_
  split
  · trivial
  split
  · trivial
  refine doing_call trivial fun _ => doing_call trivial fun _ => doing_call ?_ fun _ => ?_
  · rintro _ ⟨⟩
    exact ⟨[_, _, _, _], _, rfl, List.mem_cons_of_mem _ hwon⟩
  refine doing_call ⟨runtime, hengaged [_, _, _, _, _, _], rfl, rfl⟩ fun _ => ?_
  exact doing_call trivial fun _ => trivial

theorem runCombat_deeds {round : Nat} (hwon : Won h .shop_place .battle round none) :
    Doing matchId host q h (runCombat matchId host round) := by
  refine doing_call trivial fun owner => doing_call trivial fun acquired => ?_
  split
  · have hrelease : (call (.releaseOwnedLock .combat owner)).Issues fun c =>
        c = .releaseOwnedLock .combat owner := Prog.Issues.perform (by rfl) _
    refine Prog.Obeys.ensuring hrelease (fun _ c hc => ?_) ?_
    · rw [hc]
      trivial
    · refine (fightRound_deeds ?_).mono fun _ _ _ _ _ _ => ⟨trivial, fun _ => trivial⟩
      exact List.mem_cons_of_mem _ (List.mem_cons_of_mem _ hwon)
  · trivial

theorem StartedFrom.cons {round : Nat} {runtime : MatchRuntimeState} (hs : StartedFrom matchId h round runtime)
    (c : Call Cmd Resp) : StartedFrom matchId (c :: h) round runtime := by
  obtain ⟨newer, mid, hash, older, rfl, hmid, hread⟩ := hs
  exact ⟨c :: newer, mid, hash, older, rfl, hmid, hread⟩

/-- What is published when a battle starts shows the boards it was started
with. -/
theorem started_state {runtime : MatchRuntimeState}
    (hs : ∀ r, Won h .shop_place .battle r none → StartedFrom matchId h r runtime) (side : Side) :
    Displays matchId h (.state (matchStatePayload { runtime with phase := .battle } side
      (sideState runtime side) (sideState runtime (enemySideOf side)) (readyCount runtime))) :=
  fun r hwon => ⟨runtime, hs r hwon, rfl⟩

theorem tryStartCombat_deeds {round : Nat} (hh : Unstarted h) :
    Doing matchId host q h (tryStartCombat matchId host round) := by
  refine Prog.Obeys.bind ((findRuntime_deeds hh).mono fun o h₁ _ hfound => ?_)
  obtain ⟨hfresh, hh₁⟩ := hfound
  rcases o with e | _ | runtime
  · trivial
  · trivial
  obtain ⟨hash, mid, rfl, hmid, hread⟩ := hfresh runtime rfl
  dsimp only
  split
  · trivial
  refine doing_call trivial fun flipped => ?_
  split
  · trivial
  next hflipped =>
  obtain rfl : flipped = true := by simpa using hflipped
  -- The only battle the request has started is this one.
  have hstarted : ∀ new r, (∀ c ∈ new, Aside c.cmd) → Won (new ++
      (⟨.phaseFlip .shop_place .battle round none, some true⟩ : Call Cmd Resp) ::
        (mid ++ (⟨.hgetall, some hash⟩ : Call Cmd Resp) :: h)) .shop_place .battle r none →
      StartedFrom matchId (new ++ (⟨.phaseFlip .shop_place .battle round none, some true⟩ : Call Cmd Resp) ::
        (mid ++ (⟨.hgetall, some hash⟩ : Call Cmd Resp) :: h)) r runtime := by
    intro new r hnew hwon
    rcases List.mem_append.1 hwon with hwon | hwon
    · exact absurd (hnew _ hwon) fun hc => hc.1 ⟨rfl, rfl⟩
    rcases List.mem_cons.1 hwon with heq | hwon
    · cases heq
      exact ⟨new, mid, hash, h, rfl, hmid, hread⟩
    · exact absurd hwon (hh₁ r)
  refine doing_call trivial fun _ => ?_
  have hwon : Won ((⟨.phaseFlip .shop_place .battle round none, some true⟩ : Call Cmd Resp) ::
      (mid ++ (⟨.hgetall, some hash⟩ : Call Cmd Resp) :: h)) .shop_place .battle round none :=
    List.mem_cons_self ..
  refine Prog.Obeys.bind (Prog.Obeys.mono (Q := fun _ _ => True) ?_ fun o h₂ hsuf _ => ?_)
  · refine ⟨started_state (fun r => hstarted [_] r ?_) .p1, fun r₁ =>
      ⟨started_state (fun r => hstarted [_, _] r ?_) .p2, fun r₂ => ?_⟩⟩
    · simp [Aside]
    · simp [Aside]
    · cases r₁ <;> cases r₂ <;> trivial
  · rcases o with e | _
    · trivial
    have hwon₂ := ((List.suffix_cons _ _).trans hsuf).subset hwon
    refine Prog.Obeys.andThen (runCombat_deeds hwon₂) (fun ran h₃ => ?_) fun _ _ => trivial
    split
    · refine Prog.Obeys.andThen ?_ (fun _ _ => trivial) fun _ _ => trivial
      refine doing_call trivial fun found => ?_
      split
      · trivial
      · split
        · trivial
        · exact Prog.Obeys.perform trivial (fun _ => trivial) trivial
    · trivial

theorem markReadyAction_deeds {userId id : String} {round : Nat} {ready : Bool} (hh : Unstarted h) :
    Doing matchId host q h (markReadyAction matchId host userId round ready id) := by
  refine doing_aside requireActionPhase_aside hh fun runtime h₁ hh₁ _ => ?_
  refine doing_aside (sideFor_aside _ _) hh₁ fun side h₂ hh₂ _ => ?_
  refine doing_aside (commitRuntimeAction_aside _ _ _ _ _) hh₂ fun stored h₃ hh₃ _ => ?_
  refine doing_aside getRuntime_aside hh₃ fun updated h₄ hh₄ _ => ?_
  split
  · refine doing_aside (publishState_aside _ _ _) hh₄ fun _ h₅ hh₅ _ => ?_
    split
    · exact Prog.Obeys.andThen (tryStartCombat_deeds hh₅) (fun _ _ => trivial) fun _ _ => trivial
    · trivial
  · trivial

theorem markReady_deeds {userId : String} {round : Nat} (hh : Unstarted h) :
    Doing matchId host q h (markReady matchId host userId round) := by
  refine doing_aside requireActionPhase_aside hh fun runtime h₁ hh₁ _ => ?_
  refine doing_aside (sideFor_aside _ _) hh₁ fun side h₂ hh₂ _ => ?_
  refine doing_aside (aside_call ?_) hh₂ fun _ h₃ hh₃ _ => ?_
  · exact fun round => by cases side <;> rintro ⟨⟩
  refine doing_aside getRuntime_aside hh₃ fun updated h₄ hh₄ _ => ?_
  split
  · exact Prog.Obeys.andThen (tryStartCombat_deeds hh₄) (fun _ _ => trivial) fun _ _ => trivial
  · trivial

/-! ## Resolutions -/

theorem applyDamageAndAdvance_deeds {round : Nat} (hh : Unstarted h)
    (hq : q = .combatDoneTimeout round ∨ ∃ userId count, q = .action userId round .combatDone ∧ 2 ≤ count ∧
      (⟨.combatDone userId, some count⟩ : Call Cmd Resp) ∈ h) :
    Doing matchId host q h (applyDamageAndAdvance matchId round) := by
  refine doing_aside findRuntime_aside hh fun found h₁ hh₁ hsuf => ?_
  rcases found with _ | runtime
  · trivial
  dsimp only
  split
  · trivial
  refine doing_call trivial fun found => ?_
  rcases found with _ | events
  · trivial
  dsimp only
  split
  · trivial
  next resolution hres =>
  refine doing_call ?_ fun flipped => ?_
  · rcases hq with hq | ⟨userId, count, hq, hcount, hmem⟩
    · exact .inl hq
    · exact .inr ⟨userId, count, hq, hcount, List.mem_cons_of_mem _ (hsuf.subset hmem)⟩
  split
  · trivial
  · exact doing_of_aside (storeResolution_aside _ _ _) ((hh₁.cons (by simp)).cons (by simp))

theorem sideFor_player {runtime : MatchRuntimeState} {userId : String}
    {Q : Except Err Side → History → Prop} (hQ : ∀ o, (∀ side, o = .ok side →
      runtime.player1Id = userId ∨ runtime.player2Id = userId) → Q o h) :
    (sideFor runtime userId).Obeys (Deeds matchId host q) Q h := by
  unfold sideFor
  split
  · next hp => exact hQ _ fun _ _ => .inl hp
  · split
    · next hp => exact hQ _ fun _ _ => .inr hp
    · exact hQ _ fun _ heq => by cases heq

theorem handleCombatDone_deeds {userId : String} {round : Nat} (hq : q = .action userId round .combatDone)
    (hh : Unstarted h) : Doing matchId host q h (handleCombatDone matchId userId round) := by
  refine Prog.Obeys.bind ((requireActionPhase_deeds hh).mono fun o h₁ _ hread => ?_)
  obtain ⟨hread, hh₁⟩ := hread
  rcases o with e | runtime
  · trivial
  obtain ⟨hfresh, hround, hphase⟩ := hread runtime rfl
  refine Prog.Obeys.bind (sideFor_player fun o hplayer => ?_)
  rcases o with e | side
  · trivial
  refine doing_call ⟨round, runtime, hq, hfresh.saw, hphase, hround, hplayer side rfl⟩ fun count => ?_
  split
  · next hcount =>
    refine Prog.Obeys.andThen (applyDamageAndAdvance_deeds (hh₁.cons (by simp))
      (.inr ⟨userId, count, hq, hcount, ?_⟩)) (fun _ _ => trivial) fun _ _ => trivial
    exact List.mem_cons_self ..
  · trivial

/-! ## Every request -/

theorem handleAction_deeds {userId : String} {round : Nat} {action : RuntimeAction} :
    Doing matchId host (.action userId round action) [] (handleAction matchId host userId round action) := by
  have hh : Unstarted [] := fun _ hwon => by cases hwon
  cases action with
  | shop action id =>
    have hroster := @program_roster matchId host (.action userId round (.shop action id)) rfl
    exact doing_of_aside (hroster.mono fun _ => OfRoster.aside) hh
  | place unitInstanceId target slot id =>
    have hroster := @program_roster matchId host (.action userId round (.place unitInstanceId target slot id)) rfl
    exact doing_of_aside (hroster.mono fun _ => OfRoster.aside) hh
  | ready ready id =>
    refine doing_aside (resolveMatch_aside _) hh fun _ h₁ hh₁ _ => ?_
    exact Prog.Obeys.andThen (markReadyAction_deeds hh₁) (fun _ _ => trivial) fun _ _ => trivial
  | combatDone => exact Prog.Obeys.andThen (handleCombatDone_deeds rfl hh) (fun _ _ => trivial) fun _ _ => trivial
  | roundReady => exact doing_of_aside ((markRoundReady_aside _ _).bind fun _ => trivial) hh
  | surrender => exact doing_of_aside ((surrender_aside _ _).bind fun _ => trivial) hh

/-- **Every request keeps to what it may do about a battle.** -/
theorem program_deeds (q : Request) : Doing matchId host q [] (program matchId host q) := by
  have hh : Unstarted [] := fun _ hwon => by cases hwon
  cases q with
  | announce m names => exact doing_of_aside (announceMatch_aside m names) hh
  | action userId round action => exact handleAction_deeds
  | markReady userId round => exact Prog.Obeys.andThen (markReady_deeds hh) (fun _ _ => trivial) fun _ _ => trivial
  | phaseTimer round => exact Prog.Obeys.andThen (tryStartCombat_deeds hh) (fun _ _ => trivial) fun _ _ => trivial
  | combatDoneTimeout round =>
    exact Prog.Obeys.andThen (applyDamageAndAdvance_deeds hh (.inl rfl)) (fun _ _ => trivial) fun _ _ => trivial
  | roundReadyTimeout round => exact doing_of_aside ((advanceResolvedRound_aside _).bind fun _ => trivial) hh
  | userDisconnect userId => exact doing_of_aside ((handleUserDisconnect_aside _).bind fun _ => trivial) hh
  | disconnectJob userId => exact doing_of_aside ((handleDisconnect_aside _).bind fun _ => trivial) hh

/-- A run whose calls keep to both guards. -/
abbrev DeedRun (matchId : String) (host : Host) (init : Store) (log : List RuntimeEvent) (s : Store) : Prop :=
  Chronicle (pool matchId host) (fun q h c => Guard matchId q h c ∧ Deeds matchId host q h c) init log s

theorem run_deeds (init : Store) (moves : List (Move Request Nat)) : DeedRun matchId host init
    ((pool matchId host).run ⟨init, [], []⟩ moves).log ((pool matchId host).run ⟨init, [], []⟩ moves).store :=
  Pool.run_chronicle (fun q => (program_guarded q).guards (program_deeds q)) moves

theorem DeedRun.run {init s : Store} {log : List RuntimeEvent} (h : DeedRun matchId host init log s) :
    Run matchId host init log s := h.weaken fun _ _ _ => And.left

theorem DeedRun.prior {init s : Store} {newer older : List RuntimeEvent} {e : RuntimeEvent}
    (h : DeedRun matchId host init (newer ++ e :: older) s) : DeedRun matchId host init older e.before :=
  h.of_split.1

end

end AutoChess.Runtime
