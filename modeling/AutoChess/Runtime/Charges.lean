/-
What a request says and stores of a round's damage, by its own earlier calls
(`Charges`). A preview is of the runtime read before the transition that
started the battle, and of the events cached once it was fought. A resolution
announces and stores what it computed. A roster action keeps the HP it read.
-/
import AutoChess.Runtime.BattleBoards
import AutoChess.Runtime.Commits
import AutoChess.Runtime.Score

namespace AutoChess.Runtime

open AutoChess.Game AutoChess.Shop Calls

/-- Requests that leave a resolved round. -/
def Request.advances : Request → Bool
  | .action _ _ .roundReady | .roundReadyTimeout _ => true
  | _ => false

/-- The score a runtime was read with, and the one a round leaves. -/
def MatchRuntimeState.score (runtime : MatchRuntimeState) : Score :=
  ⟨runtime.p1State.hp, runtime.p2State.hp, runtime.wipeIndexP1, runtime.wipeIndexP2⟩

def Resolution.score (resolution : Resolution) : Score :=
  ⟨resolution.p1.hp, resolution.p2.hp, resolution.damage.wipeIndexP1, resolution.damage.wipeIndexP2⟩

section
variable (matchId : String) (q : Request) (h : History)

/-- The damage of a round, as the request that started its battle computed it. -/
structure Previewed (round : Nat) (runtime : MatchRuntimeState) (events : List CombatEvent)
    (resolution : Resolution) : Prop where
  started : StartedFrom matchId h round runtime
  planning : runtime.phase = .shop_place
  ofRound : runtime.round = round
  fetched : ∃ newer older, h = newer ++ (⟨.getCombatResult, some (some events)⟩ : Call Cmd Resp) :: older ∧
    ∃ c ∈ older, c.cmd = .hset [.combatRound (some round)]
  resolved : resolveRound runtime round events = some resolution

def Charges : Cmd → Prop
  | .actionLog _ _ field _ _ round => ∀ side state, field = stateField side state → ∃ runtime,
      Saw matchId h runtime ∧ runtime.phase = .shop_place ∧ runtime.round = round ∧
      state.hp = (sideState runtime side).hp
  | .phaseFlip old new _ _ => old = .resolved → new = .shop_place → q.advances = true
  | .publish ⟨_, .damage payload⟩ => ∃ round runtime events resolution, payload = resolution.damagePayload ∧
      (Previewed matchId h round runtime events resolution ∨ Computed matchId h round runtime events resolution)
  | .updateRuntimeSnapshot p1 p2 wipeIndexP1 wipeIndexP2 => ∃ round runtime events resolution,
      Computed matchId h round runtime events resolution ∧
      (⟨p1.hp, p2.hp, wipeIndexP1, wipeIndexP2⟩ : Score) = resolution.score
  | .finalizeRow winnerId _ => q.resolving = none ∨ ∃ round runtime events resolution,
      Computed matchId h round runtime events resolution ∧ resolution.winnerId = some winnerId
  | _ => True

end

/-- Commands that say and store nothing of it. -/
def Harmless (q : Request) : Cmd → Prop
  | .actionLog _ _ _ _ _ _ | .updateRuntimeSnapshot _ _ _ _ | .publish ⟨_, .damage _⟩ => False
  | .phaseFlip old new _ _ => old = .resolved → new = .shop_place → q.advances = true
  | .finalizeRow _ _ => q.resolving = none
  | _ => True

section
variable {matchId : String} {host : Host} {q : Request} {h : History} {round : Nat} {α β : Type}
  {runtime : MatchRuntimeState} {events : List CombatEvent} {resolution : Resolution}

/-- The program charges what its calls say, after the calls `h`. -/
abbrev Charging (matchId : String) (q : Request) (h : History) (p : M α) : Prop :=
  p.Obeys (Charges matchId q) (fun _ _ => True) h

theorem Harmless.charges (h : History) {c : Cmd} (hc : Harmless q c) : Charges matchId q h c := by
  cases c with
  | publish publication =>
    obtain ⟨target, payload⟩ := publication
    cases payload with
    | damage payload => cases hc
    | _ => trivial
  | phaseFlip old new round next => exact hc
  | finalizeRow winnerId reason => exact .inl hc
  | actionLog userId id field shop phase round => cases hc
  | updateRuntimeSnapshot p1 p2 w1 w2 => cases hc
  | _ => trivial

theorem Peripheral.harmless {c : Cmd} (hc : Peripheral c) : Harmless q c := by
  cases c <;> trivial

theorem charges_of_reads (h : History) {c : Cmd} (hc : Reads c) : Charges matchId q h c := by
  cases c <;> trivial

theorem charging_call {c : Cmd} {f : Resp c → M α} (hc : Charges matchId q h c)
    (hf : ∀ r, Charging matchId q (⟨c, some r⟩ :: h) (f r)) : Charging matchId q h ((call c).bind f) :=
  Prog.Obeys.perform_bind hc hf trivial

theorem charging_of_harmless {p : M α} (hp : p.Issues (Harmless q)) : Charging matchId q h p :=
  (hp.obeys fun h' _ hc => hc.charges h').mono fun _ _ _ _ => trivial

/-- Harmless calls, then the rest. -/
theorem charging_harmless {p : M α} {f : α → M β} (hp : p.Issues (Harmless q))
    (hf : ∀ a new, Charging matchId q (new ++ h) (f a)) : Charging matchId q h (p.bind f) := by
  refine Prog.Obeys.bind ((hp.obeys fun h' _ hc => hc.charges h').mono fun o h' _ hnew => ?_)
  obtain ⟨new, rfl, -⟩ := hnew
  cases o with
  | ok a => exact hf a new
  | error e => trivial

theorem charging_idle {p : M α} {f : α → M β} (hp : p.Issues Peripheral)
    (hf : ∀ a new, Charging matchId q (new ++ h) (f a)) : Charging matchId q h (p.bind f) :=
  charging_harmless (hp.mono fun _ => Peripheral.harmless) hf

theorem harmless_call {c : Cmd} (hc : Harmless q c) : (call c).Issues (Harmless q) := Prog.Issues.perform hc _

theorem harmless_then {c : Cmd} {f : Resp c → M α} (hc : Harmless q c)
    (hf : ∀ r, (f r).Issues (Harmless q)) : ((call c).bind f).Issues (Harmless q) := Prog.Issues.perform_bind hc hf

theorem harmless_idle {p : M α} {f : α → M β} (hp : p.Issues Peripheral)
    (hf : ∀ a, (f a).Issues (Harmless q)) : (p.bind f).Issues (Harmless q) :=
  (hp.mono fun _ => Peripheral.harmless).bind hf

/-! ## Harmless programs -/

theorem publishState_harmless (runtime : MatchRuntimeState) (side : Side) (state : RuntimePlayerState) :
    (publishState runtime side state).Issues (Harmless q) :=
  (harmless_call (by trivial)).both (harmless_call (by trivial))

theorem rollOffersForMatch_harmless (runtime : MatchRuntimeState) :
    (rollOffersForMatch host runtime).Issues (Harmless q) := by
  have hreset : ∀ playerId, (resetShop host runtime playerId).Issues (Harmless q) := fun playerId =>
    harmless_then (by trivial) fun _ => harmless_call (by trivial)
  exact (hreset _).both (hreset _)

/-- What follows the transaction that ends a match. -/
theorem finalize_obeys {winnerId : Option String} {reason : MatchEndReason}
    (hc : Charges matchId q h (.finalizeRow winnerId reason)) : Charging matchId q h (finalize winnerId reason) := by
  refine charging_call hc fun reply => charging_of_harmless ?_
  cases reply with
  | invalidWinner => trivial
  | playerNotFound => trivial
  | notInProgress terminal =>
    dsimp only
    split
    · exact harmless_then (by trivial) fun _ => trivial
    · trivial
  | finalized row rating =>
    refine harmless_then (by trivial) fun _ => harmless_then (by trivial) fun _ => ?_
    exact harmless_then (by trivial) fun _ => harmless_then (by trivial) fun _ => trivial

theorem forfeitDisconnectedPlayer_charges (hq : q.resolving = none) (userId : String) :
    Charging matchId q h (forfeitDisconnectedPlayer userId) := by
  refine charging_call trivial fun row => ?_
  split
  · trivial
  · split
    · trivial
    · exact finalize_obeys (.inl hq)

theorem surrender_charges (hq : q.resolving = none) (userId : String) (round : Nat) :
    Charging matchId q h (surrender matchId userId round) := by
  refine charging_idle (findRuntime_idle.bind fun found => by cases found <;> trivial) fun runtime new => ?_
  split
  · trivial
  refine charging_idle (sideFor_idle _ _) fun side new' => charging_call (by rintro - ⟨⟩) fun flipped => ?_
  split
  · trivial
  · exact finalize_obeys (.inl hq)

theorem handleDisconnect_charges (hq : q.resolving = none) (userId : String) :
    Charging matchId q h (handleDisconnect matchId userId) := by
  refine charging_idle findRuntime_idle fun found new => ?_
  rcases found with _ | runtime
  · exact forfeitDisconnectedPlayer_charges hq _
  refine charging_idle (sideFor_idle _ _) fun side new' => ?_
  split
  · trivial
  refine charging_call (by rintro - ⟨⟩) fun flipped => ?_
  split
  · trivial
  · exact forfeitDisconnectedPlayer_charges hq _

theorem handleUserDisconnect_charges (hq : q.resolving = none) (userId : String) :
    Charging matchId q h (handleUserDisconnect matchId userId) := by
  refine charging_call trivial fun found => ?_
  cases found with
  | none => trivial
  | some _ => exact handleDisconnect_charges hq userId

theorem announceMatch_harmless (m : Match) (names : PlayerNames) :
    (announceMatch host m names).Issues (Harmless q) := by
  refine harmless_then (by trivial) fun _ => harmless_then (by trivial) fun _ => ?_
  exact harmless_then (by trivial) fun _ => (publishState_harmless _ _ _).bind fun _ => rollOffersForMatch_harmless _

theorem advanceResolvedRound_harmless (hq : q.advances = true) (round : Nat) :
    (advanceResolvedRound matchId host round).Issues (Harmless q) := by
  refine harmless_idle findRuntime_idle fun found => ?_
  rcases found with _ | runtime
  · trivial
  dsimp only
  split
  · trivial
  refine harmless_then (fun _ _ => hq) fun flipped => ?_
  split
  · trivial
  refine harmless_then (by trivial) fun _ => harmless_then (by trivial) fun _ => harmless_then (by trivial) fun _ => ?_
  exact harmless_then (by trivial) fun _ => (publishState_harmless _ _ _).bind fun _ =>
    (rollOffersForMatch_harmless _).bind fun _ => trivial

theorem markRoundReady_harmless (hq : q.advances = true) (userId : String) (round : Nat) :
    (markRoundReady matchId host userId round).Issues (Harmless q) := by
  refine harmless_idle requireActionPhase_idle fun runtime => harmless_idle (sideFor_idle _ _) fun side => ?_
  split
  · trivial
  refine harmless_then (by trivial) fun _ => ?_
  refine harmless_idle (findRuntime_idle.bind fun found => by cases found <;> trivial) fun updated => ?_
  split
  · exact (advanceResolvedRound_harmless hq _).bind fun _ => trivial
  · exact harmless_then (by trivial) fun _ => harmless_then (by trivial) fun _ => trivial

/-! ## Previews -/

theorem fightRound_charges : (fightRound matchId host round).Obeys (Charges matchId q)
    (fun o h' => o = .ok true → ∃ c ∈ h', c.cmd = .hset [.combatRound (some round)]) h := by
  refine Prog.Obeys.perform_bind trivial (fun hash => ?_) (by rintro ⟨⟩)
  split
  · rintro ⟨⟩
  next runtime hparse =>
  split
  · rintro ⟨⟩
  next hcond =>
  simp only [Bool.or_eq_true, bne_iff_ne, beq_iff_eq, not_or, not_not, ne_eq] at hcond
  obtain ⟨⟨-, hround⟩, -⟩ := hcond
  subst hround
  refine Prog.Obeys.perform_bind trivial (fun _ => ?_) (by rintro ⟨⟩)
  split
  · rintro ⟨⟩
  refine Prog.Obeys.perform_bind trivial (fun events => ?_) (by rintro ⟨⟩)
  refine Prog.Obeys.perform_bind trivial (fun hash' => ?_) (by rintro ⟨⟩)
  split
  · rintro ⟨⟩
  split
  · rintro ⟨⟩
  refine Prog.Obeys.perform_bind trivial (fun _ => ?_) (by rintro ⟨⟩)
  refine Prog.Obeys.perform_bind trivial (fun _ => ?_) (by rintro ⟨⟩)
  refine Prog.Obeys.perform_bind trivial (fun _ => ?_) (by rintro ⟨⟩)
  refine Prog.Obeys.perform_bind trivial (fun _ => ?_) (by rintro ⟨⟩)
  refine Prog.Obeys.perform_bind trivial (fun _ => ?_) (by rintro ⟨⟩)
  exact fun _ => ⟨⟨.hset [.combatRound (some runtime.round)], some ()⟩, by simp, rfl⟩

/-- A battle that ran was announced as fought. -/
theorem runCombat_charges : (runCombat matchId host round).Obeys (Charges matchId q)
    (fun o h' => o = .ok true → ∃ c ∈ h', c.cmd = .hset [.combatRound (some round)]) h := by
  refine Prog.Obeys.perform_bind trivial (fun owner => ?_) (by rintro ⟨⟩)
  refine Prog.Obeys.perform_bind trivial (fun acquired => ?_) (by rintro ⟨⟩)
  split
  · refine Prog.Obeys.ensuring (harmless_call (by trivial)) (fun h' _ hc => hc.charges h')
      (fightRound_charges.mono fun o h' _ hran new _ => ⟨fun hok => ?_, by rintro e ⟨⟩⟩)
    obtain ⟨c, hmem, hc⟩ := hran hok
    exact ⟨c, List.mem_append_right _ hmem, hc⟩
  · rintro ⟨⟩

theorem StartedFrom.later {h' : History} (hs : StartedFrom matchId h round runtime) (hsuf : h <:+ h') :
    StartedFrom matchId h' round runtime := by
  obtain ⟨new, rfl⟩ := hsuf
  obtain ⟨newer, mid, hash, older, rfl, hmid, hread⟩ := hs
  exact ⟨new ++ newer, mid, hash, older, by simp, hmid, hread⟩

theorem tryStartCombat_charges : Charging matchId q h (tryStartCombat matchId host round) := by
  refine Prog.Obeys.bind ((findRuntime_fresh fun h' _ => charges_of_reads h').mono fun o h₁ _ hfound => ?_)
  rcases o with e | _ | runtime
  · trivial
  · trivial
  obtain ⟨hash, mid, rfl, hmid, hread⟩ := hfound runtime rfl
  dsimp only
  split
  · trivial
  next hcond =>
  simp only [not_or, not_not, ne_eq] at hcond
  refine charging_call (by rintro ⟨⟩) fun flipped => ?_
  split
  · trivial
  next hflipped =>
  obtain rfl : flipped = true := by simpa using hflipped
  have hstarted : StartedFrom matchId ((⟨.phaseFlip .shop_place .battle round none, some true⟩ : Call Cmd Resp) ::
      (mid ++ (⟨.hgetall, some hash⟩ : Call Cmd Resp) :: h)) round runtime := ⟨[], mid, hash, h, rfl, hmid, hread⟩
  refine charging_call trivial fun _ => charging_harmless (publishState_harmless _ _ _) fun _ new => ?_
  refine Prog.Obeys.bind (runCombat_charges.mono fun o h₂ hsuf hran => ?_)
  obtain ⟨new', rfl⟩ := hsuf
  rcases o with e | _ | _
  · trivial
  · trivial
  obtain ⟨c, hmem, hc⟩ := hran rfl
  refine Prog.Obeys.andThen (charging_call trivial fun found => ?_) (fun _ _ => trivial) fun _ _ => trivial
  split
  · trivial
  next events =>
  split
  · trivial
  next resolution hres =>
  refine Prog.Obeys.perform ⟨round, runtime, events, resolution, rfl, .inl ⟨?_, hcond.1, hcond.2, ?_, hres⟩⟩
    (fun _ => trivial) trivial
  · exact hstarted.later ((List.suffix_cons ..).trans ((List.suffix_append new _).trans
      ((List.suffix_append new' _).trans (List.suffix_cons ..))))
  · exact ⟨[], _, rfl, c, hmem, hc⟩

theorem markReadyAction_charges {userId id : String} {ready : Bool} :
    Charging matchId q h (markReadyAction matchId host userId round ready id) := by
  refine charging_idle requireActionPhase_idle fun runtime new => charging_idle (sideFor_idle _ _) fun side new' => ?_
  refine Prog.Obeys.andThen ?_ (fun stored h₁ => ?_) fun _ _ => trivial
  · refine charging_call (fun side' state heq => ?_) fun reply => by cases reply <;> trivial
    cases side <;> cases side' <;> cases heq
  refine charging_idle (findRuntime_idle.bind fun found => by cases found <;> trivial) fun updated new => ?_
  split
  · refine charging_harmless (publishState_harmless _ _ _) fun _ new => ?_
    split
    · exact Prog.Obeys.andThen tryStartCombat_charges (fun _ _ => trivial) fun _ _ => trivial
    · trivial
  · trivial

theorem markReady_charges {userId : String} : Charging matchId q h (markReady matchId host userId round) := by
  refine charging_idle requireActionPhase_idle fun runtime new => charging_idle (sideFor_idle _ _) fun side new' => ?_
  refine charging_call trivial fun _ => ?_
  refine charging_idle (findRuntime_idle.bind fun found => by cases found <;> trivial) fun updated new => ?_
  split
  · exact Prog.Obeys.andThen tryStartCombat_charges (fun _ _ => trivial) fun _ _ => trivial
  · trivial

/-! ## Resolutions -/

theorem Computed.later {h' : History} (hc : Computed matchId h round runtime events resolution) (hsuf : h <:+ h') :
    Computed matchId h' round runtime events resolution := by
  obtain ⟨new, rfl⟩ := hsuf
  obtain ⟨newer, mid, older, rfl, hsaw⟩ := hc.calls
  exact ⟨⟨new ++ newer, mid, older, by simp, hsaw⟩, hc.inBattle, hc.ofRound, hc.fought, hc.resolved⟩

theorem storeResolution_charges (hc : Computed matchId h round runtime events resolution) :
    Charging matchId q h (storeResolution runtime round resolution) := by
  have hlater : ∀ {h'}, h <:+ h' → Computed matchId h' round runtime events resolution := fun hsuf => hc.later hsuf
  unfold storeResolution
  dsimp only
  split
  · next winnerId hwinner =>
    refine charging_call ⟨_, _, _, _, hc, rfl⟩ fun _ => charging_call trivial fun _ => ?_
    refine charging_call ⟨_, _, _, _, rfl, .inr (hlater ⟨[_, _], rfl⟩)⟩ fun _ => ?_
    refine Prog.Obeys.andThen (finalize_obeys (.inr ⟨_, _, _, _, hlater ⟨[_, _, _], rfl⟩, hwinner⟩))
      (fun _ _ => trivial) fun _ _ => trivial
  · refine charging_call ⟨_, _, _, _, hc, rfl⟩ fun _ => charging_call trivial fun _ => ?_
    refine charging_call trivial fun _ => ?_
    refine charging_call ⟨_, _, _, _, rfl, .inr (hlater ⟨[_, _, _], rfl⟩)⟩ fun _ => charging_of_harmless ?_
    exact harmless_then (by trivial) fun _ => (publishState_harmless _ _ _).bind fun _ => trivial

theorem applyDamageAndAdvance_charges : Charging matchId q h (applyDamageAndAdvance matchId round) := by
  refine Prog.Obeys.bind ((findRuntime_fresh fun h' _ => charges_of_reads h').mono fun o h₁ _ hfound => ?_)
  rcases o with e | _ | runtime
  · trivial
  · trivial
  have hsaw := (hfound runtime rfl).saw
  dsimp only
  split
  · trivial
  next hcond =>
  simp only [not_or, not_not, ne_eq] at hcond
  refine charging_call trivial fun found => ?_
  rcases found with _ | events
  · trivial
  dsimp only
  split
  · trivial
  next resolution hres =>
  refine charging_call (by rintro ⟨⟩) fun flipped => ?_
  split
  · trivial
  next hflipped =>
  obtain rfl : flipped = true := by simpa using hflipped
  exact storeResolution_charges ⟨⟨[], [], h₁, rfl, hsaw⟩, hcond.1, hcond.2.1, hcond.2.2, hres⟩

theorem handleCombatDone_charges {userId : String} :
    Charging matchId q h (handleCombatDone matchId userId round) := by
  refine charging_idle requireActionPhase_idle fun runtime new => charging_idle (sideFor_idle _ _) fun side new' => ?_
  refine charging_call trivial fun count => ?_
  split
  · exact Prog.Obeys.andThen applyDamageAndAdvance_charges (fun _ _ => trivial) fun _ _ => trivial
  · trivial

/-! ## Roster actions -/

theorem stateField_inj {side side' : Side} {state state' : RuntimePlayerState}
    (h : stateField side state = stateField side' state') : side = side' ∧ state = state' := by
  cases side <;> cases side' <;> cases h <;> exact ⟨rfl, rfl⟩

/-- An action logs a state with the HP that was read. -/
theorem logs_hp {side : Side} {state : RuntimePlayerState} {userId id : String} {shop : Option (StoredShop × Nat)}
    {phase : MatchPhase} (hsaw : Saw matchId h runtime) (hphase : runtime.phase = .shop_place)
    (hhp : state.hp = (sideState runtime side).hp) :
    Charges matchId q h (.actionLog userId id (stateField side state) shop phase runtime.round) := by
  intro side' state' heq
  obtain ⟨rfl, rfl⟩ := stateField_inj heq
  exact ⟨runtime, hsaw, hphase, rfl, hhp⟩

theorem placeLocked_charges {userId instanceId id : String} {slot : Nat} {target : Place} :
    Charging matchId q h (placeLocked matchId userId round instanceId target slot id) := by
  refine charging_idle (Prog.Issues.perform (by trivial) _) fun logged new => ?_
  split
  · trivial
  refine Prog.Obeys.bind ((requireActionPhase_fresh fun h' _ => charges_of_reads h').mono fun o h₁ _ hread => ?_)
  rcases o with e | runtime
  · trivial
  obtain ⟨hfresh, -, hphase⟩ := hread runtime rfl
  refine charging_idle (sideFor_idle _ _) fun side new' => ?_
  cases hplace : placeUnit (sideState runtime side) instanceId target slot with
  | error r => trivial
  | ok state =>
    show Charging matchId q _ ((commitRuntimeAction runtime userId (stateField side state) id .shop_place).bind _)
    refine Prog.Obeys.andThen ?_ (fun stored h₂ => ?_) fun _ _ => trivial
    · refine charging_call (logs_hp (hfresh.saw.later (List.suffix_append ..)) hphase (placeUnit_hp hplace)) fun reply => ?_
      cases reply <;> trivial
    split
    · trivial
    · exact charging_of_harmless (harmless_then (by trivial) fun _ => (publishState_harmless _ _ _).bind fun _ => trivial)

/-- The holdings a shop action works on are those of a runtime that was read. -/
theorem actionContext_charges {userId : String} : (actionContext matchId userId round).Obeys
    (Charges matchId q) (fun o h' => ∀ context, o = .ok context → Saw matchId h' context.runtime ∧
      context.runtime.phase = .shop_place ∧ context.held.state = sideState context.runtime context.side) h := by
  refine Prog.Obeys.perform_bind trivial (fun hash => ?_) (by rintro _ ⟨⟩)
  split
  · rintro _ ⟨⟩
  next runtime hparse =>
  split
  · rintro _ ⟨⟩
  split
  · rintro _ ⟨⟩
  next hphase =>
  have hsaw : ∀ new, Saw matchId (new ++ (⟨.hgetall, some hash⟩ : Call Cmd Resp) :: h) runtime := fun new =>
    ⟨hash, List.mem_append_right _ (List.mem_cons_self ..), _, _, hparse⟩
  have hside : (shopSide runtime userId).Issues (Harmless q) := by
    unfold shopSide
    split
    · trivial
    · split <;> trivial
  refine Prog.Obeys.bind ((hside.obeys fun h' _ hc => hc.charges h').mono fun o h₁ _ hnew => ?_)
  obtain ⟨new, rfl, -⟩ := hnew
  rcases o with e | side
  · rintro _ ⟨⟩
  refine Prog.Obeys.perform_bind trivial (fun found => ?_) (by rintro _ ⟨⟩)
  split
  · rintro _ ⟨⟩
  split
  · rintro _ ⟨⟩
  · rintro _ ⟨⟩
    exact ⟨(hsaw new).later (List.suffix_cons ..), not_not.1 hphase, rfl⟩

/-- No shop action changes a player's HP. -/
theorem mutate_charges {userId : String} {held : Holdings} {action : ShopAction} :
    (mutate host userId round runtime held action).Obeys (Charges matchId q)
      (fun o _ => ∀ after, o = .ok after → after.state.hp = held.state.hp) h := by
  have hreject : ∀ (o : Except Rejection Holdings) h', (∀ after, o = .ok after → after.state.hp = held.state.hp) →
      (orReject o).Obeys (Charges matchId q) (fun o _ => ∀ after, o = .ok after → after.state.hp = held.state.hp) h' := by
    intro o h' ho
    cases o with
    | error r => rintro _ ⟨⟩
    | ok after =>
      rintro _ ⟨⟩
      exact ho after rfl
  have hdealt : ∀ action after, dealt host runtime.matchSeed round userId 0 held action = .ok after →
      after.state.hp = held.state.hp := fun action after hdeal =>
    (show Edited host 0 held.state after.state from deal_edited hdeal).hp
  cases action with
  | buy offerIndex =>
    cases hoffer : offerToBuy held offerIndex with
    | error r =>
      rw [mutate, hoffer]
      rintro _ ⟨⟩
    | ok offer =>
      rw [mutate, hoffer]
      exact Prog.Obeys.perform_bind trivial (fun uuid => hreject _ _ fun _ => buyOffer_hp) (by rintro _ ⟨⟩)
  | sell source slot => exact hreject _ _ (hdealt (.sell source slot))
  | refresh => exact hreject _ _ (hdealt .refresh)
  | fuse unitId sourceId targetId => exact hreject _ _ (hdealt (.fuse unitId sourceId targetId))

theorem performAction_charges {userId id : String} {action : ShopAction} :
    Charging matchId q h (performAction matchId host userId round id action) := by
  refine charging_idle (Prog.Issues.perform (by trivial) _) fun logged new => ?_
  split
  · trivial
  refine Prog.Obeys.bind (actionContext_charges.mono fun o h₁ _ hcontext => ?_)
  rcases o with e | context
  · trivial
  obtain ⟨hsaw, hphase, hheld⟩ := hcontext context rfl
  refine Prog.Obeys.bind (mutate_charges.mono fun o h₂ hsuf hafter => ?_)
  rcases o with e | after
  · trivial
  have hhp := (hafter after rfl).trans (congrArg RuntimePlayerState.hp hheld)
  refine Prog.Obeys.andThen ?_ (fun stored h₃ => ?_) fun _ _ => trivial
  · refine charging_call (logs_hp (hsaw.later hsuf) hphase hhp) fun reply => charging_of_harmless ?_
    cases reply with
    | recorded => exact harmless_then (by trivial) fun _ => (publishState_harmless _ _ _).bind fun _ => trivial
    | _ => trivial
  · split
    · trivial
    · split
      · exact charging_of_harmless (harmless_then (by trivial) fun _ => trivial)
      · trivial

/-- A body under a player's lock. -/
theorem ensuring_charges {p : M α} {cleanup : M Unit} (hc : cleanup.Issues Peripheral)
    (hp : Charging matchId q h p) : Charging matchId q h (p.ensuring cleanup) :=
  Prog.Obeys.ensuring hc (fun h' _ hc => hc.harmless.charges h')
    (hp.mono fun _ _ _ _ _ _ => ⟨trivial, fun _ => trivial⟩)

theorem withAction_charges {userId id : String} {action : ShopAction} :
    Charging matchId q h (withAction matchId host userId round id action) := by
  refine charging_idle (Prog.Issues.perform (by trivial) _) fun logged new => ?_
  split
  · trivial
  refine charging_idle (Prog.Issues.perform (by trivial) _) fun owner new => ?_
  refine charging_idle (acquireLock_idle _ _ _ _) fun _ new => ?_
  exact ensuring_charges (Prog.Issues.perform (by trivial) _) performAction_charges

theorem place_charges {userId instanceId id : String} {slot : Nat} {target : Place} :
    Charging matchId q h (place matchId userId round instanceId target slot id) := by
  refine charging_idle (Prog.Issues.perform (by trivial) _) fun owner new => ?_
  refine charging_idle (acquireLock_idle _ _ _ _) fun _ new => ?_
  exact ensuring_charges (Prog.Issues.perform (by trivial) _) placeLocked_charges

/-! ## Every request -/

theorem handleAction_charges {userId : String} {action : RuntimeAction} :
    Charging matchId (.action userId round action) [] (handleAction matchId host userId round action) := by
  cases action with
  | shop action id =>
    exact charging_idle (resolveMatch_idle _) fun _ _ => Prog.Obeys.andThen withAction_charges
      (fun _ _ => trivial) fun _ _ => trivial
  | place unitInstanceId target slot id =>
    exact charging_idle (resolveMatch_idle _) fun _ _ => Prog.Obeys.andThen place_charges
      (fun _ _ => trivial) fun _ _ => trivial
  | ready ready id =>
    exact charging_idle (resolveMatch_idle _) fun _ _ => Prog.Obeys.andThen markReadyAction_charges
      (fun _ _ => trivial) fun _ _ => trivial
  | combatDone => exact Prog.Obeys.andThen handleCombatDone_charges (fun _ _ => trivial) fun _ _ => trivial
  | roundReady => exact charging_of_harmless ((markRoundReady_harmless rfl _ _).bind fun _ => trivial)
  | surrender => exact Prog.Obeys.andThen (surrender_charges rfl _ _) (fun _ _ => trivial) fun _ _ => trivial

/-- **Every request says and stores the damage its own calls say.** -/
theorem program_charges (q : Request) : Charging matchId q [] (program matchId host q) := by
  cases q with
  | announce m names => exact charging_of_harmless (announceMatch_harmless m names)
  | action userId round action => exact handleAction_charges
  | markReady userId round => exact Prog.Obeys.andThen markReady_charges (fun _ _ => trivial) fun _ _ => trivial
  | phaseTimer round => exact Prog.Obeys.andThen tryStartCombat_charges (fun _ _ => trivial) fun _ _ => trivial
  | combatDoneTimeout round =>
    exact Prog.Obeys.andThen applyDamageAndAdvance_charges (fun _ _ => trivial) fun _ _ => trivial
  | roundReadyTimeout round =>
    exact charging_of_harmless ((advanceResolvedRound_harmless rfl _).bind fun _ => trivial)
  | userDisconnect userId =>
    exact Prog.Obeys.andThen (handleUserDisconnect_charges rfl _) (fun _ _ => trivial) fun _ _ => trivial
  | disconnectJob userId =>
    exact Prog.Obeys.andThen (handleDisconnect_charges rfl _) (fun _ _ => trivial) fun _ _ => trivial

end

/-- A run whose calls also keep to what they charge. -/
abbrev ChargeRun (matchId : String) (host : Host) (init : Store) (log : List RuntimeEvent) (s : Store) : Prop :=
  Chronicle (pool matchId host)
    (fun q h c => (Guard matchId q h c ∧ Deeds matchId host q h c) ∧ Charges matchId q h c) init log s

section
variable {matchId : String} {host : Host} {init s : Store} {log : List RuntimeEvent}

theorem run_charges (init : Store) (moves : List (Move Request Nat)) : ChargeRun matchId host init
    ((pool matchId host).run ⟨init, [], []⟩ moves).log ((pool matchId host).run ⟨init, [], []⟩ moves).store :=
  Pool.run_chronicle (fun q => ((program_guarded q).guards (program_deeds q)).guards (program_charges q)) moves

theorem ChargeRun.deeds (h : ChargeRun matchId host init log s) : DeedRun matchId host init log s :=
  h.weaken fun _ _ _ => And.left

theorem ChargeRun.run (h : ChargeRun matchId host init log s) : Run matchId host init log s :=
  h.weaken fun _ _ _ hg => hg.1.1

end

end AutoChess.Runtime
