/-
The bridge that fans a match's publications out to the sockets of one
replica, and what it lets a player see. Publications that differ only in what
is private to somebody else look the same to a player (`SameFor.indistinct`),
and outside battles every publisher of the match produces such publications
when the other player holds other units (`Twins`).
-/
import AutoChess.Runtime.Alone

namespace AutoChess.Runtime

open AutoChess.Game AutoChess.Shop Calls Expiring

/-! ## Delivery -/

/-- One replica's view of a match: the live sockets of every user, and the
sockets subscribed to the match with the user each was subscribed for. -/
structure Bridge where
  localUserSockets : String → List String := fun _ => []
  localSubscribers : List (String × Option String) := []

/-- `Map.set`. -/
def Bridge.subscribe (bridge : Bridge) (socketId : String) (userId : Option String) : Bridge :=
  { bridge with localSubscribers :=
      if bridge.localSubscribers.any (·.1 = socketId) then
        bridge.localSubscribers.map fun entry => if entry.1 = socketId then (socketId, userId) else entry
      else bridge.localSubscribers ++ [(socketId, userId)] }

def playerIdsFromPhase : Payload → List String
  | .phase payload => payload.players.map (·.id)
  | _ => []

/-- A phase event subscribes the live sockets of the players it names. -/
def Bridge.register (bridge : Bridge) (payload : Payload) : Bridge :=
  (playerIdsFromPhase payload).foldl (fun bridge userId =>
    (bridge.localUserSockets userId).foldl (fun bridge socketId =>
      bridge.subscribe socketId (some userId)) bridge) bridge

/-- Whether a publication goes to a socket subscribed for `userId`. An empty
target is falsy: everybody's. -/
def addressed (targetUserId userId : Option String) : Bool :=
  match targetUserId with
  | none => true
  | some target => target == "" || userId == some target

/-- A payload emitted to a socket, with the user the socket is subscribed for. -/
structure Emission where
  socketId : String
  userId : Option String
  payload : Payload
  deriving DecidableEq

def Bridge.handleMessage (bridge : Bridge) (publication : Publication) : List Emission × Bridge :=
  let registered := bridge.register publication.payload
  (((registered.localSubscribers.filter fun entry => addressed publication.targetUserId entry.2).map
    fun entry => ⟨entry.1, entry.2, publication.payload⟩), registered)

/-- The publications handled in turn: what is emitted, and the bridge left. -/
def Bridge.deliver (bridge : Bridge) : List Publication → List Emission × Bridge
  | [] => ([], bridge)
  | publication :: rest =>
    let handled := bridge.handleMessage publication
    let delivered := handled.2.deliver rest
    (handled.1 ++ delivered.1, delivered.2)

/-- What the sockets of one user get. -/
def Bridge.delivered (bridge : Bridge) (userId : String) (publications : List Publication) :
    List Emission :=
  (bridge.deliver publications).1.filter (·.userId = some userId)

/-- Whoever is subscribed, a user's sockets get the same of both, and so does
whoever is subscribed afterwards. -/
def Indistinct (userId : String) (publications publications' : List Publication) : Prop :=
  ∀ bridge : Bridge, bridge.delivered userId publications' = bridge.delivered userId publications ∧
    (bridge.deliver publications').2 = (bridge.deliver publications).2

/-- What a program publishes when it runs, oldest first. -/
def sent {α : Type} (host : Host) (p : M α) (s : Store) : List Publication :=
  ((p.alone (act host) { s with published := [] }).2.published).reverse

/-! ## Publications that look the same -/

/-- Two publications that differ, if at all, in a payload private to somebody
other than `userId`. -/
structure SameFor (userId : String) (publication publication' : Publication) : Prop where
  target : publication'.targetUserId = publication.targetUserId
  players : playerIdsFromPhase publication'.payload = playerIdsFromPhase publication.payload
  payload : publication'.payload = publication.payload ∨
    ∃ target, publication.targetUserId = some target ∧ target ≠ "" ∧ target ≠ userId

theorem SameFor.refl (userId : String) (publication : Publication) :
    SameFor userId publication publication := ⟨rfl, rfl, .inl rfl⟩

section
variable {userId : String} {publication publication' : Publication} {publications publications' : List Publication}

theorem SameFor.registered (h : SameFor userId publication publication') (bridge : Bridge) :
    (bridge.handleMessage publication').2 = (bridge.handleMessage publication).2 := by
  simp only [Bridge.handleMessage, Bridge.register, h.players]

theorem SameFor.emitted (h : SameFor userId publication publication') (bridge : Bridge) :
    (bridge.handleMessage publication').1.filter (·.userId = some userId) =
      (bridge.handleMessage publication).1.filter (·.userId = some userId) := by
  have hregistered : bridge.register publication'.payload = bridge.register publication.payload :=
    h.registered bridge
  simp only [Bridge.handleMessage, hregistered, h.target]
  rcases h.payload with hpayload | ⟨target, htarget, hsome, hother⟩
  · rw [hpayload]
  -- A private publication reaches no socket of the user.
  · have hnone : ∀ payload, (((bridge.register publication.payload).localSubscribers.filter fun entry =>
        addressed publication.targetUserId entry.2).map fun entry =>
          (⟨entry.1, entry.2, payload⟩ : Emission)).filter (·.userId = some userId) = [] := by
      intro payload
      simp only [List.filter_eq_nil_iff, List.mem_map, List.mem_filter, decide_eq_true_eq]
      rintro _ ⟨entry, ⟨-, haddressed⟩, rfl⟩ hentry
      simp only [addressed, htarget, Bool.or_eq_true, beq_iff_eq] at haddressed
      rcases haddressed with h | h
      · exact hsome h
      · exact hother (Option.some.inj (h.symm.trans hentry))
    rw [hnone, hnone]

/-- **What is private to others does not show**, whoever is subscribed. -/
theorem SameFor.indistinct (h : List.Forall₂ (SameFor userId) publications publications') :
    Indistinct userId publications publications' := by
  intro bridge
  induction h generalizing bridge with
  | nil => exact ⟨rfl, rfl⟩
  | cons hsame _ ih =>
    obtain ⟨hrest, hleft⟩ := ih (bridge.handleMessage _).2
    simp only [Bridge.delivered, Bridge.deliver, List.filter_append, hsame.registered, hsame.emitted] at hrest ⊢
    exact ⟨congrArg _ hrest, hleft⟩

end

/-! ## Matches that differ in one player's units -/

def RuntimePlayerState.withUnits (state : RuntimePlayerState) (board bench : Slots) : RuntimePlayerState :=
  { state with board := board, bench := bench }

def MatchRuntimeState.withUnits (runtime : MatchRuntimeState) (side : Side) (board bench : Slots) :
    MatchRuntimeState :=
  match side with
  | .p1 => { runtime with p1State := runtime.p1State.withUnits board bench }
  | .p2 => { runtime with p2State := runtime.p2State.withUnits board bench }

def RuntimeHash.withUnits (hash : RuntimeHash) (side : Side) (board bench : Slots) : RuntimeHash :=
  match side with
  | .p1 => { hash with p1State := hash.p1State.withUnits board bench }
  | .p2 => { hash with p2State := hash.p2State.withUnits board bench }

def RuntimeHash.player (hash : RuntimeHash) : Side → String
  | .p1 => hash.player1Id
  | .p2 => hash.player2Id

theorem hset_player (b : RuntimeHash) (fields : List FieldWrite) (side : Side) :
    (b.hset fields).player side = b.player side := by
  induction fields generalizing b with
  | nil => rfl
  | cons f fields ih =>
    refine (ih (b.write f)).trans ?_
    cases f <;> cases side <;> rfl

/-- Two runtimes outside battles that differ in what one player has on board
and bench. -/
structure Twins (side : Side) (runtime runtime' : MatchRuntimeState) : Prop where
  planning : runtime.phase ≠ .battle
  units : ∃ board bench, runtime' = runtime.withUnits side board bench

/-- The state a publisher shows for the changed side, in two such matches. -/
def TwinStates (side changed : Side) (state state' : RuntimePlayerState) : Prop :=
  if changed = side then ∃ board bench, state' = state.withUnits board bench else state' = state

/-- The states of both sides as a publisher shows them. -/
def shownState (runtime : MatchRuntimeState) (changed : Side) (state : RuntimePlayerState) (side : Side) :
    RuntimePlayerState :=
  if side = changed then state else sideState runtime side

section
variable {host : Host} {side changed : Side} {runtime runtime' : MatchRuntimeState}
  {state state' : RuntimePlayerState} {userId : String} {s s' : Store}

theorem Twins.ids (h : Twins side runtime runtime') (side' : Side) :
    playerId runtime' side' = playerId runtime side' := by
  obtain ⟨board, bench, rfl⟩ := h.units
  cases side <;> cases side' <;> rfl

/-- The other player's units are not in a roster. -/
theorem Twins.statePayload (h : Twins side runtime runtime') {own other other' : RuntimePlayerState}
    (viewer : Side) (hother : ∃ board bench, other' = other.withUnits board bench) :
    matchStatePayload runtime' viewer own other' (readyCount runtime') =
      matchStatePayload runtime viewer own other (readyCount runtime) := by
  obtain ⟨board, bench, rfl⟩ := h.units
  obtain ⟨board', bench', rfl⟩ := hother
  have hphase : (runtime.withUnits side board bench).phase = runtime.phase := by cases side <;> rfl
  simp only [matchStatePayload, hphase, if_neg h.planning]
  cases side <;> cases viewer <;> rfl

theorem Twins.states (h : Twins side runtime runtime') (hstate : TwinStates side changed state state')
    (side' : Side) : TwinStates side side' (shownState runtime changed state side')
      (shownState runtime' changed state' side') := by
  obtain ⟨board, bench, rfl⟩ := h.units
  unfold TwinStates at hstate ⊢
  unfold shownState
  cases side <;> cases changed <;> cases side' <;>
    first | exact hstate | exact ⟨board, bench, rfl⟩ | rfl

theorem sent_publishState : sent host (publishState runtime changed state) s =
    [⟨some runtime.player1Id, .state (matchStatePayload runtime .p1 (shownState runtime changed state .p1)
        (shownState runtime changed state .p2) (readyCount runtime))⟩,
      ⟨some runtime.player2Id, .state (matchStatePayload runtime .p2 (shownState runtime changed state .p2)
        (shownState runtime changed state .p1) (readyCount runtime))⟩] := by
  cases changed <;> rfl

/-- **The rosters of a match tell a player nothing of the other's units.** -/
theorem Twins.publishState (h : Twins side runtime runtime') (hstate : TwinStates side changed state state')
    (hnamed : playerId runtime side ≠ "") (hother : playerId runtime side ≠ userId) :
    Indistinct userId (sent host (publishState runtime changed state) s)
      (sent host (publishState runtime' changed state') s') := by
  refine SameFor.indistinct ?_
  have h1 := h.states hstate .p1
  have h2 := h.states hstate .p2
  rw [sent_publishState, sent_publishState]
  cases side with
  | p1 =>
    refine .cons ⟨congrArg some (h.ids .p1), rfl, .inr ⟨_, rfl, hnamed, hother⟩⟩
      (.cons ⟨congrArg some (h.ids .p2), rfl, .inl ?_⟩ .nil)
    have h2 : shownState runtime' changed state' .p2 = shownState runtime changed state .p2 := h2
    rw [h2]
    exact congrArg Payload.state (h.statePayload .p2 h1)
  | p2 =>
    refine .cons ⟨congrArg some (h.ids .p1), rfl, .inl ?_⟩
      (.cons ⟨congrArg some (h.ids .p2), rfl, .inr ⟨_, rfl, hnamed, hother⟩⟩ .nil)
    have h1 : shownState runtime' changed state' .p1 = shownState runtime changed state .p1 := h1
    rw [h1]
    exact congrArg Payload.state (h.statePayload .p1 h2)

theorem Twins.phasePayload (h : Twins side runtime runtime') (timer : Nat) :
    phasePayload runtime' timer = phasePayload runtime timer := by
  obtain ⟨board, bench, rfl⟩ := h.units
  cases side <;> rfl

theorem Twins.publishPhase (h : Twins side runtime runtime') (timer : Nat) :
    Indistinct userId (sent host (publish (.phase (Runtime.phasePayload runtime timer))) s)
      (sent host (publish (.phase (Runtime.phasePayload runtime' timer))) s') := by
  rw [h.phasePayload]
  exact SameFor.indistinct (.cons (.refl _ _) .nil)

/-- Offers go to their player only. -/
theorem Twins.publishOffers (h : Twins side runtime runtime') {buyer : String}
    {offers offers' : List (Option ShopOffer)} (hoffers : buyer ≠ playerId runtime side → offers' = offers)
    (hnamed : playerId runtime side ≠ "") (hother : playerId runtime side ≠ userId) :
    Indistinct userId (sent host (publishOffers runtime buyer offers) s)
      (sent host (publishOffers runtime' buyer offers') s') := by
  obtain ⟨board, bench, rfl⟩ := h.units
  have hat : (runtime.withUnits side board bench).matchId = runtime.matchId ∧
      (runtime.withUnits side board bench).round = runtime.round := by cases side <;> exact ⟨rfl, rfl⟩
  refine SameFor.indistinct (.cons ⟨rfl, rfl, ?_⟩ .nil)
  by_cases hbuyer : buyer = playerId runtime side
  · exact .inr ⟨buyer, rfl, hbuyer ▸ hnamed, hbuyer ▸ hother⟩
  · refine .inl ?_
    rw [hoffers hbuyer]
    show Payload.offers _ _ offers = .offers _ _ offers
    rw [hat.1, hat.2]

/-- The shop is reset alike. -/
theorem Twins.resetShop (h : Twins side runtime runtime') (buyer : String) :
    sent host (resetShop host runtime' buyer) s' = sent host (resetShop host runtime buyer) s := by
  obtain ⟨board, bench, rfl⟩ := h.units
  cases side <;> rfl

end

/-! ## Players who come back -/

/-- The payload for a reconnecting player. -/
def statePayloadForUser (matchId userId : String) : M StatePayload := do
  let runtime ← getRuntime matchId
  let side ← sideFor runtime userId
  return matchStatePayload runtime side (sideState runtime side) (sideState runtime (enemySideOf side))
    (readyCount runtime)

/-- The runtime a read finds, its names looked up. -/
def foundRuntime (matchId : String) (s : Store) : Option MatchRuntimeState :=
  (parseRuntimeHash matchId s.hash).map fun runtime =>
    if s.hash.player1Name == "" || s.hash.player2Name == "" then
      let names := usernames s.users runtime.player1Id runtime.player2Id
      { runtime with player1Name := names.player1Name, player2Name := names.player2Name }
    else runtime

/-- What a player is returned when a read finds this. -/
def payloadFrom (matchId userId : String) : Option MatchRuntimeState → Except Err StatePayload
  | none => .error (.reject ⟨"match.runtime_not_found", s!"Runtime for match {matchId} was not found"⟩)
  | some runtime =>
    if runtime.player1Id = userId then
      .ok (matchStatePayload runtime .p1 runtime.p1State runtime.p2State (readyCount runtime))
    else if runtime.player2Id = userId then
      .ok (matchStatePayload runtime .p2 runtime.p2State runtime.p1State (readyCount runtime))
    else .error (.reject ⟨"match.not_your_match", "User is not a participant in this match"⟩)

section
variable {matchId : String} {host : Host} {side : Side} {runtime runtime' : MatchRuntimeState}
  {userId : String} {s s' : Store} {board bench : Slots}

theorem parse_withUnits (hash : RuntimeHash) : parseRuntimeHash matchId (hash.withUnits side board bench) =
    (parseRuntimeHash matchId hash).map fun runtime =>
      runtime.withUnits side (normalizeSlots board 9) (normalizeSlots bench 8) := by
  cases side <;> cases hphase : hash.phase <;> cases hround : positiveInt hash.round <;>
    simp [parseRuntimeHash, RuntimeHash.withUnits, MatchRuntimeState.withUnits, RuntimePlayerState.withUnits,
      normalizePlayerState, hphase, hround]

theorem foundRuntime_withUnits (hhash : s'.hash = s.hash.withUnits side board bench) (husers : s'.users = s.users) :
    foundRuntime matchId s' = (foundRuntime matchId s).map fun runtime =>
      runtime.withUnits side (normalizeSlots board 9) (normalizeSlots bench 8) := by
  have hnames : s'.hash.player1Name = s.hash.player1Name ∧ s'.hash.player2Name = s.hash.player2Name := by
    rw [hhash]
    cases side <;> exact ⟨rfl, rfl⟩
  unfold foundRuntime
  rw [hhash, parse_withUnits, ← hhash, hnames.1, hnames.2, husers, Option.map_map, Option.map_map]
  congr 1
  funext runtime
  simp only [Function.comp]
  split <;> cases side <;> rfl

theorem findRuntime_found : (findRuntime matchId).wp (act host)
    (fun o _ => o = .ok (foundRuntime matchId s)) s := by
  unfold foundRuntime
  cases hparse : parseRuntimeHash matchId s.hash with
  | none => exact findRuntime_wp_none hparse rfl
  | some runtime =>
    refine wp_call.2 ?_
    rw [hgetall_reply, hparse]
    show Prog.wp (act host) _ (if (s.hash.player1Name == "" || s.hash.player2Name == "") then _ else _) s
    rw [Option.map_some]
    split <;> exact rfl

theorem statePayloadForUser_reply : ((statePayloadForUser matchId userId).alone (act host) s).1 =
    payloadFrom matchId userId (foundRuntime matchId s) := by
  refine (@Prog.wp_iff _ _ _ _ _ (act host) (fun o _ => o = payloadFrom matchId userId (foundRuntime matchId s))
    (statePayloadForUser matchId userId) s).1 ?_
  refine Prog.wp_bind.2 (Prog.wp_bind.2 (Prog.wp_mono findRuntime_found fun o s' ho => ?_))
  rw [ho]
  rcases foundRuntime matchId s with _ | runtime
  · rfl
  · show Prog.wp (act host) _ ((sideFor runtime userId).bind _) s'
    simp only [sideFor, payloadFrom]
    by_cases h1 : runtime.player1Id = userId
    · rw [if_pos h1, if_pos h1]
      exact rfl
    · rw [if_neg h1, if_neg h1]
      by_cases h2 : runtime.player2Id = userId
      · rw [if_pos h2, if_pos h2]
        exact rfl
      · rw [if_neg h2, if_neg h2]
        exact rfl

theorem Twins.payloadFrom (h : Twins side runtime runtime') (hother : playerId runtime side ≠ userId) :
    payloadFrom matchId userId (some runtime') = payloadFrom matchId userId (some runtime) := by
  have h1 := h.ids .p1
  have h2 := h.ids .p2
  have hunits := h.units
  simp only [playerId] at h1 h2
  simp only [Runtime.payloadFrom, h1, h2]
  obtain ⟨board, bench, rfl⟩ := hunits
  cases side with
  | p1 =>
    have hother : runtime.player1Id ≠ userId := hother
    have hpayload : matchStatePayload _ .p2 _ (runtime.withUnits .p1 board bench).p1State _ = _ :=
      @Twins.statePayload _ _ _ h runtime.p2State runtime.p1State _ .p2 ⟨board, bench, rfl⟩
    rw [if_neg hother, if_neg hother, ← hpayload]
    rfl
  | p2 =>
    have hother : runtime.player2Id ≠ userId := hother
    have hpayload : matchStatePayload _ .p1 _ (runtime.withUnits .p2 board bench).p2State _ = _ :=
      @Twins.statePayload _ _ _ h runtime.p1State runtime.p2State _ .p1 ⟨board, bench, rfl⟩
    rw [if_neg hother, if_neg hother, ← hpayload]
    rfl

theorem ReadAs.ids {hash : RuntimeHash} (h : ReadAs matchId hash runtime) (side : Side) :
    playerId runtime side = hash.player side := by
  obtain ⟨a, b, h⟩ := h
  obtain ⟨h1, h2⟩ := parse_ids h
  cases side <;> assumption

theorem foundRuntime_reads (hfound : foundRuntime matchId s = some runtime) : ReadAs matchId s.hash runtime := by
  unfold foundRuntime at hfound
  rw [Option.map_eq_some_iff] at hfound
  obtain ⟨parsed, hparse, rfl⟩ := hfound
  refine ⟨parsed.player1Name, parsed.player2Name, ?_⟩
  rw [hparse]
  split <;> rfl

/-- **A player who comes back is told nothing of the other's units.** -/
theorem statePayloadForUser_withUnits (hplanning : s.hash.phase ≠ some .battle)
    (hhash : s'.hash = s.hash.withUnits side board bench) (husers : s'.users = s.users)
    (hother : s.hash.player side ≠ userId) : ((statePayloadForUser matchId userId).alone (act host) s').1 =
      ((statePayloadForUser matchId userId).alone (act host) s).1 := by
  rw [statePayloadForUser_reply, statePayloadForUser_reply, foundRuntime_withUnits hhash husers]
  cases hfound : foundRuntime matchId s with
  | none => rfl
  | some runtime =>
    have hread := foundRuntime_reads hfound
    have htwins : Twins side runtime (runtime.withUnits side (normalizeSlots board 9) (normalizeSlots bench 8)) :=
      ⟨fun h => hplanning (h ▸ hread.fields.1), _, _, rfl⟩
    exact htwins.payloadFrom (hread.ids side ▸ hother)

end

end AutoChess.Runtime
