/-
Programs of the runtime, part two: the match runtime adapter. Every client
action, timer and disconnect is one program; a program that wins a phase
transition carries on with what the transition starts.
-/
import AutoChess.Shop.Service

namespace AutoChess.Runtime

open AutoChess.Game AutoChess.Shop Calls

/-- A client's message, as the gateway dispatches it. `fuse`, `buy`, `sell`
and `refresh` are the shop's. -/
inductive RuntimeAction where
  | shop (action : ShopAction) (clientActionId : String)
  | place (unitInstanceId : String) (target : Place) (slot : Nat) (clientActionId : String)
  | ready (ready : Option Bool) (clientActionId : String)
  | combatDone
  | roundReady
  | surrender
  deriving DecidableEq, Repr

variable (matchId : String) (host : Host)

/-! ## Actions of the planning phase -/

def requireActionPhase (round : Nat) (phase : MatchPhase) : M MatchRuntimeState := do
  let runtime ← getRuntime matchId
  if runtime.round ≠ round then
    fail "match.round_mismatch" s!"Expected round {runtime.round}, received {round}"
  else if runtime.phase ≠ phase then
    fail "match.not_your_turn"
      s!"Action requires {phase.text}; current phase is {runtime.phase.text}"
  else
    return runtime

/-- `action_log.lua` without a shop; false for a duplicate. -/
def commitRuntimeAction (runtime : MatchRuntimeState) (userId : String) (field : FieldWrite)
    (clientActionId : String) (expectedPhase : MatchPhase) : M Bool := do
  match ← call (.actionLog userId clientActionId field none expectedPhase runtime.round) with
  | .roundMismatch =>
    fail "match.round_mismatch" "The match advanced before this action committed"
  | .phaseMismatch =>
    fail "match.not_your_turn" s!"The {expectedPhase.text} phase ended before this action committed"
  | .duplicate => return false
  | .recorded => return true

def actionBusy : Rejection :=
  ⟨"match.action_busy", "Another roster action is still being processed"⟩

/-- The body of `place`, under the player's lock; true for a duplicate. -/
def placeLocked (userId : String) (round : Nat) (unitInstanceId : String) (target : Place)
    (slot : Nat) (clientActionId : String) : M Bool := do
  let logged ← call (.hexistsActionLog userId clientActionId)
  if logged then
    return true
  else
    let runtime ← requireActionPhase matchId round .shop_place
    let side ← sideFor runtime userId
    let state ← orReject (placeUnit (sideState runtime side) unitInstanceId target slot)
    let stored ← commitRuntimeAction runtime userId (stateField side state) clientActionId .shop_place
    if !stored then
      return true
    else
      call (.updateState side state)
      publishState runtime side state
      return false

def place (userId : String) (round : Nat) (unitInstanceId : String) (target : Place) (slot : Nat)
    (clientActionId : String) : M Bool := do
  let owner ← call .randomUUID
  acquireLock (.shop userId) owner actionBusy ACTION_LOCK_ATTEMPTS
  (placeLocked matchId userId round unitInstanceId target slot clientActionId).ensuring
    (call (.releaseOwnedLock (.shop userId) owner))

/-- Publishes the damage the battle will do, as soon as it is simulated. -/
def publishDamagePreview (runtime : MatchRuntimeState) (round : Nat) : M Unit := do
  match ← call .getCombatResult with
  | none => return ()
  | some events =>
    match resolveRound runtime round events with
    | none => Prog.throw (.internal "combat.internal: battle_end event missing or invalid")
    | some resolution => publish (.damage resolution.damagePayload)

/-- CAS shop_place → battle; only the winner runs the combat. -/
def tryStartCombat (round : Nat) : M Bool := do
  match ← findRuntime matchId with
  | none => return false
  | some runtime =>
    if runtime.phase ≠ .shop_place ∨ runtime.round ≠ round then
      return false
    else
      let flipped ← call (.phaseFlip .shop_place .battle round none)
      if !flipped then
        return false
      else
        let started := { runtime with phase := MatchPhase.battle }
        publish (.phase (phasePayload started 0))
        publishState started .p1 started.p1State
        let ran ← runCombat matchId host round
        if ran then
          publishDamagePreview started round
          return true
        else
          return false

/-- The older entry point: the flag is stored by a plain `HSET`. -/
def markReady (userId : String) (round : Nat) : M Nat := do
  let runtime ← requireActionPhase matchId round .shop_place
  let side ← sideFor runtime userId
  call (.hset [readyField side true])
  let updated ← getRuntime matchId
  if readyCount updated = 2 then
    let _ ← tryStartCombat matchId host round
    return readyCount updated
  else
    return readyCount updated

def markReadyAction (userId : String) (round : Nat) (ready : Bool) (clientActionId : String) :
    M Nat := do
  let runtime ← requireActionPhase matchId round .shop_place
  let side ← sideFor runtime userId
  let stored ← commitRuntimeAction runtime userId (readyField side ready) clientActionId .shop_place
  let updated ← getRuntime matchId
  if stored then
    publishState updated side (sideState updated side)
    if readyCount updated = 2 then
      let _ ← tryStartCombat matchId host round
      return readyCount updated
    else
      return readyCount updated
  else
    return readyCount updated

/-! ## The end of a match -/

def finalPlayerState (state : RuntimePlayerState) : Int × Int := (state.hp, state.gold)

/-- `MatchService.finalize`. -/
def finalize (winnerId : Option String) (reason : MatchEndReason) : M Bool := do
  match ← call (.finalizeRow winnerId reason) with
  | .invalidWinner => fail "match.invalid_winner" "winnerId must be one of the match participants"
  | .playerNotFound =>
    fail "match.player_not_found" "One or more match participants no longer exist"
  | .notInProgress terminal =>
    if terminal then
      call (.schedule .matchCleanup 30000)
      return false
    else
      return false
  | .finalized row rating =>
    call (.schedule .matchCleanup 30000)
    call (.invalidateUsers [row.player1Id, row.player2Id])
    call .bumpVersion
    publish (.matchEnd row.id row.winnerId reason (finalPlayerState row.p1State)
      (finalPlayerState row.p2State) rating)
    return true

def forfeitDisconnectedPlayer (userId : String) : M Bool := do
  let row ← call .findMatch
  if row.status ≠ .in_progress then
    return false
  else if userId ≠ row.player1Id ∧ userId ≠ row.player2Id then
    return false
  else
    finalize (some (if userId = row.player1Id then row.player2Id else row.player1Id)) .disconnect

def surrender (userId : String) (round : Nat) : M Bool := do
  let runtime ← getRuntime matchId
  if runtime.round ≠ round ∨ runtime.phase = .finished then
    return false
  else
    let side ← sideFor runtime userId
    let flipped ← call (.phaseFlip runtime.phase .finished round none)
    if !flipped then
      return false
    else
      finalize (some (match side with | .p1 => runtime.player2Id | .p2 => runtime.player1Id))
        .forfeit

/-- The worker's `handleDisconnect(matchId, userId)`. -/
def handleDisconnect (userId : String) : M Bool := do
  match ← findRuntime matchId with
  | none => forfeitDisconnectedPlayer userId
  | some runtime =>
    let _ ← sideFor runtime userId
    if runtime.phase = .finished then
      return false
    else
      let flipped ← call (.phaseFlip runtime.phase .finished runtime.round none)
      if !flipped then
        return false
      else
        forfeitDisconnectedPlayer userId

/-- The gateway's `handleDisconnect(userId)`. -/
def handleUserDisconnect (userId : String) : M Bool := do
  match ← call (.findActiveByUserId userId) with
  | none => return false
  | some _ => handleDisconnect matchId userId

/-! ## The end of a round -/

/-- The fields a surviving round stores. -/
def resultFields (round : Nat) (damage : Damage) (p1 p2 : RuntimePlayerState) : List FieldWrite :=
  [.p1State p1, .p2State p2, .readyP1 false, .readyP2 false,
   .wipeIndexP1 damage.wipeIndexP1, .wipeIndexP2 damage.wipeIndexP2, .combatRound none,
   .scoutRound (some round), .scoutP1Board (summarizeBoard p1.board),
   .scoutP2Board (summarizeBoard p2.board)]

/-- The fields a knockout stores. -/
def knockoutFields (damage : Damage) (p1 p2 : RuntimePlayerState) : List FieldWrite :=
  [.phase .finished, .p1State p1, .p2State p2, .wipeIndexP1 damage.wipeIndexP1,
   .wipeIndexP2 damage.wipeIndexP2]

/-- What `applyDamageAndAdvance` does once it has won the transition: a
knockout ends the match, else the result is stored and announced. -/
def storeResolution (runtime : MatchRuntimeState) (round : Nat) (resolution : Resolution) :
    M Bool := do
  let damage := resolution.damage
  match resolution.winnerId with
  | some winnerId =>
    call (.updateRuntimeSnapshot resolution.p1 resolution.p2 damage.wipeIndexP1 damage.wipeIndexP2)
    call (.hset (knockoutFields damage resolution.p1 resolution.p2))
    publish (.damage resolution.damagePayload)
    let _ ← finalize winnerId .hp_zero
    return true
  | none =>
    let p1 := rewarded resolution.p1
    let p2 := rewarded resolution.p2
    call (.updateRuntimeSnapshot p1 p2 damage.wipeIndexP1 damage.wipeIndexP2)
    call (.hset (resultFields round damage p1 p2))
    let resolved := { runtime with
      phase := MatchPhase.resolved, p1State := p1, p2State := p2, readyP1 := false, readyP2 := false
      wipeIndexP1 := damage.wipeIndexP1, wipeIndexP2 := damage.wipeIndexP2, combatRound := none
      scoutRound := some round, scoutP1Board := summarizeBoard p1.board
      scoutP2Board := summarizeBoard p2.board }
    call (.expireRuntime RUNTIME_TTL_SECONDS)
    publish (.damage resolution.damagePayload)
    publish (.phase (phasePayload resolved 0))
    publishState resolved .p1 resolved.p1State
    return true

/-- Shared by the second ack and the playback timeout. -/
def applyDamageAndAdvance (round : Nat) : M Bool := do
  match ← findRuntime matchId with
  | none => return false
  | some runtime =>
    if runtime.phase ≠ .battle ∨ runtime.round ≠ round ∨ runtime.combatRound ≠ some round then
      return false
    else
      match ← call .getCombatResult with
      | none => return false
      | some events =>
        match resolveRound runtime round events with
        | none => Prog.throw (.internal "combat.internal: battle_end event missing or invalid")
        | some resolution =>
          let flipped ← call (.phaseFlip .battle .resolved round none)
          if !flipped then
            return false
          else
            storeResolution runtime round resolution

/-- A repeated ack counts once; the second player's ack resolves the round. -/
def handleCombatDone (userId : String) (round : Nat) : M Nat := do
  let runtime ← requireActionPhase matchId round .battle
  let _ ← sideFor runtime userId
  let count ← call (.combatDone userId)
  if count ≥ 2 then
    let _ ← applyDamageAndAdvance matchId round
    return count
  else
    return count

/-- The fields a new planning phase resets. -/
def resetFields : List FieldWrite := [.readyP1 false, .readyP2 false, .combatRound none]

/-- CAS resolved → shop_place of the next round. -/
def advanceResolvedRound (round : Nat) : M Bool := do
  match ← findRuntime matchId with
  | none => return false
  | some runtime =>
    if runtime.phase ≠ .resolved ∨ runtime.round ≠ round then
      return false
    else
      let flipped ← call (.phaseFlip .resolved .shop_place round (some (round + 1)))
      if !flipped then
        return false
      else
        call (.hset resetFields)
        let next := { runtime with
          phase := MatchPhase.shop_place, round := round + 1, readyP1 := false, readyP2 := false
          combatRound := none }
        call (.expireRuntime RUNTIME_TTL_SECONDS)
        call (.schedule (.phaseStart (round + 1)) SHOP_PHASE_MS)
        publish (.phase (phasePayload next SHOP_PHASE_SECONDS))
        publishState next .p1 next.p1State
        rollOffersForMatch host next
        return true

/-- The summary ack: both players advance at once, the first starts the
three-second grace timer. -/
def markRoundReady (userId : String) (round : Nat) : M Nat := do
  let runtime ← requireActionPhase matchId round .resolved
  let side ← sideFor runtime userId
  if sideReady runtime side then
    return readyCount runtime
  else
    call (.hset [readyField side true])
    let updated ← getRuntime matchId
    if readyCount updated ≥ 2 then
      let _ ← advanceResolvedRound matchId host round
      return readyCount updated
    else
      call (.schedule (.roundReadyTimeout round) ROUND_READY_GRACE_MS)
      publish (.phase (phasePayload updated ROUND_READY_GRACE_SECONDS))
      return readyCount updated

/-! ## Entry points -/

/-- `initializeMatch` after its first `HSET`. -/
def announceMatch (m : Match) (names : PlayerNames) : M Unit := do
  call (.expireRuntime RUNTIME_TTL_SECONDS)
  call (.schedule (.phaseStart 1) SHOP_PHASE_MS)
  let runtime : MatchRuntimeState :=
    { matchId := m.id, player1Id := m.player1Id, player2Id := m.player2Id
      player1Name := names.player1Name, player2Name := names.player2Name
      matchSeed := m.matchSeed, phase := .shop_place, round := 1
      p1State := { m.p1State with ready := false }, p2State := { m.p2State with ready := false }
      readyP1 := false, readyP2 := false
      wipeIndexP1 := m.wipeIndexP1, wipeIndexP2 := m.wipeIndexP2, combatRound := none
      scoutRound := none, scoutP1Board := emptyBoardSummary, scoutP2Board := emptyBoardSummary }
  publish (.phase (phasePayload runtime SHOP_PHASE_SECONDS))
  publishState runtime .p1 runtime.p1State
  rollOffersForMatch host runtime

/-- Actions that name no match go to the caller's active one. -/
def resolveMatch (userId : String) : M Unit := do
  match ← call (.findActiveByUserId userId) with
  | none => fail "match.not_found" "No active match was found for this player"
  | some _ => return ()

def handleAction (userId : String) (round : Nat) : RuntimeAction → M Unit
  | .shop action clientActionId => do
    resolveMatch userId
    let _ ← withAction matchId host userId round clientActionId action
  | .place unitInstanceId target slot clientActionId => do
    resolveMatch userId
    let _ ← place matchId userId round unitInstanceId target slot clientActionId
  | .ready ready clientActionId => do
    resolveMatch userId
    let _ ← markReadyAction matchId host userId round (ready.getD true) clientActionId
  | .combatDone => do
    let _ ← handleCombatDone matchId userId round
  | .roundReady => do
    let _ ← markRoundReady matchId host userId round
  | .surrender => do
    let _ ← surrender matchId userId round

/-- Everything that starts work on a match. -/
inductive Request where
  | announce (m : Match) (names : PlayerNames)
  | action (userId : String) (round : Nat) (action : RuntimeAction)
  | markReady (userId : String) (round : Nat)
  | phaseTimer (round : Nat)
  | combatDoneTimeout (round : Nat)
  | roundReadyTimeout (round : Nat)
  | userDisconnect (userId : String)
  | disconnectJob (userId : String)
  deriving DecidableEq

def program : Request → M Unit
  | .announce m names => announceMatch host m names
  | .action userId round action => handleAction matchId host userId round action
  | .markReady userId round => do let _ ← markReady matchId host userId round
  | .phaseTimer round => do let _ ← tryStartCombat matchId host round
  | .combatDoneTimeout round => do let _ ← applyDamageAndAdvance matchId round
  | .roundReadyTimeout round => do let _ ← advanceResolvedRound matchId host round
  | .userDisconnect userId => do let _ ← handleUserDisconnect matchId userId
  | .disconnectJob userId => do let _ ← handleDisconnect matchId userId

/-- The runtime of one match: its requests over its services, as the clock
runs. -/
def pool : Pool Store Request Nat Cmd Resp Err where
  act := act host
  env := fun ms s => { s with now := s.now + ms }
  program := program matchId host

/-- The store once `initializeMatch` has written the hash. -/
def freshStore (m : Match) (names : PlayerNames) (users : String → Option User) : Store :=
  { row := { m with }
    users := users
    runtime := ⟨some ⟨initialRuntimeHash m names, none⟩⟩ }

/-! ## A match to run -/

def plainHost : Host where
  localeCompare _ _ := 0
  digests := { hashString := fun _ => 0, deterministicOfferId := fun _ index => index.repr }
  uuid n := String.ofList (List.replicate n 'u')
  uuid_injective a b h := by simpa using congrArg String.length h
  eloDelta _ _ won := if won then 16 else -16

def freshPlayer : RuntimePlayerState :=
  { hp := 100, gold := 5, ready := false, board := [], bench := [] }

def friendly : Match where
  id := "m"
  player1Id := "u1"
  player2Id := "u2"
  matchSeed := "s"
  p1State := freshPlayer
  p2State := freshPlayer

/-- Runs of this match. -/
def play (moves : List (Move Request Nat)) : World Store Request Cmd Resp Err :=
  (pool "m" plainHost).run ⟨freshStore friendly ⟨"one", "two"⟩ fun _ => none, [], []⟩ moves

/-- The next `n` calls of request `pid` are answered. -/
def answers (pid n : Nat) : List (Move Request Nat) := List.replicate n (.run pid .answered)

end AutoChess.Runtime
