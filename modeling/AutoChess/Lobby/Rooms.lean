/-
Programs of private rooms: opening, joining and leaving a room, and its
handoff to a match. The pool of the whole lobby closes the module.
-/
import AutoChess.Lobby.Matchmaking

namespace AutoChess.Lobby

open AutoChess.Runtime Calls

/-- Code-claim retries. -/
def MAX_CODE_CLAIM_ATTEMPTS : Nat := 10

/-! ## Reading a room -/

/-- The room a user's mapping names. -/
def mapped (value : Option String) : Option String :=
  value.filter fun roomId => roomId ≠ "" && roomId ≠ "pending"

/-- The view of a hash that has a room. -/
def roomHashToView (hash : RoomHash) : Option RoomView :=
  (filled hash.roomId).map fun roomId =>
    { roomId := roomId
      code := hash.code.getD ""
      ownerId := hash.ownerId.getD ""
      guestId := filled hash.guestId
      status := hash.status.getD .waiting
      expiresAt := hash.expiresAt.getD 0
      matchId := filled hash.matchId }

def roomNotFound {α : Type} : M α := reject .notFound "room.not_found" "Room no longer exists"
def notInRoom {α : Type} : M α :=
  reject .notFound "room.not_in_room" "You are not currently in a room"
def alreadyInRoom {α : Type} : M α :=
  reject .conflict "room.already_in_room" "You are already in a room"
def alreadyActive {α : Type} : M α :=
  reject .conflict "match.already_active" "You already have an active match"

def loadRoomIfExists (roomId : Option String) : M (Option RoomView) := do
  match mapped roomId with
  | none => return none
  | some roomId =>
    let hash ← call (.hgetallRoom roomId)
    return roomHashToView hash

def loadRoom (roomId : String) : M RoomView := do
  let hash ← call (.hgetallRoom roomId)
  match roomHashToView hash with
  | none => roomNotFound
  | some room => return room

def getMyRoom (userId : String) : M RoomView := do
  match mapped (← call (.getUserRoom userId)) with
  | none => notInRoom
  | some roomId =>
    let hash ← call (.hgetallRoom roomId)
    match roomHashToView hash with
    | some room => return room
    | none =>
      let _ ← (call (.delUserRoom userId)).attempt
      roomNotFound

/-! ## Opening a room -/

/-- Claims a fresh code, retrying on collision. -/
def claimCode (roomId : String) : Nat → M String
  | 0 => reject .serviceUnavailable "room.code_unavailable"
      "Could not allocate a room code, please retry"
  | attempts + 1 => do
    let code ← call .randomCode
    let claimed ← call (.setCodeNX code roomId)
    if claimed then
      return code
    else
      claimCode roomId attempts

/-- The hash of a new room. -/
def newRoom (roomId code ownerId : String) (expiresAt : Nat) : RoomHash :=
  { roomId := some roomId, code := some code, ownerId := some ownerId, guestId := some ""
    status := some .waiting, expiresAt := some expiresAt, matchId := some "" }

/-- The body of `createRoom`, once the owner's membership is claimed. -/
def openRoom (ownerId : String) : M RoomView := do
  let active ← call (.findActiveByUserId ownerId)
  if active.isSome then
    alreadyActive
  else
    let queued ← call (.zscore ownerId)
    if queued.isSome then
      reject .conflict "room.in_matchmaking_queue"
        "Leave the matchmaking queue before creating a room"
    else
      let roomId ← call .randomUUID
      let code ← claimCode roomId MAX_CODE_CLAIM_ATTEMPTS
      let now ← call .dateNow
      let expiresAt := now + ROOM_TTL_SECONDS * 1000
      call (.hsetRoom roomId (newRoom roomId code ownerId expiresAt))
      call (.expireRoom roomId)
      call (.setUserRoom ownerId roomId)
      return { roomId := roomId, code := code, ownerId := ownerId, guestId := none
               status := .waiting, expiresAt := expiresAt, matchId := none }

def createRoom (ownerId : String) : M RoomView := do
  let slot ← call (.setUserRoomNX ownerId "pending")
  if !slot then
    alreadyInRoom
  else
    match ← (openRoom ownerId).attempt with
    | .ok view => return view
    | .error e =>
      let _ ← (call (.delUserRoom ownerId)).attempt
      Prog.throw e

/-! ## Joining and leaving -/

/-- `/^[A-Z2-9]{6}$/` -/
def validCode (code : String) : Bool :=
  code.length = 6 && code.toList.all fun c => ('A' ≤ c && c ≤ 'Z') || ('2' ≤ c && c ≤ '9')

/-- After the script admitted the user. -/
def announceJoin (userId roomId : String) : M RoomView := do
  match ← loadRoomIfExists (some roomId) with
  | none => roomNotFound
  | some room =>
    call (.publishToRoom ⟨roomId, .room room, [room.ownerId, userId]⟩)
    return room

/-- For a user with no room yet. -/
def enterRoom (userId roomId : String) : M RoomView := do
  let active ← call (.findActiveByUserId userId)
  if active.isSome then
    alreadyActive
  else
    let queued ← call (.zscore userId)
    if queued.isSome then
      reject .conflict "room.in_matchmaking_queue"
        "Leave the matchmaking queue before joining a room"
    else
      match ← call (.roomJoin roomId userId) with
      | .roomNotFound => roomNotFound
      | .roomFull => reject .conflict "room.full" "Room already has two players"
      | .alreadyInRoom => alreadyInRoom
      | .notWaiting => reject .conflict "room.not_waiting" "Room is no longer accepting players"
      | .owner =>
        reject .badRequest "room.owner_cannot_join" "The room owner is already in the room"
      | .ok => announceJoin userId roomId

/-- `code` is trimmed and in upper case. A guest's retry finds its own room. -/
def joinRoom (userId code : String) : M RoomView := do
  if !validCode code then
    reject .badRequest "room.invalid_code" "Room code must be 6 characters A-Z/2-9"
  else
    match (← call (.getCode code)).filter (· ≠ "") with
    | none => reject .notFound "room.not_found" "No room exists for this code"
    | some roomId =>
      match (← call (.getUserRoom userId)).filter (· ≠ "") with
      | some ownRoomId =>
        match ← loadRoomIfExists (some ownRoomId) with
        | some existing =>
          if existing.guestId = some userId ∧ existing.status = .full then
            return existing
          else
            alreadyInRoom
        | none => alreadyInRoom
      | none => enterRoom userId roomId

/-- What the guest of a closed room is told. -/
def announceClosed (roomId : String) (before : RoomHash) : M Unit := do
  match filled before.guestId with
  | none => return ()
  | some guestId =>
    call (.publishToRoom ⟨roomId, .closed roomId (before.code.getD "") (before.ownerId.getD "")
      guestId (before.expiresAt.getD 0), [guestId]⟩)

/-- The room as it is left, or `none` if it closed. -/
def leaveRoom (userId : String) : M (Option RoomView) := do
  match mapped (← call (.getUserRoom userId)) with
  | none => notInRoom
  | some roomId =>
    let before ← call (.hgetallRoom roomId)
    match ← call (.roomLeave roomId userId) with
    | .missing =>
      let _ ← (call (.delUserRoom userId)).attempt
      notInRoom
    | .owner =>
      announceClosed roomId before
      return none
    | .guest =>
      let room ← loadRoom roomId
      call (.publishToRoom ⟨roomId, .room room, [room.ownerId]⟩)
      return some room

/-! ## Handoff to a match -/

/-- Records the match, removes the room's keys and notifies both players. -/
def finishRoomMatch (view : RoomView) (matchId : String) : M RoomView := do
  let guestId := view.guestId.getD ""
  let recorded ← call (.roomMatchDone view.roomId view.code matchId view.ownerId guestId)
  let matched := { view with
    guestId := some guestId, status := RoomStatus.matched, matchId := some recorded }
  call (.publishToRoom ⟨view.roomId, .room matched, [view.ownerId, guestId]⟩)
  return matched

/-- An active match of the owner, or else of the guest. -/
def findOrphan (ownerId guestId : String) : M (Option MatchRow) := do
  match ← call (.findActiveByUserId ownerId) with
  | some orphan => return some orphan
  | none => call (.findActiveByUserId guestId)

variable (host : Host)

/-- Adopts the orphan, or creates a match; a failure releases the claim. -/
def adoptOrCreate (roomId ownerId guestId token : String) : M String := do
  match ← findOrphan ownerId guestId with
  | some orphan => return orphan.id
  | none =>
    match ← (createMatchForPlayers host ownerId guestId).attempt with
    | .ok created => return created.matchId
    | .error e =>
      call (.roomMatchAbort roomId token)
      Prog.throw e

def createRoomMatch (roomId ownerId guestId token : String) (view : Option RoomView) :
    M RoomView := do
  let matchId ← adoptOrCreate host roomId ownerId guestId token
  let expiresAt ← match view with
    | some view => pure view.expiresAt
    | none => call .dateNow
  finishRoomMatch
    { roomId := roomId, code := (view.map (·.code)).getD "", ownerId := ownerId
      guestId := some guestId, status := .full, expiresAt := expiresAt, matchId := none } matchId

def startRoomMatch (roomId : String) : M RoomView := do
  let view ← loadRoomIfExists (some roomId)
  let token ← call .randomUUID
  match ← call (.roomStartMatch roomId token) with
  | .claimed ownerId guestId => createRoomMatch host roomId ownerId guestId token view
  | .missing => roomNotFound
  | claim =>
    match view with
    | none => roomNotFound
    | some view =>
      match view.matchId with
      | some matchId => finishRoomMatch view matchId
      | none =>
        if claim = .held then
          reject .conflict "room.match_starting" "Match creation already in progress, please retry"
        else
          reject .conflict "room.not_waiting" "Room is no longer accepting players"

/-- Only the owner of a full room starts it. -/
def startRoomForOwner (ownerId : String) : M RoomView := do
  let roomId ← call (.getUserRoom ownerId)
  match ← loadRoomIfExists roomId with
  | none => roomNotFound
  | some room =>
    if room.ownerId ≠ ownerId then
      reject .forbidden "room.owner_only" "Only the room owner can start the match"
    else if room.status ≠ .full ∨ room.guestId = none then
      reject .conflict "room.not_full" "A guest must join before the match can start"
    else
      startRoomMatch host room.roomId

/-! ## The lobby -/

inductive Request where
  | joinQueue (userId : String) (joinedAtMs : Option Nat)
  | leaveQueue (userId : String)
  | tryPair (swapped : Bool)
  | createRoom (ownerId : String)
  | getMyRoom (userId : String)
  | joinRoom (userId code : String)
  | leaveRoom (userId : String)
  | startRoom (ownerId : String)
  | startRoomMatch (roomId : String)
  | finalize (matchId : String) (status : MatchStatus)
  deriving DecidableEq, Repr

def program : Request → M Unit
  | .joinQueue userId joinedAtMs => do let _ ← joinQueue userId joinedAtMs
  | .leaveQueue userId => do let _ ← leaveQueue userId
  | .tryPair swapped => do let _ ← tryPair host swapped
  | .createRoom ownerId => do let _ ← createRoom ownerId
  | .getMyRoom userId => do let _ ← getMyRoom userId
  | .joinRoom userId code => do let _ ← joinRoom userId code
  | .leaveRoom userId => do let _ ← leaveRoom userId
  | .startRoom ownerId => do let _ ← startRoomForOwner host ownerId
  | .startRoomMatch roomId => do let _ ← startRoomMatch host roomId
  | .finalize matchId status => call (.finalize matchId status)

/-- The lobby: its requests over its services, as the clock runs. -/
def pool : Pool Store Request Nat Cmd Resp Err where
  act := act host
  env := fun ms s => { s with now := s.now + ms }
  program := program host

/-! ## A lobby to run -/

def plainHost : Host where
  toHost := { Runtime.plainHost with
    uuid := fun n => String.ofList (List.replicate (n + 1) 'u')
    uuid_injective := fun a b h => by simpa using congrArg String.length h }
  uuid_ne_empty n h := by simpa using congrArg String.length h
  uuid_ne_pending n h := by
    have hlist : List.replicate (n + 1) 'u' = "pending".toList := by
      simpa using congrArg String.toList h
    have hmem : 'p' ∈ List.replicate (n + 1) 'u' := hlist ▸ by decide
    simp at hmem
  randomRoomCode _ := "ABC234"

/-- Runs of this lobby. -/
def lobby (init : Store) (moves : List (Move Request Nat)) : World Store Request Cmd Resp Err :=
  (pool plainHost).run ⟨init, [], []⟩ moves

/-- The next `n` calls of request `pid` are answered. -/
def answers (pid n : Nat) : List (Move Request Nat) := List.replicate n (.run pid .answered)

end AutoChess.Lobby
