/-
The services of the lobby: the Redis keys of private rooms and of the FIFO
queue, with their scripts, and the table of matches. Every command is atomic.

A hash field that was never written is `none`; one that is written empty is
`some ""`. An ISO time is kept as its epoch milliseconds.
-/
import AutoChess.Lib.SortedSet
import AutoChess.Runtime.Services
import Mathlib.Data.String.Basic

namespace AutoChess.Lobby

open AutoChess.Runtime Expiring

def ROOM_TTL_SECONDS : Nat := 45 * 60
def ROOM_HANDOFF_TTL_SECONDS : Nat := 120
def ROOM_MATCH_TOMBSTONE_TTL_SECONDS : Nat := 300

/-! ## What is stored -/

inductive RoomStatus where
  | waiting | full | matched
  deriving DecidableEq, Repr

structure RoomHash where
  roomId : Option String := none
  code : Option String := none
  ownerId : Option String := none
  guestId : Option String := none
  status : Option RoomStatus := none
  expiresAt : Option Nat := none
  matchId : Option String := none
  deriving DecidableEq, Repr

structure RoomView where
  roomId : String
  code : String
  ownerId : String
  guestId : Option String
  status : RoomStatus
  expiresAt : Nat
  matchId : Option String
  deriving DecidableEq, Repr

/-- The payload of `game:room:state`. -/
inductive RoomPayload where
  | room (view : RoomView)
  | closed (roomId code ownerId guestId : String) (expiresAt : Nat)
  deriving DecidableEq, Repr

structure RoomPublication where
  roomId : String
  payload : RoomPayload
  targetUserIds : List String
  deriving DecidableEq, Repr

/-- The row of a new match; `id` is the table's. -/
def newRow (id player1Id player2Id matchSeed : String) (p1State p2State : RuntimePlayerState) :
    MatchRow :=
  { id := id, player1Id := player1Id, player2Id := player2Id, matchSeed := matchSeed
    p1State := p1State, p2State := p2State }

/-- Stands for the row where there is none. -/
def noRow (id : String) : MatchRow := newRow id "" "" "" ⟨0, 0, false, [], []⟩ ⟨0, 0, false, [], []⟩

structure Store where
  /-- Redis time, in milliseconds. -/
  now : Nat := 0
  /-- `room:<roomId>` -/
  rooms : String → Key RoomHash := fun _ => {}
  /-- `room:code:<CODE>` -/
  codes : String → Key String := fun _ => {}
  /-- `user:room:<userId>` -/
  userRooms : String → Key String := fun _ => {}
  /-- `room:<roomId>:handoff` -/
  handoffs : String → Key String := fun _ => {}
  /-- `matchmaking:queue` -/
  queue : SortedSet String := .empty
  matchRows : List MatchRow := []
  users : String → Option User := fun _ => none
  /-- What the runtime of each match keeps. -/
  runtimes : String → Runtime.Store := fun matchId => { row := noRow matchId }
  published : List RoomPublication := []
  /-- How many UUIDs were drawn. -/
  drawn : Nat := 0
  /-- How many room codes were drawn. -/
  codesDrawn : Nat := 0

/-- The hosts of the lobby are those of the runtime; they draw room codes too. -/
structure Host extends Runtime.Host where
  uuid_ne_empty : ∀ n, uuid n ≠ ""
  uuid_ne_pending : ∀ n, uuid n ≠ "pending"
  randomRoomCode : Nat → String

/-! ## Commands -/

inductive JoinReply where
  | ok | roomNotFound | roomFull | alreadyInRoom | notWaiting | owner
  deriving DecidableEq, Repr

inductive LeaveReply where
  | missing | guest | owner
  deriving DecidableEq, Repr

inductive ClaimReply where
  | missing | notFull | invalid | held
  | claimed (ownerId guestId : String)
  deriving DecidableEq, Repr

inductive Cmd where
  | setUserRoomNX (userId value : String)
  | setUserRoom (userId roomId : String)
  | delUserRoom (userId : String)
  | getUserRoom (userId : String)
  | setCodeNX (code roomId : String)
  | getCode (code : String)
  | hsetRoom (roomId : String) (hash : RoomHash)
  | expireRoom (roomId : String)
  | hgetallRoom (roomId : String)
  | roomJoin (roomId guestId : String)
  | roomLeave (roomId userId : String)
  | roomStartMatch (roomId token : String)
  | roomMatchDone (roomId code matchId ownerId guestId : String)
  | roomMatchAbort (roomId token : String)
  | zscore (userId : String)
  /-- `ZADD key NX score member ..` -/
  | zadd (entries : List (String × Nat))
  | zrem (userId : String)
  | matchPair
  | findActiveByUserId (userId : String)
  | createMatch (player1Id player2Id matchSeed : String) (p1State p2State : RuntimePlayerState)
  /-- The first write of a match's runtime. -/
  | hsetRuntime (matchId : String) (hash : RuntimeHash)
  /-- A call of the match's runtime. -/
  | runtime (matchId : String) (c : Runtime.Cmd)
  /-- The end of a match, however it came. -/
  | finalize (matchId : String) (status : MatchStatus)
  | publishToRoom (publication : RoomPublication)
  | randomUUID
  | randomCode
  | dateNow

@[reducible] def Resp : Cmd → Type
  | .setUserRoomNX _ _ => Bool
  | .getUserRoom _ => Option String
  | .setCodeNX _ _ => Bool
  | .getCode _ => Option String
  | .hgetallRoom _ => RoomHash
  | .roomJoin _ _ => JoinReply
  | .roomLeave _ _ => LeaveReply
  | .roomStartMatch _ _ => ClaimReply
  | .roomMatchDone _ _ _ _ _ => String
  | .zscore _ => Option Nat
  | .zadd _ => Nat
  | .zrem _ => Nat
  | .matchPair => List String
  | .findActiveByUserId _ => Option MatchRow
  | .createMatch _ _ _ _ _ => MatchRow
  | .runtime _ c => Runtime.Resp c
  | .randomUUID => String
  | .randomCode => String
  | .dateNow => Nat
  | _ => Unit

/-- The hash of a room, as `HGETALL` sees it. -/
def Store.room (s : Store) (roomId : String) : RoomHash := ((s.rooms roomId).get s.now).getD {}

def Store.writeRoom (s : Store) (roomId : String) (f : RoomHash → RoomHash) : Store :=
  { s with rooms := put s.rooms roomId ((s.rooms roomId).modify s.now {} f) }

/-- `SET key value EX ttl NX` -/
def setNX (now ttlSeconds : Nat) (value : String) (k : Key String) : Bool × Key String :=
  match k.get now with
  | some _ => (false, k)
  | none => (true, Key.setEx now (ttlSeconds * 1000) value)

/-- A field that holds a player's id. -/
def filled (field : Option String) : Option String := field.filter (· ≠ "")

/-! ## Scripts -/

def evalRoomJoin (roomId guestId : String) (s : Store) : JoinReply × Store :=
  let room := s.room roomId
  if room.roomId = none then (.roomNotFound, s)
  else if room.ownerId = some guestId then (.owner, s)
  else if ((s.userRooms guestId).get s.now).isSome then (.alreadyInRoom, s)
  else if (filled room.guestId).isSome then (.roomFull, s)
  else if room.status ≠ some .waiting then (.notWaiting, s)
  else
    let joined := s.writeRoom roomId fun room =>
      { room with guestId := some guestId, status := some .full }
    (.ok, { joined with
      userRooms := put s.userRooms guestId (Key.setEx s.now (ROOM_TTL_SECONDS * 1000) roomId) })

def evalRoomLeave (roomId userId : String) (s : Store) : LeaveReply × Store :=
  let room := s.room roomId
  if room.roomId = none then (.missing, s)
  else if room.ownerId = some userId then
    let codes := match filled room.code with
      | some code => put s.codes code {}
      | none => s.codes
    let userRooms := put s.userRooms userId {}
    (.owner, { s with
      rooms := put s.rooms roomId {}
      codes := codes
      userRooms := match filled room.guestId with
        | some guest => put userRooms guest {}
        | none => userRooms })
  else if room.guestId = some userId then
    let left := s.writeRoom roomId fun room =>
      { room with guestId := some "", status := some .waiting }
    (.guest, { left with userRooms := put s.userRooms userId {} })
  else (.missing, s)

def evalRoomStartMatch (roomId token : String) (s : Store) : ClaimReply × Store :=
  let room := s.room roomId
  if room.roomId = none then (.missing, s)
  else if room.status ≠ some .full then (.notFull, s)
  else
    match filled room.ownerId, filled room.guestId with
    | some owner, some guest =>
      let claim := setNX s.now ROOM_HANDOFF_TTL_SECONDS token (s.handoffs roomId)
      if claim.1 then
        (.claimed owner guest, { s with handoffs := put s.handoffs roomId claim.2 })
      else (.held, s)
    | _, _ => (.invalid, s)

/-- Deletes a user's mapping if it still points at the room. -/
def clearUserRoom (now : Nat) (roomId userId : String) (userRooms : String → Key String) :
    String → Key String :=
  if (userRooms userId).get now = some roomId then put userRooms userId {} else userRooms

def evalRoomMatchDone (roomId code matchId ownerId guestId : String) (s : Store) : String × Store :=
  match filled (s.room roomId).matchId with
  | some recorded => (recorded, s)
  | none =>
    let done := s.writeRoom roomId fun room =>
      { room with matchId := some matchId, status := some .matched }
    (matchId, { done with
      rooms := put done.rooms roomId
        ((done.rooms roomId).expire s.now (ROOM_MATCH_TOMBSTONE_TTL_SECONDS * 1000))
      codes := put s.codes code {}
      handoffs := put s.handoffs roomId {}
      userRooms := clearUserRoom s.now roomId guestId
        (clearUserRoom s.now roomId ownerId s.userRooms) })

def evalRoomMatchAbort (roomId token : String) (s : Store) : Store :=
  if (s.handoffs roomId).get s.now = some token then
    { s with handoffs := put s.handoffs roomId {} }
  else s

/-- `match_pair.lua`: takes the two longest waiting. -/
def evalMatchPair (s : Store) : List String × Store :=
  match s.queue.ranked with
  | x :: y :: _ => ([x.1, y.1], { s with queue := (s.queue.remove x.1).remove y.1 })
  | _ => ([], s)

/-! ## The table of matches -/

def live (row : MatchRow) : Bool := row.status = .in_progress

def findActive (userId : String) (s : Store) : Option MatchRow :=
  s.matchRows.find? fun row => isPlayer row userId && live row

def closeMatch (matchId : String) (status : MatchStatus) (row : MatchRow) : MatchRow :=
  if row.id = matchId && live row then { row with status := status } else row

variable (host : Host)

def act : (c : Cmd) → Store → Resp c × Store
  | .setUserRoomNX userId value, s =>
    let claim := setNX s.now ROOM_TTL_SECONDS value (s.userRooms userId)
    (claim.1, { s with userRooms := put s.userRooms userId claim.2 })
  | .setUserRoom userId roomId, s =>
    ((), { s with
      userRooms := put s.userRooms userId (Key.setEx s.now (ROOM_TTL_SECONDS * 1000) roomId) })
  | .delUserRoom userId, s => ((), { s with userRooms := put s.userRooms userId {} })
  | .getUserRoom userId, s => ((s.userRooms userId).get s.now, s)
  | .setCodeNX code roomId, s =>
    let claim := setNX s.now ROOM_TTL_SECONDS roomId (s.codes code)
    (claim.1, { s with codes := put s.codes code claim.2 })
  | .getCode code, s => ((s.codes code).get s.now, s)
  | .hsetRoom roomId hash, s => ((), s.writeRoom roomId fun _ => hash)
  | .expireRoom roomId, s =>
    ((), { s with
      rooms := put s.rooms roomId ((s.rooms roomId).expire s.now (ROOM_TTL_SECONDS * 1000)) })
  | .hgetallRoom roomId, s => (s.room roomId, s)
  | .roomJoin roomId guestId, s => evalRoomJoin roomId guestId s
  | .roomLeave roomId userId, s => evalRoomLeave roomId userId s
  | .roomStartMatch roomId token, s => evalRoomStartMatch roomId token s
  | .roomMatchDone roomId code matchId ownerId guestId, s =>
    evalRoomMatchDone roomId code matchId ownerId guestId s
  | .roomMatchAbort roomId token, s => ((), evalRoomMatchAbort roomId token s)
  | .zscore userId, s => (s.queue.score userId, s)
  | .zadd entries, s =>
    let queue := entries.foldl (fun queue entry => queue.addNX entry.1 entry.2) s.queue
    (queue.entries.length - s.queue.entries.length, { s with queue := queue })
  | .zrem userId, s =>
    let queue := s.queue.remove userId
    (s.queue.entries.length - queue.entries.length, { s with queue := queue })
  | .matchPair, s => evalMatchPair s
  | .findActiveByUserId userId, s => (findActive userId s, s)
  | .createMatch player1Id player2Id matchSeed p1State p2State, s =>
    let row := newRow (host.uuid s.drawn) player1Id player2Id matchSeed p1State p2State
    (row, { s with
      matchRows := s.matchRows ++ [row]
      runtimes := put s.runtimes row.id { row := row }
      drawn := s.drawn + 1 })
  | .hsetRuntime matchId hash, s =>
    let services := s.runtimes matchId
    ((), { s with
      runtimes := put s.runtimes matchId
        { services with runtime := services.runtime.modify s.now {} fun _ => hash } })
  | .runtime matchId c, s =>
    let done := Runtime.act host.toHost c { s.runtimes matchId with now := s.now, users := s.users }
    (done.1, { s with runtimes := put s.runtimes matchId done.2 })
  | .finalize matchId status, s =>
    ((), { s with matchRows := s.matchRows.map (closeMatch matchId status) })
  | .publishToRoom publication, s => ((), { s with published := publication :: s.published })
  | .randomUUID, s => (host.uuid s.drawn, { s with drawn := s.drawn + 1 })
  | .randomCode, s => (host.randomRoomCode s.codesDrawn, { s with codesDrawn := s.codesDrawn + 1 })
  | .dateNow, s => (s.now, s)

end AutoChess.Lobby
