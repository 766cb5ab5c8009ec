/-
The sockets of one replica: `WsGateway` with its `connectedSockets` and
`socketMatches`, `PubsubBridge` with its `localUserSockets` and
`localSubscribers`, and the socket.io namespace both work on.

socket.io gives each connection an id of its own and runs the disconnect
handlers within `socket.disconnect()`, at most once a socket: for a socket
that is not connected the call does nothing. Everything here runs between two
awaits, so a replica changes by one event after the other; the one lookup that
is awaited, a user's active match, is an event when it answers.
-/
import AutoChess.Lib.Index
import AutoChess.Lib.Json

namespace AutoChess.Sockets

/-! ## State -/

/-- A socket of the `/game` namespace: `data.user.sub`, `connected` and
`data.superseded`. -/
structure Socket where
  user : Option String
  connected : Bool
  superseded : Bool
  deriving DecidableEq, Repr

structure Replica where
  clients : Assoc String Socket
  connectedSockets : Index String String Unit
  socketMatches : Index String String Unit
  localUserSockets : Index String String Unit
  localSubscribers : Index String String (Option String)
  /-- The users `handleClientDisconnect` was started for, the last one first. -/
  departed : List String
  deriving DecidableEq, Repr

def Replica.initial : Replica := ⟨[], [], [], [], [], []⟩

/-! ## The bridge -/

namespace Replica

def registerUserSocket (r : Replica) (userId socketId : String) : Replica :=
  { r with localUserSockets := r.localUserSockets.add userId socketId () }

def unregisterUserSocket (r : Replica) (userId socketId : String) : Replica :=
  { r with localUserSockets := r.localUserSockets.remove userId socketId }

def subscribe (r : Replica) (matchId socketId : String) (userId : Option String) : Replica :=
  { r with localSubscribers := r.localSubscribers.add matchId socketId userId }

def unsubscribe (r : Replica) (matchId socketId : String) : Replica :=
  { r with localSubscribers := r.localSubscribers.remove matchId socketId }

end Replica

/-- What is published on a channel; an absent list of users is `none`. -/
structure Envelope where
  type : String
  payload : Json.Value
  targetUserId : Option String
  targetUserIds : Option (List String)

structure Delivery where
  socketId : String
  type : String
  payload : Json.Value

def playerId : Json.Value → List String
  | .obj player =>
    match Assoc.get player "id" with
    | some (.str id) => [id]
    | _ => []
  | _ => []

def playerIdsFromPhase : Json.Value → List String
  | .obj payload =>
    match Assoc.get payload "players" with
    | some (.arr players) => players.flatMap playerId
    | _ => []
  | _ => []

/-- `channel.split(':')`. -/
def parts (channel : String) : List String := (channel.toList.splitOn ':').map String.ofList

namespace Replica

def deliverToUsers (r : Replica) (envelope : Envelope) : List Delivery :=
  (envelope.targetUserIds.getD []).flatMap fun userId =>
    (r.localUserSockets.bucket userId).keys.map fun socketId => ⟨socketId, envelope.type, envelope.payload⟩

/-- The sockets of a player are subscribed to the match. -/
def subscribePlayer (matchId : String) (r : Replica) (userId : String) : Replica :=
  (r.localUserSockets.bucket userId).keys.foldl (fun r socketId => r.subscribe matchId socketId (some userId)) r

/-- The envelope is for the socket: for all, or for its user. An empty target
is none. -/
def isFor (envelope : Envelope) (userId : Option String) : Bool :=
  match envelope.targetUserId with
  | none => true
  | some target => target = "" ∨ userId = some target

def deliverToMatch (r : Replica) (matchId : String) (envelope : Envelope) : List Delivery :=
  (r.localSubscribers.bucket matchId).filterMap fun (socketId, userId) =>
    if isFor envelope userId then some ⟨socketId, envelope.type, envelope.payload⟩ else none

/-- A message on a channel; `none` is a text that is no envelope. -/
def handleMessage (r : Replica) (channel : String) (envelope : Option Envelope) : Replica × List Delivery :=
  match parts channel, envelope with
  | [kind, id, suffix], some envelope =>
    if suffix ≠ "events" ∨ envelope.type = "" then (r, [])
    else if kind = "room" then (r, r.deliverToUsers envelope)
    else if kind ≠ "match" then (r, [])
    else
      let r :=
        if envelope.type = "game:match:phase" then (playerIdsFromPhase envelope.payload).foldl (subscribePlayer id) r
        else r
      (r, r.deliverToMatch id envelope)
  | _, _ => (r, [])

/-! ## The gateway -/

/-- `handleDisconnect`. The guard lets no empty `sub` in, so a socket without
a user is one that was not let in. -/
def handleDisconnect (r : Replica) (socketId : String) : Replica :=
  match r.clients.get socketId with
  | some ⟨some sub, _, superseded⟩ =>
    let r := { r with connectedSockets := r.connectedSockets.remove sub socketId }
    let r := r.unregisterUserSocket sub socketId
    let r :=
      match r.socketMatches.get socketId with
      | none => r
      | some matched =>
        { matched.keys.foldl (fun r matchId => r.unsubscribe matchId socketId) r with
          socketMatches := r.socketMatches.delete socketId }
    if superseded then r else { r with departed := sub :: r.departed }
  | _ => r

/-- `client.disconnect()`, or the client going away. -/
def disconnect (r : Replica) (socketId : String) : Replica :=
  match r.clients.get socketId with
  | some client =>
    if client.connected then
      handleDisconnect { r with clients := r.clients.set socketId { client with connected := false } } socketId
    else r
  | none => r

/-- `old.data.superseded = true`. -/
def supersede (r : Replica) (socketId : String) : Replica :=
  match r.clients.get socketId with
  | some client => { r with clients := r.clients.set socketId { client with superseded := true } }
  | none => r

def dedupePreviousSockets (r : Replica) (userId current : String) : Replica :=
  (r.connectedSockets.bucket userId).keys.foldl
    (fun r old => if old = current then r else (r.supersede old).disconnect old) r

/-- `client.data` and the connection of a new socket, by the user its token
gives (`WsAuthGuard.authenticate`). -/
def opened (r : Replica) (socketId : String) (user : Option String) : Replica :=
  { r with clients := r.clients.set socketId ⟨user, true, false⟩ }

/-- `handleConnection`, up to the lookup of the active match. -/
def handleConnection (r : Replica) (socketId : String) (auth : Option String) : Replica :=
  let r := r.opened socketId auth
  match auth with
  | none => r.disconnect socketId
  | some userId =>
    let r := r.dedupePreviousSockets userId socketId
    let r := { r with connectedSockets := r.connectedSockets.add userId socketId () }
    r.registerUserSocket userId socketId

def subscribeToMatch (r : Replica) (socketId matchId : String) : Replica :=
  let r := r.subscribe matchId socketId ((r.clients.get socketId).bind (·.user))
  { r with socketMatches := r.socketMatches.add socketId matchId () }

def unsubscribeFromMatch (r : Replica) (socketId matchId : String) : Replica :=
  let r := r.unsubscribe matchId socketId
  { r with socketMatches := r.socketMatches.discard socketId matchId }

/-- `resumeActiveMatch`, once the user's active match is known. -/
def resumeActiveMatch (r : Replica) (client : Socket) (socketId : String) (found : Option String) : Replica :=
  match found with
  | some matchId => if client.connected then r.subscribeToMatch socketId matchId else r
  | none => r

end Replica

/-! ## Runs -/

/-- What `jwt.verify` returns. -/
structure JwtPayload where
  sub : String
  type : String
  deriving DecidableEq, Repr

/-- `WsAuthGuard.authenticate`, from the verified token if it is one. -/
def authenticate : Option JwtPayload → Option String
  | some payload => if payload.type ≠ "access" ∨ payload.sub = "" then none else some payload.sub
  | none => none

inductive Event where
  | connect (socketId : String) (token : Option JwtPayload)
  | resumed (socketId : String) (found : Option String)
  | message (channel : String) (envelope : Option Envelope)
  | subscribe (socketId matchId : String)
  | unsubscribe (socketId matchId : String)
  | disconnect (socketId : String)

/-- An event on the replica. The id of a connection is new, and the gateway's
methods are called with a socket there is. -/
def step (r : Replica) : Event → Replica
  | .connect socketId token =>
    match r.clients.get socketId with
    | none => r.handleConnection socketId (authenticate token)
    | some _ => r
  | .resumed socketId found =>
    match r.clients.get socketId with
    | none => r
    | some client => r.resumeActiveMatch client socketId found
  | .message channel envelope => (r.handleMessage channel envelope).1
  | .subscribe socketId matchId =>
    match r.clients.get socketId with
    | none => r
    | some _ => r.subscribeToMatch socketId matchId
  | .unsubscribe socketId matchId =>
    match r.clients.get socketId with
    | none => r
    | some _ => r.unsubscribeFromMatch socketId matchId
  | .disconnect socketId => r.disconnect socketId

/-- The replica after some events, the last one first. -/
def after : List Event → Replica
  | [] => .initial
  | e :: older => step (after older) e

end AutoChess.Sockets
