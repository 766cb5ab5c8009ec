/-
Programs of FIFO matchmaking: joining and leaving the queue, and the pairing
of the two who wait longest.
-/
import AutoChess.Lobby.Services
import AutoChess.Runtime.Adapter

namespace AutoChess.Lobby

open AutoChess.Runtime Calls

inductive HttpStatus where
  | badRequest | forbidden | notFound | conflict | serviceUnavailable
  deriving DecidableEq, Repr

inductive Err where
  /-- A call threw. -/
  | fault
  | http (status : HttpStatus) (code message : String)
  | matchmaking (code message : String)
  | internal (message : String)
  deriving DecidableEq, Repr

abbrev M := Prog Cmd Resp Err

def call (c : Cmd) : M (Resp c) := Prog.perform .fault c

def reject {α : Type} (status : HttpStatus) (code message : String) : M α :=
  Prog.throw (.http status code message)

/-! ## The runtime of a match -/

/-- How an error of the runtime reaches the lobby. -/
def ofRuntime : Runtime.Err → Err
  | .fault => .fault
  | .internal message => .internal message
  | .reject r => .matchmaking r.code r.message

/-- A program of the match's runtime. -/
def onRuntime {α : Type} (matchId : String) : Runtime.M α → M α :=
  Prog.embed (.runtime matchId) (fun _ r => r) ofRuntime

variable (host : Host)

/-- Creates the runtime of a match and starts its first round's timer. -/
def initializeMatch (row : MatchRow) : M Unit := do
  let names ← call (.runtime row.id (.usernamesForPlayers row.player1Id row.player2Id))
  call (.hsetRuntime row.id (initialRuntimeHash row.toMatch names))
  onRuntime row.id (announceMatch host.toHost row.toMatch names)

/-! ## The queue -/

/-- True when the user was not waiting yet. -/
def joinQueueAt (userId : String) (joinedAtMs : Nat) : M Bool := do
  match ← call (.findActiveByUserId userId) with
  | some active =>
    Prog.throw (.matchmaking "match.already_active"
      s!"User {userId} already has active match {active.id}")
  | none =>
    let added ← call (.zadd [(userId, joinedAtMs)])
    return added = 1

/-- `joinedAtMs` is the clock's, unless the caller gives one. -/
def joinQueue (userId : String) : Option Nat → M Bool
  | some joinedAtMs => joinQueueAt userId joinedAtMs
  | none => do
    let joinedAtMs ← call .dateNow
    joinQueueAt userId joinedAtMs

def leaveQueue (userId : String) : M Bool := do
  let removed ← call (.zrem userId)
  return removed > 0

/-! ## Pairing -/

structure MatchPairResult where
  matchId : String
  player1Id : String
  player2Id : String
  deriving DecidableEq, Repr

def initialPlayerState : RuntimePlayerState :=
  { hp := 100, gold := 5, ready := false
    board := List.replicate 9 none, bench := List.replicate 8 none }

def createMatch (player1Id player2Id : String) : M MatchRow := do
  let matchSeed ← call .randomUUID
  call (.createMatch player1Id player2Id matchSeed initialPlayerState initialPlayerState)

/-- Puts the players back behind the clock; a fault is only logged. -/
def requeueAfterFailure (playerIds : List String) : M Unit := do
  if playerIds.isEmpty then
    return ()
  else
    let now ← call .dateNow
    let entries := playerIds.mapIdx fun index playerId => (playerId, now + index)
    let _ ← (call (.zadd entries)).attempt
    return ()

/-- `Promise.all` of two lookups: both are made, and then a fault of either is
thrown. They reach the table in either order. -/
def findBoth (player1Id player2Id : String) (swapped : Bool) :
    M (Option MatchRow × Option MatchRow) := do
  let first ← (call (.findActiveByUserId (if swapped then player2Id else player1Id))).attempt
  let second ← (call (.findActiveByUserId (if swapped then player1Id else player2Id))).attempt
  let first ← Prog.ofExcept first
  let second ← Prog.ofExcept second
  return if swapped then (second, first) else (first, second)

/-- The players of a popped pair who have no match yet. -/
def freePlayers (player1Id player2Id : String) (active : Option MatchRow × Option MatchRow) :
    List String :=
  (if active.1.isSome then [] else [player1Id]) ++ (if active.2.isSome then [] else [player2Id])

/-- What becomes of a popped pair. -/
def settlePair (player1Id player2Id : String) (swapped : Bool) : M (Option MatchPairResult) := do
  let active ← findBoth player1Id player2Id swapped
  if active.1.isSome || active.2.isSome then
    requeueAfterFailure (freePlayers player1Id player2Id active)
    return none
  else
    match ← (createMatch player1Id player2Id).attempt with
    | .error e =>
      requeueAfterFailure [player1Id, player2Id]
      Prog.throw e
    | .ok row =>
      initializeMatch host row
      return some ⟨row.id, player1Id, player2Id⟩

def tryPair (swapped : Bool) : M (Option MatchPairResult) := do
  match ← call .matchPair with
  | player1Id :: player2Id :: _ => settlePair host player1Id player2Id swapped
  | _ => return none

/-- Creation for a room's handoff; the queue is not touched. -/
def createMatchForPlayers (player1Id player2Id : String) : M MatchPairResult := do
  let row ← createMatch player1Id player2Id
  initializeMatch host row
  return ⟨row.id, player1Id, player2Id⟩

end AutoChess.Lobby
