/-
The services one match's runtime is kept in, and the commands on them: the
match's Redis keys and scripts, its PostgreSQL row, its jobs and its
publications. Every command is atomic.

Written and never read back, and so not kept: the timestamps in the action
log and the ack hash, and `combatLockInstance`.
-/
import AutoChess.Game.Engine
import AutoChess.Lib.Expiring
import AutoChess.Lib.Pool
import AutoChess.Runtime.Resolution
import AutoChess.Shop.Roster

namespace AutoChess.Runtime

open AutoChess.Game AutoChess.Shop Expiring Calls

/-! ## What is stored -/

inductive Lock where
  | combat
  | shop (userId : String)
  deriving DecidableEq, Repr

inductive MatchStatus where
  | in_progress | finished | forfeited
  deriving DecidableEq, Repr

inductive MatchEndReason where
  | hp_zero | forfeit | disconnect
  deriving DecidableEq, Repr

structure RatingChange where
  before : Int
  after : Int
  delta : Int
  deriving DecidableEq, Repr

inductive Payload where
  | phase (payload : PhasePayload)
  | state (payload : StatePayload)
  | offers (matchId : String) (round : Nat) (offers : List (Option ShopOffer))
  | damage (payload : DamagePayload)
  | combatEvents (matchId : String) (round cycleCount : Nat) (events : List CombatEvent)
      (initialP1 initialP2 : Slots)
  | matchEnd (matchId : String) (winnerId : Option String) (reason : MatchEndReason)
      (finalP1 finalP2 : Int × Int) (rating : Option (RatingChange × RatingChange))
  deriving DecidableEq

/-- A publication on the match's channel, to one user or to all. -/
structure Publication where
  targetUserId : Option String := none
  payload : Payload
  deriving DecidableEq

inductive Job where
  | phaseStart (round : Nat)
  | combatDoneTimeout (round : Nat)
  | roundReadyTimeout (round : Nat)
  | matchCleanup
  deriving DecidableEq, Repr

structure MatchRow extends Match where
  status : MatchStatus := .in_progress
  winnerId : Option String := none
  finishedAt : Option Nat := none
  /-- `match_rounds`, one row a round. -/
  rounds : List (Nat × List CombatEvent) := []
  deriving DecidableEq

structure User where
  username : String
  rating : Int
  deriving DecidableEq, Repr

structure Store where
  /-- Redis time, in milliseconds. -/
  now : Nat := 0
  runtime : Key RuntimeHash := {}
  combatDone : Key (List String) := {}
  combatResult : Key (List CombatEvent) := {}
  locks : Lock → Key String := fun _ => {}
  actionLog : String → Key (List String) := fun _ => {}
  shops : String → Key StoredShop := fun _ => {}
  row : MatchRow
  users : String → Option User := fun _ => none
  /-- Jobs added, with the time each is due. -/
  jobs : List (Job × Nat) := []
  published : List Publication := []
  /-- How many UUIDs were drawn. -/
  drawn : Nat := 0

/-- What the hosts provide: the engine's collation, the digests, fresh UUIDs,
the rating formula and the `COMBAT_DONE_TIMEOUT_MS` setting. -/
structure Host where
  localeCompare : String → String → Int
  digests : Digests
  uuid : Nat → String
  uuid_injective : Function.Injective uuid
  eloDelta : Int → Int → Bool → Int
  timeoutSetting : Option Int := none

/-! ## Commands -/

inductive ActionLogReply where
  | recorded | duplicate | phaseMismatch | roundMismatch
  deriving DecidableEq, Repr

/-- What the finalising transaction found or did. -/
inductive FinalizeReply where
  | notInProgress (terminal : Bool)
  | invalidWinner
  | playerNotFound
  | finalized (row : MatchRow) (rating : Option (RatingChange × RatingChange))
  deriving DecidableEq

inductive Cmd where
  | hgetall
  | hset (fields : List FieldWrite)
  | expireRuntime (seconds : Nat)
  | phaseFlip (expectedPhase newPhase : MatchPhase) (expectedRound : Nat) (nextRound : Option Nat)
  | actionLog (userId clientActionId : String) (field : FieldWrite) (shop : Option (StoredShop × Nat))
      (expectedPhase : MatchPhase) (expectedRound : Nat)
  | hexistsActionLog (userId clientActionId : String)
  | setLock (lock : Lock) (owner : String) (ttlMs : Nat)
  | releaseOwnedLock (lock : Lock) (owner : String)
  | combatDone (userId : String)
  | delCombatKeys
  | writeCombatResult (events : List CombatEvent) (ttlSeconds : Nat)
  | getCombatResult
  | getShop (userId : String)
  | setShop (userId : String) (shop : StoredShop) (ttlSeconds : Nat)
  | publish (publication : Publication)
  | schedule (job : Job) (delayMs : Nat)
  | randomUUID
  | sleep (ms : Nat)
  /-- The engine; `round` says which round it is run for. -/
  | runBattle (round : Nat) (state : BattleState)
  | findActiveByUserId (userId : String)
  | usernamesForPlayers (player1Id player2Id : String)
  | updateState (side : Side) (state : RuntimePlayerState)
  | updateRuntimeSnapshot (p1State p2State : RuntimePlayerState) (wipeIndexP1 wipeIndexP2 : Nat)
  | appendRoundEvents (round : Nat) (events : List CombatEvent)
  | findMatch
  | finalizeRow (winnerId : Option String) (reason : MatchEndReason)
  | invalidateUsers (userIds : List String)
  | bumpVersion

@[reducible] def Resp : Cmd → Type
  | .hgetall => RuntimeHash
  | .phaseFlip _ _ _ _ => Bool
  | .actionLog _ _ _ _ _ _ => ActionLogReply
  | .hexistsActionLog _ _ => Bool
  | .setLock _ _ _ => Bool
  | .combatDone _ => Nat
  | .getCombatResult => Option (List CombatEvent)
  | .getShop _ => Option StoredShop
  | .randomUUID => String
  | .runBattle _ _ => List CombatEvent
  | .findActiveByUserId _ => Option String
  | .usernamesForPlayers _ _ => PlayerNames
  | .findMatch => MatchRow
  | .finalizeRow _ _ => FinalizeReply
  | _ => Unit

/-- Overwrites the value a function has at one argument. -/
def put {α β : Type} [DecidableEq α] (f : α → β) (a : α) (b : β) : α → β :=
  fun x => if x = a then b else f x

/-- The hash `HGETALL` sees: an absent key reads as the empty hash. -/
def Store.hash (s : Store) : RuntimeHash := (s.runtime.get s.now).getD {}

def Store.hset (s : Store) (fields : List FieldWrite) : Store :=
  { s with runtime := s.runtime.modify s.now {} (·.hset fields) }

/-- The fields `phase_flip.lua` writes. -/
def flipFields (newPhase : MatchPhase) (nextRound : Option Nat) : List FieldWrite :=
  .phase newPhase :: (nextRound.map FieldWrite.round).toList

def evalPhaseFlip (expectedPhase newPhase : MatchPhase) (expectedRound : Nat)
    (nextRound : Option Nat) (s : Store) : Bool × Store :=
  if s.hash.phase ≠ some expectedPhase then (false, s)
  else if s.hash.round ≠ some expectedRound then (false, s)
  else (true, s.hset (flipFields newPhase nextRound))

def evalActionLog (userId clientActionId : String) (field : FieldWrite)
    (shop : Option (StoredShop × Nat)) (expectedPhase : MatchPhase) (expectedRound : Nat) (s : Store) : ActionLogReply × Store :=
  let log := ((s.actionLog userId).get s.now).getD []
  if clientActionId ∈ log then (.duplicate, s)
  else if s.hash.round ≠ some expectedRound then (.roundMismatch, s)
  else if s.hash.phase ≠ some expectedPhase then (.phaseMismatch, s)
  else
    let logged := { s with
      actionLog := put s.actionLog userId (Key.setEx s.now 120000 (clientActionId :: log)) }
    let stored := logged.hset [field]
    match shop with
    | none => (.recorded, stored)
    | some (shop, ttlSeconds) =>
      (.recorded, { stored with
        shops := put s.shops userId (Key.setEx s.now (ttlSeconds * 1000) shop) })

def evalCombatDone (userId : String) (s : Store) : Nat × Store :=
  let acks := (s.combatDone.get s.now).getD []
  if userId ∈ acks then (acks.length, s)
  else (acks.length + 1, { s with combatDone := Key.setEx s.now 90000 (userId :: acks) })

/-- `SET key owner PX ttl NX`. -/
def setLock (lock : Lock) (owner : String) (ttlMs : Nat) (s : Store) : Bool × Store :=
  match (s.locks lock).get s.now with
  | some _ => (false, s)
  | none => (true, { s with locks := put s.locks lock (Key.setEx s.now ttlMs owner) })

/-- The compare-and-delete of `releaseOwnedLock`. -/
def releaseOwnedLock (lock : Lock) (owner : String) (s : Store) : Store :=
  if (s.locks lock).get s.now = some owner then { s with locks := put s.locks lock {} } else s

/-- Adding a job whose id is already queued does nothing. -/
def schedule (job : Job) (delayMs : Nat) (s : Store) : Store :=
  if s.jobs.any (·.1 = job) then s else { s with jobs := (job, s.now + delayMs) :: s.jobs }

def usernames (users : String → Option User) (player1Id player2Id : String) : PlayerNames :=
  { player1Name := ((users player1Id).map (·.username)).getD "ผู้เล่น 1"
    player2Name := ((users player2Id).map (·.username)).getD "ผู้เล่น 2" }

/-- Upserts the row of one round. -/
def saveRoundEvents (round : Nat) (events : List CombatEvent)
    (rounds : List (Nat × List CombatEvent)) : List (Nat × List CombatEvent) :=
  if rounds.any (·.1 = round) then rounds.map fun r => if r.1 = round then (round, events) else r
  else rounds ++ [(round, events)]

def isPlayer (row : MatchRow) (userId : String) : Bool :=
  row.player1Id = userId || row.player2Id = userId

/-- `GREATEST(0, rating + delta)`. -/
def rated (user : User) (delta : Int) : User := { user with rating := max 0 (user.rating + delta) }

def ratingChange (rating delta : Int) : RatingChange :=
  { before := rating, after := max 0 (rating + delta), delta := max 0 (rating + delta) - rating }

def closeRow (winnerId : Option String) (reason : MatchEndReason) (s : Store) : MatchRow :=
  { s.row with
    status := if reason = .hp_zero then .finished else .forfeited
    winnerId := winnerId
    finishedAt := some s.now }

/-- The transaction of `MatchService.finalize`. -/
def finalizeRow (eloDelta : Int → Int → Bool → Int) (winnerId : Option String)
    (reason : MatchEndReason) (s : Store) : FinalizeReply × Store :=
  if s.row.status ≠ .in_progress then (.notInProgress s.row.finishedAt.isSome, s)
  else
    let closed := closeRow winnerId reason s
    match winnerId with
    | none => (.finalized closed none, { s with row := closed })
    | some winner =>
      if !isPlayer s.row winner then (.invalidWinner, s)
      else
        match s.users s.row.player1Id, s.users s.row.player2Id with
        | some p1, some p2 =>
          let delta := eloDelta p1.rating p2.rating (winner = s.row.player1Id)
          let users := put (put s.users s.row.player1Id (some (rated p1 delta)))
            s.row.player2Id (some (rated p2 (-delta)))
          (.finalized closed (some (ratingChange p1.rating delta, ratingChange p2.rating (-delta))),
            { s with row := closed, users := users })
        | _, _ => (.playerNotFound, s)

variable (host : Host)

def act : (c : Cmd) → Store → Resp c × Store
  | .hgetall, s => (s.hash, s)
  | .hset fields, s => ((), s.hset fields)
  | .expireRuntime seconds, s =>
    ((), { s with runtime := s.runtime.expire s.now (seconds * 1000) })
  | .phaseFlip expectedPhase newPhase expectedRound nextRound, s =>
    evalPhaseFlip expectedPhase newPhase expectedRound nextRound s
  | .actionLog userId clientActionId field shop expectedPhase expectedRound, s =>
    evalActionLog userId clientActionId field shop expectedPhase expectedRound s
  | .hexistsActionLog userId clientActionId, s =>
    (decide (clientActionId ∈ ((s.actionLog userId).get s.now).getD []), s)
  | .setLock lock owner ttlMs, s => setLock lock owner ttlMs s
  | .releaseOwnedLock lock owner, s => ((), releaseOwnedLock lock owner s)
  | .combatDone userId, s => evalCombatDone userId s
  | .delCombatKeys, s => ((), { s with combatDone := {}, combatResult := {} })
  | .writeCombatResult events ttlSeconds, s =>
    ((), { s with combatResult := Key.setEx s.now (ttlSeconds * 1000) events })
  | .getCombatResult, s => (s.combatResult.get s.now, s)
  | .getShop userId, s => ((s.shops userId).get s.now, s)
  | .setShop userId shop ttlSeconds, s =>
    ((), { s with shops := put s.shops userId (Key.setEx s.now (ttlSeconds * 1000) shop) })
  | .publish publication, s => ((), { s with published := publication :: s.published })
  | .schedule job delayMs, s => ((), schedule job delayMs s)
  | .randomUUID, s => (host.uuid s.drawn, { s with drawn := s.drawn + 1 })
  | .sleep _, s => ((), s)
  | .runBattle _ state, s => (Game.runBattle host.localeCompare state, s)
  | .findActiveByUserId userId, s =>
    (if s.row.status = .in_progress && isPlayer s.row userId then some s.row.id else none, s)
  | .usernamesForPlayers player1Id player2Id, s => (usernames s.users player1Id player2Id, s)
  | .updateState .p1 state, s => ((), { s with row := { s.row with p1State := state } })
  | .updateState .p2 state, s => ((), { s with row := { s.row with p2State := state } })
  | .updateRuntimeSnapshot p1State p2State wipeIndexP1 wipeIndexP2, s =>
    ((), { s with row := { s.row with p1State := p1State, p2State := p2State,
                                      wipeIndexP1 := wipeIndexP1, wipeIndexP2 := wipeIndexP2 } })
  | .appendRoundEvents round events, s =>
    ((), { s with row := { s.row with rounds := saveRoundEvents round events s.row.rounds } })
  | .findMatch, s => (s.row, s)
  | .finalizeRow winnerId reason, s => finalizeRow host.eloDelta winnerId reason s
  | .invalidateUsers _, s => ((), s)
  | .bumpVersion, s => ((), s)

end AutoChess.Runtime
