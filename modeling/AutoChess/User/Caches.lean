/-
The two read caches over the users' results: `StatsService` keeps a player's
statistics under one key and deletes it when a match is final,
`LeaderboardService` keeps pages under keys that carry a version and counts
the version up. Neither takes a lock: a reader that finds nothing computes
from the database and fills the cache afterwards.

The transaction that makes a match final is the runtime's `finalizeRow`, here
on the rows of all matches.
-/
import AutoChess.Runtime.Services
import Mathlib.Data.String.Basic

namespace AutoChess.Caches

open AutoChess.Runtime (MatchRow MatchStatus MatchEndReason FinalizeReply RatingChange finalizeRow)
open Calls Expiring

/-! ## The database -/

structure User extends Runtime.User where
  id : String
  deriving DecidableEq, Repr

/-- The rows of `matches` and `users`, matches under their primary key. -/
structure Tables where
  games : List MatchRow
  users : List User
  ids : (games.map (·.id)).Nodup

/-- What floating point computes: the rating formula, and
`Math.round((wins / matches) * 100)`. -/
structure Arithmetic where
  eloDelta : Int → Int → Bool → Int
  percent : Nat → Nat → Nat

/-- One match as the transaction sees it. -/
def Tables.view (db : Tables) (now : Nat) (row : MatchRow) : Runtime.Store :=
  { now := now, row := row, users := fun id => (db.users.find? (·.id == id)).map (·.toUser) }

theorem finalizeRow_id (eloDelta : Int → Int → Bool → Int) (winnerId : Option String) (reason : MatchEndReason)
    (s : Runtime.Store) : (finalizeRow eloDelta winnerId reason s).2.row.id = s.row.id := by
  unfold finalizeRow
  split
  · rfl
  · dsimp only
    split
    · rfl
    · split
      · rfl
      · split <;> rfl

variable (arithmetic : Arithmetic)

/-- The transaction of `finalize`; `none` when there is no such match. -/
def finalizeTx (now : Nat) (matchId : String) (winnerId : Option String) (reason : MatchEndReason) (db : Tables) :
    Option FinalizeReply × Tables :=
  match h : db.games.find? (·.id == matchId) with
  | none => (none, db)
  | some row =>
    let out := finalizeRow arithmetic.eloDelta winnerId reason (db.view now row)
    (some out.1,
      { games := db.games.map fun g => if g.id == matchId then out.2.row else g
        users := db.users.map fun u => { u with toUser := (out.2.users u.id).getD u.toUser }
        ids := by
          have hid : ∀ g : MatchRow, (if g.id == matchId then out.2.row else g).id = g.id := by
            intro g
            split
            · next hg =>
              have hrow : row.id = matchId := by simpa using List.find?_some h
              have hg : g.id = matchId := by simpa using hg
              rw [finalizeRow_id]
              exact hrow.trans hg.symm
            · rfl
          rw [List.map_map, show (fun g : MatchRow => g.id) ∘ _ = fun g : MatchRow => g.id from funext hid]
          exact db.ids })

/-! ## What is read -/

structure PlayerStats where
  played : Nat
  wins : Nat
  losses : Nat
  winRate : Option Nat
  currentRank : Option Nat
  deriving DecidableEq, Repr

structure LeaderboardEntry where
  rank : Nat
  username : String
  rating : Int
  deriving DecidableEq, Repr

structure LeaderboardResponse where
  entries : List LeaderboardEntry
  me : LeaderboardEntry
  limit : Nat
  offset : Nat
  total : Nat
  deriving DecidableEq, Repr

/-- `"status" IN ('finished', 'forfeited') AND ("player1Id" = $1 OR "player2Id" = $1)`. -/
def counted (userId : String) (row : MatchRow) : Bool :=
  (row.status == .finished || row.status == .forfeited) && (row.player1Id == userId || row.player2Id == userId)

structure Results where
  played : Nat
  wins : Nat
  losses : Nat
  deriving DecidableEq, Repr

/-- The aggregate over the user's matches. -/
def countMatches (userId : String) (db : Tables) : Results where
  played := db.games.countP (counted userId)
  wins := db.games.countP fun row => counted userId row && row.winnerId == some userId
  losses := db.games.countP fun row => counted userId row && row.winnerId.any (· != userId)

def findUser (userId : String) (db : Tables) : Option User := db.users.find? (·.id == userId)

/-- `SELECT COUNT(*) FROM "users" WHERE "rating" > $1`. -/
def countGreater (rating : Int) (db : Tables) : Nat := db.users.countP (rating < ·.rating)

/-- The user with the rank of its rating; ties share a rank. -/
def ranked (db : Tables) (user : User) : LeaderboardEntry where
  rank := countGreater user.rating db + 1
  username := user.username
  rating := user.rating

/-- `ORDER BY "rating" DESC, "id" ASC`. -/
def listedBefore (a b : User) : Prop := b.rating < a.rating ∨ a.rating = b.rating ∧ a.id ≤ b.id

instance : DecidableRel listedBefore := fun a b =>
  inferInstanceAs (Decidable (b.rating < a.rating ∨ a.rating = b.rating ∧ a.id ≤ b.id))

def pageRows (limit offset : Nat) (db : Tables) : List LeaderboardEntry :=
  (((db.users.insertionSort listedBefore).drop offset).take limit).map (ranked db)

def meRow (userId : String) (db : Tables) : Option LeaderboardEntry := (findUser userId db).map (ranked db)

/-- The statistics from the aggregate and the rank, if the user exists. -/
def playerStats (results : Results) (greater : Option Nat) : PlayerStats where
  played := results.played
  wins := results.wins
  losses := results.losses
  winRate := if 0 < results.played then some (arithmetic.percent results.wins results.played) else none
  currentRank := greater.map (· + 1)

/-! ## Commands -/

/-- `leaderboard:{version}:{userId}:{limit}:{offset}`. -/
structure PageKey where
  version : Nat
  userId : String
  limit : Nat
  offset : Nat
  deriving DecidableEq, Repr

structure Store where
  /-- Redis time, in milliseconds. -/
  now : Nat := 0
  db : Tables
  /-- `stats:{userId}`. -/
  stats : String → Key PlayerStats := fun _ => {}
  /-- `leaderboard:version`, which never expires. -/
  version : Option Nat := none
  pages : PageKey → Key LeaderboardResponse := fun _ => {}

inductive Cmd where
  | getStats (userId : String)
  | setStats (userId : String) (stats : PlayerStats) (ttlSeconds : Nat)
  | delStats (userIds : List String)
  | getVersion
  | incrVersion
  | getPage (key : PageKey)
  | setPage (key : PageKey) (response : LeaderboardResponse) (ttlSeconds : Nat)
  | countMatches (userId : String)
  | findUser (userId : String)
  | countGreater (rating : Int)
  | countUsers
  | pageRows (limit offset : Nat)
  | meRow (userId : String)
  | finalizeTx (matchId : String) (winnerId : Option String) (reason : MatchEndReason)
  | scheduleMatchCleanup (matchId : String)
  | publishEnd (row : MatchRow) (reason : MatchEndReason) (rating : Option (RatingChange × RatingChange))
  /-- The call returns. -/
  | respondStats (userId : String) (stats : PlayerStats)
  | respondLeaderboard (userId : String) (limit offset : Nat) (response : LeaderboardResponse)
  deriving DecidableEq

abbrev Resp : Cmd → Type
  | .getStats _ => Option PlayerStats
  | .getVersion => Option Nat
  | .getPage _ => Option LeaderboardResponse
  | .countMatches _ => Results
  | .findUser _ => Option User
  | .countGreater _ | .countUsers => Nat
  | .pageRows _ _ => List LeaderboardEntry
  | .meRow _ => Option LeaderboardEntry
  | .finalizeTx _ _ _ => Option FinalizeReply
  | _ => Unit

def act : (c : Cmd) → Store → Resp c × Store
  | .getStats userId, s => ((s.stats userId).get s.now, s)
  | .setStats userId stats ttlSeconds, s =>
    ((), { s with stats := Function.update s.stats userId (Key.setEx s.now (ttlSeconds * 1000) stats) })
  | .delStats userIds, s => ((), { s with stats := fun id => if id ∈ userIds then {} else s.stats id })
  | .getVersion, s => (s.version, s)
  | .incrVersion, s => ((), { s with version := some (s.version.getD 0 + 1) })
  | .getPage key, s => ((s.pages key).get s.now, s)
  | .setPage key response ttlSeconds, s =>
    ((), { s with pages := Function.update s.pages key (Key.setEx s.now (ttlSeconds * 1000) response) })
  | .countMatches userId, s => (countMatches userId s.db, s)
  | .findUser userId, s => (findUser userId s.db, s)
  | .countGreater rating, s => (countGreater rating s.db, s)
  | .countUsers, s => (s.db.users.length, s)
  | .pageRows limit offset, s => (pageRows limit offset s.db, s)
  | .meRow userId, s => (meRow userId s.db, s)
  | .finalizeTx matchId winnerId reason, s =>
    let out := finalizeTx arithmetic s.now matchId winnerId reason s.db
    (out.1, { s with db := out.2 })
  | .scheduleMatchCleanup _, s | .publishEnd _ _ _, s | .respondStats _ _, s | .respondLeaderboard _ _ _ _, s =>
    ((), s)

/-! ## Programs -/

inductive Err where
  /-- A call threw. -/
  | fault
  | conflict (message : String)
  | notFound (code message : String)
  | badRequest (code message : String)
  deriving DecidableEq, Repr

abbrev M := Prog Cmd Resp Err

def call (c : Cmd) : M (Resp c) := Prog.perform .fault c

def STATS_CACHE_TTL_SECONDS : Nat := 60

def LEADERBOARD_CACHE_TTL_SECONDS : Nat := 30

def INITIAL_VERSION : Nat := 0

def computeStats (userId : String) : M PlayerStats := do
  let results ← call (.countMatches userId)
  match ← call (.findUser userId) with
  | none => return playerStats arithmetic results none
  | some user =>
    let greater ← call (.countGreater user.rating)
    return playerStats arithmetic results (some greater)

/-- Computes the statistics and tries to store them. -/
def refillStats (userId : String) : M PlayerStats := do
  let stats ← computeStats arithmetic userId
  let _ ← (call (.setStats userId stats STATS_CACHE_TTL_SECONDS)).attempt
  return stats

def getStats (userId : String) : M PlayerStats := do
  match ← (call (.getStats userId)).attempt with
  | .ok (some cached) => return cached
  | _ => refillStats arithmetic userId

def readVersion : M (Option Nat) := do
  match ← (call .getVersion).attempt with
  | .ok version => return some (version.getD INITIAL_VERSION)
  | .error _ => return none

def computeLeaderboard (userId : String) (limit offset : Nat) : M LeaderboardResponse := do
  let total ← call .countUsers
  let entries ← call (.pageRows limit offset)
  match ← call (.meRow userId) with
  | none => Prog.throw (.conflict "user not found")
  | some me => return { entries := entries, me := me, limit := limit, offset := offset, total := total }

/-- Computes the page and tries to store it. -/
def refillPage (key : PageKey) : M LeaderboardResponse := do
  let response ← computeLeaderboard key.userId key.limit key.offset
  let _ ← (call (.setPage key response LEADERBOARD_CACHE_TTL_SECONDS)).attempt
  return response

def getLeaderboard (userId : String) (limit offset : Nat) : M LeaderboardResponse := do
  match ← readVersion with
  | none => computeLeaderboard userId limit offset
  | some version =>
    match ← (call (.getPage ⟨version, userId, limit, offset⟩)).attempt with
    | .ok (some cached) => return cached
    | _ => refillPage ⟨version, userId, limit, offset⟩

def finalize (matchId : String) (winnerId : Option String) (reason : MatchEndReason) : M Unit := do
  match ← call (.finalizeTx matchId winnerId reason) with
  | none => Prog.throw (.notFound "match.not_found" s!"Match {matchId} not found")
  | some .invalidWinner =>
    Prog.throw (.badRequest "match.invalid_winner" "winnerId must be one of the match participants")
  | some .playerNotFound =>
    Prog.throw (.notFound "match.player_not_found" "One or more match participants no longer exist")
  | some (.notInProgress terminal) =>
    if terminal then call (.scheduleMatchCleanup matchId) else return ()
  | some (.finalized row rating) => do
    call (.scheduleMatchCleanup row.id)
    -- Both are best-effort.
    let _ ← (call (.delStats [row.player1Id, row.player2Id])).attempt
    let _ ← (call .incrVersion).attempt
    call (.publishEnd row reason rating)

inductive Request where
  | getStats (userId : String)
  | getLeaderboard (userId : String) (limit offset : Nat)
  | finalize (matchId : String) (winnerId : Option String) (reason : MatchEndReason)
  deriving DecidableEq

def program : Request → M Unit
  | .getStats userId => do
    let stats ← getStats arithmetic userId
    call (.respondStats userId stats)
  | .getLeaderboard userId limit offset => do
    let response ← getLeaderboard userId limit offset
    call (.respondLeaderboard userId limit offset response)
  | .finalize matchId winnerId reason => finalize matchId winnerId reason

/-- Calls on any number of replicas, over one database and one Redis, while
time passes. -/
def pool : Pool Store Request Nat Cmd Resp Err where
  act := act arithmetic
  env := fun ms s => { s with now := s.now + ms }
  program := program arithmetic

end AutoChess.Caches
