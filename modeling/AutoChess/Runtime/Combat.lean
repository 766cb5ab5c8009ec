/-
Programs of the runtime, part one: what every operation shares, and the
combat coordinator.
-/
import AutoChess.Runtime.Services

namespace AutoChess.Runtime

open AutoChess.Game AutoChess.Shop Calls

/-- What a call of the source can throw: a failed service call, an internal
error, or a rejection sent to the client. -/
inductive Err where
  | fault
  | internal (message : String)
  | reject (r : Rejection)
  deriving DecidableEq, Repr

abbrev M := Prog Cmd Resp Err

def call (c : Cmd) : M (Resp c) := Prog.perform .fault c

def fail {α : Type} (code message : String) : M α := Prog.throw (.reject ⟨code, message⟩)

/-- The value, or the rejection it is. -/
def orReject {α : Type} : Except Rejection α → M α
  | .ok a => pure a
  | .error r => Prog.throw (.reject r)

/-! ## Reading and publishing the runtime -/

variable (matchId : String)

/-- Hashes without player names are hydrated from PostgreSQL once. -/
def findRuntime : M (Option MatchRuntimeState) := do
  let hash ← call .hgetall
  match parseRuntimeHash matchId hash with
  | none => return none
  | some runtime =>
    if hash.player1Name == "" || hash.player2Name == "" then
      let names ← call (.usernamesForPlayers runtime.player1Id runtime.player2Id)
      call (.hset [.player1Name names.player1Name, .player2Name names.player2Name])
      return some { runtime with player1Name := names.player1Name, player2Name := names.player2Name }
    else
      return some runtime

def getRuntime : M MatchRuntimeState := do
  match ← findRuntime matchId with
  | none => fail "match.runtime_not_found" s!"Runtime for match {matchId} was not found"
  | some runtime => return runtime

def sideFor (runtime : MatchRuntimeState) (userId : String) : M Side :=
  if runtime.player1Id = userId then pure .p1
  else if runtime.player2Id = userId then pure .p2
  else fail "match.not_your_match" "User is not a participant in this match"

def publish (payload : Payload) : M Unit := call (.publish { payload := payload })

def publishToUser (userId : String) (payload : Payload) : M Unit :=
  call (.publish { targetUserId := some userId, payload := payload })

/-- Each player's own view, the changed side showing `changedState`. -/
def publishState (runtime : MatchRuntimeState) (changedSide : Side)
    (changedState : RuntimePlayerState) : M Unit :=
  let p1 := match changedSide with | .p1 => changedState | .p2 => runtime.p1State
  let p2 := match changedSide with | .p1 => runtime.p2State | .p2 => changedState
  (publishToUser runtime.player1Id
    (.state (matchStatePayload runtime .p1 p1 p2 (readyCount runtime)))).both
  (publishToUser runtime.player2Id
    (.state (matchStatePayload runtime .p2 p2 p1 (readyCount runtime))))

/-! ## The combat coordinator -/

def COMBAT_LOCK_TTL_SECONDS : Nat := 30

variable (host : Host)

def roundSeed (matchSeed : String) (round : Nat) : UInt32 :=
  host.digests.hashString s!"{matchSeed}:{round}"

/-- The battle a runtime starts. -/
def battleOf (runtime : MatchRuntimeState) : Except String BattleState := do
  let p1Units ← unitsFromBoard runtime.p1State.board .p1
  let p2Units ← unitsFromBoard runtime.p2State.board .p2
  return { p1Units := p1Units, p2Units := p2Units, matchSeed := runtime.matchSeed,
           roundSeed := roundSeed host runtime.matchSeed runtime.round }

/-- What `runCombat` does once it holds the lock. -/
def fightRound (expectedRound : Nat) : M Bool := do
  let hash ← call .hgetall
  match parseRuntimeHash matchId hash with
  | none => return false
  | some runtime =>
    if runtime.phase != .battle || runtime.round != expectedRound ||
        runtime.combatRound == some expectedRound then
      return false
    else
      call .delCombatKeys
      match battleOf host runtime with
      | .error message => Prog.throw (.internal message)
      | .ok battle =>
        let events ← call (.runBattle runtime.round battle)
        let hash ← call .hgetall
        match parseRuntimeHash matchId hash with
        | none => return false
        | some current =>
          if current.phase != .battle || current.round != expectedRound then
            return false
          else
            let timeoutMs := combatDoneTimeoutForEventCount (visibleEventCount events)
              (combatDoneTimeoutMs host.timeoutSetting)
            call (.appendRoundEvents runtime.round events)
            call (.writeCombatResult events (combatResultTtlSeconds timeoutMs))
            call (.hset [.combatRound (some runtime.round)])
            publish (.combatEvents matchId runtime.round (cycleCount events) events
              runtime.p1State.board runtime.p2State.board)
            call (.schedule (.combatDoneTimeout runtime.round) timeoutMs)
            return true

/-- Runs one battle, under the match's combat lock. -/
def runCombat (expectedRound : Nat) : M Bool := do
  let owner ← call .randomUUID
  let acquired ← call (.setLock .combat owner (COMBAT_LOCK_TTL_SECONDS * 1000))
  if acquired then
    (fightRound matchId host expectedRound).ensuring (call (.releaseOwnedLock .combat owner))
  else
    return false

end AutoChess.Runtime
