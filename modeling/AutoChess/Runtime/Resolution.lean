/-
What a finished battle does to the two players, and the clocks that follow
its length.
-/
import AutoChess.Runtime.State

namespace AutoChess.Runtime

open AutoChess.Game

def SHOP_PHASE_SECONDS : Nat := 40
def SHOP_PHASE_MS : Nat := SHOP_PHASE_SECONDS * 1000
def RUNTIME_TTL_SECONDS : Nat := 30 * 60
def ROUND_GOLD : Int := 5
def TIE_DAMAGE : Nat := 5
def ROUND_READY_GRACE_MS : Nat := 3000
def ROUND_READY_GRACE_SECONDS : Nat := ROUND_READY_GRACE_MS / 1000

/-! ## Damage -/

/-- The winner the last `battle_end` of the log names; `none` when the log
has none, which the source throws on. -/
def battleWinner (events : List CombatEvent) : Option (Option Side) :=
  events.reverse.findSome? fun event =>
    match event.kind with
    | .battleEnd _ winner => some winner
    | _ => none

structure Damage where
  p1 : Nat
  p2 : Nat
  wipeIndexP1 : Nat
  wipeIndexP2 : Nat
  deriving DecidableEq, Repr

def damageFor (winner : Option Side) (p1Index p2Index : Nat) : Damage :=
  match winner with
  | none => { p1 := TIE_DAMAGE, p2 := TIE_DAMAGE, wipeIndexP1 := p1Index, wipeIndexP2 := p2Index }
  | some .p1 =>
    let next := min 5 (p2Index + 1)
    { p1 := 0, p2 := next * 5, wipeIndexP1 := p1Index, wipeIndexP2 := next }
  | some .p2 =>
    let next := min 5 (p1Index + 1)
    { p1 := next * 5, p2 := 0, wipeIndexP1 := next, wipeIndexP2 := p2Index }

structure SideDamage where
  wiped : Bool
  tie : Bool
  hpBefore : Int
  hpAfter : Int
  damageApplied : Nat
  deriving DecidableEq, Repr

structure DamagePayload where
  matchId : String
  round : Nat
  p1 : SideDamage
  p2 : SideDamage
  /-- `winner ?? 'tie'`. -/
  winner : Option Side
  deriving DecidableEq, Repr

structure Resolution where
  damage : Damage
  p1 : RuntimePlayerState
  p2 : RuntimePlayerState
  damagePayload : DamagePayload
  /-- `undefined` while both players live, else the winner's id or a draw. -/
  winnerId : Option (Option String)
  deriving DecidableEq, Repr

/-- `Math.max(0, hp - damage)`. -/
def hit (state : RuntimePlayerState) (damage : Nat) : RuntimePlayerState :=
  { state with hp := max 0 (state.hp - damage) }

/-- Who has won once these are the players' HP. -/
def knockout (runtime : MatchRuntimeState) (p1Hp p2Hp : Int) : Option (Option String) :=
  if p1Hp ≤ 0 && p2Hp ≤ 0 then some none
  else if p1Hp ≤ 0 then some (some runtime.player2Id)
  else if p2Hp ≤ 0 then some (some runtime.player1Id)
  else none

/-- `none` when `battleWinner` throws. -/
def resolveRound (runtime : MatchRuntimeState) (round : Nat) (events : List CombatEvent) :
    Option Resolution := do
  let winner ← battleWinner events
  let damage := damageFor winner runtime.wipeIndexP1 runtime.wipeIndexP2
  let p1 := hit runtime.p1State damage.p1
  let p2 := hit runtime.p2State damage.p2
  return {
    damage := damage
    p1 := p1
    p2 := p2
    damagePayload := {
      matchId := runtime.matchId
      round := round
      p1 := { wiped := winner == some .p2, tie := winner.isNone, hpBefore := runtime.p1State.hp,
              hpAfter := p1.hp, damageApplied := damage.p1 }
      p2 := { wiped := winner == some .p1, tie := winner.isNone, hpBefore := runtime.p2State.hp,
              hpAfter := p2.hp, damageApplied := damage.p2 }
      winner := winner }
    winnerId := knockout runtime p1.hp p2.hp }

/-- A surviving player's state after the round: damage, then gold. -/
def rewarded (state : RuntimePlayerState) : RuntimePlayerState :=
  { state with gold := state.gold + ROUND_GOLD, ready := false }

/-! ## Deadlines -/

def REAL_COMBAT_DONE_TIMEOUT_MS : Nat := 60000
def COMBAT_EVENT_PLAYBACK_MS : Nat := 800
def COMBAT_PLAYBACK_GRACE_MS : Nat := 5000

/-- The `COMBAT_DONE_TIMEOUT_MS` setting, `none` when it is unset, empty or
not a number. -/
def combatDoneTimeoutMs (raw : Option Int) : Nat :=
  match raw with
  | none => REAL_COMBAT_DONE_TIMEOUT_MS
  | some parsed =>
    if parsed ≥ 250 && parsed ≤ 300000 then parsed.toNat else REAL_COMBAT_DONE_TIMEOUT_MS

def combatDoneTimeoutForEventCount (eventCount configuredTimeoutMs : Nat) : Nat :=
  if configuredTimeoutMs ≠ REAL_COMBAT_DONE_TIMEOUT_MS then configuredTimeoutMs
  else max REAL_COMBAT_DONE_TIMEOUT_MS
    (eventCount * COMBAT_EVENT_PLAYBACK_MS + COMBAT_PLAYBACK_GRACE_MS)

/-- `Math.ceil(timeoutMs / 1000) + 30`. -/
def combatResultTtlSeconds (timeoutMs : Nat) : Nat := (timeoutMs + 999) / 1000 + 30

/-- The events a client plays back. -/
def isVisible (event : CombatEvent) : Bool :=
  match event.kind with
  | .cycleEnd _ | .battleEnd _ _ | .death _ _ _ => false
  | _ => true

def visibleEventCount (events : List CombatEvent) : Nat := (events.filter isVisible).length

/-- `cycleCount` of the combat-events message. -/
def cycleCount (events : List CombatEvent) : Nat :=
  match events.getLast? with
  | some ⟨.battleEnd cycle _, _⟩ => cycle
  | _ => 0

end AutoChess.Runtime
