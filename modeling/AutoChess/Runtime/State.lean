/-
The runtime state of a match: the Redis hash, the value it parses to, the
units of a roster and the payloads built from them.

Hash fields keep the values their text stands for: `'0'`/`'1'` a Bool, a
decimal a number, `''` a `none`, a JSON text its value. A hash without
`phase` or `round` is one that a write re-created after the key expired, and
parses to nothing, as the absent hash does.
-/
import AutoChess.Game.Constants
import AutoChess.Game.Types

namespace AutoChess.Runtime

open AutoChess.Game

inductive MatchPhase where
  | shop_place | battle | resolved | finished
  deriving DecidableEq, Repr

def MatchPhase.text : MatchPhase → String
  | .shop_place => "shop_place"
  | .battle => "battle"
  | .resolved => "resolved"
  | .finished => "finished"

structure RuntimeUnitState where
  instanceId : String
  unitId : UnitId
  star : Nat
  hp : Int
  maxHp : Int
  investedGold : Option Int := none
  deriving DecidableEq, Repr

abbrev Slots := List (Option RuntimeUnitState)

structure RuntimePlayerState where
  hp : Int
  gold : Int
  ready : Bool
  board : Slots
  bench : Slots
  deriving DecidableEq, Repr

structure OpponentBoardUnit where
  unitId : UnitId
  star : Nat
  deriving DecidableEq, Repr

abbrev OpponentBoardSummary := List (Option OpponentBoardUnit)

structure MatchRuntimeState where
  matchId : String
  player1Id : String
  player2Id : String
  player1Name : String
  player2Name : String
  matchSeed : String
  phase : MatchPhase
  round : Nat
  p1State : RuntimePlayerState
  p2State : RuntimePlayerState
  readyP1 : Bool
  readyP2 : Bool
  wipeIndexP1 : Nat
  wipeIndexP2 : Nat
  combatRound : Option Nat
  scoutRound : Option Nat
  scoutP1Board : OpponentBoardSummary
  scoutP2Board : OpponentBoardSummary
  deriving DecidableEq, Repr

def emptyBoardSummary : OpponentBoardSummary := List.replicate 9 none

/-- The PostgreSQL row a match starts from. -/
structure Match where
  id : String
  player1Id : String
  player2Id : String
  matchSeed : String
  wipeIndexP1 : Nat := 0
  wipeIndexP2 : Nat := 0
  p1State : RuntimePlayerState
  p2State : RuntimePlayerState
  deriving DecidableEq, Repr

/-! ## The hash -/

structure RuntimeHash where
  player1Id : String := ""
  player2Id : String := ""
  player1Name : String := ""
  player2Name : String := ""
  matchSeed : String := ""
  phase : Option MatchPhase := none
  round : Option Nat := none
  p1State : RuntimePlayerState := ⟨100, 5, false, [], []⟩
  p2State : RuntimePlayerState := ⟨100, 5, false, [], []⟩
  readyP1 : Bool := false
  readyP2 : Bool := false
  wipeIndexP1 : Nat := 0
  wipeIndexP2 : Nat := 0
  combatRound : Option Nat := none
  scoutRound : Option Nat := none
  scoutP1Board : OpponentBoardSummary := emptyBoardSummary
  scoutP2Board : OpponentBoardSummary := emptyBoardSummary
  deriving DecidableEq, Repr

/-- One field of an `HSET`. -/
inductive FieldWrite where
  | player1Name (v : String)
  | player2Name (v : String)
  | phase (v : MatchPhase)
  | round (v : Nat)
  | p1State (v : RuntimePlayerState)
  | p2State (v : RuntimePlayerState)
  | readyP1 (v : Bool)
  | readyP2 (v : Bool)
  | wipeIndexP1 (v : Nat)
  | wipeIndexP2 (v : Nat)
  | combatRound (v : Option Nat)
  | scoutRound (v : Option Nat)
  | scoutP1Board (v : OpponentBoardSummary)
  | scoutP2Board (v : OpponentBoardSummary)
  deriving DecidableEq, Repr

def RuntimeHash.write (h : RuntimeHash) : FieldWrite → RuntimeHash
  | .player1Name v => { h with player1Name := v }
  | .player2Name v => { h with player2Name := v }
  | .phase v => { h with phase := some v }
  | .round v => { h with round := some v }
  | .p1State v => { h with p1State := v }
  | .p2State v => { h with p2State := v }
  | .readyP1 v => { h with readyP1 := v }
  | .readyP2 v => { h with readyP2 := v }
  | .wipeIndexP1 v => { h with wipeIndexP1 := v }
  | .wipeIndexP2 v => { h with wipeIndexP2 := v }
  | .combatRound v => { h with combatRound := v }
  | .scoutRound v => { h with scoutRound := v }
  | .scoutP1Board v => { h with scoutP1Board := v }
  | .scoutP2Board v => { h with scoutP2Board := v }

def RuntimeHash.hset (h : RuntimeHash) (fields : List FieldWrite) : RuntimeHash :=
  fields.foldl RuntimeHash.write h

/-- The field a side's state, or its ready flag, is stored under. -/
def stateField : Side → RuntimePlayerState → FieldWrite
  | .p1 => .p1State
  | .p2 => .p2State

def readyField : Side → Bool → FieldWrite
  | .p1 => .readyP1
  | .p2 => .readyP2

/-! ## Reading it back -/

def normalizeSlots (input : Slots) (length : Nat) : Slots :=
  (List.range length).map fun index => (input[index]?).join

def finiteNonNegative (value fallback : Int) : Int := if value ≥ 0 then value else fallback

def finitePositive (value fallback : Int) : Int := if value > 0 then value else fallback

def positiveInt : Option Nat → Option Nat
  | some n => if n > 0 then some n else none
  | none => none

def normalizePlayerState (source : RuntimePlayerState) : RuntimePlayerState :=
  { hp := finiteNonNegative source.hp 100
    gold := finiteNonNegative source.gold 5
    ready := source.ready
    board := normalizeSlots source.board 9
    bench := normalizeSlots source.bench 8 }

def isStar (star : Nat) : Bool := star ≤ 2

def normalizeBoardSummary (input : OpponentBoardSummary) : OpponentBoardSummary :=
  (List.range 9).map fun index => ((input[index]?).join).filter fun u => isStar u.star

/-- An empty string is falsy: `hash.player1Name || 'ผู้เล่น 1'`. -/
def orDefault (value fallback : String) : String := if value == "" then fallback else value

def parseRuntimeHash (matchId : String) (hash : RuntimeHash) : Option MatchRuntimeState := do
  let phase ← hash.phase
  let round ← positiveInt hash.round
  return {
    matchId := matchId
    player1Id := hash.player1Id
    player2Id := hash.player2Id
    player1Name := orDefault hash.player1Name "ผู้เล่น 1"
    player2Name := orDefault hash.player2Name "ผู้เล่น 2"
    matchSeed := hash.matchSeed
    phase := phase
    round := round
    p1State := normalizePlayerState hash.p1State
    p2State := normalizePlayerState hash.p2State
    readyP1 := hash.readyP1
    readyP2 := hash.readyP2
    wipeIndexP1 := hash.wipeIndexP1
    wipeIndexP2 := hash.wipeIndexP2
    combatRound := positiveInt hash.combatRound
    scoutRound := positiveInt hash.scoutRound
    scoutP1Board := normalizeBoardSummary hash.scoutP1Board
    scoutP2Board := normalizeBoardSummary hash.scoutP2Board }

structure PlayerNames where
  player1Name : String
  player2Name : String
  deriving DecidableEq, Repr

def initialRuntimeHash (m : Match) (names : PlayerNames) : RuntimeHash :=
  { player1Id := m.player1Id
    player2Id := m.player2Id
    player1Name := names.player1Name
    player2Name := names.player2Name
    matchSeed := m.matchSeed
    phase := some .shop_place
    round := some 1
    p1State := { normalizePlayerState m.p1State with ready := false }
    p2State := { normalizePlayerState m.p2State with ready := false }
    readyP1 := false
    readyP2 := false
    wipeIndexP1 := m.wipeIndexP1
    wipeIndexP2 := m.wipeIndexP2
    combatRound := none
    scoutRound := none
    scoutP1Board := emptyBoardSummary
    scoutP2Board := emptyBoardSummary }

def sideState (runtime : MatchRuntimeState) : Side → RuntimePlayerState
  | .p1 => runtime.p1State
  | .p2 => runtime.p2State

def sideReady (runtime : MatchRuntimeState) : Side → Bool
  | .p1 => runtime.readyP1
  | .p2 => runtime.readyP2

def readyCount (runtime : MatchRuntimeState) : Nat :=
  runtime.readyP1.toNat + runtime.readyP2.toNat

/-! ## Boards and payloads -/

def summarizeBoard (board : Slots) : OpponentBoardSummary :=
  (List.range 9).map fun index =>
    match (board[index]?).join with
    | some unit => if isStar unit.star then some ⟨unit.unitId, unit.star⟩ else none
    | none => none

def sideName : Side → String
  | .p1 => "p1"
  | .p2 => "p2"

/-- The unit one board slot puts into a battle. -/
def unitFromEntry (side : Side) (slot : Nat) (entry : RuntimeUnitState) :
    Except String UnitInstance :=
  match entry.star with
  | 0 => .ok (unitOf 0)
  | 1 => .ok (unitOf 1)
  | 2 => .ok (unitOf 2)
  | _ => .error s!"runtime.invalid_unit: {sideName side} slot {slot}"
where
  unitOf (star : Star) : UnitInstance :=
    let maxHp := finitePositive entry.maxHp (UNIT_BASE_STATS entry.unitId).hp
    let hp := min maxHp (finiteNonNegative entry.hp maxHp)
    { instanceId := entry.instanceId, unitId := entry.unitId, star := star, hp := hp,
      maxHp := maxHp, slot := slot, side := side, alive := hp > 0 }

def unitsFromBoard (board : Slots) (side : Side) : Except String (List UnitInstance) :=
  go 0 board
where
  go (slot : Nat) : Slots → Except String (List UnitInstance)
    | [] => .ok []
    | none :: rest => go (slot + 1) rest
    | some entry :: rest => do
      let unit ← unitFromEntry side slot entry
      let units ← go (slot + 1) rest
      return unit :: units

structure PhasePlayer where
  id : String
  username : String
  hp : Int
  gold : Int
  ready : Bool
  deriving DecidableEq, Repr

structure PhasePayload where
  matchId : String
  phase : MatchPhase
  round : Nat
  timer : Nat
  players : List PhasePlayer
  deriving DecidableEq, Repr

def phasePayload (runtime : MatchRuntimeState) (timer : Nat) : PhasePayload :=
  { matchId := runtime.matchId, phase := runtime.phase, round := runtime.round, timer := timer
    players := [
      { id := runtime.player1Id, username := runtime.player1Name, hp := runtime.p1State.hp,
        gold := runtime.p1State.gold, ready := runtime.readyP1 },
      { id := runtime.player2Id, username := runtime.player2Name, hp := runtime.p2State.hp,
        gold := runtime.p2State.gold, ready := runtime.readyP2 }] }

structure RosterView where
  username : String
  board : Slots
  bench : Slots
  gold : Int
  hp : Int
  deriving DecidableEq, Repr

structure OpponentView where
  username : String
  gold : Int
  hp : Int
  scoutRound : Option Nat
  boardSummary : OpponentBoardSummary
  battleBoardSummary : Option OpponentBoardSummary
  deriving DecidableEq, Repr

structure StatePayload where
  matchId : String
  round : Nat
  yourSide : Side
  roster : RosterView
  opponent : OpponentView
  readyCount : Nat
  deriving DecidableEq, Repr

def matchStatePayload (runtime : MatchRuntimeState) (side : Side) (own opponent : RuntimePlayerState)
    (readyCount : Nat) : StatePayload :=
  { matchId := runtime.matchId
    round := runtime.round
    yourSide := side
    roster := {
      username := match side with | .p1 => runtime.player1Name | .p2 => runtime.player2Name
      board := own.board
      bench := own.bench
      gold := own.gold
      hp := own.hp }
    opponent := {
      username := match side with | .p1 => runtime.player2Name | .p2 => runtime.player1Name
      gold := opponent.gold
      hp := opponent.hp
      scoutRound := runtime.scoutRound
      boardSummary := match side with | .p1 => runtime.scoutP2Board | .p2 => runtime.scoutP1Board
      -- The live board is sent only after both rosters are locked for battle.
      battleBoardSummary :=
        if runtime.phase = .battle then some (summarizeBoard opponent.board) else none }
    readyCount := readyCount }

end AutoChess.Runtime
