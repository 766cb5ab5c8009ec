/-
The runtime hash as Redis stores it: a text under each field, `'0'`/`'1'` for
a flag, a decimal for a number, `''` for none, JSON for a player state or a
board summary. `parseRuntimeHash` decodes every field on its own, with a
fallback of its own.
-/
import AutoChess.Lib.Json
import AutoChess.Runtime.State
import Mathlib.Logic.Function.Basic

namespace AutoChess.Codec

open AutoChess.Runtime (MatchPhase)
open Json

/-! ## The platform -/

/-- The functions of the language the codec is written with. -/
structure Platform where
  /-- `JSON.parse`; `none` when it throws. -/
  parse : String → Option Value
  /-- `JSON.stringify`. -/
  stringify : Value → String
  /-- `Number(text)`. -/
  number : String → Number
  /-- `String(n)`. -/
  string : Number → String

variable (js : Platform)

mutual
/-- `String(value)`; `none` when it throws, as it does on an object whose own
`toString` is no function. -/
def Platform.text : Value → Option String
  | .null => some "null"
  | .bool b => some (if b then "true" else "false")
  | .num x => some (js.string x)
  | .str s => some s
  | .arr elems => (Platform.texts elems).map (String.intercalate ",")
  | .obj fields => if (fields.lookup "toString").isSome then none else some "[object Object]"

def Platform.texts : List Value → Option (List String)
  | [] => some []
  | .null :: elems => (Platform.texts elems).map ("" :: ·)
  | value :: elems => do
    let text ← Platform.text value
    let texts ← Platform.texts elems
    return text :: texts
end

/-! ## Values -/

/-- `Record<string, string>`. -/
abbrev Hash := String → Option String

structure BoardUnit where
  unitId : Value
  star : Nat

abbrev OpponentBoardSummary := List (Option BoardUnit)

@[ext]
structure MatchRuntimeState where
  matchId : String
  player1Id : Option String
  player2Id : Option String
  player1Name : String
  player2Name : String
  matchSeed : Option String
  phase : MatchPhase
  round : Nat
  p1State : Record
  p2State : Record
  readyP1 : Bool
  readyP2 : Bool
  wipeIndexP1 : Nat
  wipeIndexP2 : Nat
  combatRound : Option Nat
  scoutRound : Option Nat
  scoutP1Board : OpponentBoardSummary
  scoutP2Board : OpponentBoardSummary

/-- The row a match starts from; its states are `jsonb`. -/
structure Match where
  id : String
  player1Id : String
  player2Id : String
  matchSeed : String
  wipeIndexP1 : Option Nat
  wipeIndexP2 : Option Nat
  p1State : Value
  p2State : Value

/-! ## Decoders -/

/-- `isPhase`. -/
def phaseOf (value : String) : Option MatchPhase :=
  [MatchPhase.shop_place, .battle, .resolved, .finished].find? (·.text == value)

/-- `Number(value)`; `undefined` is no number. -/
def numberOf (value : Option String) : Number := (value.map js.number).getD .nan

def positiveInt (value : Option String) : Option Nat :=
  (numberOf js value).integer?.bind fun parsed => if 0 < parsed then some parsed.toNat else none

def nonNegativeInt (value : Option String) : Nat :=
  ((numberOf js value).integer?.map Int.toNat).getD 0

def finiteNonNegative (value : Option Value) (fallback : ℚ) : ℚ :=
  match value with
  | some (.num (.finite q)) => if 0 ≤ q then q else fallback
  | _ => fallback

/-- `isRecord(entry) ? entry : null`. -/
def slotOf (entry : Option Value) : Value := (entry.filter (·.isRecord)).getD .null

def normalizeSlots (value : Option Value) (length : Nat) : List Value :=
  let input := match value with
    | some (.arr elems) => elems
    | _ => []
  (List.range length).map fun index => slotOf input[index]?

/-- `value === true`. -/
def isTrue : Option Value → Bool
  | some (.bool b) => b
  | _ => false

def normalizePlayerState (value : Value) : Record :=
  let source : Record := match value with
    | .obj fields => fields
    | _ => []
  ((((source.set "hp" (.num (.finite (finiteNonNegative (source.get "hp") 100)))).set
    "gold" (.num (.finite (finiteNonNegative (source.get "gold") 5)))).set
    "ready" (.bool (isTrue (source.get "ready")))).set
    "board" (.arr (normalizeSlots (source.get "board") 9))).set
    "bench" (.arr (normalizeSlots (source.get "bench") 8))

def emptyBoardSummary : OpponentBoardSummary := List.replicate 9 none

/-- `isUnitId`; `none` when reading the value as a text throws. -/
def isUnitId (value : Option Value) : Option Bool :=
  (match value with
  | none => some "undefined"
  | some value => js.text value).map fun text => ["fighter", "healer", "ranger", "tank"].contains text

/-- `isStar`. -/
def starOf : Option Value → Option Nat
  | some (.num (.finite q)) => [0, 1, 2].find? fun star : Nat => (star : ℚ) == q
  | _ => none

def summaryEntry (entry : Option Value) : Option (Option BoardUnit) :=
  match entry with
  | some (.obj fields) => do
    let known ← isUnitId js (Assoc.get fields "unitId")
    match known, Assoc.get fields "unitId", starOf (Assoc.get fields "star") with
    | true, some unitId, some star => return some ⟨unitId, star⟩
    | _, _, _ => return none
  | _ => some none

def normalizeBoardSummary (value : Option String) : OpponentBoardSummary :=
  match value with
  | none => emptyBoardSummary
  | some text =>
    if text = "" then emptyBoardSummary
    else
      match js.parse text with
      | some (.arr input) => ((List.range 9).mapM fun index => summaryEntry js input[index]?).getD emptyBoardSummary
      | _ => emptyBoardSummary

/-- `value || fallback`. -/
def orElse (value : Option String) (fallback : String) : String :=
  match value with
  | none => fallback
  | some text => if text = "" then fallback else text

def parseRuntimeHash (matchId : String) (hash : Hash) : Option MatchRuntimeState := do
  let phase ← (hash "phase").bind phaseOf
  let round ← positiveInt js (hash "round")
  let p1State ← (hash "p1State").bind js.parse
  let p2State ← (hash "p2State").bind js.parse
  return {
    matchId := matchId
    player1Id := hash "player1Id"
    player2Id := hash "player2Id"
    player1Name := orElse (hash "player1Name") "ผู้เล่น 1"
    player2Name := orElse (hash "player2Name") "ผู้เล่น 2"
    matchSeed := hash "matchSeed"
    phase := phase
    round := round
    p1State := normalizePlayerState p1State
    p2State := normalizePlayerState p2State
    readyP1 := hash "readyP1" == some "1"
    readyP2 := hash "readyP2" == some "1"
    wipeIndexP1 := nonNegativeInt js (hash "wipeIndexP1")
    wipeIndexP2 := nonNegativeInt js (hash "wipeIndexP2")
    combatRound := positiveInt js (hash "combatRound")
    scoutRound := positiveInt js (hash "scoutRound")
    scoutP1Board := normalizeBoardSummary js (hash "scoutP1Board")
    scoutP2Board := normalizeBoardSummary js (hash "scoutP2Board") }

/-! ## Encoders -/

/-- A slot of a summary as `JSON.stringify` sees it. -/
def slotValue : Option BoardUnit → Value
  | none => .null
  | some u => .obj [("unitId", u.unitId), ("star", .num (ofNat u.star))]

def summaryValue (board : OpponentBoardSummary) : Value := .arr (board.map slotValue)

/-- `JSON.stringify(p1State)` of the state with the flag put down. -/
def initialState (value : Value) : Record := (normalizePlayerState value).set "ready" (.bool false)

def initialRuntimeHash (m : Match) (names : Runtime.PlayerNames) : Hash := fun field =>
  [("matchId", m.id),
    ("player1Id", m.player1Id),
    ("player2Id", m.player2Id),
    ("player1Name", names.player1Name),
    ("player2Name", names.player2Name),
    ("matchSeed", m.matchSeed),
    ("phase", "shop_place"),
    ("round", "1"),
    ("p1State", js.stringify (.obj (initialState m.p1State))),
    ("p2State", js.stringify (.obj (initialState m.p2State))),
    ("readyP1", "0"),
    ("readyP2", "0"),
    ("wipeIndexP1", js.string (ofNat (m.wipeIndexP1.getD 0))),
    ("wipeIndexP2", js.string (ofNat (m.wipeIndexP2.getD 0))),
    ("combatRound", ""),
    ("scoutRound", ""),
    ("scoutP1Board", js.stringify (summaryValue emptyBoardSummary)),
    ("scoutP2Board", js.stringify (summaryValue emptyBoardSummary))].lookup field

/-- One field of an `HSET`, with the value its text is made from. -/
inductive FieldWrite where
  | player1Name (v : String)
  | player2Name (v : String)
  | phase (v : MatchPhase)
  | round (v : Nat)
  | p1State (v : Record)
  | p2State (v : Record)
  | readyP1 (v : Bool)
  | readyP2 (v : Bool)
  | wipeIndexP1 (v : Nat)
  | wipeIndexP2 (v : Nat)
  | combatRound (v : Option Nat)
  | scoutRound (v : Option Nat)
  | scoutP1Board (v : OpponentBoardSummary)
  | scoutP2Board (v : OpponentBoardSummary)
  /-- The tag `phase_flip.lua` leaves when it enters battle. -/
  | combatLockInstance (v : String)

def flag (v : Bool) : String := if v then "1" else "0"

def optional (v : Option Nat) : String :=
  match v with
  | none => ""
  | some n => js.string (ofNat n)

/-- The field and its text. -/
def FieldWrite.entry : FieldWrite → String × String
  | .player1Name v => ("player1Name", v)
  | .player2Name v => ("player2Name", v)
  | .phase v => ("phase", v.text)
  | .round v => ("round", js.string (ofNat v))
  | .p1State v => ("p1State", js.stringify (.obj v))
  | .p2State v => ("p2State", js.stringify (.obj v))
  | .readyP1 v => ("readyP1", flag v)
  | .readyP2 v => ("readyP2", flag v)
  | .wipeIndexP1 v => ("wipeIndexP1", js.string (ofNat v))
  | .wipeIndexP2 v => ("wipeIndexP2", js.string (ofNat v))
  | .combatRound v => ("combatRound", optional js v)
  | .scoutRound v => ("scoutRound", optional js v)
  | .scoutP1Board v => ("scoutP1Board", js.stringify (summaryValue v))
  | .scoutP2Board v => ("scoutP2Board", js.stringify (summaryValue v))
  | .combatLockInstance v => ("combatLockInstance", v)

def Hash.hset (hash : Hash) (fields : List (String × String)) : Hash :=
  fields.foldl (fun hash entry => Function.update hash entry.1 (some entry.2)) hash

end AutoChess.Codec
