/-
What the mobile client is sent, as its models parse it: the phase, the
roster it sees, the offers, the damage, the end, and the errors.
-/
import AutoChess.Runtime.State
import AutoChess.Shop.Roster

namespace AutoChess.Client

open AutoChess.Game AutoChess.Runtime

/-- A phase the build does not recognise is `unknown`. -/
inductive GamePhase where
  | shopPlace | battle | resolved | finished | unknown
  deriving DecidableEq, Repr

structure PhasePlayer where
  id : String
  username : Option String
  hp : Int
  gold : Int
  ready : Bool
  deriving DecidableEq, Repr

structure MatchPhaseEvent where
  matchId : String
  phase : GamePhase
  round : Nat
  timer : Nat
  players : List PhasePlayer
  deriving DecidableEq, Repr

/-- One entry of the board or the bench. -/
structure Unit where
  instanceId : String
  unitId : UnitId
  star : Nat
  hp : Int
  maxHp : Int
  deriving DecidableEq, Repr

structure PlayerRoster where
  username : Option String := none
  board : List (Option Unit)
  bench : List (Option Unit)
  gold : Int
  hp : Int
  deriving DecidableEq, Repr

structure OpponentUnit where
  unitId : UnitId
  star : Nat
  deriving DecidableEq, Repr

structure OpponentView where
  username : Option String := none
  gold : Int
  hp : Int
  scoutRound : Option Nat
  boardSummary : List (Option OpponentUnit)
  battleBoardSummary : Option (List (Option OpponentUnit))
  deriving DecidableEq, Repr

structure MatchState where
  matchId : String
  round : Nat
  yourSide : Side
  roster : PlayerRoster
  opponent : OpponentView
  readyCount : Int
  deriving DecidableEq, Repr

structure ShopOffer where
  offerId : String
  unitId : UnitId
  star : Nat
  deriving DecidableEq, Repr

/-- A `none` is an offer that was bought. -/
structure ShopOffersEvent where
  matchId : String
  round : Nat
  offers : List (Option ShopOffer)
  deriving DecidableEq, Repr

inductive RoundOutcome where
  | p1 | p2 | tie
  deriving DecidableEq, Repr

structure SideDamage where
  wiped : Bool
  tie : Bool
  hpBefore : Int
  hpAfter : Int
  damageApplied : Int
  deriving DecidableEq, Repr

structure MatchDamageEvent where
  matchId : String
  round : Nat
  p1 : SideDamage
  p2 : SideDamage
  winner : Option RoundOutcome
  deriving DecidableEq, Repr

inductive MatchEndReason where
  | hpZero | forfeit | disconnect | unknown
  deriving DecidableEq, Repr

structure FinalPlayerState where
  hp : Int
  gold : Int
  deriving DecidableEq, Repr

structure RatingChange where
  before : Int
  after : Int
  delta : Int
  deriving DecidableEq, Repr

structure MatchEndEvent where
  matchId : String
  winnerId : Option String
  reason : MatchEndReason
  finalP1 : FinalPlayerState
  finalP2 : FinalPlayerState
  ratingP1 : Option RatingChange
  ratingP2 : Option RatingChange
  deriving DecidableEq, Repr

structure GameError where
  code : String
  message : Option String
  clientActionId : Option String
  deriving DecidableEq, Repr

/-! ## From the server's payloads

The decoders fall back to defaults for fields of the wrong type; the server's
payloads have none. -/

def Unit.fromJson (unit : RuntimeUnitState) : Unit :=
  { instanceId := unit.instanceId, unitId := unit.unitId, star := unit.star, hp := unit.hp, maxHp := unit.maxHp }

/-- Exactly `length` slots. -/
def Unit.slotsFromJson (raw : Slots) (length : Nat) : List (Option Unit) :=
  (List.range length).map fun i => ((raw[i]?).join).map Unit.fromJson

def PlayerRoster.fromJson (roster : RosterView) : PlayerRoster :=
  { username := some roster.username
    board := Unit.slotsFromJson roster.board 9
    bench := Unit.slotsFromJson roster.bench 8
    gold := roster.gold
    hp := roster.hp }

def opponentSlots (raw : OpponentBoardSummary) : List (Option OpponentUnit) :=
  (List.range 9).map fun i => ((raw[i]?).join).map fun unit => ⟨unit.unitId, unit.star⟩

def OpponentView.fromJson (opponent : Runtime.OpponentView) : OpponentView :=
  { username := some opponent.username
    gold := opponent.gold
    hp := opponent.hp
    scoutRound := opponent.scoutRound
    boardSummary := opponentSlots opponent.boardSummary
    battleBoardSummary := opponent.battleBoardSummary.map opponentSlots }

def MatchState.fromJson (payload : StatePayload) : MatchState :=
  { matchId := payload.matchId
    round := payload.round
    yourSide := payload.yourSide
    roster := .fromJson payload.roster
    opponent := .fromJson payload.opponent
    readyCount := payload.readyCount }

def ShopOffer.fromJson (offer : Shop.ShopOffer) : ShopOffer := ⟨offer.offerId, offer.unitId, offer.star⟩

def ShopOffersEvent.fromJson (matchId : String) (round : Nat) (offers : List (Option Shop.ShopOffer)) :
    ShopOffersEvent :=
  ⟨matchId, round, offers.map fun offer => offer.map ShopOffer.fromJson⟩

end AutoChess.Client
