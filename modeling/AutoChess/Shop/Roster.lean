/-
The shop: offers, and what buying, selling, refreshing, fusing and placing
do to a player's state. The source mutates the parsed state in place and
stores it whole; here each action returns the new state, or the rejection it
throws.
-/
import AutoChess.Runtime.State
import Mathlib.Data.List.Sort

namespace AutoChess.Shop

open AutoChess.Game AutoChess.Runtime

def UNIT_COST : UnitId → Int
  | .fighter => 1
  | .healer => 1
  | .ranger => 2
  | .tank => 2

/-- The ceiling, in percent, of each unit's share of the rolls. -/
def UNIT_POOL : List (UnitId × Nat) := [(.fighter, 40), (.healer, 80), (.ranger, 95), (.tank, 100)]

structure ShopOffer where
  offerId : String
  unitId : UnitId
  star : Nat := 0
  deriving DecidableEq, Repr

structure StoredShop where
  round : Nat
  refreshCount : Nat
  refreshUsed : Bool
  offers : List (Option ShopOffer)
  deriving DecidableEq, Repr

/-- A `BadRequestException` or `NotFoundException` body. -/
structure Rejection where
  code : String
  message : String
  deriving DecidableEq, Repr

/-! ## Offers -/

/-- The value of draw number `index` of `mulberry32(seed)`, before the
division by 2^32. -/
def mulberry32 (seed : UInt32) (index : Nat) : UInt32 :=
  let state := seed + (UInt32.ofNat (index + 1)) * 0x6d2b79f5
  let value := (state ^^^ (state >>> 15)) * (1 ||| state)
  let value := (value + (value ^^^ (value >>> 7)) * (61 ||| value)) ^^^ value
  value ^^^ (value >>> 14)

/-- `UNIT_POOL.find((entry) => roll < entry.ceiling)` for the roll
`draw / 2^32 * 100`, which a double holds exactly. -/
def unitForRoll (draw : UInt32) : UnitId :=
  match UNIT_POOL.find? fun entry => draw.toNat * 100 < entry.2 * 4294967296 with
  | some entry => entry.1
  | none => .tank

/-- The SHA-256 digests of the shop: `hashString` and `deterministicOfferId`. -/
structure Digests where
  hashString : String → UInt32
  deterministicOfferId : String → Nat → String

def generateOffers (digests : Digests) (matchSeed : String) (round : Nat) (playerId : String)
    (refreshCount : Nat) : List ShopOffer :=
  let seedText := s!"{matchSeed}:{round}:{refreshCount}:{playerId}"
  (List.range 5).map fun index =>
    { offerId := digests.deterministicOfferId seedText index
      unitId := unitForRoll (mulberry32 (digests.hashString seedText) index) }

/-! ## Rosters -/

inductive Place where
  | board | bench
  deriving DecidableEq, Repr

def slotsAt (state : RuntimePlayerState) : Place → Slots
  | .board => state.board
  | .bench => state.bench

/-- `state[source][slot] = unit`. -/
def setSlot (state : RuntimePlayerState) (source : Place) (slot : Nat)
    (unit : Option RuntimeUnitState) : RuntimePlayerState :=
  match source with
  | .board => { state with board := state.board.set slot unit }
  | .bench => { state with bench := state.bench.set slot unit }

structure RosterEntry where
  source : Place
  slot : Nat
  unit : RuntimeUnitState
  deriving DecidableEq, Repr

def entriesOf (source : Place) (slot : Nat) : Slots → List RosterEntry
  | [] => []
  | none :: rest => entriesOf source (slot + 1) rest
  | some unit :: rest => ⟨source, slot, unit⟩ :: entriesOf source (slot + 1) rest

def rosterEntries (state : RuntimePlayerState) : List RosterEntry :=
  entriesOf .board 0 state.board ++ entriesOf .bench 0 state.bench

def findRosterUnit (state : RuntimePlayerState) (instanceId : String) : Option RosterEntry :=
  (rosterEntries state).find? (·.unit.instanceId == instanceId)

/-- The gold a unit sells for. -/
def investedGold (unit : RuntimeUnitState) : Int :=
  match unit.investedGold with
  | some stored => if stored ≥ 0 then stored else UNIT_COST unit.unitId * 2 ^ unit.star
  | none => UNIT_COST unit.unitId * 2 ^ unit.star

def newUnit (unitId : UnitId) (cost : Int) (randomUUID : String) : RuntimeUnitState :=
  let maxHp := (UNIT_BASE_STATS unitId).hp
  { instanceId := randomUUID, unitId := unitId, star := 0, hp := maxHp, maxHp := maxHp,
    investedGold := some cost }

/-- The target after it consumed the other unit. -/
def mergeUnits (target consumed : RuntimeUnitState) : RuntimeUnitState :=
  { target with
    star := target.star + 1
    investedGold := some (investedGold target + investedGold consumed)
    hp := target.maxHp }

/-! ## Actions -/

/-- What an action works on: the player's stored state and shop. -/
structure Holdings where
  state : RuntimePlayerState
  shop : StoredShop
  deriving DecidableEq, Repr

/-- The offer a `buy` names, if it can be paid. -/
def offerToBuy (h : Holdings) (offerIndex : Nat) : Except Rejection ShopOffer :=
  match (h.shop.offers[offerIndex]?).join with
  | none => .error ⟨"shop.offer_unavailable", "This offer is no longer available"⟩
  | some offer =>
    if h.state.gold < UNIT_COST offer.unitId then
      .error ⟨"shop.insufficient_gold", "Not enough gold for this unit"⟩
    else .ok offer

def buyOffer (h : Holdings) (offerIndex : Nat) (offer : ShopOffer) (randomUUID : String) :
    Except Rejection Holdings :=
  let cost := UNIT_COST offer.unitId
  match h.state.bench.findIdx? (·.isNone) with
  | none => .error ⟨"shop.roster_full", "Bench is full"⟩
  | some slot =>
    let paid := { h.state with gold := h.state.gold - cost }
    .ok { state := setSlot paid .bench slot (some (newUnit offer.unitId cost randomUUID))
          shop := { h.shop with offers := h.shop.offers.set offerIndex none } }

def sellUnit (h : Holdings) (source : Place) (slot : Nat) : Except Rejection Holdings :=
  match (slotsAt h.state source)[slot]? with
  | none => .error ⟨"shop.invalid_slot", match source with
      | .board => "Invalid board slot"
      | .bench => "Invalid bench slot"⟩
  | some none => .error ⟨"shop.unit_not_found", "No unit exists in that slot"⟩
  | some (some unit) =>
    let paid := { h.state with gold := h.state.gold + investedGold unit }
    .ok { h with state := setSlot paid source slot none }

def refreshOffers (digests : Digests) (matchSeed : String) (round : Nat) (userId : String)
    (h : Holdings) : Except Rejection Holdings :=
  if h.shop.refreshUsed then
    .error ⟨"shop.refresh_used", "The free refresh was already used this phase"⟩
  else
    let count := h.shop.refreshCount + 1
    .ok { h with shop := { h.shop with
      refreshUsed := true
      refreshCount := count
      offers := (generateOffers digests matchSeed round userId count).map some } }

/-- The target slot gets the merged unit and the source slot is emptied. -/
def fuseInto (state : RuntimePlayerState) (target source : RosterEntry) : RuntimePlayerState :=
  setSlot (setSlot state target.source target.slot (some (mergeUnits target.unit source.unit)))
    source.source source.slot none

/-- The pair the client dragged together. -/
def draggedPair (state : RuntimePlayerState) (unitId : UnitId)
    (sourceInstanceId targetInstanceId : String) : Except Rejection (RosterEntry × RosterEntry) :=
  if sourceInstanceId == targetInstanceId then
    .error ⟨"shop.cannot_fuse", "A unit cannot be fused with itself"⟩
  else
    match findRosterUnit state sourceInstanceId, findRosterUnit state targetInstanceId with
    | some source, some target =>
      if source.unit.unitId != unitId || target.unit.unitId != unitId ||
          source.unit.star != target.unit.star || target.unit.star ≥ 2 then
        .error ⟨"shop.cannot_fuse", "Dragged units must have the same type and star"⟩
      else .ok (target, source)
    | _, _ => .error ⟨"shop.unit_not_found", "A dragged fuse unit was not found"⟩

/-- The first candidate with a same-star candidate after it. -/
def firstPaired : List RosterEntry → Option RosterEntry
  | [] => none
  | entry :: rest =>
    if rest.any (·.unit.star == entry.unit.star) then some entry else firstPaired rest

/-- The copies that can fuse, lowest star first. -/
def fuseCandidates (state : RuntimePlayerState) (unitId : UnitId) : List RosterEntry :=
  ((rosterEntries state).filter fun entry =>
    entry.unit.unitId == unitId && entry.unit.star < 2).insertionSort
      fun a b => a.unit.star ≤ b.unit.star

/-- The pair of the compatibility path, for clients that send no ids. -/
def compatiblePair (state : RuntimePlayerState) (unitId : UnitId) :
    Except Rejection (RosterEntry × RosterEntry) :=
  let candidates := fuseCandidates state unitId
  match firstPaired candidates with
  | none => .error ⟨"shop.cannot_fuse", "Two same-star copies are required"⟩
  | some pair =>
    match candidates.find? fun entry => entry != pair && entry.unit.star == pair.unit.star with
    | none => .error ⟨"shop.cannot_fuse", "Two same-star copies are required"⟩
    | some second => .ok (pair, second)

/-- A `null` or empty id is falsy. -/
def given (id : Option String) : Option String := id.filter (· != "")

def fuseUnits (h : Holdings) (unitId : UnitId) (sourceInstanceId targetInstanceId : Option String) :
    Except Rejection Holdings := do
  if sourceInstanceId.isNone != targetInstanceId.isNone then
    throw ⟨"shop.invalid_fuse_pair", "Both sourceInstanceId and targetInstanceId are required"⟩
  let (target, source) ← match given sourceInstanceId, given targetInstanceId with
    | some s, some t => draggedPair h.state unitId s t
    | _, _ => compatiblePair h.state unitId
  return { h with state := fuseInto h.state target source }

/-- `place`: moves a unit to a free slot; onto its own slot it is a no-op. -/
def placeUnit (state : RuntimePlayerState) (unitInstanceId : String) (target : Place) (slot : Nat) :
    Except Rejection RuntimePlayerState :=
  match (slotsAt state target)[slot]? with
  | none => .error ⟨"place.slot_out_of_range", match target with
      | .board => "Invalid board slot"
      | .bench => "Invalid bench slot"⟩
  | some occupied =>
    match findRosterUnit state unitInstanceId with
    | none => .error ⟨"place.unit_not_owned", "The unit is not in this player roster"⟩
    | some source =>
      if occupied.any (·.instanceId != unitInstanceId) then
        .error ⟨"place.slot_occupied", match target with
          | .board => "The board slot is already occupied"
          | .bench => "The bench slot is already occupied"⟩
      else if source.source != target || source.slot != slot then
        .ok (setSlot (setSlot state source.source source.slot none) target slot (some source.unit))
      else .ok state

end AutoChess.Shop
