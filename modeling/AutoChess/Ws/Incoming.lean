/-
What a client may ask: the classes of the websocket messages, the pipe that
checks a message against its class, the handlers, and the filter that words
what one of them throws. The library that makes a message an instance of its
class and checks it is a parameter, and so are the texts of its errors and the
form of an id.
-/
import AutoChess.Client.Messages
import AutoChess.Common.Throttle
import AutoChess.Lib.Validation
import AutoChess.Runtime.Adapter

namespace AutoChess.Ws

open AutoChess.Game (UnitId)
open AutoChess.Shop (Place)
open AutoChess.Runtime (RuntimeAction)
open AutoChess.Codec (unitText)
open AutoChess.Messages (GameErrorEnvelope nat nullable unitIdOf)
open Json

/-! ## The classes -/

def SLOT_MAX : Int := 8

def OFFER_INDEX_MAX : Int := 4

def UNIT_IDS : List String := ["fighter", "healer", "ranger", "tank"]

def PLACE_SOURCES : List String := ["board", "bench"]

def round : Property := { name := "round", checks := [.isInt, .min 1] }

/-- `@IsInt() @Min(0) @Max(n)`. -/
def index (name : String) (n : Int) : Property := { name := name, checks := [.isInt, .min 0, .max n] }

def oneOf (name : String) (values : List String) : Property := { name := name, checks := [.isIn values] }

def uuid (name : String) : Property := { name := name, checks := [.isUUID] }

def MatchmakingJoinDto : List Property := []

def MatchmakingLeaveDto : List Property := []

def ShopBuyDto : List Property := [round, index "offerIndex" OFFER_INDEX_MAX, uuid "clientActionId"]

def ShopSellDto : List Property :=
  [round, oneOf "source" PLACE_SOURCES, index "slot" SLOT_MAX, uuid "clientActionId"]

def ShopRefreshDto : List Property := [round, uuid "clientActionId"]

def ShopFuseDto : List Property :=
  [round, oneOf "unitId" UNIT_IDS, { uuid "sourceInstanceId" with isOptional := true },
    { uuid "targetInstanceId" with isOptional := true }, uuid "clientActionId"]

def MatchPlaceDto : List Property :=
  [round, uuid "unitInstanceId", oneOf "target" PLACE_SOURCES, index "slot" SLOT_MAX,
    uuid "clientActionId"]

def MatchReadyDto : List Property :=
  [round, { name := "ready", checks := [.isBoolean], isOptional := true }, uuid "clientActionId"]

def MatchCombatDoneDto : List Property := [uuid "matchId", round, uuid "clientActionId"]

def MatchRoundReadyDto : List Property := MatchCombatDoneDto

def MatchSurrenderDto : List Property := MatchCombatDoneDto

/-! ## The handlers -/

def placeText : Place → String
  | .board => "board"
  | .bench => "bench"

def placeOf : String → Place
  | "board" => .board
  | _ => .bench

/-- A message that passed. -/
inductive Incoming where
  | matchmakingJoin
  | matchmakingLeave
  | shopBuy (round offerIndex : Nat) (clientActionId : String)
  | shopSell (round : Nat) (source : Place) (slot : Nat) (clientActionId : String)
  | shopRefresh (round : Nat) (clientActionId : String)
  | shopFuse (round : Nat) (unitId : UnitId) (sourceInstanceId targetInstanceId : Option String)
      (clientActionId : String)
  | matchPlace (round : Nat) (unitInstanceId : String) (target : Place) (slot : Nat) (clientActionId : String)
  | matchReady (round : Nat) (ready : Option Bool) (clientActionId : String)
  | matchCombatDone (matchId : String) (round : Nat) (clientActionId : String)
  | matchRoundReady (matchId : String) (round : Nat) (clientActionId : String)
  | matchSurrender (matchId : String) (round : Nat) (clientActionId : String)
  deriving DecidableEq, Repr

section
variable (dto : Record)

def natOf (key : String) : Nat := (numberOf (Assoc.get dto key)).toNat

def idOf (key : String) : String := textOf (Assoc.get dto key)

def idOf? (key : String) : Option String := textOf? (Assoc.get dto key)

end

/-- The class of an event and what its instances are; an event without a
handler has none. -/
def subscribed : String → Option (List Property × (Record → Incoming))
  | "game:matchmaking:join" => some (MatchmakingJoinDto, fun _ => .matchmakingJoin)
  | "game:matchmaking:leave" => some (MatchmakingLeaveDto, fun _ => .matchmakingLeave)
  | "game:shop:buy" => some (ShopBuyDto, fun dto =>
      .shopBuy (natOf dto "round") (natOf dto "offerIndex") (idOf dto "clientActionId"))
  | "game:shop:sell" => some (ShopSellDto, fun dto =>
      .shopSell (natOf dto "round") (placeOf (idOf dto "source")) (natOf dto "slot") (idOf dto "clientActionId"))
  | "game:shop:refresh" => some (ShopRefreshDto, fun dto =>
      .shopRefresh (natOf dto "round") (idOf dto "clientActionId"))
  | "game:shop:fuse" => some (ShopFuseDto, fun dto =>
      .shopFuse (natOf dto "round") (unitIdOf (idOf? dto "unitId")) (idOf? dto "sourceInstanceId")
        (idOf? dto "targetInstanceId") (idOf dto "clientActionId"))
  | "game:match:place" => some (MatchPlaceDto, fun dto =>
      .matchPlace (natOf dto "round") (idOf dto "unitInstanceId") (placeOf (idOf dto "target")) (natOf dto "slot")
        (idOf dto "clientActionId"))
  | "game:match:ready" => some (MatchReadyDto, fun dto =>
      .matchReady (natOf dto "round") (boolOf? (Assoc.get dto "ready")) (idOf dto "clientActionId"))
  | "game:match:combat_done" => some (MatchCombatDoneDto, fun dto =>
      .matchCombatDone (idOf dto "matchId") (natOf dto "round") (idOf dto "clientActionId"))
  | "game:match:round_ready" => some (MatchRoundReadyDto, fun dto =>
      .matchRoundReady (idOf dto "matchId") (natOf dto "round") (idOf dto "clientActionId"))
  | "game:match:surrender" => some (MatchSurrenderDto, fun dto =>
      .matchSurrender (idOf dto "matchId") (natOf dto "round") (idOf dto "clientActionId"))
  | _ => none

/-- The match named, if it is not looked up, the round, and the action. -/
def Incoming.asks : Incoming → Option (Option String × Nat × RuntimeAction)
  | .matchmakingJoin | .matchmakingLeave => none
  | .shopBuy round offerIndex id => some (none, round, .shop (.buy offerIndex) id)
  | .shopSell round source slot id => some (none, round, .shop (.sell source slot) id)
  | .shopRefresh round id => some (none, round, .shop .refresh id)
  | .shopFuse round unitId source target id => some (none, round, .shop (.fuse unitId source target) id)
  | .matchPlace round unitInstanceId target slot id => some (none, round, .place unitInstanceId target slot id)
  | .matchReady round ready id => some (none, round, .ready ready id)
  | .matchCombatDone matchId round _ => some (some matchId, round, .combatDone)
  | .matchRoundReady matchId round _ => some (some matchId, round, .roundReady)
  | .matchSurrender matchId round _ => some (some matchId, round, .surrender)

/-- The id the handler answers to. -/
def Incoming.clientActionId : Incoming → Option String
  | .matchmakingJoin | .matchmakingLeave => none
  | .shopBuy _ _ id | .shopSell _ _ _ id | .shopRefresh _ id | .shopFuse _ _ _ _ id | .matchPlace _ _ _ _ id
  | .matchReady _ _ id | .matchCombatDone _ _ id | .matchRoundReady _ _ id | .matchSurrender _ _ id => some id

def Incoming.fallbackCode : Incoming → String
  | .matchmakingJoin => "matchmaking.join_failed"
  | .matchmakingLeave => "matchmaking.leave_failed"
  | .shopBuy _ _ _ => "shop:buy.failed"
  | .shopSell _ _ _ _ => "shop:sell.failed"
  | .shopRefresh _ _ => "shop:refresh.failed"
  | .shopFuse _ _ _ _ _ => "shop:fuse.failed"
  | .matchPlace _ _ _ _ _ => "match:place.failed"
  | .matchReady _ _ _ => "match:ready.failed"
  | .matchCombatDone _ _ _ => "match:combat_done.failed"
  | .matchRoundReady _ _ _ => "match:round_ready.failed"
  | .matchSurrender _ _ _ => "match:surrender.failed"

/-! ## Errors -/

/-- Something thrown: the message, of an `Error`, and what `getError` or
`getResponse` give, else the thing itself. -/
structure Thrown where
  error : Option String
  value : Value

/-- `new WsException({ code, message })`. -/
def Thrown.ws (e : Throttle.WsException) : Thrown :=
  ⟨some e.message, .obj [("code", .str e.code), ("message", .str e.message)]⟩

def toGameError (exception : Thrown) (fallbackCode : String) (clientActionId : Option String) : GameErrorEnvelope :=
  let explicitCode := textOf? (Assoc.get exception.value.fields "code")
  let code := explicitCode.getD (if exception.error.isSome then "internal" else fallbackCode)
  let domainMessage := (textOf? (Assoc.get exception.value.fields "message")).getD
    (exception.error.getD (textOf (some exception.value)))
  { code := code
    message :=
      if code = "internal" then "unexpected error" else if domainMessage = "" then code else domainMessage
    clientActionId := clientActionId.filter (· ≠ "") }

/-- `WsGameExceptionFilter`, which reads the id off the message. -/
def catchError (exception : Thrown) (data : Value) : GameErrorEnvelope :=
  toGameError exception "internal" (textOf? (Assoc.get data.fields "clientActionId"))

/-- The first text of the library's errors. -/
def invalidPayload (errors : List String) : Throttle.WsException :=
  ⟨"invalid_payload", (errors.find? (· ≠ "")).getD "payload failed validation"⟩

/-- What the services throw, if anything, when they are asked. -/
structure Domain where
  joinQueue : Option Thrown
  leaveQueue : Option Thrown
  handleAction : Option String → Nat → RuntimeAction → Option Thrown

def Domain.throws (domain : Domain) (incoming : Incoming) : Option Thrown :=
  match incoming.asks with
  | some (matchId, round, action) => domain.handleAction matchId round action
  | none => if incoming = .matchmakingJoin then domain.joinQueue else domain.leaveQueue

section
variable (lib : Validator Thrown)

/-- `WsValidationPipe`: a value that is no object is taken as the empty one. -/
def transform (metatype : List Property) (value : Value) : Except Thrown Record :=
  match lib.plainToInstance metatype value.fields with
  | .error exception => .error exception
  | .ok dto =>
    let (errors, dto) := lib.validate metatype dto
    if errors = [] then .ok dto else .error (.ws (invalidPayload errors.flatten))

/-- What the handler of an event is called with. -/
def delivered (event : String) (data : Value) : Option Incoming :=
  (subscribed event).bind fun (metatype, toInstance) => (transform lib metatype data).toOption.map toInstance

/-- The `game:error` a message is answered with, if any: of the guard, of the
pipe, or of the handler. -/
def answer (domain : Domain) (guard : Option Thrown) (event : String) (data : Value) : Option GameErrorEnvelope :=
  (subscribed event).bind fun (metatype, toInstance) =>
    match guard with
    | some exception => some (catchError exception data)
    | none =>
      match transform lib metatype data with
      | .error exception => some (catchError exception data)
      | .ok dto =>
        let incoming := toInstance dto
        (domain.throws incoming).map fun exception =>
          toGameError exception incoming.fallbackCode incoming.clientActionId

end

/-! ## What passes -/

def Incoming.event : Incoming → String
  | .matchmakingJoin => "game:matchmaking:join"
  | .matchmakingLeave => "game:matchmaking:leave"
  | .shopBuy _ _ _ => "game:shop:buy"
  | .shopSell _ _ _ _ => "game:shop:sell"
  | .shopRefresh _ _ => "game:shop:refresh"
  | .shopFuse _ _ _ _ _ => "game:shop:fuse"
  | .matchPlace _ _ _ _ _ => "game:match:place"
  | .matchReady _ _ _ => "game:match:ready"
  | .matchCombatDone _ _ _ => "game:match:combat_done"
  | .matchRoundReady _ _ _ => "game:match:round_ready"
  | .matchSurrender _ _ _ => "game:match:surrender"

def doneFields (matchId : String) (round : Nat) (clientActionId : String) : Record :=
  [("matchId", .str matchId), ("round", nat round), ("clientActionId", .str clientActionId)]

/-- The object a client sends. -/
def Incoming.payload : Incoming → Record
  | .matchmakingJoin | .matchmakingLeave => []
  | .shopBuy round offerIndex id =>
    [("round", nat round), ("offerIndex", nat offerIndex), ("clientActionId", .str id)]
  | .shopSell round source slot id =>
    [("round", nat round), ("source", .str (placeText source)), ("slot", nat slot), ("clientActionId", .str id)]
  | .shopRefresh round id => [("round", nat round), ("clientActionId", .str id)]
  | .shopFuse round unitId source target id =>
    [("round", nat round), ("unitId", .str (unitText unitId)), ("sourceInstanceId", nullable .str source),
      ("targetInstanceId", nullable .str target), ("clientActionId", .str id)]
  | .matchPlace round unitInstanceId target slot id =>
    [("round", nat round), ("unitInstanceId", .str unitInstanceId), ("target", .str (placeText target)),
      ("slot", nat slot), ("clientActionId", .str id)]
  | .matchReady round ready id =>
    [("round", nat round), ("ready", nullable .bool ready), ("clientActionId", .str id)]
  | .matchCombatDone matchId round id | .matchRoundReady matchId round id | .matchSurrender matchId round id =>
    doneFields matchId round id

/-- Rounds count from one, indices are in range, and ids are ids. -/
def Incoming.Valid (isUUID : String → Bool) : Incoming → Prop
  | .matchmakingJoin | .matchmakingLeave => True
  | .shopBuy round offerIndex id => 1 ≤ round ∧ (offerIndex : Int) ≤ OFFER_INDEX_MAX ∧ isUUID id = true
  | .shopSell round _ slot id => 1 ≤ round ∧ (slot : Int) ≤ SLOT_MAX ∧ isUUID id = true
  | .shopRefresh round id => 1 ≤ round ∧ isUUID id = true
  | .shopFuse round _ source target id =>
    1 ≤ round ∧ (∀ s ∈ source, isUUID s = true) ∧ (∀ t ∈ target, isUUID t = true) ∧ isUUID id = true
  | .matchPlace round unitInstanceId _ slot id =>
    1 ≤ round ∧ isUUID unitInstanceId = true ∧ (slot : Int) ≤ SLOT_MAX ∧ isUUID id = true
  | .matchReady round _ id => 1 ≤ round ∧ isUUID id = true
  | .matchCombatDone matchId round id | .matchRoundReady matchId round id | .matchSurrender matchId round id =>
    isUUID matchId = true ∧ 1 ≤ round ∧ isUUID id = true

/-! ## What passes a check -/

section
variable {lib : Validator Thrown} {value : Option Value} {name : String}

theorem round_accepts (hlib : lib.Documented) :
    lib.accepts round value = true ↔ ∃ n : Nat, 1 ≤ n ∧ value = some (nat n) := by
  have hpasses := hlib.natural value (show 0 ≤ 1 by decide)
  simp only [Validator.accepts, round, Bool.false_and, Bool.false_or, List.all_cons, List.all_nil, Bool.and_true,
    Bool.and_eq_true, hpasses, nat]
  norm_cast

theorem index_accepts (hlib : lib.Documented) {n : Int} :
    lib.accepts (index name n) value = true ↔ ∃ k : Nat, (k : Int) ≤ n ∧ value = some (nat k) := by
  have hpasses := hlib.natural value (show 0 ≤ 0 by decide)
  simp only [Validator.accepts, index, Bool.false_and, Bool.false_or, List.all_cons, List.all_nil, Bool.and_true,
    Bool.and_eq_true, ← and_assoc, hpasses]
  constructor
  · intro h
    obtain ⟨⟨k, -, rfl⟩, hmax⟩ := h
    exact ⟨k, hlib.bounded.1 hmax, rfl⟩
  · intro h
    obtain ⟨k, hk, rfl⟩ := h
    exact ⟨⟨k, by omega, rfl⟩, hlib.bounded.2 hk⟩

theorem uuid_accepts (hlib : lib.Documented) :
    lib.accepts (uuid name) value = true ↔ ∃ id, lib.isUUID id = true ∧ value = some (.str id) := by
  simp only [Validator.accepts, uuid, Bool.false_and, Bool.false_or, List.all_cons, List.all_nil, Bool.and_true,
    hlib.uuid]

theorem isAbsent_iff : isAbsent value = true ↔ value = none ∨ value = some .null := by
  cases value with
  | none => simp [isAbsent]
  | some v => cases v <;> simp [isAbsent]

theorem optional_accepts (hlib : lib.Documented) :
    lib.accepts { uuid name with isOptional := true } value = true ↔
      isAbsent value = true ∨ ∃ id, lib.isUUID id = true ∧ value = some (.str id) := by
  simp only [Validator.accepts, uuid, Bool.true_and, List.all_cons, List.all_nil, Bool.and_true, Bool.or_eq_true,
    hlib.uuid]

end

/-! ## Handlers -/

section
variable {lib : Validator Thrown} {event : String} {metatype : List Property} {toInstance : Record → Incoming}
  {dto dto' : Record} {name : String} {data : Value} {incoming other : Incoming} {extra : Record}

/-- A handler reads declared properties alone. -/
theorem subscribed_reads (h : subscribed event = some (metatype, toInstance))
    (hsame : ∀ p ∈ metatype, Assoc.get dto p.name = Assoc.get dto' p.name) : toInstance dto = toInstance dto' := by
  have hget : ∀ key ∈ metatype.map (·.name), Assoc.get dto key = Assoc.get dto' key := by
    intro key hkey
    obtain ⟨p, hp, rfl⟩ := List.mem_map.1 hkey
    exact hsame p hp
  unfold subscribed at h
  split at h <;> cases h <;>
    simp only [MatchmakingJoinDto, MatchmakingLeaveDto, ShopBuyDto, ShopSellDto, ShopRefreshDto, ShopFuseDto,
      MatchPlaceDto, MatchReadyDto, MatchCombatDoneDto, MatchRoundReadyDto, MatchSurrenderDto, round, index, oneOf, uuid,
      List.map_cons, List.map_nil, List.forall_mem_cons] at hget <;>
    simp only [natOf, idOf, idOf?, hget]

/-- What comes through was made an instance, and each of its properties passed. -/
theorem transform_ok (hlib : lib.Documented) (h : transform lib metatype data = .ok dto) : ∃ made,
    lib.plainToInstance metatype data.fields = .ok made ∧
      (∀ p ∈ metatype, Assoc.get dto p.name = Assoc.get made p.name) ∧
      ∀ p ∈ metatype, lib.accepts p (Assoc.get dto p.name) = true := by
  unfold transform at h
  split at h
  · cases h
  next made hmade =>
  dsimp only at h
  split at h
  · next hnone =>
    cases h
    have hkept := hlib.whitelist metatype made
    refine ⟨made, hmade, hkept, fun p hp => ?_⟩
    rw [hkept p hp]
    exact (hlib.validate metatype made).1 hnone p hp
  · cases h

/-- A flat object whose properties pass comes through with them. -/
theorem transform_flat (hlib : lib.Documented) {fields : Record} (hflat : Flat fields)
    (hall : ∀ p ∈ metatype, lib.accepts p (Assoc.get fields p.name) = true) : ∃ dto,
    transform lib metatype (.obj fields) = .ok dto ∧
      ∀ p ∈ metatype, Assoc.get dto p.name = Assoc.get fields p.name := by
  obtain ⟨made, hmade, hsame⟩ := hlib.plainToInstance metatype fields hflat
  have hnone : (lib.validate metatype made).1 = [] := by
    refine (hlib.validate metatype made).2 fun p hp => ?_
    rw [hsame p hp]
    exact hall p hp
  refine ⟨(lib.validate metatype made).2, ?_, fun p hp => ?_⟩
  · unfold transform
    rw [show lib.plainToInstance metatype (Value.obj fields).fields = .ok made from hmade]
    exact if_pos hnone
  · rw [hlib.whitelist metatype made p hp, hsame p hp]

theorem delivered_ok (h : subscribed event = some (metatype, toInstance)) :
    delivered lib event data = some incoming ↔ ∃ dto, transform lib metatype data = .ok dto ∧ toInstance dto = incoming := by
  unfold delivered
  rw [h]
  dsimp only [Option.bind_some]
  cases transform lib metatype data with
  | error exception => simp [Except.toOption]
  | ok dto => simp [Except.toOption]

theorem natOf_round (hlib : lib.Documented) (h : lib.accepts round (Assoc.get dto "round") = true) :
    1 ≤ natOf dto "round" := by
  obtain ⟨n, hn, hget⟩ := (round_accepts hlib).1 h
  simpa [natOf, hget, numberOf, nat] using hn

theorem natOf_index (hlib : lib.Documented) {n : Int} (h : lib.accepts (index name n) (Assoc.get dto name) = true) :
    (natOf dto name : Int) ≤ n := by
  obtain ⟨k, hk, hget⟩ := (index_accepts hlib).1 h
  simpa [natOf, hget, numberOf, nat] using hk

theorem idOf_uuid (hlib : lib.Documented) (h : lib.accepts (uuid name) (Assoc.get dto name) = true) :
    lib.isUUID (idOf dto name) = true := by
  obtain ⟨id, hid, hget⟩ := (uuid_accepts hlib).1 h
  rwa [idOf, hget]

theorem idOf?_uuid (hlib : lib.Documented)
    (h : lib.accepts { uuid name with isOptional := true } (Assoc.get dto name) = true) :
    ∀ id ∈ idOf? dto name, lib.isUUID id = true := by
  intro id hid
  obtain habsent | ⟨id', hid', hget⟩ := (optional_accepts hlib).1 h
  · obtain hget | hget := isAbsent_iff.1 habsent
    · simp [idOf?, hget, textOf?] at hid
    · simp [idOf?, hget, textOf?] at hid
  · rw [idOf?, hget] at hid
    cases hid
    exact hid'

/-- What passes is of its event, and valid. -/
theorem delivered_valid (hlib : lib.Documented) (h : delivered lib event data = some incoming) :
    incoming.event = event ∧ incoming.Valid lib.isUUID := by
  obtain ⟨⟨metatype, toInstance⟩, hsub, -⟩ := Option.bind_eq_some_iff.1 h
  obtain ⟨dto, hdto, rfl⟩ := (delivered_ok hsub).1 h
  obtain ⟨-, -, -, hall⟩ := transform_ok hlib hdto
  unfold subscribed at hsub
  split at hsub <;> cases hsub <;>
    simp only [MatchmakingJoinDto, MatchmakingLeaveDto, ShopBuyDto, ShopSellDto, ShopRefreshDto, ShopFuseDto,
      MatchPlaceDto, MatchReadyDto, MatchCombatDoneDto, MatchRoundReadyDto, MatchSurrenderDto, List.forall_mem_cons] at hall
  · exact ⟨rfl, trivial⟩
  · exact ⟨rfl, trivial⟩
  · obtain ⟨hround, hindex, hid, -⟩ := hall
    exact ⟨rfl, natOf_round hlib hround, natOf_index hlib hindex, idOf_uuid hlib hid⟩
  · obtain ⟨hround, -, hslot, hid, -⟩ := hall
    exact ⟨rfl, natOf_round hlib hround, natOf_index hlib hslot, idOf_uuid hlib hid⟩
  · obtain ⟨hround, hid, -⟩ := hall
    exact ⟨rfl, natOf_round hlib hround, idOf_uuid hlib hid⟩
  · obtain ⟨hround, -, hsource, htarget, hid, -⟩ := hall
    exact ⟨rfl, natOf_round hlib hround, idOf?_uuid hlib hsource, idOf?_uuid hlib htarget, idOf_uuid hlib hid⟩
  · obtain ⟨hround, hunit, -, hslot, hid, -⟩ := hall
    exact ⟨rfl, natOf_round hlib hround, idOf_uuid hlib hunit, natOf_index hlib hslot, idOf_uuid hlib hid⟩
  · obtain ⟨hround, -, hid, -⟩ := hall
    exact ⟨rfl, natOf_round hlib hround, idOf_uuid hlib hid⟩
  all_goals
    obtain ⟨hmatch, hround, hid, -⟩ := hall
    exact ⟨rfl, idOf_uuid hlib hmatch, natOf_round hlib hround, idOf_uuid hlib hid⟩

/-! ## Messages of clients -/

theorem round_nat (hlib : lib.Documented) {n : Nat} (hn : 1 ≤ n) : lib.accepts round (some (nat n)) = true :=
  (round_accepts hlib).2 ⟨n, hn, rfl⟩

theorem index_nat (hlib : lib.Documented) {n : Int} {k : Nat} (hk : (k : Int) ≤ n) :
    lib.accepts (index name n) (some (nat k)) = true := (index_accepts hlib).2 ⟨k, hk, rfl⟩

theorem uuid_text (hlib : lib.Documented) {id : String} (hid : lib.isUUID id = true) :
    lib.accepts (uuid name) (some (.str id)) = true := (uuid_accepts hlib).2 ⟨id, hid, rfl⟩

theorem optional_text (hlib : lib.Documented) {id : Option String} (hid : ∀ s ∈ id, lib.isUUID s = true) :
    lib.accepts { uuid name with isOptional := true } (some (nullable .str id)) = true := by
  cases id with
  | none => exact (optional_accepts hlib).2 (.inl rfl)
  | some id => exact (optional_accepts hlib).2 (.inr ⟨id, hid id rfl, rfl⟩)

theorem oneOf_text (hlib : lib.Documented) {values : List String} {s : String} (hs : s ∈ values) :
    lib.accepts (oneOf name values) (some (.str s)) = true := by
  have hpasses := (hlib.isIn values (some (.str s))).2 ⟨s, hs, rfl⟩
  simp [Validator.accepts, oneOf, hpasses]

theorem place_text (place : Place) : placeText place ∈ PLACE_SOURCES := by cases place <;> decide

theorem unit_text (unitId : UnitId) : unitText unitId ∈ UNIT_IDS := by cases unitId <;> decide

theorem ready_bool (hlib : lib.Documented) (ready : Option Bool) :
    lib.accepts { name := "ready", checks := [.isBoolean], isOptional := true } (some (nullable .bool ready)) = true := by
  cases ready with
  | none => rfl
  | some b =>
    have hpasses := (hlib.isBoolean (some (.bool b))).2 ⟨b, rfl⟩
    simp [Validator.accepts, nullable, hpasses]

theorem done_accepts (hlib : lib.Documented) {matchId id : String} {n : Nat} (hmatch : lib.isUUID matchId = true)
    (hround : 1 ≤ n) (hid : lib.isUUID id = true) (extra : Record) : ∀ p ∈ MatchCombatDoneDto,
      lib.accepts p (Assoc.get (doneFields matchId n id ++ extra) p.name) = true := by
  simp only [MatchCombatDoneDto, List.forall_mem_cons]
  exact ⟨uuid_text hlib hmatch, round_nat hlib hround, uuid_text hlib hid, List.forall_mem_nil _⟩

theorem payload_flat (incoming : Incoming) : Flat incoming.payload := by
  cases incoming with
  | shopFuse r unitId source target id =>
    cases source <;> cases target <;> simp [Flat, Incoming.payload, nullable, nat, Value.isFlat]
  | matchReady r ready id => cases ready <;> simp [Flat, Incoming.payload, nullable, nat, Value.isFlat]
  | _ => simp [Flat, Incoming.payload, doneFields, nat, Value.isFlat]

/-- An object is read as the message it was built from. -/
theorem payload_read (incoming : Incoming) (extra : Record) : ∃ metatype toInstance,
    subscribed incoming.event = some (metatype, toInstance) ∧ toInstance (incoming.payload ++ extra) = incoming := by
  cases incoming with
  | shopSell r source slot id => exact ⟨_, _, rfl, by cases source <;> rfl⟩
  | shopFuse r unitId source target id =>
    exact ⟨_, _, rfl, by cases unitId <;> cases source <;> cases target <;> rfl⟩
  | matchPlace r unitInstanceId target slot id => exact ⟨_, _, rfl, by cases target <;> rfl⟩
  | matchReady r ready id => exact ⟨_, _, rfl, by cases ready <;> rfl⟩
  | _ => exact ⟨_, _, rfl, rfl⟩

/-- The properties of a valid message pass, whatever else its object holds. -/
theorem payload_accepts (hlib : lib.Documented) (h : incoming.Valid lib.isUUID)
    (hsub : subscribed incoming.event = some (metatype, toInstance)) (extra : Record) :
    ∀ p ∈ metatype, lib.accepts p (Assoc.get (incoming.payload ++ extra) p.name) = true := by
  cases incoming with
  | matchmakingJoin =>
    cases hsub
    exact List.forall_mem_nil _
  | matchmakingLeave =>
    cases hsub
    exact List.forall_mem_nil _
  | shopBuy r offerIndex id =>
    obtain ⟨hround, hindex, hid⟩ := h
    cases hsub
    simp only [ShopBuyDto, List.forall_mem_cons]
    exact ⟨round_nat hlib hround, index_nat hlib hindex, uuid_text hlib hid, List.forall_mem_nil _⟩
  | shopSell r source slot id =>
    obtain ⟨hround, hslot, hid⟩ := h
    cases hsub
    simp only [ShopSellDto, List.forall_mem_cons]
    exact ⟨round_nat hlib hround, oneOf_text hlib (place_text source), index_nat hlib hslot, uuid_text hlib hid, List.forall_mem_nil _⟩
  | shopRefresh r id =>
    obtain ⟨hround, hid⟩ := h
    cases hsub
    simp only [ShopRefreshDto, List.forall_mem_cons]
    exact ⟨round_nat hlib hround, uuid_text hlib hid, List.forall_mem_nil _⟩
  | shopFuse r unitId source target id =>
    obtain ⟨hround, hsource, htarget, hid⟩ := h
    cases hsub
    simp only [ShopFuseDto, List.forall_mem_cons]
    exact ⟨round_nat hlib hround, oneOf_text hlib (unit_text unitId), optional_text hlib hsource,
      optional_text hlib htarget, uuid_text hlib hid, List.forall_mem_nil _⟩
  | matchPlace r unitInstanceId target slot id =>
    obtain ⟨hround, hunit, hslot, hid⟩ := h
    cases hsub
    simp only [MatchPlaceDto, List.forall_mem_cons]
    exact ⟨round_nat hlib hround, uuid_text hlib hunit, oneOf_text hlib (place_text target), index_nat hlib hslot,
      uuid_text hlib hid, List.forall_mem_nil _⟩
  | matchReady r ready id =>
    obtain ⟨hround, hid⟩ := h
    cases hsub
    simp only [MatchReadyDto, List.forall_mem_cons]
    exact ⟨round_nat hlib hround, ready_bool hlib ready, uuid_text hlib hid, List.forall_mem_nil _⟩
  | matchCombatDone matchId r id =>
    cases hsub
    exact done_accepts hlib h.1 h.2.1 h.2.2 extra
  | matchRoundReady matchId r id =>
    cases hsub
    exact done_accepts hlib h.1 h.2.1 h.2.2 extra
  | matchSurrender matchId r id =>
    cases hsub
    exact done_accepts hlib h.1 h.2.1 h.2.2 extra

/-- A valid message passes as itself, whatever else its object holds, as long
as that is flat. -/
theorem delivered_payload (hlib : lib.Documented) (h : incoming.Valid lib.isUUID) (hflat : Flat extra) :
    delivered lib incoming.event (.obj (incoming.payload ++ extra)) = some incoming := by
  obtain ⟨metatype, toInstance, hsub, hread⟩ := payload_read incoming extra
  obtain ⟨dto, hdto, hsame⟩ := transform_flat hlib (List.forall_mem_append.2 ⟨payload_flat incoming, hflat⟩)
    (payload_accepts hlib h hsub extra)
  exact (delivered_ok hsub).2 ⟨dto, hdto, (subscribed_reads hsub hsame).trans hread⟩

/-- One that is not valid does not. -/
theorem delivered_invalid (hlib : lib.Documented) (h : ¬ incoming.Valid lib.isUUID) :
    delivered lib incoming.event (.obj incoming.payload) = none := by
  rw [Option.eq_none_iff_forall_not_mem]
  intro other hother
  obtain ⟨metatype, toInstance, hsub, hread⟩ := payload_read incoming []
  rw [List.append_nil] at hread
  obtain ⟨dto, hdto, rfl⟩ := (delivered_ok hsub).1 hother
  obtain ⟨made, hmade, hkept, -⟩ := transform_ok hlib hdto
  obtain ⟨made', hmade', hsame⟩ := hlib.plainToInstance metatype incoming.payload (payload_flat incoming)
  rw [show (Value.obj incoming.payload).fields = incoming.payload from rfl, hmade'] at hmade
  cases hmade
  have hself : toInstance dto = incoming :=
    (subscribed_reads hsub fun p hp => (hkept p hp).trans (hsame p hp)).trans hread
  have hvalid := (delivered_valid hlib hother).2
  rw [hself] at hvalid
  exact h hvalid

/-- **What a handler can be asked.** Of an event exactly its valid messages
come through the pipe, each as its client sent it, and flat properties beside
the declared ones change nothing. -/
theorem delivered_exact (hlib : lib.Documented) (event : String) (incoming : Incoming) :
    ((∃ data, delivered lib event data = some incoming) ↔ incoming.event = event ∧ incoming.Valid lib.isUUID) ∧
      (incoming.Valid lib.isUUID → ∀ extra, Flat extra →
        delivered lib incoming.event (.obj (incoming.payload ++ extra)) = some incoming) := by
  refine ⟨⟨fun h => ?_, fun h => ?_⟩, fun h extra hflat => delivered_payload hlib h hflat⟩
  · obtain ⟨data, hdata⟩ := h
    exact delivered_valid hlib hdata
  · obtain ⟨rfl, hvalid⟩ := h
    exact ⟨_, delivered_payload hlib hvalid (List.forall_mem_nil _)⟩

end

/-- A library that throws at what is not flat. -/
def flatLibrary (isUUID : String → Bool) : Validator Thrown :=
  .flat ⟨some "targetType is not a constructor", .obj [("message", .str "targetType is not a constructor")]⟩ isUUID
    fun p => p.name ++ " must be a UUID"

def buyId : String := "11111111-1111-4111-8111-111111111111"

/-- The last offer of the first round, with a property beside. -/
theorem lastOffer_delivered : delivered (flatLibrary (· == buyId)) "game:shop:buy"
    (.obj [("round", nat 1), ("offerIndex", nat 4), ("clientActionId", .str buyId), ("note", .bool true)]) =
      some (.shopBuy 1 4 buyId) :=
  (delivered_exact (flat_documented _ _ _) "game:shop:buy" (.shopBuy 1 4 buyId)).2 ⟨by decide, by decide, by decide⟩
    [("note", .bool true)] (by simp [Flat, Value.isFlat])

end AutoChess.Ws
