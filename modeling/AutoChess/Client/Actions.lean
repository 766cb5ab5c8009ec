/-
What the controller sends, against what the server takes. The ids it draws
are version 4 ids; every message is of the class of its event, unless it names
a unit whose purchase is not confirmed yet; and what goes wrong with a message
is answered with the id of its tap. The view of before comes back with that
error unless the tap was settled before it: by a state of the match, by the
offers of a refresh, or by an error of its own (`tap_answered`).
-/
import AutoChess.Client.Predicts
import AutoChess.Ws.Incoming

namespace AutoChess.Client

open AutoChess.Game AutoChess.Runtime AutoChess.Shop
open AutoChess.Ws (Incoming Thrown delivered answer placeText OFFER_INDEX_MAX SLOT_MAX)
open AutoChess.Codec (unitText)
open AutoChess.Messages (nat int decode errorFields)
open Json

/-! ## Action ids -/

/-- `b.toRadixString(16).padLeft(2, '0')`. -/
def hexByte (b : Fin 256) : List Char := (Nat.toDigits 16 b).leftpad 2 '0'

/-- `(b & 0x0f) | 0x40`. -/
def withVersion (b : Fin 256) : Fin 256 := (b &&& 0x0f) ||| 0x40

/-- `(b & 0x3f) | 0x80`. -/
def withVariant (b : Fin 256) : Fin 256 := (b &&& 0x3f) ||| 0x80

/-- `_actionId`, of the sixteen bytes it draws. -/
def actionId (bytes : List (Fin 256)) : String :=
  let bytes := (bytes.modify 6 withVersion).modify 8 withVariant
  let hex := bytes.flatMap hexByte
  String.ofList (hex.take 8 ++ '-' :: (hex.drop 8).take 4 ++ '-' :: (hex.drop 12).take 4 ++
    '-' :: (hex.drop 16).take 4 ++ '-' :: hex.drop 20)

def isHex (c : Char) : Bool := c.isDigit || 'a' ≤ c && c ≤ 'f'

/-- What stands at a place of a version 4 id. -/
def version4At (i : Nat) (c : Char) : Bool :=
  if i = 8 ∨ i = 13 ∨ i = 18 ∨ i = 23 then c == '-'
  else if i = 14 then c == '4'
  else if i = 19 then ['8', '9', 'a', 'b'].contains c
  else isHex c

def isVersion4 (s : String) : Bool := s.toList.length == 36 && (s.toList.zipIdx.all fun (c, i) => version4At i c)

/-- What the server's library takes for an id: every version 4 id, and no text
of another length. -/
structure Recognises (isUUID : String → Bool) : Prop where
  version4 : ∀ s, isVersion4 s = true → isUUID s = true
  length : ∀ s, isUUID s = true → s.length = 36

theorem hexByte_eq (b : Fin 256) : hexByte b = [Nat.digitChar (b / 16), Nat.digitChar (b % 16)] := by
  revert b
  decide +kernel

theorem isHex_high (b : Fin 256) : isHex (Nat.digitChar (b / 16)) = true := by
  revert b
  decide +kernel

theorem isHex_low (b : Fin 256) : isHex (Nat.digitChar (b % 16)) = true := by
  revert b
  decide +kernel

theorem version_digit (b : Fin 256) : (withVersion b : Nat) / 16 = 4 := by
  revert b
  decide +kernel

theorem variant_digit (b : Fin 256) : ['8', '9', 'a', 'b'].contains (Nat.digitChar (withVariant b / 16)) = true := by
  revert b
  decide +kernel

/-- The ids drawn are version 4 ids. -/
theorem actionId_version4 : ∀ bytes : List (Fin 256), bytes.length = 16 → isVersion4 (actionId bytes) = true
  | [b0, b1, b2, b3, b4, b5, b6, b7, b8, b9, b10, b11, b12, b13, b14, b15], _ => by
    have hvariant := variant_digit b8
    simp [isVersion4, actionId, hexByte_eq, List.modify, version4At, isHex_high, isHex_low, version_digit] at hvariant ⊢
    exact hvariant

/-! ## Messages on the wire -/

/-- `GameActions`. -/
def Emit.event : Emit → String
  | .shopBuy _ _ _ => "game:shop:buy"
  | .shopSell _ _ _ _ => "game:shop:sell"
  | .shopRefresh _ _ => "game:shop:refresh"
  | .shopFuse _ _ _ _ _ => "game:shop:fuse"
  | .matchPlace _ _ _ _ _ => "game:match:place"
  | .matchReady _ _ _ => "game:match:ready"
  | .matchCombatDone _ _ _ => "game:match:combat_done"
  | .matchRoundReady _ _ _ => "game:match:round_ready"
  | .matchSurrender _ _ _ => "game:match:surrender"

def Emit.payload : Emit → Record
  | .shopBuy round offerIndex id =>
    [("round", nat round), ("offerIndex", int offerIndex), ("clientActionId", .str id)]
  | .shopSell round source slot id =>
    [("round", nat round), ("source", .str (placeText source)), ("slot", int slot), ("clientActionId", .str id)]
  | .shopRefresh round id => [("round", nat round), ("clientActionId", .str id)]
  | .shopFuse round unitId source target id =>
    [("round", nat round), ("unitId", .str (unitText unitId)), ("sourceInstanceId", .str source),
      ("targetInstanceId", .str target), ("clientActionId", .str id)]
  | .matchPlace round unitInstanceId target slot id =>
    [("round", nat round), ("unitInstanceId", .str unitInstanceId), ("target", .str (placeText target)),
      ("slot", int slot), ("clientActionId", .str id)]
  | .matchReady round ready id => [("round", nat round), ("ready", .bool ready), ("clientActionId", .str id)]
  | .matchCombatDone matchId round id | .matchRoundReady matchId round id | .matchSurrender matchId round id =>
    [("matchId", .str matchId), ("round", nat round), ("clientActionId", .str id)]

/-- What a message means to ask. -/
def Emit.meant : Emit → Incoming
  | .shopBuy round offerIndex id => .shopBuy round offerIndex.toNat id
  | .shopSell round source slot id => .shopSell round source slot.toNat id
  | .shopRefresh round id => .shopRefresh round id
  | .shopFuse round unitId source target id => .shopFuse round unitId (some source) (some target) id
  | .matchPlace round unitInstanceId target slot id => .matchPlace round unitInstanceId target slot.toNat id
  | .matchReady round ready id => .matchReady round (some ready) id
  | .matchCombatDone matchId round id => .matchCombatDone matchId round id
  | .matchRoundReady matchId round id => .matchRoundReady matchId round id
  | .matchSurrender matchId round id => .matchSurrender matchId round id

def Emit.clientActionId : Emit → String
  | .shopBuy _ _ id | .shopSell _ _ _ id | .shopRefresh _ id | .shopFuse _ _ _ _ id | .matchPlace _ _ _ _ id
  | .matchReady _ _ id | .matchCombatDone _ _ id | .matchRoundReady _ _ id | .matchSurrender _ _ id => id

def Emit.round : Emit → Nat
  | .shopBuy round _ _ | .shopSell round _ _ _ | .shopRefresh round _ | .shopFuse round _ _ _ _
  | .matchPlace round _ _ _ _ | .matchReady round _ _ | .matchCombatDone _ round _ | .matchRoundReady _ round _
  | .matchSurrender _ round _ => round

/-- The units a message names. -/
def Emit.units : Emit → List String
  | .shopFuse _ _ source target _ => [source, target]
  | .matchPlace _ unitInstanceId _ _ _ => [unitInstanceId]
  | _ => []

/-- The match a message names. -/
def Emit.matchId : Emit → Option String
  | .matchCombatDone matchId _ _ | .matchRoundReady matchId _ _ | .matchSurrender matchId _ _ => some matchId
  | _ => none

def Emit.InRange : Emit → Prop
  | .shopBuy _ offerIndex _ => 0 ≤ offerIndex ∧ offerIndex ≤ OFFER_INDEX_MAX
  | .shopSell _ _ slot _ | .matchPlace _ _ _ slot _ => 0 ≤ slot ∧ slot ≤ SLOT_MAX
  | _ => True

/-- An id of the server, or one the client made up for a unit it bought. -/
def Named (isUUID : String → Bool) (id : String) : Prop :=
  isUUID id = true ∨ ∃ actionId, isUUID actionId = true ∧ id = s!"pending-{actionId}"

structure Sendable (isUUID : String → Bool) (matchId id : String) (message : Emit) : Prop where
  round : 1 ≤ message.round
  inRange : message.InRange
  units : ∀ unit ∈ message.units, Named isUUID unit
  id : message.clientActionId = id
  matchId : ∀ m ∈ message.matchId, m = matchId

section
variable {isUUID : String → Bool} {matchId id : String} {message : Emit}

theorem int_toNat {n : Int} (h : 0 ≤ n) : int n = nat n.toNat := by
  rw [int, nat, ← ofInt_natCast, Int.toNat_of_nonneg h]

theorem meant_event (message : Emit) : message.meant.event = message.event := by cases message <;> rfl

theorem meant_payload (h : message.InRange) : message.payload = message.meant.payload := by
  cases message with
  | shopBuy r offerIndex id => simp only [Emit.payload, Emit.meant, Incoming.payload, int_toNat h.1]
  | shopSell r source slot id => simp only [Emit.payload, Emit.meant, Incoming.payload, int_toNat h.1]
  | matchPlace r unitInstanceId target slot id =>
    simp only [Emit.payload, Emit.meant, Incoming.payload, int_toNat h.1]
  | _ => rfl

theorem toNat_le {n : Int} {bound : Int} (hlow : 0 ≤ n) (hhigh : n ≤ bound) : (n.toNat : Int) ≤ bound := by
  omega

/-- A message is valid but for a unit of the client's making. -/
theorem meant_valid (h : Sendable isUUID matchId id message) (hid : isUUID id = true) (hmatch : isUUID matchId = true) :
    message.meant.Valid isUUID ↔ message.units.all isUUID = true := by
  have hround := h.round
  have hrange := h.inRange
  have hsent : isUUID message.clientActionId = true := by rwa [h.id]
  have hnamed : ∀ m ∈ message.matchId, isUUID m = true := by
    intro m hm
    rwa [h.matchId m hm]
  cases message with
  | shopBuy r offerIndex id => exact iff_of_true ⟨hround, toNat_le hrange.1 hrange.2, hsent⟩ rfl
  | shopSell r source slot id => exact iff_of_true ⟨hround, toNat_le hrange.1 hrange.2, hsent⟩ rfl
  | shopRefresh r id => exact iff_of_true ⟨hround, hsent⟩ rfl
  | shopFuse r unitId source target id =>
    simp only [Emit.meant, Incoming.Valid, Option.mem_some_iff, forall_eq', Emit.units, List.all_cons, List.all_nil,
      Bool.and_true, Bool.and_eq_true]
    exact ⟨fun hvalid => ⟨hvalid.2.1, hvalid.2.2.1⟩, fun hunits => ⟨hround, hunits.1, hunits.2, hsent⟩⟩
  | matchPlace r unitInstanceId target slot id =>
    simp only [Emit.meant, Incoming.Valid, Emit.units, List.all_cons, List.all_nil, Bool.and_true]
    exact ⟨fun hvalid => hvalid.2.1, fun hunit => ⟨hround, hunit, toNat_le hrange.1 hrange.2, hsent⟩⟩
  | matchReady r ready id => exact iff_of_true ⟨hround, hsent⟩ rfl
  | matchCombatDone m r id => exact iff_of_true ⟨hnamed m rfl, hround, hsent⟩ rfl
  | matchRoundReady m r id => exact iff_of_true ⟨hnamed m rfl, hround, hsent⟩ rfl
  | matchSurrender m r id => exact iff_of_true ⟨hnamed m rfl, hround, hsent⟩ rfl

/-- It comes through the pipe as it was meant, or not at all. -/
theorem sendable_delivered {lib : Validator Thrown} (hlib : lib.Documented) (h : Sendable lib.isUUID matchId id message)
    (hid : lib.isUUID id = true) (hmatch : lib.isUUID matchId = true) :
    delivered lib message.event (.obj message.payload) =
      if message.units.all lib.isUUID then some message.meant else none := by
  have hvalid := meant_valid h hid hmatch
  rw [← meant_event, meant_payload h.inRange]
  split
  · next hall =>
    have hpasses := Ws.delivered_payload hlib (hvalid.2 hall) (List.forall_mem_nil _)
    rwa [List.append_nil] at hpasses
  · next hall => exact Ws.delivered_invalid hlib fun hv => hall (hvalid.1 hv)

end

/-! ## What the view holds -/

/-- Lists of at most nine slots, of units the client can name. -/
structure Fits (isUUID : String → Bool) (roster : PlayerRoster) : Prop where
  slots : ∀ area, (roster.slots area).length ≤ 9
  units : ∀ area, ∀ unit : Unit, some unit ∈ roster.slots area → Named isUUID unit.instanceId

structure Shown (isUUID : String → Bool) (m : MatchState) : Prop where
  round : 1 ≤ m.round
  roster : Fits isUUID m.roster

/-- What messages are made of. -/
structure Sound (isUUID : String → Bool) (v : ServerView) : Prop where
  phase : ∀ event, v.phase = some event → 1 ≤ event.round
  matchState : ∀ m, v.matchState = some m → Shown isUUID m
  shop : ∀ event, v.shop = some event → event.offers.length ≤ 5

structure Holds (isUUID : String → Bool) (c : Controller) : Prop where
  view : Sound isUUID c.state.server
  rollback : ∀ r, c.rollback = some r → Sound isUUID r.server

/-- The server counts rounds from one, sends rosters of its units, and five
offers. -/
def Served (isUUID : String → Bool) : ServerEvent → Prop
  | .phase event => 1 ≤ event.round
  | .matchState event => Shown isUUID event
  | .shop event => event.offers.length ≤ 5
  | .damage _ | .ended _ | .error _ => True

/-- A tap fuses units it was shown. -/
def Tap.Fuses (isUUID : String → Bool) : Tap → Prop
  | .fuse source target => Named isUUID source.instanceId ∧ Named isUUID target.instanceId
  | _ => True

def Possible (isUUID : String → Bool) : Step → Prop
  | .server event => Served isUUID event
  | .tap tap id => tap.Fuses isUUID ∧ ∃ bytes : List (Fin 256), bytes.length = 16 ∧ id = actionId bytes

section
variable {isUUID : String → Bool} {c c' : Controller} {id : String} {message : Emit} {event : ServerEvent}
  {m : MatchState}

theorem Sound.fill {v : ServerView} (h : Sound isUUID v) (hserved : Served isUUID event) :
    Sound isUUID (v.fill event) := by
  cases event with
  | phase event =>
    refine ⟨fun e he => ?_, h.matchState, h.shop⟩
    cases he
    exact hserved
  | matchState event =>
    refine ⟨h.phase, fun m hm => ?_, h.shop⟩
    cases hm
    exact hserved
  | shop event =>
    refine ⟨h.phase, h.matchState, fun e he => ?_⟩
    cases he
    exact hserved
  | damage event => exact ⟨h.phase, h.matchState, h.shop⟩
  | ended event => exact ⟨h.phase, h.matchState, h.shop⟩
  | error error => exact h

/-- An event keeps the view of before a tap, or drops it. -/
theorem receive_rollback {r : MatchViewState} (h : (c.receive event).rollback = some r) : c.rollback = some r := by
  by_cases herror : event.matchId = none
  · cases event with
    | error e =>
      have h : (c.onError e).rollback = some r := h
      unfold Controller.onError at h
      split at h
      · split at h
        · cases h
        · exact h
      · exact h
    | _ => cases herror
  by_cases hother : event.matchId = some c.matchId
  · cases event with
    | error e => cases hother
    | _ =>
      simp only [Controller.receive, Controller.onPhase, Controller.onMatchState, Controller.onShop,
        Controller.onDamage, Controller.onEnd] at h
      split at h
      · exact h
      · first | exact h | cases h
  · rwa [receive_other hother herror] at h

theorem Holds.receive (h : Holds isUUID c) (hserved : Served isUUID event) : Holds isUUID (c.receive event) := by
  refine ⟨?_, fun r hr => h.rollback r (receive_rollback hr)⟩
  by_cases herror : event.matchId = none
  · cases event with
    | error e =>
      show Sound isUUID (c.onError e).state.server
      unfold Controller.onError
      split
      · next restored hrollback =>
        split
        · exact h.rollback restored hrollback
        · exact h.view
      · exact h.view
    | _ => cases herror
  by_cases hother : event.matchId = some c.matchId
  · rw [(receive_news hother).server, ServerView.receive, if_pos hother]
    exact h.view.fill hserved
  · rw [receive_other hother herror]
    exact h.view

/-! ## What the taps send -/

section
variable {roster : PlayerRoster}

theorem Fits.unitAt (h : Fits isUUID roster) {area : RosterArea} {slot : Int} {unit : Unit}
    (hunit : roster.unitAt area slot = some unit) : Named isUUID unit.instanceId ∧ 0 ≤ slot ∧ slot ≤ SLOT_MAX := by
  obtain ⟨hlow, hget⟩ := unitAt_slots hunit
  have hmem := List.mem_of_getElem? hget
  have hlength := h.slots area
  have hlt := (List.getElem?_eq_some_iff.1 hget).1
  exact ⟨h.units area unit hmem, hlow, by simp only [SLOT_MAX]; omega⟩

/-- A slot written with nothing or with a unit that can be named. -/
theorem Fits.write (h : Fits isUUID roster) (area : RosterArea) (slot : Int) {x : Option Unit}
    (hx : ∀ unit, x = some unit → Named isUUID unit.instanceId) : Fits isUUID (roster.write area slot x) := by
  refine ⟨fun area' => ?_, fun area' unit hunit => ?_⟩
  · rw [slots_write]
    split
    · rw [List.length_set]
      exact h.slots area
    · exact h.slots area'
  · rw [slots_write] at hunit
    split at hunit
    · obtain hold | hnew := List.mem_or_eq_of_mem_set hunit
      · exact h.units area unit hold
      · exact hx unit hnew.symm
    · exact h.units area' unit hunit

theorem Fits.same {roster' : PlayerRoster} (h : Fits isUUID roster) (hboard : roster'.board = roster.board)
    (hbench : roster'.bench = roster.bench) : Fits isUUID roster' := by
  have hslots : ∀ area, roster'.slots area = roster.slots area := by
    intro area
    cases area with
    | board => exact hboard
    | bench => exact hbench
  exact ⟨fun area => by rw [hslots]; exact h.slots area, fun area => by rw [hslots]; exact h.units area⟩

end

theorem fuse_message {source target : Unit} (h : (c.fuse source target id).2 = some message) : ∃ m,
    c.state.matchState = some m ∧ (c.fuse source target id).1.state.matchState = some m ∧
      message = .shopFuse m.round source.unitId source.instanceId target.instanceId id := by
  unfold Controller.fuse at h ⊢
  split at h
  · cases h
  next m hm =>
  split at h
  · cases h
  next hcan =>
  cases h
  refine ⟨m, hm, ?_, rfl⟩
  dsimp only
  rw [if_neg hcan]
  exact hm

theorem refresh_message (h : (c.refresh id).2 = some message) : ∃ m, c.state.matchState = some m ∧
    (c.refresh id).1.state.matchState = some m ∧ message = .shopRefresh m.round id := by
  unfold Controller.refresh at h ⊢
  split at h
  · cases h
  next m hm =>
  split at h
  · cases h
  next hcan =>
  cases h
  refine ⟨m, hm, ?_, rfl⟩
  dsimp only
  rw [if_neg hcan]
  exact hm

/-- A unit placed on its like is fused with it; else it moves. -/
theorem place_message {target : RosterArea} {slot : Int} {source : Option UnitSelection}
    (h : (c.place target slot source id).2 = some message) :
    (∃ m, ∃ selected : UnitSelection, ∃ unit targetUnit, c.state.matchState = some m ∧
      m.roster.unitAt selected.area selected.slot = some unit ∧ m.roster.unitAt target slot = some targetUnit ∧
      c.place target slot source id = c.fuse unit targetUnit id) ∨
      ∃ round unitInstanceId, message = .matchPlace round unitInstanceId target slot id := by
  unfold Controller.place at h ⊢
  split at h
  · next m selected hm hselected =>
    split at h
    · cases h
    next hcan =>
    split at h
    · cases h
    next unit hunit =>
    split at h
    · cases h
    next hmoves =>
    split at h
    · next targetUnit htarget =>
      split at h
      · next hlike =>
        refine .inl ⟨m, selected, unit, targetUnit, hm, hunit, htarget, ?_⟩
        rw [if_neg hcan, if_neg hmoves, if_pos hlike]
      · cases h
    · split at h
      · cases h
      · cases h
        exact .inr ⟨_, _, rfl⟩
  · cases h

/-- What a tap sends can be sent, and the roster it leaves can be shown. -/
structure Sent (isUUID : String → Bool) (c c' : Controller) (id : String) (message : Emit) : Prop where
  sendable : Sendable isUUID c.matchId id message
  shown : ∀ m, c'.state.matchState = some m → Shown isUUID m

theorem buy_sendable (h : Holds isUUID c) (hid : isUUID id = true) {offerIndex : Int}
    (hsent : (c.buy offerIndex id).2 = some message) : Sent isUUID c (c.buy offerIndex id).1 id message := by
  obtain ⟨m, shop, offer, benchSlot, hm, hshop, hlow, hoffer, -, rfl, hafter⟩ := buy_sent hsent
  have hshown := h.view.matchState m hm
  have hlength : shop.offers.length ≤ 5 := h.view.shop shop hshop
  have hlt := (List.getElem?_eq_some_iff.1 (Option.join_eq_some_iff.1 hoffer)).1
  have hhigh : offerIndex ≤ OFFER_INDEX_MAX := by
    simp only [OFFER_INDEX_MAX]
    omega
  refine ⟨⟨hshown.round, ⟨hlow, hhigh⟩, by simp [Emit.units], rfl, by simp [Emit.matchId]⟩, fun m' hm' => ?_⟩
  rw [hafter] at hm'
  cases hm'
  have hnamed : Named isUUID s!"pending-{id}" := .inr ⟨id, hid, rfl⟩
  exact ⟨hshown.round, (hshown.roster.write .bench benchSlot (by simpa using hnamed)).same rfl rfl⟩

theorem sell_sendable (h : Holds isUUID c) {area : RosterArea} {slot : Int}
    (hsent : (c.sell area slot id).2 = some message) : Sent isUUID c (c.sell area slot id).1 id message := by
  obtain ⟨m, unit, hm, hunit, rfl, hafter⟩ := sell_sent hsent
  have hshown := h.view.matchState m hm
  refine ⟨⟨hshown.round, (hshown.roster.unitAt hunit).2, by simp [Emit.units], rfl, by simp [Emit.matchId]⟩,
    fun m' hm' => ?_⟩
  rw [hafter] at hm'
  cases hm'
  exact ⟨hshown.round, (hshown.roster.write area slot (by simp)).same rfl rfl⟩

theorem ready_sendable (h : Holds isUUID c) (hsent : (c.toggleReady id).2 = some message) :
    Sent isUUID c (c.toggleReady id).1 id message := by
  obtain ⟨m, hm, -, rfl, hafter⟩ := ready_sent hsent
  have hshown := h.view.matchState m hm
  refine ⟨⟨hshown.round, trivial, by simp [Emit.units], rfl, by simp [Emit.matchId]⟩, fun m' hm' => ?_⟩
  rw [hafter] at hm'
  cases hm'
  exact ⟨hshown.round, hshown.roster.same rfl rfl⟩

theorem refresh_sendable (h : Holds isUUID c) (hsent : (c.refresh id).2 = some message) :
    Sent isUUID c (c.refresh id).1 id message := by
  obtain ⟨m, hm, hafter, rfl⟩ := refresh_message hsent
  have hshown := h.view.matchState m hm
  refine ⟨⟨hshown.round, trivial, by simp [Emit.units], rfl, by simp [Emit.matchId]⟩, fun m' hm' => ?_⟩
  rw [hafter] at hm'
  cases hm'
  exact hshown

theorem fuse_sendable (h : Holds isUUID c) {source target : Unit} (hsource : Named isUUID source.instanceId)
    (htarget : Named isUUID target.instanceId) (hsent : (c.fuse source target id).2 = some message) :
    Sent isUUID c (c.fuse source target id).1 id message := by
  obtain ⟨m, hm, hafter, rfl⟩ := fuse_message hsent
  have hshown := h.view.matchState m hm
  refine ⟨⟨hshown.round, trivial, by simp [Emit.units, hsource, htarget], rfl, by simp [Emit.matchId]⟩,
    fun m' hm' => ?_⟩
  rw [hafter] at hm'
  cases hm'
  exact hshown

theorem place_sendable (h : Holds isUUID c) {target : RosterArea} {slot : Int} {source : Option UnitSelection}
    (hsent : (c.place target slot source id).2 = some message) :
    Sent isUUID c (c.place target slot source id).1 id message := by
  obtain ⟨m, selected, unit, targetUnit, hm, hunit, htarget, hfuse⟩ | ⟨_, _, rfl⟩ := place_message hsent
  · have hshown := h.view.matchState m hm
    rw [hfuse] at hsent ⊢
    exact fuse_sendable h (hshown.roster.unitAt hunit).1 (hshown.roster.unitAt htarget).1 hsent
  · obtain ⟨_, _, _, _, hmessage⟩ | ⟨m, selected, unit, hm, hunit, -, -, hrange, hmessage, hafter⟩ :=
      place_sent hsent
    · cases hmessage
    have hshown := h.view.matchState m hm
    have hnamed := (hshown.roster.unitAt hunit).1
    have hlength := hshown.roster.slots target
    simp only [inRange, Bool.and_eq_true, decide_eq_true_eq] at hrange
    rw [hmessage]
    have hhigh : slot ≤ SLOT_MAX := by
      simp only [SLOT_MAX]
      omega
    refine ⟨⟨hshown.round, ⟨hrange.1, hhigh⟩, by simp [Emit.units, hnamed], rfl, by simp [Emit.matchId]⟩,
      fun m' hm' => ?_⟩
    rw [hafter] at hm'
    cases hm'
    have hleft := hshown.roster.write selected.area selected.slot (x := none) (by simp)
    exact ⟨hshown.round, (hleft.write target slot (by simpa using hnamed)).same rfl rfl⟩

/-- A message of the phase; the roster stays. -/
theorem phase_sendable (h : Holds isUUID c) {phase : MatchPhaseEvent} (hphase : c.state.phase = some phase)
    (hround : message.round = phase.round) (hrange : message.InRange) (hunits : message.units = [])
    (hid : message.clientActionId = id) (hmatch : message.matchId = some c.matchId)
    (hkept : c'.state.matchState = c.state.matchState) : Sent isUUID c c' id message := by
  have hpositive : 1 ≤ phase.round := h.view.phase phase hphase
  refine ⟨⟨by omega, hrange, by simp [hunits], hid, by simp [hmatch]⟩, fun m hm => ?_⟩
  rw [hkept] at hm
  exact h.view.matchState m hm

theorem readyForNextRound_sendable (h : Holds isUUID c) (hsent : (c.tapReadyForNextRound id).2 = some message) :
    Sent isUUID c (c.tapReadyForNextRound id).1 id message := by
  unfold Controller.tapReadyForNextRound at hsent ⊢
  split at hsent
  · cases hsent
  next phase hphase =>
  split at hsent
  · cases hsent
  next hopen =>
  cases hsent
  refine phase_sendable h hphase rfl trivial rfl rfl rfl ?_
  dsimp only
  rw [if_neg hopen]

theorem surrender_sendable (h : Holds isUUID c) (hsent : (c.tapSurrender id).2 = some message) :
    Sent isUUID c (c.tapSurrender id).1 id message := by
  unfold Controller.tapSurrender at hsent ⊢
  split at hsent
  · cases hsent
  next phase hphase =>
  split at hsent
  · cases hsent
  next hopen =>
  cases hsent
  refine phase_sendable h hphase rfl trivial rfl rfl rfl ?_
  rw [if_neg hopen]

theorem skipCombat_sendable (h : Holds isUUID c) (hsent : (c.skipCombat id).2 = some message) :
    Sent isUUID c (c.skipCombat id).1 id message := by
  unfold Controller.skipCombat at hsent ⊢
  split at hsent
  · cases hsent
  next phase hphase =>
  split at hsent
  · cases hsent
  next hopen =>
  cases hsent
  refine phase_sendable h hphase rfl trivial rfl rfl rfl ?_
  dsimp only
  rw [if_neg hopen]

theorem tap_sendable (h : Holds isUUID c) (hid : isUUID id = true) {tap : Tap} (hfuses : tap.Fuses isUUID)
    (hsent : (c.tap id tap).2 = some message) : Sent isUUID c (c.tap id tap).1 id message := by
  cases tap with
  | clearError => cases hsent
  | readyForNextRound => exact readyForNextRound_sendable h hsent
  | surrender => exact surrender_sendable h hsent
  | select area slot =>
    have hplace : c.select area slot id = c.place area slot none id := select_sent hsent
    have hsent : (c.select area slot id).2 = some message := hsent
    show Sent isUUID c (c.select area slot id).1 id message
    rw [hplace] at hsent ⊢
    exact place_sendable h hsent
  | buy offerIndex => exact buy_sendable h hid hsent
  | refresh => exact refresh_sendable h hsent
  | toggleReady => exact ready_sendable h hsent
  | skipCombat => exact skipCombat_sendable h hsent
  | place target slot source => exact place_sendable h hsent
  | sell area slot => exact sell_sendable h hsent
  | fuse source target => exact fuse_sendable h hfuses.1 hfuses.2 hsent

theorem offersAfter_length {shop : Option ShopOffersEvent} {after : ShopOffersEvent}
    (h : message.offersAfter shop = some after) : ∃ before, shop = some before ∧
      after.offers.length = before.offers.length := by
  cases message with
  | shopBuy r offerIndex id =>
    obtain ⟨before, hbefore, rfl⟩ := Option.map_eq_some_iff.1 h
    exact ⟨before, hbefore, List.length_set⟩
  | _ => exact ⟨after, h, rfl⟩

theorem Holds.tap (h : Holds isUUID c) (hid : isUUID id = true) {tap : Tap} (hfuses : tap.Fuses isUUID) :
    Holds isUUID (c.tap id tap).1 := by
  obtain hidle | ⟨message, hsent, hpredicts⟩ := @tap_step id c tap
  · exact ⟨hidle.server ▸ h.view, hidle.rollback ▸ h.rollback⟩
  · have hshown := (tap_sendable h hid hfuses hsent).shown
    refine ⟨⟨?_, hshown, ?_⟩, ?_⟩
    · show ∀ event, (c.tap id tap).1.state.phase = some event → _
      rw [hpredicts.phase]
      exact h.view.phase
    · show ∀ event, (c.tap id tap).1.state.shop = some event → _
      rw [hpredicts.shop]
      intro after hafter
      obtain ⟨before, hbefore, hlength⟩ := offersAfter_length hafter
      rw [hlength]
      exact h.view.shop before hbefore
    · rw [hpredicts.rollback]
      intro r hr
      cases hr
      exact h.view

end

/-! ## Runs -/

section
variable {isUUID : String → Bool} {c : Controller}

theorem Possible.id (hids : Recognises isUUID) {tap : Tap} {id : String} (h : Possible isUUID (.tap tap id)) :
    isUUID id = true := by
  obtain ⟨-, bytes, hbytes, rfl⟩ := h
  exact hids.version4 _ (actionId_version4 bytes hbytes)

theorem run_holds (hids : Recognises isUUID) {steps : List Step} (hsteps : ∀ step ∈ steps, Possible isUUID step)
    (h : Holds isUUID c) : Holds isUUID (c.run steps).1 ∧ (c.run steps).1.matchId = c.matchId := by
  induction steps generalizing c with
  | nil => exact ⟨h, rfl⟩
  | cons step steps ih =>
    rw [List.forall_mem_cons] at hsteps
    obtain ⟨hstep, hsteps⟩ := hsteps
    cases step with
    | server event =>
      obtain ⟨hholds, hmatch⟩ := ih hsteps (h.receive hstep)
      exact ⟨hholds, hmatch.trans (receive_matchId c event)⟩
    | tap tap id =>
      obtain ⟨hholds, hmatch⟩ := ih hsteps (h.tap (hstep.id hids) hstep.1)
      refine ⟨hholds, hmatch.trans ?_⟩
      obtain hidle | ⟨_, -, hpredicts⟩ := @tap_step id c tap
      · exact hidle.matchId
      · exact hpredicts.matchId

theorem fresh_holds (isUUID : String → Bool) (matchId : String) : Holds isUUID (Controller.fresh matchId) := by
  refine ⟨⟨fun event h => ?_, fun m h => ?_, fun event h => ?_⟩, fun r h => ?_⟩ <;> cases h

/-! ## Answers -/

theorem toGameError_id (exception : Thrown) (fallbackCode : String) {id : String} (h : id ≠ "") :
    (Ws.toGameError exception fallbackCode (some id)).clientActionId = some id := by
  simp [Ws.toGameError, h]

theorem payload_id (message : Emit) :
    textOf? (Assoc.get (Value.obj message.payload).fields "clientActionId") = some message.clientActionId := by
  cases message <;> rfl

theorem meant_id (message : Emit) : message.meant.clientActionId = some message.clientActionId := by
  cases message <;> rfl

/-- Whatever goes wrong, the answer names the action. -/
theorem answer_id {lib : Validator Thrown} (hlib : lib.Documented) {matchId id : String} {message : Emit}
    (h : Sendable lib.isUUID matchId id message) (hid : lib.isUUID id = true) (hmatch : lib.isUUID matchId = true)
    (hids : Recognises lib.isUUID) {domain : Ws.Domain} {guard : Option Thrown} {envelope : Messages.GameErrorEnvelope}
    (hanswer : answer lib domain guard message.event (.obj message.payload) = some envelope) :
    envelope.clientActionId = some id := by
  have hne : id ≠ "" := by
    intro hempty
    have hlength := hids.length id hid
    rw [hempty] at hlength
    cases hlength
  have hcaught : ∀ exception, (Ws.catchError exception (.obj message.payload)).clientActionId = some id := by
    intro exception
    rw [Ws.catchError, payload_id, h.id]
    exact toGameError_id exception _ hne
  have hdelivered := sendable_delivered hlib h hid hmatch
  obtain ⟨⟨metatype, toInstance⟩, hsub, hanswer⟩ := Option.bind_eq_some_iff.1 hanswer
  dsimp only at hanswer
  cases guard with
  | some exception =>
    cases hanswer
    exact hcaught exception
  | none =>
    dsimp only at hanswer
    cases htransform : Ws.transform lib metatype (.obj message.payload) with
    | error exception =>
      rw [htransform] at hanswer
      cases hanswer
      exact hcaught exception
    | ok dto =>
      rw [htransform] at hanswer
      obtain ⟨exception, -, rfl⟩ := Option.map_eq_some_iff.1 hanswer
      rw [(Ws.delivered_ok hsub).2 ⟨dto, htransform, rfl⟩] at hdelivered
      split at hdelivered
      · rw [Option.some.inj hdelivered, meant_id, h.id]
        exact toGameError_id exception _ hne
      · cases hdelivered

theorem named_refused (hids : Recognises isUUID) {unit : String} (h : Named isUUID unit) :
    isUUID unit = false ↔ ∃ bought, isUUID bought = true ∧ unit = s!"pending-{bought}" := by
  constructor
  · intro hrefused
    obtain hknown | hbought := h
    · rw [hrefused] at hknown
      cases hknown
    · exact hbought
  · intro hbought
    obtain ⟨bought, hbought, rfl⟩ := hbought
    by_contra hknown
    have hlength := hids.length _ (by simpa using hknown)
    have hprefix : s!"pending-{bought}".length = 8 + bought.length := by
      rw [String.length_append]
      rfl
    have := hids.length bought hbought
    omega

end

/-! ## What comes back -/

/-- An event that settles an action of the client: a state of its match, offers
for the round that has some, which are those of a refresh, or an error that
names it. -/
def Settles (id : String) (c : Controller) : ServerEvent → Prop
  | .matchState event => event.matchId = c.matchId
  | .shop event => event.matchId = c.matchId ∧ ∃ shop, c.state.shop = some shop ∧ shop.round = event.round
  | .error error => error.clientActionId = some id
  | _ => False

/-- No event of a run settles the action. -/
def Unsettled (id : String) : Controller → List Step → Prop
  | _, [] => True
  | c, .server event :: steps => ¬ Settles id c event ∧ Unsettled id (c.receive event) steps
  | c, .tap tap id' :: steps => Unsettled id (c.tap id' tap).1 steps

/-- The tap is the one in flight, and the view of before it is kept. -/
structure Awaits (c : Controller) (id : String) (before : MatchViewState) : Prop where
  pending : c.state.pendingActionId = some id
  rollback : c.rollback = some before

/-- No error can bring back a view for this action. -/
def Settled (c : Controller) (id : String) : Prop := c.state.pendingActionId = some id → c.rollback = none

section
variable {c : Controller} {id id' : String} {before : MatchViewState} {event : ServerEvent} {steps : List Step}
  {error : GameError}

/-- An event leaves an action in flight, or settles it. -/
theorem Awaits.receive (h : Awaits c id before) (hsettles : ¬ Settles id c event) :
    Awaits (c.receive event) id before := by
  cases event with
  | phase e =>
    show Awaits (c.onPhase e) id before
    unfold Controller.onPhase
    split <;> exact ⟨h.pending, h.rollback⟩
  | matchState e =>
    show Awaits (c.onMatchState e) id before
    unfold Controller.onMatchState
    split
    · exact h
    · next hmatch => exact absurd (not_not.1 hmatch) hsettles
  | shop e =>
    show Awaits (c.onShop e) id before
    unfold Controller.onShop
    split
    · exact h
    · next hmatch =>
      refine ⟨?_, h.rollback⟩
      dsimp only
      split
      · next hrefresh =>
        obtain ⟨shop, hshop, hround⟩ := (Option.any_eq_true _ _).1 hrefresh
        exact absurd ⟨not_not.1 hmatch, shop, hshop, eq_of_beq hround⟩ hsettles
      · exact h.pending
  | damage e =>
    show Awaits (c.onDamage e) id before
    unfold Controller.onDamage
    split <;> exact ⟨h.pending, h.rollback⟩
  | ended e =>
    show Awaits (c.onEnd e) id before
    unfold Controller.onEnd
    split <;> exact ⟨h.pending, h.rollback⟩
  | error e =>
    have hother : ∀ id', c.state.pendingActionId = some id' → (Wire.received (.error e)).refuses id' = false := by
      intro id' hid'
      rw [h.pending] at hid'
      cases hid'
      exact beq_eq_false_iff_ne.2 hsettles
    rw [show c.receive (.error e) = c.onError e from rfl, onError_message hother]
    exact ⟨h.pending, h.rollback⟩

/-- Nothing else is predicted while an action is in flight. -/
theorem Awaits.tap (h : Awaits c id before) (tap : Tap) : Awaits (c.tap id' tap).1 id before := by
  obtain hidle | ⟨_, -, hpredicts⟩ := @tap_step id' c tap
  · exact ⟨hidle.pending.trans h.pending, hidle.rollback.trans h.rollback⟩
  · have hidle := hpredicts.idle
    rw [h.pending] at hidle
    cases hidle

theorem Awaits.run (h : Awaits c id before) (hsteps : Unsettled id c steps) : Awaits (c.run steps).1 id before := by
  induction steps generalizing c with
  | nil => exact h
  | cons step steps ih =>
    cases step with
    | server event => exact ih (h.receive hsteps.1) hsteps.2
    | tap tap id' => exact ih (h.tap tap) hsteps

/-- The error of an action in flight brings back the view of before it. -/
theorem Awaits.restores (h : Awaits c id before) (hidle : before.pendingActionId = none)
    (herror : error.clientActionId = some id) : (c.receive (.error error)).state =
      { before with errorMessage := some (gameErrorMessage error.code) } := by
  have hrefuses : (Wire.received (.error error)).refuses id = true := by simp [Wire.refuses, herror]
  rw [show c.receive (.error error) = c.onError error from rfl, onError_restores h.rollback h.pending hrefuses]
  dsimp only
  rw [← hidle]

/-- The error of an action that is settled is shown, and changes nothing else. -/
theorem Settled.message (h : Settled c id) (herror : error.clientActionId = some id) :
    c.receive (.error error) =
      { c with state := { c.state with errorMessage := some (gameErrorMessage error.code) } } := by
  by_cases hpending : c.state.pendingActionId = some id
  · rw [show c.receive (.error error) = c.onError error from rfl, Controller.onError, h hpending]
  · refine onError_message fun id' hid' => ?_
    rw [Wire.refuses, herror]
    exact beq_eq_false_iff_ne.2 fun heq => hpending (hid'.trans heq.symm)

/-- An event that settles an action has settled it. -/
theorem settles_settled (h : Settles id c event) : Settled (c.receive event) id := by
  intro hpending
  cases event with
  | phase e => cases h
  | damage e => cases h
  | ended e => cases h
  | matchState e =>
    have hmatch : ¬ e.matchId ≠ c.matchId := not_not.2 h
    rw [show c.receive (.matchState e) = c.onMatchState e from rfl, Controller.onMatchState, if_neg hmatch]
  | shop e =>
    obtain ⟨hmatch, shop, hshop, hround⟩ := h
    rw [show c.receive (.shop e) = c.onShop e from rfl, Controller.onShop, if_neg (not_not.2 hmatch)] at hpending
    dsimp only at hpending
    rw [if_pos (by simp [hshop, hround])] at hpending
    cases hpending
  | error e =>
    have herror : e.clientActionId = some id := h
    by_cases hsettled : Settled c id
    · rw [hsettled.message herror] at hpending ⊢
      exact hsettled hpending
    · obtain ⟨hin, hkept⟩ := Classical.not_imp.1 hsettled
      obtain ⟨r, hr⟩ := Option.ne_none_iff_exists'.1 hkept
      rw [show c.receive (.error e) = c.onError e from rfl,
        onError_restores hr hin (by simp [Wire.refuses, herror])]

theorem Settled.receive (h : Settled c id) : Settled (c.receive event) id := by
  intro hpending
  have hwas : c.state.pendingActionId = some id := by
    by_cases herror : event.matchId = none
    · cases event with
      | error e =>
        replace hpending : (c.onError e).state.pendingActionId = some id := hpending
        unfold Controller.onError at hpending
        split at hpending
        · split at hpending
          · cases hpending
          · exact hpending
        · exact hpending
      | _ => cases herror
    by_cases hother : event.matchId = some c.matchId
    · obtain hsame | hnone := (receive_news hother).pending
      · rwa [hsame] at hpending
      · rw [hnone] at hpending
        cases hpending
    · rwa [receive_other hother herror] at hpending
  cases hrollback : (c.receive event).rollback with
  | none => rfl
  | some r =>
    have hkept := receive_rollback hrollback
    rw [h hwas] at hkept
    cases hkept

theorem Settled.tap (h : Settled c id) (hne : id' ≠ id) (tap : Tap) : Settled (c.tap id' tap).1 id := by
  intro hpending
  obtain hidle | ⟨_, -, hpredicts⟩ := @tap_step id' c tap
  · rw [hidle.rollback]
    exact h (hidle.pending.symm.trans hpending)
  · rw [hpredicts.pending] at hpending
    exact absurd (Option.some.inj hpending) hne

theorem Settled.run (h : Settled c id) (hfresh : ∀ tap id', Step.tap tap id' ∈ steps → id' ≠ id) :
    Settled (c.run steps).1 id := by
  induction steps generalizing c with
  | nil => exact h
  | cons step steps ih =>
    have hrest : ∀ tap id', Step.tap tap id' ∈ steps → id' ≠ id := fun tap id' hmem =>
      hfresh tap id' (List.mem_cons_of_mem _ hmem)
    cases step with
    | server event => exact ih h.receive hrest
    | tap tap id' => exact ih (h.tap (hfresh tap id' List.mem_cons_self) tap) hrest

theorem settled_run (hsteps : ¬ Unsettled id c steps) (hfresh : ∀ tap id', Step.tap tap id' ∈ steps → id' ≠ id) :
    Settled (c.run steps).1 id := by
  induction steps generalizing c with
  | nil => exact absurd trivial hsteps
  | cons step steps ih =>
    have hrest : ∀ tap id', Step.tap tap id' ∈ steps → id' ≠ id := fun tap id' hmem =>
      hfresh tap id' (List.mem_cons_of_mem _ hmem)
    cases step with
    | server event =>
      by_cases hsettles : Settles id c event
      · exact (settles_settled hsettles).run hrest
      · exact ih (fun h => hsteps ⟨hsettles, h⟩) hrest
    | tap tap id' => exact ih hsteps hrest

end

section
variable {lib : Validator Thrown} {matchId id : String} {steps later : List Step} {tap : Tap} {message : Emit}

/-- **What becomes of a tap.** In any run, the message a tap sends comes
through the pipe as it was meant, unless it names a unit whose purchase is not
confirmed. When the guard, the pipe or the handler fails, the answer names the
tap; whenever it comes, the view of before comes back with the text of the
error if nothing has settled the tap, and else the text is all it changes. -/
theorem tap_answered (hlib : lib.Documented) (hids : Recognises lib.isUUID) (hmatch : lib.isUUID matchId = true)
    (hsteps : ∀ step ∈ steps, Possible lib.isUUID step) (htap : Possible lib.isUUID (.tap tap id))
    (hsent : (((Controller.fresh matchId).run steps).1.tap id tap).2 = some message)
    (hfresh : ∀ tap' id', Step.tap tap' id' ∈ later → id' ≠ id) (domain : Ws.Domain) (guard : Option Thrown) :
    (∀ unit ∈ message.units,
        lib.isUUID unit = false ↔ ∃ bought, lib.isUUID bought = true ∧ unit = s!"pending-{bought}") ∧
      delivered lib message.event (.obj message.payload) =
        (if message.units.all lib.isUUID then some message.meant else none) ∧
      ∀ envelope, answer lib domain guard message.event (.obj message.payload) = some envelope →
        ∃ error, decode "game:error" (errorFields envelope) = some (.event (.error error)) ∧
          error.clientActionId = some id ∧
          (message.predicted = some id →
            (Unsettled id (((Controller.fresh matchId).run steps).1.tap id tap).1 later →
              (((((Controller.fresh matchId).run steps).1.tap id tap).1.run later).1.receive (.error error)).state =
                { ((Controller.fresh matchId).run steps).1.state with
                  errorMessage := some (gameErrorMessage envelope.code) }) ∧
            (¬ Unsettled id (((Controller.fresh matchId).run steps).1.tap id tap).1 later →
              (((((Controller.fresh matchId).run steps).1.tap id tap).1.run later).1.receive (.error error)).state =
                { ((((Controller.fresh matchId).run steps).1.tap id tap).1.run later).1.state with
                  errorMessage := some (gameErrorMessage envelope.code) })) := by
  have hid := htap.id hids
  obtain ⟨hholds, hsame⟩ := run_holds hids hsteps (fresh_holds lib.isUUID matchId)
  have hsendable := (tap_sendable hholds hid htap.1 hsent).sendable
  rw [hsame] at hsendable
  refine ⟨fun unit hunit => named_refused hids (hsendable.units unit hunit),
    sendable_delivered hlib hsendable hid hmatch, fun envelope hanswer => ?_⟩
  have hnames := answer_id hlib hsendable hid hmatch hids hanswer
  refine ⟨_, Messages.error_read envelope, hnames, fun hpredicted => ?_⟩
  obtain hidle | ⟨message', hsent', hpredicts⟩ := @tap_step id ((Controller.fresh matchId).run steps).1 tap
  · rw [hidle.unpredicted message hsent] at hpredicted
    cases hpredicted
  · have hawaits : Awaits (((Controller.fresh matchId).run steps).1.tap id tap).1 id
        ((Controller.fresh matchId).run steps).1.state := ⟨hpredicts.pending, hpredicts.rollback⟩
    refine ⟨fun hopen => (hawaits.run hopen).restores hpredicts.idle hnames, fun hsettled => ?_⟩
    rw [(settled_run hsettled hfresh).message hnames]

end

/-! ## A unit placed before its purchase is confirmed -/

theorem isVersion4_recognises : Recognises isVersion4 where
  version4 := fun _ h => h
  length := fun s h => by
    unfold isVersion4 at h
    rw [Bool.and_eq_true, beq_iff_eq] at h
    rw [← String.length_toList]
    exact h.1

def arena : String := "11111111-1111-4111-8111-111111111111"

def offersOnce : ServerEvent := .shop ⟨arena, 1, [some ⟨"o", .fighter, 0⟩]⟩

def opening : MatchState :=
  { matchId := arena
    round := 1
    yourSide := .p1
    roster := { board := List.replicate 9 none, bench := List.replicate 8 none, gold := 5, hp := 100 }
    opponent := { gold := 5, hp := 100, scoutRound := none, boardSummary := [], battleBoardSummary := none }
    readyCount := 0 }

/-- The offers come again before the roster does. -/
def unconfirmed : List Step :=
  [.server (.phase ⟨arena, .shopPlace, 1, 40, []⟩), .server (.matchState opening), .server offersOnce,
    .tap (.buy 0) (actionId (List.replicate 16 0)), .server offersOnce]

theorem unconfirmed_possible : ∀ step ∈ unconfirmed, Possible isVersion4 step := by
  have hempty : Shown isVersion4 opening := by
    refine ⟨by decide, ⟨fun area => ?_, fun area unit hunit => ?_⟩⟩
    · cases area <;> decide
    · cases area <;> simp [opening, PlayerRoster.slots] at hunit
  have hoffers : Possible isVersion4 (.server offersOnce) := (by decide : 1 ≤ 5)
  intro step hstep
  simp only [unconfirmed, List.mem_cons, List.not_mem_nil, or_false] at hstep
  obtain rfl | rfl | rfl | rfl | rfl := hstep
  · exact Nat.le_refl 1
  · exact hempty
  · exact hoffers
  · exact ⟨trivial, _, List.length_replicate, rfl⟩
  · exact hoffers

/-- It is dragged to the board. -/
def toBoard : Tap := .place .board 0 (some ⟨.bench, 0⟩)

def placement : Emit :=
  .matchPlace 1 s!"pending-{actionId (List.replicate 16 0)}" .board 0 (actionId (List.replicate 16 1))

/-- What its placement is answered with. -/
def refusal : Messages.GameErrorEnvelope :=
  Ws.catchError (.ws (Ws.invalidPayload ["unitInstanceId must be a UUID"])) (.obj placement.payload)

def placed : Controller := (((Controller.fresh arena).run unconfirmed).1.tap (actionId (List.replicate 16 1)) toBoard).1

/-- The answer comes after a phase event and another tap, or after a state. -/
theorem unconfirmed_answered :
    delivered (Ws.flatLibrary isVersion4) placement.event (.obj placement.payload) = none ∧
      ∃ error, decode "game:error" (errorFields refusal) = some (.event (.error error)) ∧
        ((placed.run [.server (.phase ⟨arena, .shopPlace, 1, 20, []⟩),
            .tap (.sell .board 0) (actionId (List.replicate 16 2))]).1.receive (.error error)).state =
          { ((Controller.fresh arena).run unconfirmed).1.state with
            errorMessage := some (gameErrorMessage "invalid_payload") } ∧
        ((placed.run [.server (.matchState opening)]).1.receive (.error error)).state =
          { (placed.run [.server (.matchState opening)]).1.state with
            errorMessage := some (gameErrorMessage "invalid_payload") } := by
  have h := fun later hfresh => @tap_answered (Ws.flatLibrary isVersion4) arena (actionId (List.replicate 16 1))
    unconfirmed later toBoard placement (flat_documented _ _ _) isVersion4_recognises (by decide) unconfirmed_possible
    ⟨trivial, _, List.length_replicate, rfl⟩ (by decide) hfresh ⟨none, none, fun _ _ _ => none⟩ none
  have hanswer : answer (Ws.flatLibrary isVersion4) ⟨none, none, fun _ _ _ => none⟩ none placement.event
      (.obj placement.payload) = some refusal := rfl
  obtain ⟨-, hdelivered, hwaiting⟩ := h [.server (.phase ⟨arena, .shopPlace, 1, 20, []⟩),
    .tap (.sell .board 0) (actionId (List.replicate 16 2))] (by
      intro tap id hmem
      simp only [List.mem_cons, List.not_mem_nil, or_false, reduceCtorEq, false_or, Step.tap.injEq] at hmem
      rw [hmem.2]
      decide)
  obtain ⟨-, -, hafter⟩ := h [.server (.matchState opening)] (by simp)
  obtain ⟨error, hdecode, -, hrestored⟩ := hwaiting refusal hanswer
  obtain ⟨error', hdecode', -, htext⟩ := hafter refusal hanswer
  have hsame : error' = error := by
    rw [hdecode] at hdecode'
    cases hdecode'
    rfl
  rw [hsame] at htext
  exact ⟨hdelivered.trans (if_neg (by decide)), error, hdecode, (hrestored rfl).1 ⟨id, trivial⟩,
    (htext rfl).2 fun hopen => hopen.1 rfl⟩

end AutoChess.Client
