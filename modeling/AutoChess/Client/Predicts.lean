/-
The prediction of a tap, against the state the server publishes when it
commits the action. They are never equal: the copy the client edits leaves
the username out. In every other field they agree, but for the price of a
fused unit, which the server buys back at the gold invested in it and the
client at the price of one copy (`prediction_never_exact`).
-/
import AutoChess.Client.Converges
import AutoChess.Shop.Ledger

namespace AutoChess.Client

open AutoChess.Game AutoChess.Runtime AutoChess.Shop

/-- What a player is shown of the match when their own state is `own`. -/
def shownTo (runtime : MatchRuntimeState) (side : Side) (own : RuntimePlayerState) : StatePayload :=
  matchStatePayload runtime side own (sideState runtime (enemySideOf side)) (readyCount runtime)

def withReady (runtime : MatchRuntimeState) (side : Side) (ready : Bool) : MatchRuntimeState :=
  match side with
  | .p1 => { runtime with readyP1 := ready }
  | .p2 => { runtime with readyP2 := ready }

/-- What the server publishes to the player for a message it commits. -/
inductive Published (runtime : MatchRuntimeState) (side : Side) (shop : StoredShop) : Emit → StatePayload → Prop where
  | buy {index : Nat} {id uuid : String} {offer : Shop.ShopOffer} {after : Holdings}
      (hoffer : offerToBuy ⟨sideState runtime side, shop⟩ index = .ok offer)
      (h : buyOffer ⟨sideState runtime side, shop⟩ index offer uuid = .ok after) :
      Published runtime side shop (.shopBuy runtime.round index id) (shownTo runtime side after.state)
  | sell {source : Place} {slot : Nat} {id : String} {after : Holdings}
      (h : sellUnit ⟨sideState runtime side, shop⟩ source slot = .ok after) :
      Published runtime side shop (.shopSell runtime.round source slot id) (shownTo runtime side after.state)
  | place {instanceId id : String} {target : Place} {slot : Nat} {after : RuntimePlayerState}
      (h : placeUnit (sideState runtime side) instanceId target slot = .ok after) :
      Published runtime side shop (.matchPlace runtime.round instanceId target slot id) (shownTo runtime side after)
  | ready {ready : Bool} {id : String} :
      Published runtime side shop (.matchReady runtime.round ready id)
        (shownTo (withReady runtime side ready) side (sideState runtime side))

/-- The controller shows what the server stores. -/
structure InSync (c : Controller) (runtime : MatchRuntimeState) (side : Side) (shop : StoredShop) : Prop where
  matchState : c.state.matchState = some (.fromJson (shownTo runtime side (sideState runtime side)))
  offers : c.state.shop = some (.fromJson runtime.matchId runtime.round shop.offers)
  ready : c.state.readySubmitted = sideReady runtime side
  books : ∃ given known, Ledger given known (sideState runtime side)
  stars : ∀ offer, some offer ∈ shop.offers → offer.star = 0

/-- A slot agrees, but for the temporary id of a unit just bought. -/
def SlotAgrees (actionId : String) (shown published : Option Unit) : Prop :=
  shown = published ∨ ∃ unit uuid, unit.instanceId = s!"pending-{actionId}" ∧ shown = some unit ∧
    published = some { unit with instanceId := uuid }

/-- Every field agrees, the username left out. -/
structure AllButName (actionId : String) (shown published : MatchState) : Prop where
  matchId : shown.matchId = published.matchId
  round : shown.round = published.round
  yourSide : shown.yourSide = published.yourSide
  board : shown.roster.board = published.roster.board
  bench : List.Forall₂ (SlotAgrees actionId) shown.roster.bench published.roster.bench
  gold : shown.roster.gold = published.roster.gold
  hp : shown.roster.hp = published.roster.hp
  opponent : shown.opponent = published.opponent
  readyCount : shown.readyCount = published.readyCount

/-- Every field agrees. -/
structure Exact (actionId : String) (shown published : MatchState) : Prop extends
    AllButName actionId shown published where
  username : shown.roster.username = published.roster.username

/-- A sale is of a unit that is worth one copy. -/
def SellsCopy (p : RuntimePlayerState) : Emit → Prop
  | .shopSell _ source slot _ => ∀ unit, (slotsAt p source)[slot.toNat]? = some (some unit) → unit.star = 0
  | _ => True

section
variable {c : Controller} {actionId : String} {message : Emit} {runtime : MatchRuntimeState} {side : Side}
  {shop : StoredShop} {m : MatchState}

/-! ## What the taps send -/

theorem buy_sent {offerIndex : Int} (h : (c.buy offerIndex actionId).2 = some message) :
    ∃ m shop offer benchSlot, c.state.matchState = some m ∧ c.state.shop = some shop ∧
      0 ≤ offerIndex ∧ (shop.offers[offerIndex.toNat]?).join = some offer ∧
      m.roster.bench.findIdx? (·.isNone) = some benchSlot ∧ message = .shopBuy m.round offerIndex actionId ∧
      (c.buy offerIndex actionId).1.state.matchState = some (copyMatch m m.roster.board
        (m.roster.bench.set benchSlot (some
          { instanceId := s!"pending-{actionId}", unitId := offer.unitId, star := offer.star
            hp := unitMaxHp offer.unitId, maxHp := unitMaxHp offer.unitId }))
        (m.roster.gold - unitPrice offer.unitId) m.readyCount) := by
  unfold Controller.buy at h ⊢
  split at h
  · next m shop hm hshop =>
    split at h
    · cases h
    next hcan =>
    split at h
    · cases h
    next hrange =>
    split at h
    · cases h
    next offer hoffer =>
    dsimp only at h ⊢
    split at h
    · cases h
    next hgold =>
    split at h
    · cases h
    next benchSlot hbench =>
    cases h
    refine ⟨m, shop, offer, benchSlot, hm, hshop, by omega, hoffer, hbench, rfl, ?_⟩
    rw [if_neg hcan, if_neg hrange, if_neg hgold]
    rfl
  · cases h

theorem sell_sent {area : RosterArea} {slot : Int} (h : (c.sell area slot actionId).2 = some message) :
    ∃ m unit, c.state.matchState = some m ∧ m.roster.unitAt area slot = some unit ∧
      message = .shopSell m.round area slot actionId ∧
      (c.sell area slot actionId).1.state.matchState = some (m.copyRoster
        { m.roster.write area slot none with gold := m.roster.gold + unitPrice unit.unitId }) := by
  unfold Controller.sell at h ⊢
  split at h
  · cases h
  next m hm =>
  split at h
  · cases h
  next unit hunit =>
  split at h
  · cases h
  next hcan =>
  cases h
  refine ⟨m, unit, hm, hunit, rfl, ?_⟩
  dsimp only
  rw [if_neg hcan]
  rfl

theorem ready_sent (h : (c.toggleReady actionId).2 = some message) : ∃ m, c.state.matchState = some m ∧
    m.readyCount < 2 ∧ message = .matchReady m.round (!c.state.readySubmitted) actionId ∧
    (c.toggleReady actionId).1.state.matchState = some (copyMatch m m.roster.board m.roster.bench m.roster.gold
      (max 0 (min 2 (m.readyCount + if (!c.state.readySubmitted) = true then 1 else -1)))) := by
  unfold Controller.toggleReady at h ⊢
  split at h
  · cases h
  next m hm =>
  split at h
  · cases h
  next hcan =>
  cases h
  have hcount : m.readyCount < 2 := by
    simp only [Bool.or_eq_true, decide_eq_true_eq, not_or] at hcan
    omega
  refine ⟨m, hm, hcount, rfl, ?_⟩
  dsimp only
  rw [if_neg hcan]
  rfl

theorem fuse_sent {source target : Unit} (h : (c.fuse source target actionId).2 = some message) :
    ∃ round unitId s t, message = .shopFuse round unitId s t actionId := by
  unfold Controller.fuse at h
  split at h
  · cases h
  split at h
  · cases h
  · cases h
    exact ⟨_, _, _, _, rfl⟩

theorem refresh_sent (h : (c.refresh actionId).2 = some message) : ∃ round id, message = .shopRefresh round id := by
  unfold Controller.refresh at h
  split at h
  · cases h
  split at h
  · cases h
  · cases h
    exact ⟨_, _, rfl⟩

theorem place_sent {target : RosterArea} {slot : Int} {source : Option UnitSelection}
    (h : (c.place target slot source actionId).2 = some message) :
    (∃ round unitId s t, message = .shopFuse round unitId s t actionId) ∨
      ∃ m, ∃ selected : UnitSelection, ∃ unit, c.state.matchState = some m ∧ m.roster.unitAt selected.area selected.slot = some unit ∧
        ¬ (selected.area = target ∧ selected.slot = slot) ∧ m.roster.unitAt target slot = none ∧
        inRange slot (m.roster.slots target) = true ∧
        message = .matchPlace m.round unit.instanceId target slot actionId ∧
        (c.place target slot source actionId).1.state.matchState = some (m.copyRoster
          ((m.roster.write selected.area selected.slot none).write target slot (some unit))) := by
  unfold Controller.place at h ⊢
  split at h
  · next m selected hm hselected =>
    split at h
    · cases h
    next hcan =>
    split at h
    · cases h
    next unit hunit =>
    split at h
    · cases h
    next hmoves =>
    split at h
    · split at h
      · exact .inl (fuse_sent h)
      · cases h
    next hfree =>
    split at h
    · cases h
    next hrange =>
    cases h
    refine .inr ⟨m, selected, unit, hm, hunit, hmoves, hfree, by simpa using hrange, rfl, ?_⟩
    dsimp only
    rw [if_neg hcan, if_neg hmoves, if_neg hrange]
    rfl
  · cases h

/-! ## The same slots on both sides -/

theorem unitPrice_eq (unitId : UnitId) : unitPrice unitId = UNIT_COST unitId := by cases unitId <;> rfl

theorem unitMaxHp_eq (unitId : UnitId) : unitMaxHp unitId = (UNIT_BASE_STATS unitId).hp := by cases unitId <;> rfl

theorem slotsFromJson_eq {raw : Slots} {n : Nat} (h : raw.length = n) :
    Unit.slotsFromJson raw n = raw.map (·.map Unit.fromJson) := by
  subst h
  refine List.ext_getElem (by simp [Unit.slotsFromJson]) fun i h₁ h₂ => ?_
  have hi : i < raw.length := by simpa [Unit.slotsFromJson] using h₁
  simp [Unit.slotsFromJson, hi]

/-- The slots the client shows of a player's area. -/
theorem slots_shown {p : RuntimePlayerState} (hboard : p.board.length = 9) (hbench : p.bench.length = 8)
    (area : RosterArea) : (MatchState.fromJson (shownTo runtime side p)).roster.slots area =
      (slotsAt p area).map (·.map Unit.fromJson) := by
  cases area with
  | board => exact slotsFromJson_eq hboard
  | bench => exact slotsFromJson_eq hbench

theorem unitAt_slots {roster : PlayerRoster} {area : RosterArea} {slot : Int} {unit : Unit}
    (h : roster.unitAt area slot = some unit) :
    0 ≤ slot ∧ (roster.slots area)[slot.toNat]? = some (some unit) := by
  unfold PlayerRoster.unitAt at h
  split at h
  · next hrange =>
    simp only [inRange, Bool.and_eq_true, decide_eq_true_eq] at hrange
    exact ⟨hrange.1, Option.join_eq_some_iff.1 h⟩
  · cases h

theorem slots_write {roster : PlayerRoster} (area area' : RosterArea) (slot : Int) (x : Option Unit) :
    (roster.write area slot x).slots area' =
      if area' = area then (roster.slots area).set slot.toNat x else roster.slots area' := by
  cases area <;> cases area' <;> rfl

theorem slotsAt_setSlot_if (p : RuntimePlayerState) (area area' : Place) (slot : Nat)
    (x : Option RuntimeUnitState) : slotsAt (setSlot p area slot x) area' =
      if area' = area then (slotsAt p area).set slot x else slotsAt p area' := by
  cases area <;> cases area' <;> rfl

/-- A write on the client shows what the same write on the server does. -/
theorem write_shows {roster : PlayerRoster} {p : RuntimePlayerState} (area : Place) (slot : Int)
    (x : Option RuntimeUnitState) (h : ∀ area, roster.slots area = (slotsAt p area).map (·.map Unit.fromJson)) :
    ∀ area', (roster.write area slot (x.map Unit.fromJson)).slots area' =
      (slotsAt (setSlot p area slot.toNat x) area').map (·.map Unit.fromJson) := by
  intro area'
  rw [slots_write, slotsAt_setSlot_if]
  split
  · rw [h, List.map_set]
  · exact h area'

theorem SlotAgrees.refl (x : Option Unit) : SlotAgrees actionId x x := .inl rfl

theorem forall₂_set {R : Option Unit → Option Unit → Prop} {x y : Option Unit} (hrefl : ∀ z, R z z) (h : R x y)
    (l : List (Option Unit)) (i : Nat) : List.Forall₂ R (l.set i x) (l.set i y) := by
  induction l generalizing i with
  | nil => exact .nil
  | cons z l ih =>
    cases i with
    | zero => exact .cons h (List.forall₂_same.2 fun w _ => hrefl w)
    | succ i => exact .cons (hrefl z) (ih i)

/-- A copy that shows these slots and this gold agrees with the state
published, if the gold does. -/
theorem agrees_copy {own after : RuntimePlayerState} {runtime' : MatchRuntimeState} {board bench : List (Option Unit)}
    {gold count : Int}
    (hsame : shownTo runtime' side after = { shownTo runtime side after with readyCount := readyCount runtime' })
    (hboard : board = (MatchState.fromJson (shownTo runtime side after)).roster.board)
    (hbench : List.Forall₂ (SlotAgrees actionId) bench (MatchState.fromJson (shownTo runtime side after)).roster.bench)
    (hhp : after.hp = own.hp) (hcount : count = readyCount runtime') :
    AllButName actionId (copyMatch (.fromJson (shownTo runtime side own)) board bench gold count)
      (.fromJson (shownTo runtime' side after)) ↔ gold = after.gold := by
  rw [hsame]
  exact ⟨fun h => h.gold, fun h => ⟨rfl, rfl, rfl, hboard, hbench, h, hhp.symm, rfl, hcount⟩⟩

/-! ## Each action -/

/-- The view a tap leaves: nameless, and otherwise as the server publishes
if the condition holds. -/
def Foresees (c' : Controller) (actionId : String) (payload : StatePayload) (exact : Prop) : Prop :=
  ∃ shown, c'.state.matchState = some shown ∧ shown.roster.username = none ∧
    (AllButName actionId shown (.fromJson payload) ↔ exact)

theorem buy_foresees (hsync : InSync c runtime side shop) {offerIndex : Int} {index : Nat} {id uuid : String}
    {offer : Shop.ShopOffer} {after : Holdings}
    (hsent : (c.buy offerIndex actionId).2 = some (.shopBuy runtime.round index id))
    (hoffer : offerToBuy ⟨sideState runtime side, shop⟩ index = .ok offer)
    (h : buyOffer ⟨sideState runtime side, shop⟩ index offer uuid = .ok after) :
    Foresees (c.buy offerIndex actionId).1 actionId (shownTo runtime side after.state) True := by
  obtain ⟨given, known, hbooks⟩ := hsync.books
  obtain ⟨m, offers, found, benchSlot, hm, hoffers, hindex, hfound, hbench, hmessage, hshown⟩ := buy_sent hsent
  rw [hsync.matchState] at hm
  rw [hsync.offers] at hoffers
  cases hm
  cases hoffers
  simp only [Emit.shopBuy.injEq] at hmessage
  obtain ⟨-, rfl, -⟩ := hmessage
  have hoffered : shop.offers[index]? = some (some offer) := by
    unfold offerToBuy at hoffer
    split at hoffer
    · cases hoffer
    next hjoin =>
    split at hoffer
    · cases hoffer
    · cases hoffer
      exact Option.join_eq_some_iff.1 hjoin
  have hsame : found = ShopOffer.fromJson offer := by
    simpa [ShopOffersEvent.fromJson, hoffered] using hfound.symm
  have hstar := hsync.stars offer (List.mem_of_getElem? hoffered)
  have hslots := @slots_shown runtime side _ hbooks.board hbooks.bench
  have hslot : (sideState runtime side).bench.findIdx? (·.isNone) = some benchSlot := by
    have hmap := hslots .bench
    simp only [PlayerRoster.slots, slotsAt] at hmap
    rw [hmap, List.findIdx?_map] at hbench
    simpa [Function.comp_def] using hbench
  unfold buyOffer at h
  simp only [hslot, Except.ok.injEq] at h
  subst h
  refine ⟨_, hshown, rfl, (agrees_copy (by rfl) (by rfl) ?_ (by rfl) (by rfl)).trans (iff_true_intro ?_)⟩
  · have hlength : ((sideState runtime side).bench.set benchSlot
        (some (newUnit offer.unitId (UNIT_COST offer.unitId) uuid))).length = 8 := by
      rw [List.length_set, hbooks.bench]
    have hafter := slotsFromJson_eq hlength
    have hbefore := hslots .bench
    simp only [PlayerRoster.slots, slotsAt] at hbefore
    show List.Forall₂ (SlotAgrees actionId)
      ((MatchState.fromJson (shownTo runtime side (sideState runtime side))).roster.bench.set benchSlot _)
      (Unit.slotsFromJson ((sideState runtime side).bench.set benchSlot _) 8)
    rw [hbefore, hafter, List.map_set]
    refine forall₂_set .refl (.inr ⟨_, uuid, rfl, rfl, ?_⟩) _ _
    simp [Unit.fromJson, newUnit, hsame, ShopOffer.fromJson, hstar, unitMaxHp_eq]
  · rw [hsame, unitPrice_eq]
    rfl

/-- The server's unit behind a unit the client shows. -/
theorem unitAt_shown {given : Nat} {known : String → Prop} {p : RuntimePlayerState} (hbooks : Ledger given known p)
    {area : RosterArea} {slot : Int} {unit : Unit}
    (h : (MatchState.fromJson (shownTo runtime side p)).roster.unitAt area slot = some unit) :
    0 ≤ slot ∧ ∃ u, (slotsAt p area)[slot.toNat]? = some (some u) ∧ unit = Unit.fromJson u := by
  obtain ⟨hslot, hget⟩ := unitAt_slots h
  rw [slots_shown hbooks.board hbooks.bench, List.getElem?_map] at hget
  obtain ⟨x, hx, hunit⟩ := Option.map_eq_some_iff.1 hget
  obtain ⟨u, rfl, rfl⟩ := Option.map_eq_some_iff.1 hunit
  exact ⟨hslot, u, hx, rfl⟩

/-- A roster edited as the server edits it. -/
theorem foresees_slots {own after : RuntimePlayerState} {roster : PlayerRoster} {c' : Controller} {exact : Prop}
    (hshown : c'.state.matchState = some ((MatchState.fromJson (shownTo runtime side own)).copyRoster roster))
    (hslots : ∀ area, roster.slots area = (slotsAt after area).map (·.map Unit.fromJson))
    (hboard : after.board.length = 9) (hbench : after.bench.length = 8) (hhp : after.hp = own.hp)
    (hgold : roster.gold = after.gold ↔ exact) : Foresees c' actionId (shownTo runtime side after) exact := by
  have hafter := @slots_shown runtime side after hboard hbench
  refine ⟨_, hshown, rfl, (agrees_copy (by rfl) ?_ ?_ hhp (by rfl)).trans hgold⟩
  · exact (hslots .board).trans (hafter .board).symm
  · have hsame : roster.bench = (MatchState.fromJson (shownTo runtime side after)).roster.bench :=
      (hslots .bench).trans (hafter .bench).symm
    rw [hsame]
    exact List.forall₂_same.2 fun x _ => .refl x

/-- A unit is worth one copy when it was never fused. -/
theorem worth_copy {u : RuntimeUnitState} (hu : Standard u) (gold : Int) :
    gold + UNIT_COST u.unitId = gold + investedGold u ↔ u.star = 0 := by
  have hcost := UNIT_COST_pos u.unitId
  have hstar : u.star = 0 ∨ u.star = 1 ∨ u.star = 2 := by
    have := hu.star
    omega
  rw [hu.invested]
  rcases hstar with h | h | h <;> rw [h] <;> omega

theorem sell_foresees (hsync : InSync c runtime side shop) {area : RosterArea} {slot : Int} {source : Place}
    {slot' : Nat} {id : String} {after : Holdings}
    (hsent : (c.sell area slot actionId).2 = some (.shopSell runtime.round source slot' id))
    (h : sellUnit ⟨sideState runtime side, shop⟩ source slot' = .ok after) :
    Foresees (c.sell area slot actionId).1 actionId (shownTo runtime side after.state)
      (SellsCopy (sideState runtime side) (.shopSell runtime.round source slot' id)) := by
  obtain ⟨given, known, hbooks⟩ := hsync.books
  obtain ⟨m, unit, hm, hunit, hmessage, hshown⟩ := sell_sent hsent
  rw [hsync.matchState] at hm
  cases hm
  simp only [Emit.shopSell.injEq] at hmessage
  obtain ⟨-, rfl, rfl, -⟩ := hmessage
  obtain ⟨-, u, hget, rfl⟩ := unitAt_shown hbooks hunit
  rw [Int.toNat_natCast] at hget
  unfold sellUnit at h
  simp only [hget, Except.ok.injEq] at h
  subst h
  have hstandard := hbooks.standard u ((units_take hget).subset (List.mem_cons_self ..))
  have hwrite := write_shows source (slot' : Int) none (@slots_shown runtime side _ hbooks.board hbooks.bench)
  rw [Int.toNat_natCast] at hwrite
  refine foresees_slots hshown (fun area => ?_) ?_ ?_ ?_ ?_
  · have := hwrite area
    cases source <;> cases area <;> exact this
  · simpa using hbooks.board
  · simpa using hbooks.bench
  · simp
  · rw [setSlot_gold]
    show (sideState runtime side).gold + unitPrice u.unitId = (sideState runtime side).gold + investedGold u ↔ _
    rw [unitPrice_eq, worth_copy hstandard]
    simp only [SellsCopy, Int.toNat_natCast, hget, Option.some.injEq, forall_eq']

theorem place_foresees (hsync : InSync c runtime side shop) {target target' : Place} {slot : Int} {slot' : Nat}
    {source : Option UnitSelection} {instanceId id : String} {after : RuntimePlayerState}
    (hsent : (c.place target slot source actionId).2 = some (.matchPlace runtime.round instanceId target' slot' id))
    (h : placeUnit (sideState runtime side) instanceId target' slot' = .ok after) :
    Foresees (c.place target slot source actionId).1 actionId (shownTo runtime side after) True := by
  obtain ⟨given, known, hbooks⟩ := hsync.books
  obtain ⟨_, _, _, _, hmessage⟩ | ⟨m, selected, unit, hm, hunit, hmoves, hfree, hrange, hmessage, hshown⟩ :=
    place_sent hsent
  · cases hmessage
  rw [hsync.matchState] at hm
  cases hm
  simp only [Emit.matchPlace.injEq] at hmessage
  obtain ⟨-, rfl, rfl, rfl, -⟩ := hmessage
  obtain ⟨hselected, u, hget, rfl⟩ := unitAt_shown hbooks hunit
  have hwrite := write_shows target' (slot' : Int) (some u) (write_shows selected.area selected.slot none
    (@slots_shown runtime side _ hbooks.board hbooks.bench))
  rw [Int.toNat_natCast] at hwrite
  obtain ⟨entry, hmem, hid, hplace⟩ := placeUnit_moves hbooks.ids h
  obtain ⟨harea, hslot⟩ := slot_of_id hbooks.ids (mem_rosterEntries hmem) hget hid
  have hentry : entry.unit = u := by
    have := mem_rosterEntries hmem
    rw [harea, hslot, hget] at this
    exact (Option.some.inj (Option.some.inj this)).symm
  obtain ⟨⟨htarget, hsame⟩, -⟩ | ⟨-, -, rfl⟩ := hplace
  · refine absurd ⟨harea.symm.trans htarget, ?_⟩ hmoves
    omega
  rw [harea, hslot, hentry]
  refine foresees_slots hshown hwrite ?_ ?_ ?_ (iff_true_intro ?_)
  · simpa using hbooks.board
  · simpa using hbooks.bench
  · simp
  · rw [setSlot_gold, setSlot_gold]
    cases selected.area <;> cases target' <;> rfl

/-- One flag toggled is one more, or one less. -/
theorem count_toggled (readyP1 readyP2 : Bool) :
    max 0 (min 2 (((readyP1.toNat + readyP2.toNat : Nat) : Int) + if (!readyP1) = true then 1 else -1)) =
        ((!readyP1).toNat + readyP2.toNat : Nat) ∧
      max 0 (min 2 (((readyP1.toNat + readyP2.toNat : Nat) : Int) + if (!readyP2) = true then 1 else -1)) =
        (readyP1.toNat + (!readyP2).toNat : Nat) := by
  cases readyP1 <;> cases readyP2 <;> exact ⟨rfl, rfl⟩

theorem ready_foresees (hsync : InSync c runtime side shop) {ready : Bool} {id : String}
    (hsent : (c.toggleReady actionId).2 = some (.matchReady runtime.round ready id)) :
    Foresees (c.toggleReady actionId).1 actionId
      (shownTo (withReady runtime side ready) side (sideState runtime side)) True := by
  obtain ⟨given, known, hbooks⟩ := hsync.books
  obtain ⟨m, hm, hcount, hmessage, hshown⟩ := ready_sent hsent
  rw [hsync.matchState] at hm
  cases hm
  simp only [Emit.matchReady.injEq] at hmessage
  obtain ⟨-, rfl, -⟩ := hmessage
  refine ⟨_, hshown, rfl, (agrees_copy ?_ ?_ ?_ (by rfl) ?_).trans (iff_true_intro ?_)⟩
  · cases side <;> rfl
  · rfl
  · exact List.forall₂_same.2 fun x _ => .refl x
  · rw [hsync.ready]
    have htoggled := count_toggled runtime.readyP1 runtime.readyP2
    cases side with
    | p1 => exact htoggled.1
    | p2 => exact htoggled.2
  · rfl

/-! ## Every tap -/

/-- Which message a tap can send. -/
inductive Sends : Tap → Emit → Prop where
  | buy {i offerIndex : Int} {round : Nat} {id : String} : Sends (.buy i) (.shopBuy round offerIndex id)
  | sell {area source : RosterArea} {slot slot' : Int} {round : Nat} {id : String} :
      Sends (.sell area slot) (.shopSell round source slot' id)
  | ready {round : Nat} {ready : Bool} {id : String} : Sends .toggleReady (.matchReady round ready id)
  | place {area target : RosterArea} {slot slot' : Int} {source : Option UnitSelection} {round : Nat}
      {instanceId id : String} : Sends (.place area slot source) (.matchPlace round instanceId target slot' id)
  | select {area target : RosterArea} {slot slot' : Int} {round : Nat} {instanceId id : String} :
      Sends (.select area slot) (.matchPlace round instanceId target slot' id)
  | fuse {tap : Tap} {round : Nat} {unitId : UnitId} {s t id : String} : Sends tap (.shopFuse round unitId s t id)
  | refresh {round : Nat} {id : String} : Sends .refresh (.shopRefresh round id)
  | unpredicted {tap : Tap} {message : Emit} (h : message.predicted = none) : Sends tap message

theorem select_sent {area : RosterArea} {slot : Int} (h : (c.select area slot actionId).2 = some message) :
    c.select area slot actionId = c.place area slot none actionId := by
  unfold Controller.select at h ⊢
  split at h
  · cases h
  next hcan =>
  rw [if_neg hcan]
  split at h
  · split at h
    · next hselected => rw [if_pos hselected]
    · cases h
  · cases h

theorem tap_sends {tap : Tap} (h : (c.tap actionId tap).2 = some message) : Sends tap message := by
  cases tap with
  | buy offerIndex =>
    obtain ⟨_, _, _, _, _, _, _, _, _, rfl, _⟩ := buy_sent h
    exact .buy
  | sell area slot =>
    obtain ⟨_, _, _, _, rfl, _⟩ := sell_sent h
    exact .sell
  | toggleReady =>
    obtain ⟨_, _, _, rfl, _⟩ := ready_sent h
    exact .ready
  | place target slot source =>
    obtain ⟨_, _, _, _, rfl⟩ | ⟨_, _, _, _, _, _, _, _, rfl, _⟩ := place_sent h
    · exact .fuse
    · exact .place
  | select area slot =>
    have hplace : (c.place area slot none actionId).2 = some message := select_sent h ▸ h
    obtain ⟨_, _, _, _, rfl⟩ | ⟨_, _, _, _, _, _, _, _, rfl, _⟩ := place_sent hplace
    · exact .fuse
    · exact .select
  | fuse source target =>
    obtain ⟨_, _, _, _, rfl⟩ := fuse_sent h
    exact .fuse
  | refresh =>
    obtain ⟨_, _, rfl⟩ := refresh_sent h
    exact .refresh
  | clearError => cases h
  | readyForNextRound => exact .unpredicted (readyForNextRound_step.unpredicted message h)
  | surrender => exact .unpredicted (surrender_step.unpredicted message h)
  | skipCombat => exact .unpredicted (skipCombat_step.unpredicted message h)

/-- What a tap foresees of the message it sends. -/
theorem tap_foresees (hsync : InSync c runtime side shop) {tap : Tap} {payload : StatePayload}
    (hsent : (c.tap actionId tap).2 = some message) (hpublished : Published runtime side shop message payload) :
    Foresees (c.tap actionId tap).1 actionId payload (SellsCopy (sideState runtime side) message) := by
  have hsends := tap_sends hsent
  cases hpublished with
  | buy hoffer h =>
    cases hsends with
    | buy => exact buy_foresees hsync hsent hoffer h
    | unpredicted h => cases h
  | sell h =>
    cases hsends with
    | sell => exact sell_foresees hsync hsent h
    | unpredicted h => cases h
  | place h =>
    cases hsends with
    | place => exact place_foresees hsync hsent h
    | @select area target slot slot' round instanceId id =>
      have hselect : c.select area slot actionId = c.place area slot none actionId := select_sent hsent
      have hsent : (c.select area slot actionId).2 = _ := hsent
      show Foresees (c.select area slot actionId).1 _ _ _
      rw [hselect] at hsent ⊢
      exact place_foresees hsync hsent h
    | unpredicted h => cases h
  | ready =>
    cases hsends with
    | ready => exact ready_foresees hsync hsent
    | unpredicted h => cases h

/-- **A prediction is never exact.** The name is missing, and the gold is off
after the sale of a fused unit; nothing else is. -/
theorem prediction_never_exact (hsync : InSync c runtime side shop) {tap : Tap} {payload : StatePayload}
    (hsent : (c.tap actionId tap).2 = some message) (hpublished : Published runtime side shop message payload) :
    ∃ shown, (c.tap actionId tap).1.state.matchState = some shown ∧
      ¬ Exact actionId shown (.fromJson payload) ∧
      (AllButName actionId shown (.fromJson payload) ↔ SellsCopy (sideState runtime side) message) := by
  obtain ⟨shown, hshown, hnameless, hfields⟩ := tap_foresees hsync hsent hpublished
  refine ⟨shown, hshown, fun hexact => ?_, hfields⟩
  have hname := hexact.username
  rw [hnameless] at hname
  cases hname

end

/-! ## The sale of a fused unit -/

/-- Two fighters, bought and fused. -/
def fusedFighter : RuntimeUnitState :=
  { newUnit .fighter 1 "f" with star := 1, investedGold := some 2 }

def fusedState : RuntimePlayerState :=
  { hp := 100, gold := 3, ready := false, board := List.replicate 9 none
    bench := some fusedFighter :: List.replicate 7 none }

def fusedRuntime : MatchRuntimeState :=
  { matchId := "m", player1Id := "u1", player2Id := "u2", player1Name := "one", player2Name := "two"
    matchSeed := "s", phase := .shop_place, round := 1
    p1State := fusedState
    p2State := { fusedState with gold := 5, bench := List.replicate 8 none }
    readyP1 := false, readyP2 := false, wipeIndexP1 := 0, wipeIndexP2 := 0, combatRound := none
    scoutRound := none, scoutP1Board := emptyBoardSummary, scoutP2Board := emptyBoardSummary }

def emptyShop : StoredShop := { round := 1, refreshCount := 0, refreshUsed := false, offers := [] }

/-- The client once it was told of this match. -/
def fusedClient : Controller :=
  ((Controller.fresh "m").run [.server (.phase planning),
    .server (.matchState (.fromJson (shownTo fusedRuntime .p1 fusedState))),
    .server (.shop (.fromJson "m" 1 []))]).1

theorem fusedClient_inSync : InSync fusedClient fusedRuntime .p1 emptyShop where
  matchState := by decide
  offers := by decide
  ready := by decide
  books := ⟨0, fun _ => True, {
    balance := by decide
    gold := by decide
    hp := by decide
    standard := fun u hu => by
      obtain rfl : u = fusedFighter := List.mem_singleton.1 hu
      exact ⟨by decide, by decide, rfl, rfl⟩
    ids := by decide
    known := fun _ _ => trivial
    board := rfl
    bench := rfl }⟩
  stars := fun _ h => by cases h

/-- What the server keeps once the unit is sold. -/
def soldState : RuntimePlayerState := { fusedState with gold := 5, bench := List.replicate 8 none }

theorem prediction_never_exact_fusedSale : ∃ shown,
    (fusedClient.sell .bench 0 "a").1.state.matchState = some shown ∧
      ¬ Exact "a" shown (.fromJson (shownTo fusedRuntime .p1 soldState)) ∧
      ¬ AllButName "a" shown (.fromJson (shownTo fusedRuntime .p1 soldState)) := by
  have hsent : (fusedClient.tap "a" (.sell .bench 0)).2 = some (.shopSell fusedRuntime.round .bench 0 "a") := by
    decide
  have hsold : sellUnit ⟨fusedState, emptyShop⟩ .bench 0 = .ok ⟨soldState, emptyShop⟩ := by decide
  obtain ⟨shown, hshown, hinexact, hfields⟩ :=
    prediction_never_exact fusedClient_inSync hsent (@Published.sell _ _ _ _ 0 _ _ hsold)
  refine ⟨shown, hshown, hinexact, fun h => ?_⟩
  have hstar := hfields.1 h fusedFighter rfl
  exact absurd hstar (by decide)

/-- The gold shown is short of the gold published, and the name is gone. -/
theorem fusedSale_mispredicted : ∃ shown payload, InSync fusedClient fusedRuntime .p1 emptyShop ∧
    (fusedClient.tap "a" (.sell .bench 0)).2 = some (.shopSell fusedRuntime.round .bench 0 "a") ∧
    Published fusedRuntime .p1 emptyShop (.shopSell fusedRuntime.round .bench 0 "a") payload ∧
    (fusedClient.tap "a" (.sell .bench 0)).1.state.matchState = some shown ∧
    shown.roster.gold < (MatchState.fromJson payload).roster.gold ∧
    shown.roster.username ≠ (MatchState.fromJson payload).roster.username ∧
    ¬ Exact "a" shown (.fromJson payload) := by
  have hsold : sellUnit ⟨fusedState, emptyShop⟩ .bench 0 = .ok ⟨soldState, emptyShop⟩ := by decide
  refine ⟨((fusedClient.tap "a" (.sell .bench 0)).1.state.matchState).get (by decide), _, fusedClient_inSync,
    by decide, @Published.sell _ _ _ _ 0 _ _ hsold, (Option.some_get _).symm, by decide, by decide, fun h => ?_⟩
  exact absurd h.username (by decide)

end AutoChess.Client
