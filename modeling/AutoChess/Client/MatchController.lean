/-
The match controller of the mobile client: the view it shows, the one
snapshot it can roll back to, what each server event and each tap of the
player makes of them, and the message a tap sends.

Taps that send a message are given the id they draw for it. Indices are
`int`s, which may be out of range.
-/
import AutoChess.Client.Models

namespace AutoChess.Client

open AutoChess.Game AutoChess.Shop

abbrev RosterArea := Place

structure UnitSelection where
  area : RosterArea
  slot : Int
  deriving DecidableEq, Repr

structure MatchViewState where
  phase : Option MatchPhaseEvent := none
  matchState : Option MatchState := none
  shop : Option ShopOffersEvent := none
  damage : Option MatchDamageEvent := none
  ended : Option MatchEndEvent := none
  selection : Option UnitSelection := none
  pendingActionId : Option String := none
  errorMessage : Option String := none
  refreshUsed : Bool := false
  readySubmitted : Bool := false
  combatDoneSubmitted : Bool := false
  roundReadySubmitted : Bool := false
  deriving DecidableEq, Repr

def MatchViewState.inPhase (state : MatchViewState) (phase : GamePhase) : Bool :=
  state.phase.any (·.phase == phase)

def MatchViewState.canAct (state : MatchViewState) : Bool :=
  state.inPhase .shopPlace && state.pendingActionId.isNone

structure Controller where
  matchId : String
  state : MatchViewState := {}
  rollback : Option MatchViewState := none
  deriving DecidableEq, Repr

/-- The controller when its screen opens. -/
def Controller.fresh (matchId : String) : Controller := { matchId := matchId }

/-- A message of the client, with its payload. -/
inductive Emit where
  | shopBuy (round : Nat) (offerIndex : Int) (clientActionId : String)
  | shopSell (round : Nat) (source : RosterArea) (slot : Int) (clientActionId : String)
  | shopRefresh (round : Nat) (clientActionId : String)
  | shopFuse (round : Nat) (unitId : UnitId) (sourceInstanceId targetInstanceId clientActionId : String)
  | matchPlace (round : Nat) (unitInstanceId : String) (target : RosterArea) (slot : Int) (clientActionId : String)
  | matchReady (round : Nat) (ready : Bool) (clientActionId : String)
  | matchCombatDone (matchId : String) (round : Nat) (clientActionId : String)
  | matchRoundReady (matchId : String) (round : Nat) (clientActionId : String)
  | matchSurrender (matchId : String) (round : Nat) (clientActionId : String)
  deriving DecidableEq, Repr

/-! ## Server events -/

def gameErrorMessage : String → String
  | "shop.insufficient_gold" => "ทองไม่พอ"
  | "shop.refresh_used" => "รีเฟรชได้รอบละครั้ง"
  | "shop.roster_full" => "ช่องยูนิตรอจัดทีมเต็ม ขายหรือย้ายยูนิตก่อน"
  | "place.slot_occupied" => "ช่องนี้มีตัวอยู่แล้ว"
  | "place.slot_out_of_range" => "ช่องที่เลือกใช้งานไม่ได้"
  | "match.not_your_turn" => "ทำไม่ได้ในเฟสนี้"
  | "match.round_mismatch" => "รอบเปลี่ยนแล้ว กรุณาลองใหม่"
  | "rate.limited" => "กดเร็วเกินไป รอสักครู่"
  | _ => "ทำรายการไม่สำเร็จ กรุณาลองใหม่"

def phaseReady (phase : MatchPhaseEvent) (side : Side) : Bool :=
  let index := match side with | .p1 => 0 | .p2 => 1
  (phase.players[index]?).any (·.ready)

namespace Controller

variable (c : Controller)

def onPhase (event : MatchPhaseEvent) : Controller :=
  if event.matchId ≠ c.matchId then c
  else
    let roundChanged := c.state.phase.map (·.round) != some event.round
    let readyFromServer := c.state.matchState.map fun m => phaseReady event m.yourSide
    { c with state := { c.state with
      phase := some event
      refreshUsed := if roundChanged then false else c.state.refreshUsed
      readySubmitted :=
        if event.phase = .shopPlace then
          readyFromServer.getD (if roundChanged then false else c.state.readySubmitted)
        else false
      combatDoneSubmitted :=
        match event.phase with
        | .battle => c.state.combatDoneSubmitted
        | .resolved => true
        | _ => false
      roundReadySubmitted := if event.phase = .resolved then readyFromServer.getD false else false
      damage := if event.phase = .shopPlace then none else c.state.damage
      errorMessage := none } }

def onMatchState (event : MatchState) : Controller :=
  if event.matchId ≠ c.matchId then c
  else
    let readyFromServer :=
      if c.state.matchState.isNone then c.state.phase.map fun phase => phaseReady phase event.yourSide
      else none
    { c with
      rollback := none
      state := { c.state with
        matchState := some event
        readySubmitted := readyFromServer.getD c.state.readySubmitted
        pendingActionId := none
        errorMessage := none } }

def onShop (event : ShopOffersEvent) : Controller :=
  if event.matchId ≠ c.matchId then c
  else
    let isRefresh := c.state.shop.any (·.round == event.round)
    { c with state := { c.state with
      shop := some event
      refreshUsed := isRefresh || c.state.refreshUsed
      pendingActionId := if isRefresh then none else c.state.pendingActionId
      errorMessage := none } }

def onDamage (event : MatchDamageEvent) : Controller :=
  if event.matchId ≠ c.matchId then c
  else { c with state := { c.state with damage := some event } }

def onEnd (event : MatchEndEvent) : Controller :=
  if event.matchId ≠ c.matchId then c
  else { c with state := { c.state with ended := some event } }

def onError (error : GameError) : Controller :=
  match c.rollback with
  | some restored =>
    if error.clientActionId ≠ none ∧ error.clientActionId = c.state.pendingActionId then
      { c with
        rollback := none
        state := { restored with errorMessage := some (gameErrorMessage error.code), pendingActionId := none } }
    else { c with state := { c.state with errorMessage := some (gameErrorMessage error.code) } }
  | none => { c with state := { c.state with errorMessage := some (gameErrorMessage error.code) } }

end Controller

/-! ## The player's taps -/

def unitPrice : UnitId → Int
  | .fighter => 1
  | .healer => 1
  | .ranger => 2
  | .tank => 2

def unitMaxHp : UnitId → Int
  | .fighter => 100
  | .healer => 70
  | .ranger => 60
  | .tank => 150

def PlayerRoster.slots (roster : PlayerRoster) : RosterArea → List (Option Unit)
  | .board => roster.board
  | .bench => roster.bench

/-- The index is in the list. -/
def inRange (slot : Int) (slots : List (Option Unit)) : Bool := 0 ≤ slot && slot < slots.length

def PlayerRoster.unitAt (roster : PlayerRoster) (area : RosterArea) (slot : Int) : Option Unit :=
  if inRange slot (roster.slots area) then ((roster.slots area)[slot.toNat]?).join else none

/-- `slots[slot] = unit`, in the board or the bench. -/
def PlayerRoster.write (roster : PlayerRoster) (area : RosterArea) (slot : Int) (unit : Option Unit) :
    PlayerRoster :=
  match area with
  | .board => { roster with board := roster.board.set slot.toNat unit }
  | .bench => { roster with bench := roster.bench.set slot.toNat unit }

/-- The copy leaves the username out. -/
def copyMatch (source : MatchState) (board bench : List (Option Unit)) (gold readyCount : Int) : MatchState :=
  { matchId := source.matchId
    round := source.round
    yourSide := source.yourSide
    roster := { board := board, bench := bench, gold := gold, hp := source.roster.hp }
    opponent := source.opponent
    readyCount := readyCount }

/-- The copy with another roster and another count. -/
def MatchState.copyRoster (source : MatchState) (roster : PlayerRoster) : MatchState :=
  copyMatch source roster.board roster.bench roster.gold source.readyCount

/-- What the player can tap. -/
inductive Tap where
  | clearError
  | readyForNextRound
  | surrender
  | select (area : RosterArea) (slot : Int)
  | buy (offerIndex : Int)
  | refresh
  | toggleReady
  | skipCombat
  | place (target : RosterArea) (slot : Int) (source : Option UnitSelection)
  | sell (area : RosterArea) (slot : Int)
  | fuse (source target : Unit)
  deriving DecidableEq, Repr

namespace Controller

variable (c : Controller)

/-- `_beginOptimistic`, then the new view. -/
def optimistic (state : MatchViewState) : Controller :=
  { c with rollback := some c.state, state := state }

def tapReadyForNextRound (actionId : String) : Controller × Option Emit :=
  match c.state.phase with
  | none => (c, none)
  | some phase =>
    if phase.phase ≠ .resolved ∨ c.state.roundReadySubmitted then (c, none)
    else
      ({ c with state := { c.state with roundReadySubmitted := true, errorMessage := none } },
        some (.matchRoundReady c.matchId phase.round actionId))

def tapSurrender (actionId : String) : Controller × Option Emit :=
  match c.state.phase with
  | none => (c, none)
  | some phase =>
    if phase.phase = .finished then (c, none)
    else (c, some (.matchSurrender c.matchId phase.round actionId))

def buy (offerIndex : Int) (actionId : String) : Controller × Option Emit :=
  match c.state.matchState, c.state.shop with
  | some m, some shop =>
    if !c.state.canAct then (c, none)
    else if offerIndex < 0 ∨ shop.offers.length ≤ offerIndex then (c, none)
    else
      match (shop.offers[offerIndex.toNat]?).join with
      | none => (c, none)
      | some offer =>
        let price := unitPrice offer.unitId
        if m.roster.gold < price then
          ({ c with state := { c.state with errorMessage := some s!"ทองไม่พอ ต้องการ {price} ทอง" } }, none)
        else
          match m.roster.bench.findIdx? (·.isNone) with
          | none =>
            ({ c with state := { c.state with
              errorMessage := some "ช่องยูนิตรอจัดทีมเต็ม ขายหรือย้ายยูนิตก่อน" } }, none)
          | some benchSlot =>
            let unit : Unit :=
              { instanceId := s!"pending-{actionId}", unitId := offer.unitId, star := offer.star
                hp := unitMaxHp offer.unitId, maxHp := unitMaxHp offer.unitId }
            (c.optimistic { c.state with
              shop := some { shop with offers := shop.offers.set offerIndex.toNat none }
              matchState := some (copyMatch m m.roster.board (m.roster.bench.set benchSlot (some unit))
                (m.roster.gold - price) m.readyCount)
              pendingActionId := some actionId
              errorMessage := none }, some (.shopBuy m.round offerIndex actionId))
  | _, _ => (c, none)

def refresh (actionId : String) : Controller × Option Emit :=
  match c.state.matchState with
  | none => (c, none)
  | some m =>
    if !c.state.canAct || c.state.refreshUsed then (c, none)
    else
      (c.optimistic { c.state with
        refreshUsed := true
        pendingActionId := some actionId
        errorMessage := none }, some (.shopRefresh m.round actionId))

def toggleReady (actionId : String) : Controller × Option Emit :=
  match c.state.matchState with
  | none => (c, none)
  | some m =>
    if !c.state.canAct || m.readyCount ≥ 2 then (c, none)
    else
      let nextReady := !c.state.readySubmitted
      let nextCount := max 0 (min 2 (m.readyCount + if nextReady then 1 else -1))
      (c.optimistic { c.state with
        readySubmitted := nextReady
        matchState := some (copyMatch m m.roster.board m.roster.bench m.roster.gold nextCount)
        pendingActionId := some actionId
        errorMessage := none }, some (.matchReady m.round nextReady actionId))

def skipCombat (actionId : String) : Controller × Option Emit :=
  match c.state.phase with
  | none => (c, none)
  | some phase =>
    if phase.phase ≠ .battle ∨ c.state.combatDoneSubmitted then (c, none)
    else
      ({ c with state := { c.state with combatDoneSubmitted := true, errorMessage := none } },
        some (.matchCombatDone c.matchId phase.round actionId))

def fuse (source target : Unit) (actionId : String) : Controller × Option Emit :=
  match c.state.matchState with
  | none => (c, none)
  | some m =>
    if !c.state.canAct || source.instanceId == target.instanceId || source.unitId != target.unitId ||
        source.star != target.star || source.star ≥ 2 then (c, none)
    else
      (c.optimistic { c.state with pendingActionId := some actionId, errorMessage := none },
        some (.shopFuse m.round source.unitId source.instanceId target.instanceId actionId))

def place (target : RosterArea) (slot : Int) (source : Option UnitSelection) (actionId : String) :
    Controller × Option Emit :=
  match c.state.matchState, source.or c.state.selection with
  | some m, some selected =>
    if !c.state.canAct then (c, none)
    else
      match m.roster.unitAt selected.area selected.slot with
      | none => (c, none)
      | some unit =>
        if selected.area = target ∧ selected.slot = slot then (c, none)
        else
          match m.roster.unitAt target slot with
          | some targetUnit =>
            if unit.unitId = targetUnit.unitId ∧ unit.star = targetUnit.star ∧ unit.star < 2 then
              c.fuse unit targetUnit actionId
            else (c, none)
          | none =>
            -- a target outside the list throws before the view changes
            if !inRange slot (m.roster.slots target) then (c, none)
            else
              let roster := (m.roster.write selected.area selected.slot none).write target slot (some unit)
              (c.optimistic { c.state with
                matchState := some (m.copyRoster roster)
                pendingActionId := some actionId
                selection := none
                errorMessage := none }, some (.matchPlace m.round unit.instanceId target slot actionId))
  | _, _ => (c, none)

def sell (area : RosterArea) (slot : Int) (actionId : String) : Controller × Option Emit :=
  match c.state.matchState with
  | none => (c, none)
  | some m =>
    match m.roster.unitAt area slot with
    | none => (c, none)
    | some unit =>
      if !c.state.canAct then (c, none)
      else
        let roster := m.roster.write area slot none
        (c.optimistic { c.state with
          matchState := some (m.copyRoster { roster with gold := m.roster.gold + unitPrice unit.unitId })
          pendingActionId := some actionId
          selection := none
          errorMessage := none }, some (.shopSell m.round area slot actionId))

def select (area : RosterArea) (slot : Int) (actionId : String) : Controller × Option Emit :=
  if !c.state.canAct then (c, none)
  else
    match c.state.matchState.bind (·.roster.unitAt area slot) with
    | none => if c.state.selection.isSome then c.place area slot none actionId else (c, none)
    | some _ => ({ c with state := { c.state with selection := some ⟨area, slot⟩ } }, none)

/-- What a tap makes of the controller, and what it sends. -/
def tap (actionId : String) : Tap → Controller × Option Emit
  | .clearError => ({ c with state := { c.state with errorMessage := none } }, none)
  | .readyForNextRound => c.tapReadyForNextRound actionId
  | .surrender => c.tapSurrender actionId
  | .select area slot => c.select area slot actionId
  | .buy offerIndex => c.buy offerIndex actionId
  | .refresh => c.refresh actionId
  | .toggleReady => c.toggleReady actionId
  | .skipCombat => c.skipCombat actionId
  | .place target slot source => c.place target slot source actionId
  | .sell area slot => c.sell area slot actionId
  | .fuse source target => c.fuse source target actionId

end Controller

end AutoChess.Client
