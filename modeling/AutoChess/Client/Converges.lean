/-
What the controller shows, against what the server sent. Between a tap and
its reply the view is a prediction; once every prediction was answered, the
view is the server's again, and the offers are the last ones sent without
those bought since (`controller_converges`). A reply is taken to come before
other news: an error restores the whole view of the moment of the tap.
-/
import AutoChess.Client.MatchController

namespace AutoChess.Client

inductive ServerEvent where
  | phase (event : MatchPhaseEvent)
  | matchState (event : MatchState)
  | shop (event : ShopOffersEvent)
  | damage (event : MatchDamageEvent)
  | ended (event : MatchEndEvent)
  | error (error : GameError)
  deriving DecidableEq, Repr

def Controller.receive (c : Controller) : ServerEvent → Controller
  | .phase event => c.onPhase event
  | .matchState event => c.onMatchState event
  | .shop event => c.onShop event
  | .damage event => c.onDamage event
  | .ended event => c.onEnd event
  | .error error => c.onError error

inductive Step where
  | server (event : ServerEvent)
  | tap (tap : Tap) (actionId : String)
  deriving DecidableEq, Repr

/-- What goes over the socket, in either direction. -/
inductive Wire where
  | received (event : ServerEvent)
  | sent (message : Emit)
  deriving DecidableEq, Repr

def Controller.step (c : Controller) : Step → Controller × List Wire
  | .server event => (c.receive event, [.received event])
  | .tap tap actionId => ((c.tap actionId tap).1, (c.tap actionId tap).2.toList.map .sent)

/-- The controller after these steps, and the wire, oldest first. -/
def Controller.run (c : Controller) : List Step → Controller × List Wire
  | [] => (c, [])
  | step :: steps => (((c.step step).1.run steps).1, (c.step step).2 ++ ((c.step step).1.run steps).2)

/-! ## The server's events alone -/

/-- The fields the server fills. -/
structure ServerView where
  phase : Option MatchPhaseEvent := none
  matchState : Option MatchState := none
  shop : Option ShopOffersEvent := none
  damage : Option MatchDamageEvent := none
  ended : Option MatchEndEvent := none
  deriving DecidableEq, Repr

def MatchViewState.server (s : MatchViewState) : ServerView := ⟨s.phase, s.matchState, s.shop, s.damage, s.ended⟩

/-- The match an event is of. -/
def ServerEvent.matchId : ServerEvent → Option String
  | .phase event => some event.matchId
  | .matchState event => some event.matchId
  | .shop event => some event.matchId
  | .damage event => some event.matchId
  | .ended event => some event.matchId
  | .error _ => none

/-- A planning phase takes the damage of the last round away. -/
def ServerView.fill (v : ServerView) : ServerEvent → ServerView
  | .phase event => { v with phase := some event, damage := if event.phase = .shopPlace then none else v.damage }
  | .matchState event => { v with matchState := some event }
  | .shop event => { v with shop := some event }
  | .damage event => { v with damage := some event }
  | .ended event => { v with ended := some event }
  | .error _ => v

/-- Events of other matches are dropped. -/
def ServerView.receive (matchId : String) (v : ServerView) (event : ServerEvent) : ServerView :=
  if event.matchId = some matchId then v.fill event else v

def Wire.event : Wire → Option ServerEvent
  | .received event => some event
  | .sent _ => none

/-- The fold of the events received, whatever was tapped. -/
def serverView (matchId : String) (v : ServerView) (wire : List Wire) : ServerView :=
  (wire.filterMap Wire.event).foldl (ServerView.receive matchId) v

/-! ## Predictions and their replies -/

/-- The id of a message whose outcome is predicted. -/
def Emit.predicted : Emit → Option String
  | .shopBuy _ _ id | .shopSell _ _ _ id | .shopRefresh _ id | .shopFuse _ _ _ _ id | .matchPlace _ _ _ _ id
  | .matchReady _ _ id => some id
  | .matchCombatDone _ _ _ | .matchRoundReady _ _ _ | .matchSurrender _ _ _ => none

def Emit.isBuy : Emit → Bool
  | .shopBuy _ _ _ => true
  | _ => false

def Emit.isRefresh : Emit → Bool
  | .shopRefresh _ _ => true
  | _ => false

/-- A buy takes its offer. -/
def Emit.offersAfter (shop : Option ShopOffersEvent) : Emit → Option ShopOffersEvent
  | .shopBuy _ offerIndex _ => shop.map fun shop => { shop with offers := shop.offers.set offerIndex.toNat none }
  | _ => shop

/-- News of this match. -/
def Wire.news (matchId : String) (w : Wire) : Bool := w.event.any fun event => event.matchId == some matchId

/-- A state of this match: the reply that confirms. -/
def Wire.confirms (matchId : String) : Wire → Bool
  | .received (.matchState event) => event.matchId == matchId
  | _ => false

def Wire.offers (matchId : String) : Wire → Bool
  | .received (.shop event) => event.matchId == matchId
  | _ => false

/-- The error that answers an action. -/
def Wire.refuses (id : String) : Wire → Bool
  | .received (.error error) => error.clientActionId == some id
  | _ => false

/-- The offers last sent, without those taken since by a buy that no error
answers. -/
def offersLeft (matchId : String) : Option ShopOffersEvent → List Wire → Option ShopOffersEvent
  | shop, [] => shop
  | shop, .received event :: rest => offersLeft matchId (ServerView.receive matchId { shop := shop } event).shop rest
  | shop, .sent message :: rest =>
    offersLeft matchId (if message.predicted.any fun id => rest.any (·.refuses id) then shop else message.offersAfter shop)
      rest

/-- Every predicted action has its reply: a state of the match, or an error
with its id; for a refresh, also the offers. -/
def Answered (matchId : String) (wire : List Wire) : Prop :=
  ∀ before message after id, wire = before ++ .sent message :: after → message.predicted = some id →
    ∃ w ∈ after, w.confirms matchId = true ∨ w.refuses id = true ∨ message.isRefresh = true ∧ w.offers matchId = true

/-- An error finds the view as the tap left it, with no news since, or comes
when a state of the match has replaced the prediction and, of a buy, no
offer is missing. -/
def Timely (matchId : String) (wire : List Wire) : Prop :=
  ∀ before message between w after id, wire = before ++ .sent message :: (between ++ w :: after) →
    message.predicted = some id → w.refuses id = true →
      (∀ w ∈ between, w.news matchId = false) ∨
        message.isBuy = false ∧ ∃ w ∈ between, w.confirms matchId = true

section
variable {matchId id : String} {c c' : Controller} {v : ServerView} {shop : Option ShopOffersEvent}
  {wire rest : List Wire} {event : ServerEvent} {message : Emit} {r : MatchViewState}

/-! ## What a tap does -/

/-- A prediction: the view of before is kept, and the offers and the roster
may change. -/
structure Predicts (c c' : Controller) (message : Emit) (id : String) : Prop where
  matchId : c'.matchId = c.matchId
  idle : c.state.pendingActionId = none
  rollback : c'.rollback = some c.state
  pending : c'.state.pendingActionId = some id
  predicted : message.predicted = some id
  phase : c'.state.phase = c.state.phase
  damage : c'.state.damage = c.state.damage
  ended : c'.state.ended = c.state.ended
  shop : c'.state.shop = message.offersAfter c.state.shop
  refresh : message.isRefresh = true → c'.state.matchState = c.state.matchState

/-- A tap that predicts nothing leaves the server's fields alone. -/
structure Idles (c c' : Controller) (o : Option Emit) : Prop where
  matchId : c'.matchId = c.matchId
  server : c'.state.server = c.state.server
  pending : c'.state.pendingActionId = c.state.pendingActionId
  rollback : c'.rollback = c.rollback
  unpredicted : ∀ message, o = some message → message.predicted = none

def TapStep (c c' : Controller) (o : Option Emit) (id : String) : Prop :=
  Idles c c' o ∨ ∃ message, o = some message ∧ Predicts c c' message id

theorem Idles.none (c : Controller) : Idles c c none := ⟨rfl, rfl, rfl, rfl, nofun⟩

theorem canAct_idle {s : MatchViewState} (h : ¬ (!s.canAct) = true) : s.pendingActionId = none := by
  simp only [MatchViewState.canAct, Bool.not_eq_true', Bool.not_eq_false, Bool.and_eq_true] at h
  exact Option.isNone_iff_eq_none.1 h.2

theorem buy_step (offerIndex : Int) : TapStep c (c.buy offerIndex id).1 (c.buy offerIndex id).2 id := by
  unfold Controller.buy
  split
  · next m shop hm hshop =>
    split
    · exact .inl (.none c)
    next hcan =>
    split
    · exact .inl (.none c)
    split
    · exact .inl (.none c)
    dsimp only
    split
    · exact .inl ⟨rfl, rfl, rfl, rfl, nofun⟩
    split
    · exact .inl ⟨rfl, rfl, rfl, rfl, nofun⟩
    · refine .inr ⟨_, rfl, rfl, canAct_idle hcan, rfl, rfl, rfl, rfl, rfl, rfl, ?_, nofun⟩
      simp only [Controller.optimistic, Emit.offersAfter, hshop, Option.map_some]
  · exact .inl (.none c)

theorem refresh_step : TapStep c (c.refresh id).1 (c.refresh id).2 id := by
  unfold Controller.refresh
  split
  · exact .inl (.none c)
  split
  · exact .inl (.none c)
  next hcan =>
  simp only [Bool.or_eq_true, not_or] at hcan
  exact .inr ⟨_, rfl, rfl, canAct_idle hcan.1, rfl, rfl, rfl, rfl, rfl, rfl, rfl, fun _ => rfl⟩

theorem toggleReady_step : TapStep c (c.toggleReady id).1 (c.toggleReady id).2 id := by
  unfold Controller.toggleReady
  split
  · exact .inl (.none c)
  split
  · exact .inl (.none c)
  next hcan =>
  simp only [Bool.or_eq_true, not_or] at hcan
  exact .inr ⟨_, rfl, rfl, canAct_idle hcan.1, rfl, rfl, rfl, rfl, rfl, rfl, rfl, nofun⟩

theorem fuse_step (source target : Unit) : TapStep c (c.fuse source target id).1 (c.fuse source target id).2 id := by
  unfold Controller.fuse
  split
  · exact .inl (.none c)
  split
  · exact .inl (.none c)
  next hcan =>
  simp only [Bool.or_eq_true, not_or] at hcan
  exact .inr ⟨_, rfl, rfl, canAct_idle hcan.1.1.1.1, rfl, rfl, rfl, rfl, rfl, rfl, rfl, nofun⟩

theorem place_step (target : RosterArea) (slot : Int) (source : Option UnitSelection) :
    TapStep c (c.place target slot source id).1 (c.place target slot source id).2 id := by
  unfold Controller.place
  split
  · split
    · exact .inl (.none c)
    next hcan =>
    split
    · exact .inl (.none c)
    split
    · exact .inl (.none c)
    split
    · split
      · exact fuse_step _ _
      · exact .inl (.none c)
    split
    · exact .inl (.none c)
    · exact .inr ⟨_, rfl, rfl, canAct_idle hcan, rfl, rfl, rfl, rfl, rfl, rfl, rfl, nofun⟩
  · exact .inl (.none c)

theorem sell_step (area : RosterArea) (slot : Int) :
    TapStep c (c.sell area slot id).1 (c.sell area slot id).2 id := by
  unfold Controller.sell
  split
  · exact .inl (.none c)
  split
  · exact .inl (.none c)
  split
  · exact .inl (.none c)
  next hcan =>
  exact .inr ⟨_, rfl, rfl, canAct_idle hcan, rfl, rfl, rfl, rfl, rfl, rfl, rfl, nofun⟩

theorem select_step (area : RosterArea) (slot : Int) :
    TapStep c (c.select area slot id).1 (c.select area slot id).2 id := by
  unfold Controller.select
  split
  · exact .inl (.none c)
  split
  · split
    · exact place_step ..
    · exact .inl (.none c)
  · exact .inl ⟨rfl, rfl, rfl, rfl, nofun⟩

theorem readyForNextRound_step : Idles c (c.tapReadyForNextRound id).1 (c.tapReadyForNextRound id).2 := by
  unfold Controller.tapReadyForNextRound
  split
  · exact .none c
  split
  · exact .none c
  · exact ⟨rfl, rfl, rfl, rfl, by rintro _ ⟨⟩; rfl⟩

theorem surrender_step : Idles c (c.tapSurrender id).1 (c.tapSurrender id).2 := by
  unfold Controller.tapSurrender
  split
  · exact .none c
  split
  · exact .none c
  · exact ⟨rfl, rfl, rfl, rfl, by rintro _ ⟨⟩; rfl⟩

theorem skipCombat_step : Idles c (c.skipCombat id).1 (c.skipCombat id).2 := by
  unfold Controller.skipCombat
  split
  · exact .none c
  split
  · exact .none c
  · exact ⟨rfl, rfl, rfl, rfl, by rintro _ ⟨⟩; rfl⟩

/-- What every tap does. -/
theorem tap_step (tap : Tap) : TapStep c (c.tap id tap).1 (c.tap id tap).2 id := by
  cases tap with
  | clearError => exact .inl ⟨rfl, rfl, rfl, rfl, nofun⟩
  | readyForNextRound => exact .inl readyForNextRound_step
  | surrender => exact .inl surrender_step
  | select area slot => exact select_step ..
  | buy offerIndex => exact buy_step _
  | refresh => exact refresh_step
  | toggleReady => exact toggleReady_step
  | skipCombat => exact .inl skipCombat_step
  | place target slot source => exact place_step ..
  | sell area slot => exact sell_step ..
  | fuse source target => exact fuse_step ..

/-! ## What an event does -/

theorem receive_other (hother : event.matchId ≠ some c.matchId) (herror : event.matchId ≠ none) :
    c.receive event = c := by
  cases event with
  | error e => exact absurd rfl herror
  | phase e => exact if_pos fun h => hother (congrArg some h)
  | matchState e => exact if_pos fun h => hother (congrArg some h)
  | shop e => exact if_pos fun h => hother (congrArg some h)
  | damage e => exact if_pos fun h => hother (congrArg some h)
  | ended e => exact if_pos fun h => hother (congrArg some h)

/-- News of the match fills the server's fields, and no action becomes
pending. -/
structure Hears (c c' : Controller) (event : ServerEvent) : Prop where
  server : c'.state.server = c.state.server.receive c.matchId event
  pending : c'.state.pendingActionId = c.state.pendingActionId ∨ c'.state.pendingActionId = none
  confirmed : (Wire.received event).confirms c.matchId = true → c'.state.pendingActionId = none

theorem receive_news (hnews : event.matchId = some c.matchId) : Hears c (c.receive event) event := by
  have hfill : c.state.server.receive c.matchId event = c.state.server.fill event := if_pos hnews
  cases event with
  | error e => cases hnews
  | phase e =>
    have hmatch : ¬ e.matchId ≠ c.matchId := not_not.2 (Option.some.inj hnews)
    rw [show c.receive (.phase e) = c.onPhase e from rfl, Controller.onPhase, if_neg hmatch]
    exact ⟨hfill.symm, .inl rfl, nofun⟩
  | matchState e =>
    have hmatch : ¬ e.matchId ≠ c.matchId := not_not.2 (Option.some.inj hnews)
    rw [show c.receive (.matchState e) = c.onMatchState e from rfl, Controller.onMatchState, if_neg hmatch]
    exact ⟨hfill.symm, .inr rfl, fun _ => rfl⟩
  | shop e =>
    have hmatch : ¬ e.matchId ≠ c.matchId := not_not.2 (Option.some.inj hnews)
    rw [show c.receive (.shop e) = c.onShop e from rfl, Controller.onShop, if_neg hmatch]
    refine ⟨hfill.symm, ?_, nofun⟩
    dsimp only
    split
    · exact .inr rfl
    · exact .inl rfl
  | damage e =>
    have hmatch : ¬ e.matchId ≠ c.matchId := not_not.2 (Option.some.inj hnews)
    rw [show c.receive (.damage e) = c.onDamage e from rfl, Controller.onDamage, if_neg hmatch]
    exact ⟨hfill.symm, .inl rfl, nofun⟩
  | ended e =>
    have hmatch : ¬ e.matchId ≠ c.matchId := not_not.2 (Option.some.inj hnews)
    rw [show c.receive (.ended e) = c.onEnd e from rfl, Controller.onEnd, if_neg hmatch]
    exact ⟨hfill.symm, .inl rfl, nofun⟩

theorem receive_matchId (c : Controller) (event : ServerEvent) : (c.receive event).matchId = c.matchId := by
  by_cases herror : event.matchId = none
  · cases event with
    | error e =>
      show (c.onError e).matchId = c.matchId
      unfold Controller.onError
      split
      · split <;> rfl
      · rfl
    | _ => cases herror
  by_cases hother : event.matchId = some c.matchId
  · cases event <;> simp only [Controller.receive, Controller.onPhase, Controller.onMatchState, Controller.onShop,
      Controller.onDamage, Controller.onEnd, Controller.onError] <;> split <;> first | rfl | (split <;> rfl)
  · rw [receive_other hother herror]

/-- An error that names no pending action changes the message only. -/
theorem onError_message {error : GameError} (h : ∀ id, c.state.pendingActionId = some id →
    (Wire.received (.error error)).refuses id = false) : c.onError error =
      { c with state := { c.state with errorMessage := some (gameErrorMessage error.code) } } := by
  unfold Controller.onError
  split
  · refine if_neg fun hnames => ?_
    cases hpending : c.state.pendingActionId with
    | none => exact hnames.1 (hnames.2.trans hpending)
    | some id =>
      have := h id hpending
      rw [Wire.refuses, hnames.2, hpending] at this
      simp at this
  · rfl

theorem onError_restores {error : GameError} (hrollback : c.rollback = some r)
    (hpending : c.state.pendingActionId = some id) (h : (Wire.received (.error error)).refuses id = true) :
    c.onError error = { c with
      rollback := none
      state := { r with errorMessage := some (gameErrorMessage error.code), pendingActionId := none } } := by
  have hid : error.clientActionId = some id := by simpa [Wire.refuses] using h
  simp [Controller.onError, hrollback, hpending, hid]

/-! ## The view against the server's -/

/-- A view shows the server's, and its offers; the roster is the server's
too, or a state of the match is still to come. -/
structure Agrees (matchId : String) (s : MatchViewState) (v : ServerView) (shop : Option ShopOffersEvent)
    (rest : List Wire) : Prop where
  phase : s.phase = v.phase
  damage : s.damage = v.damage
  ended : s.ended = v.ended
  shop : s.shop = shop
  roster : s.matchState = v.matchState ∨ ∃ w ∈ rest, w.confirms matchId = true

/-- The controller before the rest of the wire: it agrees with the server and
no error will undo it, or the next news is the error that takes it back to
a view that agrees. -/
inductive Sync (matchId : String) (c : Controller) (v : ServerView) (shop : Option ShopOffersEvent)
    (rest : List Wire) : Prop where
  | steady (h : Agrees matchId c.state v shop rest)
      (hlate : ∀ id, c.state.pendingActionId = some id → ∀ pre w post, rest = pre ++ w :: post →
        w.refuses id = true → ∃ w' ∈ pre, w'.confirms matchId = true)
  | doubt {id : String} {r : MatchViewState} (hpending : c.state.pendingActionId = some id)
      (hrollback : c.rollback = some r) (h : Agrees matchId r v shop rest)
      (hrefused : ∃ pre w post, rest = pre ++ w :: post ∧ w.refuses id = true ∧
        ∀ w' ∈ pre, w'.news matchId = false)

theorem Agrees.tail {s : MatchViewState} {w : Wire} (h : Agrees matchId s v shop (w :: rest))
    (hw : w.confirms matchId = false) : Agrees matchId s v shop rest := by
  refine ⟨h.phase, h.damage, h.ended, h.shop, h.roster.imp_right ?_⟩
  rintro ⟨w', hmem, hconfirms⟩
  rcases List.mem_cons.1 hmem with rfl | hmem
  · rw [hw] at hconfirms
    cases hconfirms
  · exact ⟨w', hmem, hconfirms⟩

theorem late_tail {w : Wire} (hw : w.confirms matchId = false)
    (hlate : ∀ pre w' post, w :: rest = pre ++ w' :: post → w'.refuses id = true →
      ∃ w'' ∈ pre, w''.confirms matchId = true) {pre post : List Wire} {w' : Wire}
    (hrest : rest = pre ++ w' :: post) (hrefuses : w'.refuses id = true) :
    ∃ w'' ∈ pre, w''.confirms matchId = true := by
  obtain ⟨w'', hmem, hconfirms⟩ := hlate (w :: pre) w' post (by rw [hrest]; rfl) hrefuses
  rcases List.mem_cons.1 hmem with rfl | hmem
  · rw [hw] at hconfirms
    cases hconfirms
  · exact ⟨w'', hmem, hconfirms⟩

/-- The refusal is still to come after a line that is not it. -/
theorem refused_tail {w : Wire} (hw : w.refuses id = false) (h : ∃ pre w' post, w :: rest = pre ++ w' :: post ∧
    w'.refuses id = true ∧ ∀ w'' ∈ pre, w''.news matchId = false) : ∃ pre w' post, rest = pre ++ w' :: post ∧
      w'.refuses id = true ∧ ∀ w'' ∈ pre, w''.news matchId = false := by
  obtain ⟨pre, w', post, heq, hrefuses, hpre⟩ := h
  cases pre with
  | nil =>
    cases heq
    rw [hw] at hrefuses
    cases hrefuses
  | cons x pre =>
    cases heq
    exact ⟨pre, w', post, rfl, hrefuses, fun w'' hmem => hpre w'' (List.mem_cons_of_mem _ hmem)⟩

/-- Lines that leave the server's fields, the pending action and the
snapshot alone. -/
theorem Sync.idle {w : Wire} (h : Sync matchId c v shop (w :: rest)) (hserver : c'.state.server = c.state.server)
    (hpending : c'.state.pendingActionId = c.state.pendingActionId) (hrollback : c'.rollback = c.rollback)
    (hconfirms : w.confirms matchId = false)
    (hrefuses : ∀ id, c.state.pendingActionId = some id → w.refuses id = false) : Sync matchId c' v shop rest := by
  cases h with
  | steady h hlate =>
    have htail := h.tail hconfirms
    simp only [MatchViewState.server, ServerView.mk.injEq] at hserver
    obtain ⟨hphase, hmatch, hshop, hdamage, hended⟩ := hserver
    refine .steady ⟨hphase.trans htail.phase, hdamage.trans htail.damage, hended.trans htail.ended,
      hshop.trans htail.shop, hmatch ▸ htail.roster⟩ fun id hid pre w' post hrest hrefuses' => ?_
    exact late_tail hconfirms (hlate id (hpending ▸ hid)) hrest hrefuses'
  | @doubt id r hid hr h hrefused =>
    exact .doubt (hpending.trans hid) (hrollback.trans hr) (h.tail hconfirms)
      (refused_tail (hrefuses id hid) hrefused)

theorem receive_unnamed {event : ServerEvent} {v : ServerView} (h : event.matchId ≠ some matchId) :
    v.receive matchId event = v := if_neg h

/-- Receiving an event keeps step with the server. -/
theorem Sync.received (h : Sync matchId c v shop (.received event :: rest)) (hmatch : c.matchId = matchId) :
    Sync matchId (c.receive event) (v.receive matchId event)
      (ServerView.receive matchId { shop := shop } event).shop rest := by
  subst hmatch
  by_cases hnews : event.matchId = some c.matchId
  · have hhears := receive_news hnews
    have hrefuses : ∀ id, (Wire.received event).refuses id = false := by
      intro id
      cases event with
      | error e => cases hnews
      | _ => rfl
    cases h with
    | steady h hlate =>
      have hserver := hhears.server
      refine .steady ?_ fun id hid pre w post hrest hrefuses' => ?_
      · have hagrees : (c.receive event).state.phase = (v.receive c.matchId event).phase ∧
            (c.receive event).state.damage = (v.receive c.matchId event).damage ∧
            (c.receive event).state.ended = (v.receive c.matchId event).ended ∧
            (c.receive event).state.shop = (ServerView.receive c.matchId { shop := shop } event).shop ∧
            ((c.receive event).state.matchState = (v.receive c.matchId event).matchState ∨
              (c.receive event).state.matchState = c.state.matchState ∧
                (v.receive c.matchId event).matchState = v.matchState ∧
                (Wire.received event).confirms c.matchId = false) := by
          simp only [ServerView.receive, if_pos hnews, MatchViewState.server] at hserver ⊢
          cases event <;> simp only [ServerView.fill, ServerView.mk.injEq] at hserver ⊢ <;>
            simp_all [h.phase, h.damage, h.ended, h.shop, Wire.confirms]
        obtain ⟨hphase, hdamage, hended, hshop, hroster⟩ := hagrees
        refine ⟨hphase, hdamage, hended, hshop, ?_⟩
        rcases hroster with hroster | ⟨hsame, hsame', hconfirms⟩
        · exact .inl hroster
        · rw [hsame, hsame']
          exact (h.tail hconfirms).roster
      · rcases hhears.pending with hsame | hnone
        · by_cases hconfirms : (Wire.received event).confirms c.matchId = true
          · rw [hhears.confirmed hconfirms] at hid
            cases hid
          · exact late_tail (by simpa using hconfirms) (hlate id (hsame ▸ hid)) hrest hrefuses'
        · rw [hnone] at hid
          cases hid
    | @doubt id r hid hr h hrefused =>
      obtain ⟨pre, w, post, heq, hrefuses', hpre⟩ := hrefused
      cases pre with
      | nil =>
        cases heq
        rw [hrefuses] at hrefuses'
        cases hrefuses'
      | cons x pre =>
        cases heq
        have := hpre _ (List.mem_cons_self ..)
        simp [Wire.news, Wire.event, hnews] at this
  rw [receive_unnamed hnews, receive_unnamed hnews]
  have hconfirms : (Wire.received event).confirms c.matchId = false := by
    cases event with
    | matchState e => simpa [Wire.confirms] using fun h => hnews (congrArg some h)
    | _ => rfl
  by_cases herror : event.matchId = none
  · cases event with
    | error e =>
      cases h with
      | steady h hlate =>
        have hquiet : ∀ id, c.state.pendingActionId = some id → (Wire.received (.error e)).refuses id = false := by
          intro id hid
          by_contra hrefuses
          obtain ⟨w, hw, -⟩ := hlate id hid [] _ rest rfl (by simpa using hrefuses)
          cases hw
        show Sync c.matchId (c.onError e) v shop rest
        rw [onError_message hquiet]
        exact (Sync.steady h hlate).idle rfl rfl rfl hconfirms hquiet
      | @doubt id r hid hr h hrefused =>
        show Sync c.matchId (c.onError e) v shop rest
        by_cases hrefuses : (Wire.received (.error e)).refuses id = true
        · rw [onError_restores hr hid hrefuses]
          have htail := h.tail hconfirms
          exact .steady ⟨htail.phase, htail.damage, htail.ended, htail.shop, htail.roster⟩ nofun
        · have hquiet : ∀ id', c.state.pendingActionId = some id' →
              (Wire.received (.error e)).refuses id' = false := by
            intro id' hid'
            rw [hid] at hid'
            cases hid'
            simpa using hrefuses
          rw [onError_message hquiet]
          exact (Sync.doubt hid hr h hrefused).idle rfl rfl rfl hconfirms hquiet
    | _ => cases herror
  · rw [receive_other hnews herror]
    refine h.idle rfl rfl rfl hconfirms fun id _ => ?_
    cases event with
    | error e => exact absurd rfl herror
    | _ => rfl

theorem sent_confirms (message : Emit) : (Wire.sent message).confirms matchId = false := rfl

theorem offersAfter_of_not_buy (h : message.isBuy = false) : message.offersAfter shop = shop := by
  cases message <;> first | rfl | cases h

/-- A prediction keeps step too: it is confirmed, or taken back at once. -/
theorem Sync.sent (h : Sync matchId c v shop (.sent message :: rest)) (hp : Predicts c c' message id)
    (htimely : Timely matchId (.sent message :: rest)) (hanswered : Answered matchId (.sent message :: rest)) :
    Sync matchId c' v
      (if message.predicted.any fun id => rest.any (·.refuses id) then shop else message.offersAfter shop) rest := by
  obtain ⟨hagrees⟩ | ⟨hpending⟩ := h
  · have hagrees := hagrees.tail (sent_confirms message)
    have hreply : ∀ pre w post, rest = pre ++ w :: post → w.refuses id = true →
        (∀ w' ∈ pre, w'.news matchId = false) ∨ message.isBuy = false ∧ ∃ w' ∈ pre, w'.confirms matchId = true :=
      fun pre w post hrest hrefuses => htimely [] message pre w post id (by rw [hrest]; rfl) hp.predicted hrefuses
    rw [hp.predicted]
    by_cases hprompt : ∃ pre w post, rest = pre ++ w :: post ∧ w.refuses id = true ∧
        ∀ w' ∈ pre, w'.news matchId = false
    · have hrefused : rest.any (·.refuses id) = true := by
        obtain ⟨pre, w, post, rfl, hrefuses, -⟩ := hprompt
        exact List.any_eq_true.2 ⟨w, by simp, hrefuses⟩
      rw [Option.any_some, if_pos hrefused]
      exact .doubt hp.pending hp.rollback hagrees hprompt
    have hlate : ∀ pre w post, rest = pre ++ w :: post → w.refuses id = true →
        message.isBuy = false ∧ ∃ w' ∈ pre, w'.confirms matchId = true := fun pre w post hrest hrefuses =>
      (hreply pre w post hrest hrefuses).resolve_left fun hnews => hprompt ⟨pre, w, post, hrest, hrefuses, hnews⟩
    refine .steady ⟨hp.phase.trans hagrees.phase, hp.damage.trans hagrees.damage, hp.ended.trans hagrees.ended,
      ?_, ?_⟩ fun id' hid pre w post hrest hrefuses => ?_
    · rw [hp.shop, hagrees.shop]
      split
      · next hrefused =>
        obtain ⟨w, hmem, hrefuses⟩ := List.any_eq_true.1 hrefused
        obtain ⟨pre, post, hrest⟩ := List.append_of_mem hmem
        exact offersAfter_of_not_buy (hlate pre w post hrest hrefuses).1
      · rfl
    · by_cases hrefresh : message.isRefresh = true
      · rw [hp.refresh hrefresh]
        exact hagrees.roster
      obtain ⟨w, hmem, hconfirms | hrefuses | ⟨hrefresh', -⟩⟩ := hanswered [] message rest id rfl hp.predicted
      · exact .inr ⟨w, hmem, hconfirms⟩
      · obtain ⟨pre, post, rfl⟩ := List.append_of_mem hmem
        obtain ⟨-, w', hmem', hconfirms⟩ := hlate pre w post rfl hrefuses
        exact .inr ⟨w', List.mem_append_left _ hmem', hconfirms⟩
      · exact absurd hrefresh' hrefresh
    · rw [hp.pending] at hid
      cases hid
      exact (hlate pre w post hrest hrefuses).2
  · rw [hp.idle] at hpending
    cases hpending

/-- One step keeps the controller in sync. -/
theorem Sync.step (step : Step) (hmatch : c.matchId = matchId) (htimely : Timely matchId ((c.step step).2 ++ rest))
    (hanswered : Answered matchId ((c.step step).2 ++ rest)) (h : Sync matchId c v shop ((c.step step).2 ++ rest)) :
    (c.step step).1.matchId = matchId ∧ ∃ shop',
      Sync matchId (c.step step).1 (serverView matchId v (c.step step).2) shop' rest ∧
        offersLeft matchId shop ((c.step step).2 ++ rest) = offersLeft matchId shop' rest := by
  cases step with
  | server event => exact ⟨(receive_matchId c event).trans hmatch, _, h.received hmatch, rfl⟩
  | tap tap actionId =>
    have htap := @tap_step actionId c tap
    simp only [Controller.step] at htimely hanswered h ⊢
    generalize c.tap actionId tap = result at htap htimely hanswered h ⊢
    obtain ⟨c', o⟩ := result
    obtain hidle | ⟨message, rfl, hp⟩ := htap
    · refine ⟨hidle.matchId.trans hmatch, ?_⟩
      cases o with
      | none =>
        refine ⟨shop, ?_, rfl⟩
        cases h with
        | steady h hlate =>
          have hserver := hidle.server
          simp only [MatchViewState.server, ServerView.mk.injEq] at hserver
          obtain ⟨hphase, hroster, hshop, hdamage, hended⟩ := hserver
          exact .steady ⟨hphase.trans h.phase, hdamage.trans h.damage, hended.trans h.ended, hshop.trans h.shop,
            hroster ▸ h.roster⟩ fun id hid => hlate id (hidle.pending ▸ hid)
        | doubt hid hr h hrefused =>
          exact .doubt (hidle.pending.trans hid) (hidle.rollback.trans hr) h hrefused
      | some message =>
        have hnone := hidle.unpredicted message rfl
        refine ⟨shop, h.idle hidle.server hidle.pending hidle.rollback rfl fun _ _ => rfl, ?_⟩
        have hbuy : message.isBuy = false := by cases message <;> first | rfl | cases hnone
        simp [offersLeft, hnone, offersAfter_of_not_buy hbuy]
    · exact ⟨hp.matchId.trans hmatch, _, h.sent hp htimely hanswered, rfl⟩

theorem Timely.tail {front : List Wire} (h : Timely matchId (front ++ rest)) : Timely matchId rest :=
  fun before message between w after id hrest =>
    h (front ++ before) message between w after id (by rw [hrest, List.append_assoc])

theorem Answered.tail {front : List Wire} (h : Answered matchId (front ++ rest)) : Answered matchId rest :=
  fun before message after id hrest => h (front ++ before) message after id (by rw [hrest, List.append_assoc])

theorem serverView_append (v : ServerView) (front rest : List Wire) :
    serverView matchId v (front ++ rest) = serverView matchId (serverView matchId v front) rest := by
  simp [serverView, List.filterMap_append]

theorem run_agrees (steps : List Step) (hmatch : c.matchId = matchId) (htimely : Timely matchId (c.run steps).2)
    (hanswered : Answered matchId (c.run steps).2) (h : Sync matchId c v shop (c.run steps).2) :
    Agrees matchId (c.run steps).1.state (serverView matchId v (c.run steps).2)
      (offersLeft matchId shop (c.run steps).2) [] := by
  induction steps generalizing c v shop with
  | nil =>
    cases h with
    | steady h hlate => exact h
    | doubt hid hr h hrefused =>
      obtain ⟨pre, w, post, heq, -⟩ := hrefused
      exact absurd heq (by simp [Controller.run])
  | cons step steps ih =>
    obtain ⟨hmatch', shop', hsync, hoffers⟩ := h.step step hmatch htimely hanswered
    have := ih hmatch' htimely.tail hanswered.tail hsync
    simp only [Controller.run] at this ⊢
    rw [serverView_append, hoffers]
    exact this

/-- **The client converges to the server.** Whatever order events and taps
come in: once every predicted action has its reply, the phase, the match,
the damage and the end are those of the server's events alone, and the
offers are the last ones sent without those bought since, if every error
comes before other news, or after a state of the match has replaced what it
refuses. -/
theorem controller_converges (matchId : String) (steps : List Step)
    (htimely : Timely matchId ((Controller.fresh matchId).run steps).2)
    (hanswered : Answered matchId ((Controller.fresh matchId).run steps).2) :
    ((Controller.fresh matchId).run steps).1.state.server =
      { serverView matchId {} ((Controller.fresh matchId).run steps).2 with
        shop := offersLeft matchId none ((Controller.fresh matchId).run steps).2 } := by
  have hstart : Sync matchId (Controller.fresh matchId) {} none ((Controller.fresh matchId).run steps).2 :=
    .steady ⟨rfl, rfl, rfl, rfl, .inl rfl⟩ nofun
  have hmatch : (Controller.fresh matchId).matchId = matchId := rfl
  have h := run_agrees steps hmatch htimely hanswered hstart
  have hroster := h.roster.resolve_right (by simp)
  simp only [MatchViewState.server, h.phase, h.damage, h.ended, h.shop, hroster]

end

/-! ## Two runs -/

def planning : MatchPhaseEvent := ⟨"m", .shopPlace, 1, 40, []⟩

def firstRoster (first : Option Unit) (gold : Int) : MatchState :=
  { matchId := "m", round := 1, yourSide := .p1
    roster :=
      { username := some "one", board := List.replicate 9 none, bench := first :: List.replicate 7 none, gold := gold,
        hp := 100 }
    opponent := { gold := 5, hp := 100, scoutRound := none, boardSummary := [], battleBoardSummary := none }
    readyCount := 0 }

def aFighter : Unit := ⟨"u", .fighter, 0, 100, 100⟩

/-- A sale, refused. -/
def refusedSale : List Step :=
  [.server (.phase planning), .server (.matchState (firstRoster (some aFighter) 4)), .tap (.sell .bench 0) "a",
   .server (.error ⟨"shop.busy", none, some "a"⟩)]

theorem controller_converges_refusedSale :
    ((Controller.fresh "m").run refusedSale).1.state.matchState = some (firstRoster (some aFighter) 4) := by
  have hwire : ((Controller.fresh "m").run refusedSale).2 = [.received (.phase planning),
      .received (.matchState (firstRoster (some aFighter) 4)), .sent (.shopSell 1 .bench 0 "a"),
      .received (.error ⟨"shop.busy", none, some "a"⟩)] := by decide
  have h := controller_converges "m" refusedSale ?_ ?_
  · have hroster : ((Controller.fresh "m").run refusedSale).1.state.matchState =
        (serverView "m" {} ((Controller.fresh "m").run refusedSale).2).matchState :=
      congrArg ServerView.matchState h
    rw [hroster, hwire]
    decide
  · rw [hwire]
    intro before message between w after id heq hpredicted hrefuses
    rcases before with _ | ⟨x, _ | ⟨y, _ | ⟨z, _ | ⟨t, before⟩⟩⟩⟩ <;> simp at heq
    rcases between with _ | ⟨x, between⟩
    · exact .inl fun w hw => by cases hw
    · simp at heq
  · rw [hwire]
    intro before message after id heq hpredicted
    rcases before with _ | ⟨x, _ | ⟨y, _ | ⟨z, _ | ⟨t, before⟩⟩⟩⟩ <;> simp at heq
    obtain ⟨-, -, rfl, rfl⟩ := heq
    cases hpredicted
    exact ⟨_, List.mem_singleton.2 rfl, .inr (.inl rfl)⟩

/-- A purchase, confirmed. -/
def purchase : List Step :=
  [.server (.phase planning), .server (.matchState (firstRoster none 5)),
   .server (.shop ⟨"m", 1, some ⟨"o", .fighter, 0⟩ :: ["p", "q", "r", "s"].map fun id => some ⟨id, .tank, 0⟩⟩),
   .tap (.buy 0) "a", .server (.matchState (firstRoster (some aFighter) 4))]

/-- The offer bought is gone, though no event of the server took it. -/
theorem purchase_takes_offer : ((Controller.fresh "m").run purchase).1.state.pendingActionId = none ∧
    ((Controller.fresh "m").run purchase).1.state.shop ≠
      (serverView "m" {} ((Controller.fresh "m").run purchase).2).shop := by decide

end AutoChess.Client
