/-
The websocket client of the mobile app: the state it shows, the futures of
`connect`, and what it keeps of the server's messages. The socket itself is
the transport's; it reconnects by itself until it is told to disconnect. Its
callbacks may come at any time, after a disposal too. Timeouts of the callers
are left out: they end no future of the client.

A future of `connect` settles with the first connect, refusal or disposal
after the call. One that is still pending when `disconnect` is called stays so:
later calls of `connect` return it and leave the transport alone (`run_client`).
-/
import AutoChess.Client.Messages
import Mathlib.Data.List.Chain

namespace AutoChess.Connection

open AutoChess.Client (GameError)
open Json

inductive WsConnectionState where
  | disconnected | connecting | connected | reconnecting
  deriving DecidableEq, Repr

/-- How a future of `connect` ends. -/
inductive Outcome where
  | connected
  /-- `WsAuthException`. -/
  | refused (code : String) (message : Option String)
  | disposed
  deriving DecidableEq, Repr

/-- `GameEvents.all`. -/
def gameEvents : List String :=
  ["game:match:phase", "game:shop:offer", "game:match:state", "game:combat:events", "game:match:damage",
    "game:match:end", "game:error"]

structure WsClient where
  state : WsConnectionState := .disconnected
  /-- The completers, oldest first: `_connectCompleter` is the last, whose future
  `connect` returns when it is not done at once. -/
  completers : List (Option Outcome) := []
  authFailed : Bool := false
  isDisposed : Bool := false
  /-- The events the transport has a handler for. -/
  handlers : List String := gameEvents
  latestEvents : Assoc String Record := []

/-- What the client does: what it adds to its streams, and what it asks of the
transport. -/
inductive Effect where
  | state (next : WsConnectionState)
  | event (name : String) (data : Record)
  | error (error : GameError)
  | connect
  | disconnect
  | dispose
  | emit (event : String) (data : Value)

/-- The calls of the client and the callbacks of the transport. -/
inductive Input where
  | connect
  | disconnect
  | dispose
  | emit (event : String) (data : Value)
  | stream (name : String)
  | onConnect
  | onDisconnect
  | onConnectError
  | onReconnectAttempt
  | message (name : String) (data : Value)

/-- `GameError.isAuth`. -/
def isAuth (error : GameError) : Bool := error.code.startsWith "auth."

namespace WsClient

variable (c : WsClient)

/-- `_connectCompleter` is not completed. -/
def pending : Bool := c.completers.getLast? == some none

/-- Completes `_connectCompleter`, unless it is completed. -/
def settle (outcome : Outcome) : WsClient :=
  if c.pending then { c with completers := c.completers.dropLast ++ [some outcome] } else c

def setState (next : WsConnectionState) : WsClient × List Effect :=
  if c.state = next ∨ c.isDisposed then (c, []) else ({ c with state := next }, [.state next])

def connect : WsClient × List Effect :=
  if c.isDisposed ∨ c.state = .connected ∨ c.pending then (c, [])
  else
    let (c, states) := { c with completers := c.completers ++ [none], authFailed := false }.setState .connecting
    (c, states ++ [.connect])

def disconnect : WsClient × List Effect :=
  if c.isDisposed then (c, [])
  else
    let (c, states) := c.setState .disconnected
    (c, .disconnect :: states)

def dispose : WsClient × List Effect :=
  if c.isDisposed then (c, [])
  else ({ c with isDisposed := true, latestEvents := [] }.settle .disposed, [.dispose])

def handleGameError (fields : Record) : WsClient × List Effect :=
  match Messages.GameError.fromJson fields with
  | none => (c, [])
  | some error =>
    let errors := if c.isDisposed then [] else [Effect.error error]
    if !isAuth error then (c, errors)
    else
      let (c, states) :=
        ({ c with authFailed := true }.settle (.refused error.code error.message)).setState .disconnected
      (c, errors ++ .disconnect :: states)

/-- The handler of an event. -/
def onMessage (name : String) : Value → WsClient × List Effect
  | .obj fields =>
    if name ∈ c.handlers then
      let c := { c with latestEvents := Assoc.set c.latestEvents name fields }
      let events := if c.isDisposed then [] else [Effect.event name fields]
      if name = "game:error" then
        let (c, effects) := c.handleGameError fields
        (c, events ++ effects)
      else (c, events)
    else (c, [])
  | _ => (c, [])

def step : Input → WsClient × List Effect
  | .connect => c.connect
  | .disconnect => c.disconnect
  | .dispose => c.dispose
  | .emit event data => (c, if c.isDisposed then [] else [.emit event data])
  | .stream name =>
    if c.isDisposed ∨ name ∈ c.handlers then (c, []) else ({ c with handlers := c.handlers ++ [name] }, [])
  | .onConnect =>
    let (c, states) := { c with authFailed := false }.setState .connected
    (c.settle .connected, states)
  | .onDisconnect =>
    if c.isDisposed ∨ c.authFailed ∨ c.state = .disconnected then (c, []) else c.setState .reconnecting
  | .onConnectError =>
    if c.isDisposed ∨ c.authFailed ∨ c.state ≠ .connecting then (c, []) else c.setState .reconnecting
  | .onReconnectAttempt => if c.isDisposed ∨ c.state = .connected then (c, []) else c.setState .reconnecting
  | .message name data => c.onMessage name data

end WsClient

/-- The client after these inputs, and all it did, oldest first. -/
def WsClient.run (c : WsClient) : List Input → WsClient × List Effect
  | [] => (c, [])
  | input :: inputs => (((c.step input).1.run inputs).1, (c.step input).2 ++ ((c.step input).1.run inputs).2)

/-! ## What the inputs amount to -/

/-- The refusal a message is. -/
def Input.refusal : Input → Option GameError
  | .message name (.obj fields) =>
    if name = "game:error" then (Messages.GameError.fromJson fields).filter isAuth else none
  | _ => none

def Input.isDispose : Input → Bool
  | .dispose => true
  | _ => false

/-- What tells whether the client is connected. -/
def Input.verdict (input : Input) : Option Bool :=
  match input with
  | .onConnect => some true
  | .onDisconnect | .disconnect => some false
  | _ => if input.refusal.isSome then some false else none

/-- How an input ends a pending future. -/
def Input.settles (input : Input) : Option Outcome :=
  match input with
  | .onConnect => some .connected
  | .dispose => some .disposed
  | _ => input.refusal.map fun error => .refused error.code error.message

/-- What a message brings for the streams of an event. -/
def Input.payload (name : String) : Input → Option Record
  | .message name' (.obj fields) => if name' = name then some fields else none
  | _ => none

/-- The last verdict before the client is disposed. -/
def lastVerdict (inputs : List Input) : Option Bool :=
  (inputs.takeWhile (!·.isDispose)).reverse.findSome? Input.verdict

def Effect.state? : Effect → Option WsConnectionState
  | .state next => some next
  | _ => none

/-- What the transport was last told. -/
def Effect.asks : Effect → Option Bool
  | .connect => some true
  | .disconnect => some false
  | _ => none

section
variable {c c' : WsClient} {input : Input} {inputs : List Input}

/-! ## The state -/

/-- The state changes at most once, and each change is told. -/
def Tells (c c' : WsClient) (effects : List Effect) : Prop :=
  (c'.state = c.state ∧ effects.filterMap Effect.state? = []) ∨
    (c'.state ≠ c.state ∧ effects.filterMap Effect.state? = [c'.state])

theorem setState_cases (c : WsClient) (next : WsConnectionState) :
    (c.setState next = (c, []) ∧ (c.state = next ∨ c.isDisposed = true)) ∨
      (c.setState next = ({ c with state := next }, [.state next]) ∧ c.state ≠ next ∧ c.isDisposed = false) := by
  unfold WsClient.setState
  split
  · next h => exact .inl ⟨rfl, h⟩
  · next h =>
    rw [not_or, Bool.not_eq_true] at h
    exact .inr ⟨rfl, h⟩

theorem setState_eq (c : WsClient) (next : WsConnectionState) :
    (c.setState next).1.state = if c.isDisposed then c.state else next := by
  obtain ⟨heq, hsame | hdisposed⟩ | ⟨heq, -, hopen⟩ := setState_cases c next
  · rw [heq, hsame, ite_self]
  · rw [heq, if_pos hdisposed]
  · rw [heq, hopen]
    rfl

@[simp] theorem setState_isDisposed (next : WsConnectionState) : (c.setState next).1.isDisposed = c.isDisposed := by
  obtain ⟨heq, -⟩ | ⟨heq, -, -⟩ := setState_cases c next <;> rw [heq]

@[simp] theorem setState_authFailed (next : WsConnectionState) : (c.setState next).1.authFailed = c.authFailed := by
  obtain ⟨heq, -⟩ | ⟨heq, -, -⟩ := setState_cases c next <;> rw [heq]

@[simp] theorem setState_completers (next : WsConnectionState) : (c.setState next).1.completers = c.completers := by
  obtain ⟨heq, -⟩ | ⟨heq, -, -⟩ := setState_cases c next <;> rw [heq]

@[simp] theorem setState_handlers (next : WsConnectionState) : (c.setState next).1.handlers = c.handlers := by
  obtain ⟨heq, -⟩ | ⟨heq, -, -⟩ := setState_cases c next <;> rw [heq]

@[simp] theorem setState_latestEvents (next : WsConnectionState) :
    (c.setState next).1.latestEvents = c.latestEvents := by
  obtain ⟨heq, -⟩ | ⟨heq, -, -⟩ := setState_cases c next <;> rw [heq]

@[simp] theorem setState_asks (next : WsConnectionState) : (c.setState next).2.filterMap Effect.asks = [] := by
  obtain ⟨heq, -⟩ | ⟨heq, -, -⟩ := setState_cases c next <;> rw [heq] <;> rfl

theorem setState_tells (c : WsClient) (next : WsConnectionState) : Tells c (c.setState next).1 (c.setState next).2 := by
  obtain ⟨heq, -⟩ | ⟨heq, hne, -⟩ := setState_cases c next
  · rw [heq]
    exact .inl ⟨rfl, rfl⟩
  · rw [heq]
    exact .inr ⟨hne.symm, rfl⟩

@[simp] theorem settle_state (outcome : Outcome) : (c.settle outcome).state = c.state := by
  unfold WsClient.settle
  split <;> rfl

@[simp] theorem settle_isDisposed (outcome : Outcome) : (c.settle outcome).isDisposed = c.isDisposed := by
  unfold WsClient.settle
  split <;> rfl

@[simp] theorem settle_authFailed (outcome : Outcome) : (c.settle outcome).authFailed = c.authFailed := by
  unfold WsClient.settle
  split <;> rfl

@[simp] theorem settle_handlers (outcome : Outcome) : (c.settle outcome).handlers = c.handlers := by
  unfold WsClient.settle
  split <;> rfl

@[simp] theorem settle_latestEvents (outcome : Outcome) : (c.settle outcome).latestEvents = c.latestEvents := by
  unfold WsClient.settle
  split <;> rfl

theorem settle_completers (c : WsClient) (outcome : Outcome) : (c.settle outcome).completers =
    if c.pending then c.completers.dropLast ++ [some outcome] else c.completers := by
  unfold WsClient.settle
  split <;> rfl

/-- The same changes, told the same way. -/
theorem Tells.of_same {c₀ : WsClient} {effects effects' : List Effect} (h : Tells c c' effects)
    (hstate : c₀.state = c.state) (htold : effects'.filterMap Effect.state? = effects.filterMap Effect.state?) :
    Tells c₀ c' effects' := by
  unfold Tells at h ⊢
  rwa [hstate, htold]

/-! ## A message -/

/-- Nothing the state or a future depends on. -/
structure Quiet (c c' : WsClient) (effects : List Effect) : Prop where
  state : c'.state = c.state
  authFailed : c'.authFailed = c.authFailed
  completers : c'.completers = c.completers
  isDisposed : c'.isDisposed = c.isDisposed
  handlers : ∀ name ∈ c.handlers, name ∈ c'.handlers
  told : effects.filterMap Effect.state? = []
  asks : effects.filterMap Effect.asks = []

theorem Quiet.refl (c : WsClient) : Quiet c c [] := ⟨rfl, rfl, rfl, rfl, fun _ hname => hname, rfl, rfl⟩

/-- A refusal: the pending future fails and the transport is told to stop. -/
structure Refuses (c c' : WsClient) (effects : List Effect) (error : GameError) : Prop where
  state : c'.state = if c.isDisposed then c.state else .disconnected
  completers : c'.completers = (c.settle (.refused error.code error.message)).completers
  isDisposed : c'.isDisposed = c.isDisposed
  handlers : ∀ name ∈ c.handlers, name ∈ c'.handlers
  tells : Tells c c' effects
  asks : effects.filterMap Effect.asks = [false]

theorem handleGameError_cases (c : WsClient) (fields : Record) :
    ((Messages.GameError.fromJson fields).filter isAuth = none ∧
        Quiet c (c.handleGameError fields).1 (c.handleGameError fields).2) ∨
      ∃ error, (Messages.GameError.fromJson fields).filter isAuth = some error ∧
        Refuses c (c.handleGameError fields).1 (c.handleGameError fields).2 error := by
  unfold WsClient.handleGameError
  cases hread : Messages.GameError.fromJson fields with
  | none => exact .inl ⟨rfl, rfl, rfl, rfl, rfl, fun _ h => h, rfl, rfl⟩
  | some error =>
    have hstates : (if c.isDisposed then [] else [Effect.error error]).filterMap Effect.state? = [] := by
      split <;> rfl
    have hasks : (if c.isDisposed then [] else [Effect.error error]).filterMap Effect.asks = [] := by
      split <;> rfl
    by_cases hauth : isAuth error = true
    · refine .inr ⟨error, by simp [hauth], ?_⟩
      dsimp only
      rw [if_neg (by simp [hauth])]
      refine ⟨?_, ?_, by simp, fun _ h => by simpa using h, ?_, ?_⟩
      · rw [setState_eq, settle_state, settle_isDisposed]
      · rw [setState_completers, settle_completers, settle_completers]
        rfl
      · refine (setState_tells _ _).of_same (by rw [settle_state]) ?_
        rw [List.filterMap_append, hstates]
        rfl
      · rw [List.filterMap_append, hasks, List.nil_append, List.filterMap_cons]
        exact congrArg (false :: ·) (setState_asks _)
    · refine .inl ⟨by simp [hauth], ?_⟩
      dsimp only
      rw [if_pos (by simp [hauth])]
      exact ⟨rfl, rfl, rfl, rfl, fun _ h => h, hstates, hasks⟩

theorem message_cases (hwired : "game:error" ∈ c.handlers) (name : String) (data : Value) :
    ((Input.message name data).refusal = none ∧ Quiet c (c.onMessage name data).1 (c.onMessage name data).2) ∨
      ∃ error, (Input.message name data).refusal = some error ∧
        Refuses c (c.onMessage name data).1 (c.onMessage name data).2 error := by
  cases data with
  | obj fields =>
    unfold WsClient.onMessage
    dsimp only [Input.refusal]
    have hevents : ∀ {β : Type} (f : Effect → Option β), (∀ data, f (.event name data) = none) →
        (if c.isDisposed then [] else [Effect.event name fields]).filterMap f = [] := by
      intro β f hf
      split
      · rfl
      · simp [hf]
    by_cases herror : name = "game:error"
    · subst herror
      rw [if_pos hwired, if_pos rfl, if_pos rfl]
      obtain ⟨hnone, hquiet⟩ | ⟨error, hsome, hrefuses⟩ := handleGameError_cases
        { c with latestEvents := Assoc.set c.latestEvents "game:error" fields } fields
      · refine .inl ⟨hnone, hquiet.state, hquiet.authFailed, hquiet.completers, hquiet.isDisposed, hquiet.handlers,
          ?_, ?_⟩
        · rw [List.filterMap_append, hevents _ fun _ => rfl, hquiet.told]
          rfl
        · rw [List.filterMap_append, hevents _ fun _ => rfl, hquiet.asks]
          rfl
      · refine .inr ⟨error, hsome, hrefuses.state, ?_, hrefuses.isDisposed, hrefuses.handlers, ?_, ?_⟩
        · rw [hrefuses.completers, settle_completers, settle_completers]
          rfl
        · refine hrefuses.tells.of_same rfl ?_
          rw [List.filterMap_append, hevents _ fun _ => rfl]
          rfl
        · rw [List.filterMap_append, hevents _ fun _ => rfl, hrefuses.asks]
          rfl
    · rw [if_neg herror]
      refine .inl ⟨rfl, ?_⟩
      split
      · exact ⟨rfl, rfl, rfl, rfl, fun _ h => h, hevents _ fun _ => rfl, hevents _ fun _ => rfl⟩
      · exact ⟨rfl, rfl, rfl, rfl, fun _ h => h, rfl, rfl⟩
  | _ => exact .inl ⟨rfl, rfl, rfl, rfl, rfl, fun _ h => h, rfl, rfl⟩

/-! ## One step -/

/-- What every client keeps to: the events of the game are heard, one that is
connected was not refused since, and one that is connected or disposed owes no
future. -/
structure Sound (c : WsClient) : Prop where
  heard : ∀ name ∈ gameEvents, name ∈ c.handlers
  welcome : c.isDisposed = false → c.state = .connected → c.authFailed = false
  connected : c.state = .connected → c.pending = false
  disposed : c.isDisposed = true → c.pending = false
  single : ∀ future ∈ c.completers.dropLast, future.isSome = true

theorem Sound.wired (h : Sound c) : "game:error" ∈ c.handlers := h.heard _ (by decide)

theorem fresh_sound : Sound {} := ⟨fun _ hname => hname, fun _ _ => rfl, fun _ => rfl, fun _ => rfl, by simp⟩

theorem owes (h : c.pending = true) : ∃ before, c.completers = before ++ [none] := by
  unfold WsClient.pending at h
  exact List.getLast?_eq_some_iff.1 (beq_iff_eq.1 h)

theorem Sound.ended (h : Sound c) (hpending : c.pending = false) : ∀ future ∈ c.completers, future.isSome = true := by
  intro future hmem
  have hne : c.completers ≠ [] := List.ne_nil_of_mem hmem
  rw [← List.dropLast_append_getLast hne, List.mem_append, List.mem_singleton] at hmem
  obtain hmem | rfl := hmem
  · exact h.single future hmem
  · unfold WsClient.pending at hpending
    rw [List.getLast?_eq_getLast_of_ne_nil hne] at hpending
    cases hlast : c.completers.getLast hne with
    | none => simp [hlast] at hpending
    | some outcome => rfl

theorem Tells.same (h : c.state = c'.state) {effects : List Effect} (htold : effects.filterMap Effect.state? = []) :
    Tells c c' effects := .inl ⟨h.symm, htold⟩

theorem pending_of_completers (h : c'.completers = c.completers) : c'.pending = c.pending := by
  unfold WsClient.pending
  rw [h]

theorem settle_of_not_pending (h : c.pending = false) (outcome : Outcome) : c.settle outcome = c := by
  unfold WsClient.settle
  rw [if_neg (by simp [h])]

theorem settle_pending (c : WsClient) (outcome : Outcome) : (c.settle outcome).pending = false := by
  unfold WsClient.settle
  split
  · simp [WsClient.pending]
  · next h => simpa using h

theorem refusal_of_verdict (h : input.verdict = none) : input.refusal = none := by
  cases hrefusal : input.refusal with
  | none => rfl
  | some error => cases input <;> simp [Input.verdict, hrefusal] at h

theorem eq_onConnect (h : input.verdict = some true) : input = .onConnect := by
  cases input with
  | onConnect => rfl
  | message name data =>
    simp only [Input.verdict] at h
    split at h <;> cases h
  | _ => cases h

theorem eq_dispose (h : input.isDispose = true) : input = .dispose := by
  cases input with
  | dispose => rfl
  | _ => cases h

theorem settles_of_refusal {error : GameError} (h : input.refusal = some error) :
    input.settles = some (.refused error.code error.message) := by
  cases input with
  | message name data => simp [Input.settles, h]
  | _ => cases h

theorem verdict_of_refusal {error : GameError} (h : input.refusal = some error) : input.verdict = some false := by
  cases input with
  | message name data => simp [Input.verdict, h]
  | _ => cases h

theorem isDispose_of_refusal {error : GameError} (h : input.refusal = some error) : input.isDispose = false := by
  cases input with
  | message name data => rfl
  | _ => cases h

/-- The state is set and told, unless the client was disposed. -/
structure Sets (c c' : WsClient) (effects : List Effect) (next : WsConnectionState) : Prop where
  state : c'.state = if c.isDisposed then c.state else next
  isDisposed : c'.isDisposed = c.isDisposed
  handlers : ∀ name ∈ c.handlers, name ∈ c'.handlers
  tells : Tells c c' effects

/-- Setting the state after the flags and the futures. -/
theorem sets_setState {base : WsClient} {next : WsConnectionState} {effects : List Effect}
    (hstate : base.state = c.state) (hdisposed : base.isDisposed = c.isDisposed) (hhandlers : base.handlers = c.handlers)
    (htold : effects.filterMap Effect.state? = (base.setState next).2.filterMap Effect.state?) :
    Sets c (base.setState next).1 effects next := by
  refine ⟨?_, (setState_isDisposed _).trans hdisposed, fun name hname => ?_,
    (setState_tells base next).of_same hstate.symm htold⟩
  · rw [setState_eq, hstate, hdisposed]
  · rw [setState_handlers, hhandlers]
    exact hname

theorem Sets.settle {effects : List Effect} {next : WsConnectionState} (h : Sets c c' effects next)
    (outcome : Outcome) : Sets c (c'.settle outcome) effects next := by
  refine ⟨(settle_state _).trans h.state, (settle_isDisposed _).trans h.isDisposed, fun name hname => ?_, ?_⟩
  · rw [settle_handlers]
    exact h.handlers name hname
  · have htells := h.tells
    unfold Tells at htells ⊢
    rwa [settle_state]

/-- What an input does to the state, the futures and the transport. -/
inductive Does (c : WsClient) : Input → WsClient → List Effect → Prop
  /-- A call that is refused, or one that is about something else. -/
  | quiet {input : Input} {c' : WsClient} {effects : List Effect} (h : Quiet c c' effects)
      (hsettles : input.settles = none) (hlive : input.isDispose = false)
      (hverdict : c.isDisposed = false → c.state = .connected → input.verdict = none)
      (hrefused : input = .connect → ¬(c.isDisposed = false ∧ c.state ≠ .connected ∧ c.pending = false)) :
      Does c input c' effects
  | disposes {c' : WsClient} {effects : List Effect} (hstate : c'.state = c.state)
      (hauth : c'.authFailed = c.authFailed) (hdisposed : c'.isDisposed = true)
      (hcompleters : c'.completers = (c.settle .disposed).completers)
      (hhandlers : ∀ name ∈ c.handlers, name ∈ c'.handlers)
      (htold : effects.filterMap Effect.state? = []) (hasks : effects.filterMap Effect.asks = []) :
      Does c .dispose c' effects
  | opens {c' : WsClient} {effects : List Effect} (hopen : c.isDisposed = false) (hdown : c.state ≠ .connected)
      (hpending : c.pending = false) (h : Sets c c' effects .connecting)
      (hcompleters : c'.completers = c.completers ++ [none]) (hauth : c'.authFailed = false)
      (hasks : effects.filterMap Effect.asks = [true]) : Does c .connect c' effects
  /-- The socket is closed, or the transport tries again. -/
  | drops {input : Input} {c' : WsClient} {effects : List Effect} {next : WsConnectionState}
      (h : Sets c c' effects next) (hnext : next ≠ .connected) (hcompleters : c'.completers = c.completers)
      (hauth : c'.authFailed = c.authFailed) (hasks : true ∉ effects.filterMap Effect.asks)
      (hsettles : input.settles = none) (hlive : input.isDispose = false)
      (hverdict : input.verdict = some false ∨ input.verdict = none ∧ c.state ≠ .connected)
      (hconnect : input ≠ .connect) : Does c input c' effects
  | connects {c' : WsClient} {effects : List Effect} (h : Sets c c' effects .connected)
      (hcompleters : c'.completers = (c.settle .connected).completers) (hauth : c'.authFailed = false)
      (hasks : effects.filterMap Effect.asks = []) : Does c .onConnect c' effects
  | refuses {input : Input} {c' : WsClient} {effects : List Effect} {error : GameError}
      (hrefusal : input.refusal = some error) (h : Refuses c c' effects error) : Does c input c' effects

theorem step_does (h : Sound c) (input : Input) : Does c input (c.step input).1 (c.step input).2 := by
  cases input with
  | connect =>
    simp only [WsClient.step, WsClient.connect]
    split
    · next hrefused =>
      exact .quiet (.refl c) rfl rfl (fun _ _ => rfl) fun _ hfree => by
        simp [hfree] at hrefused
    · next hfree =>
      rw [not_or, not_or, Bool.not_eq_true, Bool.not_eq_true] at hfree
      refine .opens hfree.1 hfree.2.1 hfree.2.2 (sets_setState rfl rfl rfl ?_) (setState_completers _)
        (setState_authFailed _) ?_
      · rw [List.filterMap_append]
        exact List.append_nil _
      · rw [List.filterMap_append, setState_asks]
        rfl
  | disconnect =>
    simp only [WsClient.step, WsClient.disconnect]
    split
    · next hgone =>
      exact .quiet (.refl c) rfl rfl (fun hopen _ => by simp [hopen] at hgone)
        (fun hinput => by cases hinput)
    · exact .drops (sets_setState rfl rfl rfl rfl) (by decide) (setState_completers _) (setState_authFailed _)
        (by simp [Effect.asks]) rfl rfl (.inl rfl) (fun hinput => by cases hinput)
  | dispose =>
    simp only [WsClient.step, WsClient.dispose]
    split
    · next hgone =>
      exact .disposes rfl rfl hgone (by rw [settle_of_not_pending (h.disposed hgone)]) (fun _ hname => hname) rfl rfl
    · refine .disposes (settle_state _) (settle_authFailed _) (settle_isDisposed _) ?_ (fun name hname => ?_) rfl rfl
      · rw [settle_completers, settle_completers]
        rfl
      · rw [settle_handlers]
        exact hname
  | emit event data =>
    refine .quiet ⟨rfl, rfl, rfl, rfl, fun _ hname => hname, ?_, ?_⟩ rfl rfl (fun _ _ => rfl) fun hinput => by
      cases hinput
    · simp only [WsClient.step]
      split <;> rfl
    · simp only [WsClient.step]
      split <;> rfl
  | stream name =>
    simp only [WsClient.step]
    split
    · exact .quiet (.refl c) rfl rfl (fun _ _ => rfl) fun hinput => by
        cases hinput
    · exact .quiet ⟨rfl, rfl, rfl, rfl, fun _ hname => List.mem_append_left _ hname, rfl, rfl⟩ rfl rfl
        (fun _ _ => rfl) fun hinput => by cases hinput
  | onConnect =>
    have hsets : Sets c ({ c with authFailed := false }.setState .connected).1
        ({ c with authFailed := false }.setState .connected).2 .connected := sets_setState rfl rfl rfl rfl
    simp only [WsClient.step]
    refine .connects (hsets.settle _) ?_ ?_ (setState_asks _)
    · rw [settle_completers, settle_completers, setState_completers, pending_of_completers (setState_completers _)]
      rfl
    · rw [settle_authFailed, setState_authFailed]
  | onDisconnect =>
    simp only [WsClient.step]
    split
    · next hstays =>
      refine .quiet (.refl c) rfl rfl (fun hopen hconnected => ?_)
        fun hinput => by cases hinput
      simp [hopen, h.welcome hopen hconnected, hconnected] at hstays
    · exact .drops (sets_setState rfl rfl rfl rfl) (by decide) (setState_completers _) (setState_authFailed _)
        (by simp) rfl rfl (.inl rfl) (fun hinput => by cases hinput)
  | onConnectError =>
    simp only [WsClient.step]
    split
    · exact .quiet (.refl c) rfl rfl (fun _ _ => rfl) fun hinput => by
        cases hinput
    · next hconnecting =>
      rw [not_or, not_or, not_not] at hconnecting
      exact .drops (sets_setState rfl rfl rfl rfl) (by decide) (setState_completers _) (setState_authFailed _)
        (by simp) rfl rfl (.inr ⟨rfl, by simp [hconnecting]⟩) (fun hinput => by cases hinput)
  | onReconnectAttempt =>
    simp only [WsClient.step]
    split
    · exact .quiet (.refl c) rfl rfl (fun _ _ => rfl) fun hinput => by
        cases hinput
    · next hdown =>
      rw [not_or] at hdown
      exact .drops (sets_setState rfl rfl rfl rfl) (by decide) (setState_completers _) (setState_authFailed _)
        (by simp) rfl rfl (.inr ⟨rfl, hdown.2⟩) (fun hinput => by cases hinput)
  | message name data =>
    obtain ⟨hnone, hquiet⟩ | ⟨error, hsome, hrefuses⟩ := message_cases h.wired name data
    · exact .quiet hquiet (by simp [Input.settles, hnone]) rfl (fun _ _ => by simp [Input.verdict, hnone])
        fun hinput => by cases hinput
    · exact .refuses hsome hrefuses

/-! ## What follows of a step -/

section
variable {effects : List Effect}

theorem Does.tells (h : Does c input c' effects) : Tells c c' effects := by
  cases h with
  | quiet h => exact .same h.state.symm h.told
  | disposes hstate _ _ _ _ htold => exact .same hstate.symm htold
  | opens _ _ _ h => exact h.tells
  | drops h => exact h.tells
  | connects h => exact h.tells
  | refuses _ h => exact h.tells

theorem Does.isDisposed (h : Does c input c' effects) : c'.isDisposed = (c.isDisposed || input.isDispose) := by
  cases h with
  | quiet h _ hlive => rw [h.isDisposed, hlive, Bool.or_false]
  | disposes _ _ hdisposed => exact hdisposed.trans (Bool.or_true _).symm
  | opens _ _ _ h => exact h.isDisposed.trans (Bool.or_false _).symm
  | drops h _ _ _ _ _ hlive => rw [h.isDisposed, hlive, Bool.or_false]
  | connects h => exact h.isDisposed.trans (Bool.or_false _).symm
  | refuses hrefusal h => rw [h.isDisposed, isDispose_of_refusal hrefusal, Bool.or_false]

theorem Does.handlers (h : Does c input c' effects) : ∀ name ∈ c.handlers, name ∈ c'.handlers := by
  cases h with
  | quiet h => exact h.handlers
  | disposes _ _ _ _ hhandlers => exact hhandlers
  | opens _ _ _ h => exact h.handlers
  | drops h => exact h.handlers
  | connects h => exact h.handlers
  | refuses _ h => exact h.handlers

/-- The state of a client that was disposed stays. -/
theorem Does.state_of_disposed (h : Does c input c' effects) (hgone : c.isDisposed = true) : c'.state = c.state := by
  cases h with
  | quiet h => exact h.state
  | disposes hstate => exact hstate
  | opens hopen =>
    rw [hgone] at hopen
    cases hopen
  | drops h => exact h.state.trans (if_pos hgone)
  | connects h => exact h.state.trans (if_pos hgone)
  | refuses _ h => exact h.state.trans (if_pos hgone)

/-- Connected is what the input says, or what the client was. -/
theorem Does.connected (h : Does c input c' effects) (hopen : c.isDisposed = false) :
    c'.state = .connected ↔ input.verdict = some true ∨ input.verdict = none ∧ c.state = .connected := by
  have hset : ∀ next : WsConnectionState, (if c.isDisposed then c.state else next) = next := fun next =>
    if_neg (by simp [hopen])
  cases h with
  | quiet h hsettles _ hverdict =>
    rw [h.state]
    refine ⟨fun hconnected => .inr ⟨hverdict hopen hconnected, hconnected⟩, fun hsays => ?_⟩
    obtain hsays | hsays := hsays
    · rw [eq_onConnect hsays] at hsettles
      cases hsettles
    · exact hsays.2
  | disposes hstate =>
    rw [hstate]
    simp [Input.verdict, Input.refusal]
  | opens _ hdown _ h =>
    rw [h.state, hset]
    simp [Input.verdict, Input.refusal, hdown]
  | drops h hnext _ _ _ _ _ hverdict =>
    rw [h.state, hset]
    refine iff_of_false hnext fun hsays => ?_
    obtain hfalse | ⟨hnone, hdown⟩ := hverdict
    · simp [hfalse] at hsays
    · simp [hnone, hdown] at hsays
  | connects h =>
    rw [h.state, hset]
    simp [Input.verdict]
  | refuses hrefusal h =>
    rw [h.state, hset, verdict_of_refusal hrefusal]
    simp

/-- An input that settles settles the last future. -/
theorem Does.settles (h : Does c input c' effects) {outcome : Outcome} (houtcome : input.settles = some outcome) :
    c'.completers = (c.settle outcome).completers := by
  cases h with
  | quiet _ hsettles =>
    rw [hsettles] at houtcome
    cases houtcome
  | disposes _ _ _ hcompleters =>
    cases houtcome
    exact hcompleters
  | opens => cases houtcome
  | drops _ _ _ _ _ hsettles =>
    rw [hsettles] at houtcome
    cases houtcome
  | connects _ hcompleters =>
    cases houtcome
    exact hcompleters
  | refuses hrefusal h =>
    rw [settles_of_refusal hrefusal] at houtcome
    cases houtcome
    exact h.completers

/-- Another one leaves the futures alone, but for a call of `connect` that
makes one. -/
theorem Does.waits (h : Does c input c' effects) (hwaits : input.settles = none) :
    c'.completers = c.completers ∨
      (c'.completers = c.completers ++ [none] ∧ c.pending = false ∧ c.isDisposed = false ∧
        c'.state = .connecting) := by
  cases h with
  | quiet h => exact .inl h.completers
  | disposes => cases hwaits
  | opens hopen _ hpending h hcompleters =>
    exact .inr ⟨hcompleters, hpending, hopen, h.state.trans (if_neg (by simp [hopen]))⟩
  | drops _ _ hcompleters => exact .inl hcompleters
  | connects => cases hwaits
  | refuses hrefusal =>
    rw [settles_of_refusal hrefusal] at hwaits
    cases hwaits

/-- Nothing but a refusal fails the authentication. -/
theorem Does.authFailed (h : Does c input c' effects) (hrefusal : input.refusal = none)
    (hfailed : c'.authFailed = true) : c.authFailed = true := by
  cases h with
  | quiet h => exact h.authFailed.symm.trans hfailed
  | disposes _ hauth => exact hauth.symm.trans hfailed
  | opens _ _ _ _ _ hauth =>
    rw [hauth] at hfailed
    cases hfailed
  | drops _ _ _ hauth => exact hauth.symm.trans hfailed
  | connects _ _ hauth =>
    rw [hauth] at hfailed
    cases hfailed
  | refuses hsome =>
    rw [hrefusal] at hsome
    cases hsome

/-- Only a call of `connect` reaches the transport, and not while a future is owed. -/
theorem Does.asks (h : Does c input c' effects) : true ∈ effects.filterMap Effect.asks ↔
    input = .connect ∧ c.isDisposed = false ∧ c.state ≠ .connected ∧ c.pending = false := by
  cases h with
  | quiet h _ _ _ hrefused =>
    rw [h.asks]
    exact iff_of_false List.not_mem_nil fun hasked => hrefused hasked.1 hasked.2
  | disposes _ _ _ _ _ _ hasks =>
    rw [hasks]
    simp
  | opens hopen hdown hpending _ _ _ hasks =>
    rw [hasks]
    simp [hopen, hdown, hpending]
  | drops _ _ _ _ hasks _ _ _ hconnect => exact iff_of_false hasks fun hasked => hconnect hasked.1
  | connects _ _ _ hasks =>
    rw [hasks]
    simp
  | refuses hrefusal h =>
    rw [h.asks]
    refine iff_of_false (by simp) fun hasked => ?_
    rw [hasked.1] at hrefusal
    cases hrefusal

end

/-- A future is owed after a step that settles none: it was owed before, or
the step made it. -/
theorem step_pending (h : Sound c) (hpending : (c.step input).1.pending = true) :
    input.settles = none ∧ c.isDisposed = false ∧ (c.pending = true ∨ (c.step input).1.state = .connecting) := by
  cases hsettles : input.settles with
  | some outcome =>
    rw [pending_of_completers ((step_does h input).settles hsettles), settle_pending] at hpending
    cases hpending
  | none =>
    obtain hsame | ⟨-, -, hopen, hconnecting⟩ := (step_does h _).waits hsettles
    · rw [pending_of_completers hsame] at hpending
      refine ⟨rfl, ?_, .inl hpending⟩
      by_contra hgone
      rw [h.disposed (by simpa using hgone)] at hpending
      cases hpending
    · exact ⟨rfl, hopen, .inr hconnecting⟩

/-- All futures but the last have ended. -/
theorem step_single (h : Sound c) (input : Input) :
    ∀ future ∈ (c.step input).1.completers.dropLast, future.isSome = true := by
  cases hsettles : input.settles with
  | some outcome =>
    rw [(step_does h _).settles hsettles, settle_completers]
    split
    · rw [List.dropLast_concat]
      exact h.single
    · exact h.single
  | none =>
    obtain hsame | ⟨hmore, hpending, -⟩ := (step_does h _).waits hsettles
    · rw [hsame]
      exact h.single
    · rw [hmore, List.dropLast_concat]
      exact h.ended hpending

theorem Sound.step (h : Sound c) (input : Input) : Sound (c.step input).1 := by
  have hdisposed := (step_does h input).isDisposed
  refine ⟨fun name hname => (step_does h input).handlers name (h.heard name hname), fun hopen hconnected => ?_,
    fun hconnected => ?_, fun hgone => ?_, step_single h input⟩
  · rw [hdisposed, Bool.or_eq_false_iff] at hopen
    obtain hverdict | ⟨hverdict, hwas⟩ := ((step_does h input).connected hopen.1).1 hconnected
    · rw [eq_onConnect hverdict]
      simp [WsClient.step]
    · by_contra hfailed
      have := (step_does h input).authFailed (refusal_of_verdict hverdict) (by simpa using hfailed)
      rw [h.welcome hopen.1 hwas] at this
      cases this
  · by_contra hpending
    obtain ⟨hsettles, hopen, hwas⟩ := step_pending h (by simpa using hpending)
    rw [hconnected] at hwas
    obtain hwas | hwas := hwas
    · obtain hverdict | ⟨-, hstate⟩ := ((step_does h input).connected hopen).1 hconnected
      · rw [eq_onConnect hverdict] at hsettles
        cases hsettles
      · rw [h.connected hstate] at hwas
        cases hwas
    · cases hwas
  · by_contra hpending
    obtain ⟨hsettles, hopen, -⟩ := step_pending h (by simpa using hpending)
    rw [hdisposed, hopen, Bool.false_or] at hgone
    rw [eq_dispose hgone] at hsettles
    cases hsettles

/-! ## Runs -/

theorem Sound.run (h : Sound c) (inputs : List Input) : Sound (c.run inputs).1 := by
  induction inputs generalizing c with
  | nil => exact h
  | cons input inputs ih => exact ih (h.step input)

/-- The states told, one after another, never twice the same. -/
theorem run_states (h : Sound c) (inputs : List Input) :
    List.IsChain (· ≠ ·) (c.state :: (c.run inputs).2.filterMap Effect.state?) ∧
      (c.state :: (c.run inputs).2.filterMap Effect.state?).getLast? = some (c.run inputs).1.state := by
  induction inputs generalizing c with
  | nil => exact ⟨List.IsChain.singleton _, rfl⟩
  | cons input inputs ih =>
    have ih := ih (h.step input)
    simp only [WsClient.run, List.filterMap_append]
    obtain ⟨hsame, htold⟩ | ⟨hne, htold⟩ := (step_does h input).tells
    · rw [htold, List.nil_append, ← hsame]
      exact ih
    · rw [htold]
      exact ⟨List.isChain_cons_cons.2 ⟨hne.symm, ih.1⟩, ih.2⟩

theorem disposed_state (h : Sound c) (hgone : c.isDisposed = true) (inputs : List Input) :
    (c.run inputs).1.state = c.state := by
  induction inputs generalizing c with
  | nil => rfl
  | cons input inputs ih =>
    have hstays : (c.step input).1.isDisposed = true := by rw [(step_does h input).isDisposed, hgone, Bool.true_or]
    exact (ih (h.step input) hstays).trans ((step_does h input).state_of_disposed hgone)

theorem lastVerdict_of_dispose (h : input.isDispose = true) : lastVerdict (input :: inputs) = none := by
  unfold lastVerdict
  rw [List.takeWhile_cons_of_neg (by simp [h])]
  rfl

theorem lastVerdict_cons (h : input.isDispose = false) :
    lastVerdict (input :: inputs) = (lastVerdict inputs).or input.verdict := by
  unfold lastVerdict
  rw [List.takeWhile_cons_of_pos (by simp [h]), List.reverse_cons, List.findSome?_append]
  cases hverdict : input.verdict <;> simp [hverdict]

/-- Connected is a client whose last verdict is a connect. -/
theorem run_connected (h : Sound c) (hopen : c.isDisposed = false) (inputs : List Input) :
    (c.run inputs).1.state = .connected ↔ (lastVerdict inputs).getD (c.state == .connected) = true := by
  induction inputs generalizing c with
  | nil => simp [WsClient.run, lastVerdict]
  | cons input inputs ih =>
    have hstep := (step_does h input).connected hopen
    have hdisposed := (step_does h input).isDisposed
    rw [hopen, Bool.false_or] at hdisposed
    cases hlast : input.isDispose with
    | true =>
      rw [hlast] at hdisposed
      rw [lastVerdict_of_dispose hlast, WsClient.run, disposed_state (h.step input) hdisposed, hstep, eq_dispose hlast]
      simp [Input.verdict, Input.refusal]
    | false =>
      rw [hlast] at hdisposed
      have hverdict : ((c.step input).1.state == .connected) = input.verdict.getD (c.state == .connected) := by
        rw [Bool.eq_iff_iff, beq_iff_eq, hstep]
        cases input.verdict <;> simp
      rw [lastVerdict_cons hlast, WsClient.run, ih (h.step input) hdisposed, hverdict]
      cases lastVerdict inputs <;> simp

/-! ## The futures -/

/-- What becomes of the futures with an input: the one that is owed ends as the
input says, and the ended ones stay. -/
theorem step_futures (h : Sound c) (input : Input) :
    (c.step input).1.completers.take c.completers.length = c.completers.map fun future => future.or input.settles := by
  cases hsettles : input.settles with
  | some outcome =>
    rw [(step_does h _).settles hsettles, settle_completers]
    split
    · next hpending =>
      obtain ⟨before, hsplit⟩ := owes hpending
      have hended : ∀ future ∈ before, future.or (some outcome) = future := fun future hmem => by
        obtain ⟨ended, rfl⟩ := Option.isSome_iff_exists.1 (h.single future (by simpa [hsplit] using hmem))
        rfl
      rw [hsplit, List.dropLast_concat, List.map_append, List.map_congr_left hended, List.map_id', List.length_append,
        List.take_of_length_le (by simp)]
      rfl
    · next hpending =>
      have hended : ∀ future ∈ c.completers, future.or (some outcome) = future := fun future hmem => by
        obtain ⟨ended, rfl⟩ := Option.isSome_iff_exists.1 (h.ended (by simpa using hpending) future hmem)
        rfl
      rw [List.map_congr_left hended, List.map_id', List.take_length]
  | none =>
    simp only [Option.or_none, List.map_id']
    obtain hsame | ⟨hmore, -⟩ := (step_does h _).waits hsettles
    · rw [hsame, List.take_length]
    · rw [hmore, List.take_left]

theorem run_futures (h : Sound c) (inputs : List Input) :
    (c.run inputs).1.completers.take c.completers.length =
      c.completers.map fun future => future.or (inputs.findSome? Input.settles) := by
  induction inputs generalizing c with
  | nil => simp [WsClient.run]
  | cons input inputs ih =>
    have hstep := step_futures h input
    have hlength : c.completers.length ≤ (c.step input).1.completers.length := by
      have := congrArg List.length hstep
      rw [List.length_take, List.length_map] at this
      omega
    have ih := congrArg (List.take c.completers.length) (ih (h.step input))
    rw [List.take_take, Nat.min_eq_left hlength, ← List.map_take, hstep, List.map_map] at ih
    rw [WsClient.run, ih, List.findSome?_cons]
    refine List.map_congr_left fun future _ => ?_
    cases future <;> cases input.settles <;> rfl

/-! ## What reaches the transport -/

/-- A future stays owed until something settles it. -/
theorem step_owes (h : Sound c) (hpending : c.pending = true) (hsettles : input.settles = none) :
    (c.step input).1.pending = true := by
  obtain hsame | ⟨-, hfree, -⟩ := (step_does h _).waits hsettles
  · rw [pending_of_completers hsame, hpending]
  · rw [hpending] at hfree
    cases hfree

theorem run_asks (h : Sound c) (hpending : c.pending = true) (hsettles : inputs.findSome? Input.settles = none) :
    true ∉ (c.run inputs).2.filterMap Effect.asks := by
  induction inputs generalizing c with
  | nil => simp [WsClient.run]
  | cons input inputs ih =>
    rw [List.findSome?_cons] at hsettles
    cases hinput : input.settles with
    | some outcome =>
      rw [hinput] at hsettles
      cases hsettles
    | none =>
      rw [hinput] at hsettles
      rw [WsClient.run, List.filterMap_append, List.mem_append, not_or]
      refine ⟨fun hasks => ?_, ih (h.step input) (step_owes h hpending hinput) hsettles⟩
      obtain ⟨-, -, -, hfree⟩ := (step_does h input).asks.1 hasks
      rw [hpending] at hfree
      cases hfree

/-- A call of `connect` on a client that is neither disposed nor connected is
owed its answer. -/
theorem connect_owes (h : Sound c) :
    (c.step .connect).1.pending = true ↔ c.isDisposed = false ∧ c.state ≠ .connected := by
  constructor
  · intro hpending
    obtain ⟨-, hopen, hwas⟩ := step_pending h hpending
    refine ⟨hopen, fun hconnected => ?_⟩
    have hsame : (c.step .connect).1 = c := by
      simp only [WsClient.step, WsClient.connect]
      rw [if_pos (.inr (.inl hconnected))]
    rw [hsame, h.connected hconnected] at hpending
    cases hpending
  · intro hfree
    simp only [WsClient.step, WsClient.connect]
    by_cases hpending : c.pending = true
    · rw [if_pos (.inr (.inr hpending)), hpending]
    · rw [if_neg (by simp [hfree, hpending]), pending_of_completers (setState_completers _)]
      simp [WsClient.pending]

/-! ## The latest payloads -/

theorem handleGameError_latestEvents (c : WsClient) (fields : Record) :
    (c.handleGameError fields).1.latestEvents = c.latestEvents := by
  unfold WsClient.handleGameError
  split
  · rfl
  · dsimp only
    split
    · rfl
    · rw [setState_latestEvents, settle_latestEvents]

/-- A payload replaces the one before it of its event, and no other. -/
theorem step_latest (hlive : input.isDispose = false) {name : String} (hname : name ∈ c.handlers) :
    Assoc.get (c.step input).1.latestEvents name = (input.payload name).or (Assoc.get c.latestEvents name) := by
  cases input with
  | connect =>
    simp only [WsClient.step, WsClient.connect]
    split
    · rfl
    · rw [setState_latestEvents]
      rfl
  | disconnect =>
    simp only [WsClient.step, WsClient.disconnect]
    split
    · rfl
    · rw [setState_latestEvents]
      rfl
  | dispose => cases hlive
  | emit event data => rfl
  | stream other =>
    simp only [WsClient.step]
    split <;> rfl
  | onConnect =>
    simp only [WsClient.step]
    rw [settle_latestEvents, setState_latestEvents]
    rfl
  | message other data =>
    cases data with
    | obj fields =>
      simp only [WsClient.step, WsClient.onMessage, Input.payload]
      by_cases hother : other = name
      · subst hother
        rw [if_pos hname, if_pos rfl]
        split
        · rw [handleGameError_latestEvents, Assoc.get_set_self]
          rfl
        · rw [Assoc.get_set_self]
          rfl
      · rw [if_neg hother, Option.none_or]
        split
        · split
          · rw [handleGameError_latestEvents, Assoc.get_set_of_ne (Ne.symm hother)]
          · rw [Assoc.get_set_of_ne (Ne.symm hother)]
        · rfl
    | _ => rfl
  | _ =>
    simp only [WsClient.step]
    split
    · rfl
    · rw [setState_latestEvents]
      rfl

theorem run_latest (h : Sound c) (hlive : ∀ input ∈ inputs, input.isDispose = false) {name : String}
    (hname : name ∈ gameEvents) : Assoc.get (c.run inputs).1.latestEvents name =
      (inputs.reverse.findSome? (Input.payload name)).or (Assoc.get c.latestEvents name) := by
  induction inputs generalizing c with
  | nil => rfl
  | cons input inputs ih =>
    have hinput := hlive input List.mem_cons_self
    have ih := ih (h.step input) fun input' hmem => hlive input' (List.mem_cons_of_mem _ hmem)
    rw [WsClient.run, ih, step_latest hinput (h.heard name hname), List.reverse_cons, List.findSome?_append]
    cases inputs.reverse.findSome? (Input.payload name) <;> cases hpayload : input.payload name <;> simp [hpayload]

/-- What a client keeps to from one moment of its life on. -/
structure Kept (c : WsClient) (inputs : List Input) : Prop where
  /-- Each change of state is told, and nothing else is. -/
  told : List.IsChain (· ≠ ·) (c.state :: (c.run inputs).2.filterMap Effect.state?) ∧
    (c.state :: (c.run inputs).2.filterMap Effect.state?).getLast? = some (c.run inputs).1.state
  /-- The last of the connects, the drops, the calls of `disconnect` and the
  refusals before the disposal says whether the client is connected. -/
  connected : c.isDisposed = false → ((c.run inputs).1.state = .connected ↔
    (lastVerdict inputs).getD (c.state == .connected) = true)
  /-- What `connect` returns is owed, unless the client is connected or disposed. -/
  owed : (c.step .connect).1.pending = true ↔ c.isDisposed = false ∧ c.state ≠ .connected
  /-- A future ends with the first connect, refusal or disposal. -/
  futures : (c.run inputs).1.completers.take c.completers.length =
    c.completers.map fun future => future.or (inputs.findSome? Input.settles)
  /-- Until then no call of `connect` reaches the transport, not even one that
  comes after the transport was told to disconnect. -/
  unheard : c.pending = true → inputs.findSome? Input.settles = none →
    true ∉ (c.run inputs).2.filterMap Effect.asks
  /-- `streamLatest` begins with the last payload of its event. -/
  latest : (∀ input ∈ inputs, input.isDispose = false) → ∀ name ∈ gameEvents,
    Assoc.get (c.run inputs).1.latestEvents name =
      (inputs.reverse.findSome? (Input.payload name)).or (Assoc.get c.latestEvents name)

/-- **The life of a connection.** Whatever calls and callbacks have come before,
the client keeps to the state it tells, to its verdicts, to its futures and to
the latest payloads. -/
theorem run_client (before inputs : List Input) : Kept (({} : WsClient).run before).1 inputs := by
  have h : Sound (({} : WsClient).run before).1 := fresh_sound.run before
  exact ⟨run_states h inputs, fun hopen => run_connected h hopen inputs, connect_owes h, run_futures h inputs,
    fun hpending => run_asks h hpending, fun hlive name hname => run_latest h hlive hname⟩

example : ((({} : WsClient).run [.connect, .disconnect, .connect]).2.filterMap Effect.asks) = [true, false] := rfl

end

end AutoChess.Connection
