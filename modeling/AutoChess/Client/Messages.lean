/-
Every message of a match, from the server's object to what the client makes of
it. Each payload the runtime publishes is read back as the value it was built
from, in every field the client's classes declare; a unit's `investedGold` has
none there and is not read.
-/
import AutoChess.Client.Converges
import AutoChess.Client.Decode

namespace AutoChess.Messages

open AutoChess.Runtime (Slots StatePayload PhasePayload DamagePayload MatchPhase MatchEndReason Payload sideName)
open AutoChess.Codec (unitText unitValue entryValue summaryValue boardSummary)
open AutoChess.Game (Side)
open Json

/-! ## The server's objects -/

def phaseFields (payload : PhasePayload) : Record :=
  [("matchId", .str payload.matchId), ("phase", .str payload.phase.text), ("round", nat payload.round),
    ("timer", nat payload.timer),
    ("players", .arr (payload.players.map fun p =>
      .obj [("id", .str p.id), ("username", .str p.username), ("hp", int p.hp), ("gold", int p.gold),
        ("ready", .bool p.ready)]))]

def summary (board : Runtime.OpponentBoardSummary) : Value := summaryValue (boardSummary board)

def rosterFields (roster : Runtime.RosterView) : Record :=
  [("username", .str roster.username), ("board", .arr (roster.board.map entryValue)),
    ("bench", .arr (roster.bench.map entryValue)), ("gold", int roster.gold), ("hp", int roster.hp)]

def opponentFields (opponent : Runtime.OpponentView) : Record :=
  [("username", .str opponent.username), ("gold", int opponent.gold), ("hp", int opponent.hp),
    ("scoutRound", nullable nat opponent.scoutRound), ("boardSummary", summary opponent.boardSummary),
    ("battleBoardSummary", nullable summary opponent.battleBoardSummary)]

def stateFields (payload : StatePayload) : Record :=
  [("matchId", .str payload.matchId), ("round", nat payload.round), ("yourSide", .str (sideName payload.yourSide)),
    ("roster", .obj (rosterFields payload.roster)), ("opponent", .obj (opponentFields payload.opponent)),
    ("readyCount", nat payload.readyCount)]

def offerFields (offer : Shop.ShopOffer) : Record :=
  [("offerId", .str offer.offerId), ("unitId", .str (unitText offer.unitId)), ("star", nat offer.star)]

def offersFields (matchId : String) (round : Nat) (offers : List (Option Shop.ShopOffer)) : Record :=
  [("matchId", .str matchId), ("round", nat round),
    ("offers", .arr (offers.map (nullable fun offer => .obj (offerFields offer))))]

def sideDamageFields (side : Runtime.SideDamage) : Record :=
  [("wiped", .bool side.wiped), ("tie", .bool side.tie), ("hpBefore", int side.hpBefore), ("hpAfter", int side.hpAfter),
    ("damageApplied", nat side.damageApplied)]

/-- `winner ?? 'tie'`. -/
def outcomeText (winner : Option Side) : String := (winner.map sideName).getD "tie"

def damageFields (payload : DamagePayload) : Record :=
  [("matchId", .str payload.matchId), ("round", nat payload.round),
    ("damage", .obj [("p1", .obj (sideDamageFields payload.p1)), ("p2", .obj (sideDamageFields payload.p2))]),
    ("winner", .str (outcomeText payload.winner))]

def reasonText : MatchEndReason → String
  | .hp_zero => "hp_zero"
  | .forfeit => "forfeit"
  | .disconnect => "disconnect"

def finalFields (final : Int × Int) : Record := [("hp", int final.1), ("gold", int final.2)]

def ratingFields (change : Runtime.RatingChange) : Record :=
  [("before", int change.before), ("after", int change.after), ("delta", int change.delta)]

def endFields (matchId : String) (winnerId : Option String) (reason : MatchEndReason) (finalP1 finalP2 : Int × Int)
    (rating : Option (Runtime.RatingChange × Runtime.RatingChange)) : Record :=
  [("matchId", .str matchId), ("winnerId", nullable .str winnerId), ("reason", .str (reasonText reason)),
    ("final", .obj [("p1", .obj (finalFields finalP1)), ("p2", .obj (finalFields finalP2))]),
    ("rating", nullable (fun changes => .obj [("p1", .obj (ratingFields changes.1)),
      ("p2", .obj (ratingFields changes.2))]) rating)]

/-- The combat events of a round; `endedAt` is the server's clock. -/
def combatFields (matchId : String) (round cycleCount : Nat) (events : List Game.CombatEvent) (endedAt : Int) : Record :=
  [("matchId", .str matchId), ("round", nat round), ("cycleCount", nat cycleCount), ("endedAt", int endedAt),
    ("events", .arr (events.map fun e => .obj (eventFields e)))]

def boardsFields (initialP1 initialP2 : Slots) : Record :=
  [("initialBoard", .obj [("p1", .arr (initialP1.map entryValue)), ("p2", .arr (initialP2.map entryValue))])]

/-- `GameErrorEnvelope`. -/
structure GameErrorEnvelope where
  code : String
  message : String
  clientActionId : Option String

def errorFields (envelope : GameErrorEnvelope) : Record :=
  [("code", .str envelope.code), ("message", .str envelope.message)] ++
    (envelope.clientActionId.map fun id => ("clientActionId", .str id)).toList

/-- The event name and the object of a publication. -/
def encode (endedAt : Int) : Payload → String × Record
  | .phase payload => ("game:match:phase", phaseFields payload)
  | .state payload => ("game:match:state", stateFields payload)
  | .offers matchId round offers => ("game:shop:offer", offersFields matchId round offers)
  | .damage payload => ("game:match:damage", damageFields payload)
  | .combatEvents matchId round cycleCount events initialP1 initialP2 =>
    ("game:combat:events", combatFields matchId round cycleCount events endedAt ++ boardsFields initialP1 initialP2)
  | .matchEnd matchId winnerId reason finalP1 finalP2 rating =>
    ("game:match:end", endFields matchId winnerId reason finalP1 finalP2 rating)

/-! ## Reading in the client -/

/-- `value as List?`. -/
def asList? : Option Value → Option (Option (List Value))
  | none | some .null => some none
  | some (.arr elems) => some (some elems)
  | some _ => none

/-- `value as Map?`. -/
def asMap? : Option Value → Option (Option Record)
  | none | some .null => some none
  | some (.obj fields) => some (some fields)
  | some _ => none

/-- `raw[i]`, where it is a map. -/
def entryAt (raw : List Value) (i : Nat) : Option Record :=
  match raw[i]? with
  | some (.obj fields) => some fields
  | _ => none

/-- `List.generate(length, …)` over the entries that are maps. -/
def slots {α : Type} (read : Record → Option α) (raw : List Value) (length : Nat) : Option (List (Option α)) :=
  (List.range length).mapM fun i =>
    match entryAt raw i with
    | some fields => (read fields).map some
    | none => some none

def listOr : Option Value → List Value
  | some (.arr elems) => elems
  | _ => []

variable (j : Record)

def isTrue (k : String) : Bool :=
  match Assoc.get j k with
  | some (.bool b) => b
  | _ => false

def gamePhaseOf : Option String → Client.GamePhase
  | some "shop_place" => .shopPlace
  | some "battle" => .battle
  | some "resolved" => .resolved
  | some "finished" => .finished
  | _ => .unknown

def PhasePlayer.fromJson : Option Client.PhasePlayer := do
  return {
    id := ← string j "id"
    username := ← string? j "username"
    hp := ← readInt j "hp"
    gold := ← readInt j "gold"
    ready := isTrue j "ready" }

def MatchPhaseEvent.fromJson : Option Client.MatchPhaseEvent := do
  let raw := (← asList? (Assoc.get j "players")).getD []
  return {
    matchId := ← string j "matchId"
    phase := gamePhaseOf (← string? j "phase")
    round := ← readNat j "round"
    timer := ← readNat j "timer"
    players := ← (maps raw).mapM PhasePlayer.fromJson }

def Unit.fromJson : Option Client.Unit := do
  return {
    instanceId := ← string j "instanceId"
    unitId := unitIdOf (← string? j "unitId")
    star := ← readNat j "star"
    hp := ← readInt j "hp"
    maxHp := ← readInt j "maxHp" }

def Unit.slotsFromJson (raw : Option Value) (length : Nat) : Option (List (Option Client.Unit)) :=
  slots Unit.fromJson (listOr raw) length

def PlayerRoster.fromJson : Option Client.PlayerRoster := do
  return {
    username := ← string? j "username"
    board := ← Unit.slotsFromJson (Assoc.get j "board") 9
    bench := ← Unit.slotsFromJson (Assoc.get j "bench") 8
    gold := ← readInt j "gold"
    hp := ← readInt j "hp" }

def OpponentUnit.fromJson : Option Client.OpponentUnit := do
  return { unitId := unitIdOf (← string? j "unitId"), star := ← readNat j "star" }

def opponentSlots (raw : List Value) : Option (List (Option Client.OpponentUnit)) := slots OpponentUnit.fromJson raw 9

def battleBoardOf : Option Value → Option (Option (List (Option Client.OpponentUnit)))
  | some (.arr raw) => (opponentSlots raw).map some
  | _ => some none

def OpponentView.fromJson : Option Client.OpponentView := do
  let raw := (← asList? (Assoc.get j "boardSummary")).getD []
  return {
    username := ← string? j "username"
    gold := ← readInt j "gold"
    hp := ← readInt j "hp"
    scoutRound := (← int? j "scoutRound").map Int.toNat
    boardSummary := ← opponentSlots raw
    battleBoardSummary := ← battleBoardOf (Assoc.get j "battleBoardSummary") }

def MatchState.fromJson : Option Client.MatchState := do
  let roster := (← asMap? (Assoc.get j "roster")).getD []
  let opponent := (← asMap? (Assoc.get j "opponent")).getD []
  return {
    matchId := ← string j "matchId"
    round := ← readNat j "round"
    yourSide := sideOf (← string? j "yourSide")
    roster := ← PlayerRoster.fromJson roster
    opponent := ← OpponentView.fromJson opponent
    readyCount := ← readInt j "readyCount" }

def ShopOffer.fromJson : Option Client.ShopOffer := do
  return { offerId := ← string j "offerId", unitId := unitIdOf (← string? j "unitId"), star := ← readNat j "star" }

/-- Every entry of `offers`; one that is no map is no offer. -/
def offerOf : Value → Option (Option Client.ShopOffer)
  | .obj fields => (ShopOffer.fromJson fields).map some
  | _ => some none

def ShopOffersEvent.fromJson : Option Client.ShopOffersEvent := do
  let raw := (← asList? (Assoc.get j "offers")).getD []
  return { matchId := ← string j "matchId", round := ← readNat j "round", offers := ← raw.mapM offerOf }

def SideDamage.fromJson : Option Client.SideDamage := do
  return {
    wiped := isTrue j "wiped"
    tie := isTrue j "tie"
    hpBefore := ← readInt j "hpBefore"
    hpAfter := ← readInt j "hpAfter"
    damageApplied := ← readInt j "damageApplied" }

def outcomeOf : Option String → Option Client.RoundOutcome
  | some "p1" => some .p1
  | some "p2" => some .p2
  | some "tie" => some .tie
  | _ => none

/-- `(j[k] as Map?) ?? {}`. -/
def mapOr (k : String) : Option Record := (asMap? (Assoc.get j k)).map (·.getD [])

def MatchDamageEvent.fromJson : Option Client.MatchDamageEvent := do
  let damage ← mapOr j "damage"
  return {
    matchId := ← string j "matchId"
    round := ← readNat j "round"
    p1 := ← SideDamage.fromJson (← mapOr damage "p1")
    p2 := ← SideDamage.fromJson (← mapOr damage "p2")
    winner := outcomeOf (← string? j "winner") }

def reasonOf : Option String → Client.MatchEndReason
  | some "hp_zero" => .hpZero
  | some "forfeit" => .forfeit
  | some "disconnect" => .disconnect
  | _ => .unknown

def FinalPlayerState.fromJson : Option Client.FinalPlayerState := do
  return { hp := ← readInt j "hp", gold := ← readInt j "gold" }

def RatingChange.fromJson : Option Client.RatingChange := do
  return { before := ← readInt j "before", after := ← readInt j "after", delta := ← readInt j "delta" }

/-- `ratingSide(k)`. -/
def ratingSide (rating : Option Record) (k : String) : Option (Option Client.RatingChange) :=
  match rating.bind (Assoc.get · k) with
  | some (.obj fields) => (RatingChange.fromJson fields).map some
  | _ => some none

def MatchEndEvent.fromJson : Option Client.MatchEndEvent := do
  let fin ← mapOr j "final"
  let rating ← asMap? (Assoc.get j "rating")
  return {
    matchId := ← string j "matchId"
    winnerId := ← string? j "winnerId"
    reason := reasonOf (← string? j "reason")
    finalP1 := ← FinalPlayerState.fromJson (← mapOr fin "p1")
    finalP2 := ← FinalPlayerState.fromJson (← mapOr fin "p2")
    ratingP1 := ← ratingSide rating "p1"
    ratingP2 := ← ratingSide rating "p2" }

def CombatUnit.fromJson : Option Client.Battle.CombatUnit := do
  return {
    instanceId := ← string j "instanceId"
    unitId := unitIdOf (← string? j "unitId")
    star := ← readNat j "star"
    hp := ← readInt j "hp"
    maxHp := ← readInt j "maxHp" }

def CombatBoardState.fromJson : Option Client.Battle.CombatBoardState := do
  return {
    p1 := ← slots CombatUnit.fromJson (listOr (Assoc.get j "p1")) 9
    p2 := ← slots CombatUnit.fromJson (listOr (Assoc.get j "p2")) 9 }

structure CombatEventBatch where
  matchId : String
  round : Nat
  cycleCount : Nat
  endedAt : Int
  events : List Client.Battle.CombatEvent
  initialBoard : Option Client.Battle.CombatBoardState
  deriving DecidableEq, Repr

def initialBoardOf : Option Value → Option (Option Client.Battle.CombatBoardState)
  | none | some .null => some none
  | some (.obj fields) => (CombatBoardState.fromJson fields).map some
  | some _ => none

def CombatEventBatch.fromJson : Option CombatEventBatch := do
  let raw := (← asList? (Assoc.get j "events")).getD []
  return {
    matchId := ← string j "matchId"
    round := ← readNat j "round"
    cycleCount := ← readNat j "cycleCount"
    endedAt := ← readInt j "endedAt"
    events := ← (maps raw).mapM CombatEvent.fromJson
    initialBoard := ← initialBoardOf (Assoc.get j "initialBoard") }

/-- `j['code'] as String? ?? 'unknown'`. -/
def GameError.fromJson : Option Client.GameError := do
  return {
    code := (← string? j "code").getD "unknown"
    message := ← string? j "message"
    clientActionId := ← string? j "clientActionId" }

/-- What a listener of the socket gets. -/
inductive Message where
  | event (event : Client.ServerEvent)
  | combat (batch : CombatEventBatch)
  deriving DecidableEq, Repr

/-- The parser each stream is mapped through. -/
def decode (name : String) (j : Record) : Option Message :=
  if name = "game:match:phase" then (MatchPhaseEvent.fromJson j).map (.event ∘ .phase)
  else if name = "game:match:state" then (MatchState.fromJson j).map (.event ∘ .matchState)
  else if name = "game:shop:offer" then (ShopOffersEvent.fromJson j).map (.event ∘ .shop)
  else if name = "game:match:damage" then (MatchDamageEvent.fromJson j).map (.event ∘ .damage)
  else if name = "game:match:end" then (MatchEndEvent.fromJson j).map (.event ∘ .ended)
  else if name = "game:combat:events" then (CombatEventBatch.fromJson j).map .combat
  else if name = "game:error" then (GameError.fromJson j).map (.event ∘ .error)
  else none

/-! ## What the client makes of them -/

def gamePhase : MatchPhase → Client.GamePhase
  | .shop_place => .shopPlace
  | .battle => .battle
  | .resolved => .resolved
  | .finished => .finished

def phaseEvent (payload : PhasePayload) : Client.MatchPhaseEvent where
  matchId := payload.matchId
  phase := gamePhase payload.phase
  round := payload.round
  timer := payload.timer
  players := payload.players.map fun p => ⟨p.id, some p.username, p.hp, p.gold, p.ready⟩

def roundOutcome : Option Side → Client.RoundOutcome
  | some .p1 => .p1
  | some .p2 => .p2
  | none => .tie

def sideDamage (side : Runtime.SideDamage) : Client.SideDamage :=
  ⟨side.wiped, side.tie, side.hpBefore, side.hpAfter, side.damageApplied⟩

def damageEvent (payload : DamagePayload) : Client.MatchDamageEvent :=
  ⟨payload.matchId, payload.round, sideDamage payload.p1, sideDamage payload.p2, some (roundOutcome payload.winner)⟩

def endReason : MatchEndReason → Client.MatchEndReason
  | .hp_zero => .hpZero
  | .forfeit => .forfeit
  | .disconnect => .disconnect

def ratingChange (change : Runtime.RatingChange) : Client.RatingChange := ⟨change.before, change.after, change.delta⟩

def combatUnit (unit : Runtime.RuntimeUnitState) : Client.Battle.CombatUnit :=
  ⟨unit.instanceId, unit.unitId, unit.star, unit.hp, unit.maxHp⟩

def combatBoard (board : Slots) : List (Option Client.Battle.CombatUnit) :=
  (List.range 9).map fun i => ((board[i]?).join).map combatUnit

/-- What the client's classes keep of a publication. -/
def message (endedAt : Int) : Payload → Message
  | .phase payload => .event (.phase (phaseEvent payload))
  | .state payload => .event (.matchState (.fromJson payload))
  | .offers matchId round offers => .event (.shop (.fromJson matchId round offers))
  | .damage payload => .event (.damage (damageEvent payload))
  | .combatEvents matchId round cycleCount events initialP1 initialP2 =>
    .combat ⟨matchId, round, cycleCount, endedAt, events.map Client.Battle.received,
      some ⟨combatBoard initialP1, combatBoard initialP2⟩⟩
  | .matchEnd matchId winnerId reason finalP1 finalP2 rating =>
    .event (.ended ⟨matchId, winnerId, endReason reason, ⟨finalP1.1, finalP1.2⟩, ⟨finalP2.1, finalP2.2⟩,
      rating.map (ratingChange ·.1), rating.map (ratingChange ·.2)⟩)

/-! ## Round trips -/

theorem maps_obj {α : Type} (f : α → Record) (l : List α) : maps (l.map fun a => .obj (f a)) = l.map f := by
  unfold maps
  rw [List.filterMap_map, ← List.filterMap_eq_map]
  rfl

theorem mapM_read {α β : Type} {f : α → Record} {read : Record → Option β} {g : α → β}
    (h : ∀ a, read (f a) = some (g a)) (l : List α) : (l.map f).mapM read = some (l.map g) := by
  rw [List.mapM_map]
  exact Codec.mapM_of_forall fun a _ => h a

/-- `read` gives `g a` back from the object of `a`, and an absent entry is `null`. -/
structure Writes {α β : Type} (write : Option α → Value) (read : Record → Option β) (g : α → β) : Prop where
  none : write none = .null
  some : ∀ a, ∃ fields, write (some a) = .obj fields ∧ read fields = some (g a)

/-- Slots are read back, each entry by itself. -/
theorem Writes.slots {α β : Type} {write : Option α → Value} {read : Record → Option β} {g : α → β}
    (h : Writes write read g) (entries : List (Option α)) (length : Nat) :
    slots read (entries.map write) length = Option.some ((List.range length).map fun i => ((entries[i]?).join).map g) := by
  refine Codec.mapM_of_forall fun i _ => ?_
  unfold entryAt
  rw [List.getElem?_map]
  obtain _ | _ | a := entries[i]?
  · rfl
  · simp [h.none]
  · obtain ⟨fields, hwrite, hread⟩ := h.some a
    simp [hwrite, hread]

theorem player_read (p : Runtime.PhasePlayer) :
    PhasePlayer.fromJson [("id", .str p.id), ("username", .str p.username), ("hp", int p.hp), ("gold", int p.gold),
      ("ready", .bool p.ready)] = some ⟨p.id, some p.username, p.hp, p.gold, p.ready⟩ := by
  unfold PhasePlayer.fromJson
  rw [string_str (s := p.id) (by rfl), string?_str (s := p.username) (by rfl), readInt_int (n := p.hp) (by rfl),
    readInt_int (n := p.gold) (by rfl)]
  rfl

theorem phase_read (payload : PhasePayload) :
    MatchPhaseEvent.fromJson (phaseFields payload) = some (phaseEvent payload) := by
  unfold MatchPhaseEvent.fromJson
  rw [string_str (s := payload.matchId) (by rfl), string?_str (s := payload.phase.text) (by rfl),
    readNat_nat (n := payload.round) (by rfl), readNat_nat (n := payload.timer) (by rfl)]
  have hplayers : asList? (Assoc.get (phaseFields payload) "players") = some (some (payload.players.map fun p =>
      .obj [("id", .str p.id), ("username", .str p.username), ("hp", int p.hp), ("gold", int p.gold),
        ("ready", .bool p.ready)])) := rfl
  have hphase : gamePhaseOf (some payload.phase.text) = gamePhase payload.phase := by cases payload.phase <;> rfl
  simp only [hplayers, Option.bind_eq_bind, Option.bind_some, Option.getD_some, maps_obj, mapM_read player_read, hphase]
  rfl

theorem unit_writes : Writes entryValue Unit.fromJson Client.Unit.fromJson where
  none := rfl
  some unit := by
    refine ⟨_, rfl, ?_⟩
    unfold Unit.fromJson
    rw [string_str (s := unit.instanceId) (by rfl), string?_str (s := unitText unit.unitId) (by rfl),
      readNat_nat (n := unit.star) (by rfl), readInt_int (n := unit.hp) (by rfl), readInt_int (n := unit.maxHp) (by rfl)]
    simp [unitIdOf_unitText, Client.Unit.fromJson]

theorem combatUnit_writes : Writes entryValue CombatUnit.fromJson combatUnit where
  none := rfl
  some unit := by
    refine ⟨_, rfl, ?_⟩
    unfold CombatUnit.fromJson
    rw [string_str (s := unit.instanceId) (by rfl), string?_str (s := unitText unit.unitId) (by rfl),
      readNat_nat (n := unit.star) (by rfl), readInt_int (n := unit.hp) (by rfl), readInt_int (n := unit.maxHp) (by rfl)]
    simp [unitIdOf_unitText, combatUnit]

/-- A slot of a board summary. -/
def summarySlot (slot : Option Runtime.OpponentBoardUnit) : Value :=
  Codec.slotValue (slot.map fun u => ⟨.str (unitText u.unitId), u.star⟩)

theorem summary_eq (board : Runtime.OpponentBoardSummary) : summary board = .arr (board.map summarySlot) := by
  rw [summary, summaryValue, boardSummary, List.map_map]
  rfl

theorem opponentUnit_writes : Writes summarySlot OpponentUnit.fromJson fun u => ⟨u.unitId, u.star⟩ where
  none := rfl
  some unit := by
    refine ⟨_, rfl, ?_⟩
    unfold OpponentUnit.fromJson
    rw [string?_str (s := unitText unit.unitId) (by rfl), readNat_nat (n := unit.star) (by rfl)]
    simp [unitIdOf_unitText]

theorem opponentSlots_read (board : Runtime.OpponentBoardSummary) :
    opponentSlots (board.map summarySlot) = some (Client.opponentSlots board) :=
  opponentUnit_writes.slots board 9

theorem roster_read (roster : Runtime.RosterView) :
    PlayerRoster.fromJson (rosterFields roster) = some (Client.PlayerRoster.fromJson roster) := by
  have hboard : Unit.slotsFromJson (Assoc.get (rosterFields roster) "board") 9 =
      some (Client.Unit.slotsFromJson roster.board 9) := unit_writes.slots roster.board 9
  have hbench : Unit.slotsFromJson (Assoc.get (rosterFields roster) "bench") 8 =
      some (Client.Unit.slotsFromJson roster.bench 8) := unit_writes.slots roster.bench 8
  unfold PlayerRoster.fromJson
  rw [string?_str (s := roster.username) (by rfl), hboard, hbench, readInt_int (n := roster.gold) (by rfl),
    readInt_int (n := roster.hp) (by rfl)]
  rfl

theorem opponent_read (opponent : Runtime.OpponentView) :
    OpponentView.fromJson (opponentFields opponent) = some (Client.OpponentView.fromJson opponent) := by
  have hsummary : asList? (Assoc.get (opponentFields opponent) "boardSummary") =
      some (some (opponent.boardSummary.map summarySlot)) := by
    rw [show Assoc.get (opponentFields opponent) "boardSummary" = some (summary opponent.boardSummary) from rfl, summary_eq]
    rfl
  have hbattle : battleBoardOf (Assoc.get (opponentFields opponent) "battleBoardSummary") =
      some (opponent.battleBoardSummary.map Client.opponentSlots) := by
    rw [show Assoc.get (opponentFields opponent) "battleBoardSummary" =
      some (nullable summary opponent.battleBoardSummary) from rfl]
    cases opponent.battleBoardSummary with
    | none => rfl
    | some board =>
      rw [nullable, Option.map_some, Option.getD_some, summary_eq, battleBoardOf, opponentSlots_read]
      rfl
  have hscout : int? (opponentFields opponent) "scoutRound" = some (opponent.scoutRound.map fun n => (n : Int)) := by
    unfold int?
    rw [show Assoc.get (opponentFields opponent) "scoutRound" = some (nullable nat opponent.scoutRound) from rfl]
    cases opponent.scoutRound with
    | none => rfl
    | some n => simp [nullable, nat, asNum?, toInt_ofNat]
  unfold OpponentView.fromJson
  rw [hsummary, hbattle, hscout, string?_str (s := opponent.username) (by rfl), readInt_int (n := opponent.gold) (by rfl),
    readInt_int (n := opponent.hp) (by rfl)]
  simp only [Option.bind_eq_bind, Option.bind_some, Option.getD_some, opponentSlots_read]
  cases hscoutRound : opponent.scoutRound <;> simp [Client.OpponentView.fromJson, hscoutRound, pure]

theorem state_read (payload : StatePayload) :
    MatchState.fromJson (stateFields payload) = some (Client.MatchState.fromJson payload) := by
  have hroster : asMap? (Assoc.get (stateFields payload) "roster") = some (some (rosterFields payload.roster)) := rfl
  have hopponent : asMap? (Assoc.get (stateFields payload) "opponent") = some (some (opponentFields payload.opponent)) := rfl
  unfold MatchState.fromJson
  rw [hroster, hopponent, string_str (s := payload.matchId) (by rfl), readNat_nat (n := payload.round) (by rfl),
    string?_str (s := sideName payload.yourSide) (by rfl), readInt_int (n := payload.readyCount) (by rfl)]
  simp only [Option.bind_eq_bind, Option.bind_some, Option.getD_some, roster_read, opponent_read, sideOf_name]
  rfl

theorem offers_read (matchId : String) (round : Nat) (offers : List (Option Shop.ShopOffer)) :
    ShopOffersEvent.fromJson (offersFields matchId round offers) =
      some (Client.ShopOffersEvent.fromJson matchId round offers) := by
  have hoffer : ∀ offer : Option Shop.ShopOffer,
      offerOf (nullable (fun offer => .obj (offerFields offer)) offer) = some (offer.map Client.ShopOffer.fromJson) := by
    intro offer
    cases offer with
    | none => rfl
    | some offer =>
      have hread : ShopOffer.fromJson (offerFields offer) = some (Client.ShopOffer.fromJson offer) := by
        unfold ShopOffer.fromJson
        rw [string_str (s := offer.offerId) (by rfl), string?_str (s := unitText offer.unitId) (by rfl),
          readNat_nat (n := offer.star) (by rfl)]
        simp [unitIdOf_unitText, Client.ShopOffer.fromJson]
      rw [nullable, Option.map_some, Option.getD_some, offerOf, hread]
      rfl
  have hlist : asList? (Assoc.get (offersFields matchId round offers) "offers") =
      some (some (offers.map (nullable fun offer => .obj (offerFields offer)))) := rfl
  have hoffers : (offers.map (nullable fun offer => .obj (offerFields offer))).mapM offerOf =
      some (offers.map fun offer => offer.map Client.ShopOffer.fromJson) := by
    rw [List.mapM_map]
    exact Codec.mapM_of_forall fun offer _ => hoffer offer
  unfold ShopOffersEvent.fromJson
  rw [hlist, string_str (s := matchId) (by rfl), readNat_nat (n := round) (by rfl)]
  simp only [Option.bind_eq_bind, Option.bind_some, Option.getD_some, hoffers]
  rfl

theorem sideDamage_read (side : Runtime.SideDamage) :
    SideDamage.fromJson (sideDamageFields side) = some (sideDamage side) := by
  have hdamage : readInt (sideDamageFields side) "damageApplied" = some (side.damageApplied : Int) := by
    rw [readInt, int?, show Assoc.get (sideDamageFields side) "damageApplied" = some (nat side.damageApplied) from rfl]
    simp [nat, asNum?, toInt_ofNat]
  unfold SideDamage.fromJson
  rw [readInt_int (n := side.hpBefore) (by rfl), readInt_int (n := side.hpAfter) (by rfl), hdamage]
  rfl

theorem damage_read (payload : DamagePayload) :
    MatchDamageEvent.fromJson (damageFields payload) = some (damageEvent payload) := by
  have hdamage : mapOr (damageFields payload) "damage" =
      some [("p1", .obj (sideDamageFields payload.p1)), ("p2", .obj (sideDamageFields payload.p2))] := rfl
  have houtcome : outcomeOf (some (outcomeText payload.winner)) = some (roundOutcome payload.winner) := by
    obtain _ | side := payload.winner
    · rfl
    · cases side <;> rfl
  unfold MatchDamageEvent.fromJson
  rw [hdamage, string_str (s := payload.matchId) (by rfl), readNat_nat (n := payload.round) (by rfl),
    string?_str (s := outcomeText payload.winner) (by rfl)]
  simp only [Option.bind_eq_bind, Option.bind_some, houtcome]
  rw [show mapOr [("p1", .obj (sideDamageFields payload.p1)), ("p2", .obj (sideDamageFields payload.p2))] "p1" =
      some (sideDamageFields payload.p1) from rfl,
    show mapOr [("p1", .obj (sideDamageFields payload.p1)), ("p2", .obj (sideDamageFields payload.p2))] "p2" =
      some (sideDamageFields payload.p2) from rfl]
  simp only [Option.bind_some, sideDamage_read]
  rfl

theorem final_read (final : Int × Int) : FinalPlayerState.fromJson (finalFields final) = some ⟨final.1, final.2⟩ := by
  unfold FinalPlayerState.fromJson
  rw [readInt_int (n := final.1) (by rfl), readInt_int (n := final.2) (by rfl)]
  rfl

theorem rating_read (change : Runtime.RatingChange) :
    RatingChange.fromJson (ratingFields change) = some (ratingChange change) := by
  unfold RatingChange.fromJson
  rw [readInt_int (n := change.before) (by rfl), readInt_int (n := change.after) (by rfl),
    readInt_int (n := change.delta) (by rfl)]
  rfl

section

variable (matchId : String) (winnerId : Option String) (reason : MatchEndReason) (finalP1 finalP2 : Int × Int)
  (rating : Option (Runtime.RatingChange × Runtime.RatingChange))

/-- The ratings, as the object has them. -/
def ratingRecord : Option Record :=
  rating.map fun changes => [("p1", .obj (ratingFields changes.1)), ("p2", .obj (ratingFields changes.2))]

theorem ratingSide_read : ratingSide (ratingRecord rating) "p1" = some (rating.map (ratingChange ·.1)) ∧
    ratingSide (ratingRecord rating) "p2" = some (rating.map (ratingChange ·.2)) := by
  cases rating with
  | none => exact ⟨rfl, rfl⟩
  | some changes =>
    have hside : ∀ {k} {change : Runtime.RatingChange}, (ratingRecord (some changes)).bind (Assoc.get · k) =
        some (.obj (ratingFields change)) → ratingSide (ratingRecord (some changes)) k = some (some (ratingChange change)) := by
      intro k change hget
      unfold ratingSide
      rw [hget]
      dsimp only
      rw [rating_read, Option.map_some]
    exact ⟨hside rfl, hside rfl⟩

theorem end_read : MatchEndEvent.fromJson (endFields matchId winnerId reason finalP1 finalP2 rating) =
    some ⟨matchId, winnerId, endReason reason, ⟨finalP1.1, finalP1.2⟩, ⟨finalP2.1, finalP2.2⟩,
      rating.map (ratingChange ·.1), rating.map (ratingChange ·.2)⟩ := by
  have hfinal : mapOr (endFields matchId winnerId reason finalP1 finalP2 rating) "final" =
      some [("p1", .obj (finalFields finalP1)), ("p2", .obj (finalFields finalP2))] := rfl
  have hrating : asMap? (Assoc.get (endFields matchId winnerId reason finalP1 finalP2 rating) "rating") =
      some (ratingRecord rating) := by
    cases rating <;> rfl
  have hwinner : string? (endFields matchId winnerId reason finalP1 finalP2 rating) "winnerId" = some winnerId := by
    cases winnerId <;> rfl
  have hreason : reasonOf (some (reasonText reason)) = endReason reason := by cases reason <;> rfl
  obtain ⟨hp1, hp2⟩ := ratingSide_read rating
  unfold MatchEndEvent.fromJson
  rw [hfinal, hrating, hwinner, string_str (s := matchId) (by rfl), string?_str (s := reasonText reason) (by rfl)]
  simp only [Option.bind_eq_bind, Option.bind_some, hreason, hp1, hp2]
  rw [show mapOr [("p1", .obj (finalFields finalP1)), ("p2", .obj (finalFields finalP2))] "p1" =
      some (finalFields finalP1) from rfl,
    show mapOr [("p1", .obj (finalFields finalP1)), ("p2", .obj (finalFields finalP2))] "p2" =
      some (finalFields finalP2) from rfl]
  simp only [Option.bind_some, final_read]
  rfl

end

section

variable (matchId : String) (round cycleCount : Nat) (events : List Game.CombatEvent) (endedAt : Int)

/-- The combat events are read back, with whatever board the object has. -/
theorem combat_read (rest : Record) {board : Option Client.Battle.CombatBoardState}
    (hboard : initialBoardOf (Assoc.get rest "initialBoard") = some board) :
    CombatEventBatch.fromJson (combatFields matchId round cycleCount events endedAt ++ rest) =
      some ⟨matchId, round, cycleCount, endedAt, events.map Client.Battle.received, board⟩ := by
  have hevents : asList? (Assoc.get (combatFields matchId round cycleCount events endedAt ++ rest) "events") =
      some (some (events.map fun e => .obj (eventFields e))) := rfl
  have hrest : Assoc.get (combatFields matchId round cycleCount events endedAt ++ rest) "initialBoard" =
      Assoc.get rest "initialBoard" := rfl
  unfold CombatEventBatch.fromJson
  rw [hevents, hrest, hboard, string_str (s := matchId) (by rfl), readNat_nat (n := round) (by rfl),
    readNat_nat (n := cycleCount) (by rfl), readInt_int (n := endedAt) (by rfl)]
  simp only [Option.bind_eq_bind, Option.bind_some, Option.getD_some, maps_obj, mapM_read event_read]
  rfl

theorem boards_read (initialP1 initialP2 : Slots) :
    initialBoardOf (Assoc.get (boardsFields initialP1 initialP2) "initialBoard") =
      some (some ⟨combatBoard initialP1, combatBoard initialP2⟩) := by
  have hp1 : slots CombatUnit.fromJson (initialP1.map entryValue) 9 = some (combatBoard initialP1) :=
    combatUnit_writes.slots initialP1 9
  have hp2 : slots CombatUnit.fromJson (initialP2.map entryValue) 9 = some (combatBoard initialP2) :=
    combatUnit_writes.slots initialP2 9
  have hread : CombatBoardState.fromJson [("p1", .arr (initialP1.map entryValue)), ("p2", .arr (initialP2.map entryValue))] =
      some ⟨combatBoard initialP1, combatBoard initialP2⟩ := by
    unfold CombatBoardState.fromJson
    rw [show listOr (Assoc.get ([("p1", .arr (initialP1.map entryValue)), ("p2", .arr (initialP2.map entryValue))] : Record)
        "p1") = initialP1.map entryValue from rfl,
      show listOr (Assoc.get ([("p1", .arr (initialP1.map entryValue)), ("p2", .arr (initialP2.map entryValue))] : Record)
        "p2") = initialP2.map entryValue from rfl, hp1, hp2]
    rfl
  change (CombatBoardState.fromJson _).map some = _
  rw [hread, Option.map_some]

end

theorem error_read (envelope : GameErrorEnvelope) : decode "game:error" (errorFields envelope) =
    some (.event (.error ⟨envelope.code, some envelope.message, envelope.clientActionId⟩)) := by
  obtain ⟨code, message, _ | id⟩ := envelope <;> rfl

/-- **Every message is read back**: the client works on what was published. -/
theorem payload_read (endedAt : Int) (payload : Payload) :
    decode (encode endedAt payload).1 (encode endedAt payload).2 = some (message endedAt payload) := by
  cases payload with
  | phase payload => exact congrArg (Option.map _) (phase_read payload)
  | state payload => exact congrArg (Option.map _) (state_read payload)
  | offers matchId round offers => exact congrArg (Option.map _) (offers_read matchId round offers)
  | damage payload => exact congrArg (Option.map _) (damage_read payload)
  | combatEvents matchId round cycleCount events initialP1 initialP2 =>
    exact congrArg (Option.map _) (combat_read matchId round cycleCount events endedAt _ (boards_read initialP1 initialP2))
  | matchEnd matchId winnerId reason finalP1 finalP2 rating =>
    exact congrArg (Option.map _) (end_read matchId winnerId reason finalP1 finalP2 rating)

end AutoChess.Messages
