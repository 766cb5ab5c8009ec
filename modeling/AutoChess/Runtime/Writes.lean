/-
The values the program writes to the runtime hash. A player state is written
as some reader's normalised state with an action, damage or gold on it, so it
is `Normal` whatever the hash held, and a round is written from one that was
read. In the terms of the codec every write is proper.
-/
import AutoChess.Runtime.Decoded
import AutoChess.Runtime.Commits
import AutoChess.Shop.Ledger

namespace AutoChess.Runtime

open AutoChess.Game AutoChess.Shop Calls Expiring

/-! ## Normal states -/

/-- A player state that reads back as it is. -/
structure Normal (p : RuntimePlayerState) : Prop where
  gold : 0 ≤ p.gold
  hp : 0 ≤ p.hp
  board : p.board.length = 9
  bench : p.bench.length = 8

section
variable {p after : RuntimePlayerState}

theorem finiteNonNegative_nonneg {value fallback : Int} (h : 0 ≤ fallback) : 0 ≤ finiteNonNegative value fallback := by
  unfold finiteNonNegative
  split
  · assumption
  · exact h

theorem normalizePlayerState_normal (p : RuntimePlayerState) : Normal (normalizePlayerState p) where
  gold := finiteNonNegative_nonneg (by decide)
  hp := finiteNonNegative_nonneg (by decide)
  board := by simp [normalizePlayerState, normalizeSlots]
  bench := by simp [normalizePlayerState, normalizeSlots]

theorem Normal.setSlot (h : Normal p) (source : Place) (slot : Nat) (x : Option RuntimeUnitState) :
    Normal (setSlot p source slot x) where
  gold := (setSlot_gold ..).symm ▸ h.gold
  hp := (setSlot_hp ..).symm ▸ h.hp
  board := (setSlot_board ..).trans h.board
  bench := (setSlot_bench ..).trans h.bench

theorem Normal.place (h : Normal p) {id : String} {target : Place} {slot : Nat}
    (hplace : placeUnit p id target slot = .ok after) : Normal after := by
  unfold placeUnit at hplace
  split at hplace
  · cases hplace
  split at hplace
  · cases hplace
  split at hplace
  · cases hplace
  split at hplace
  · cases hplace
    exact (h.setSlot ..).setSlot ..
  · cases hplace
    exact h

theorem investedGold_nonneg (u : RuntimeUnitState) : 0 ≤ investedGold u := by
  have hcost : 0 ≤ UNIT_COST u.unitId * 2 ^ u.star := mul_nonneg (UNIT_COST_pos _).le (pow_nonneg (by decide) _)
  unfold investedGold
  split
  · split
    · assumption
    · exact hcost
  · exact hcost

theorem Normal.buy {held after : Holdings} {offerIndex : Nat} {offer : ShopOffer} {uuid : String}
    (h : Normal held.state) (hoffer : offerToBuy held offerIndex = .ok offer)
    (hbuy : buyOffer held offerIndex offer uuid = .ok after) : Normal after.state := by
  have hgold : UNIT_COST offer.unitId ≤ held.state.gold := by
    unfold offerToBuy at hoffer
    split at hoffer
    · cases hoffer
    · split at hoffer
      · cases hoffer
      · next hle =>
        cases hoffer
        exact not_lt.1 hle
  have hpaid : Normal { held.state with gold := held.state.gold - UNIT_COST offer.unitId } :=
    ⟨sub_nonneg.2 hgold, h.hp, h.board, h.bench⟩
  unfold buyOffer at hbuy
  split at hbuy
  · cases hbuy
  · next slot _ =>
    cases hbuy
    exact hpaid.setSlot .bench slot _

theorem Normal.sell {held after : Holdings} {source : Place} {slot : Nat} (h : Normal held.state)
    (hsell : sellUnit held source slot = .ok after) : Normal after.state := by
  unfold sellUnit at hsell
  split at hsell
  · cases hsell
  · cases hsell
  · next u hu =>
    cases hsell
    have hpaid : Normal { held.state with gold := held.state.gold + investedGold u } :=
      ⟨add_nonneg h.gold (investedGold_nonneg u), h.hp, h.board, h.bench⟩
    exact hpaid.setSlot source slot none

theorem Normal.refresh {digests : Digests} {matchSeed userId : String} {round : Nat} {held after : Holdings}
    (h : Normal held.state) (hrefresh : refreshOffers digests matchSeed round userId held = .ok after) :
    Normal after.state := by
  unfold refreshOffers at hrefresh
  split at hrefresh
  · cases hrefresh
  · cases hrefresh
    exact h

theorem Normal.fuse {held after : Holdings} {unitId : UnitId} {sourceId targetId : Option String}
    (h : Normal held.state) (hfuse : fuseUnits held unitId sourceId targetId = .ok after) : Normal after.state := by
  obtain ⟨target, source, -, heq⟩ := fuseUnits_fuses hfuse
  rw [heq]
  exact (h.setSlot ..).setSlot ..

theorem Normal.hit (h : Normal p) (damage : Nat) : Normal (hit p damage) := { h with hp := le_max_left _ _ }

theorem Normal.rewarded (h : Normal p) : Normal (rewarded p) where
  gold := add_nonneg h.gold (by decide)
  hp := h.hp
  board := h.board
  bench := h.bench

end

/-- What the fields of the hash hold: normal states, rounds from one, summaries
with a slot for each of the board. -/
def FieldWrite.Normal : FieldWrite → Prop
  | .p1State v | .p2State v => Runtime.Normal v
  | .round v => 0 < v
  | .combatRound v | .scoutRound v => ∀ n, v = some n → 0 < n
  | .scoutP1Board v | .scoutP2Board v => v.length = 9 ∧ ∀ u, some u ∈ v → u.star ≤ 2
  | _ => True

theorem stateField_normal {side : Side} {state : RuntimePlayerState} (h : Normal state) :
    (stateField side state).Normal := by
  cases side <;> exact h

theorem readyField_normal (side : Side) (ready : Bool) : (readyField side ready).Normal := by
  cases side <;> trivial

theorem summarizeBoard_normal (board : Slots) :
    (summarizeBoard board).length = 9 ∧ ∀ u, some u ∈ summarizeBoard board → u.star ≤ 2 := by
  refine ⟨by simp [summarizeBoard], fun u hu => ?_⟩
  obtain ⟨index, -, hindex⟩ := List.mem_map.1 hu
  split at hindex
  · split at hindex
    · next hstar =>
      cases hindex
      simpa [isStar] using hstar
    · cases hindex
  · cases hindex

/-! ## Programs -/

/-- What an action logs is normal. -/
def LogNormal : Cmd → Prop
  | .actionLog _ _ field _ _ _ => field.Normal
  | _ => True

theorem Peripheral.logNormal {c : Cmd} (hc : Peripheral c) : LogNormal c := by
  cases c with
  | actionLog => cases hc
  | _ => trivial

section
variable {matchId : String} {host : Host} {q : Request} {h : History} {α β : Type}

abbrev Logs (h : History) (p : M α) : Prop := p.Obeys (fun _ c => LogNormal c) (fun _ _ => True) h

theorem logs_of_idle {p : M α} (hp : p.Issues Peripheral) : Logs h p :=
  (Prog.Issues.obeys hp fun _ _ => Peripheral.logNormal).mono fun _ _ _ _ => trivial

theorem logs_of_uncommitted {p : M α} (hp : p.Issues fun c => c.isCommit = false) : Logs h p := by
  refine (Prog.Issues.obeys hp fun _ c hc => ?_).mono fun _ _ _ _ => trivial
  cases c with
  | actionLog => cases hc
  | _ => trivial

theorem logs_then {p : M α} {f : α → M β} (hp : Logs h p) (hf : ∀ a h', Logs h' (f a)) : Logs h (p.bind f) :=
  Prog.Obeys.andThen hp hf fun _ _ => trivial

theorem sideState_normal {runtime : MatchRuntimeState} {hash : RuntimeHash} (hread : ReadAs matchId hash runtime)
    (side : Side) : Normal (sideState runtime side) := by
  obtain ⟨a, b, hread⟩ := hread
  simp only [parseRuntimeHash, Option.bind_eq_bind, Option.bind_eq_some_iff, Option.pure_def,
    Option.some.injEq] at hread
  obtain ⟨phase, -, round, -, heq⟩ := hread
  cases side with
  | p1 =>
    have hstate : normalizePlayerState hash.p1State = runtime.p1State := congrArg MatchRuntimeState.p1State heq
    change Normal runtime.p1State
    exact hstate ▸ normalizePlayerState_normal hash.p1State
  | p2 =>
    have hstate : normalizePlayerState hash.p2State = runtime.p2State := congrArg MatchRuntimeState.p2State heq
    change Normal runtime.p2State
    exact hstate ▸ normalizePlayerState_normal hash.p2State

theorem commitRuntimeAction_logs {runtime : MatchRuntimeState} {userId id : String} {field : FieldWrite}
    {phase : MatchPhase} (hfield : field.Normal) : Logs h (commitRuntimeAction runtime userId field id phase) := by
  refine Prog.Obeys.perform_bind hfield (fun reply => ?_) trivial
  cases reply <;> trivial

theorem placeLocked_logs {userId id instanceId : String} {round slot : Nat} {target : Place} :
    Logs h (placeLocked matchId userId round instanceId target slot id) := by
  refine logs_then (logs_of_idle (Prog.Issues.perform (by trivial) _)) fun logged h₁ => ?_
  split
  · trivial
  refine Prog.Obeys.bind ((requireActionPhase_fresh fun _ c hc => ?_).mono fun o h₂ _ hread => ?_)
  · cases c with
    | actionLog => cases hc
    | _ => trivial
  rcases o with e | runtime
  · trivial
  obtain ⟨hash, _, -, -, hreadAs⟩ := (hread runtime rfl).1
  refine logs_then (logs_of_idle (sideFor_idle _ _)) fun side h₃ => ?_
  cases hplace : placeUnit (sideState runtime side) instanceId target slot with
  | error r => trivial
  | ok state =>
    have hstate : (stateField side state).Normal := stateField_normal ((sideState_normal hreadAs side).place hplace)
    change Logs h₃ ((commitRuntimeAction runtime userId (stateField side state) id .shop_place).bind _)
    refine logs_then (commitRuntimeAction_logs hstate) fun stored h₄ => ?_
    split
    · trivial
    · exact logs_of_uncommitted (Prog.Issues.perform_bind rfl fun _ =>
        (publishState_uncommitted _ _ _).bind fun _ => trivial)

/-- The holdings a shop action works on are those of a state that was read. -/
theorem actionContext_logs {userId : String} {round : Nat} : (actionContext matchId userId round).Obeys
    (fun _ c => LogNormal c) (fun o _ => ∀ context, o = .ok context → Normal context.held.state) h := by
  refine Prog.Obeys.perform_bind trivial (fun hash => ?_) (by rintro _ ⟨⟩)
  split
  · rintro _ ⟨⟩
  next runtime hparse =>
  have hread : ReadAs matchId hash runtime := ⟨_, _, hparse⟩
  split
  · rintro _ ⟨⟩
  split
  · rintro _ ⟨⟩
  refine Prog.Obeys.bind ((logs_of_idle ?_).mono fun o h₂ _ _ => ?_)
  · unfold shopSide
    split
    · trivial
    · split <;> trivial
  rcases o with e | side
  · rintro _ ⟨⟩
  refine Prog.Obeys.perform_bind trivial (fun found => ?_) (by rintro _ ⟨⟩)
  split
  · rintro _ ⟨⟩
  split
  · rintro _ ⟨⟩
  · rintro _ ⟨⟩
    exact sideState_normal hread side

theorem mutate_logs {userId : String} {round : Nat} {runtime : MatchRuntimeState} {held : Holdings}
    {action : ShopAction} (hheld : Normal held.state) :
    (mutate host userId round runtime held action).Obeys (fun _ c => LogNormal c)
      (fun o _ => ∀ after, o = .ok after → Normal after.state) h := by
  have hreject : ∀ (o : Except Rejection Holdings) h', (∀ after, o = .ok after → Normal after.state) →
      (orReject o).Obeys (fun _ c => LogNormal c) (fun o _ => ∀ after, o = .ok after → Normal after.state) h' := by
    intro o h' ho
    cases o with
    | error r => rintro _ ⟨⟩
    | ok after =>
      rintro _ ⟨⟩
      exact ho after rfl
  cases action with
  | buy offerIndex =>
    cases hoffer : offerToBuy held offerIndex with
    | error r =>
      rw [mutate, hoffer]
      rintro _ ⟨⟩
    | ok offer =>
      rw [mutate, hoffer]
      refine Prog.Obeys.perform_bind trivial (fun uuid => hreject _ _ fun _ => hheld.buy hoffer) (by rintro _ ⟨⟩)
  | sell source slot => exact hreject _ _ fun _ => hheld.sell
  | refresh => exact hreject _ _ fun _ => hheld.refresh
  | fuse unitId sourceId targetId => exact hreject _ _ fun _ => hheld.fuse

theorem performAction_logs {userId id : String} {round : Nat} {action : ShopAction} :
    Logs h (performAction matchId host userId round id action) := by
  refine logs_then (logs_of_idle (Prog.Issues.perform (by trivial) _)) fun logged h₁ => ?_
  split
  · trivial
  refine Prog.Obeys.bind (actionContext_logs.mono fun o h₂ _ hcontext => ?_)
  rcases o with e | context
  · trivial
  refine Prog.Obeys.bind ((mutate_logs (hcontext context rfl)).mono fun o h₃ _ hafter => ?_)
  rcases o with e | after
  · trivial
  refine logs_then ?_ fun stored h₄ => ?_
  · refine Prog.Obeys.perform_bind (stateField_normal (hafter after rfl)) (fun reply => ?_) trivial
    cases reply with
    | recorded =>
      exact logs_of_uncommitted (Prog.Issues.perform_bind rfl fun _ =>
        (publishState_uncommitted _ _ _).bind fun _ => trivial)
    | _ => trivial
  · split
    · trivial
    · split
      · exact logs_of_uncommitted (Prog.Issues.perform_bind rfl fun _ => trivial)
      · trivial

theorem ensuring_logs {p : M α} {cleanup : M Unit} (hc : cleanup.Issues Peripheral) (hp : Logs h p) :
    Logs h (p.ensuring cleanup) :=
  Prog.Obeys.ensuring hc (fun _ _ => Peripheral.logNormal) (hp.mono fun _ _ _ _ _ _ => ⟨trivial, fun _ => trivial⟩)

/-- **A roster action** logs normal states only. -/
theorem roster_logs {q : Request} (hedits : q.edits = true) : Logs [] (program matchId host q) := by
  unfold Request.edits at hedits
  split at hedits
  · refine logs_then (logs_of_idle (resolveMatch_idle _)) fun _ h₁ => logs_then ?_ fun _ _ => trivial
    refine logs_then (logs_of_idle (Prog.Issues.perform (by trivial) _)) fun logged h₂ => ?_
    split
    · trivial
    refine logs_then (logs_of_idle (Prog.Issues.perform (by trivial) _)) fun owner h₃ => ?_
    refine logs_then (logs_of_idle (acquireLock_idle _ _ _ _)) fun _ h₄ => ?_
    exact ensuring_logs (Prog.Issues.perform (by trivial) _) performAction_logs
  · refine logs_then (logs_of_idle (resolveMatch_idle _)) fun _ h₁ => logs_then ?_ fun _ _ => trivial
    refine logs_then (logs_of_idle (Prog.Issues.perform (by trivial) _)) fun owner h₂ => ?_
    refine logs_then (logs_of_idle (acquireLock_idle _ _ _ _)) fun _ h₃ => ?_
    exact ensuring_logs (Prog.Issues.perform (by trivial) _) placeLocked_logs
  · cases hedits

end

/-! ## Runs -/

section
variable {matchId : String} {host : Host} {init s : Store} {log newer older : List RuntimeEvent} {e : RuntimeEvent}

/-- The guards of a call, with what a roster action may log. -/
def NormalGuard (matchId : String) (q : Request) (h : History) (c : Cmd) : Prop :=
  Guard matchId q h c ∧ (q.edits = true → LogNormal c)

theorem program_normal (q : Request) :
    (program matchId host q).Obeys (NormalGuard matchId q) (fun _ _ => True) [] := by
  refine (program_guarded q).guards ?_
  cases hedits : q.edits with
  | true => exact (roster_logs hedits).weaken fun _ _ hc _ => hc
  | false => exact (Prog.Obeys.any _).weaken fun _ _ _ heq => by cases heq

theorem ReadAs.round_pos {hash : RuntimeHash} {runtime : MatchRuntimeState} (hread : ReadAs matchId hash runtime) :
    0 < runtime.round := by
  obtain ⟨a, b, hread⟩ := hread
  simp only [parseRuntimeHash, Option.bind_eq_bind, Option.bind_eq_some_iff, Option.pure_def,
    Option.some.injEq] at hread
  obtain ⟨phase, -, round, hround, heq⟩ := hread
  obtain rfl : round = runtime.round := congrArg MatchRuntimeState.round heq
  unfold positiveInt at hround
  split at hround
  · split at hround
    · cases hround
      assumption
    · cases hround
  · cases hround

/-- Rounds are counted from one. -/
theorem Run.round_pos (h : Run matchId host init log s) (hinit : ∀ n, init.hash.round = some n → 0 < n) :
    ∀ n, s.hash.round = some n → 0 < n := by
  induction h with
  | start => exact hinit
  | @time log s ms h ih =>
    intro n hn
    rcases hash_elapse ms s with heq | heq
    · exact ih n ((congrArg RuntimeHash.round heq).symm.trans hn)
    · cases (congrArg RuntimeHash.round heq).symm.trans hn
  | @call log e h hguard hdoes ih =>
    intro n hn
    cases guarded_phaseStep hguard hdoes with
    | same phase round => exact ih n (round ▸ hn)
    | start was now => exact ih n (was.2.trans (now.2.symm.trans hn))
    | resolve was now => exact ih n (was.2.trans (now.2.symm.trans hn))
    | advance was now =>
      cases now.2.symm.trans hn
      exact Nat.succ_pos _
    | finish phase round => exact ih n (round ▸ hn)

/-- The result of a round is as normal as the runtime it was computed from. -/
theorem Computed.normal {h : History} {round : Nat} {runtime : MatchRuntimeState} {events : List CombatEvent}
    {resolution : Resolution} (hc : Computed matchId h round runtime events resolution) :
    0 < round ∧ Normal resolution.p1 ∧ Normal resolution.p2 := by
  obtain ⟨_, _, _, -, hash, -, hread⟩ := hc.calls
  obtain ⟨winner, -, hres⟩ := Option.bind_eq_some_iff.1 hc.resolved
  have hp₁ := (sideState_normal hread .p1).hit (damageFor winner runtime.wipeIndexP1 runtime.wipeIndexP2).p1
  have hp₂ := (sideState_normal hread .p2).hit (damageFor winner runtime.wipeIndexP1 runtime.wipeIndexP2).p2
  cases hres
  exact ⟨hc.ofRound ▸ hread.round_pos, hp₁, hp₂⟩

/-- The fields of an `HSET`. -/
theorem WriteGuard.normal {q : Request} {h : History} {fields : List FieldWrite} (hg : WriteGuard matchId q h fields)
    (hwon : ∀ round, Won h .shop_place .battle round none → 0 < round) : ∀ f ∈ fields, f.Normal := by
  cases hg with
  | names => simp [FieldWrite.Normal]
  | @fought round ttl state events older hh hflip hrun =>
    have hpos := hwon round (hh ▸ List.mem_cons_of_mem _ hflip)
    simpa [FieldWrite.Normal] using hpos
  | @result round runtime events resolution hc hlive hfirst hq =>
    obtain ⟨hpos, hp₁, hp₂⟩ := hc.normal
    intro f hf
    simp only [resultFields, List.mem_cons, List.not_mem_nil, or_false] at hf
    rcases hf with rfl | rfl | rfl | rfl | rfl | rfl | rfl | rfl | rfl | rfl
    · exact hp₁.rewarded
    · exact hp₂.rewarded
    · trivial
    · trivial
    · trivial
    · trivial
    · rintro _ ⟨⟩
    · rintro _ ⟨⟩
      exact hpos
    · exact summarizeBoard_normal _
    · exact summarizeBoard_normal _
  | @knockout round runtime events resolution hc hover hfirst hq =>
    obtain ⟨-, hp₁, hp₂⟩ := hc.normal
    intro f hf
    simp only [knockoutFields, List.mem_cons, List.not_mem_nil, or_false] at hf
    rcases hf with rfl | rfl | rfl | rfl | rfl
    · trivial
    · exact hp₁
    · exact hp₂
    · trivial
    · trivial
  | reset hreset hfirst => simp [resetFields, FieldWrite.Normal]
  | roundReady hq hsaw hphase hround => simpa using readyField_normal _ _
  | markReady hq => simpa using readyField_normal _ _

/-- The fields of a transition. -/
theorem FlipGuard.normal {q : Request} {h : History} {expectedPhase newPhase : MatchPhase} {round : Nat}
    {next : Option Nat} (hg : FlipGuard matchId q h expectedPhase newPhase round next) :
    ∀ f ∈ flipFields newPhase next, f.Normal := by
  cases hg with
  | advance hsaw hphase hround => simp [flipFields, FieldWrite.Normal]
  | _ => simp [flipFields, FieldWrite.Normal]

/-- **Every write of a run** is normal. -/
theorem run_writes_normal (hinit : ∀ n, init.hash.round = some n → 0 < n) (moves : List (Move Request Nat)) :
    ∀ e ∈ ((pool matchId host).run ⟨init, [], []⟩ moves).log, ∀ f ∈ written e.cmd e.before, f.Normal := by
  have hrun : Chronicle (pool matchId host) (NormalGuard matchId) init
      ((pool matchId host).run ⟨init, [], []⟩ moves).log ((pool matchId host).run ⟨init, [], []⟩ moves).store :=
    Pool.run_chronicle program_normal moves
  intro e he
  obtain ⟨newer, older, hlog⟩ := List.append_of_mem he
  rw [hlog] at hrun
  obtain ⟨hbefore, ⟨hguard, hlogs⟩, -⟩ := hrun.of_split
  have hbefore : Run matchId host init older e.before := hbefore.weaken fun _ _ _ h => h.1
  obtain ⟨⟨cmd, reply⟩, pid, q, before, after⟩ := e
  cases cmd with
  | hset fields =>
    refine WriteGuard.normal hguard fun round hwon => ?_
    obtain ⟨flip, hmem, -, hcall⟩ := mem_own.1 hwon
    obtain ⟨l₁, l₂, rfl⟩ := List.append_of_mem hmem
    obtain ⟨hflip, -, hdoes⟩ := hbefore.of_split
    exact Run.round_pos hflip hinit _ (evalPhaseFlip_iff.1 (hdoes.of_call hcall).1.symm).2
  | phaseFlip expectedPhase newPhase round next =>
    intro f hf
    simp only [written] at hf
    split at hf
    · exact FlipGuard.normal hguard f hf
    · cases hf
  | actionLog userId id field shop phase round =>
    intro f hf
    simp only [written] at hf
    split at hf
    · obtain rfl : f = field := by simpa using hf
      cases hguard with
      | state hq => exact hlogs hq
      | ready hq => exact readyField_normal _ _
    · cases hf
  | _ =>
    intro f hf
    cases hf

end

end AutoChess.Runtime

namespace AutoChess.Codec

open AutoChess.Game AutoChess.Runtime Json Calls

/-! ## The codec's values -/

def unitText : UnitId → String
  | .fighter => "fighter"
  | .healer => "healer"
  | .ranger => "ranger"
  | .tank => "tank"

def unitValue (u : RuntimeUnitState) : Value :=
  .obj ([("instanceId", .str u.instanceId), ("unitId", .str (unitText u.unitId)), ("star", .num (ofNat u.star)),
    ("hp", .num (ofInt u.hp)), ("maxHp", .num (ofInt u.maxHp))] ++
      (u.investedGold.map fun gold => ("investedGold", .num (ofInt gold))).toList)

def entryValue : Option RuntimeUnitState → Value
  | none => .null
  | some u => unitValue u

def stateRecord (p : RuntimePlayerState) : Record :=
  [("hp", .num (ofInt p.hp)), ("gold", .num (ofInt p.gold)), ("ready", .bool p.ready),
    ("board", .arr (p.board.map entryValue)), ("bench", .arr (p.bench.map entryValue))]

def boardSummary (board : Runtime.OpponentBoardSummary) : OpponentBoardSummary :=
  board.map fun slot => slot.map fun u => ⟨.str (unitText u.unitId), u.star⟩

/-- A write of the program, as the codec encodes it. -/
def FieldWrite.of : Runtime.FieldWrite → FieldWrite
  | .player1Name v => .player1Name v
  | .player2Name v => .player2Name v
  | .phase v => .phase v
  | .round v => .round v
  | .p1State v => .p1State (stateRecord v)
  | .p2State v => .p2State (stateRecord v)
  | .readyP1 v => .readyP1 v
  | .readyP2 v => .readyP2 v
  | .wipeIndexP1 v => .wipeIndexP1 v
  | .wipeIndexP2 v => .wipeIndexP2 v
  | .combatRound v => .combatRound v
  | .scoutRound v => .scoutRound v
  | .scoutP1Board v => .scoutP1Board (boardSummary v)
  | .scoutP2Board v => .scoutP2Board (boardSummary v)

/-- The username of a player. -/
def FieldWrite.username : Runtime.FieldWrite → Option String
  | .player1Name v | .player2Name v => some v
  | _ => none

theorem stateRecord_legal {p : RuntimePlayerState} (h : Normal p) : Legal (stateRecord p) where
  hp := ⟨p.hp, rfl, by exact_mod_cast h.hp⟩
  gold := ⟨p.gold, rfl, by exact_mod_cast h.gold⟩
  ready := ⟨p.ready, rfl⟩
  board := ⟨_, rfl, by rw [List.length_map, h.board], by
    intro e he
    obtain ⟨entry, -, rfl⟩ := List.mem_map.1 he
    cases entry with
    | none => exact .inl rfl
    | some u => exact .inr rfl⟩
  bench := ⟨_, rfl, by rw [List.length_map, h.bench], by
    intro e he
    obtain ⟨entry, -, rfl⟩ := List.mem_map.1 he
    cases entry with
    | none => exact .inl rfl
    | some u => exact .inr rfl⟩

variable (js : Platform)

theorem boardSummary_proper {board : Runtime.OpponentBoardSummary} (hlength : board.length = 9)
    (hstars : ∀ u, some u ∈ board → u.star ≤ 2) :
    (boardSummary board).length = 9 ∧ ∀ u, some u ∈ boardSummary board → Known js u := by
  refine ⟨by rw [boardSummary, List.length_map, hlength], fun u hu => ?_⟩
  obtain ⟨slot, hslot, hu⟩ := List.mem_map.1 hu
  obtain ⟨v, rfl, rfl⟩ := Option.map_eq_some_iff.1 hu
  refine ⟨?_, hstars v hslot⟩
  have htext : js.text (.str (unitText v.unitId)) = some (unitText v.unitId) := by rw [Platform.text]
  simp only [isUnitId, htext, Option.map_some, Option.some.injEq]
  cases v.unitId <;> decide

/-- A normal write is a proper one, once names are names. -/
theorem proper_of_normal {f : Runtime.FieldWrite} (h : f.Normal) (hname : FieldWrite.username f ≠ some "") :
    (FieldWrite.of f).Proper js := by
  cases f with
  | player1Name v => exact fun heq => hname (congrArg some heq)
  | player2Name v => exact fun heq => hname (congrArg some heq)
  | p1State v => exact stateRecord_legal h
  | p2State v => exact stateRecord_legal h
  | round v => exact h
  | combatRound v => exact h
  | scoutRound v => exact h
  | scoutP1Board v => exact boardSummary_proper js h.1 h.2
  | scoutP2Board v => exact boardSummary_proper js h.1 h.2
  | _ => trivial

/-! ## The codec -/

/-- The two directions of the codec, and what is written through it. -/
structure HashCodec (js : Platform) : Prop where
  written : ∀ (m : Match) (names : PlayerNames), names.player1Name ≠ "" → names.player2Name ≠ "" →
    ∀ fields : List FieldWrite, (∀ f ∈ fields, f.Proper js) → (∀ f ∈ initialWrites m ++ fields, f.Inverted js) →
      parseRuntimeHash js m.id ((initialRuntimeHash js m names).hset (fields.map (·.entry js))) =
        some (fields.foldl MatchRuntimeState.write (openingState m names))
  program : ∀ (matchId : String) (host : Host) (init : Store), (∀ n, init.hash.round = some n → 0 < n) →
    ∀ moves, ∀ e ∈ ((pool matchId host).run ⟨init, [], []⟩ moves).log, ∀ f ∈ Runtime.written e.cmd e.before,
      FieldWrite.username f ≠ some "" → (FieldWrite.of f).Proper js
  any : ∀ (matchId : String) (hash : Hash) (state : MatchRuntimeState),
    parseRuntimeHash js matchId hash = some state → LegalState hash state
  normal : ∀ value : Value, normalizePlayerState (.obj (normalizePlayerState value)) = normalizePlayerState value

/-- **The runtime hash** decodes to what was written into it, whatever the
program writes, and to nothing illegal from any texts. -/
theorem hash_codec (hjs : js.Lawful) : HashCodec js where
  written _ _ h₁ h₂ _ hproper hinv := parse_written hjs h₁ h₂ hproper hinv
  program _ _ _ hinit moves _ he _ hf hname := proper_of_normal js (run_writes_normal hinit moves _ he _ hf) hname
  any _ _ _ := parse_legal
  normal := normalizePlayerState_idem

/-! ## One hash -/

def numberText : Number → String
  | .nan => "NaN"
  | .infinite negative => if negative then "-Infinity" else "Infinity"
  | .finite q => if q.den = 1 then toString q.num else toString q.num ++ "/" ++ toString q.den

mutual
/-- The JSON text of a value whose strings need no escapes. -/
def jsonText : Value → String
  | .null => "null"
  | .bool b => if b then "true" else "false"
  | .num x => numberText x
  | .str s => "\"" ++ s ++ "\""
  | .arr elems => "[" ++ ",".intercalate (jsonTexts elems) ++ "]"
  | .obj fields => "\x7b" ++ ",".intercalate (jsonFields fields) ++ "\x7d"

def jsonTexts : List Value → List String
  | [] => []
  | value :: elems => jsonText value :: jsonTexts elems

def jsonFields : List (String × Value) → List String
  | [] => []
  | (key, value) :: fields => ("\"" ++ key ++ "\":" ++ jsonText value) :: jsonFields fields
end

def newPlayer : Record := initialState (.obj [])

def noUnits : Value := summaryValue emptyBoardSummary

/-- A player with a healer on the board and a fighter on the bench. -/
def manned : RuntimePlayerState where
  hp := 95
  gold := 3
  ready := true
  board := some ⟨"h", .healer, 1, 70, 70, some 3⟩ :: List.replicate 8 none
  bench := some ⟨"f", .fighter, 0, 100, 100, some 1⟩ :: List.replicate 7 none

def seen : OpponentBoardSummary := boardSummary (some ⟨.healer, 1⟩ :: List.replicate 8 none)

/-- Reads the texts of these values. -/
def onePlatform : Platform where
  parse text :=
    if text = "" then none
    else [.obj newPlayer, .obj (stateRecord manned), noUnits, summaryValue seen].find? fun value => text = jsonText value
  stringify := jsonText
  number text :=
    if text = "" then ofNat 0
    else ((List.range 10).find? fun n => toString n = text).elim .nan ofNat
  string := numberText

theorem onePlatform_lawful : onePlatform.Lawful := ⟨rfl, rfl, rfl⟩

def oneHash : Match where
  id := "m"
  player1Id := "a"
  player2Id := "b"
  matchSeed := "s"
  wipeIndexP1 := none
  wipeIndexP2 := some 1
  p1State := .obj []
  p2State := .null

def oneRound : List FieldWrite :=
  [.phase .battle, .combatLockInstance "i", .combatRound (some 1), .p1State (stateRecord manned), .readyP1 true,
    .scoutRound (some 1), .scoutP1Board seen, .combatRound none, .round 2]

set_option maxRecDepth 100000 in
/-- The hash of a new match after a round, read back. -/
theorem hash_codec_oneRound : ∃ state, parseRuntimeHash onePlatform "m"
    ((initialRuntimeHash onePlatform oneHash ⟨"ann", "bob"⟩).hset (oneRound.map (·.entry onePlatform))) = some state ∧
      state.round = 2 ∧ state.combatRound = none ∧ state.scoutRound = some 1 ∧ state.scoutP1Board = seen ∧
      state.p1State = stateRecord manned ∧ state.wipeIndexP2 = 1 := by
  have hstate : onePlatform.parse (onePlatform.stringify (.obj newPlayer)) = some (.obj newPlayer) := rfl
  have hmanned : onePlatform.parse (onePlatform.stringify (.obj (stateRecord manned))) =
      some (.obj (stateRecord manned)) := rfl
  have hboard : onePlatform.parse (onePlatform.stringify noUnits) = some noUnits := rfl
  have hseen : onePlatform.parse (onePlatform.stringify (summaryValue seen)) = some (summaryValue seen) := rfl
  have hread : ∀ f ∈ initialWrites oneHash ++ oneRound, f.Inverted onePlatform := by
    simp only [initialWrites, oneRound, List.cons_append, List.nil_append, List.forall_mem_cons]
    refine ⟨hstate, hstate, rfl, rfl, hboard, hboard, trivial, trivial, ?_, hmanned, trivial, ?_, hseen, ?_, rfl, ?_⟩
    · rintro _ ⟨⟩
      rfl
    · rintro _ ⟨⟩
      rfl
    · rintro _ ⟨⟩
    · simp
  have hnormal : Normal manned := ⟨by decide, by decide, rfl, rfl⟩
  have hproper : ∀ f ∈ oneRound, f.Proper onePlatform := by
    simp only [oneRound, List.forall_mem_cons]
    refine ⟨trivial, trivial, ?_, stateRecord_legal hnormal, trivial, ?_,
      boardSummary_proper onePlatform rfl (by simp), ?_, Nat.two_pos, ?_⟩
    · rintro _ ⟨⟩
      exact Nat.one_pos
    · rintro _ ⟨⟩
      exact Nat.one_pos
    · rintro _ ⟨⟩
    · simp
  exact ⟨_, (hash_codec onePlatform onePlatform_lawful).written oneHash ⟨"ann", "bob"⟩ (by decide) (by decide)
    oneRound hproper hread, rfl, rfl, rfl, rfl, rfl, rfl⟩

end AutoChess.Codec
