/-
What `parseRuntimeHash` makes of a hash. Of texts nobody vouches for it makes
nothing, or a state whose parts are legal (`parse_legal`). Of a hash that was
written field by field it makes the values written: every decoder reads one
field, and undoes the encoder of that field (`Reads`).
-/
import AutoChess.Runtime.Codec
import Mathlib.Data.List.Nodup

namespace AutoChess.Codec

open AutoChess.Runtime (MatchPhase)
open Json

/-! ## Player states -/

/-- A slot is empty or a record. -/
def IsSlot (value : Value) : Prop := value = .null ∨ value.isRecord = true

def HasSlots (value : Option Value) (length : Nat) : Prop :=
  ∃ elems, value = some (.arr elems) ∧ elems.length = length ∧ ∀ e ∈ elems, IsSlot e

def HasAmount (value : Option Value) : Prop := ∃ q : ℚ, value = some (.num (.finite q)) ∧ 0 ≤ q

/-- A player state as the rest of the program takes it. -/
structure Legal (r : Record) : Prop where
  hp : HasAmount (r.get "hp")
  gold : HasAmount (r.get "gold")
  ready : ∃ b, r.get "ready" = some (.bool b)
  board : HasSlots (r.get "board") 9
  bench : HasSlots (r.get "bench") 8

theorem finiteNonNegative_nonneg {value : Option Value} {fallback : ℚ} (h : 0 ≤ fallback) :
    0 ≤ finiteNonNegative value fallback := by
  unfold finiteNonNegative
  split
  · split
    · assumption
    · exact h
  · exact h

theorem finiteNonNegative_of_amount {value : Option Value} {fallback : ℚ} (h : HasAmount value) :
    value = some (.num (.finite (finiteNonNegative value fallback))) := by
  obtain ⟨q, rfl, hq⟩ := h
  simp only [finiteNonNegative, if_pos hq]

theorem isSlot_slotOf (entry : Option Value) : IsSlot (slotOf entry) := by
  unfold slotOf
  cases h : entry.filter (·.isRecord) with
  | none => exact .inl rfl
  | some v => exact .inr (Option.filter_eq_some_iff.1 h).2

theorem slotOf_isSlot {value : Value} (h : IsSlot value) : slotOf (some value) = value := by
  rcases h with rfl | h
  · rfl
  · rw [slotOf, Option.filter_some, if_pos h, Option.getD_some]

theorem normalizeSlots_hasSlots (value : Option Value) (length : Nat) :
    HasSlots (some (.arr (normalizeSlots value length))) length := by
  refine ⟨_, rfl, by simp [normalizeSlots], fun e he => ?_⟩
  obtain ⟨index, -, rfl⟩ := List.mem_map.1 he
  exact isSlot_slotOf _

theorem normalizeSlots_of_slots {value : Option Value} {length : Nat} (h : HasSlots value length) :
    value = some (.arr (normalizeSlots value length)) := by
  obtain ⟨elems, rfl, rfl, hslots⟩ := h
  refine congrArg (fun l => some (Value.arr l)) (List.ext_getElem (by simp [normalizeSlots]) fun i hi _ => ?_)
  have hin : elems[i]? = some elems[i] := List.getElem?_eq_getElem hi
  simp only [normalizeSlots, List.getElem_map, List.getElem_range, hin]
  exact (slotOf_isSlot (hslots _ (List.getElem_mem hi))).symm

section
variable (value : Value)

theorem normalizePlayerState_legal : Legal (normalizePlayerState value) := by
  unfold normalizePlayerState
  refine ⟨?_, ?_, ?_, ?_, ?_⟩
  · rw [Assoc.get_set_of_ne (by decide), Assoc.get_set_of_ne (by decide), Assoc.get_set_of_ne (by decide),
      Assoc.get_set_of_ne (by decide), Assoc.get_set_self]
    exact ⟨_, rfl, finiteNonNegative_nonneg (by decide)⟩
  · rw [Assoc.get_set_of_ne (by decide), Assoc.get_set_of_ne (by decide), Assoc.get_set_of_ne (by decide),
      Assoc.get_set_self]
    exact ⟨_, rfl, finiteNonNegative_nonneg (by decide)⟩
  · rw [Assoc.get_set_of_ne (by decide), Assoc.get_set_of_ne (by decide), Assoc.get_set_self]
    exact ⟨_, rfl⟩
  · rw [Assoc.get_set_of_ne (by decide), Assoc.get_set_self]
    exact normalizeSlots_hasSlots _ _
  · rw [Assoc.get_set_self]
    exact normalizeSlots_hasSlots _ _

variable {value}

/-- A legal state is read as it is. -/
theorem normalizePlayerState_of_legal {r : Record} (h : Legal r) : normalizePlayerState (.obj r) = r := by
  have hready : r.get "ready" = some (.bool (isTrue (r.get "ready"))) := by
    obtain ⟨b, hb⟩ := h.ready
    rw [hb]
    rfl
  unfold normalizePlayerState
  dsimp only
  rw [Assoc.set_of_get (finiteNonNegative_of_amount h.hp), Assoc.set_of_get (finiteNonNegative_of_amount h.gold),
    Assoc.set_of_get hready, Assoc.set_of_get (normalizeSlots_of_slots h.board),
    Assoc.set_of_get (normalizeSlots_of_slots h.bench)]

/-- **Normalising twice** is normalising once. -/
theorem normalizePlayerState_idem (value : Value) :
    normalizePlayerState (.obj (normalizePlayerState value)) = normalizePlayerState value :=
  normalizePlayerState_of_legal (normalizePlayerState_legal value)

end

/-! ## Board summaries -/

section
variable (js : Platform)

/-- A slot of a summary that was written: a unit the reader knows. -/
def Known (u : BoardUnit) : Prop := isUnitId js (some u.unitId) = some true ∧ u.star ≤ 2

theorem length_of_mapM {α β : Type} {f : α → Option β} {l : List α} {r : List β} (h : l.mapM f = some r) :
    r.length = l.length := by
  induction l generalizing r with
  | nil =>
    cases h
    rfl
  | cons a l ih =>
    rw [List.mapM_cons] at h
    obtain ⟨b, -, hb⟩ := Option.bind_eq_some_iff.1 h
    obtain ⟨bs, hbs, hr⟩ := Option.bind_eq_some_iff.1 hb
    cases hr
    rw [List.length_cons, List.length_cons, ih hbs]

theorem mapM_of_forall {α β : Type} {f : α → Option β} {g : α → β} {l : List α} (h : ∀ a ∈ l, f a = some (g a)) :
    l.mapM f = some (l.map g) := by
  induction l with
  | nil => rfl
  | cons a l ih =>
    rw [List.mapM_cons, h a List.mem_cons_self, ih fun b hb => h b (List.mem_cons_of_mem _ hb)]
    rfl

theorem normalizeBoardSummary_length (value : Option String) : (normalizeBoardSummary js value).length = 9 := by
  unfold normalizeBoardSummary
  split
  · rfl
  · split
    · rfl
    · split
      · next input _ =>
        cases h : (List.range 9).mapM fun index => summaryEntry js input[index]? with
        | none => rfl
        | some board => exact length_of_mapM h
      · rfl

theorem starOf_ofNat {star : Nat} (h : star ≤ 2) : starOf (some (.num (ofNat star))) = some star := by
  obtain rfl | rfl | rfl : star = 0 ∨ star = 1 ∨ star = 2 := by omega
  · decide
  · decide
  · decide

theorem summaryEntry_known {u : BoardUnit} (h : Known js u) :
    summaryEntry js (some (.obj [("unitId", u.unitId), ("star", .num (ofNat u.star))])) = some (some u) := by
  have hunit : Assoc.get [("unitId", u.unitId), ("star", .num (ofNat u.star))] "unitId" = some u.unitId := rfl
  have hstar : Assoc.get [("unitId", u.unitId), ("star", .num (ofNat u.star))] "star" =
      some (.num (ofNat u.star)) := rfl
  simp only [summaryEntry, hunit, hstar, h.1, starOf_ofNat h.2]
  rfl

/-- A summary is read as it was written. -/
theorem normalizeBoardSummary_written {text : String} {board : OpponentBoardSummary} (hlength : board.length = 9)
    (hknown : ∀ u, some u ∈ board → Known js u) (htext : js.parse text = some (summaryValue board))
    (hempty : js.parse "" = none) : normalizeBoardSummary js (some text) = board := by
  have hentry : ∀ index ∈ List.range 9, summaryEntry js ((board.map slotValue)[index]?) = some (board[index]?).join := by
    intro index hindex
    have hlt : index < board.length := by
      rw [hlength]
      exact List.mem_range.1 hindex
    rw [List.getElem?_map, List.getElem?_eq_getElem hlt]
    cases hu : board[index] with
    | none => rfl
    | some u => exact summaryEntry_known js (hknown u (hu ▸ List.getElem_mem hlt))
  have hne : text ≠ "" := by
    rintro rfl
    cases hempty.symm.trans htext
  rw [normalizeBoardSummary, if_neg hne, htext]
  simp only [summaryValue]
  rw [mapM_of_forall hentry]
  refine List.ext_getElem (by simp [hlength]) fun i hi hi' => ?_
  simp [List.getElem?_eq_getElem hi']

end

/-! ## One field -/

/-- The fields `parseRuntimeHash` reads. -/
inductive Key where
  | player1Id | player2Id | player1Name | player2Name | matchSeed | phase | round | p1State | p2State
  | readyP1 | readyP2 | wipeIndexP1 | wipeIndexP2 | combatRound | scoutRound | scoutP1Board | scoutP2Board
  deriving DecidableEq

def Key.name : Key → String
  | .player1Id => "player1Id"
  | .player2Id => "player2Id"
  | .player1Name => "player1Name"
  | .player2Name => "player2Name"
  | .matchSeed => "matchSeed"
  | .phase => "phase"
  | .round => "round"
  | .p1State => "p1State"
  | .p2State => "p2State"
  | .readyP1 => "readyP1"
  | .readyP2 => "readyP2"
  | .wipeIndexP1 => "wipeIndexP1"
  | .wipeIndexP2 => "wipeIndexP2"
  | .combatRound => "combatRound"
  | .scoutRound => "scoutRound"
  | .scoutP1Board => "scoutP1Board"
  | .scoutP2Board => "scoutP2Board"

def Key.all : List Key :=
  [.player1Id, .player2Id, .player1Name, .player2Name, .matchSeed, .phase, .round, .p1State, .p2State,
    .readyP1, .readyP2, .wipeIndexP1, .wipeIndexP2, .combatRound, .scoutRound, .scoutP1Board, .scoutP2Board]

theorem Key.name_injective : Function.Injective Key.name := by
  have hall : ∀ k : Key, k ∈ Key.all := by
    intro k
    cases k <;> decide
  have hnames : (Key.all.map Key.name).Nodup := by decide
  exact fun a b h => List.inj_on_of_nodup_map hnames (hall a) (hall b) h

theorem Key.name_ne_lock (k : Key) : k.name ≠ "combatLockInstance" := by
  cases k <;> decide

variable (js : Platform)

/-- What the decoder of a field makes of its text is in the state. -/
def Key.Reads (text : Option String) (state : MatchRuntimeState) : Key → Prop
  | .player1Id => state.player1Id = text
  | .player2Id => state.player2Id = text
  | .player1Name => state.player1Name = orElse text "ผู้เล่น 1"
  | .player2Name => state.player2Name = orElse text "ผู้เล่น 2"
  | .matchSeed => state.matchSeed = text
  | .phase => text.bind phaseOf = some state.phase
  | .round => positiveInt js text = some state.round
  | .p1State => ∃ value, text.bind js.parse = some value ∧ state.p1State = normalizePlayerState value
  | .p2State => ∃ value, text.bind js.parse = some value ∧ state.p2State = normalizePlayerState value
  | .readyP1 => state.readyP1 = (text == some "1")
  | .readyP2 => state.readyP2 = (text == some "1")
  | .wipeIndexP1 => state.wipeIndexP1 = nonNegativeInt js text
  | .wipeIndexP2 => state.wipeIndexP2 = nonNegativeInt js text
  | .combatRound => state.combatRound = positiveInt js text
  | .scoutRound => state.scoutRound = positiveInt js text
  | .scoutP1Board => state.scoutP1Board = normalizeBoardSummary js text
  | .scoutP2Board => state.scoutP2Board = normalizeBoardSummary js text

/-- Every field reads as the state has it. -/
def Spells (hash : Hash) (state : MatchRuntimeState) : Prop := ∀ k : Key, k.Reads js (hash k.name) state

/-- The value written, in the state. -/
def MatchRuntimeState.write (state : MatchRuntimeState) : FieldWrite → MatchRuntimeState
  | .player1Name v => { state with player1Name := v }
  | .player2Name v => { state with player2Name := v }
  | .phase v => { state with phase := v }
  | .round v => { state with round := v }
  | .p1State v => { state with p1State := v }
  | .p2State v => { state with p2State := v }
  | .readyP1 v => { state with readyP1 := v }
  | .readyP2 v => { state with readyP2 := v }
  | .wipeIndexP1 v => { state with wipeIndexP1 := v }
  | .wipeIndexP2 v => { state with wipeIndexP2 := v }
  | .combatRound v => { state with combatRound := v }
  | .scoutRound v => { state with scoutRound := v }
  | .scoutP1Board v => { state with scoutP1Board := v }
  | .scoutP2Board v => { state with scoutP2Board := v }
  | .combatLockInstance _ => state

def FieldWrite.key : FieldWrite → Option Key
  | .player1Name _ => some .player1Name
  | .player2Name _ => some .player2Name
  | .phase _ => some .phase
  | .round _ => some .round
  | .p1State _ => some .p1State
  | .p2State _ => some .p2State
  | .readyP1 _ => some .readyP1
  | .readyP2 _ => some .readyP2
  | .wipeIndexP1 _ => some .wipeIndexP1
  | .wipeIndexP2 _ => some .wipeIndexP2
  | .combatRound _ => some .combatRound
  | .scoutRound _ => some .scoutRound
  | .scoutP1Board _ => some .scoutP1Board
  | .scoutP2Board _ => some .scoutP2Board
  | .combatLockInstance _ => none

/-- What is written where: names that are not empty, legal states, rounds from
one, summaries of nine slots with known units. -/
def FieldWrite.Proper : FieldWrite → Prop
  | .player1Name v | .player2Name v => v ≠ ""
  | .round v => 0 < v
  | .p1State v | .p2State v => Legal v
  | .combatRound v | .scoutRound v => ∀ n, v = some n → 0 < n
  | .scoutP1Board v | .scoutP2Board v => v.length = 9 ∧ ∀ u, some u ∈ v → Known js u
  | _ => True

/-- The platform reads back the number, the JSON value, that it wrote. -/
def FieldWrite.Inverted : FieldWrite → Prop
  | .round v | .wipeIndexP1 v | .wipeIndexP2 v => js.number (js.string (ofNat v)) = ofNat v
  | .combatRound v | .scoutRound v => ∀ n, v = some n → js.number (js.string (ofNat n)) = ofNat n
  | .p1State v | .p2State v => js.parse (js.stringify (.obj v)) = some (.obj v)
  | .scoutP1Board v | .scoutP2Board v => js.parse (js.stringify (summaryValue v)) = some (summaryValue v)
  | _ => True

/-- The texts that are no one's output. -/
structure Platform.Lawful : Prop where
  parse_empty : js.parse "" = none
  number_empty : js.number "" = ofNat 0
  number_one : js.number "1" = ofNat 1

section
variable {js : Platform} {hash : Hash} {state : MatchRuntimeState} {f : FieldWrite} {k : Key}

theorem phaseOf_text (v : MatchPhase) : phaseOf v.text = some v := by
  cases v <;> decide

theorem flag_read (v : Bool) : (some (flag v) == some "1") = v := by
  cases v <;> decide

theorem orElse_of_ne {v fallback : String} (h : v ≠ "") : orElse (some v) fallback = v := if_neg h

theorem positiveInt_decimal {n : Nat} (h : js.number (js.string (ofNat n)) = ofNat n) (hpos : 0 < n) :
    positiveInt js (some (js.string (ofNat n))) = some n := by
  rw [positiveInt, numberOf, Option.map_some, Option.getD_some, h, integer?_ofNat, Option.bind_some,
    if_pos (by omega), Int.toNat_natCast]

theorem nonNegativeInt_decimal {n : Nat} (h : js.number (js.string (ofNat n)) = ofNat n) :
    nonNegativeInt js (some (js.string (ofNat n))) = n := by
  rw [nonNegativeInt, numberOf, Option.map_some, Option.getD_some, h, integer?_ofNat]
  rfl

theorem positiveInt_empty (hjs : js.Lawful) : positiveInt js (some "") = none := by
  rw [positiveInt, numberOf, Option.map_some, Option.getD_some, hjs.number_empty, integer?_ofNat]
  rfl

theorem positiveInt_optional (hjs : js.Lawful) {v : Option Nat} (hpos : ∀ n, v = some n → 0 < n)
    (h : ∀ n, v = some n → js.number (js.string (ofNat n)) = ofNat n) :
    positiveInt js (some (optional js v)) = v := by
  cases v with
  | none => exact positiveInt_empty hjs
  | some n => exact positiveInt_decimal (h n rfl) (hpos n rfl)

/-- The field that is written reads as the value. -/
theorem reads_written (hjs : js.Lawful) (hproper : f.Proper js) (hinv : f.Inverted js) (hk : f.key = some k) :
    k.Reads js (some (f.entry js).2) (state.write f) := by
  cases f with
  | player1Name v => cases hk; exact (orElse_of_ne hproper).symm
  | player2Name v => cases hk; exact (orElse_of_ne hproper).symm
  | phase v => cases hk; exact phaseOf_text v
  | round v => cases hk; exact positiveInt_decimal hinv hproper
  | p1State v => cases hk; exact ⟨_, hinv, (normalizePlayerState_of_legal hproper).symm⟩
  | p2State v => cases hk; exact ⟨_, hinv, (normalizePlayerState_of_legal hproper).symm⟩
  | readyP1 v => cases hk; exact (flag_read v).symm
  | readyP2 v => cases hk; exact (flag_read v).symm
  | wipeIndexP1 v => cases hk; exact (nonNegativeInt_decimal hinv).symm
  | wipeIndexP2 v => cases hk; exact (nonNegativeInt_decimal hinv).symm
  | combatRound v => cases hk; exact (positiveInt_optional hjs hproper hinv).symm
  | scoutRound v => cases hk; exact (positiveInt_optional hjs hproper hinv).symm
  | scoutP1Board v =>
    cases hk
    exact (normalizeBoardSummary_written js hproper.1 hproper.2 hinv hjs.parse_empty).symm
  | scoutP2Board v =>
    cases hk
    exact (normalizeBoardSummary_written js hproper.1 hproper.2 hinv hjs.parse_empty).symm
  | combatLockInstance v => cases hk

/-- The other fields read as before. -/
theorem reads_other {text : Option String} (h : k.Reads js text state) (hk : f.key ≠ some k) :
    k.Reads js text (state.write f) := by
  cases f <;> cases k <;> first | exact h | exact absurd rfl hk

theorem entry_name (hk : f.key = some k) : (f.entry js).1 = k.name := by
  cases f <;> cases hk <;> rfl

theorem entry_other (hk : f.key ≠ some k) : k.name ≠ (f.entry js).1 := by
  cases hkey : f.key with
  | none =>
    cases f with
    | combatLockInstance v => exact k.name_ne_lock
    | _ => cases hkey
  | some k' =>
    rw [entry_name hkey]
    exact fun heq => hk (hkey.trans (congrArg some (Key.name_injective heq).symm))

/-- **One write** changes what its field spells, and no other field. -/
theorem Spells.write (h : Spells js hash state) (hjs : js.Lawful) (hproper : f.Proper js) (hinv : f.Inverted js) :
    Spells js (hash.hset [f.entry js]) (state.write f) := by
  intro k
  change k.Reads js (Function.update hash (f.entry js).1 (some (f.entry js).2) k.name) (state.write f)
  by_cases hk : f.key = some k
  · rw [entry_name hk, Function.update_self]
    exact reads_written hjs hproper hinv hk
  · rw [Function.update_of_ne (entry_other hk)]
    exact reads_other (h k) hk

theorem Spells.writes (h : Spells js hash state) (hjs : js.Lawful) {fields : List FieldWrite}
    (hfields : ∀ f ∈ fields, f.Proper js ∧ f.Inverted js) :
    Spells js (hash.hset (fields.map (·.entry js))) (fields.foldl MatchRuntimeState.write state) := by
  induction fields generalizing hash state with
  | nil => exact h
  | cons f fields ih =>
    obtain ⟨hproper, hinv⟩ := hfields f List.mem_cons_self
    exact ih (h.write hjs hproper hinv) fun g hg => hfields g (List.mem_cons_of_mem _ hg)

theorem Spells.parse (h : Spells js hash state) : parseRuntimeHash js state.matchId hash = some state := by
  obtain ⟨v₁, hp₁, hs₁⟩ := h .p1State
  obtain ⟨v₂, hp₂, hs₂⟩ := h .p2State
  have hphase : (hash "phase").bind phaseOf = some state.phase := h .phase
  have hround : positiveInt js (hash "round") = some state.round := h .round
  rw [parseRuntimeHash, hphase, hround, show (hash "p1State").bind js.parse = some v₁ from hp₁,
    show (hash "p2State").bind js.parse = some v₂ from hp₂]
  exact congrArg some (MatchRuntimeState.ext rfl (h .player1Id).symm (h .player2Id).symm (h .player1Name).symm
    (h .player2Name).symm (h .matchSeed).symm rfl rfl hs₁.symm hs₂.symm (h .readyP1).symm (h .readyP2).symm
    (h .wipeIndexP1).symm (h .wipeIndexP2).symm (h .combatRound).symm (h .scoutRound).symm
    (h .scoutP1Board).symm (h .scoutP2Board).symm)

end

/-! ## Written hashes -/

section
variable (m : Match) (names : Runtime.PlayerNames)

/-- The values `initialRuntimeHash` makes texts from. -/
def initialWrites : List FieldWrite :=
  [.p1State (initialState m.p1State), .p2State (initialState m.p2State),
    .wipeIndexP1 (m.wipeIndexP1.getD 0), .wipeIndexP2 (m.wipeIndexP2.getD 0),
    .scoutP1Board emptyBoardSummary, .scoutP2Board emptyBoardSummary]

/-- The state a match starts from. -/
def openingState : MatchRuntimeState where
  matchId := m.id
  player1Id := some m.player1Id
  player2Id := some m.player2Id
  player1Name := names.player1Name
  player2Name := names.player2Name
  matchSeed := some m.matchSeed
  phase := .shop_place
  round := 1
  p1State := initialState m.p1State
  p2State := initialState m.p2State
  readyP1 := false
  readyP2 := false
  wipeIndexP1 := m.wipeIndexP1.getD 0
  wipeIndexP2 := m.wipeIndexP2.getD 0
  combatRound := none
  scoutRound := none
  scoutP1Board := emptyBoardSummary
  scoutP2Board := emptyBoardSummary

variable {m names} {js : Platform}

theorem Legal.set_ready {r : Record} (h : Legal r) (b : Bool) : Legal (r.set "ready" (.bool b)) where
  hp := by
    rw [Assoc.get_set_of_ne (by decide)]
    exact h.hp
  gold := by
    rw [Assoc.get_set_of_ne (by decide)]
    exact h.gold
  ready := ⟨b, Assoc.get_set_self ..⟩
  board := by
    rw [Assoc.get_set_of_ne (by decide)]
    exact h.board
  bench := by
    rw [Assoc.get_set_of_ne (by decide)]
    exact h.bench

theorem initialState_legal (value : Value) : Legal (initialState value) :=
  (normalizePlayerState_legal value).set_ready false

theorem positiveInt_one (hjs : js.Lawful) : positiveInt js (some "1") = some 1 := by
  rw [positiveInt, numberOf, Option.map_some, Option.getD_some, hjs.number_one, integer?_ofNat]
  rfl

theorem initial_spells (hjs : js.Lawful) (h₁ : names.player1Name ≠ "") (h₂ : names.player2Name ≠ "")
    (hinv : ∀ f ∈ initialWrites m, f.Inverted js) :
    Spells js (initialRuntimeHash js m names) (openingState m names) := by
  have hp₁ : js.parse (js.stringify (.obj (initialState m.p1State))) = some (.obj (initialState m.p1State)) :=
    hinv (.p1State _) (by simp [initialWrites])
  have hp₂ : js.parse (js.stringify (.obj (initialState m.p2State))) = some (.obj (initialState m.p2State)) :=
    hinv (.p2State _) (by simp [initialWrites])
  have hw₁ := hinv (.wipeIndexP1 (m.wipeIndexP1.getD 0)) (by simp [initialWrites])
  have hw₂ := hinv (.wipeIndexP2 (m.wipeIndexP2.getD 0)) (by simp [initialWrites])
  have hboard : js.parse (js.stringify (summaryValue emptyBoardSummary)) = some (summaryValue emptyBoardSummary) :=
    hinv (.scoutP1Board _) (by simp [initialWrites])
  have hempty : ∀ u, some u ∈ emptyBoardSummary → Known js u := by
    intro u hu
    cases List.eq_of_mem_replicate hu
  have hscout := normalizeBoardSummary_written js rfl hempty hboard hjs.parse_empty
  intro k
  cases k with
  | player1Name => exact (orElse_of_ne h₁).symm
  | player2Name => exact (orElse_of_ne h₂).symm
  | phase => exact phaseOf_text .shop_place
  | round => exact positiveInt_one hjs
  | p1State => exact ⟨_, hp₁, (normalizePlayerState_of_legal (initialState_legal _)).symm⟩
  | p2State => exact ⟨_, hp₂, (normalizePlayerState_of_legal (initialState_legal _)).symm⟩
  | wipeIndexP1 => exact (nonNegativeInt_decimal hw₁).symm
  | wipeIndexP2 => exact (nonNegativeInt_decimal hw₂).symm
  | combatRound => exact (positiveInt_empty hjs).symm
  | scoutRound => exact (positiveInt_empty hjs).symm
  | scoutP1Board => exact hscout.symm
  | scoutP2Board => exact hscout.symm
  | _ => rfl

/-- **A written hash** parses to the values written. -/
theorem parse_written (hjs : js.Lawful) (h₁ : names.player1Name ≠ "") (h₂ : names.player2Name ≠ "")
    {fields : List FieldWrite} (hproper : ∀ f ∈ fields, f.Proper js)
    (hinv : ∀ f ∈ initialWrites m ++ fields, f.Inverted js) :
    parseRuntimeHash js m.id ((initialRuntimeHash js m names).hset (fields.map (·.entry js))) =
      some (fields.foldl MatchRuntimeState.write (openingState m names)) := by
  have hopen := initial_spells hjs h₁ h₂ fun f hf => hinv f (List.mem_append_left _ hf)
  have hspells := hopen.writes hjs fun f hf => ⟨hproper f hf, hinv f (List.mem_append_right _ hf)⟩
  have hid : (fields.foldl MatchRuntimeState.write (openingState m names)).matchId = m.id := by
    refine List.foldlRecOn fields _ (motive := fun state : MatchRuntimeState => state.matchId = m.id) rfl ?_
    intro state hstate f _
    cases f <;> exact hstate
  exact hid ▸ hspells.parse

end

/-! ## Any texts -/

/-- A state the rest of the program can take. -/
structure LegalState (hash : Hash) (state : MatchRuntimeState) : Prop where
  phase : hash "phase" = some state.phase.text
  round : 0 < state.round
  p1State : Legal state.p1State
  p2State : Legal state.p2State
  combatRound : ∀ n, state.combatRound = some n → 0 < n
  scoutRound : ∀ n, state.scoutRound = some n → 0 < n
  scoutP1Board : state.scoutP1Board.length = 9
  scoutP2Board : state.scoutP2Board.length = 9

theorem phaseOf_eq_some {value : String} {v : MatchPhase} (h : phaseOf value = some v) : v.text = value := by
  simpa using List.find?_some h

theorem positiveInt_pos {js : Platform} {value : Option String} {n : Nat} (h : positiveInt js value = some n) :
    0 < n := by
  obtain ⟨parsed, -, hparsed⟩ := Option.bind_eq_some_iff.1 h
  split at hparsed
  · cases hparsed
    omega
  · cases hparsed

/-- **Whatever the texts**, nothing comes out or a legal state does. -/
theorem parse_legal {js : Platform} {matchId : String} {hash : Hash} {state : MatchRuntimeState}
    (h : parseRuntimeHash js matchId hash = some state) : LegalState hash state := by
  obtain ⟨phase, hphase, h⟩ := Option.bind_eq_some_iff.1 h
  obtain ⟨round, hround, h⟩ := Option.bind_eq_some_iff.1 h
  obtain ⟨v₁, -, h⟩ := Option.bind_eq_some_iff.1 h
  obtain ⟨v₂, -, h⟩ := Option.bind_eq_some_iff.1 h
  obtain ⟨text, htext, hphase⟩ := Option.bind_eq_some_iff.1 hphase
  cases h
  exact {
    phase := htext.trans (congrArg some (phaseOf_eq_some hphase).symm)
    round := positiveInt_pos hround
    p1State := normalizePlayerState_legal v₁
    p2State := normalizePlayerState_legal v₂
    combatRound := fun _ => positiveInt_pos
    scoutRound := fun _ => positiveInt_pos
    scoutP1Board := normalizeBoardSummary_length js _
    scoutP2Board := normalizeBoardSummary_length js _ }

end AutoChess.Codec
