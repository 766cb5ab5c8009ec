/-
Retention of old matches: the combat events of matches over for some days are
cleared, and matches over for longer are deleted, both in batches. Each loop
ends on the length of what the driver returns for a statement and adds it to
the report. For a `SELECT` the driver returns the rows; for an `UPDATE` or a
`DELETE` it returns the rows and a count, an array of two whatever was
changed. So a batch of one or two rows never ends, and a larger one runs once
and reports two.
-/
import AutoChess.Runtime.Services

namespace AutoChess.Retention

open AutoChess.Game (CombatEvent)
open AutoChess.Runtime (MatchStatus)

/-! ## Tables -/

structure Match where
  id : String
  status : MatchStatus
  finishedAt : Option Int
  deriving DecidableEq

structure MatchRound where
  id : String
  matchId : String
  events : Option (List CombatEvent)
  createdAt : Int
  deriving DecidableEq

/-- The rows of `matches` and `match_rounds`, under their primary keys and the
foreign key between them. -/
structure Tables where
  games : List Match
  rounds : List MatchRound
  gameIds : (games.map (·.id)).Nodup
  roundIds : (rounds.map (·.id)).Nodup
  gameOf : ∀ r ∈ rounds, ∃ m ∈ games, m.id = r.matchId

/-! ## Batches of rows -/

section
variable {α : Type}

/-- `... WHERE p ORDER BY le LIMIT limit`. -/
def batch (le : α → α → Prop) [DecidableRel le] (p : α → Bool) (limit : Nat) (rows : List α) : List α :=
  ((rows.filter p).insertionSort le).take limit

variable {le : α → α → Prop} [DecidableRel le] {p : α → Bool} {limit : Nat} {rows : List α}

theorem length_batch : (batch le p limit rows).length = min limit (rows.filter p).length := by
  rw [batch, List.length_take, (List.perm_insertionSort le _).length_eq]

theorem mem_batch {a : α} (h : a ∈ batch le p limit rows) : a ∈ rows ∧ p a = true :=
  List.mem_filter.1 ((List.mem_insertionSort le).1 (List.mem_of_mem_take h))

/-- A batch that is not full has every row. -/
theorem mem_batch_of_le (h : (rows.filter p).length ≤ limit) {a : α} (ha : a ∈ rows) (hp : p a = true) :
    a ∈ batch le p limit rows := by
  rw [batch, List.take_of_length_le (by rwa [(List.perm_insertionSort le _).length_eq])]
  exact (List.mem_insertionSort le).2 (List.mem_filter.2 ⟨ha, hp⟩)

/-- The rows that have the ids of the batch are the batch. -/
theorem length_filter_batch {id : α → String} (hids : (rows.map id).Nodup) :
    (rows.filter fun a => ((batch le p limit rows).map id).contains (id a)).length =
      (batch le p limit rows).length := by
  have hrows := hids.of_map id
  have hbatch : (batch le p limit rows).Nodup :=
    ((List.perm_insertionSort le _).nodup_iff.2 (hrows.sublist List.filter_sublist)).sublist (List.take_sublist _ _)
  refine ((List.perm_ext_iff_of_nodup (hrows.sublist List.filter_sublist) hbatch).2 fun a => ?_).length_eq
  rw [List.mem_filter, List.contains_iff_mem, List.mem_map]
  constructor
  · rintro ⟨ha, b, hb, hid⟩
    rwa [← List.inj_on_of_nodup_map hids (mem_batch hb).1 ha hid]
  · intro ha
    exact ⟨(mem_batch ha).1, a, ha, rfl⟩

end

/-! ## The driver -/

inductive Command where
  | select | update | delete
  deriving DecidableEq, Repr

/-- A row the database returns: the counts of a preview, with `bigint`s read
back as numbers, or the id of a changed row. -/
inductive Row where
  | eventCounts (rows bytes : Nat)
  | matchCount (rows : Nat)
  | id (id : String)
  deriving DecidableEq, Repr

/-- An element of the array `query` resolves with. -/
inductive Item where
  | row (row : Row)
  | rows (rows : List Row)
  | count (n : Nat)
  deriving DecidableEq, Repr

/-- The array `query` resolves with, from a statement's command, the rows it
returns and the number of rows it affects. -/
abbrev Driver := Command → List Row → Nat → List Item

/-- TypeORM 0.3 on PostgreSQL. -/
structure Documented (driver : Driver) : Prop where
  select : ∀ rows n, driver .select rows n = rows.map .row
  update : ∀ rows n, driver .update rows n = [.rows rows, .count n]
  delete : ∀ rows n, driver .delete rows n = [.rows rows, .count n]

/-! ## The policy -/

/-- The retention policy in force. -/
structure Policy where
  eventDays : Nat
  historyDays : Nat
  batchSize : Nat
  event_pos : 1 ≤ eventDays
  batch_pos : 1 ≤ batchSize
  event_le : eventDays ≤ historyDays

def DEFAULT_EVENT_DAYS : Nat := 90

def DEFAULT_HISTORY_DAYS : Nat := 365

def DEFAULT_BATCH_SIZE : Nat := 500

def MAX_SAFE_INTEGER : Nat := 9007199254740991

/-- `Number(value)`, where it is an integer. -/
abbrev ToInteger := String → Option Int

def readPositiveInt (number : ToInteger) (env : String → Option String) (name : String)
    (fallback : { n : Nat // 1 ≤ n }) (maximum : Nat) : Except String { n : Nat // 1 ≤ n } :=
  match env name with
  | none | some "" => .ok fallback
  | some value =>
    match number value with
    | some parsed =>
      if h : parsed < 1 ∨ (maximum : Int) < parsed then
        .error s!"{name} must be an integer between 1 and {maximum}"
      else .ok ⟨parsed.toNat, by omega⟩
    | none => .error s!"{name} must be an integer between 1 and {maximum}"

def readPolicy (number : ToInteger) (env : String → Option String) : Except String Policy := do
  let eventDays ← readPositiveInt number env "MATCH_EVENT_RETENTION_DAYS" ⟨DEFAULT_EVENT_DAYS, by decide⟩
    MAX_SAFE_INTEGER
  let historyDays ← readPositiveInt number env "MATCH_HISTORY_RETENTION_DAYS" ⟨DEFAULT_HISTORY_DAYS, by decide⟩
    MAX_SAFE_INTEGER
  let batchSize ← readPositiveInt number env "MATCH_RETENTION_BATCH_SIZE" ⟨DEFAULT_BATCH_SIZE, by decide⟩ 10000
  if h : historyDays.1 < eventDays.1 then
    .error "MATCH_HISTORY_RETENTION_DAYS must be greater than or equal to MATCH_EVENT_RETENTION_DAYS"
  else
    .ok { eventDays := eventDays.1, historyDays := historyDays.1, batchSize := batchSize.1,
          event_pos := eventDays.2, batch_pos := batchSize.2, event_le := by omega }

/-! ## The statements -/

/-- A day of the database's microsecond clock. -/
def DAY : Int := 86400000000

/-- `now() - days * interval '1 day'`. -/
def ago (now : Int) (days : Nat) : Int := now - days * DAY

/-- `"status" IN ('finished', 'forfeited')`. -/
def Match.over (m : Match) : Bool := m.status == .finished || m.status == .forfeited

variable (now : Int) (policy : Policy)

/-- A match whose history is no longer kept. -/
def matchEligible (m : Match) : Bool := m.over && m.finishedAt.any (· < ago now policy.historyDays)

/-- The match of a round whose events are no longer kept while its history is. -/
def eventsExpired (m : Match) : Bool :=
  m.over && m.finishedAt.any fun t => t < ago now policy.eventDays && ago now policy.historyDays ≤ t

/-- A round whose events are to be cleared. -/
def roundEligible (db : Tables) (r : MatchRound) : Bool :=
  r.events.isSome && db.games.any fun m => m.id == r.matchId && eventsExpired now policy m

def eligibleRounds (db : Tables) : List MatchRound := db.rounds.filter (roundEligible now policy db)

def eligibleMatches (db : Tables) : List Match := db.games.filter (matchEligible now policy)

/-- `ORDER BY r."createdAt", r."id"`. -/
def roundBefore (a b : MatchRound) : Prop := a.createdAt < b.createdAt ∨ a.createdAt = b.createdAt ∧ a.id ≤ b.id

/-- `ORDER BY "finishedAt", "id"`, of matches that are over. -/
def matchBefore (a b : Match) : Prop :=
  a.finishedAt.getD 0 < b.finishedAt.getD 0 ∨ a.finishedAt.getD 0 = b.finishedAt.getD 0 ∧ a.id ≤ b.id

instance : DecidableRel roundBefore := fun a b =>
  inferInstanceAs (Decidable (a.createdAt < b.createdAt ∨ a.createdAt = b.createdAt ∧ a.id ≤ b.id))

instance : DecidableRel matchBefore := fun a b =>
  inferInstanceAs (Decidable (a.finishedAt.getD 0 < b.finishedAt.getD 0 ∨
    a.finishedAt.getD 0 = b.finishedAt.getD 0 ∧ a.id ≤ b.id))

def roundBatch (db : Tables) : List MatchRound :=
  batch roundBefore (roundEligible now policy db) policy.batchSize db.rounds

def matchBatch (db : Tables) : List Match := batch matchBefore (matchEligible now policy) policy.batchSize db.games

/-- A round whose events may be cleared. -/
def cleared (ids : List String) (r : MatchRound) : MatchRound :=
  if ids.contains r.id then { r with events := none } else r

theorem cleared_id (ids : List String) (r : MatchRound) : (cleared ids r).id = r.id := by
  unfold cleared
  split <;> rfl

theorem cleared_matchId (ids : List String) (r : MatchRound) : (cleared ids r).matchId = r.matchId := by
  unfold cleared
  split <;> rfl

/-- `UPDATE "match_rounds" SET "events" = NULL` on a batch. -/
def clearEvents (db : Tables) : Tables :=
  { db with
    rounds := db.rounds.map (cleared ((roundBatch now policy db).map (·.id)))
    roundIds := by
      rw [List.map_map, show (MatchRound.id ∘ cleared _) = MatchRound.id from funext (cleared_id _)]
      exact db.roundIds
    gameOf := by
      intro r hr
      obtain ⟨r₀, hr₀, rfl⟩ := List.mem_map.1 hr
      rw [cleared_matchId]
      exact db.gameOf r₀ hr₀ }

/-- `DELETE FROM "matches"` on a batch; their rounds go with them. -/
def deleteMatches (db : Tables) : Tables :=
  let ids := (matchBatch now policy db).map (·.id)
  { games := db.games.filter fun m => !ids.contains m.id
    rounds := db.rounds.filter fun r => !ids.contains r.matchId
    gameIds := db.gameIds.sublist (List.filter_sublist.map _)
    roundIds := db.roundIds.sublist (List.filter_sublist.map _)
    gameOf := by
      intro r hr
      obtain ⟨hr, hkept⟩ := List.mem_filter.1 hr
      obtain ⟨m, hm, hid⟩ := db.gameOf r hr
      exact ⟨m, List.mem_filter.2 ⟨hm, by rwa [hid]⟩, hid⟩ }

/-! ## The run -/

structure RetentionReport where
  eventRowsEligible : Nat
  eventBytesEligible : Nat
  matchesEligible : Nat
  batchSize : Nat
  dryRun : Bool
  eventsCleared : Nat
  matchesDeleted : Nat
  deriving DecidableEq, Repr

variable (driver : Driver)

def clearQuery (db : Tables) : List Item × Tables :=
  let ids := (roundBatch now policy db).map (·.id)
  (driver .update (ids.map .id) ids.length, clearEvents now policy db)

def deleteQuery (db : Tables) : List Item × Tables :=
  let ids := (matchBatch now policy db).map (·.id)
  (driver .delete (ids.map .id) ids.length, deleteMatches now policy db)

/-- `while (true) { result = query(); count += result.length; if (result.length < batchSize) break; }`:
the count and the tables it ends with, `none` when it has not ended after
`fuel` statements. -/
def drain (query : Tables → List Item × Tables) (batchSize : Nat) : Nat → Tables → Nat → Option (Nat × Tables)
  | 0, _, _ => none
  | fuel + 1, db, count =>
    let result := (query db).1
    let count := count + result.length
    if result.length < batchSize then some (count, (query db).2) else drain query batchSize fuel (query db).2 count

variable (columnSize : List CombatEvent → Nat)

/-- `run` under a policy; `none` while a loop goes on. -/
def runPolicy (fuel : Nat) (dryRun : Bool) (db : Tables) : Option (Except String (RetentionReport × Tables)) :=
  let rounds := eligibleRounds now policy db
  let eventEligibility :=
    driver .select [.eventCounts rounds.length (rounds.map fun r => (r.events.map columnSize).getD 0).sum] 1
  let matchEligibility := driver .select [.matchCount (eligibleMatches now policy db).length] 1
  match eventEligibility.head?, matchEligibility.head? with
  | some (.row (.eventCounts rows bytes)), some (.row (.matchCount matchRows)) =>
    let report : RetentionReport :=
      { eventRowsEligible := rows, eventBytesEligible := bytes, matchesEligible := matchRows,
        batchSize := policy.batchSize, dryRun := dryRun, eventsCleared := 0, matchesDeleted := 0 }
    if dryRun then some (.ok (report, db))
    else do
      let (eventsCleared, db) ← drain (clearQuery now policy driver) policy.batchSize fuel db 0
      let (matchesDeleted, db) ← drain (deleteQuery now policy driver) policy.batchSize fuel db 0
      some (.ok ({ report with eventsCleared := eventsCleared, matchesDeleted := matchesDeleted }, db))
  | _, _ => some (.error "Cannot read properties of undefined (reading 'rows')")

def run (number : ToInteger) (env : String → Option String) (fuel : Nat) (dryRun : Bool) (db : Tables) :
    Option (Except String (RetentionReport × Tables)) :=
  match readPolicy number env with
  | .error message => some (.error message)
  | .ok policy => runPolicy now policy driver columnSize fuel dryRun db

/-! ## What a run changes -/

/-- The rounds that lost their events. -/
def clearedRounds (db db' : Tables) : List MatchRound :=
  db.rounds.filter fun r => r.events.isSome && db'.rounds.any fun r' => r'.id == r.id && r'.events.isNone

/-- The matches that are gone. -/
def deletedMatches (db db' : Tables) : List Match := db.games.filter fun m => db'.games.all fun m' => m'.id != m.id

/-- The run ends, leaves nothing eligible and reports what it changed. -/
def Drains (db : Tables) : Prop :=
  ∃ fuel report db', runPolicy now policy driver columnSize fuel false db = some (.ok (report, db')) ∧
    eligibleRounds now policy db' = [] ∧ eligibleMatches now policy db' = [] ∧
    report.eventsCleared = (clearedRounds db db').length ∧ report.matchesDeleted = (deletedMatches db db').length

section
variable {now : Int} {policy : Policy} {driver : Driver} {columnSize : List CombatEvent → Nat} {db : Tables}

theorem eventsExpired_not_matchEligible {m : Match} (h : eventsExpired now policy m = true) :
    matchEligible now policy m = false := by
  unfold eventsExpired at h
  unfold matchEligible
  cases hat : m.finishedAt with
  | none => simp
  | some t =>
    simp only [hat, Option.any_some, Bool.and_eq_true, decide_eq_true_eq] at h ⊢
    simp only [Bool.and_eq_false_imp, decide_eq_false_iff_not]
    intro _
    omega

/-- Statements of a two-element result end a loop at once, or never. -/
theorem drain_pair {query : Tables → List Item × Tables} (hpair : ∀ db, (query db).1.length = 2) (batchSize : Nat) :
    (2 < batchSize → ∀ fuel db count, drain query batchSize (fuel + 1) db count = some (count + 2, (query db).2)) ∧
      (batchSize ≤ 2 → ∀ fuel db count, drain query batchSize fuel db count = none) := by
  refine ⟨fun hlt fuel db count => ?_, fun hle fuel => ?_⟩
  · simp only [drain, hpair, if_pos hlt]
  · induction fuel with
    | zero => exact fun _ _ => rfl
    | succ fuel ih =>
      intro db count
      simp only [drain, hpair, if_neg (Nat.not_lt.2 hle)]
      exact ih _ _

theorem clearQuery_length (hdriver : Documented driver) (db : Tables) :
    (clearQuery now policy driver db).1.length = 2 := by
  simp only [clearQuery, hdriver.update]
  rfl

theorem deleteQuery_length (hdriver : Documented driver) (db : Tables) :
    (deleteQuery now policy driver db).1.length = 2 := by
  simp only [deleteQuery, hdriver.delete]
  rfl

/-- A run whose batches take more than two rows runs each statement once. -/
theorem runPolicy_once (hdriver : Documented driver) (hlt : 2 < policy.batchSize) (fuel : Nat) :
    ∃ report : RetentionReport, report.eventsCleared = 2 ∧ report.matchesDeleted = 2 ∧
      runPolicy now policy driver columnSize (fuel + 1) false db =
        some (.ok (report, deleteMatches now policy (clearEvents now policy db))) := by
  have hclear := (drain_pair (@clearQuery_length now policy driver hdriver) policy.batchSize).1 hlt
  have hdelete := (drain_pair (@deleteQuery_length now policy driver hdriver) policy.batchSize).1 hlt
  simp only [runPolicy, hdriver.select, List.map_cons, List.map_nil, List.head?_cons, hclear, hdelete]
  refine ⟨_, ?_, ?_, rfl⟩
  · rfl
  · rfl

theorem runPolicy_never (hdriver : Documented driver) (hle : policy.batchSize ≤ 2) (fuel : Nat) :
    runPolicy now policy driver columnSize fuel false db = none := by
  have hclear := (drain_pair (@clearQuery_length now policy driver hdriver) policy.batchSize).2 hle
  simp only [runPolicy, hdriver.select, List.map_cons, List.map_nil, List.head?_cons, hclear]
  rfl

/-! ## What is changed -/

theorem roundIds_unique {a b : MatchRound} (ha : a ∈ db.rounds) (hb : b ∈ db.rounds) (h : a.id = b.id) : a = b :=
  List.inj_on_of_nodup_map db.roundIds ha hb h

theorem gameIds_unique {a b : Match} (ha : a ∈ db.games) (hb : b ∈ db.games) (h : a.id = b.id) : a = b :=
  List.inj_on_of_nodup_map db.gameIds ha hb h

/-- A round whose events are cleared keeps its match. -/
theorem roundBatch_kept {r : MatchRound} (h : r ∈ roundBatch now policy db) :
    r.matchId ∉ (matchBatch now policy (clearEvents now policy db)).map (·.id) := by
  intro hgone
  obtain ⟨m', hm', hid'⟩ := List.mem_map.1 hgone
  have helig := (mem_batch h).2
  simp only [roundEligible, Bool.and_eq_true, List.any_eq_true, beq_iff_eq] at helig
  obtain ⟨-, m, hm, hid, hexpired⟩ := helig
  obtain rfl : m' = m := gameIds_unique (mem_batch hm').1 hm (hid'.trans hid.symm)
  have hover := (mem_batch hm').2
  rw [eventsExpired_not_matchEligible hexpired] at hover
  cases hover

theorem clearedRounds_length :
    (clearedRounds db (deleteMatches now policy (clearEvents now policy db))).length =
      (roundBatch now policy db).length := by
  rw [roundBatch, ← length_filter_batch db.roundIds]
  refine congrArg List.length (List.filter_congr fun r hr => ?_)
  rw [Bool.eq_iff_iff, Bool.and_eq_true, List.any_eq_true, List.contains_iff_mem]
  constructor
  · rintro ⟨hsome, r', hr', hnone⟩
    obtain ⟨r₀, hr₀, rfl⟩ := List.mem_map.1 (List.mem_filter.1 hr').1
    simp only [cleared_id, Bool.and_eq_true, beq_iff_eq] at hnone
    obtain rfl : r₀ = r := roundIds_unique hr₀ hr hnone.1
    by_contra hout
    have hkept : cleared ((roundBatch now policy db).map (·.id)) r₀ = r₀ := by
      unfold cleared
      rw [if_neg (by rwa [List.contains_iff_mem])]
    rw [hkept] at hnone
    cases hevents : r₀.events <;> simp [hevents] at hsome hnone
  · intro hin
    have hin : r.id ∈ (roundBatch now policy db).map (·.id) := hin
    obtain ⟨b, hb, hid⟩ := List.mem_map.1 hin
    obtain rfl : b = r := roundIds_unique (mem_batch hb).1 hr hid
    have helig := (mem_batch hb).2
    simp only [roundEligible, Bool.and_eq_true] at helig
    refine ⟨helig.1, cleared ((roundBatch now policy db).map (·.id)) b, ?_, ?_⟩
    · refine List.mem_filter.2 ⟨List.mem_map_of_mem hr, ?_⟩
      rw [cleared_matchId]
      simpa using roundBatch_kept hb
    · unfold cleared
      rw [if_pos (List.contains_iff_mem.2 hin)]
      simp

theorem deletedMatches_length :
    (deletedMatches db (deleteMatches now policy (clearEvents now policy db))).length =
      (matchBatch now policy db).length := by
  rw [matchBatch, ← length_filter_batch db.gameIds]
  refine congrArg List.length (List.filter_congr fun m hm => ?_)
  rw [Bool.eq_iff_iff, List.all_eq_true, List.contains_iff_mem]
  constructor
  · intro hgone
    by_contra hout
    have hkept : m ∈ (deleteMatches now policy (clearEvents now policy db)).games :=
      List.mem_filter.2 ⟨hm, by rw [Bool.not_eq_true', ← Bool.not_eq_true, List.contains_iff_mem]; exact hout⟩
    simpa using hgone m hkept
  · intro hin m' hm'
    have hkept := (List.mem_filter.1 hm').2
    rw [Bool.not_eq_true', ← Bool.not_eq_true, List.contains_iff_mem] at hkept
    rw [bne_iff_ne]
    rintro hid
    exact hkept (hid ▸ hin)

/-- Batches that are not full leave nothing eligible. -/
theorem eligibleRounds_drained (h : (eligibleRounds now policy db).length ≤ policy.batchSize) :
    eligibleRounds now policy (deleteMatches now policy (clearEvents now policy db)) = [] := by
  rw [List.eq_nil_iff_forall_not_mem]
  intro r' hr'
  obtain ⟨hr', helig⟩ := List.mem_filter.1 hr'
  obtain ⟨r, hr, rfl⟩ := List.mem_map.1 (List.mem_filter.1 hr').1
  simp only [roundEligible, Bool.and_eq_true, List.any_eq_true, beq_iff_eq, cleared_matchId] at helig
  obtain ⟨hsome, m, hm, hgame⟩ := helig
  by_cases hin : r.id ∈ (roundBatch now policy db).map (·.id)
  · unfold cleared at hsome
    rw [if_pos (List.contains_iff_mem.2 hin)] at hsome
    cases hsome
  · unfold cleared at hsome
    rw [if_neg (by rwa [List.contains_iff_mem])] at hsome
    have hbefore : roundEligible now policy db r = true := by
      simp only [roundEligible, Bool.and_eq_true, List.any_eq_true, beq_iff_eq]
      exact ⟨hsome, m, (List.mem_filter.1 hm).1, hgame⟩
    exact hin (List.mem_map_of_mem (mem_batch_of_le h hr hbefore))

theorem eligibleMatches_drained (h : (eligibleMatches now policy db).length ≤ policy.batchSize) :
    eligibleMatches now policy (deleteMatches now policy (clearEvents now policy db)) = [] := by
  rw [List.eq_nil_iff_forall_not_mem]
  intro m hm
  obtain ⟨hm, helig⟩ := List.mem_filter.1 hm
  obtain ⟨hm, hkept⟩ := List.mem_filter.1 hm
  rw [Bool.not_eq_true', ← Bool.not_eq_true, List.contains_iff_mem] at hkept
  have hin : m ∈ matchBatch now policy (clearEvents now policy db) := mem_batch_of_le h hm helig
  exact hkept (List.mem_map_of_mem hin)

end

/-- **Retention drains and reports what it promises only by coincidence**: when
batches take more than two rows and exactly two rounds and two matches are
eligible. -/
theorem drains_iff (now : Int) (policy : Policy) {driver : Driver} (hdriver : Documented driver)
    (columnSize : List CombatEvent → Nat) (db : Tables) :
    Drains now policy driver columnSize db ↔
      3 ≤ policy.batchSize ∧ (eligibleRounds now policy db).length = 2 ∧
        (eligibleMatches now policy db).length = 2 := by
  have hrounds : (roundBatch now policy db).length = min policy.batchSize (eligibleRounds now policy db).length :=
    length_batch
  have hmatches : (matchBatch now policy db).length = min policy.batchSize (eligibleMatches now policy db).length :=
    length_batch
  constructor
  · rintro ⟨fuel, report, db', hrun, -, -, hevents, hdeleted⟩
    by_cases hle : policy.batchSize ≤ 2
    · rw [runPolicy_never hdriver hle] at hrun
      cases hrun
    cases fuel with
    | zero =>
      simp only [runPolicy, hdriver.select, List.map_cons, List.map_nil, List.head?_cons, drain] at hrun
      cases hrun
    | succ fuel =>
      obtain ⟨report', htwo, htwo', hrun'⟩ := @runPolicy_once now policy driver columnSize db hdriver
        (by omega) fuel
      rw [hrun'] at hrun
      injection hrun with hrun
      injection hrun with hrun
      injection hrun with hreport hdb
      subst hreport hdb
      rw [clearedRounds_length] at hevents
      rw [deletedMatches_length] at hdeleted
      omega
  · rintro ⟨hbatch, hn, hm⟩
    obtain ⟨report, htwo, htwo', hrun⟩ := @runPolicy_once now policy driver columnSize db hdriver
      (by omega) 0
    refine ⟨1, report, _, hrun, eligibleRounds_drained (by omega), eligibleMatches_drained (by omega), ?_, ?_⟩
    · rw [clearedRounds_length]
      omega
    · rw [deletedMatches_length]
      omega

/-! ## Two databases -/

def typeorm : Driver := fun command rows n =>
  match command with
  | .select => rows.map .row
  | .update | .delete => [.rows rows, .count n]

theorem typeorm_documented : Documented typeorm := ⟨fun _ _ => rfl, fun _ _ => rfl, fun _ _ => rfl⟩

def defaults : Policy where
  eventDays := DEFAULT_EVENT_DAYS
  historyDays := DEFAULT_HISTORY_DAYS
  batchSize := DEFAULT_BATCH_SIZE
  event_pos := by decide
  batch_pos := by decide
  event_le := by decide

/-- Two rounds of a match of last spring, and two matches of years ago. -/
def twoOfEach : Tables where
  games := [⟨"spring", .finished, some (-100 * DAY)⟩, ⟨"old", .finished, some (-900 * DAY)⟩,
    ⟨"older", .forfeited, some (-1000 * DAY)⟩]
  rounds := [⟨"r1", "spring", some [], -100 * DAY⟩, ⟨"r2", "spring", some [], -100 * DAY⟩]
  gameIds := by decide
  roundIds := by decide
  gameOf := by decide

theorem twoOfEach_drains : Drains 0 defaults typeorm List.length twoOfEach :=
  (drains_iff 0 defaults typeorm_documented List.length twoOfEach).2 ⟨by decide, by decide, by decide⟩

def noTables : Tables := ⟨[], [], by decide, by decide, by decide⟩

/-- With nothing to do, a run reports two rounds cleared and two matches deleted. -/
theorem noTables_misreported : ¬ Drains 0 defaults typeorm List.length noTables := by
  rintro ⟨fuel, report, db', hrun, -, -, hevents, -⟩
  cases fuel with
  | zero => cases hrun
  | succ fuel =>
    obtain ⟨report', htwo, -, hrun'⟩ :=
      @runPolicy_once 0 defaults typeorm List.length noTables typeorm_documented (by decide) fuel
    rw [hrun'] at hrun
    injection hrun with hrun
    injection hrun with hrun
    injection hrun with hreport hdb
    subst hreport hdb
    rw [htwo] at hevents
    cases hevents

end AutoChess.Retention
