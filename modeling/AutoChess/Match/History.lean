/-
The match history and detail of `MatchService`, over the tables of the
caches' model. `createdAt` is a column nobody writes, given by the match id.
`ORDER BY` leaves rows of one time in any order; here they keep the table's.
-/
import AutoChess.Match.Rated

namespace AutoChess.Finals

open AutoChess.Runtime (MatchRow MatchStatus MatchEndReason RatingChange isPlayer)
open AutoChess.Caches (Tables Arithmetic findUser counted countMatches)
open AutoChess.Game (CombatEvent)
open Calls

def HISTORY_LIMIT : Nat := 50

inductive MatchOutcome where
  | self | opponent
  deriving DecidableEq, Repr

structure HistoryEntry where
  matchId : String
  opponentId : String
  opponentUsername : Option String
  winner : Option MatchOutcome
  status : MatchStatus
  rounds : Nat
  createdAt : Nat
  /-- In seconds. -/
  duration : Option Nat
  deriving DecidableEq, Repr

structure DetailPlayer where
  id : String
  username : Option String
  deriving DecidableEq, Repr

structure MatchDetail where
  matchId : String
  players : List DetailPlayer
  winnerId : Option String
  winner : Option String
  status : MatchStatus
  rounds : List (Nat × List CombatEvent)
  createdAt : Nat
  finishedAt : Option Nat
  deriving DecidableEq

variable (createdAt : String → Nat)

/-- `ORDER BY match."createdAt" DESC`. -/
def newerFirst (a b : MatchRow) : Prop := createdAt b.id ≤ createdAt a.id

instance : DecidableRel (newerFirst createdAt) := fun a b =>
  inferInstanceAs (Decidable (createdAt b.id ≤ createdAt a.id))

/-- The user's matches that are over, newest first. -/
def finishedMatches (userId : String) (db : Tables) : List MatchRow :=
  (db.games.filter (counted userId)).insertionSort (newerFirst createdAt)

def findHistoryByUserId (userId : String) (limit : Nat) (db : Tables) : List MatchRow :=
  (finishedMatches createdAt userId db).take (min (max limit 1) 50)

def outcomeFor (row : MatchRow) (userId : String) : Option MatchOutcome :=
  row.winnerId.map fun winner => if winner = userId then .self else .opponent

def username (userId : String) (db : Tables) : Option String := (findUser userId db).map (·.username)

/-- The opponent in the history: the first player, unless that is the user. -/
def opponentOf (row : MatchRow) (userId : String) : String :=
  if row.player1Id = userId then row.player2Id else row.player1Id

def historyEntry (userId : String) (db : Tables) (row : MatchRow) : HistoryEntry where
  matchId := row.id
  opponentId := opponentOf row userId
  opponentUsername := username (opponentOf row userId) db
  winner := outcomeFor row userId
  status := row.status
  rounds := row.rounds.length
  createdAt := createdAt row.id
  duration := row.finishedAt.map fun finishedAt => (finishedAt - createdAt row.id) / 1000

def getHistory (userId : String) (db : Tables) : List HistoryEntry :=
  (findHistoryByUserId createdAt userId HISTORY_LIMIT db).map (historyEntry createdAt userId db)

/-- `ORDER BY "roundNumber" ASC`. -/
def findRounds (row : MatchRow) : List (Nat × List CombatEvent) := row.rounds.insertionSort fun a b => a.1 ≤ b.1

inductive DetailError where
  | notFound (code message : String)
  | forbidden (code message : String)
  deriving DecidableEq, Repr

def getDetail (matchId userId : String) (db : Tables) : Except DetailError MatchDetail :=
  match findMatch matchId db with
  | none => .error (.notFound "match.not_found" s!"Match {matchId} not found")
  | some row =>
    if row.player1Id ≠ userId ∧ row.player2Id ≠ userId then
      .error (.forbidden "match.not_your_match" "You are not a participant in this match")
    else
      .ok {
        matchId := row.id
        players := [row.player1Id, row.player2Id].map fun id => ⟨id, username id db⟩
        winnerId := row.winnerId
        winner := row.winnerId.bind fun winner =>
          if winner = row.player1Id ∨ winner = row.player2Id then username winner db else none
        status := row.status
        rounds := findRounds row
        createdAt := createdAt row.id
        finishedAt := row.finishedAt }

/-! ## The history and the statistics -/

variable {createdAt}

theorem finishedMatches_perm (userId : String) (db : Tables) :
    (finishedMatches createdAt userId db).Perm (db.games.filter (counted userId)) := List.perm_insertionSort _ _

theorem finishedMatches_length (userId : String) (db : Tables) :
    (finishedMatches createdAt userId db).length = (countMatches userId db).played := by
  rw [(finishedMatches_perm userId db).length_eq, ← List.countP_eq_length_filter]
  rfl

theorem mem_finishedMatches {userId : String} {db : Tables} {row : MatchRow} :
    row ∈ finishedMatches createdAt userId db ↔ row ∈ db.games ∧ counted userId row = true := by
  rw [finishedMatches, List.mem_insertionSort, List.mem_filter]

theorem finishedMatches_sorted (userId : String) (db : Tables) :
    (finishedMatches createdAt userId db).Pairwise (newerFirst createdAt) := by
  have htotal : Std.Total (newerFirst createdAt) := ⟨fun a b => Nat.le_total _ _⟩
  have htrans : IsTrans MatchRow (newerFirst createdAt) := ⟨fun a b c hab hbc => Nat.le_trans hbc hab⟩
  exact List.pairwise_insertionSort _ _

theorem findHistory_eq (userId : String) (db : Tables) :
    findHistoryByUserId createdAt userId HISTORY_LIMIT db = (finishedMatches createdAt userId db).take 50 := rfl

theorem outcome_self {row : MatchRow} {userId : String} :
    outcomeFor row userId = some .self ↔ row.winnerId = some userId := by
  cases hwinner : row.winnerId with
  | none => simp [outcomeFor, hwinner]
  | some winner => by_cases hw : winner = userId <;> simp [outcomeFor, hwinner, hw]

theorem outcome_opponent {row : MatchRow} {userId : String} :
    outcomeFor row userId = some .opponent ↔ ∃ winner, row.winnerId = some winner ∧ winner ≠ userId := by
  cases hwinner : row.winnerId with
  | none => simp [outcomeFor, hwinner]
  | some winner => by_cases hw : winner = userId <;> simp [outcomeFor, hwinner, hw]

/-- A count over all the user's matches is a count in the table. -/
theorem countP_finished (userId : String) (db : Tables) (p : MatchRow → Bool) :
    (finishedMatches createdAt userId db).countP p = db.games.countP fun row => counted userId row && p row := by
  rw [(finishedMatches_perm userId db).countP_eq, List.countP_filter]
  simp [Bool.and_comm]

theorem counted_player {userId : String} {row : MatchRow} (h : counted userId row = true) :
    row.status ≠ .in_progress ∧ (row.player1Id = userId ∨ row.player2Id = userId) := by
  simp only [counted, Bool.and_eq_true, Bool.or_eq_true, beq_iff_eq] at h
  refine ⟨fun hopen => ?_, h.2⟩
  rw [hopen] at h
  simp at h

theorem mem_getHistory {userId : String} {db : Tables} {e : HistoryEntry} (he : e ∈ getHistory createdAt userId db) :
    ∃ row ∈ db.games, counted userId row ∧ e = historyEntry createdAt userId db row := by
  rw [getHistory, findHistory_eq] at he
  obtain ⟨row, hrow, rfl⟩ := List.mem_map.1 he
  obtain ⟨hmem, hcounted⟩ := mem_finishedMatches.1 (List.mem_of_mem_take hrow)
  exact ⟨row, hmem, hcounted, rfl⟩

theorem findMatch_of_mem {db : Tables} {row : MatchRow} (h : row ∈ db.games) : findMatch row.id db = some row := by
  cases hfound : findMatch row.id db with
  | none =>
    have hother := List.find?_eq_none.1 hfound row h
    simp at hother
  | some other =>
    have hid : other.id = row.id := by simpa using List.find?_some hfound
    rw [List.inj_on_of_nodup_map db.ids (List.mem_of_find?_eq_some hfound) h hid]

/-- What the history lists has a detail, which says the same of it. -/
theorem getDetail_of_history {userId : String} {db : Tables} {e : HistoryEntry}
    (he : e ∈ getHistory createdAt userId db) :
    ∃ detail, getDetail createdAt e.matchId userId db = .ok detail ∧ detail.matchId = e.matchId ∧
      detail.status = e.status ∧ detail.createdAt = e.createdAt ∧ detail.rounds.length = e.rounds ∧
      (e.winner = some .self ↔ detail.winnerId = some userId) ∧
      ⟨e.opponentId, e.opponentUsername⟩ ∈ detail.players := by
  obtain ⟨row, hmem, hcounted, rfl⟩ := mem_getHistory he
  have hplayer : ¬(row.player1Id ≠ userId ∧ row.player2Id ≠ userId) := fun hneither =>
    (counted_player hcounted).2.elim hneither.1 hneither.2
  unfold getDetail
  rw [show findMatch (historyEntry createdAt userId db row).matchId db = some row from findMatch_of_mem hmem]
  dsimp only
  rw [if_neg hplayer]
  refine ⟨_, rfl, rfl, rfl, rfl, ?_, outcome_self, ?_⟩
  · exact List.length_insertionSort _ _
  · simp only [historyEntry, opponentOf, List.map_cons, List.map_nil, List.mem_cons, List.not_mem_nil, or_false]
    split
    · exact .inr rfl
    · exact .inl rfl

/-- What the history says, beside the statistics. -/
structure HistoryLaw (createdAt : String → Nat) (userId : String) (db : Tables) (history : List HistoryEntry) :
    Prop where
  length : history.length = min 50 (countMatches userId db).played
  order : history.Pairwise fun a b => b.createdAt ≤ a.createdAt
  once : (history.map (·.matchId)).Nodup
  entries : ∀ e ∈ history, ∃ row ∈ db.games, counted userId row ∧ e = historyEntry createdAt userId db row
  /-- What is left out is no newer. -/
  newest : ∀ row ∈ db.games, counted userId row → row.id ∈ history.map (·.matchId) ∨
    ∀ e ∈ history, createdAt row.id ≤ e.createdAt
  wins : history.countP (·.winner == some .self) ≤ (countMatches userId db).wins
  losses : history.countP (·.winner == some .opponent) ≤ (countMatches userId db).losses
  complete : (countMatches userId db).played ≤ 50 →
    history.countP (·.winner == some .self) = (countMatches userId db).wins ∧
      history.countP (·.winner == some .opponent) = (countMatches userId db).losses

theorem wins_eq (userId : String) (db : Tables) :
    (finishedMatches createdAt userId db).countP (fun row => outcomeFor row userId == some .self) =
      (countMatches userId db).wins := by
  rw [countP_finished]
  refine List.countP_congr fun row _ => ?_
  simp only [Bool.and_eq_true, beq_iff_eq, outcome_self]

theorem losses_eq (userId : String) (db : Tables) :
    (finishedMatches createdAt userId db).countP (fun row => outcomeFor row userId == some .opponent) =
      (countMatches userId db).losses := by
  rw [countP_finished]
  refine List.countP_congr fun row _ => ?_
  simp only [Bool.and_eq_true, beq_iff_eq, outcome_opponent, Option.any_eq_true, bne_iff_ne, ne_eq]

/-- **The history** is the newest part of what the statistics count. -/
theorem getHistory_law (createdAt : String → Nat) (userId : String) (db : Tables) :
    HistoryLaw createdAt userId db (getHistory createdAt userId db) := by
  have htake : ∀ p : HistoryEntry → Bool, (getHistory createdAt userId db).countP p =
      ((finishedMatches createdAt userId db).take 50).countP (p ∘ historyEntry createdAt userId db) := by
    intro p
    rw [getHistory, findHistory_eq, List.countP_map]
  refine ⟨?_, ?_, ?_, ?_, ?_, ?_, ?_, ?_⟩
  · rw [getHistory, findHistory_eq, List.length_map, List.length_take, finishedMatches_length]
  · rw [getHistory, List.pairwise_map, findHistory_eq]
    exact (finishedMatches_sorted userId db).take
  · rw [getHistory, findHistory_eq, List.map_map]
    have hnodup : ((finishedMatches createdAt userId db).map (·.id)).Nodup := by
      rw [((finishedMatches_perm userId db).map (·.id)).nodup_iff]
      exact db.ids.sublist (List.filter_sublist.map _)
    exact hnodup.sublist ((List.take_sublist _ _).map _)
  · exact fun e he => mem_getHistory he
  · intro row hmem hcounted
    have hrow : row ∈ finishedMatches createdAt userId db := mem_finishedMatches.2 ⟨hmem, hcounted⟩
    have hsorted := @finishedMatches_sorted createdAt userId db
    rw [← List.take_append_drop 50 (finishedMatches createdAt userId db)] at hrow hsorted
    rcases List.mem_append.1 hrow with hin | hout
    · exact .inl (List.mem_map.2 ⟨_, List.mem_map_of_mem hin, rfl⟩)
    · refine .inr fun e he => ?_
      obtain ⟨other, hother, rfl⟩ := List.mem_map.1 he
      exact (List.pairwise_append.1 hsorted).2.2 other hother row hout
  · rw [htake, ← @wins_eq createdAt]
    exact (List.take_sublist _ _).countP_le
  · rw [htake, ← @losses_eq createdAt]
    exact (List.take_sublist _ _).countP_le
  · intro hplayed
    rw [← @finishedMatches_length createdAt] at hplayed
    rw [htake, htake, List.take_of_length_le hplayed]
    exact ⟨wins_eq userId db, losses_eq userId db⟩

/-! ## Runs -/

/-- Only a match that is over has a winner, one of its players. -/
def Decided (db : Tables) : Prop :=
  ∀ row ∈ db.games, ∀ winner, row.winnerId = some winner → isPlayer row winner

variable {arithmetic : Arithmetic}

theorem Commits.decided {now : Nat} {matchId : String} {winnerId : Option String} {reason : MatchEndReason}
    {db db' : Tables} {row : MatchRow} {rating : Option (RatingChange × RatingChange)}
    (h : Commits arithmetic now matchId winnerId reason db db' row rating) (hdecided : Decided db) : Decided db' := by
  intro g hg winner hwinner
  rcases (h.mem_iff g).1 hg with rfl | ⟨hmem, -⟩
  · have heq : g.winnerId = winnerId := by
      obtain ⟨old, -, -, rfl⟩ := h.open_row
      rfl
    have hrates := h.rates
    generalize db'.users = users at hrates
    cases hrates with
    | draw => simp [heq] at hwinner
    | won winner' p1 p2 hplayer hp1 hp2 =>
      rw [heq] at hwinner
      exact Option.some.inj hwinner ▸ hplayer
  · exact hdecided g hmem winner hwinner

theorem does_decided {e : FinalEvent} (hdoes : (pool arithmetic).Does e) (h : Sound e.before.db ∧ Decided e.before.db) :
    Sound e.after.db ∧ Decided e.after.db := by
  refine ⟨does_sound hdoes h.1, ?_⟩
  rcases does_cases h.1 hdoes with ⟨-, hsame⟩ | ⟨_, _, _, _, _, -, -, hcommits⟩
  · rw [hsame]
    exact h.2
  · exact hcommits.decided h.2

def MatchOutcome.flip : MatchOutcome → MatchOutcome
  | .self => .opponent
  | .opponent => .self

/-- The other player's entry of the match. -/
structure Mirrored (userId : String) (e e' : HistoryEntry) : Prop where
  opponent : e'.opponentId = userId
  winner : e'.winner = e.winner.map .flip
  status : e'.status = e.status
  rounds : e'.rounds = e.rounds
  createdAt : e'.createdAt = e.createdAt
  duration : e'.duration = e.duration

theorem historyEntry_mirrored {db : Tables} {row : MatchRow} {userId : String}
    (hne : row.player1Id ≠ row.player2Id) (hdecided : ∀ winner, row.winnerId = some winner → isPlayer row winner)
    (hplayer : row.player1Id = userId ∨ row.player2Id = userId) :
    Mirrored userId (historyEntry createdAt userId db row)
      (historyEntry createdAt (opponentOf row userId) db row) := by
  have hopponent : opponentOf row (opponentOf row userId) = userId := by
    rcases hplayer with rfl | rfl
    · simp [opponentOf, hne]
    · simp [opponentOf, hne]
  refine ⟨hopponent, ?_, rfl, rfl, rfl, rfl⟩
  cases hwinner : row.winnerId with
  | none => simp [historyEntry, outcomeFor, hwinner]
  | some winner =>
    have hw : row.player1Id = winner ∨ row.player2Id = winner := by
      simpa [isPlayer] using hdecided winner hwinner
    have hswap : winner = opponentOf row userId ↔ winner ≠ userId := by
      unfold opponentOf
      rcases hplayer with rfl | rfl <;> rcases hw with rfl | rfl <;> simp [hne, hne.symm]
    by_cases hself : winner = userId
    · have hother : winner ≠ opponentOf row userId := fun heq => hswap.1 heq hself
      simp [historyEntry, outcomeFor, hwinner, hself, hself ▸ hother, MatchOutcome.flip]
    · have hother : winner = opponentOf row userId := hswap.2 hself
      simp [historyEntry, outcomeFor, hwinner, hself, ← hother, MatchOutcome.flip]

/-- What two histories say of one match. -/
structure SameResult (e e' : HistoryEntry) : Prop where
  opponent : e'.opponentId = e.opponentId
  winner : e'.winner = e.winner
  status : e'.status = e.status
  createdAt : e'.createdAt = e.createdAt
  duration : e'.duration = e.duration

/-- The tables of a run so far, and of any way it goes on. -/
structure HistoryRun (createdAt : String → Nat) (db db' : Tables) : Prop where
  /-- What a history said of a match, every later one says. -/
  stable : ∀ userId, ∀ e ∈ getHistory createdAt userId db, ∀ e' ∈ getHistory createdAt userId db',
    e'.matchId = e.matchId → SameResult e e'
  mirrored : ∀ userId, ∀ e ∈ getHistory createdAt userId db, ∀ e' ∈ getHistory createdAt e.opponentId db,
    e'.matchId = e.matchId → Mirrored userId e e'

theorem historyRun_of_keeps {db db' : Tables} (hsound : Sound db) (hdecided : Decided db)
    (hkeeps : ∀ row ∈ db.games, row.status ≠ .in_progress → row ∈ db'.games) : HistoryRun createdAt db db' := by
  refine ⟨fun userId e he e' he' hid => ?_, fun userId e he e' he' hid => ?_⟩
  · obtain ⟨row, hrow, hcounted, rfl⟩ := mem_getHistory he
    obtain ⟨row', hrow', -, rfl⟩ := mem_getHistory he'
    have hsame : row' = row := db'.row_unique hrow' (hkeeps row hrow (counted_player hcounted).1) hid
    subst hsame
    exact ⟨rfl, rfl, rfl, rfl, rfl⟩
  · obtain ⟨row, hrow, hcounted, rfl⟩ := mem_getHistory he
    obtain ⟨row', hrow', -, rfl⟩ := mem_getHistory he'
    have hsame : row' = row := db.row_unique hrow' hrow hid
    subst hsame
    exact historyEntry_mirrored (hsound.players _ hrow) (hdecided _ hrow) (counted_player hcounted).2

/-- **A history is never taken back**, and the two players' histories agree. -/
theorem run_history (arithmetic : Arithmetic) (createdAt : String → Nat) {db : Tables} (hsound : Sound db)
    (hdecided : Decided db) (moves more : List (Move Request Nat)) :
    HistoryRun createdAt (world arithmetic moves db).store.db
      ((pool arithmetic).run (world arithmetic moves db) more).store.db := by
  have hstart : Sound (world arithmetic moves db).store.db ∧ Decided (world arithmetic moves db).store.db :=
    Pool.run_keeps (I := fun s : Caches.Store => Sound s.db ∧ Decided s.db) (fun _ _ h => h)
      (fun _ => does_decided) moves ⟨hsound, hdecided⟩
  refine historyRun_of_keeps hstart.1 hstart.2 fun row hrow hclosed => ?_
  have hkept : Sound ((pool arithmetic).run (world arithmetic moves db) more).store.db ∧
      row ∈ ((pool arithmetic).run (world arithmetic moves db) more).store.db.games :=
    Pool.run_keeps (I := fun s : Caches.Store => Sound s.db ∧ row ∈ s.db.games) (fun _ _ h => h)
      (fun _ hdoes h => ⟨does_sound hdoes h.1, does_keeps hdoes h.2 hclosed h.1⟩) more ⟨hstart.1, hrow⟩
  exact hkept.2

/-! ## Wins and losses -/

/-- Counting by columns is counting by rows. -/
theorem sum_countP_comm {α β : Type} (p : α → β → Bool) (as : List α) (bs : List β) :
    (as.map fun a => bs.countP (p a)).sum = (bs.map fun b => as.countP (p · b)).sum := by
  induction bs with
  | nil => simp
  | cons b bs ih =>
    have hsplit : (as.map fun a => (b :: bs).countP (p a)).sum =
        (as.map fun a => bs.countP (p a)).sum + as.countP (p · b) := by
      clear ih
      induction as with
      | nil => simp
      | cons a as ih =>
        simp only [List.map_cons, List.sum_cons, List.countP_cons] at ih ⊢
        omega
    rw [hsplit, ih, List.map_cons, List.sum_cons, Nat.add_comm]

/-- A decided match, over and with a winner. -/
def decisive (row : MatchRow) : Bool := (row.status == .finished || row.status == .forfeited) && row.winnerId.isSome

section
variable {ids : List String} {row : MatchRow}

theorem not_decisive (h : decisive row = false) (userId : String) :
    counted userId row = false ∨ row.winnerId = none := by
  simp only [decisive, Bool.and_eq_false_iff, Option.isSome_eq_false_iff, Option.isNone_iff_eq_none] at h
  rcases h with hstatus | hnone
  · exact .inl (by simp [counted, hstatus])
  · exact .inr hnone

theorem counted_iff (h : decisive row = true) (userId : String) :
    counted userId row = true ↔ row.player1Id = userId ∨ row.player2Id = userId := by
  simp only [decisive, Bool.and_eq_true] at h
  simp [counted, h.1]

/-- One of the users has won a decided match. -/
theorem winners_of_row (hids : ids.Nodup) (hplayer : ∀ winner, row.winnerId = some winner → isPlayer row winner)
    (h1 : row.player1Id ∈ ids) (h2 : row.player2Id ∈ ids) :
    ids.countP (fun userId => counted userId row && row.winnerId == some userId) = if decisive row then 1 else 0 := by
  cases hdecisive : decisive row with
  | false =>
    refine List.countP_eq_zero.2 fun userId _ => ?_
    rcases not_decisive hdecisive userId with h | h <;> simp [h]
  | true =>
    obtain ⟨winner, hwinner⟩ := Option.isSome_iff_exists.1 (Bool.and_eq_true_iff.1 hdecisive).2
    have hw : row.player1Id = winner ∨ row.player2Id = winner := by simpa [isPlayer] using hplayer winner hwinner
    have hmem : winner ∈ ids := by rcases hw with rfl | rfl <;> assumption
    have hcount := List.count_eq_one_of_mem hids hmem
    rw [List.count] at hcount
    refine (List.countP_congr fun userId _ => ?_).trans hcount
    simp only [Bool.and_eq_true, counted_iff hdecisive, hwinner, beq_iff_eq, Option.some.injEq]
    exact ⟨fun h => h.2.symm, fun h => ⟨h ▸ hw, h.symm⟩⟩

/-- One of the users has lost it. -/
theorem losers_of_row (hids : ids.Nodup) (hne : row.player1Id ≠ row.player2Id)
    (hplayer : ∀ winner, row.winnerId = some winner → isPlayer row winner) (h1 : row.player1Id ∈ ids)
    (h2 : row.player2Id ∈ ids) :
    ids.countP (fun userId => counted userId row && row.winnerId.any (· != userId)) =
      if decisive row then 1 else 0 := by
  cases hdecisive : decisive row with
  | false =>
    refine List.countP_eq_zero.2 fun userId _ => ?_
    rcases not_decisive hdecisive userId with h | h <;> simp [h]
  | true =>
    obtain ⟨winner, hwinner⟩ := Option.isSome_iff_exists.1 (Bool.and_eq_true_iff.1 hdecisive).2
    have hw : row.player1Id = winner ∨ row.player2Id = winner := by simpa [isPlayer] using hplayer winner hwinner
    have hmem : opponentOf row winner ∈ ids := by
      unfold opponentOf
      split <;> assumption
    have hcount := List.count_eq_one_of_mem hids hmem
    rw [List.count] at hcount
    refine (List.countP_congr fun userId _ => ?_).trans hcount
    simp only [Bool.and_eq_true, counted_iff hdecisive, hwinner, beq_iff_eq, Option.any_some, bne_iff_ne, ne_eq]
    unfold opponentOf
    rcases hw with rfl | rfl
    · rw [if_pos rfl]
      exact ⟨fun h => (h.1.resolve_left h.2).symm, fun h => ⟨.inr h.symm, h ▸ hne⟩⟩
    · rw [if_neg hne]
      exact ⟨fun h => (h.1.resolve_right h.2).symm, fun h => ⟨.inl h.symm, h ▸ hne.symm⟩⟩

end

/-- The players of the matches have accounts. -/
def Peopled (db : Tables) : Prop :=
  ∀ row ∈ db.games, row.player1Id ∈ db.users.map (·.id) ∧ row.player2Id ∈ db.users.map (·.id)

theorem wins_eq_losses {db : Tables} (hsound : Sound db) (hdecided : Decided db) (hpeopled : Peopled db) :
    ((db.users.map (·.id)).map fun userId => (countMatches userId db).wins).sum =
      ((db.users.map (·.id)).map fun userId => (countMatches userId db).losses).sum := by
  have hwins := sum_countP_comm (fun userId row => counted userId row && row.winnerId == some userId)
    (db.users.map (·.id)) db.games
  have hlosses := sum_countP_comm (fun userId row => counted userId row && row.winnerId.any (· != userId))
    (db.users.map (·.id)) db.games
  refine hwins.trans (Eq.trans (congrArg List.sum (List.map_congr_left fun row hrow => ?_)) hlosses.symm)
  obtain ⟨h1, h2⟩ := hpeopled row hrow
  rw [winners_of_row hsound.users (hdecided row hrow) h1 h2,
    losers_of_row hsound.users (hsound.players row hrow) (hdecided row hrow) h1 h2]

theorem does_peopled {e : FinalEvent} (hdoes : (pool arithmetic).Does e)
    (h : Sound e.before.db ∧ Peopled e.before.db) : Sound e.after.db ∧ Peopled e.after.db := by
  refine ⟨does_sound hdoes h.1, ?_⟩
  rcases does_cases h.1 hdoes with ⟨-, hsame⟩ | ⟨_, _, _, row, _, -, -, hcommits⟩
  · rw [hsame]
    exact h.2
  · intro g hg
    rw [hcommits.rates.ids]
    rcases (hcommits.mem_iff g).1 hg with rfl | ⟨hmem, -⟩
    · obtain ⟨old, hfound, -, rfl⟩ := hcommits.open_row
      exact h.2 old (List.mem_of_find?_eq_some hfound)
    · exact h.2 g hmem

/-- **Every win is somebody's loss**, at any time of any run. -/
theorem run_wins_losses (arithmetic : Arithmetic) {db : Tables} (hsound : Sound db) (hdecided : Decided db)
    (hpeopled : Peopled db) (moves : List (Move Request Nat)) :
    (((world arithmetic moves db).store.db.users.map (·.id)).map fun userId =>
        (countMatches userId (world arithmetic moves db).store.db).wins).sum =
      (((world arithmetic moves db).store.db.users.map (·.id)).map fun userId =>
        (countMatches userId (world arithmetic moves db).store.db).losses).sum := by
  have hdecided' := Pool.run_keeps (I := fun s : Caches.Store => Sound s.db ∧ Decided s.db) (fun _ _ h => h)
    (fun e => @does_decided arithmetic e) moves (w := ⟨{ db := db }, [], []⟩) ⟨hsound, hdecided⟩
  have hpeopled' := Pool.run_keeps (I := fun s : Caches.Store => Sound s.db ∧ Peopled s.db) (fun _ _ h => h)
    (fun e => @does_peopled arithmetic e) moves (w := ⟨{ db := db }, [], []⟩) ⟨hsound, hpeopled⟩
  exact wins_eq_losses hdecided'.1 hdecided'.2 hpeopled'.2

theorem badDay_history : HistoryRun (fun _ => 0) (world Caches.plainArithmetic (badDay.take 3) clubs).store.db
      ((pool Caches.plainArithmetic).run (world Caches.plainArithmetic (badDay.take 3) clubs) (badDay.drop 3)).store.db ∧
    (getHistory (fun _ => 0) "b" (world Caches.plainArithmetic badDay clubs).store.db).map (fun e => (e.matchId, e.winner)) =
      [("m", some .opponent), ("n", some .opponent)] :=
  ⟨run_history _ _ clubs_sound (by unfold Decided; decide) _ _, by decide⟩

theorem badDay_wins_losses :
    (((world Caches.plainArithmetic badDay clubs).store.db.users.map (·.id)).map fun userId =>
        (countMatches userId (world Caches.plainArithmetic badDay clubs).store.db).wins).sum =
      (((world Caches.plainArithmetic badDay clubs).store.db.users.map (·.id)).map fun userId =>
        (countMatches userId (world Caches.plainArithmetic badDay clubs).store.db).losses).sum :=
  run_wins_losses _ clubs_sound (by unfold Decided; decide) (by unfold Peopled; decide) badDay

end AutoChess.Finals
