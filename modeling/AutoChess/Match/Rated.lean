/-
Every run of the calls that end matches: a match is made final by one call,
its row is that call's for good, and at any time a rating is what it was and
what the commits say they changed. What is published is the commit of the
publishing call.
-/
import AutoChess.Match.Finals
import Mathlib.Algebra.Order.BigOperators.Group.List

namespace AutoChess.Finals

open AutoChess.Runtime (MatchRow MatchStatus MatchEndReason FinalizeReply RatingChange isPlayer)
open AutoChess.Caches (Tables Arithmetic findUser finalizeTx)
open Calls

abbrev History := List (Call Cmd Resp)

abbrev FinalEvent := Event Caches.Store Request Cmd Resp

variable (arithmetic : Arithmetic)

/-! ## What the programs do -/

/-- The user whose leaving is handled. -/
def Request.leaver : Request → Option String
  | .forfeitDisconnectedPlayer _ userId | .leaveMatch userId => some userId
  | .cached _ => none

/-- The other player of the match. -/
def otherPlayer (row : MatchRow) (userId : String) : String :=
  if userId = row.player1Id then row.player2Id else row.player1Id

/-- Who a call makes the winner: whom it was told, or the opponent of the one
who left. -/
def Asked (q : Request) (h : History) (matchId : String) (winnerId : Option String) (reason : MatchEndReason) : Prop :=
  q = .cached (.finalize matchId winnerId reason) ∨
    ∃ userId row found, q.leaver = some userId ∧ ⟨.findById found, some (some row)⟩ ∈ h ∧
      isPlayer row userId ∧ matchId = row.id ∧ winnerId = some (otherPlayer row userId) ∧ reason = .disconnect

def Cmd.closes : Cmd → Bool
  | .cached (.finalizeTx _ _ _) => true
  | _ => false

/-- The match whose end is published. -/
def Cmd.ended : Cmd → Option String
  | .cached (.publishEnd row _ _) => some row.id
  | _ => none

/-- A call commits once, as asked, and publishes its commit once. -/
def Guards (q : Request) (h : History) : Cmd → Prop
  | .cached (.finalizeTx matchId winnerId reason) =>
    (∀ c ∈ h, c.cmd.closes = false) ∧ Asked q h matchId winnerId reason
  | .cached (.publishEnd row reason rating) =>
    (∃ matchId winnerId,
      ⟨.cached (.finalizeTx matchId winnerId reason), some (some (.finalized row rating))⟩ ∈ h) ∧
        ∀ c ∈ h, c.cmd.ended = none
  | _ => True

variable {arithmetic}

theorem finalize_guarded {q : Request} {h : History} {matchId : String} {winnerId : Option String}
    {reason : MatchEndReason} (hcloses : ∀ c ∈ h, c.cmd.closes = false) (hended : ∀ c ∈ h, c.cmd.ended = none)
    (hasked : Asked q h matchId winnerId reason) :
    (finalize matchId winnerId reason).Obeys (Guards q) (fun _ _ => True) h := by
  refine Prog.Obeys.step ⟨hcloses, hasked⟩ fun reply => ?_
  rcases reply with _ | _ | terminal | _ | _ | ⟨row, rating⟩
  · trivial
  · trivial
  · cases terminal with
    | false => trivial
    | true => exact Prog.Obeys.step trivial fun r => by cases r <;> trivial
  · trivial
  · trivial
  · refine Prog.Obeys.step trivial fun scheduled => ?_
    cases scheduled with
    | none => trivial
    | some _ =>
      refine Prog.Obeys.step trivial fun deleted => ?_
      cases deleted <;>
      · refine Prog.Obeys.step trivial fun bumped => ?_
        cases bumped <;>
        · refine Prog.Obeys.step ⟨⟨matchId, winnerId, by simp⟩, ?_⟩ fun r => by cases r <;> trivial
          simpa [Cmd.ended] using hended

/-- Neither a commit nor a publication. -/
def Quiet : Caches.Cmd → Prop
  | .finalizeTx _ _ _ | .publishEnd _ _ _ => False
  | _ => True

theorem call_quiet {c : Caches.Cmd} (h : Quiet c) : (Caches.call c).Issues Quiet := Prog.Issues.perform h _

theorem getStats_quiet (userId : String) : (Caches.program arithmetic (.getStats userId)).Issues Quiet := by
  have hcompute : (Caches.computeStats arithmetic userId).Issues Quiet := by
    refine (call_quiet (by trivial)).bind fun results => (call_quiet (by trivial)).bind fun user => ?_
    cases user with
    | none => trivial
    | some user => exact (call_quiet (by trivial)).bind fun greater => trivial
  have hrefill : (Caches.refillStats arithmetic userId).Issues Quiet :=
    hcompute.bind fun stats => (call_quiet (by trivial)).attempt.bind fun _ => trivial
  have hstats : (Caches.getStats arithmetic userId).Issues Quiet := by
    refine (call_quiet (by trivial)).attempt.bind fun found => ?_
    rcases found with _ | _ | cached
    · exact hrefill
    · exact hrefill
    · trivial
  exact hstats.bind fun stats => call_quiet (by trivial)

theorem getLeaderboard_quiet (userId : String) (limit offset : Nat) :
    (Caches.program arithmetic (.getLeaderboard userId limit offset)).Issues Quiet := by
  have hcompute : (Caches.computeLeaderboard userId limit offset).Issues Quiet := by
    refine (call_quiet (by trivial)).bind fun total => (call_quiet (by trivial)).bind fun entries => ?_
    refine (call_quiet (by trivial)).bind fun me => ?_
    cases me <;> trivial
  have hversion : Caches.readVersion.Issues Quiet := by
    refine (call_quiet (by trivial)).attempt.bind fun version => ?_
    cases version <;> trivial
  have hrefill : ∀ version, (Caches.refillPage ⟨version, userId, limit, offset⟩).Issues Quiet := fun version =>
    hcompute.bind fun response => (call_quiet (by trivial)).attempt.bind fun _ => trivial
  have hpage : (Caches.getLeaderboard userId limit offset).Issues Quiet := by
    refine hversion.bind fun version => ?_
    cases version with
    | none => exact hcompute
    | some version =>
      refine (call_quiet (by trivial)).attempt.bind fun found => ?_
      rcases found with _ | _ | page
      · exact hrefill _
      · exact hrefill _
      · trivial
  exact hpage.bind fun response => call_quiet (by trivial)

theorem quiet_guarded {q : Request} {p : Caches.M Unit} (hp : p.Issues Quiet) :
    (cached p).Obeys (Guards q) (fun _ _ => True) [] := by
  refine Prog.Obeys.embed (h := []) Cmd.cached (fun _ r => r) id (fun _ r => r) (fun _ _ => rfl) ?_
  refine (hp.obeys fun h c hquiet => ?_).mono fun _ _ _ _ => trivial
  cases c <;> first | exact hquiet.elim | trivial

theorem forfeit_guarded {q : Request} {h : History} {matchId userId : String} (hq : q.leaver = some userId)
    (hcloses : ∀ c ∈ h, c.cmd.closes = false) (hended : ∀ c ∈ h, c.cmd.ended = none) :
    (forfeitDisconnectedPlayer matchId userId).Obeys (Guards q) (fun _ _ => True) h := by
  refine Prog.Obeys.step trivial fun found => ?_
  rcases found with _ | _ | row
  · trivial
  · trivial
  · change Prog.Obeys _ _ _ (if row.status ≠ .in_progress then Prog.pure () else
      if userId ≠ row.player1Id ∧ userId ≠ row.player2Id then Prog.pure () else
        finalize row.id (some (otherPlayer row userId)) .disconnect)
    split
    · trivial
    · split
      · trivial
      · next hplayer =>
        refine finalize_guarded (by simpa [Cmd.closes] using hcloses) (by simpa [Cmd.ended] using hended) (.inr ?_)
        refine ⟨userId, row, matchId, hq, by simp, ?_, rfl, rfl, rfl⟩
        have : userId = row.player1Id ∨ userId = row.player2Id := by
          by_contra hneither
          exact hplayer ⟨fun h1 => hneither (.inl h1), fun h2 => hneither (.inr h2)⟩
        rcases this with rfl | rfl <;> simp [isPlayer]

theorem program_guarded (q : Request) : (program arithmetic q).Obeys (Guards q) (fun _ _ => True) [] := by
  cases q with
  | cached request =>
    cases request with
    | getStats userId => exact quiet_guarded (getStats_quiet userId)
    | getLeaderboard userId limit offset => exact quiet_guarded (getLeaderboard_quiet userId limit offset)
    | finalize matchId winnerId reason => exact finalize_guarded (by simp) (by simp) (.inl rfl)
  | forfeitDisconnectedPlayer matchId userId => exact forfeit_guarded rfl (by simp) (by simp)
  | leaveMatch userId =>
    refine Prog.Obeys.step trivial fun found => ?_
    rcases found with _ | _ | row
    · trivial
    · trivial
    · exact forfeit_guarded rfl (by simp [Cmd.closes]) (by simp [Cmd.ended])

/-! ## One call -/

variable (arithmetic)

/-- The row a call made final, and the rating changes. -/
def finals (e : FinalEvent) : Option (MatchRow × Option (RatingChange × RatingChange)) :=
  match e.cmd with
  | .cached (.finalizeTx matchId winnerId reason) =>
    match (finalizeTx arithmetic e.before.now matchId winnerId reason e.before.db).1 with
    | some (.finalized row rating) => if row ∈ e.after.db.games then some (row, rating) else none
    | _ => none
  | _ => none

variable {arithmetic}

theorem act_db {c : Cmd} (h : c.closes = false) (s : Caches.Store) : (act arithmetic c s).2.db = s.db := by
  cases c with
  | cached cmd => cases cmd <;> first | rfl | simp [Cmd.closes] at h
  | findById matchId => rfl
  | findActiveByUserId userId => rfl

theorem finals_eq {e : FinalEvent} {matchId : String} {winnerId : Option String} {reason : MatchEndReason}
    (hcmd : e.cmd = .cached (.finalizeTx matchId winnerId reason)) {row : MatchRow}
    {rating : Option (RatingChange × RatingChange)}
    (hreply : (finalizeTx arithmetic e.before.now matchId winnerId reason e.before.db).1 =
      some (.finalized row rating)) :
    finals arithmetic e = if row ∈ e.after.db.games then some (row, rating) else none := by
  simp only [finals, hcmd, hreply]

theorem finals_none {e : FinalEvent} {matchId : String} {winnerId : Option String} {reason : MatchEndReason}
    (hcmd : e.cmd = .cached (.finalizeTx matchId winnerId reason))
    (hreply : ∀ row rating, (finalizeTx arithmetic e.before.now matchId winnerId reason e.before.db).1 ≠
      some (.finalized row rating)) : finals arithmetic e = none := by
  simp only [finals, hcmd]

/-- **One call** commits a final row, or leaves the tables alone. -/
theorem does_cases {e : FinalEvent} (hsound : Sound e.before.db) (hdoes : (pool arithmetic).Does e) :
    finals arithmetic e = none ∧ e.after.db = e.before.db ∨
      ∃ matchId winnerId reason row rating, e.cmd = .cached (.finalizeTx matchId winnerId reason) ∧
        finals arithmetic e = some (row, rating) ∧
        Commits arithmetic e.before.now matchId winnerId reason e.before.db e.after.db row rating := by
  cases hcloses : e.cmd.closes with
  | false =>
    have hnone : finals arithmetic e = none := by
      unfold finals
      split
      · next heq => simp [heq, Cmd.closes] at hcloses
      · rfl
    refine .inl ⟨hnone, ?_⟩
    rcases hdoes.after_eq with hsame | hact
    · rw [hsame]
    · rw [hact]
      exact act_db hcloses e.before
  | true =>
    obtain ⟨matchId, winnerId, reason, hcmd⟩ : ∃ matchId winnerId reason,
        e.cmd = .cached (.finalizeTx matchId winnerId reason) := by
      unfold Cmd.closes at hcloses
      split at hcloses
      · next matchId winnerId reason heq => exact ⟨matchId, winnerId, reason, heq⟩
      · cases hcloses
    have hafter : e.after.db = e.before.db ∨
        e.after.db = (finalizeTx arithmetic e.before.now matchId winnerId reason e.before.db).2 := by
      rcases hdoes.after_eq with hsame | hact
      · exact .inl (by rw [hsame])
      · refine .inr ?_
        rw [hact, hcmd]
        rfl
    rcases @finalizeTx_cases arithmetic e.before.now matchId winnerId reason _ hsound with
      ⟨hkept, hreply⟩ | ⟨row, rating, hreply, hcommits⟩
    · rw [hkept, or_self] at hafter
      exact .inl ⟨finals_none hcmd hreply, hafter⟩
    · rw [finals_eq hcmd hreply]
      rcases hafter with hsame | hdone
      · refine .inl ⟨?_, hsame⟩
        rw [hsame, if_neg hcommits.not_mem]
      · refine .inr ⟨matchId, winnerId, reason, row, rating, hcmd, ?_, hdone ▸ hcommits⟩
        rw [hdone, if_pos hcommits.mem]

/-! ## Runs -/

/-- The log of a run, and the guard of each of its calls. -/
abbrev Story (arithmetic : Arithmetic) (db : Tables) := Chronicle (pool arithmetic) Guards { db := db }

section
variable {db : Tables} {log : List FinalEvent} {s : Caches.Store}

theorem does_sound {e : FinalEvent} (hdoes : (pool arithmetic).Does e) (hsound : Sound e.before.db) :
    Sound e.after.db := by
  rcases does_cases hsound hdoes with ⟨-, hsame⟩ | ⟨_, _, _, _, _, -, -, hcommits⟩
  · rw [hsame]
    exact hsound
  · exact hcommits.sound hsound

theorem Story.sound (h : Story arithmetic db log s) (hsound : Sound db) : Sound s.db :=
  h.invariant (I := fun s => Sound s.db) hsound (fun _ s (h : Sound s.db) => h) fun _ => does_sound

variable (arithmetic)

/-- What the call changes in the user's rating. -/
def gains (userId : String) (e : FinalEvent) : Int :=
  ((finals arithmetic e).map fun f => changes f.1 f.2 userId).getD 0

/-- What the call adds to the sum of all ratings. -/
def mints (e : FinalEvent) : Int := ((finals arithmetic e).map fun f => minted f.2).getD 0

variable {arithmetic}

theorem Story.rating_eq (h : Story arithmetic db log s) (hsound : Sound db) (userId : String) :
    ratingOf userId s.db = ratingOf userId db + (log.map (gains arithmetic userId)).sum := by
  refine h.account (fun s => ratingOf userId s.db) (fun _ _ => rfl) fun older e hstory hdoes => ?_
  rcases does_cases (Story.sound hstory hsound) hdoes with
    ⟨hnone, hsame⟩ | ⟨_, _, _, row, rating, -, hfinal, hcommits⟩
  · simp [gains, hnone, hsame]
  · simp [gains, hfinal, hcommits.rating_eq (Story.sound hstory hsound)]

theorem Story.total_eq (h : Story arithmetic db log s) (hsound : Sound db) :
    totalRating s.db = totalRating db + (log.map (mints arithmetic)).sum := by
  refine h.account (fun s => totalRating s.db) (fun _ _ => rfl) fun older e hstory hdoes => ?_
  rcases does_cases (Story.sound hstory hsound) hdoes with
    ⟨hnone, hsame⟩ | ⟨_, _, _, row, rating, -, hfinal, hcommits⟩
  · simp [mints, hnone, hsame]
  · simp [mints, hfinal, hcommits.total (Story.sound hstory hsound)]

/-- A row that is final. -/
def Final (matchId : String) (db : Tables) : Prop := ∃ g ∈ db.games, g.id = matchId ∧ g.status ≠ .in_progress

theorem Commits.not_final {now : Nat} {matchId : String} {winnerId : Option String} {reason : MatchEndReason}
    {db db' : Tables} {row : MatchRow} {rating : Option (RatingChange × RatingChange)}
    (h : Commits arithmetic now matchId winnerId reason db db' row rating) : ¬ Final row.id db := by
  intro hfinal
  obtain ⟨g, hmem, hid, hclosed⟩ := hfinal
  rw [h.id_eq] at hid
  obtain ⟨old, hfound, hopen, -⟩ := h.open_row
  have hold : old.id = matchId := by simpa using List.find?_some hfound
  have : g = old := db.row_unique hmem (List.mem_of_find?_eq_some hfound) (hid.trans hold.symm)
  exact hclosed (this ▸ hopen)

/-- A final row stays. -/
theorem does_keeps {e : FinalEvent} (hdoes : (pool arithmetic).Does e) {g : MatchRow} (hmem : g ∈ e.before.db.games)
    (hclosed : g.status ≠ .in_progress) (hsound : Sound e.before.db) : g ∈ e.after.db.games := by
  rcases does_cases hsound hdoes with ⟨-, hsame⟩ | ⟨_, _, _, row, _, -, -, hcommits⟩
  · rw [hsame]
    exact hmem
  · refine (hcommits.mem_iff g).2 (.inr ⟨hmem, fun hid => ?_⟩)
    exact hcommits.not_final ⟨g, hmem, hid, hclosed⟩

theorem Story.commit (h : Story arithmetic db log s) (hsound : Sound db) {e : FinalEvent} (hmem : e ∈ log)
    {row : MatchRow} {rating : Option (RatingChange × RatingChange)}
    (hfinal : finals arithmetic e = some (row, rating)) :
    Sound e.before.db ∧ ∃ winnerId reason, e.cmd = .cached (.finalizeTx row.id winnerId reason) ∧
      Commits arithmetic e.before.now row.id winnerId reason e.before.db e.after.db row rating := by
  obtain ⟨newer, older, rfl⟩ := List.append_of_mem hmem
  obtain ⟨hstory, -, hdoes⟩ := h.of_split
  have hbefore := Story.sound hstory hsound
  refine ⟨hbefore, ?_⟩
  rcases does_cases hbefore hdoes with
    ⟨hnone, -⟩ | ⟨matchId, winnerId, reason, row', rating', hcmd, hsome, hcommits⟩
  · rw [hfinal] at hnone
    cases hnone
  · obtain ⟨rfl, rfl⟩ : row = row' ∧ rating = rating' := by simpa [hfinal] using hsome
    obtain rfl := hcommits.id_eq
    exact ⟨winnerId, reason, hcmd, hcommits⟩

/-- The match is final, in sound tables. -/
def Closed (matchId : String) (s : Caches.Store) : Prop := Sound s.db ∧ Final matchId s.db

theorem Closed.does {matchId : String} {e : FinalEvent} (hdoes : (pool arithmetic).Does e)
    (h : Closed matchId e.before) : Closed matchId e.after := by
  obtain ⟨hsound, g, hmem, hid, hclosed⟩ := h
  exact ⟨does_sound hdoes hsound, g, does_keeps hdoes hmem hclosed hsound, hid, hclosed⟩

/-- **Each match is closed once.** -/
theorem Story.closed_once (h : Story arithmetic db log s) (hsound : Sound db) :
    ((log.filterMap (finals arithmetic)).map (·.1.id)).Nodup := by
  rw [List.nodup_iff_pairwise_ne, List.pairwise_map, List.pairwise_filterMap]
  have hcloses : ∀ e ∈ log, ∀ f, finals arithmetic e = some f → Closed f.1.id e.after ∧ ¬ Closed f.1.id e.before := by
    intro e hmem f hf
    obtain ⟨hbefore, winnerId, reason, -, hcommits⟩ := Story.commit h hsound hmem hf
    exact ⟨⟨hcommits.sound hbefore, _, hcommits.mem, rfl, hcommits.closed⟩, fun hc => hcommits.not_final hc.2⟩
  refine pairwise_of_split fun newer e older hlog e' hmem f hf f' hf' heq => ?_
  have honce := h.once (Closed f.1.id) (fun _ s (hc : Closed f.1.id s) => hc) fun _ hdoes hc => hc.does hdoes
  rw [hlog] at honce
  have hapart := (List.pairwise_cons.1 (List.pairwise_append.1 honce).2.1).1 e' hmem
  have hnewer := hcloses e (by simp [hlog]) f hf
  have holder := hcloses e' (by simp [hlog, hmem]) f' hf'
  rw [← heq] at holder
  exact hapart ⟨holder.1, hnewer.2⟩

/-- A final row is the one a call left, or was final from the start. -/
theorem Story.rows (h : Story arithmetic db log s) (hsound : Sound db) (g : MatchRow) :
    g ∈ s.db.games → g ∈ db.games ∨ ∃ rating, (g, rating) ∈ log.filterMap (finals arithmetic) := by
  induction h with
  | start => exact .inl
  | time t _ ih => exact ih
  | @call log e hstory _ hdoes ih =>
    intro hg
    rcases does_cases (Story.sound hstory hsound) hdoes with
      ⟨hnone, hsame⟩ | ⟨_, _, _, row, rating, -, hfinal, hcommits⟩
    · rw [List.filterMap_cons_none hnone]
      exact ih (hsame ▸ hg)
    · rw [List.filterMap_cons_some hfinal]
      rcases (hcommits.mem_iff g).1 hg with rfl | ⟨hmem, -⟩
      · exact .inr ⟨rating, List.mem_cons_self ..⟩
      · rcases ih hmem with hstart | ⟨rating', hin⟩
        · exact .inl hstart
        · exact .inr ⟨rating', List.mem_cons_of_mem _ hin⟩

theorem Story.row_stays (h : Story arithmetic db log s) (hsound : Sound db) {f : MatchRow × _}
    (hf : f ∈ log.filterMap (finals arithmetic)) : f.1 ∈ s.db.games := by
  obtain ⟨e, hmem, hfinal⟩ := List.mem_filterMap.1 hf
  obtain ⟨hbefore, winnerId, reason, -, hcommits⟩ := Story.commit h hsound hmem hfinal
  have hlasting := h.lasting (fun s => Sound s.db ∧ f.1 ∈ s.db.games)
    (fun _ s (hc : Sound s.db ∧ f.1 ∈ s.db.games) => hc)
    (fun e hdoes hc => ⟨does_sound hdoes hc.1, does_keeps hdoes hc.2 hcommits.closed hc.1⟩) hmem
    ⟨hcommits.sound hbefore, hcommits.mem⟩
  exact hlasting.2

/-- The match that was read is the match that is closed. -/
def Holds (g : MatchRow) (s : Caches.Store) : Prop := Sound s.db ∧ ∃ g' ∈ s.db.games, g'.toMatch = g.toMatch

theorem Holds.does {g : MatchRow} {e : FinalEvent} (hdoes : (pool arithmetic).Does e) (h : Holds g e.before) :
    Holds g e.after := by
  obtain ⟨hsound, g', hmem, heq⟩ := h
  refine ⟨does_sound hdoes hsound, ?_⟩
  rcases does_cases hsound hdoes with ⟨-, hsame⟩ | ⟨_, _, _, row, _, -, -, hcommits⟩
  · exact ⟨g', hsame ▸ hmem, heq⟩
  · by_cases hid : g'.id = row.id
    · refine ⟨row, hcommits.mem, ?_⟩
      have hrow := hcommits.id_eq
      obtain ⟨old, hfound, -, rfl⟩ := hcommits.open_row
      have hold : old.id = g'.id := hid.symm
      obtain rfl : old = g' := e.before.db.row_unique (List.mem_of_find?_eq_some hfound) hmem hold
      exact heq
    · exact ⟨g', (hcommits.mem_iff g').2 (.inr ⟨hmem, hid⟩), heq⟩

/-- The closed row is the one a caller asked for. -/
def Answers (e : FinalEvent) (row : MatchRow) : Prop :=
  ∃ reason, e.cmd = .cached (.finalizeTx row.id row.winnerId reason) ∧
    row.status = (if reason = .hp_zero then .finished else .forfeited) ∧
    (e.request = .cached (.finalize row.id row.winnerId reason) ∨
      ∃ userId, e.request.leaver = some userId ∧ isPlayer row userId ∧
        row.winnerId = some (otherPlayer row userId) ∧ reason = .disconnect)

theorem Story.answers (h : Story arithmetic db log s) (hsound : Sound db) {e : FinalEvent} (hmem : e ∈ log)
    {row : MatchRow} {rating : Option (RatingChange × RatingChange)}
    (hfinal : finals arithmetic e = some (row, rating)) : Answers e row := by
  obtain ⟨hbefore, winnerId, reason, hcmd, hcommits⟩ := Story.commit h hsound hmem hfinal
  obtain ⟨newer, older, rfl⟩ := List.append_of_mem hmem
  obtain ⟨hstory, hguard, -⟩ := h.of_split
  have hwinner : row.winnerId = winnerId := by
    obtain ⟨old, -, -, rfl⟩ := hcommits.open_row
    rfl
  rw [hcmd] at hguard
  refine ⟨reason, by rw [hwinner]; exact hcmd, hcommits.final, ?_⟩
  rcases hguard.2 with hasked | ⟨userId, read, found, hleaver, hread, hplayer, hid, hother, hreason⟩
  · exact .inl (by rw [hwinner]; exact hasked)
  · -- The row was read before: its players are those of the row closed.
    obtain ⟨r, hr, -, hcall⟩ := mem_own.1 hread
    obtain ⟨newer', older', rfl⟩ := List.append_of_mem hr
    obtain ⟨hstory', -, hdoes⟩ := hstory.of_split
    obtain ⟨hreply, hafter⟩ := hdoes.of_call hcall
    have hfound : read ∈ r.after.db.games := by
      rw [hafter]
      exact List.mem_of_find?_eq_some (show findMatch found r.before.db = some read from hreply.symm)
    have hholds : Holds read e.before := by
      refine hstory.lasting (Holds read) (fun _ _ hc => hc) (fun _ hdoes hc => hc.does hdoes) hr ?_
      exact ⟨does_sound hdoes (Story.sound hstory' hsound), read, hfound, rfl⟩
    have hsame : row.toMatch = read.toMatch := by
      obtain ⟨-, g, hg, heq⟩ := hholds
      obtain ⟨old, hold, -, rfl⟩ := hcommits.open_row
      have hgid : g.id = read.id := congrArg Runtime.Match.id heq
      have : old = g := e.before.db.row_unique (List.mem_of_find?_eq_some hold) hg (hid.trans hgid.symm)
      rw [← heq, ← this]
      rfl
    have h1 : row.player1Id = read.player1Id := congrArg Runtime.Match.player1Id hsame
    have h2 : row.player2Id = read.player2Id := congrArg Runtime.Match.player2Id hsame
    refine .inr ⟨userId, hleaver, ?_, ?_, hreason⟩
    · rw [isPlayer, h1, h2]
      exact hplayer
    · rw [hwinner, hother, otherPlayer, otherPlayer, h1, h2]

/-- Two commits of one match are one. -/
theorem Story.same_commit (h : Story arithmetic db log s) (hsound : Sound db) {c c' : FinalEvent} (hc : c ∈ log)
    (hc' : c' ∈ log) {f f' : MatchRow × Option (RatingChange × RatingChange)} (hf : finals arithmetic c = some f)
    (hf' : finals arithmetic c' = some f') (hid : f.1.id = f'.1.id) : c = c' := by
  have honce := Story.closed_once h hsound
  rw [List.nodup_iff_pairwise_ne, List.pairwise_map, List.pairwise_filterMap] at honce
  obtain ⟨newer, older, rfl⟩ := List.append_of_mem hc
  rw [List.pairwise_append, List.pairwise_cons] at honce
  rcases List.mem_append.1 hc' with hmem | hmem
  · exact absurd hid.symm (honce.2.2 c' hmem c (List.mem_cons_self ..) f' hf' f hf)
  · rcases List.mem_cons.1 hmem with rfl | hmem
    · rfl
    · exact absurd hid (honce.2.1.1 c' hmem f hf f' hf')

/-- What is published is the commit of the call. -/
theorem Story.published (h : Story arithmetic db log s) (hsound : Sound db) {newer older : List FinalEvent}
    {e : FinalEvent} (hlog : log = newer ++ e :: older) {row : MatchRow} {reason : MatchEndReason}
    {rating : Option (RatingChange × RatingChange)} (hcmd : e.cmd = .cached (.publishEnd row reason rating)) :
    ∃ c ∈ older, c.pid = e.pid ∧ c.cmd = .cached (.finalizeTx row.id row.winnerId reason) ∧
      finals arithmetic c = some (row, rating) := by
  subst hlog
  obtain ⟨hstory, hguard, -⟩ := h.of_split
  rw [hcmd] at hguard
  obtain ⟨⟨matchId, winnerId, hmem⟩, -⟩ := hguard
  obtain ⟨c, hc, hpid, hcall⟩ := mem_own.1 hmem
  have hsplit := hc
  obtain ⟨newer', older', rfl⟩ := List.append_of_mem hsplit
  obtain ⟨hstory', -, hdoes⟩ := hstory.of_split
  obtain ⟨hreply, hafter⟩ := hdoes.of_call hcall
  have hcommand : c.cmd = .cached (.finalizeTx matchId winnerId reason) := congrArg Call.cmd hcall
  have hreply : (finalizeTx arithmetic c.before.now matchId winnerId reason c.before.db).1 =
      some (.finalized row rating) := hreply.symm
  have hdb : c.after.db = (finalizeTx arithmetic c.before.now matchId winnerId reason c.before.db).2 := by
    rw [hafter]
    rfl
  rcases @finalizeTx_cases arithmetic c.before.now matchId winnerId reason _
    (Story.sound hstory' hsound) with ⟨-, hnot⟩ | ⟨row', rating', hreply', hcommits⟩
  · exact absurd hreply (hnot row rating)
  · obtain ⟨rfl, rfl⟩ : row = row' ∧ rating = rating' := by simpa [hreply] using hreply'
    have hfinal : finals arithmetic c = some (row, rating) := by
      rw [finals_eq hcommand hreply, if_pos (hdb ▸ hcommits.mem)]
    have hwinner : row.winnerId = winnerId := by
      obtain ⟨old, -, -, rfl⟩ := hcommits.open_row
      rfl
    exact ⟨c, hc, hpid, by rw [hcommits.id_eq, hwinner]; exact hcommand, hfinal⟩

theorem Story.published_once (h : Story arithmetic db log s) (hsound : Sound db) :
    (log.filterMap (·.cmd.ended)).Nodup := by
  have hpublish : ∀ {e : FinalEvent} {matchId : String}, e.cmd.ended = some matchId →
      ∃ row reason rating, e.cmd = .cached (.publishEnd row reason rating) ∧ row.id = matchId := by
    intro e matchId hended
    unfold Cmd.ended at hended
    split at hended
    · next row reason rating heq => exact ⟨row, reason, rating, heq, Option.some.inj hended⟩
    · cases hended
  rw [List.nodup_iff_pairwise_ne, List.pairwise_filterMap]
  refine pairwise_of_split fun newer e older hlog e' hmem matchId hid matchId' hid' heq => ?_
  subst heq
  obtain ⟨row, reason, rating, hcmd, hrow⟩ := hpublish hid
  obtain ⟨row', reason', rating', hcmd', hrow'⟩ := hpublish hid'
  obtain ⟨newer', older', hsplit⟩ := List.append_of_mem hmem
  obtain ⟨c, hc, hpid, -, hf⟩ := Story.published h hsound hlog hcmd
  have hlog' : log = (newer ++ e :: newer') ++ e' :: older' := by simp [hlog, hsplit]
  obtain ⟨c', hc', hpid', -, hf'⟩ := Story.published h hsound hlog' hcmd'
  have hsame : c = c' := Story.same_commit h hsound (by simp [hlog, hc]) (by simp [hlog', hc']) hf hf'
    (hrow.trans hrow'.symm)
  -- One call published both, and the second time it had published before.
  obtain ⟨-, hguard, -⟩ := (hlog ▸ h).of_split
  rw [hcmd] at hguard
  have hown : e'.toCall ∈ own e.pid older := mem_own.2 ⟨e', hmem, by rw [← hpid, hsame, hpid'], rfl⟩
  have hnone := hguard.2 _ hown
  rw [hid'] at hnone
  cases hnone

end

/-! ## Every run -/

/-- Ratings are accounted for by the commits. -/
structure Accounts (arithmetic : Arithmetic) (db : Tables) (log : List FinalEvent) (db' : Tables) : Prop where
  rating : ∀ userId, ratingOf userId db' = ratingOf userId db + (log.map (gains arithmetic userId)).sum
  total : totalRating db' = totalRating db + (log.map (mints arithmetic)).sum
  never_less : totalRating db ≤ totalRating db'
  nonneg : ∀ user ∈ db'.users, 0 ≤ user.rating
  exchange : ∀ e ∈ log, ∀ row p1 p2, finals arithmetic e = some (row, some (p1, p2)) →
    Exchange e.before.db e.after.db row p1 p2

/-- Matches are made final once, as asked, and for good. -/
structure Finalised (arithmetic : Arithmetic) (db : Tables) (log : List FinalEvent) (db' : Tables) : Prop where
  once : ((log.filterMap (finals arithmetic)).map (·.1.id)).Nodup
  stays : ∀ f ∈ log.filterMap (finals arithmetic), f.1 ∈ db'.games
  rows : ∀ g ∈ db'.games, g ∈ db.games ∨ ∃ rating, (g, rating) ∈ log.filterMap (finals arithmetic)
  asked : ∀ e ∈ log, ∀ row rating, finals arithmetic e = some (row, rating) → Answers e row

/-- The ends published are commits of the publishing call, each once. -/
structure Announced (arithmetic : Arithmetic) (log : List FinalEvent) : Prop where
  commit : ∀ newer e older row reason rating, log = newer ++ e :: older →
    e.cmd = .cached (.publishEnd row reason rating) →
      ∃ c ∈ older, c.pid = e.pid ∧ c.cmd = .cached (.finalizeTx row.id row.winnerId reason) ∧
        finals arithmetic c = some (row, rating)
  once : (log.filterMap (·.cmd.ended)).Nodup

section
variable (arithmetic : Arithmetic) {db : Tables} (moves : List (Move Request Nat))

/-- The world after the moves. -/
def world (db : Tables) : World Caches.Store Request Cmd Resp Caches.Err :=
  (pool arithmetic).run ⟨{ db := db }, [], []⟩ moves

theorem world_story : Story arithmetic db (world arithmetic moves db).log (world arithmetic moves db).store :=
  Pool.run_chronicle program_guarded moves

/-- **Every run keeps the accounts.** -/
theorem run_accounts (hsound : Sound db) :
    Accounts arithmetic db (world arithmetic moves db).log (world arithmetic moves db).store.db := by
  have hstory := @world_story arithmetic db moves
  have htotal := Story.total_eq hstory hsound
  refine ⟨Story.rating_eq hstory hsound, htotal, ?_, (Story.sound hstory hsound).ratings, ?_⟩
  · have hmints : 0 ≤ ((world arithmetic moves db).log.map (mints arithmetic)).sum := by
      refine List.sum_nonneg fun n hn => ?_
      obtain ⟨e, hmem, rfl⟩ := List.mem_map.1 hn
      cases hfinal : finals arithmetic e with
      | none => simp [mints, hfinal]
      | some f =>
        obtain ⟨hbefore, _, _, -, hcommits⟩ := Story.commit hstory hsound hmem hfinal
        simpa [mints, hfinal] using hcommits.minted_nonneg hbefore
    omega
  · intro e hmem row p1 p2 hfinal
    obtain ⟨hbefore, _, _, -, hcommits⟩ := Story.commit hstory hsound hmem hfinal
    exact hcommits.exchange hbefore

/-- **Every run makes a match final once.** -/
theorem run_finalised (hsound : Sound db) :
    Finalised arithmetic db (world arithmetic moves db).log (world arithmetic moves db).store.db where
  once := Story.closed_once (world_story arithmetic moves) hsound
  stays _ := Story.row_stays (world_story arithmetic moves) hsound
  rows := Story.rows (world_story arithmetic moves) hsound
  asked _ hmem _ _ := Story.answers (world_story arithmetic moves) hsound hmem

/-- **Every run publishes what was committed.** -/
theorem run_announced (hsound : Sound db) : Announced arithmetic (world arithmetic moves db).log where
  commit _ _ _ _ _ _ hlog hcmd := Story.published (world_story arithmetic moves) hsound hlog hcmd
  once := Story.published_once (world_story arithmetic moves) hsound

end

/-! ## Two matches of one player -/

def clubs : Tables where
  games := [Caches.onlyMatch, { Caches.onlyMatch with id := "n", player1Id := "c" }]
  users := [⟨⟨"ann", 20⟩, "a"⟩, ⟨⟨"bob", 10⟩, "b"⟩, ⟨⟨"cat", 20⟩, "c"⟩]
  ids := by decide

theorem clubs_sound : Sound clubs := ⟨by decide, by decide, by decide⟩

/-- Bob loses to Ann, with the answer of the first commit lost, and leaves the
match with Cat. -/
def badDay : List (Move Request Nat) :=
  [.start (.cached (.finalize "m" (some "a") .hp_zero)), .start (.leaveMatch "b"), .run 0 .lost,
    .start (.cached (.finalize "m" (some "b") .forfeit))] ++
    List.replicate 7 (.run 1 .answered) ++ List.replicate 2 (.run 2 .answered)

theorem badDay_accounts : Accounts Caches.plainArithmetic clubs (world Caches.plainArithmetic badDay clubs).log
      (world Caches.plainArithmetic badDay clubs).store.db ∧
    ratingOf "b" (world Caches.plainArithmetic badDay clubs).store.db = 0 ∧
    totalRating (world Caches.plainArithmetic badDay clubs).store.db = 71 :=
  ⟨run_accounts _ badDay clubs_sound, by decide, by decide⟩

theorem badDay_finalised : Finalised Caches.plainArithmetic clubs (world Caches.plainArithmetic badDay clubs).log
      (world Caches.plainArithmetic badDay clubs).store.db ∧
    ((world Caches.plainArithmetic badDay clubs).log.filterMap (finals Caches.plainArithmetic)).map (·.1.id) =
      ["n", "m"] :=
  ⟨run_finalised _ badDay clubs_sound, by decide⟩

theorem badDay_announced : Announced Caches.plainArithmetic (world Caches.plainArithmetic badDay clubs).log ∧
    (world Caches.plainArithmetic badDay clubs).log.filterMap (·.cmd.ended) = ["n"] :=
  ⟨run_announced _ badDay clubs_sound, by decide⟩

end AutoChess.Finals
