/-
How matches end, over all matches and users: `MatchService` closes a row and
rates both players in one transaction, `forfeitDisconnectedPlayer` and
`leaveMatch` call it after a read of their own. Calls for the same match and
for matches with a player in common run at the same time, are repeated and
fail at any point.

The calls are those of the caches' model, with the two reads added.
-/
import AutoChess.Lib.Account
import AutoChess.User.Fresh

namespace AutoChess.Finals

open AutoChess.Runtime (MatchRow MatchStatus MatchEndReason FinalizeReply RatingChange finalizeRow closeRow
  ratingChange rated isPlayer)
open AutoChess.Caches (Tables Arithmetic findUser finalizeTx finalizeTx_games finalizeTx_missing)
open Calls

/-! ## Programs -/

inductive Cmd where
  | cached (cmd : Caches.Cmd)
  /-- `findById` on the primary. -/
  | findById (matchId : String)
  | findActiveByUserId (userId : String)
  deriving DecidableEq

abbrev Resp : Cmd → Type
  | .cached cmd => Caches.Resp cmd
  | .findById _ | .findActiveByUserId _ => Option MatchRow

def findMatch (matchId : String) (db : Tables) : Option MatchRow := db.games.find? (·.id == matchId)

variable (arithmetic : Arithmetic)

def act : (c : Cmd) → Caches.Store → Resp c × Caches.Store
  | .cached cmd, s => Caches.act arithmetic cmd s
  | .findById matchId, s => (findMatch matchId s.db, s)
  | .findActiveByUserId userId, s =>
    (s.db.games.find? fun row => isPlayer row userId && row.status == .in_progress, s)

abbrev M := Prog Cmd Resp Caches.Err

def call (c : Cmd) : M (Resp c) := Prog.perform .fault c

def cached {α : Type} (p : Caches.M α) : M α := p.embed .cached (fun _ r => r) id

def finalize (matchId : String) (winnerId : Option String) (reason : MatchEndReason) : M Unit :=
  cached (Caches.finalize matchId winnerId reason)

def forfeitDisconnectedPlayer (matchId userId : String) : M Unit := do
  match ← call (.findById matchId) with
  | none => return ()
  | some row =>
    if row.status ≠ .in_progress then return ()
    else if userId ≠ row.player1Id ∧ userId ≠ row.player2Id then return ()
    else finalize row.id (some (if userId = row.player1Id then row.player2Id else row.player1Id)) .disconnect

def leaveMatch (userId : String) : M Unit := do
  match ← call (.findActiveByUserId userId) with
  | none => return ()
  | some row => forfeitDisconnectedPlayer row.id userId

inductive Request where
  | cached (request : Caches.Request)
  | forfeitDisconnectedPlayer (matchId userId : String)
  | leaveMatch (userId : String)
  deriving DecidableEq

def program : Request → M Unit
  | .cached request => cached (Caches.program arithmetic request)
  | .forfeitDisconnectedPlayer matchId userId => forfeitDisconnectedPlayer matchId userId
  | .leaveMatch userId => leaveMatch userId

def pool : Pool Caches.Store Request Nat Cmd Resp Caches.Err where
  act := act arithmetic
  env := fun ms s => { s with now := s.now + ms }
  program := program arithmetic

/-! ## The transaction -/

/-- A match has two different players, a user one row, and no rating is below
zero. -/
structure Sound (db : Tables) : Prop where
  players : ∀ row ∈ db.games, row.player1Id ≠ row.player2Id
  users : (db.users.map (·.id)).Nodup
  ratings : ∀ user ∈ db.users, 0 ≤ user.rating

def ratingOf (userId : String) (db : Tables) : Int := ((findUser userId db).map (·.rating)).getD 0

def totalRating (db : Tables) : Int := (db.users.map (·.rating)).sum

/-- What the players win and lose with a match that was not drawn. -/
def changes (row : MatchRow) : Option (RatingChange × RatingChange) → String → Int
  | none, _ => 0
  | some (p1, p2), userId =>
    if userId = row.player1Id then p1.delta else if userId = row.player2Id then p2.delta else 0

/-- How the ratings of the two players change. -/
inductive Rates (db : Tables) (row : MatchRow) : Option String → Option (RatingChange × RatingChange) →
    List Caches.User → Prop where
  | draw : Rates db row none none db.users
  | won (winner : String) (p1 p2 : Caches.User) (hwinner : isPlayer row winner)
      (hp1 : findUser row.player1Id db = some p1) (hp2 : findUser row.player2Id db = some p2) :
      Rates db row (some winner)
        (some (ratingChange p1.rating (arithmetic.eloDelta p1.rating p2.rating (winner = row.player1Id)),
          ratingChange p2.rating (-arithmetic.eloDelta p1.rating p2.rating (winner = row.player1Id))))
        (db.users.map fun u =>
          if u.id = row.player2Id then
            { u with rating := max 0 (p2.rating + -arithmetic.eloDelta p1.rating p2.rating (winner = row.player1Id)) }
          else if u.id = row.player1Id then
            { u with rating := max 0 (p1.rating + arithmetic.eloDelta p1.rating p2.rating (winner = row.player1Id)) }
          else u)

/-- What a committed transaction did. -/
structure Commits (now : Nat) (matchId : String) (winnerId : Option String) (reason : MatchEndReason)
    (db db' : Tables) (row : MatchRow) (rating : Option (RatingChange × RatingChange)) : Prop where
  open_row : ∃ old, findMatch matchId db = some old ∧ old.status = .in_progress ∧
    row = closeRow winnerId reason (db.view now old)
  games : db'.games = db.games.map fun g => if g.id == matchId then row else g
  rates : Rates arithmetic db row winnerId rating db'.users

variable {arithmetic}

theorem findUser_of_mem {db : Tables} (h : Sound db) {user : Caches.User} (hmem : user ∈ db.users) :
    findUser user.id db = some user := by
  unfold findUser
  have hpair := h.users
  rw [List.nodup_iff_pairwise_ne, List.pairwise_map] at hpair
  generalize db.users = users at hmem hpair
  induction users with
  | nil => simp at hmem
  | cons u users ih =>
    rw [List.pairwise_cons] at hpair
    rcases List.mem_cons.1 hmem with rfl | hmem
    · simp
    · have hne : u.id ≠ user.id := hpair.1 user hmem
      rw [List.find?_cons_of_neg (by simpa using hne)]
      exact ih hmem hpair.2

/-- Writing back what the transaction read leaves the users alone. -/
theorem users_kept {db : Tables} (h : Sound db) (now : Nat) (row : MatchRow) :
    (db.users.map fun u => { u with toUser := ((db.view now row).users u.id).getD u.toUser }) = db.users := by
  have hsame : ∀ u ∈ db.users, { u with toUser := ((db.view now row).users u.id).getD u.toUser } = u := by
    intro u hu
    have hfound : db.users.find? (·.id == u.id) = some u := findUser_of_mem h hu
    simp [Tables.view, hfound]
  rw [List.map_congr_left hsame, List.map_id']

theorem games_kept {db : Tables} {matchId : String} {row : MatchRow} (hrow : findMatch matchId db = some row) :
    (db.games.map fun g => if g.id == matchId then row else g) = db.games := by
  have hsame : ∀ g ∈ db.games, (if g.id == matchId then row else g) = g := by
    intro g hg
    by_cases hid : g.id = matchId
    · have hrowId : row.id = matchId := by simpa using List.find?_some hrow
      have : row = g := db.row_unique (List.mem_of_find?_eq_some hrow) hg (hrowId.trans hid.symm)
      simp [hid, this]
    · simp [hid]
  rw [List.map_congr_left hsame, List.map_id']

/-- The users after both players were rated. -/
theorem users_rated {db : Tables} (h : Sound db) {now : Nat} {row : MatchRow} {p1 p2 : Caches.User} {delta : Int}
    (hne : row.player1Id ≠ row.player2Id) (hp1 : findUser row.player1Id db = some p1)
    (hp2 : findUser row.player2Id db = some p2) :
    (db.users.map fun u => { u with toUser := ((Runtime.put (Runtime.put (db.view now row).users row.player1Id
        (some (rated p1.toUser delta))) row.player2Id (some (rated p2.toUser (-delta)))) u.id).getD u.toUser }) =
      db.users.map fun u =>
        if u.id = row.player2Id then { u with rating := max 0 (p2.rating + -delta) }
        else if u.id = row.player1Id then { u with rating := max 0 (p1.rating + delta) } else u := by
  refine List.map_congr_left fun u hu => ?_
  have hself : findUser u.id db = some u := findUser_of_mem h hu
  by_cases h2 : u.id = row.player2Id
  · have : p2 = u := by rw [← h2, hself] at hp2; exact (Option.some.inj hp2).symm
    simp [Runtime.put, rated, h2, this]
  · by_cases h1 : u.id = row.player1Id
    · have : p1 = u := by rw [← h1, hself] at hp1; exact (Option.some.inj hp1).symm
      simp [Runtime.put, rated, h1, hne, this]
    · have hfound : db.users.find? (·.id == u.id) = some u := hself
      simp [Runtime.put, h1, h2, Tables.view, hfound]

theorem finalizeTx_users {now : Nat} {matchId : String} {winnerId : Option String} {reason : MatchEndReason}
    {db : Tables} {row : MatchRow} (h : findMatch matchId db = some row) :
    (finalizeTx arithmetic now matchId winnerId reason db).2.users = db.users.map fun u =>
      { u with toUser :=
          ((finalizeRow arithmetic.eloDelta winnerId reason (db.view now row)).2.users u.id).getD u.toUser } := by
  unfold finalizeTx
  split
  · next hnone => cases hnone.symm.trans h
  · next found hfound =>
    obtain rfl : found = row := Option.some.inj (hfound.symm.trans h)
    rfl

theorem Tables.ext_games {db db' : Tables} (hgames : db'.games = db.games) (husers : db'.users = db.users) :
    db' = db := by
  cases db
  cases db'
  simp only at hgames husers
  subst hgames husers
  rfl

/-- What the transaction of one row does: nothing, close it as a draw, or
close it and rate both players. -/
inductive Closing (eloDelta : Int → Int → Bool → Int) (reason : MatchEndReason) (s : Runtime.Store) :
    Option String → FinalizeReply × Runtime.Store → Prop where
  | refused (winnerId : Option String) (reply : FinalizeReply) (hreply : ∀ row rating, reply ≠ .finalized row rating) :
      Closing eloDelta reason s winnerId (reply, s)
  | draw (hopen : s.row.status = .in_progress) :
      Closing eloDelta reason s none
        (.finalized (closeRow none reason s) none, { s with row := closeRow none reason s })
  | won (winner : String) (p1 p2 : Runtime.User) (hopen : s.row.status = .in_progress)
      (hwinner : isPlayer s.row winner) (hp1 : s.users s.row.player1Id = some p1)
      (hp2 : s.users s.row.player2Id = some p2) :
      Closing eloDelta reason s (some winner)
        (.finalized (closeRow (some winner) reason s)
          (some (ratingChange p1.rating (eloDelta p1.rating p2.rating (winner = s.row.player1Id)),
            ratingChange p2.rating (-eloDelta p1.rating p2.rating (winner = s.row.player1Id)))),
        { s with
          row := closeRow (some winner) reason s
          users := Runtime.put (Runtime.put s.users s.row.player1Id
              (some (rated p1 (eloDelta p1.rating p2.rating (winner = s.row.player1Id)))))
            s.row.player2Id (some (rated p2 (-eloDelta p1.rating p2.rating (winner = s.row.player1Id)))) })

theorem finalizeRow_cases (eloDelta : Int → Int → Bool → Int) (winnerId : Option String) (reason : MatchEndReason)
    (s : Runtime.Store) : Closing eloDelta reason s winnerId (finalizeRow eloDelta winnerId reason s) := by
  unfold finalizeRow
  split
  · exact .refused winnerId _ (by simp)
  · next hopen =>
    have hopen : s.row.status = .in_progress := by simpa using hopen
    dsimp only
    split
    · exact .draw hopen
    · next winner =>
      split
      · exact .refused _ _ (by simp)
      · next hwinner =>
        split
        · next p1 p2 hp1 hp2 => exact .won winner p1 p2 hopen (by simpa using hwinner) hp1 hp2
        · exact .refused _ _ (by simp)

/-- **The transaction** makes an open match final, or changes nothing. -/
theorem finalizeTx_cases (now : Nat) (matchId : String) (winnerId : Option String) (reason : MatchEndReason)
    {db : Tables} (hsound : Sound db) :
    ((finalizeTx arithmetic now matchId winnerId reason db).2 = db ∧
        ∀ row rating, (finalizeTx arithmetic now matchId winnerId reason db).1 ≠ some (.finalized row rating)) ∨
      ∃ row rating, (finalizeTx arithmetic now matchId winnerId reason db).1 = some (.finalized row rating) ∧
        Commits arithmetic now matchId winnerId reason db
          (finalizeTx arithmetic now matchId winnerId reason db).2 row rating := by
  cases hfound : findMatch matchId db with
  | none =>
    rw [finalizeTx_missing hfound]
    exact .inl ⟨rfl, by simp⟩
  | some old =>
    obtain ⟨hreply, hgames⟩ := @finalizeTx_games arithmetic now matchId winnerId reason _ _ hfound
    have husers := @finalizeTx_users arithmetic now matchId winnerId reason _ _ hfound
    have hne := hsound.players old (List.mem_of_find?_eq_some hfound)
    have hclosing := finalizeRow_cases arithmetic.eloDelta winnerId reason (db.view now old)
    generalize finalizeRow arithmetic.eloDelta winnerId reason (db.view now old) = out at hreply hgames husers hclosing
    cases hclosing with
    | refused _ reply hrefused =>
      refine .inl ⟨?_, by simpa [hreply] using hrefused⟩
      exact Tables.ext_games (hgames.trans (games_kept hfound)) (husers.trans (users_kept hsound now old))
    | draw hopen =>
      refine .inr ⟨_, none, hreply, ⟨old, hfound, hopen, rfl⟩, hgames, ?_⟩
      have hsame := husers.trans (users_kept hsound now old)
      rw [hsame]
      exact .draw
    | won winner p1 p2 hopen hwinner hp1 hp2 =>
      obtain ⟨u1, hu1, rfl⟩ := Option.map_eq_some_iff.1 hp1
      obtain ⟨u2, hu2, rfl⟩ := Option.map_eq_some_iff.1 hp2
      refine .inr ⟨_, _, hreply, ⟨old, hfound, hopen, rfl⟩, hgames, ?_⟩
      have hrated := husers.trans (users_rated hsound hne hu1 hu2)
      rw [hrated]
      exact .won winner u1 u2 hwinner hu1 hu2

/-! ## What a commit means for the users and the rows -/

section
variable {now : Nat} {matchId : String} {winnerId : Option String} {reason : MatchEndReason} {db db' : Tables}
  {row : MatchRow} {rating : Option (RatingChange × RatingChange)}

theorem Commits.id_eq (h : Commits arithmetic now matchId winnerId reason db db' row rating) : row.id = matchId := by
  obtain ⟨old, hfound, -, rfl⟩ := h.open_row
  have hold : old.id = matchId := by simpa using List.find?_some hfound
  exact hold

theorem Commits.final (h : Commits arithmetic now matchId winnerId reason db db' row rating) :
    row.status = if reason = .hp_zero then .finished else .forfeited := by
  obtain ⟨old, -, -, rfl⟩ := h.open_row
  rfl

theorem Commits.closed (h : Commits arithmetic now matchId winnerId reason db db' row rating) :
    row.status ≠ .in_progress := by
  rw [h.final]
  split <;> simp

theorem Commits.mem (h : Commits arithmetic now matchId winnerId reason db db' row rating) : row ∈ db'.games := by
  obtain ⟨old, hfound, -, -⟩ := h.open_row
  rw [h.games, List.mem_map]
  exact ⟨old, List.mem_of_find?_eq_some hfound, if_pos (List.find?_some hfound)⟩

/-- The row was not there before. -/
theorem Commits.not_mem (h : Commits arithmetic now matchId winnerId reason db db' row rating) : row ∉ db.games := by
  intro hmem
  have hid := h.id_eq
  have hclosed := h.closed
  obtain ⟨old, hfound, hopen, -⟩ := h.open_row
  have hold : old.id = matchId := by simpa using List.find?_some hfound
  have : row = old := db.row_unique hmem (List.mem_of_find?_eq_some hfound) (hid.trans hold.symm)
  exact hclosed (this ▸ hopen)

/-- The rows of the other matches stay, and no others come. -/
theorem Commits.mem_iff (h : Commits arithmetic now matchId winnerId reason db db' row rating) (g : MatchRow) :
    g ∈ db'.games ↔ g = row ∨ g ∈ db.games ∧ g.id ≠ row.id := by
  rw [h.games, List.mem_map, h.id_eq]
  constructor
  · intro hg
    obtain ⟨g', hmem, rfl⟩ := hg
    by_cases hid : g'.id = matchId
    · simp [hid]
    · simp [hid, hmem]
  · intro hg
    rcases hg with rfl | ⟨hmem, hid⟩
    · obtain ⟨old, hfound, -, -⟩ := h.open_row
      exact ⟨old, List.mem_of_find?_eq_some hfound, if_pos (List.find?_some hfound)⟩
    · exact ⟨g, hmem, by simp [hid]⟩

/-- The two players rate each other, the loser no lower than zero. -/
structure Exchange (db db' : Tables) (row : MatchRow) (p1 p2 : RatingChange) : Prop where
  before1 : ratingOf row.player1Id db = p1.before
  after1 : ratingOf row.player1Id db' = p1.after
  before2 : ratingOf row.player2Id db = p2.before
  after2 : ratingOf row.player2Id db' = p2.after
  delta1 : p1.delta = p1.after - p1.before
  delta2 : p2.delta = p2.after - p2.before
  /-- What one wins the other loses, unless the loss is cut off at zero. -/
  zero_sum : p1.delta + p2.delta = 0 ∨ p1.after = 0 ∨ p2.after = 0
  minted : 0 ≤ p1.delta + p2.delta

/-- Ratings after a map over the users. -/
theorem ratingOf_map {db db' : Tables} {f : Caches.User → Caches.User} (husers : db'.users = db.users.map f)
    (hid : ∀ u, (f u).id = u.id) (userId : String) :
    ratingOf userId db' = ((findUser userId db).map fun u => (f u).rating).getD 0 := by
  have hcomp : ((fun u : Caches.User => u.id == userId) ∘ f) = fun u => u.id == userId := by
    funext u
    simp [hid]
  have hfind : (db.users.map f).find? (fun u => u.id == userId) = (db.users.find? fun u => u.id == userId).map f := by
    rw [List.find?_map, hcomp]
  simp only [ratingOf, findUser, husers, hfind, Option.map_map, Function.comp_def]

theorem Commits.players (h : Commits arithmetic now matchId winnerId reason db db' row rating) (hsound : Sound db) :
    row.player1Id ≠ row.player2Id := by
  obtain ⟨old, hfound, -, rfl⟩ := h.open_row
  exact hsound.players old (List.mem_of_find?_eq_some hfound)

theorem Rates.ids {users : List Caches.User} (h : Rates arithmetic db row winnerId rating users) :
    users.map (·.id) = db.users.map (·.id) := by
  cases h with
  | draw => rfl
  | won winner p1 p2 hwinner hp1 hp2 =>
    rw [List.map_map]
    refine List.map_congr_left fun u _ => ?_
    dsimp only [Function.comp_apply]
    split
    · rfl
    · split <;> rfl

theorem Commits.sound (h : Commits arithmetic now matchId winnerId reason db db' row rating) (hsound : Sound db) :
    Sound db' := by
  refine ⟨fun g hg => ?_, h.rates.ids ▸ hsound.users, fun u hu => ?_⟩
  · rcases (h.mem_iff g).1 hg with rfl | ⟨hmem, -⟩
    · exact h.players hsound
    · exact hsound.players g hmem
  · have hrates := h.rates
    generalize db'.users = users at hrates hu
    cases hrates with
    | draw => exact hsound.ratings u hu
    | won winner p1 p2 hwinner hp1 hp2 =>
      obtain ⟨v, hv, rfl⟩ := List.mem_map.1 hu
      split
      · exact Int.le_max_left ..
      · split
        · exact Int.le_max_left ..
        · exact hsound.ratings v hv

/-- A user's rating after the commit. -/
theorem Commits.rating_eq (h : Commits arithmetic now matchId winnerId reason db db' row rating) (hsound : Sound db)
    (userId : String) : ratingOf userId db' = ratingOf userId db + changes row rating userId := by
  have hne := h.players hsound
  have hrates := h.rates
  generalize husers : db'.users = users at hrates
  cases hrates with
  | draw => simp [ratingOf, findUser, husers, changes]
  | won winner p1 p2 hwinner hp1 hp2 =>
    rw [ratingOf_map husers (fun u => by split <;> [rfl; (split <;> rfl)]), ratingOf]
    cases hu : findUser userId db with
    | none =>
      have h1 : userId ≠ row.player1Id := by
        intro heq
        rw [heq, hp1] at hu
        cases hu
      have h2 : userId ≠ row.player2Id := by
        intro heq
        rw [heq, hp2] at hu
        cases hu
      simp [changes, h1, h2]
    | some u =>
      have hid : u.id = userId := by simpa [findUser] using List.find?_some hu
      by_cases h2 : userId = row.player2Id
      · have : p2 = u := by rw [← h2, hu] at hp2; exact (Option.some.inj hp2).symm
        subst this
        simp [changes, ratingChange, hid, h2, hne.symm]
      · by_cases h1 : userId = row.player1Id
        · have : p1 = u := by rw [← h1, hu] at hp1; exact (Option.some.inj hp1).symm
          subst this
          simp [changes, ratingChange, hid, h1, hne]
        · simp [changes, hid, h1, h2]

/-- **The changes reported are those made.** -/
theorem Commits.exchange {p1 p2 : RatingChange}
    (h : Commits arithmetic now matchId winnerId reason db db' row (some (p1, p2))) (hsound : Sound db) :
    Exchange db db' row p1 p2 := by
  have hne := h.players hsound
  have heq1 := h.rating_eq hsound row.player1Id
  have heq2 := h.rating_eq hsound row.player2Id
  simp only [changes, hne.symm, if_true, if_false] at heq1 heq2
  generalize hchange : some (p1, p2) = change at h
  have hrates := h.rates
  generalize db'.users = users at hrates
  cases hrates with
  | draw => cases hchange
  | won winner u1 u2 hwinner hu1 hu2 =>
    cases hchange
    have hr1 : ratingOf row.player1Id db = u1.rating := by simp [ratingOf, hu1]
    have hr2 : ratingOf row.player2Id db = u2.rating := by simp [ratingOf, hu2]
    have h0 : 0 ≤ u1.rating := hsound.ratings u1 (List.mem_of_find?_eq_some hu1)
    have h0' : 0 ≤ u2.rating := hsound.ratings u2 (List.mem_of_find?_eq_some hu2)
    simp only [ratingChange] at heq1 heq2 ⊢
    refine ⟨hr1, ?_, hr2, ?_, rfl, rfl, ?_, ?_⟩ <;> dsimp only <;> omega

/-- What a match adds to the sum of all ratings. -/
def minted : Option (RatingChange × RatingChange) → Int
  | none => 0
  | some (p1, p2) => p1.delta + p2.delta

theorem totalRating_eq (hsound : Sound db) :
    totalRating db = ((db.users.map (·.id)).map fun userId => ratingOf userId db).sum := by
  have hsame : ∀ u ∈ db.users, ratingOf u.id db = u.rating := by
    intro u hu
    simp [ratingOf, findUser_of_mem hsound hu]
  rw [List.map_map, totalRating]
  exact congrArg List.sum (List.map_congr_left fun u hu => (hsame u hu).symm)

theorem Commits.total (h : Commits arithmetic now matchId winnerId reason db db' row rating) (hsound : Sound db) :
    totalRating db' = totalRating db + minted rating := by
  have hids := h.rates.ids
  have hne := h.players hsound
  rw [totalRating_eq (h.sound hsound), totalRating_eq hsound, hids]
  have hchange : ((db.users.map (·.id)).map fun userId => ratingOf userId db') =
      (db.users.map (·.id)).map fun userId => ratingOf userId db + changes row rating userId :=
    List.map_congr_left fun userId _ => h.rating_eq hsound userId
  rw [hchange, List.sum_map_add]
  congr 1
  have hrates := h.rates
  generalize db'.users = users at hrates
  cases hrates with
  | draw =>
    change ((db.users.map (·.id)).map fun _ => (0 : Int)).sum = 0
    simp [Function.comp_def]
  | won winner p1 p2 hwinner hp1 hp2 =>
    have hmem : ∀ {userId : String} {u : Caches.User}, findUser userId db = some u → userId ∈ db.users.map (·.id) := by
      intro userId u hu
      have hid : u.id = userId := by simpa [findUser] using List.find?_some hu
      exact List.mem_map.2 ⟨u, List.mem_of_find?_eq_some hu, hid⟩
    have hc1 := List.count_eq_one_of_mem hsound.users (hmem hp1)
    have hc2 := List.count_eq_one_of_mem hsound.users (hmem hp2)
    generalize db.users.map (·.id) = ids at hc1 hc2
    change (ids.map fun userId => if userId = row.player1Id then _
      else if userId = row.player2Id then _ else (0 : Int)).sum = _
    rw [List.sum_map_ite_eq, List.sum_map_ite_eq, hc1, hc2]
    simp [hne, minted]

theorem Commits.minted_nonneg (h : Commits arithmetic now matchId winnerId reason db db' row rating)
    (hsound : Sound db) : 0 ≤ minted rating := by
  cases rating with
  | none => simp [minted]
  | some changed =>
    obtain ⟨p1, p2⟩ := changed
    exact (h.exchange hsound).minted

end

end AutoChess.Finals
