/-
The leaderboard as a whole. A page ranks its rows with the window function
`RANK()`, the caller's own row counts the users above; the model of the pages
counts too. Here the window is written out and shown to count, and the pages
to be one list cut into pieces.
-/
import AutoChess.User.Caches
import Mathlib.Data.List.Sort

namespace AutoChess.Caches

/-! ## The window -/

/-- The rank of the first row with this rating, at `position` or before. -/
def peerRank (position : Nat) (rating : Int) : Option (Int × Nat) → Nat
  | some (peer, rank) => if peer = rating then rank else position
  | none => position

/-- `RANK() OVER (ORDER BY "rating" DESC)` over rows in that order, from
`position` on, after a row with the rating and rank of `peer`. -/
def rankOver (position : Nat) (peer : Option (Int × Nat)) : List User → List LeaderboardEntry
  | [] => []
  | u :: us =>
    ⟨peerRank position u.rating peer, u.username, u.rating⟩ ::
      rankOver (position + 1) (some (u.rating, peerRank position u.rating peer)) us

def board (db : Tables) : List User := db.users.insertionSort listedBefore

/-- The query of a page, with its window. -/
def windowRows (limit offset : Nat) (db : Tables) : List LeaderboardEntry :=
  ((rankOver 1 none (board db)).drop offset).take limit

instance : Std.Total listedBefore := ⟨fun a b => by
  simp only [listedBefore]
  rcases lt_trichotomy a.rating b.rating with h | h | h
  · exact .inr (.inl h)
  · rcases String.le_total a.id b.id with hid | hid
    · exact .inl (.inr ⟨h, hid⟩)
    · exact .inr (.inr ⟨h.symm, hid⟩)
  · exact .inl (.inl h)⟩

instance : IsTrans User listedBefore := ⟨fun a b c hab hbc => by
  simp only [listedBefore] at hab hbc ⊢
  rcases hab with hab | ⟨hab, hid⟩
  · rcases hbc with hbc | ⟨hbc, -⟩
    · exact .inl (lt_trans hbc hab)
    · exact .inl (hbc ▸ hab)
  · rcases hbc with hbc | ⟨hbc, hid'⟩
    · exact .inl (hab ▸ hbc)
    · exact .inr ⟨hab.trans hbc, le_trans hid hid'⟩⟩

theorem board_perm (db : Tables) : (board db).Perm db.users := List.perm_insertionSort _ _

theorem board_sorted (db : Tables) : (board db).Pairwise fun a b => b.rating ≤ a.rating :=
  (List.pairwise_insertionSort listedBefore db.users).imp fun h => h.elim le_of_lt fun h => le_of_eq h.1.symm

theorem countGreater_board (rating : Int) (db : Tables) :
    countGreater rating db = (board db).countP fun u => rating < u.rating := ((board_perm db).countP_eq _).symm

/-- The users above the one after `before`. -/
theorem countGreater_split {db : Tables} {before after : List User} {u : User} (h : board db = before ++ u :: after) :
    countGreater u.rating db = before.countP fun v => u.rating < v.rating := by
  have hsorted := board_sorted db
  rw [h, List.pairwise_append] at hsorted
  have hafter : (u :: after).countP (fun v => decide (u.rating < v.rating)) = 0 := by
    refine List.countP_eq_zero.2 fun v hv => ?_
    rcases List.mem_cons.1 hv with rfl | hv
    · simp
    · have := (List.pairwise_cons.1 hsorted.2.1).1 v hv
      simpa using this
  rw [countGreater_board, h, List.countP_append, hafter, Nat.add_zero]

/-- What the window knows of the rows before. -/
def PeerOf (db : Tables) (before : List User) : Option (Int × Nat) → Prop
  | none => before = []
  | some (rating, rank) => ∃ v, before.getLast? = some v ∧ v.rating = rating ∧ rank = countGreater rating db + 1

theorem peerRank_eq {db : Tables} {before after : List User} {u : User} {peer : Option (Int × Nat)}
    (h : board db = before ++ u :: after) (hpeer : PeerOf db before peer) :
    peerRank (before.length + 1) u.rating peer = countGreater u.rating db + 1 := by
  cases peer with
  | none =>
    have hnil : before = [] := hpeer
    subst hnil
    rw [countGreater_split h]
    rfl
  | some p =>
    obtain ⟨rating, rank⟩ := p
    obtain ⟨v, hlast, rfl, rfl⟩ := hpeer
    by_cases heq : v.rating = u.rating
    · rw [peerRank, if_pos heq, heq]
    · -- All the rows before rate higher than this one.
      rw [peerRank, if_neg heq, countGreater_split h]
      congr 1
      symm
      rw [List.countP_eq_length]
      obtain ⟨front, rfl⟩ := List.getLast?_eq_some_iff.1 hlast
      have hsorted := board_sorted db
      rw [h, List.pairwise_append] at hsorted
      have hv : u.rating ≤ v.rating := hsorted.2.2 v (by simp) u (List.mem_cons_self ..)
      intro w hw
      have hwv : v.rating ≤ w.rating := by
        rcases List.mem_append.1 hw with hin | hin
        · exact (List.pairwise_append.1 hsorted.1).2.2 w hin v (by simp)
        · exact le_of_eq (by rw [List.mem_singleton.1 hin])
      simp only [decide_eq_true_eq]
      omega

theorem rankOver_eq {db : Tables} {after : List User} : ∀ {before : List User} {peer : Option (Int × Nat)},
    board db = before ++ after → PeerOf db before peer →
      rankOver (before.length + 1) peer after = after.map (ranked db) := by
  induction after with
  | nil => exact fun _ _ => rfl
  | cons u us ih =>
    intro before peer h hpeer
    have hrank := peerRank_eq h hpeer
    have hrest := @ih (before ++ [u]) (some (u.rating, countGreater u.rating db + 1)) (by simp [h])
      ⟨u, by simp, rfl, rfl⟩
    rw [List.length_append, List.length_singleton] at hrest
    rw [rankOver, List.map_cons, hrank, hrest]
    rfl

/-! ## The pages -/

theorem windowRows_eq (limit offset : Nat) (db : Tables) : windowRows limit offset db = pageRows limit offset db := by
  have hrank := @rankOver_eq db (board db) [] none rfl rfl
  rw [List.length_nil] at hrank
  rw [windowRows, pageRows, hrank, List.map_take, List.map_drop]
  rfl

/-- Pages of one size follow one another. -/
theorem pageRows_append (limit n : Nat) (db : Tables) :
    pageRows (n * limit) 0 db ++ pageRows limit (n * limit) db = pageRows ((n + 1) * limit) 0 db := by
  simp only [pageRows, List.drop_zero]
  rw [← List.map_append, Nat.add_mul, Nat.one_mul, List.take_add]

/-- The leaderboard, read page by page. -/
structure BoardLaw (arithmetic : Arithmetic) (db : Tables) : Prop where
  /-- The window ranks a row as the count does that ranks the caller. -/
  window : ∀ limit offset, windowRows limit offset db = pageRows limit offset db
  pages : ∀ limit n, (List.range n).flatMap (fun k => pageRows limit (k * limit) db) = pageRows (n * limit) 0 db
  /-- Enough pages show every user once. -/
  whole : ∀ size, db.users.length ≤ size → (pageRows size 0 db).Perm (db.users.map (ranked db))
  order : ∀ limit offset, (pageRows limit offset db).Pairwise fun a b =>
    a.rank ≤ b.rank ∧ b.rating ≤ a.rating ∧ (a.rank = b.rank ↔ a.rating = b.rating)
  /-- The caller's own row is one of the board's, and its rank the statistics'. -/
  me : ∀ userId user, findUser userId db = some user →
    ∃ e ∈ pageRows db.users.length 0 db, meRow userId db = some e ∧
      ∀ results, (playerStats arithmetic results (some (countGreater user.rating db))).currentRank = some e.rank

theorem countGreater_le {db : Tables} {a b : Int} (h : b ≤ a) : countGreater a db ≤ countGreater b db :=
  List.countP_mono_left fun u _ hu => by
    simp only [decide_eq_true_eq] at hu ⊢
    omega

/-- A user rated between counts for the lower rating only. -/
theorem countGreater_lt {db : Tables} {a b : Int} (h : b < a) {u : User} (hu : u ∈ db.users) (hrating : u.rating = a) :
    countGreater a db < countGreater b db := by
  obtain ⟨l₁, l₂, hsplit⟩ := List.append_of_mem hu
  have hmono : ∀ l : List User, l.countP (fun u => decide (a < u.rating)) ≤ l.countP fun u => decide (b < u.rating) :=
    fun l => List.countP_mono_left fun u _ hu => by
      simp only [decide_eq_true_eq] at hu ⊢
      omega
  have h1 := hmono l₁
  have h2 := hmono l₂
  have hin : (decide (b < u.rating)) = true := by simp [hrating, h]
  have hout : (decide (a < u.rating)) = false := by simp [hrating]
  simp only [countGreater, hsplit, List.countP_append, List.countP_cons, hin, hout]
  simp
  omega

/-- **The leaderboard** is one ranking, however it is cut into pages. -/
theorem board_law (arithmetic : Arithmetic) (db : Tables) : BoardLaw arithmetic db := by
  have hwhole : ∀ size, db.users.length ≤ size → (pageRows size 0 db).Perm (db.users.map (ranked db)) := by
    intro size hsize
    have hlength : (board db).length ≤ size := by rw [(board_perm db).length_eq]; exact hsize
    rw [pageRows, List.drop_zero, ← board, List.take_of_length_le hlength]
    exact (board_perm db).map _
  refine ⟨fun limit offset => windowRows_eq limit offset db, fun limit n => ?_, hwhole, fun limit offset => ?_,
    fun userId user hfound => ?_⟩
  · induction n with
    | zero => simp [pageRows]
    | succ n ih => rw [List.range_succ, List.flatMap_append, ih, List.flatMap_singleton, pageRows_append]
  · rw [pageRows, ← board, List.pairwise_map]
    have hsorted : (((board db).drop offset).take limit).Pairwise fun a b => b.rating ≤ a.rating :=
      (board_sorted db).drop.take
    refine hsorted.imp_of_mem fun {a b} ha hb hab => ?_
    have hle := @countGreater_le db _ _ hab
    refine ⟨Nat.succ_le_succ hle, hab, fun heq => ?_, fun heq => ?_⟩
    · by_contra hne
      have hlt : b.rating < a.rating := lt_of_le_of_ne hab (Ne.symm hne)
      have hmem : a ∈ db.users := (board_perm db).subset (List.mem_of_mem_drop (List.mem_of_mem_take ha))
      have := countGreater_lt hlt hmem rfl
      simp only [ranked] at heq
      omega
    · simp only [ranked] at heq ⊢
      rw [heq]
  · refine ⟨ranked db user, ?_, by simp [meRow, hfound], fun results => rfl⟩
    rw [(hwhole _ le_rfl).mem_iff]
    exact List.mem_map_of_mem (List.mem_of_find?_eq_some hfound)

end AutoChess.Caches
