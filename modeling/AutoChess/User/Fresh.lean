/-
Who reads what from the caches. A page is found under the version its reader
just read, so whoever stored it read that version too, after every bump that
came before: the version decides. The statistics have one key. A call that
computed before a match was final can store what it computed after the
deletion, and the next call finds it there; without such a store
(`NoStaleFill`) what is found is as young as the last deletion.
-/
import AutoChess.User.Caches

namespace AutoChess.Caches

open AutoChess.Runtime (MatchRow MatchEndReason FinalizeReply RatingChange finalizeRow)
open Calls Expiring

abbrev History := List (Call Cmd Resp)

variable (arithmetic : Arithmetic)

/-! ## What the programs do -/

/-- The reads of `computeStats`, newest first, after the look into the cache. -/
inductive Computes (userId : String) : PlayerStats → History → Prop where
  | unknown (results : Results) (r : Option (Option PlayerStats)) :
      Computes userId (playerStats arithmetic results none)
        [⟨.findUser userId, some none⟩, ⟨.countMatches userId, some results⟩, ⟨.getStats userId, r⟩]
  | rated (results : Results) (user : User) (greater : Nat) (r : Option (Option PlayerStats)) :
      Computes userId (playerStats arithmetic results (some greater))
        [⟨.countGreater user.rating, some greater⟩, ⟨.findUser userId, some (some user)⟩,
          ⟨.countMatches userId, some results⟩, ⟨.getStats userId, r⟩]

/-- The reads of `computeLeaderboard`, after `looks` at the version and the cache. -/
def ComputesPage (userId : String) (limit offset : Nat) (response : LeaderboardResponse) (looks h : History) : Prop :=
  ∃ total entries me, response = ⟨entries, me, limit, offset, total⟩ ∧
    h = ⟨.meRow userId, some (some me)⟩ :: ⟨.pageRows limit offset, some entries⟩ ::
      ⟨.countUsers, some total⟩ :: looks

/-- The look at the version that leads to the key. -/
def Looks (key : PageKey) (looks : History) : Prop :=
  ∃ version r, version.getD INITIAL_VERSION = key.version ∧ looks = [⟨.getPage key, r⟩, ⟨.getVersion, some version⟩]

/-- What a call has done when it stores or returns. -/
def Guards (q : Request) (h : History) : Cmd → Prop
  | .setStats userId stats _ => q = .getStats userId ∧ Computes arithmetic userId stats h
  | .respondStats userId stats => q = .getStats userId ∧ (h = [⟨.getStats userId, some (some stats)⟩] ∨
      ∃ ttl r h', h = ⟨.setStats userId stats ttl, r⟩ :: h' ∧ Computes arithmetic userId stats h')
  | .setPage key response _ => ∃ looks, Looks key looks ∧
      ComputesPage key.userId key.limit key.offset response looks h
  | .respondLeaderboard userId limit offset response =>
      (∃ version, h = [⟨.getPage ⟨version.getD INITIAL_VERSION, userId, limit, offset⟩, some (some response)⟩,
        ⟨.getVersion, some version⟩]) ∨
      ∃ looks h', ComputesPage userId limit offset response looks h' ∧ (∃ stores, h = stores ++ h') ∧
        (looks = [⟨.getVersion, none⟩] ∨ ∃ page r version, looks = [⟨.getPage page, r⟩, ⟨.getVersion, some version⟩])
  | .getStats _ | .getVersion => h = []
  | .countMatches userId => q = .getStats userId ∧ ∃ r, h = [⟨.getStats userId, r⟩]
  | _ => True

variable {arithmetic}

theorem getStats_guarded (userId : String) :
    (program arithmetic (.getStats userId)).Obeys (Guards arithmetic (.getStats userId)) (fun _ _ => True) [] := by
  have hstore : ∀ stats h, Computes arithmetic userId stats h →
      (((call (.setStats userId stats STATS_CACHE_TTL_SECONDS)).attempt.bind fun _ => Prog.pure stats).bind
        fun stats => call (.respondStats userId stats)).Obeys
          (Guards arithmetic (.getStats userId)) (fun _ _ => True) h := by
    intro stats h hcomputed
    refine Prog.Obeys.step ⟨rfl, hcomputed⟩ fun stored => ?_
    have hrespond : Guards arithmetic (.getStats userId)
        (⟨.setStats userId stats STATS_CACHE_TTL_SECONDS, stored⟩ :: h) (.respondStats userId stats) :=
      ⟨rfl, .inr ⟨_, _, h, rfl, hcomputed⟩⟩
    cases stored with
    | none => exact Prog.Obeys.step hrespond fun r => by cases r <;> trivial
    | some _ => exact Prog.Obeys.step hrespond fun r => by cases r <;> trivial
  have hrefill : ∀ r, ((refillStats arithmetic userId).bind fun stats => call (.respondStats userId stats)).Obeys
      (Guards arithmetic (.getStats userId)) (fun _ _ => True) [⟨.getStats userId, r⟩] := by
    intro r
    refine Prog.Obeys.step ⟨rfl, r, rfl⟩ fun results => ?_
    cases results with
    | none => trivial
    | some results =>
      refine Prog.Obeys.step trivial fun found => ?_
      rcases found with _ | _ | user
      · trivial
      · exact hstore _ _ (.unknown results r)
      · refine Prog.Obeys.step trivial fun greater => ?_
        cases greater with
        | none => trivial
        | some greater => exact hstore _ _ (.rated results user greater r)
  refine Prog.Obeys.step rfl fun found => ?_
  rcases found with _ | _ | cached
  · exact hrefill none
  · exact hrefill (some none)
  · exact Prog.Obeys.step ⟨rfl, .inl rfl⟩ fun r => by cases r <;> trivial

theorem computeLeaderboard_guarded {q : Request} {userId : String} {limit offset : Nat} {looks : History}
    {f : LeaderboardResponse → M Unit} (hf : ∀ response h, ComputesPage userId limit offset response looks h →
      (f response).Obeys (Guards arithmetic q) (fun _ _ => True) h) :
    ((computeLeaderboard userId limit offset).bind f).Obeys (Guards arithmetic q) (fun _ _ => True) looks := by
  refine Prog.Obeys.step trivial fun total => ?_
  cases total with
  | none => trivial
  | some total =>
    refine Prog.Obeys.step trivial fun entries => ?_
    cases entries with
    | none => trivial
    | some entries =>
      refine Prog.Obeys.step trivial fun me => ?_
      rcases me with _ | _ | me
      · trivial
      · trivial
      · exact hf ⟨entries, me, limit, offset, total⟩ _ ⟨total, entries, me, rfl, rfl⟩

theorem getLeaderboard_guarded (userId : String) (limit offset : Nat) :
    (program arithmetic (.getLeaderboard userId limit offset)).Obeys
      (Guards arithmetic (.getLeaderboard userId limit offset)) (fun _ _ => True) [] := by
  have hrefill : ∀ version r, ((refillPage ⟨version.getD INITIAL_VERSION, userId, limit, offset⟩).bind fun response =>
      call (.respondLeaderboard userId limit offset response)).Obeys
        (Guards arithmetic (.getLeaderboard userId limit offset)) (fun _ _ => True)
        [⟨.getPage ⟨version.getD INITIAL_VERSION, userId, limit, offset⟩, r⟩, ⟨.getVersion, some version⟩] := by
    intro version r
    rw [refillPage, Prog.bind_eq, Prog.bind_assoc]
    refine computeLeaderboard_guarded fun response h hcomputed => ?_
    refine Prog.Obeys.step ⟨_, ⟨version, r, rfl, rfl⟩, hcomputed⟩ fun stored => ?_
    cases stored <;>
    · refine Prog.Obeys.step (.inr ⟨_, h, hcomputed, ⟨[_], rfl⟩, .inr ⟨_, r, version, rfl⟩⟩) fun r => ?_
      cases r <;> trivial
  refine Prog.Obeys.step rfl fun version => ?_
  cases version with
  | none =>
    refine computeLeaderboard_guarded fun response h hcomputed => ?_
    refine Prog.Obeys.step (.inr ⟨_, h, hcomputed, ⟨[], rfl⟩, .inl rfl⟩) fun r => ?_
    cases r <;> trivial
  | some version =>
    refine Prog.Obeys.step trivial fun found => ?_
    rcases found with _ | _ | cached
    · exact hrefill version none
    · exact hrefill version (some none)
    · exact Prog.Obeys.step (.inl ⟨version, rfl⟩) fun r => by cases r <;> trivial

theorem program_guarded (q : Request) :
    (program arithmetic q).Obeys (Guards arithmetic q) (fun _ _ => True) [] := by
  cases q with
  | getStats userId => exact getStats_guarded userId
  | getLeaderboard userId limit offset => exact getLeaderboard_guarded userId limit offset
  | finalize matchId winnerId reason =>
    refine Prog.Obeys.step trivial fun reply => ?_
    rcases reply with _ | _ | terminal | _ | _ | ⟨row, rating⟩
    · trivial
    · trivial
    · cases terminal with
      | false => trivial
      | true => exact Prog.Obeys.step trivial fun r => by cases r <;> trivial
    · trivial
    · trivial
    · refine Prog.Obeys.step trivial fun scheduled => ?_
      cases scheduled with
      | none => trivial
      | some _ =>
        refine Prog.Obeys.step trivial fun deleted => ?_
        cases deleted <;>
        · refine Prog.Obeys.step trivial fun bumped => ?_
          cases bumped <;> exact Prog.Obeys.step trivial fun r => by cases r <;> trivial

/-! ## The database goes on -/

variable (arithmetic)

/-- `db'` is `db` after some finalisations. -/
def Later : Tables → Tables → Prop :=
  Relation.ReflTransGen fun db db' => ∃ now matchId winnerId reason,
    db' = (finalizeTx arithmetic now matchId winnerId reason db).2

/-- `c` is the transaction that made the match final, with this row. -/
def Closes (row : MatchRow) (c : Event Store Request Cmd Resp) : Prop :=
  ∃ matchId winnerId reason rating, c.toCall = ⟨.finalizeTx matchId winnerId reason, some (some (.finalized row rating))⟩

/-- The database has the match's final row, and the ratings as they were when
it was final or after. -/
structure Included (row : MatchRow) (c : Event Store Request Cmd Resp) (db : Tables) : Prop where
  ratings : Later arithmetic c.after.db db
  result : row ∈ db.games

variable {arithmetic}

theorem Later.trans {db₁ db₂ db₃ : Tables} (h : Later arithmetic db₁ db₂) (h' : Later arithmetic db₂ db₃) :
    Later arithmetic db₁ db₃ := Relation.ReflTransGen.trans h h'

theorem finalizeRow_final {eloDelta : Int → Int → Bool → Int} {winnerId : Option String} {reason : MatchEndReason}
    {s : Runtime.Store} (h : s.row.status ≠ .in_progress) : (finalizeRow eloDelta winnerId reason s).2 = s := by
  rw [finalizeRow, if_pos h]

theorem finalizeRow_finalized {eloDelta : Int → Int → Bool → Int} {winnerId : Option String}
    {reason : MatchEndReason} {s : Runtime.Store} {row : MatchRow} {rating : Option (RatingChange × RatingChange)}
    (h : (finalizeRow eloDelta winnerId reason s).1 = .finalized row rating) :
    (finalizeRow eloDelta winnerId reason s).2.row = row ∧ row.status ≠ .in_progress := by
  have hclosed : (Runtime.closeRow winnerId reason s).status ≠ .in_progress := by
    unfold Runtime.closeRow
    split <;> simp
  unfold finalizeRow at h ⊢
  split at h
  · cases h
  · next hprogress =>
    rw [if_neg hprogress]
    dsimp only at h ⊢
    split at h
    · obtain ⟨rfl, -⟩ := FinalizeReply.finalized.inj h
      exact ⟨rfl, hclosed⟩
    · split at h
      · cases h
      · next hplayer =>
        rw [if_neg hplayer]
        split at h
        · obtain ⟨rfl, -⟩ := FinalizeReply.finalized.inj h
          exact ⟨rfl, hclosed⟩
        · cases h

/-- The row of the transaction, and what it leaves of the others. -/
theorem finalizeTx_games {now : Nat} {matchId : String} {winnerId : Option String} {reason : MatchEndReason}
    {db : Tables} {row : MatchRow} (h : db.games.find? (·.id == matchId) = some row) :
    (finalizeTx arithmetic now matchId winnerId reason db).1 =
        some (finalizeRow arithmetic.eloDelta winnerId reason (db.view now row)).1 ∧
      (finalizeTx arithmetic now matchId winnerId reason db).2.games = db.games.map fun g =>
        if g.id == matchId then (finalizeRow arithmetic.eloDelta winnerId reason (db.view now row)).2.row else g := by
  unfold finalizeTx
  split
  · next hnone => cases hnone.symm.trans h
  · next found hfound =>
    obtain rfl : found = row := Option.some.inj (hfound.symm.trans h)
    exact ⟨rfl, rfl⟩

theorem finalizeTx_missing {now : Nat} {matchId : String} {winnerId : Option String} {reason : MatchEndReason}
    {db : Tables} (h : db.games.find? (·.id == matchId) = none) :
    finalizeTx arithmetic now matchId winnerId reason db = (none, db) := by
  unfold finalizeTx
  split
  · rfl
  · next hfound => cases hfound.symm.trans h

theorem Tables.row_unique {db : Tables} {row row' : MatchRow} (h : row ∈ db.games) (h' : row' ∈ db.games)
    (hid : row.id = row'.id) : row = row' := List.inj_on_of_nodup_map db.ids h h' hid

/-- A final row stays as it is. -/
theorem Later.keeps {db db' : Tables} {row : MatchRow} (h : Later arithmetic db db') (hrow : row ∈ db.games)
    (hfinal : row.status ≠ .in_progress) : row ∈ db'.games := by
  induction h with
  | refl => exact hrow
  | @tail db₁ _ _ hstep ih =>
    obtain ⟨now, matchId, winnerId, reason, rfl⟩ := hstep
    cases hfound : db₁.games.find? (·.id == matchId) with
    | none => rw [finalizeTx_missing hfound]; exact ih
    | some found =>
      rw [(finalizeTx_games hfound).2]
      by_cases hid : row.id = matchId
      · have hsame : found = row := by
          have hfoundId : found.id = matchId := by simpa using List.find?_some hfound
          exact Tables.row_unique (List.mem_of_find?_eq_some hfound) ih (hfoundId.trans hid.symm)
        subst hsame
        refine List.mem_map.2 ⟨found, ih, ?_⟩
        rw [if_pos (by simpa using hid), finalizeRow_final hfinal]
        rfl
      · exact List.mem_map.2 ⟨row, ih, if_neg (by simpa using hid)⟩

/-- The final row is there, and the ratings are those of the transaction, from
the commit on. -/
theorem Included.later {row : MatchRow} {c : Event Store Request Cmd Resp} {db db' : Tables}
    (h : Included arithmetic row c db) (hfinal : row.status ≠ .in_progress) (hlater : Later arithmetic db db') :
    Included arithmetic row c db' := ⟨h.ratings.trans hlater, hlater.keeps h.result hfinal⟩

/-! ## One call -/

theorem act_db (cmd : Cmd) (s : Store) : Later arithmetic s.db (act arithmetic cmd s).2.db := by
  cases cmd with
  | finalizeTx matchId winnerId reason => exact .single ⟨s.now, matchId, winnerId, reason, rfl⟩
  | _ => exact .refl

/-- The version as readers take it. -/
def Store.ver (s : Store) : Nat := s.version.getD INITIAL_VERSION

theorem act_ver (cmd : Cmd) (s : Store) : s.ver ≤ (act arithmetic cmd s).2.ver := by
  cases cmd with
  | incrVersion => exact Nat.le_succ _
  | _ => exact le_rfl

/-- Statistics are stored by a store alone. -/
theorem act_stats {cmd : Cmd} {s : Store} {userId : String} {stats : PlayerStats} {expireAt : Option Nat}
    (h : (act arithmetic cmd s).2.stats userId = ⟨some ⟨stats, expireAt⟩⟩) :
    (∃ ttl, cmd = .setStats userId stats ttl) ∨
      s.stats userId = ⟨some ⟨stats, expireAt⟩⟩ ∧ ∀ ids, cmd = .delStats ids → userId ∉ ids := by
  cases cmd with
  | setStats other stored ttl =>
    by_cases hother : userId = other
    · subst hother
      have hstored : Key.setEx s.now (ttl * 1000) stored = ⟨some ⟨stats, expireAt⟩⟩ :=
        (Function.update_self userId _ s.stats).symm.trans h
      cases hstored
      exact .inl ⟨ttl, rfl⟩
    · exact .inr ⟨(Function.update_of_ne hother ..).symm.trans h, by rintro _ ⟨⟩⟩
  | delStats ids =>
    change (if userId ∈ ids then ({} : Key PlayerStats) else s.stats userId) = _ at h
    by_cases hid : userId ∈ ids
    · rw [if_pos hid] at h
      cases h
    · rw [if_neg hid] at h
      exact .inr ⟨h, by rintro _ ⟨⟩; exact hid⟩
  | _ => exact .inr ⟨h, by rintro _ ⟨⟩⟩

theorem act_pages {cmd : Cmd} {s : Store} {key : PageKey} {response : LeaderboardResponse} {expireAt : Option Nat}
    (h : (act arithmetic cmd s).2.pages key = ⟨some ⟨response, expireAt⟩⟩) :
    (∃ ttl, cmd = .setPage key response ttl) ∨ s.pages key = ⟨some ⟨response, expireAt⟩⟩ := by
  cases cmd with
  | setPage other stored ttl =>
    by_cases hother : key = other
    · subst hother
      have hstored : Key.setEx s.now (ttl * 1000) stored = ⟨some ⟨response, expireAt⟩⟩ :=
        (Function.update_self key _ s.pages).symm.trans h
      cases hstored
      exact .inl ⟨ttl, rfl⟩
    · exact .inr ((Function.update_of_ne hother ..).symm.trans h)
  | _ => exact .inr h

/-! ## Runs -/

/-- The log of a run, and the guard of each of its calls. -/
abbrev Story (arithmetic : Arithmetic) (db : Tables) := Chronicle (pool arithmetic) (Guards arithmetic) { db := db }

abbrev Log := List (Event Store Request Cmd Resp)

/-- The deletion of the statistics of the match's players. -/
def Invalidates (row : MatchRow) (d : Event Store Request Cmd Resp) : Prop :=
  d.toCall = ⟨.delStats [row.player1Id, row.player2Id], some ()⟩

def Bumps (d : Event Store Request Cmd Resp) : Prop := d.toCall = ⟨.incrVersion, some ()⟩

/-- The match was made final by `c`, and then the same call has done `done`. -/
def Settled (done : Event Store Request Cmd Resp → Prop) (row : MatchRow) (c : Event Store Request Cmd Resp)
    (log : Log) : Prop :=
  ∃ newer d older, log = newer ++ d :: older ∧ done d ∧ c ∈ older ∧ c.pid = d.pid ∧ Closes row c

section
variable {db : Tables} {log newer older : Log} {s : Store} {row : MatchRow} {c : Event Store Request Cmd Resp}

theorem does_later {e : Event Store Request Cmd Resp} (h : (pool arithmetic).Does e) :
    Later arithmetic e.before.db e.after.db := by
  rcases h.after_eq with hsame | hact
  · rw [hsame]
    exact .refl
  · rw [hact]
    exact act_db e.cmd e.before

theorem does_ver {e : Event Store Request Cmd Resp} (h : (pool arithmetic).Does e) : e.before.ver ≤ e.after.ver := by
  rcases h.after_eq with hsame | hact
  · rw [hsame]
  · rw [hact]
    exact act_ver e.cmd e.before

theorem Closes.commits (hc : Closes row c) (hdoes : (pool arithmetic).Does c) :
    row.status ≠ .in_progress ∧ Included arithmetic row c c.after.db := by
  obtain ⟨matchId, winnerId, reason, rating, hcall⟩ := hc
  obtain ⟨hreply, hafter⟩ := hdoes.of_call hcall
  change _ = (finalizeTx arithmetic c.before.now matchId winnerId reason c.before.db).1 at hreply
  have hdb : c.after.db = (finalizeTx arithmetic c.before.now matchId winnerId reason c.before.db).2 := by
    rw [hafter]
    rfl
  cases hfound : c.before.db.games.find? (·.id == matchId) with
  | none =>
    rw [finalizeTx_missing hfound] at hreply
    cases hreply
  | some found =>
    obtain ⟨hout, hgames⟩ := @finalizeTx_games arithmetic c.before.now matchId winnerId reason _ _ hfound
    obtain ⟨hrow, hfinal⟩ := finalizeRow_finalized (Option.some.inj (hreply.trans hout)).symm
    refine ⟨hfinal, .refl, ?_⟩
    rw [hdb, hgames]
    refine List.mem_map.2 ⟨found, List.mem_of_find?_eq_some hfound, ?_⟩
    rw [if_pos (List.find?_some hfound)]
    exact hrow

/-- After the commit the final row is in every state. -/
theorem Story.included (h : Story arithmetic db log s) (hmem : c ∈ log) (hc : Closes row c) :
    Included arithmetic row c s.db := by
  obtain ⟨newer, older, rfl⟩ := List.append_of_mem hmem
  obtain ⟨hfinal, hcommitted⟩ := hc.commits h.of_split.2.2
  have hlater : Later arithmetic c.after.db s.db := by
    refine h.rel_since (r := fun s s' : Store => Later arithmetic s.db s'.db) (fun _ => .refl)
      (fun _ _ _ => Later.trans) ?_ fun newer' e' older' hsplit => ?_
    · exact fun _ _ => .refl
    · subst hsplit
      rw [List.append_assoc] at h
      exact does_later h.of_split.2.2
  exact hcommitted.later hfinal hlater

theorem Story.ver_since {e : Event Store Request Cmd Resp}
    (h : Story arithmetic db (newer ++ e :: older) s) : e.after.ver ≤ s.ver := by
  refine h.rel_since (r := fun s s' => s.ver ≤ s'.ver) (fun _ => le_rfl) (fun _ _ _ => le_trans)
    (fun _ _ => le_rfl) fun newer' e' older' hsplit => ?_
  subst hsplit
  rw [List.append_assoc] at h
  exact does_ver h.of_split.2.2

/-- What is cached of a player's statistics was stored, and not deleted since. -/
theorem Story.stats_source (h : Story arithmetic db log s) {userId : String} {stats : PlayerStats}
    {expireAt : Option Nat} (hstored : s.stats userId = ⟨some ⟨stats, expireAt⟩⟩) :
    ∃ newer f older, log = newer ++ f :: older ∧ (∃ ttl, f.cmd = .setStats userId stats ttl) ∧
      ∀ d ∈ newer, ∀ ids, d.toCall = ⟨.delStats ids, some ()⟩ → userId ∉ ids := by
  induction h with
  | start => cases hstored
  | time ms h ih => exact ih hstored
  | @call log e h hguard hdoes ih =>
    have hkept : (e.before.stats userId = ⟨some ⟨stats, expireAt⟩⟩ ∧
        ∀ ids, e.toCall = ⟨.delStats ids, some ()⟩ → userId ∉ ids) →
        ∃ newer f older, e :: log = newer ++ f :: older ∧ (∃ ttl, f.cmd = .setStats userId stats ttl) ∧
          ∀ d ∈ newer, ∀ ids, d.toCall = ⟨.delStats ids, some ()⟩ → userId ∉ ids := by
      rintro ⟨hbefore, hdeletes⟩
      obtain ⟨newer, f, older, rfl, hset, hnewer⟩ := ih hbefore
      refine ⟨e :: newer, f, older, rfl, hset, fun d hd => ?_⟩
      rcases List.mem_cons.1 hd with rfl | hd
      · exact hdeletes
      · exact hnewer d hd
    have hact : e.after = (act arithmetic e.cmd e.before).2 → ∃ newer f older, e :: log = newer ++ f :: older ∧
        (∃ ttl, f.cmd = .setStats userId stats ttl) ∧
          ∀ d ∈ newer, ∀ ids, d.toCall = ⟨.delStats ids, some ()⟩ → userId ∉ ids := by
      intro hafter
      rw [hafter] at hstored
      rcases act_stats hstored with hset | ⟨hbefore, hdeletes⟩
      · exact ⟨[], e, log, rfl, hset, fun d hd => by cases hd⟩
      · exact hkept ⟨hbefore, fun ids hcall => hdeletes ids (congrArg Call.cmd hcall)⟩
    rcases hdoes.after_eq with hsame | hafter
    · by_cases hcall : ∃ ids, e.toCall = ⟨.delStats ids, some ()⟩
      · obtain ⟨ids, hcall⟩ := hcall
        have hcmd : e.cmd = .delStats ids := congrArg Call.cmd hcall
        exact hact (by rw [hcmd]; exact (hdoes.of_call hcall).2)
      · exact hkept ⟨hsame ▸ hstored, fun ids heq => absurd ⟨ids, heq⟩ hcall⟩
    · exact hact hafter

theorem Story.page_source (h : Story arithmetic db log s) {key : PageKey}
    {response : LeaderboardResponse} {expireAt : Option Nat}
    (hstored : s.pages key = ⟨some ⟨response, expireAt⟩⟩) :
    ∃ newer f older, log = newer ++ f :: older ∧ ∃ ttl, f.cmd = .setPage key response ttl := by
  induction h with
  | start => cases hstored
  | time ms h ih => exact ih hstored
  | @call log e h hguard hdoes ih =>
    have hkept : e.before.pages key = ⟨some ⟨response, expireAt⟩⟩ →
        ∃ newer f older, e :: log = newer ++ f :: older ∧ ∃ ttl, f.cmd = .setPage key response ttl := by
      intro hbefore
      obtain ⟨newer, f, older, rfl, hset⟩ := ih hbefore
      exact ⟨e :: newer, f, older, rfl, hset⟩
    rcases hdoes.after_eq with hsame | hafter
    · exact hkept (hsame ▸ hstored)
    · rw [hafter] at hstored
      rcases act_pages hstored with hset | hbefore
      · exact ⟨[], e, log, rfl, hset⟩
      · exact hkept hbefore

end

/-! ## What a call returns -/

/-- The statistics of the user from three reads, all of them after the match. -/
def StatsAfter (arithmetic : Arithmetic) (row : MatchRow) (c : Event Store Request Cmd Resp) (userId : String)
    (stats : PlayerStats) : Prop :=
  ∃ db₁ db₂ db₃, Included arithmetic row c db₁ ∧ Included arithmetic row c db₂ ∧ Included arithmetic row c db₃ ∧
    stats = playerStats arithmetic (countMatches userId db₁)
      ((findUser userId db₂).map fun user => countGreater user.rating db₃)

def PageAfter (arithmetic : Arithmetic) (row : MatchRow) (c : Event Store Request Cmd Resp) (userId : String)
    (limit offset : Nat) (response : LeaderboardResponse) : Prop :=
  ∃ db₁ db₂ db₃ me, Included arithmetic row c db₁ ∧ Included arithmetic row c db₂ ∧ Included arithmetic row c db₃ ∧
    meRow userId db₃ = some me ∧ response = ⟨pageRows limit offset db₂, me, limit, offset, db₁.users.length⟩

/-- What happened after the call's aggregate over the user's matches. -/
def sinceCount (userId : String) (pid : Nat) (log : Log) : Log :=
  log.takeWhile fun e => !(e.pid == pid && e.cmd == .countMatches userId)

/-- A store of statistics comes without a match of the user that was committed
and invalidated since they were counted. -/
def NoStaleFill (older : Log) (e : Event Store Request Cmd Resp) : Prop :=
  ∀ userId stats ttl, e.cmd = .setStats userId stats ttl →
    ∀ row c, row.player1Id = userId ∨ row.player2Id = userId →
      ¬ Settled (Invalidates row) row c (sinceCount userId e.pid older)

section
variable {db : Tables} {log newer older : Log} {s : Store} {row : MatchRow} {c : Event Store Request Cmd Resp}

/-- The count of a call, and what its thread did since. -/
theorem sinceCount_split {pid : Nat} {userId : String} {results : Results} {since before : History}
    (hown : own pid log = since ++ ⟨.countMatches userId, some results⟩ :: before)
    (hsince : ∀ e ∈ since, e.cmd ≠ .countMatches userId) :
    ∃ r rest, log = sinceCount userId pid log ++ r :: rest ∧ r.toCall = ⟨.countMatches userId, some results⟩ ∧
      own pid rest = before ∧ own pid (sinceCount userId pid log) = since := by
  obtain ⟨newer, r, rest, rfl, hpid, hcall, hrest, hnewer⟩ := own_split hown
  have htaken : sinceCount userId pid (newer ++ r :: rest) = newer := by
    have hcount : (r.pid == pid && r.cmd == .countMatches userId) = true := by
      rw [hpid, show r.cmd = .countMatches userId from congrArg Call.cmd hcall]
      simp
    rw [sinceCount, List.takeWhile_append_of_pos, List.takeWhile_cons, hcount]
    · simp
    · intro e he
      by_cases hmine : e.pid = pid
      · have := hsince e.toCall (hnewer ▸ mem_own.2 ⟨e, he, hmine, rfl⟩)
        simp [this]
      · simp [hmine]
  exact ⟨r, rest, by rw [htaken], hcall, hrest, by rw [htaken, hnewer]⟩

theorem Story.split (h : Story arithmetic db log s) {e : Event Store Request Cmd Resp}
    (hlog : log = newer ++ e :: older) : Story arithmetic db older e.before ∧
      Guards arithmetic e.request (own e.pid older) e.cmd ∧ (pool arithmetic).Does e := (hlog ▸ h).of_split

/-- An answered call, after the commit. -/
theorem Story.read (h : Story arithmetic db log s) {e : Event Store Request Cmd Resp}
    (hlog : log = newer ++ e :: older) {cmd : Cmd} {r : Resp cmd} (hcall : e.toCall = ⟨cmd, some r⟩) :
    r = (act arithmetic cmd e.before).1 ∧ ∀ c row, c ∈ older → Closes row c → Included arithmetic row c e.before.db := by
  subst hlog
  obtain ⟨hstory, -, hdoes⟩ := h.of_split
  exact ⟨(hdoes.of_call hcall).1, fun c row => Story.included hstory⟩

/-- Statistics computed: from a count, and from what was read after it. -/
theorem Story.computes (h : Story arithmetic db log s) {pid : Nat} {userId : String} {stats : PlayerStats}
    (hcomputes : Computes arithmetic userId stats (own pid log)) :
    ∃ r rest, log = sinceCount userId pid log ++ r :: rest ∧ r.cmd = .countMatches userId ∧
      (∃ looks, own pid rest = [⟨.getStats userId, looks⟩]) ∧
      ∀ c row, c ∈ rest → Closes row c → StatsAfter arithmetic row c userId stats := by
  generalize hown : own pid log = calls at hcomputes
  cases hcomputes with
  | unknown results looks =>
    obtain ⟨r, rest, hlog, hr, hrest, hsince⟩ :=
      sinceCount_split (show own pid log = [⟨.findUser userId, some none⟩] ++ _ from hown) (by simp)
    obtain ⟨newer, f, older, hsplit, -, hf, -⟩ := own_last hsince
    have hfind : log = newer ++ f :: (older ++ r :: rest) := by
      conv_lhs => rw [hlog, hsplit]
      simp
    obtain ⟨hresults, hcounted⟩ := h.read hlog hr
    obtain ⟨hnone, hfound⟩ := h.read hfind hf
    refine ⟨r, rest, hlog, congrArg Call.cmd hr, ⟨looks, hrest⟩, fun c row hmem hc => ?_⟩
    have hlater := hfound c row (List.mem_append_right _ (List.mem_cons_of_mem _ hmem)) hc
    refine ⟨_, _, _, hcounted c row hmem hc, hlater, hlater, ?_⟩
    rw [hresults, ← show none = findUser userId f.before.db from hnone]
    rfl
  | rated results user greater looks =>
    obtain ⟨r, rest, hlog, hr, hrest, hsince⟩ := sinceCount_split (show own pid log =
      [⟨.countGreater user.rating, some greater⟩, ⟨.findUser userId, some (some user)⟩] ++ _ from hown) (by simp)
    obtain ⟨newer, g, older, hsplit, -, hg, holder⟩ := own_last hsince
    obtain ⟨newer', f, older', hsplit', -, hf, -⟩ := own_last holder
    have hrank : log = newer ++ g :: (older ++ r :: rest) := by
      conv_lhs => rw [hlog, hsplit]
      simp
    have hfind : log = (newer ++ g :: newer') ++ f :: (older' ++ r :: rest) := by
      rw [hrank, hsplit']
      simp
    obtain ⟨hresults, hcounted⟩ := h.read hlog hr
    obtain ⟨huser, hfound⟩ := h.read hfind hf
    obtain ⟨hgreater, hranked⟩ := h.read hrank hg
    refine ⟨r, rest, hlog, congrArg Call.cmd hr, ⟨looks, hrest⟩, fun c row hmem hc => ?_⟩
    refine ⟨_, _, _, hcounted c row hmem hc, hfound c row (List.mem_append_right _ (List.mem_cons_of_mem _ hmem)) hc,
      hranked c row (List.mem_append_right _ (List.mem_cons_of_mem _ hmem)) hc, ?_⟩
    rw [hresults, hgreater, ← show some user = findUser userId f.before.db from huser]
    rfl

/-- A page computed by a call that began after the commit. -/
theorem Story.computesPage {mid : Log} (h : Story arithmetic db (mid ++ older) s) {pid : Nat} {userId : String}
    {limit offset : Nat} {response : LeaderboardResponse} {looks calls stores : History}
    (hcomputes : ComputesPage userId limit offset response looks calls)
    (hown : own pid (mid ++ older) = stores ++ calls) (hbegins : own pid older = []) (hmem : c ∈ older)
    (hc : Closes row c) : PageAfter arithmetic row c userId limit offset response := by
  obtain ⟨total, entries, me, rfl, rfl⟩ := hcomputes
  rw [own_append, hbegins, List.append_nil] at hown
  obtain ⟨n₁, m, o₁, rfl, -, hm, ho₁, -⟩ := own_split hown
  obtain ⟨n₂, p, o₂, rfl, -, hp, ho₂⟩ := own_last ho₁
  obtain ⟨n₃, t, o₃, rfl, -, ht, -⟩ := own_last ho₂
  have hafter : ∀ l : Log, c ∈ l ++ older := fun l => List.mem_append_right l hmem
  obtain ⟨hme, hread₁⟩ := h.read (show _ = n₁ ++ m :: (n₂ ++ p :: (n₃ ++ t :: o₃) ++ older) by simp) hm
  obtain ⟨hentries, hread₂⟩ := h.read (show _ = (n₁ ++ m :: n₂) ++ p :: (n₃ ++ t :: o₃ ++ older) by simp) hp
  obtain ⟨htotal, hread₃⟩ := h.read (show _ = (n₁ ++ m :: n₂ ++ p :: n₃) ++ t :: (o₃ ++ older) by simp) ht
  refine ⟨_, _, _, me, hread₃ c row (hafter _) hc, hread₂ c row (hafter _) hc, hread₁ c row (hafter _) hc, hme.symm, ?_⟩
  rw [hentries, htotal]
  rfl

/-- The look at a version that is as young as a bump comes after the bump. -/
theorem Story.version_after (h : Story arithmetic db log s) {d r : Event Store Request Cmd Resp}
    {newer' older' : Log} (hd : log = newer ++ d :: older) (hbump : Bumps d) (hr : log = newer' ++ r :: older')
    {version : Option Nat} (hread : r.toCall = ⟨.getVersion, some version⟩)
    (hyoung : d.after.ver ≤ version.getD INITIAL_VERSION) : ∃ mid, older' = mid ++ d :: older := by
  obtain ⟨hversion, -⟩ := h.read hr hread
  obtain ⟨hstory, -, hdoes⟩ := Story.split h hd
  have hbumped : d.after.ver = d.before.ver + 1 := by
    rw [(hdoes.of_call hbump).2]
    rfl
  rcases split_cases (hd.symm.trans hr) with ⟨-, rfl, -⟩ | ⟨mid, rfl, -⟩ | ⟨mid, rfl, -⟩
  · cases (congrArg Call.cmd hbump).symm.trans (congrArg Call.cmd hread)
  · have hearlier : r.before.ver ≤ d.before.ver := (does_ver hstory.of_split.2.2).trans (Story.ver_since hstory)
    rw [hversion] at hyoung
    have : d.after.ver ≤ r.before.ver := hyoung
    omega
  · exact ⟨mid, rfl⟩

/-- **The statistics**: without a stale fill, a call that began after the
invalidation returns what was read after the match. -/
theorem Story.stats_after (h : Story arithmetic db log s) (hfills : Meets NoStaleFill log)
    {e : Event Store Request Cmd Resp} {mid : Log} (hlog : log = newer ++ e :: (mid ++ older))
    (hbegins : own e.pid older = []) {userId : String} {stats : PlayerStats}
    (hcmd : e.cmd = .respondStats userId stats) (hplayer : row.player1Id = userId ∨ row.player2Id = userId)
    (hsettled : Settled (Invalidates row) row c older) : StatsAfter arithmetic row c userId stats := by
  obtain ⟨hbefore, hguard, -⟩ := Story.split h hlog
  obtain ⟨newer', d, older', rfl, hdeleted, hmem, hpid, hc⟩ := hsettled
  rw [hcmd] at hguard
  obtain ⟨-, hhit | ⟨ttl, stored, calls, hown, hcomputes⟩⟩ := hguard
  · -- The statistics were found: stored after the deletion, by a call that counted after the commit.
    rw [own_append, hbegins, List.append_nil] at hhit
    obtain ⟨n₁, g, o₁, rfl, -, hg, -⟩ := own_last hhit
    have hlookSplit : n₁ ++ g :: o₁ ++ (newer' ++ d :: older') = n₁ ++ g :: (o₁ ++ newer' ++ d :: older') := by simp
    obtain ⟨hfound, -⟩ := hbefore.read hlookSplit hg
    obtain ⟨hlook, -⟩ := Story.split hbefore hlookSplit
    obtain ⟨expireAt, hentry⟩ := Key.entry_of_get hfound.symm
    obtain ⟨a, f, o, hsource, ⟨ttl, hset⟩, hkept⟩ := Story.stats_source hlook hentry
    obtain ⟨hstored, hstore, -⟩ := Story.split hlook hsource
    rw [hset] at hstore
    obtain ⟨r, rest, ho, hr, -, hafter⟩ := Story.computes hstored hstore.2
    have hfill : ¬ Settled (Invalidates row) row c (sinceCount userId f.pid o) := by
      rw [hlog, hlookSplit, hsource] at hfills
      exact hfills.of_append.2.of_append.2.of_append.1 userId stats ttl hset row c hplayer
    refine hafter c row ?_ hc
    rcases split_cases hsource with ⟨-, rfl, -⟩ | ⟨m, -, rfl⟩ | ⟨m, hm, -⟩
    · cases (congrArg Call.cmd hdeleted).symm.trans hset
    · refine absurd ?_ (hkept d (by simp) _ hdeleted)
      rcases hplayer with rfl | rfl <;> simp
    · rcases split_cases (hm.symm.trans ho) with ⟨-, rfl, -⟩ | ⟨m', rfl, hsince⟩ | ⟨m', rfl, -⟩
      · cases (congrArg Call.cmd hdeleted).symm.trans hr
      · rcases List.mem_append.1 hmem with hin | hin
        · exact absurd ⟨m, d, m', hsince, hdeleted, hin, hpid, hc⟩ hfill
        · rcases List.mem_cons.1 hin with rfl | hin
          · obtain ⟨_, _, _, _, hcall⟩ := hc
            cases (congrArg Call.cmd hcall).symm.trans hr
          · exact hin
      · simp [hmem]
  · -- The call counted itself.
    obtain ⟨n₁, f, o₁, ho, -, -, rfl⟩ := own_last hown
    obtain ⟨r, rest, ho₁, hr, ⟨looks, hrest⟩, hafter⟩ := Story.computes (Story.split hbefore ho).1 hcomputes
    refine hafter c row ?_ hc
    have hsplit : mid ++ newer' ++ d :: older' = n₁ ++ f :: sinceCount userId e.pid o₁ ++ r :: rest := by
      rw [List.append_assoc, ho]
      conv_lhs => rw [ho₁]
      simp
    rcases split_cases hsplit with ⟨-, rfl, -⟩ | ⟨m, rfl, -⟩ | ⟨m, rfl, -⟩
    · cases (congrArg Call.cmd hdeleted).symm.trans hr
    · have hnone : own e.pid rest = [] := by
        simp only [own, List.map_eq_nil_iff, List.filter_eq_nil_iff] at hbegins ⊢
        exact fun x hx => hbegins x (by simp [hx])
      cases hnone.symm.trans hrest
    · simp [hmem]

/-- **The leaderboard**: a call that began after the bump returns what was
read after the match. -/
theorem Story.page_after (h : Story arithmetic db log s)
    {e : Event Store Request Cmd Resp} {mid : Log} (hlog : log = newer ++ e :: (mid ++ older))
    (hbegins : own e.pid older = []) {userId : String} {limit offset : Nat} {response : LeaderboardResponse}
    (hcmd : e.cmd = .respondLeaderboard userId limit offset response)
    (hsettled : Settled Bumps row c older) : PageAfter arithmetic row c userId limit offset response := by
  obtain ⟨hbefore, hguard, -⟩ := Story.split h hlog
  obtain ⟨newer', d, older', rfl, hbump, hmem, -, hc⟩ := hsettled
  rw [hcmd] at hguard
  rcases hguard with ⟨version, hhit⟩ | ⟨looks, calls, hcomputes, ⟨stores, hown⟩, -⟩
  · -- The page was found under the version read after the bump.
    rw [own_append, hbegins, List.append_nil] at hhit
    obtain ⟨n₁, p, o₁, rfl, -, hp, ho₁⟩ := own_last hhit
    obtain ⟨n₂, g, o₂, rfl, -, hg, -⟩ := own_last ho₁
    have hlookSplit : n₁ ++ p :: (n₂ ++ g :: o₂) ++ (newer' ++ d :: older') =
        n₁ ++ p :: (n₂ ++ g :: (o₂ ++ newer' ++ d :: older')) := by simp
    obtain ⟨hfound, -⟩ := hbefore.read hlookSplit hp
    obtain ⟨hlook, -⟩ := Story.split hbefore hlookSplit
    obtain ⟨hversion, -⟩ := hlook.read rfl hg
    have hyoung : d.after.ver ≤ version.getD INITIAL_VERSION := by
      rw [hversion]
      have hsince : Story arithmetic db ((o₂ ++ newer') ++ d :: older') g.before := (Story.split hlook rfl).1
      exact Story.ver_since hsince
    obtain ⟨expireAt, hentry⟩ := Key.entry_of_get hfound.symm
    obtain ⟨a, f, o, hsource, ttl, hset⟩ := Story.page_source hlook hentry
    -- Whoever stored it read that version too.
    obtain ⟨hstored, hstore, -⟩ := Story.split hlook hsource
    rw [hset] at hstore
    obtain ⟨looks, ⟨version', r, hkey, rfl⟩, hcomputes⟩ := hstore
    have hcomputed := hcomputes
    obtain ⟨total, entries, me, -, hown⟩ := hcomputed
    obtain ⟨x, v, y, rfl, -, hv, hy, -⟩ := own_split (show own _ _ = [_, _, _, _] ++ _ from hown)
    have hbumpSplit : n₂ ++ g :: (o₂ ++ newer' ++ d :: older') = (n₂ ++ g :: (o₂ ++ newer')) ++ d :: older' := by
      simp
    have hreadSplit : n₂ ++ g :: (o₂ ++ newer' ++ d :: older') = (a ++ f :: x) ++ v :: y := by
      rw [hsource]
      simp
    obtain ⟨mid, rfl⟩ := hlook.version_after hbumpSplit hbump hreadSplit hv (hkey ▸ hyoung)
    have hparts : x ++ v :: (mid ++ d :: older') = x ++ [v] ++ (mid ++ d :: older') := by simp
    rw [hparts] at hstored hcomputes
    exact Story.computesPage hstored hcomputes (List.nil_append _).symm hy (by simp [hmem]) hc
  · exact Story.computesPage hbefore hcomputes hown hbegins (by simp [hmem]) hc

end

/-! ## Every run -/

/-- The calls that read statistics after an invalidation, and pages after a
bump, return what the match left. -/
structure FreshReads (arithmetic : Arithmetic) (log : Log) : Prop where
  stats : ∀ newer e mid older, log = newer ++ e :: (mid ++ older) → own e.pid older = [] →
    ∀ userId stats, e.cmd = .respondStats userId stats →
      ∀ row c, row.player1Id = userId ∨ row.player2Id = userId → Settled (Invalidates row) row c older →
        StatsAfter arithmetic row c userId stats
  pages : ∀ newer e mid older, log = newer ++ e :: (mid ++ older) → own e.pid older = [] →
    ∀ userId limit offset response, e.cmd = .respondLeaderboard userId limit offset response →
      ∀ row c, Settled Bumps row c older → PageAfter arithmetic row c userId limit offset response

section
variable (arithmetic : Arithmetic) (db : Tables) (moves : List (Move Request Nat))

theorem run_story : Story arithmetic db ((pool arithmetic).run ⟨{ db := db }, [], []⟩ moves).log
    ((pool arithmetic).run ⟨{ db := db }, [], []⟩ moves).store := Pool.run_chronicle program_guarded moves

/-- **Every run** in which no call stores statistics it counted before a match
that has been invalidated since. -/
theorem run_freshReads (h : Meets NoStaleFill ((pool arithmetic).run ⟨{ db := db }, [], []⟩ moves).log) :
    FreshReads arithmetic ((pool arithmetic).run ⟨{ db := db }, [], []⟩ moves).log where
  stats _ _ _ _ hlog hbegins _ _ hcmd _ _ hplayer hsettled :=
    Story.stats_after (run_story arithmetic db moves) h hlog hbegins hcmd hplayer hsettled
  pages _ _ _ _ hlog hbegins _ _ _ _ hcmd _ _ hsettled :=
    Story.page_after (run_story arithmetic db moves) hlog hbegins hcmd hsettled

end

/-! ## Two runs -/

/-- `eloDelta` of ratings no more than 32 apart. -/
def closeDelta (rating opponentRating : Int) (won : Bool) : Int :=
  let edge : Int := if 10 < rating - opponentRating then 1 else if 10 < opponentRating - rating then -1 else 0
  if won then 16 - edge else -16 - edge

def plainArithmetic : Arithmetic := ⟨closeDelta, fun wins played => 100 * wins / played⟩

def beginner : Runtime.RuntimePlayerState := { hp := 100, gold := 5, ready := false, board := [], bench := [] }

def onlyMatch : MatchRow :=
  { id := "m", player1Id := "a", player2Id := "b", matchSeed := "s", p1State := beginner, p2State := beginner }

def oneMatch : Tables where
  games := [onlyMatch]
  users := [⟨⟨"ann", 1000⟩, "a"⟩, ⟨⟨"bob", 1000⟩, "b"⟩]
  ids := by decide

def calls (pid n : Nat) : List (Move Request Nat) := List.replicate n (.run pid .answered)

/-- A reader counts, the match is made final, and the reader stores what it
counted for the next. -/
def slowReader : List (Move Request Nat) :=
  .start (.getStats "a") :: calls 0 4 ++ .start (.finalize "m" (some "a") .hp_zero) :: calls 1 5 ++ calls 0 2 ++
    .start (.getStats "a") :: calls 2 2

def slowReaderLog : Log := ((pool plainArithmetic).run ⟨{ db := oneMatch }, [], []⟩ slowReader).log

def finalRow : MatchRow := { onlyMatch with status := .finished, winnerId := some "a", finishedAt := some 0 }

/-- After the match a player has played. -/
theorem StatsAfter.played {arithmetic : Arithmetic} {row : MatchRow} {c : Event Store Request Cmd Resp}
    {userId : String} {stats : PlayerStats} (h : StatsAfter arithmetic row c userId stats)
    (hcounted : counted userId row = true) : 0 < stats.played := by
  obtain ⟨db₁, _, _, h₁, -, -, rfl⟩ := h
  exact List.countP_pos_iff.2 ⟨row, h₁.result, hcounted⟩

set_option maxRecDepth 100000 in
/-- The second reader finds no match played, after the only match is final and
its invalidation done. -/
theorem slowReader_stale : ¬ FreshReads plainArithmetic slowReaderLog := by
  intro h
  have hlog : slowReaderLog = [] ++ slowReaderLog[0] :: ((slowReaderLog.drop 1).take 3 ++ slowReaderLog.drop 4) := rfl
  have hsettled : Settled (Invalidates finalRow) finalRow slowReaderLog[8] (slowReaderLog.drop 4) :=
    ⟨(slowReaderLog.drop 4).take 2, slowReaderLog[6], slowReaderLog.drop 7, rfl, rfl, List.mem_of_getElem? (i := 1) rfl,
      rfl, "m", some "a", .hp_zero, _, rfl⟩
  have hafter := h.stats [] _ _ _ hlog rfl "a" ⟨0, 0, 0, none, some 1⟩ rfl finalRow _ (.inl rfl) hsettled
  exact absurd (hafter.played (by decide)) (by decide)

/-- A reader before the match is final, one after, and one that finds what the
second stored. -/
def patientReaders : List (Move Request Nat) :=
  .start (.getStats "a") :: calls 0 6 ++ .start (.finalize "m" (some "a") .hp_zero) :: calls 1 5 ++
    .start (.getStats "a") :: calls 2 6 ++ .start (.getStats "a") :: calls 3 2 ++
    .start (.getLeaderboard "b" 10 0) :: calls 4 7

def patientLog : Log := ((pool plainArithmetic).run ⟨{ db := oneMatch }, [], []⟩ patientReaders).log

/-- The statistics stored were counted since the last deletion. -/
def undisturbed (older : Log) (e : Event Store Request Cmd Resp) : Bool :=
  match e.cmd with
  | .setStats userId _ _ => (sinceCount userId e.pid older).all fun d =>
      match d.cmd with
      | .delStats _ => false
      | _ => true
  | _ => true

theorem meets_noStaleFill {log : Log} (h : Meets (fun older e => undisturbed older e = true) log) :
    Meets NoStaleFill log := by
  refine h.imp fun older e hundisturbed => ?_
  rintro userId stats ttl hcmd row c - ⟨newer, d, rest, hsplit, hdeleted, -⟩
  unfold undisturbed at hundisturbed
  rw [hcmd] at hundisturbed
  dsimp only at hundisturbed
  have hd := List.all_eq_true.1 hundisturbed d (by rw [hsplit]; simp)
  rw [show d.cmd = _ from congrArg Call.cmd hdeleted] at hd
  cases hd

/-- The number of matches a call returns. -/
def Cmd.played : Cmd → Option Nat
  | .respondStats _ stats => some stats.played
  | _ => none

set_option maxRecDepth 100000 in
theorem run_freshReads_patient : FreshReads plainArithmetic patientLog ∧
    patientLog.filterMap (fun e => e.cmd.played) = [1, 1, 0] :=
  ⟨run_freshReads plainArithmetic oneMatch patientReaders (meets_noStaleFill (by decide)), by decide⟩

end AutoChess.Caches
