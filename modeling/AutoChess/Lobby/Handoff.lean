/-
The handoff of a room to a match. A claim of the handoff fixes the room's two
players for as long as no guest leaves; the match recorded in a room is one
between those two in every run in which a claimer adopts no other match, and
no guest leaves between a claim and its record, or after it.
-/
import AutoChess.Lobby.RoomStates

namespace AutoChess.Lobby

open AutoChess.Runtime Calls Expiring

variable {host : Host} {init s : Store} {log : List LobbyEvent} {e : LobbyEvent}
  {roomId ownerId guestId matchId : String}

/-- The match is one between the two. -/
def Between (row : MatchRow) (ownerId guestId : String) : Prop :=
  row.player1Id = ownerId ∧ row.player2Id = guestId ∨ row.player1Id = guestId ∧ row.player2Id = ownerId

/-- The table has a match of the id, between the two. -/
def PlayersAre (rows : List MatchRow) (matchId ownerId guestId : String) : Prop :=
  ∃ row ∈ rows, row.id = matchId ∧ Between row ownerId guestId

/-- The call claims the room's handoff for the two. -/
def Claims (roomId ownerId guestId : String) (e : LobbyEvent) : Prop :=
  ∃ token, e.toCall = ⟨.roomStartMatch roomId token, some (.claimed ownerId guestId)⟩

/-- The call records a match in the room, or finds one recorded. -/
def Records (host : Host) (roomId : String) (e : LobbyEvent) : Prop :=
  ∃ code matchId ownerId guestId, e.cmd = .roomMatchDone roomId code matchId ownerId guestId ∧
    Took host e

/-- The handoff was claimed for the two, and no guest left since. -/
def Settled (host : Host) (log : List LobbyEvent) (roomId ownerId guestId : String) : Prop :=
  ∃ newer claim older, log = newer ++ claim :: older ∧ Claims roomId ownerId guestId claim ∧
    ∀ e ∈ newer, ∀ userId, ¬ GuestLeaves host roomId userId e

theorem Ages.between {x y : MatchRow} (h : Ages x y) (hx : Between x ownerId guestId) :
    Between y ownerId guestId := by
  rw [Between, h.player1, h.player2]
  exact hx

theorem PlayersAre.aged {rows rows' : List MatchRow} (h : PlayersAre rows matchId ownerId guestId)
    (haged : Aged rows rows') : PlayersAre rows' matchId ownerId guestId := by
  obtain ⟨row, hrow, hid, hbetween⟩ := h
  obtain ⟨row', hrow', hages⟩ := haged.mem hrow
  exact ⟨row', hrow', hages.id.trans hid, hages.between hbetween⟩

/-- A claim answers the players of the full room it finds. -/
theorem claims_room (hdo : (pool host).Does e) (hclaim : Claims roomId ownerId guestId e) :
    e.after.peek roomId = e.before.peek roomId ∧ (e.before.room roomId).roomId ≠ none ∧
      (e.before.room roomId).status = some .full ∧
      filled (e.before.room roomId).ownerId = some ownerId ∧
      filled (e.before.room roomId).guestId = some guestId := by
  obtain ⟨token, hcall⟩ := hclaim
  obtain ⟨hreply, hafter⟩ := hdo.of_call hcall
  have hpeek : e.after.peek roomId = e.before.peek roomId := by
    rw [hafter]
    exact peek_act host (c := .roomStartMatch roomId token) rfl e.before roomId
  refine ⟨hpeek, ?_⟩
  have hreply : ClaimReply.claimed ownerId guestId = (evalRoomStartMatch roomId token e.before).1 := hreply
  unfold evalRoomStartMatch at hreply
  dsimp only at hreply
  split at hreply
  · cases hreply
  next hroom =>
  split at hreply
  · cases hreply
  next hstatus =>
  split at hreply
  · next owner guest howner hguest =>
    split at hreply
    · cases hreply
      exact ⟨hroom, not_not.1 hstatus, howner, hguest⟩
    · cases hreply
  · cases hreply

/-- A room that was claimed keeps its two players until a guest leaves. -/
theorem settled_room (hinit : Opening host init) (hrun : Run host init log s)
    (hsettled : Settled host log roomId ownerId guestId) :
    ∀ hash, s.peek roomId = some hash → hash.roomId ≠ none →
      hash.ownerId = some ownerId ∧ hash.guestId = some guestId := by
  obtain ⟨newer, claim, older, rfl, hclaim, hstay⟩ := hsettled
  obtain ⟨hrun₀, hguard₀, hdo₀⟩ := hrun.of_split
  obtain ⟨hpeek₀, hroom₀, -, howner₀, hguest₀⟩ := claims_room hdo₀ hclaim
  have hguest_ne := (filled_some hguest₀).2
  revert hstay
  refine hrun.since_induction (motive := fun newer s =>
    (∀ e ∈ newer, ∀ userId, ¬ GuestLeaves host roomId userId e) →
      ∀ hash, s.peek roomId = some hash → hash.roomId ≠ none →
        hash.ownerId = some ownerId ∧ hash.guestId = some guestId) ?_ ?_ ?_
  · intro _ hash hpeek _
    rw [hpeek₀, peek_of_room hroom₀, Option.some.injEq] at hpeek
    subst hpeek
    exact ⟨(filled_some howner₀).1, (filled_some hguest₀).1⟩
  · intro newer s ms ih hstay hash hpeek
    rcases peek_time host ms s roomId with h | h <;> rw [h] at hpeek
    · exact ih hstay hash hpeek
    · cases hpeek
  · intro newer e hrun' hguard' hdo' ih hstay hash hpeek hroom
    have hold := ih fun e' he' => hstay e' (List.mem_cons_of_mem _ he')
    rcases event_room roomId hdo' with hsame | ⟨htook, hchange⟩
    · exact hold hash (hsame ▸ hpeek) hroom
    · have hrun₁ : Run host init ((e :: newer) ++ claim :: older) e.after := hrun'.call hguard' hdo'
      have hopen := not_reopened hinit hrun₁ (peek_of_room hroom₀) hroom₀ e (by simp)
      rw [hpeek] at hchange
      generalize hcmd : e.cmd = c at hchange
      cases hchange with
      | opened => exact absurd hcmd (hopen _)
      | joined hjoins =>
        have hfree := hjoins.free
        rw [(hold _ (peek_of_room hjoins.room) hjoins.room).2, filled_of_ne hguest_ne] at hfree
        cases hfree
      | @left userId _ _ _ hreply =>
        exact absurd ⟨hcmd, hreply, htook⟩ (hstay e (List.mem_cons_self ..) userId)
      | recorded => exact hold (e.before.room roomId) (peek_of_room hroom) hroom

/-- Two claims with no guest leaving are for the same two players. -/
theorem settled_unique (hinit : Opening host init) (hrun : Run host init log s)
    {ownerId' guestId' : String} (h : Settled host log roomId ownerId guestId)
    (h' : Settled host log roomId ownerId' guestId') : ownerId' = ownerId ∧ guestId' = guestId := by
  -- The newer claim finds the room as the older one left it.
  have key : ∀ {newer mid older : List LobbyEvent} {claim claim' : LobbyEvent}
      {owner guest owner' guest' : String}, Run host init (newer ++ claim :: (mid ++ claim' :: older)) s →
      Claims roomId owner guest claim → Claims roomId owner' guest' claim' →
      (∀ e ∈ mid, ∀ userId, ¬ GuestLeaves host roomId userId e) → owner' = owner ∧ guest' = guest := by
    intro newer mid older claim claim' owner guest owner' guest' hrun hclaim hclaim' hstay
    obtain ⟨hrun₀, -, hdo₀⟩ := hrun.of_split
    obtain ⟨-, hroom, -, howner, hguest⟩ := claims_room hdo₀ hclaim
    obtain ⟨howner', hguest'⟩ := settled_room hinit hrun₀ ⟨mid, claim', older, rfl, hclaim', hstay⟩ _
      (peek_of_room hroom) hroom
    rw [howner'] at howner
    rw [hguest'] at hguest
    exact ⟨Option.some.inj (filled_some howner).1, Option.some.inj (filled_some hguest).1⟩
  obtain ⟨newer, claim, older, rfl, hclaim, hstay⟩ := h
  obtain ⟨newer', claim', older', hlog, hclaim', hstay'⟩ := h'
  rcases split_cases hlog with ⟨-, rfl, -⟩ | ⟨mid, rfl, rfl⟩ | ⟨mid, rfl, rfl⟩
  · obtain ⟨token, hcall⟩ := hclaim
    obtain ⟨token', hcall'⟩ := hclaim'
    rw [hcall] at hcall'
    cases hcall'
    exact ⟨rfl, rfl⟩
  · exact key hrun hclaim hclaim' fun e he => hstay' e (by simp [he])
  · rw [hlog] at hrun
    obtain ⟨howner, hguest⟩ := key hrun hclaim' hclaim fun e he => hstay e (by simp [he])
    exact ⟨howner.symm, hguest.symm⟩

/-! ## What is recorded -/

/-- A step of a careful run: a claimer's lookup finds no match but one between
its two players, no guest left since the claim of a call that records a
match, and no guest leaves a room whose match is recorded. -/
structure Careful (host : Host) (log : List LobbyEvent) (e : LobbyEvent) : Prop where
  adopts : ∀ userId roomId ownerId guestId row, e.cmd = .findActiveByUserId userId →
    Claimed (own e.pid log) roomId ownerId guestId → findActive userId e.before = some row →
    Between row ownerId guestId
  stays : ∀ roomId ownerId guestId newer claim older, Records host roomId e →
    log = newer ++ claim :: older → claim.pid = e.pid → Claims roomId ownerId guestId claim →
    ∀ e' ∈ newer, ∀ userId, ¬ GuestLeaves host roomId userId e'
  leaves : ∀ roomId userId, GuestLeaves host roomId userId e →
    filled (e.before.room roomId).matchId = none

/-- What careful runs keep of every room: a match in it is one between the
players of a claim that no guest has left since. -/
structure Handed (host : Host) (log : List LobbyEvent) (s : Store) : Prop where
  recorded : ∀ roomId hash matchId, s.peek roomId = some hash → filled hash.matchId = some matchId →
    (∃ e ∈ log, Records host roomId e) ∧ ∃ ownerId guestId,
      Settled host log roomId ownerId guestId ∧ PlayersAre s.matchRows matchId ownerId guestId
  done : ∀ roomId, (∃ e ∈ log, Records host roomId e) →
    (∃ ownerId guestId, Settled host log roomId ownerId guestId) ∧
      ∀ hash, s.peek roomId = some hash → hash.roomId ≠ none → filled hash.matchId ≠ none

theorem claim_event {pid : Nat} (h : Claimed (own pid log) roomId ownerId guestId) :
    ∃ newer claim older, log = newer ++ claim :: older ∧ claim.pid = pid ∧
      Claims roomId ownerId guestId claim := by
  obtain ⟨token, hmem⟩ := h
  obtain ⟨claim, hclaim, hpid, hcall⟩ := mem_own.1 hmem
  obtain ⟨newer, older, rfl⟩ := List.append_of_mem hclaim
  exact ⟨newer, claim, older, rfl, hpid, token, hcall⟩

theorem Settled.cons (h : Settled host log roomId ownerId guestId)
    (he : ∀ userId, ¬ GuestLeaves host roomId userId e) :
    Settled host (e :: log) roomId ownerId guestId := by
  obtain ⟨newer, claim, older, rfl, hclaim, hstay⟩ := h
  exact ⟨e :: newer, claim, older, rfl, hclaim, List.forall_mem_cons.2 ⟨he, hstay⟩⟩

/-- Nobody leaves a room once a match was recorded in it. -/
theorem Handed.stays (h : Handed host log e.before) (hcareful : Careful host log e)
    (hdone : ∃ e ∈ log, Records host roomId e) (userId : String) :
    ¬ GuestLeaves host roomId userId e := by
  intro hleave
  obtain ⟨-, hreply, -⟩ := id hleave
  have hroom : (e.before.room roomId).roomId ≠ none := by
    intro hnone
    rcases evalRoomLeave_cases roomId userId e.before with heq | ⟨hroom, -⟩ | ⟨hroom, -⟩
    · rw [heq] at hreply
      cases hreply
    · exact hroom hnone
    · exact hroom hnone
  exact (h.done roomId hdone).2 _ (peek_of_room hroom) hroom (hcareful.leaves roomId userId hleave)

/-- A settled room stays settled from one event to the next. -/
theorem settled_stays {newer older : List LobbyEvent} (hcareful : Meets (Careful host) (newer ++ older))
    (hhanded : ∀ n e o, newer = n ++ e :: o → Handed host (o ++ older) e.before)
    (hdone : ∃ e ∈ older, Records host roomId e)
    (h : Settled host older roomId ownerId guestId) :
    Settled host (newer ++ older) roomId ownerId guestId := by
  induction newer with
  | nil => exact h
  | cons e newer ih =>
    have hold := ih hcareful.2 fun n e' o heq => hhanded (e :: n) e' o (congrArg (e :: ·) heq)
    refine hold.cons ((hhanded [] e newer rfl).stays hcareful.1 ?_)
    obtain ⟨e', hmem, hrec⟩ := hdone
    exact ⟨e', List.mem_append_right _ hmem, hrec⟩

/-- A view is that of the room whose key was read. -/
theorem view_read (hinit : Opening host init) (hrun : Run host init log s) {newer older : List LobbyEvent}
    {read : LobbyEvent} {key : String} {hash : RoomHash} {view : RoomView}
    (hlog : log = newer ++ read :: older) (hcall : read.toCall = ⟨.hgetallRoom key, some hash⟩)
    (hview : roomHashToView hash = some view) :
    Run host init older read.before ∧ read.after = read.before ∧ read.before.peek key = some hash ∧
      hash.roomId ≠ none ∧ view.roomId = key := by
  rw [hlog] at hrun
  obtain ⟨hrun', -, hdo'⟩ := hrun.of_split
  obtain ⟨hreply, hafter⟩ := hdo'.of_call hcall
  have hhash : hash = read.before.room key := hreply
  obtain ⟨name, hname, rfl⟩ := Option.map_eq_some_iff.1 hview
  have hthere : hash.roomId ≠ none := by simp [(filled_some hname).1]
  have hpeek : read.before.peek key = some hash := by
    rw [hhash] at hthere ⊢
    exact peek_of_room hthere
  refine ⟨hrun', hafter, hpeek, hthere, ?_⟩
  have hid := (room_named hinit hrun' hpeek hthere).1
  rw [(filled_some hname).1] at hid
  exact Option.some.inj hid

/-- **The match a call records is one between the settled players.** -/
theorem record_settled (hinit : Opening host init) (hrun : Run host init log e.before)
    (hguard : DoneGuard (own e.pid log) roomId matchId ownerId guestId) (hrec : Records host roomId e)
    (hcareful : Meets (Careful host) (e :: log))
    (hhanded : ∀ n e o, log = n ++ e :: o → Handed host o e.before) :
    Settled host log roomId ownerId guestId ∧
      PlayersAre e.before.matchRows matchId ownerId guestId := by
  cases hguard with
  | @adopted userId row newer older hh hclaim huser hid =>
    obtain ⟨l₁, lookup, l₂, rfl, hpid, hcall, rfl, -⟩ := own_split hh
    have hclaim' : Claimed (own lookup.pid l₂) roomId ownerId guestId := hpid ▸ hclaim
    obtain ⟨hfound, row', hrow', hages⟩ := found_row hrun hcall
    have hbetween := hcareful.2.of_append.1.adopts userId roomId ownerId guestId row
      (congrArg Call.cmd hcall) hclaim' hfound
    refine ⟨?_, row', hrow', hages.id.trans hid, hages.between hbetween⟩
    obtain ⟨m₁, claim, m₂, rfl, hpid', hclaims⟩ := claim_event hclaim
    refine ⟨l₁ ++ lookup :: m₁, claim, m₂, by simp, hclaims, ?_⟩
    exact hcareful.1.stays roomId ownerId guestId _ claim m₂ hrec (by simp) hpid' hclaims
  | @created seed p1 p2 row newer older hh hclaim hid =>
    obtain ⟨l₁, insert, l₂, rfl, -, hcall, rfl, -⟩ := own_split hh
    obtain ⟨hrow, row', hrow', hages⟩ := created_row hrun hcall
    have hbetween : Between row ownerId guestId := by
      rw [hrow]
      exact .inl ⟨rfl, rfl⟩
    refine ⟨?_, row', hrow', hages.id.trans hid, hages.between hbetween⟩
    obtain ⟨m₁, claim, m₂, rfl, hpid', hclaims⟩ := claim_event hclaim
    refine ⟨l₁ ++ insert :: m₁, claim, m₂, by simp, hclaims, ?_⟩
    exact hcareful.1.stays roomId ownerId guestId _ claim m₂ hrec (by simp) hpid' hclaims
  | @read key hash view hread hview hroom hid howner hguest =>
    obtain ⟨read, hmem, -, hcall⟩ := mem_own.1 hread
    obtain ⟨l₁, l₂, rfl⟩ := List.append_of_mem hmem
    have haged := aged_since hrun
    obtain ⟨hrun', hafter, hpeek, hkey, hname⟩ := view_read hinit hrun rfl hcall hview
    obtain rfl : key = roomId := hname.symm.trans hroom
    obtain ⟨name, -, rfl⟩ := Option.map_eq_some_iff.1 hview
    have hhanded' := hhanded l₁ read l₂ rfl
    obtain ⟨hdone, owner, guest, hsettled, hplayers⟩ := hhanded'.recorded key hash matchId hpeek hid
    obtain ⟨howner', hguest'⟩ := settled_room hinit hrun' hsettled hash hpeek hkey
    obtain rfl : owner = ownerId := by
      rw [← howner, howner']
      rfl
    have hfilled : guest ≠ "" := by
      obtain ⟨newer, claim, older, rfl, hclaim, -⟩ := hsettled
      exact (filled_some (claims_room hrun'.of_split.2.2 hclaim).2.2.2.2).2
    obtain rfl : guest = guestId := by
      rw [← hguest]
      simp [hguest', filled_of_ne hfilled]
    refine ⟨?_, hplayers.aged (hafter ▸ haged)⟩
    have hcareful' : Meets (Careful host) ((l₁ ++ [read]) ++ l₂) := by simpa using hcareful.2
    have hlog : l₁ ++ read :: l₂ = (l₁ ++ [read]) ++ l₂ := by simp
    rw [hlog]
    refine settled_stays hcareful' (fun n e' o heq => ?_) hdone hsettled
    exact hhanded n e' (o ++ l₂) (by rw [hlog, heq]; simp)

/-- A room that was claimed is not opened again. -/
theorem Settled.not_opened (hinit : Opening host init) (hrun : Run host init (e :: log) s)
    (h : Settled host log roomId ownerId guestId) (first : RoomHash) : e.cmd ≠ .hsetRoom roomId first := by
  obtain ⟨newer, claim, older, rfl, hclaim, -⟩ := h
  have hrun' : Run host init ((e :: newer) ++ claim :: older) s := hrun
  obtain ⟨-, hroom, -⟩ := claims_room hrun'.of_split.2.2 hclaim
  exact not_reopened hinit hrun' (peek_of_room hroom) hroom e (by simp) first

/-- What is recorded in a room is between its settled players, after one more
step. -/
theorem Handed.recorded_step (hinit : Opening host init) (hrun : Run host init log e.before)
    (hguard : Guard (own e.pid log) e.cmd) (hdo : (pool host).Does e)
    (hcareful : Meets (Careful host) (e :: log))
    (hpast : ∀ n e o, log = n ++ e :: o → Handed host o e.before) (h : Handed host log e.before)
    {hash : RoomHash} (hpeek : e.after.peek roomId = some hash) (hid : filled hash.matchId = some matchId) :
    (∃ e' ∈ e :: log, Records host roomId e') ∧ ∃ ownerId guestId,
      Settled host (e :: log) roomId ownerId guestId ∧
        PlayersAre e.after.matchRows matchId ownerId guestId := by
  have haged := event_aged hdo
  have kept : ∀ old, e.before.peek roomId = some old → filled old.matchId = some matchId →
      (∃ e' ∈ e :: log, Records host roomId e') ∧ ∃ ownerId guestId,
        Settled host (e :: log) roomId ownerId guestId ∧
          PlayersAre e.after.matchRows matchId ownerId guestId := by
    intro old hold hid
    obtain ⟨hdone, ownerId, guestId, hsettled, hplayers⟩ := h.recorded roomId old matchId hold hid
    obtain ⟨e', hmem, hrec⟩ := id hdone
    refine ⟨⟨e', List.mem_cons_of_mem _ hmem, hrec⟩, ownerId, guestId, ?_, hplayers.aged haged⟩
    exact hsettled.cons (h.stays hcareful.1 hdone)
  rcases event_room roomId hdo with hsame | ⟨htook, hchange⟩
  · exact kept hash (hsame ▸ hpeek) hid
  · rw [hpeek] at hchange
    generalize hcmd : e.cmd = c at hchange hguard
    cases hchange with
    | opened =>
      obtain ⟨-, -, code, ownerId, expiresAt, -, -, rfl, -⟩ := hguard
      cases hid
    | joined hjoins => exact kept _ (peek_of_room hjoins.room) hid
    | @left userId _ _ _ hreply =>
      have hnone := hcareful.1.leaves roomId userId ⟨hcmd, hreply, htook⟩
      rw [hnone] at hid
      cases hid
    | @recorded code matchId' ownerId guestId =>
      have hrec : Records host roomId e := ⟨code, matchId', ownerId, guestId, hcmd, htook⟩
      obtain ⟨hsettled, hplayers⟩ := record_settled hinit hrun hguard hrec hcareful hpast
      obtain rfl : matchId' = matchId := Option.some.inj (filled_some hid).1
      refine ⟨⟨e, List.mem_cons_self .., hrec⟩, ownerId, guestId, ?_, hplayers.aged haged⟩
      exact hsettled.cons fun userId hleave => by cases hcmd.symm.trans hleave.1

/-- The room of a record has a match. -/
theorem record_filled (hrec : Records host roomId e)
    (hid : ∀ code matchId ownerId guestId, e.cmd = .roomMatchDone roomId code matchId ownerId guestId →
      matchId ≠ "") {hash : RoomHash} (hpeek : e.after.peek roomId = some hash) :
    filled hash.matchId ≠ none := by
  obtain ⟨code, matchId, ownerId, guestId, hcmd, htook⟩ := hrec
  have hpeek : (evalRoomMatchDone roomId code matchId ownerId guestId e.before).2.peek roomId =
      some hash := by
    rw [htook, hcmd] at hpeek
    exact hpeek
  cases hold : filled (e.before.room roomId).matchId with
  | some recorded =>
    rw [evalRoomMatchDone_again hold] at hpeek
    have hroom : e.before.room roomId = hash := by rw [room_eq, hpeek, Option.getD_some]
    rw [← hroom, hold]
    simp
  | none =>
    rw [peek_recorded hold, if_pos rfl] at hpeek
    cases hpeek
    simp [filled_of_ne (hid code matchId ownerId guestId hcmd)]

/-- A room keeps having a match, once one was recorded. -/
theorem Handed.done_step (hinit : Opening host init) (hrun : Run host init log e.before)
    (hguard : Guard (own e.pid log) e.cmd) (hdo : (pool host).Does e)
    (hcareful : Meets (Careful host) (e :: log))
    (hpast : ∀ n e o, log = n ++ e :: o → Handed host o e.before) (h : Handed host log e.before)
    (hdone : ∃ e' ∈ e :: log, Records host roomId e') :
    (∃ ownerId guestId, Settled host (e :: log) roomId ownerId guestId) ∧
      ∀ hash, e.after.peek roomId = some hash → hash.roomId ≠ none → filled hash.matchId ≠ none := by
  have hid : ∀ code matchId ownerId guestId,
      e.cmd = .roomMatchDone roomId code matchId ownerId guestId → matchId ≠ "" := by
    intro code matchId ownerId guestId hcmd
    rw [hcmd] at hguard
    exact done_matchId hinit hrun hguard
  obtain ⟨e', hmem, hrec⟩ := hdone
  rcases List.mem_cons.1 hmem with rfl | hmem
  · refine ⟨?_, fun hash hpeek _ => record_filled hrec hid hpeek⟩
    obtain ⟨code, matchId, ownerId, guestId, hcmd, htook⟩ := id hrec
    have hguard' : DoneGuard (own e'.pid log) roomId matchId ownerId guestId := by
      rw [hcmd] at hguard
      exact hguard
    obtain ⟨hsettled, -⟩ := record_settled hinit hrun hguard' hrec hcareful hpast
    exact ⟨ownerId, guestId, hsettled.cons fun userId hleave => by cases hcmd.symm.trans hleave.1⟩
  · have hdone : ∃ e' ∈ log, Records host roomId e' := ⟨e', hmem, hrec⟩
    obtain ⟨⟨ownerId, guestId, hsettled⟩, hold⟩ := h.done roomId hdone
    have hstays := h.stays hcareful.1 hdone
    refine ⟨⟨ownerId, guestId, hsettled.cons hstays⟩, fun hash hpeek hroom => ?_⟩
    rcases event_room roomId hdo with hsame | ⟨htook, hchange⟩
    · exact hold hash (hsame ▸ hpeek) hroom
    · have hopen := hsettled.not_opened hinit (hrun.call hguard hdo)
      rw [hpeek] at hchange
      generalize hcmd : e.cmd = c at hchange
      cases hchange with
      | opened => exact absurd hcmd (hopen _)
      | joined hjoins =>
        exact hold (e.before.room roomId) (peek_of_room hjoins.room) hjoins.room
      | @left userId _ _ _ hreply => exact absurd ⟨hcmd, hreply, htook⟩ (hstays userId)
      | recorded => simp [filled_of_ne (hid _ _ _ _ hcmd)]

/-- **Careful runs hand rooms over to their own two players.** -/
theorem handed (hinit : Opening host init) (hrun : Run host init log s)
    (hcareful : Meets (Careful host) log) : Handed host log s := by
  revert hcareful
  refine hrun.history_induction (motive := fun log s => Meets (Careful host) log → Handed host log s)
    ?_ ?_ ?_
  · intro _
    refine ⟨fun roomId hash matchId hpeek _ => ?_, fun roomId hdone => ?_⟩
    · rw [hinit.peek] at hpeek
      cases hpeek
    · obtain ⟨e, hmem, -⟩ := hdone
      cases hmem
  · intro log s ms ih hcareful
    refine ⟨fun roomId hash matchId hpeek hid => ?_, fun roomId hdone => ⟨?_, fun hash hpeek hroom => ?_⟩⟩
    · rcases peek_time host ms s roomId with h | h <;> rw [h] at hpeek
      · exact (ih hcareful).recorded roomId hash matchId hpeek hid
      · cases hpeek
    · exact ((ih hcareful).done roomId hdone).1
    · rcases peek_time host ms s roomId with h | h <;> rw [h] at hpeek
      · exact ((ih hcareful).done roomId hdone).2 hash hpeek hroom
      · cases hpeek
  · intro log e hrun hguard hdo hpast ih hcareful
    have hpast' : ∀ n e o, log = n ++ e :: o → Handed host o e.before := by
      intro n e o heq
      have hmeets : Meets (Careful host) (n ++ e :: o) := heq ▸ hcareful.2
      exact hpast n e o heq hmeets.of_append.2
    have hbefore := ih hcareful.2
    exact ⟨fun roomId hash matchId => hbefore.recorded_step hinit hrun hguard hdo hcareful hpast',
      fun roomId => hbefore.done_step hinit hrun hguard hdo hcareful hpast'⟩

/-! ## Every record -/

/-- The match that a call records in a room, or that it answers as recorded,
is one between the players of the room's claim, who are its owner and its
guest while it is there. -/
def OwnPlayers (host : Host) (log : List LobbyEvent) (e : LobbyEvent) : Prop :=
  ∀ roomId code matchId ownerId guestId, e.cmd = .roomMatchDone roomId code matchId ownerId guestId →
    Took host e →
    let recorded := (evalRoomMatchDone roomId code matchId ownerId guestId e.before).1
    PlayersAre e.after.matchRows recorded ownerId guestId ∧
      (∀ row ∈ e.after.matchRows, row.id = recorded → Between row ownerId guestId) ∧
      Settled host log roomId ownerId guestId ∧
      ∀ hash, e.before.peek roomId = some hash → hash.roomId ≠ none →
        hash.ownerId = some ownerId ∧ hash.guestId = some guestId

theorem peek_of_filled {s : Store} (h : filled (s.room roomId).matchId = some matchId) :
    s.peek roomId = some (s.room roomId) := by
  rw [room_eq] at h ⊢
  cases hpeek : s.peek roomId with
  | none => simp [hpeek] at h
  | some hash => rfl

theorem own_players (hinit : Opening host init) (hrun : Run host init log e.before)
    (hguard : Guard (own e.pid log) e.cmd) (hdo : (pool host).Does e)
    (hcareful : Meets (Careful host) (e :: log)) : OwnPlayers host log e := by
  intro roomId code matchId ownerId guestId hcmd htook recorded
  have hrec : Records host roomId e := ⟨code, matchId, ownerId, guestId, hcmd, htook⟩
  rw [hcmd] at hguard
  have hpast : ∀ n e o, log = n ++ e :: o → Handed host o e.before := by
    rintro n e o rfl
    exact handed hinit hrun.of_split.1 hcareful.2.of_append.2
  obtain ⟨hsettled, hnew⟩ := record_settled hinit hrun hguard hrec hcareful hpast
  have hplayers : PlayersAre e.before.matchRows recorded ownerId guestId := by
    cases hold : filled (e.before.room roomId).matchId with
    | none =>
      have hanswer : recorded = matchId := by simp only [recorded, evalRoomMatchDone, hold]
      exact hanswer ▸ hnew
    | some old =>
      have hanswer : recorded = old := congrArg Prod.fst (evalRoomMatchDone_again hold)
      obtain ⟨-, ownerId', guestId', hsettled', hplayers⟩ :=
        (handed hinit hrun hcareful.2).recorded roomId _ old (peek_of_filled hold) hold
      obtain ⟨rfl, rfl⟩ := settled_unique hinit hrun hsettled' hsettled
      exact hanswer ▸ hplayers
  have hplayers := hplayers.aged (event_aged hdo)
  refine ⟨hplayers, fun row hrow hid => ?_, hsettled, settled_room hinit hrun hsettled⟩
  obtain ⟨row', hrow', hid', hbetween⟩ := hplayers
  have hafter : Run host init (e :: log) e.after := hrun.call (hcmd ▸ hguard) hdo
  have hreg := registered hinit.rows hafter
  exact hreg.unique hrow' hrow (hid'.trans hid.symm) ▸ hbetween

/-- **A room's match is one between its owner and its guest** in every run of
the lobby, from no rooms, whose steps are careful. -/
theorem room_match_own (host : Host) (init : Store) (hinit : Opening host init)
    (moves : List (Move Request Nat))
    (hcareful : Meets (Careful host) ((pool host).run ⟨init, [], []⟩ moves).log) :
    Meets (OwnPlayers host) ((pool host).run ⟨init, [], []⟩ moves).log := by
  have hrun := run_of_moves host init moves
  generalize ((pool host).run ⟨init, [], []⟩ moves).log = log at hrun hcareful
  generalize ((pool host).run ⟨init, [], []⟩ moves).store = s at hrun
  induction hrun with
  | start => trivial
  | time ms _ ih => exact ih hcareful
  | call hrun hguard hdo ih => exact ⟨own_players hinit hrun hguard hdo hcareful, ih hcareful.2⟩

/-! ## An adopted match of another -/

/-- The owner of a full room waits in the queue too, and is paired with a
third player before the room is started. -/
def adopting : List (Move Request Nat) :=
  filling ++ [.start (.joinQueue "ann" (some 1)), .start (.joinQueue "cid" (some 2))] ++ answers 2 2 ++
    answers 3 2 ++ [.start (.tryPair false)] ++ answers 4 5 ++ [.start (.startRoom "ann")] ++ answers 5 7

/-- The arguments of a record. -/
def Cmd.record : Cmd → Option (String × String × String × String × String)
  | .roomMatchDone roomId code matchId ownerId guestId => some (roomId, code, matchId, ownerId, guestId)
  | _ => none

theorem record_cmd {c : Cmd} {code : String}
    (h : c.record = some (roomId, code, matchId, ownerId, guestId)) :
    c = .roomMatchDone roomId code matchId ownerId guestId := by
  cases c <;> simp only [Cmd.record, reduceCtorEq, Option.some.injEq, Prod.mk.injEq] at h
  obtain ⟨rfl, rfl, rfl, rfl, rfl⟩ := h
  rfl

set_option maxRecDepth 100000 in
/-- The room of the two records the match with the third. -/
theorem room_match_adopted : ¬ Meets (OwnPlayers plainHost) (lobby {} adopting).log := by
  have hcmd : (lobby {} adopting).log.head?.map (fun e => e.cmd.record) =
      some (some ("u", "ABC234", "uuu", "ann", "bob")) := by decide
  have hreply : (lobby {} adopting).log.head?.map (fun e => e.reply.isSome) = some true := by decide
  have hrows : (lobby {} adopting).log.head?.map (fun e => e.after.matchRows.map (·.player2Id)) =
      some ["cid"] := by decide
  have hrows' : (lobby {} adopting).log.head?.map (fun e => e.after.matchRows.map (·.player1Id)) =
      some ["ann"] := by decide
  have hrun := run_of_moves plainHost {} adopting
  change Run plainHost {} (lobby {} adopting).log _ at hrun
  generalize (lobby {} adopting).log = log at hcmd hreply hrows hrows' hrun
  intro hown
  cases log with
  | nil => cases hcmd
  | cons e log =>
    simp only [List.head?_cons, Option.map_some, Option.some.injEq] at hcmd hreply hrows hrows'
    obtain ⟨r, hr⟩ := Option.isSome_iff_exists.1 hreply
    have hdo := (show Run plainHost {} ([] ++ e :: log) _ from hrun).of_split.2.2
    obtain ⟨⟨row, hrow, -, hbetween⟩, -⟩ := hown.1 _ _ _ _ _ (record_cmd hcmd) (hdo.of_reply hr).2
    have h1 : row.player1Id ∈ ["ann"] := hrows' ▸ List.mem_map_of_mem hrow
    have h2 : row.player2Id ∈ ["cid"] := hrows ▸ List.mem_map_of_mem hrow
    rw [List.mem_singleton] at h1 h2
    rcases hbetween with ⟨-, h⟩ | ⟨h, -⟩
    · rw [h2] at h
      exact absurd h (by decide)
    · rw [h1] at h
      exact absurd h (by decide)

/-- The room of the two is filled and started, and nothing else happens. -/
def handing : List (Move Request Nat) :=
  filling ++ [.start (.startRoom "ann")] ++ answers 2 22

/-- A call that finds no match and leaves no room. -/
def quiet (e : LobbyEvent) : Bool :=
  match e.cmd with
  | .findActiveByUserId userId => (findActive userId e.before).isNone
  | .roomLeave _ _ => false
  | _ => true

theorem careful_of_quiet (h : quiet e = true) (hlog : ∀ e ∈ log, quiet e = true) : Careful host log e := by
  have hstay : ∀ {e : LobbyEvent}, quiet e = true → ∀ roomId userId, ¬ GuestLeaves host roomId userId e := by
    intro e h roomId userId hleave
    rw [quiet, hleave.1] at h
    cases h
  refine ⟨fun userId roomId ownerId guestId row hcmd _ hfound => ?_, ?_, fun roomId userId hleave => ?_⟩
  · rw [quiet, hcmd] at h
    simp [hfound] at h
  · rintro roomId ownerId guestId newer claim older - rfl - - e' hmem userId
    exact hstay (hlog e' (by simp [hmem])) roomId userId
  · exact absurd hleave (hstay h roomId userId)

theorem meets_careful (h : ∀ e ∈ log, quiet e = true) : Meets (Careful host) log := by
  induction log with
  | nil => trivial
  | cons e log ih =>
    obtain ⟨he, hlog⟩ := List.forall_mem_cons.1 h
    exact ⟨careful_of_quiet he hlog, ih hlog⟩

set_option maxRecDepth 100000 in
theorem room_match_handing : Meets (OwnPlayers plainHost) (lobby {} handing).log ∧
    (lobby {} handing).log.filterMap (fun e => e.cmd.record) =
      [("u", "ABC234", "uuuu", "ann", "bob")] := by
  have hquiet : ∀ e ∈ (lobby {} handing).log, quiet e = true := by decide
  exact ⟨room_match_own plainHost {} (opening_empty plainHost) handing (meets_careful hquiet), by decide⟩

end AutoChess.Lobby
