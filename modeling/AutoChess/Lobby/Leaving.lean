/-
Leaving a room before its match is recorded. The claim of a handoff keeps the
players it found, and `room_leave.lua` does not look for a claim, so a player
stays out of the room's match exactly in the runs in which nobody leaves
between a claim, or an admission, and what the claimer or the admitted does
with it.
-/
import AutoChess.Lobby.Handoff

namespace AutoChess.Lobby

open AutoChess.Runtime Calls Expiring

variable {host : Host} {init s : Store} {log : List LobbyEvent} {e : LobbyEvent}
  {roomId userId ownerId guestId : String}

/-- The player leaves the room, as its owner or as its guest. -/
def Leaves (host : Host) (roomId userId : String) (e : LobbyEvent) : Prop :=
  userId ≠ "" ∧ e.cmd = .roomLeave roomId userId ∧ (evalRoomLeave roomId userId e.before).1 ≠ .missing ∧
    Took host e

/-- The call publishes the room as matched. -/
def Announces (host : Host) (roomId : String) (targetUserIds : List String) (e : LobbyEvent) : Prop :=
  ∃ view, e.cmd = .publishToRoom ⟨roomId, .room view, targetUserIds⟩ ∧ view.status = .matched ∧ Took host e

/-- The call inserts a match in the room's handoff. -/
def Inserts (host : Host) (log : List LobbyEvent) (roomId player1Id player2Id : String)
    (e : LobbyEvent) : Prop :=
  (∃ ownerId guestId, Claimed (own e.pid log) roomId ownerId guestId) ∧
    ∃ seed p1 p2, e.cmd = .createMatch player1Id player2Id seed p1 p2 ∧ Took host e

/-- Before `log` the player left the room for good, with no match recorded in
it yet. -/
structure Left (host : Host) (log : List LobbyEvent) (roomId userId : String)
    (newer older : List LobbyEvent) (leave : LobbyEvent) : Prop where
  log_eq : log = newer ++ leave :: older
  leaves : Leaves host roomId userId leave
  fresh : ∀ e ∈ older, ¬ Records host roomId e
  away : ∀ e ∈ newer, ¬ Admits host roomId userId e

/-- No match of the room's handoff is created with a player who left, and none
is announced to one. -/
def KeptOut (host : Host) (log : List LobbyEvent) (e : LobbyEvent) : Prop :=
  ∀ roomId userId newer older leave, Left host log roomId userId newer older leave →
    (∀ player1Id player2Id, Inserts host log roomId player1Id player2Id e →
      userId ≠ player1Id ∧ userId ≠ player2Id) ∧
    ∀ targetUserIds, Announces host roomId targetUserIds e → userId ∉ targetUserIds

/-- The player left after the request made the call. -/
def LeftSince (host : Host) (log : List LobbyEvent) (pid : Nat) (c : Call Cmd Resp)
    (roomId userId : String) : Prop :=
  ∃ newer older leave, Left host log roomId userId newer older leave ∧ c ∈ own pid older

/-- A step of a prompt run: nobody leaves between a claim for two players and
the insert of their match or its announcement to them, nor between an
admission and the announcement of a matched room to the admitted. -/
structure Prompt (host : Host) (log : List LobbyEvent) (e : LobbyEvent) : Prop where
  inserts : ∀ roomId token ownerId guestId player1Id player2Id userId,
    Inserts host log roomId player1Id player2Id e → (userId = ownerId ∨ userId = guestId) →
    ¬ LeftSince host log e.pid ⟨.roomStartMatch roomId token, some (.claimed ownerId guestId)⟩ roomId userId
  records : ∀ roomId code matchId recorded token ownerId guestId older targetUserIds userId,
    Announces host roomId targetUserIds e →
    own e.pid log = ⟨.roomMatchDone roomId code matchId ownerId guestId, some recorded⟩ :: older →
    (userId = ownerId ∨ userId = guestId) →
    ¬ LeftSince host log e.pid ⟨.roomStartMatch roomId token, some (.claimed ownerId guestId)⟩ roomId userId
  joins : ∀ roomId targetUserIds hash older userId, Announces host roomId targetUserIds e →
    own e.pid log = ⟨.hgetallRoom roomId, some hash⟩ :: ⟨.roomJoin roomId userId, some .ok⟩ :: older →
    ¬ LeftSince host log e.pid ⟨.roomJoin roomId userId, some .ok⟩ roomId userId

/-! ## What was recorded or left before -/

/-- A matched room, or one with a match, was recorded. -/
theorem recorded_before (hinit : Opening host init) (hrun : Run host init log s) {hash : RoomHash}
    (hpeek : s.peek roomId = some hash)
    (hdone : hash.status = some .matched ∨ filled hash.matchId ≠ none) :
    ∃ e ∈ log, Records host roomId e := by
  induction hrun generalizing hash with
  | start =>
    rw [hinit.peek] at hpeek
    cases hpeek
  | time ms _ ih =>
    rcases peek_time host ms _ roomId with h | h <;> rw [h] at hpeek
    · exact ih hpeek hdone
    · cases hpeek
  | @call log e _ hguard hdo ih =>
    have kept : ∀ {old : RoomHash}, e.before.peek roomId = some old →
        old.status = some .matched ∨ filled old.matchId ≠ none → ∃ e' ∈ e :: log, Records host roomId e' := by
      intro old hold hdone
      obtain ⟨e', hmem, hrec⟩ := ih hold hdone
      exact ⟨e', List.mem_cons_of_mem _ hmem, hrec⟩
    rcases event_room roomId hdo with hsame | ⟨htook, hchange⟩
    · exact kept (hsame ▸ hpeek) hdone
    · rw [hpeek] at hchange
      generalize hcmd : e.cmd = c at hchange hguard
      cases hchange with
      | opened =>
        obtain ⟨-, -, code, owner, expiresAt, -, -, rfl, -⟩ := hguard
        simp [newRoom] at hdone
      | joined hjoins => exact kept (peek_of_room hjoins.room) (.inr (by simpa using hdone))
      | left hroom => exact kept (peek_of_room hroom) (.inr (by simpa using hdone))
      | recorded => exact ⟨e, List.mem_cons_self .., _, _, _, _, hcmd, htook⟩

/-- **Who left a room is not in it** until admitted again. -/
theorem Left.elsewhere (hinit : Opening host init) (hrun : Run host init log s)
    {newer older : List LobbyEvent} {leave : LobbyEvent}
    (h : Left host log roomId userId newer older leave) :
    ∀ hash, s.peek roomId = some hash → hash.roomId ≠ none →
      hash.ownerId ≠ some userId ∧ hash.guestId ≠ some userId := by
  obtain ⟨rfl, ⟨huser, hcmd, hreply, htook⟩, -, haway⟩ := h
  have hthere : (leave.before.room roomId).roomId ≠ none := by
    intro hnone
    exact hreply (by simp [evalRoomLeave, hnone])
  revert haway
  refine hrun.since_induction (motive := fun newer s => (∀ e ∈ newer, ¬ Admits host roomId userId e) →
    ∀ hash, s.peek roomId = some hash → hash.roomId ≠ none →
      hash.ownerId ≠ some userId ∧ hash.guestId ≠ some userId) ?_ ?_ ?_
  · intro _ hash hpeek _
    have hafter : leave.after = (evalRoomLeave roomId userId leave.before).2 := by
      rw [htook, hcmd]
      rfl
    rw [hafter] at hpeek
    rcases evalRoomLeave_cases roomId userId leave.before with heq | ⟨-, -, codes, heq⟩ | ⟨-, howner, -, heq⟩
    · exact absurd (congrArg Prod.fst heq) hreply
    · rw [heq] at hpeek
      simp [Store.peek, put] at hpeek
    · rw [heq] at hpeek
      rw [peek_guestLeft, if_pos rfl] at hpeek
      cases hpeek
      exact ⟨howner, by simp [huser.symm]⟩
  · intro newer s ms ih haway hash hpeek
    rcases peek_time host ms s roomId with h | h <;> rw [h] at hpeek
    · exact ih haway hash hpeek
    · cases hpeek
  · intro newer e hrun' hguard' hdo' ih haway hash hpeek hroom
    have hold := ih fun e' he' => haway e' (List.mem_cons_of_mem _ he')
    rcases event_room roomId hdo' with hsame | ⟨htook', hchange⟩
    · exact hold hash (hsame ▸ hpeek) hroom
    · have hrun₁ : Run host init ((e :: newer) ++ leave :: older) e.after := hrun'.call hguard' hdo'
      have hopen := not_reopened hinit hrun₁ (peek_of_room hthere) hthere e (by simp)
      rw [hpeek] at hchange
      generalize hcmd' : e.cmd = c at hchange
      cases hchange with
      | opened => exact absurd hcmd' (hopen _)
      | @joined userId' hjoins =>
        refine ⟨(hold _ (peek_of_room hjoins.room) hjoins.room).1, fun heq => ?_⟩
        obtain rfl : userId' = userId := Option.some.inj heq
        exact haway e (List.mem_cons_self ..) ⟨hcmd', hjoins, htook'⟩
      | left hroom' _ _ _ =>
        exact ⟨(hold _ (peek_of_room hroom') hroom').1, by simp [huser.symm]⟩
      | recorded => exact hold (e.before.room roomId) (peek_of_room hroom) hroom

/-- A call was made before the leave or after it. -/
theorem Left.split {newer older l₁ l₂ : List LobbyEvent} {leave call : LobbyEvent}
    (h : Left host log roomId userId newer older leave) (hlog : log = l₁ ++ call :: l₂)
    (hcall : call.cmd ≠ .roomLeave roomId userId) : (∃ mid, older = mid ++ call :: l₂) ∨
      call ∈ newer ∧ ∃ mid, Left host l₂ roomId userId mid older leave := by
  obtain ⟨heq, hleaves, hfresh, haway⟩ := h
  rcases split_cases (heq.symm.trans hlog) with ⟨-, rfl, -⟩ | ⟨mid, hmid, -⟩ | ⟨mid, rfl, rfl⟩
  · exact absurd hleaves.2.1 hcall
  · exact .inl ⟨mid, hmid⟩
  · exact .inr ⟨by simp, mid, rfl, hleaves, hfresh, fun e he => haway e (by simp [he])⟩

/-- A claim for a player who left was made before the leave. -/
theorem Left.claim (hinit : Opening host init) (hrun : Run host init log s) {pid : Nat}
    {newer older : List LobbyEvent} {leave : LobbyEvent}
    (h : Left host log roomId userId newer older leave)
    (hclaim : Claimed (own pid log) roomId ownerId guestId) (huser : userId = ownerId ∨ userId = guestId) :
    Claimed (own pid older) roomId ownerId guestId := by
  obtain ⟨l₁, claim, l₂, hlog, hpid, token, hcall⟩ := claim_event hclaim
  have hcmd : claim.cmd = .roomStartMatch roomId token := congrArg Call.cmd hcall
  rcases h.split hlog (by rw [hcmd]; simp) with ⟨mid, rfl⟩ | ⟨-, mid, h'⟩
  · exact ⟨token, mem_own.2 ⟨claim, by simp, hpid, hcall⟩⟩
  · rw [hlog] at hrun
    obtain ⟨hrun', -, hdo'⟩ := hrun.of_split
    obtain ⟨-, hroom, -, howner, hguest⟩ := claims_room hdo' ⟨token, hcall⟩
    obtain ⟨hnotOwner, hnotGuest⟩ := h'.elsewhere hinit hrun' _ (peek_of_room hroom) hroom
    rcases huser with rfl | rfl
    · exact absurd (filled_some howner).1 hnotOwner
    · exact absurd (filled_some hguest).1 hnotGuest

/-- A read that finds the room matched finds nobody there who left before. -/
theorem Left.read (hinit : Opening host init) (hrun : Run host init log s) {pid : Nat}
    {newer older : List LobbyEvent} {leave : LobbyEvent}
    (h : Left host log roomId userId newer older leave) {key : String} {hash : RoomHash} {view : RoomView}
    (hread : (⟨.hgetallRoom key, some hash⟩ : Call Cmd Resp) ∈ own pid log)
    (hview : roomHashToView hash = some view) (hroom : view.roomId = roomId ∨ key = roomId)
    (hdone : view.status = .matched ∨ view.matchId ≠ none) :
    userId ≠ view.ownerId ∧ userId ≠ view.guestId.getD "" := by
  obtain ⟨read, hmem, hpid, hcall⟩ := mem_own.1 hread
  obtain ⟨l₁, l₂, hlog⟩ := List.append_of_mem hmem
  obtain ⟨hrun', -, hpeek, hthere, hname⟩ := view_read hinit hrun hlog hcall hview
  obtain rfl : key = roomId := hroom.elim hname.symm.trans id
  obtain ⟨name, -, rfl⟩ := Option.map_eq_some_iff.1 hview
  have hstatus : hash.status = some .matched ∨ filled hash.matchId ≠ none := by
    refine hdone.imp_left fun hstatus => ?_
    cases hcase : hash.status with
    | none => simp [hcase] at hstatus
    | some status => simpa [hcase] using hstatus
  have huser := h.leaves.1
  have hcmd : read.cmd = .hgetallRoom key := congrArg Call.cmd hcall
  rcases h.split hlog (by rw [hcmd]; simp) with ⟨mid, rfl⟩ | ⟨-, mid, h'⟩
  · -- The match was recorded before the read, and the read was before the leave.
    obtain ⟨e', hmem', hrec⟩ := recorded_before hinit hrun' hpeek hstatus
    exact absurd hrec (h.fresh e' (by simp [hmem']))
  · obtain ⟨hnotOwner, hnotGuest⟩ := h'.elsewhere hinit hrun' hash hpeek hthere
    constructor
    · intro heq
      cases howner : hash.ownerId with
      | none => exact huser (by simp [heq, howner])
      | some owner => exact hnotOwner (by simp [heq, howner])
    · intro heq
      cases hguest : filled hash.guestId with
      | none => exact huser (by simp [heq, hguest])
      | some guest =>
        refine hnotGuest ((filled_some hguest).1.trans ?_)
        simp [heq, hguest]

/-! ## One step -/

theorem Claimed.of_own {pid : Nat} {older : List LobbyEvent}
    (h : Claimed (own pid older) roomId ownerId guestId) (newer : List LobbyEvent) :
    Claimed (own pid (newer ++ older)) roomId ownerId guestId := by
  rw [own_append]
  exact h.mono (List.suffix_append ..)

/-- A prompt insert is of two players who did not leave. -/
theorem Prompt.inserted (hinit : Opening host init) (hrun : Run host init log e.before)
    (hguard : Guard (own e.pid log) e.cmd) (hprompt : Prompt host log e)
    {newer older : List LobbyEvent} {leave : LobbyEvent}
    (h : Left host log roomId userId newer older leave) {player1Id player2Id : String}
    (hins : Inserts host log roomId player1Id player2Id e) :
    userId ≠ player1Id ∧ userId ≠ player2Id := by
  obtain ⟨⟨ownerId, guestId, hclaim⟩, seed, p1, p2, hcmd, -⟩ := id hins
  rw [hcmd] at hguard
  obtain ⟨rfl, rfl⟩ := hguard.claimed roomId ownerId guestId hclaim
  have hnot : ¬ (userId = player1Id ∨ userId = player2Id) := by
    intro huser
    obtain ⟨token, hmem⟩ := h.claim hinit hrun hclaim huser
    exact hprompt.inserts roomId token _ _ _ _ userId hins huser ⟨newer, older, leave, h, hmem⟩
  exact not_or.1 hnot

/-- A prompt announcement of a record is to two players who did not leave. -/
theorem Prompt.announced (hinit : Opening host init) (hrun : Run host init log e.before)
    (hprompt : Prompt host log e) {newer older : List LobbyEvent} {leave : LobbyEvent}
    (h : Left host log roomId userId newer older leave) {targetUserIds : List String}
    (hann : Announces host roomId targetUserIds e) {code matchId recorded : String} {mine : History}
    (hown : own e.pid log = (⟨.roomMatchDone roomId code matchId ownerId guestId, some recorded⟩ :
      Call Cmd Resp) :: mine) : userId ≠ ownerId ∧ userId ≠ guestId := by
  obtain ⟨l₁, done, l₂, hlog, hpid, hcall, hmine⟩ := own_last hown
  have hrun₀ : Run host init (l₁ ++ done :: l₂) e.before := hlog ▸ hrun
  obtain ⟨hrun', hguard', hdo'⟩ := hrun₀.of_split
  have hcmd : done.cmd = .roomMatchDone roomId code matchId ownerId guestId := congrArg Call.cmd hcall
  have hrec : Records host roomId done := by
    refine ⟨code, matchId, ownerId, guestId, hcmd, ?_⟩
    rw [Took, hcmd]
    exact (hdo'.of_call hcall).2
  have hclaimed : Claimed (own e.pid l₂) roomId ownerId guestId →
      userId ≠ ownerId ∧ userId ≠ guestId := by
    intro hclaim
    have hnot : ¬ (userId = ownerId ∨ userId = guestId) := by
      intro huser
      have hclaim' : Claimed (own e.pid log) roomId ownerId guestId := by
        have := hclaim.of_own (l₁ ++ [done])
        simpa [hlog] using this
      obtain ⟨token, hmem⟩ := h.claim hinit hrun hclaim' huser
      exact hprompt.records roomId code matchId recorded token _ _ mine targetUserIds userId hann hown huser
        ⟨newer, older, leave, h, hmem⟩
    exact not_or.1 hnot
  rw [hcmd, hpid] at hguard'
  rcases h.split hlog (by rw [hcmd]; simp) with ⟨mid, rfl⟩ | ⟨-, mid, h'⟩
  · exact absurd hrec (h.fresh done (by simp))
  · cases hguard' with
    | adopted hh hclaim => exact hclaimed (hclaim.mono (hh ▸ (List.suffix_cons ..).trans (List.suffix_append ..)))
    | created hh hclaim => exact hclaimed (hclaim.mono (hh ▸ (List.suffix_cons ..).trans (List.suffix_append ..)))
    | read hread hview hroom hid howner hguest =>
      have hdone := h'.read hinit hrun' hread hview (.inl hroom) (.inr (by simp [hid]))
      rwa [howner, hguest] at hdone

/-- **A step keeps out who left exactly when it is prompt.** -/
theorem kept_out_iff (hinit : Opening host init) (hrun : Run host init log e.before)
    (hguard : Guard (own e.pid log) e.cmd) : KeptOut host log e ↔ Prompt host log e := by
  constructor
  · intro hkept
    refine ⟨fun roomId token ownerId guestId player1Id player2Id userId hins huser => ?_,
      fun roomId code matchId recorded token ownerId guestId older targetUserIds userId hann hown huser => ?_,
      fun roomId targetUserIds hash older userId hann hown => ?_⟩
    · intro hsince
      obtain ⟨newer, older, leave, h, hmem⟩ := hsince
      obtain ⟨h1, h2⟩ := (hkept roomId userId newer older leave h).1 _ _ hins
      obtain ⟨-, seed, p1, p2, hcmd, -⟩ := hins
      rw [hcmd] at hguard
      have hclaim : Claimed (own e.pid log) roomId ownerId guestId := by
        rw [h.log_eq, List.append_cons]
        exact Claimed.of_own ⟨token, hmem⟩ _
      obtain ⟨rfl, rfl⟩ := hguard.claimed roomId ownerId guestId hclaim
      rcases huser with rfl | rfl
      · exact h1 rfl
      · exact h2 rfl
    · intro hsince
      obtain ⟨newer, older', leave, h, -⟩ := hsince
      have hnot := (hkept roomId userId newer older' leave h).2 _ hann
      obtain ⟨view, hcmd, -, -⟩ := hann
      rw [hcmd, hown] at hguard
      cases hguard with
      | matched => exact hnot (by simpa using huser)
    · intro hsince
      obtain ⟨newer, older', leave, h, -⟩ := hsince
      have hnot := (hkept roomId userId newer older' leave h).2 _ hann
      obtain ⟨view, hcmd, -, -⟩ := hann
      rw [hcmd, hown] at hguard
      cases hguard with
      | joined => exact hnot (by simp)
  · intro hprompt roomId userId newer older leave h
    refine ⟨fun player1Id player2Id hins => hprompt.inserted hinit hrun hguard h hins,
      fun targetUserIds hann => ?_⟩
    obtain ⟨view, hcmd, hstatus, -⟩ := id hann
    rw [hcmd] at hguard
    generalize hown : own e.pid log = mine at hguard
    cases hguard with
    | matched =>
      obtain ⟨h1, h2⟩ := hprompt.announced hinit hrun h hann hown
      simp [h1, h2]
    | @joined _ userId' hash _ older' hview =>
      have hread := h.read hinit hrun (hown ▸ List.mem_cons_self ..) hview (.inr rfl) (.inl hstatus)
      have hjoin : (⟨.roomJoin roomId userId', some .ok⟩ : Call Cmd Resp) ∈ own e.pid log := by
        rw [hown]
        simp
      have hne : userId ≠ userId' := by
        intro heq
        subst heq
        obtain ⟨join, hmem, hpid, hcall⟩ := mem_own.1 hjoin
        obtain ⟨l₁, l₂, hlog⟩ := List.append_of_mem hmem
        have hcmd' : join.cmd = .roomJoin roomId userId := congrArg Call.cmd hcall
        rcases h.split hlog (by rw [hcmd']; simp) with ⟨mid, hold⟩ | ⟨hnew, -⟩
        · refine hprompt.joins roomId _ hash older' userId hann hown ⟨newer, older, leave, h, ?_⟩
          exact mem_own.2 ⟨join, by simp [hold], hpid, hcall⟩
        · have hrun₀ : Run host init (l₁ ++ join :: l₂) e.before := hlog ▸ hrun
          obtain ⟨hreply, hafter⟩ := hrun₀.of_split.2.2.of_call hcall
          have hreply : JoinReply.ok = (evalRoomJoin roomId userId join.before).1 := hreply
          rcases evalRoomJoin_cases roomId userId join.before with ⟨hjoins, -⟩ | ⟨hno, -⟩
          · refine h.away join hnew ⟨hcmd', hjoins, ?_⟩
            rw [Took, hcmd']
            exact hafter
          · exact hno hreply.symm
      simp [hread.1, hne]
    | left hview =>
      have hread := h.read hinit hrun (hown ▸ List.mem_cons_self ..) hview (.inr rfl) (.inl hstatus)
      simp [hread.1]

/-- **Who leaves a room before its match is recorded is kept out of the match,
exactly in the prompt runs**, of all runs of the lobby from no rooms. -/
theorem leavers_kept_out (host : Host) (init : Store) (hinit : Opening host init)
    (moves : List (Move Request Nat)) :
    Meets (KeptOut host) ((pool host).run ⟨init, [], []⟩ moves).log ↔
      Meets (Prompt host) ((pool host).run ⟨init, [], []⟩ moves).log := by
  have hrun := run_of_moves host init moves
  generalize ((pool host).run ⟨init, [], []⟩ moves).log = log at hrun
  generalize ((pool host).run ⟨init, [], []⟩ moves).store = s at hrun
  induction hrun with
  | start => exact Iff.rfl
  | time ms _ ih => exact ih
  | call hrun hguard _ ih => exact and_congr (kept_out_iff hinit hrun hguard) ih

/-! ## A leave after the claim -/

/-- The owner's start has claimed the handoff when the guest leaves, to the
end; then the match of the two is inserted. -/
def leavingClaimed : List (Move Request Nat) :=
  filling ++ [.start (.startRoom "ann")] ++ answers 2 5 ++ [.start (.leaveRoom "bob")] ++ answers 3 5 ++
    answers 2 4

/-- The room and the players of a claim. -/
def claimOf : Call Cmd Resp → Option (String × String × String)
  | ⟨.roomStartMatch roomId _, some (.claimed ownerId guestId)⟩ => some (roomId, ownerId, guestId)
  | _ => none

theorem claimed_of {h : History} (hclaim : ∃ c ∈ h, claimOf c = some (roomId, ownerId, guestId)) :
    Claimed h roomId ownerId guestId := by
  obtain ⟨c, hmem, hc⟩ := hclaim
  unfold claimOf at hc
  split at hc
  · cases hc
    exact ⟨_, hmem⟩
  · cases hc

/-- The players of an insert. -/
def Cmd.insert : Cmd → Option (String × String)
  | .createMatch player1Id player2Id _ _ _ => some (player1Id, player2Id)
  | _ => none

/-- The room and the user of a leave, with what the script answers. -/
def leaveOf (e : LobbyEvent) : Option (String × String × LeaveReply) :=
  match e.cmd with
  | .roomLeave roomId userId => some (roomId, userId, (evalRoomLeave roomId userId e.before).1)
  | _ => none

/-- Calls that admit nobody and record nothing. -/
def Cmd.settles : Cmd → Bool
  | .roomJoin _ _ | .roomMatchDone _ _ _ _ _ => true
  | _ => false

theorem leaves_of (hdo : (pool host).Does e) (hreply : e.reply.isSome = true)
    (h : leaveOf e = some (roomId, userId, .guest)) (huser : userId ≠ "") : Leaves host roomId userId e := by
  unfold leaveOf at h
  split at h
  · next hcmd =>
    simp only [Option.some.injEq, Prod.mk.injEq] at h
    obtain ⟨rfl, rfl, hguest⟩ := h
    exact ⟨huser, hcmd, by simp [hguest], took_of_reply hdo hreply⟩
  · cases h

set_option maxRecDepth 100000 in
/-- The guest has left the room for good, and the match is inserted with it. -/
theorem leavers_kept_in : ¬ Meets (KeptOut plainHost) (lobby {} leavingClaimed).log := by
  have hinsert : (lobby {} leavingClaimed).log.head?.map (fun e => (e.pid, e.cmd.insert, e.reply.isSome)) =
      some (2, some ("ann", "bob"), true) := by decide
  have hclaim : ∃ c ∈ own 2 (lobby {} leavingClaimed).log.tail, claimOf c = some ("u", "ann", "bob") := by
    decide
  have hleave : ((lobby {} leavingClaimed).log.tail.drop 5).head?.map
      (fun e => (leaveOf e, e.reply.isSome)) = some (some ("u", "bob", .guest), true) := by decide
  have hnew : ∀ e ∈ (lobby {} leavingClaimed).log.tail.take 5, e.cmd.settles = false := by decide
  have hold : ∀ e ∈ ((lobby {} leavingClaimed).log.tail.drop 5).tail, e.cmd.record = none := by decide
  have hrun := run_of_moves plainHost {} leavingClaimed
  change Run plainHost {} (lobby {} leavingClaimed).log (lobby {} leavingClaimed).store at hrun
  generalize (lobby {} leavingClaimed).log = log at hinsert hclaim hleave hnew hold hrun
  generalize (lobby {} leavingClaimed).store = s at hrun
  intro hkept
  cases log with
  | nil => cases hinsert
  | cons e log =>
    simp only [List.head?_cons, Option.map_some, Option.some.injEq, Prod.mk.injEq] at hinsert
    obtain ⟨hpid, hcmd, hreply⟩ := hinsert
    have hsplit : log = log.take 5 ++ log.drop 5 := (List.take_append_drop 5 log).symm
    simp only [List.tail_cons] at hclaim hleave hnew hold
    generalize log.drop 5 = rest at hsplit hleave hold
    cases rest with
    | nil => cases hleave
    | cons leave older =>
      simp only [List.head?_cons, Option.map_some, Option.some.injEq, Prod.mk.injEq] at hleave
      obtain ⟨hleave, hreply'⟩ := hleave
      have hdo := (show Run plainHost {} ([] ++ e :: log) s from hrun).of_split.2.2
      have hrun' : Run plainHost {} ((e :: log.take 5) ++ leave :: older) s := by
        rw [List.cons_append, ← hsplit]
        exact hrun
      have hleft : Left plainHost log "u" "bob" (log.take 5) older leave := by
        refine ⟨hsplit, leaves_of hrun'.of_split.2.2 hreply' hleave (by decide), ?_, ?_⟩
        · intro e' hmem hrec
          obtain ⟨code, matchId, ownerId, guestId, hdone, -⟩ := hrec
          have hnone := hold e' hmem
          rw [hdone] at hnone
          cases hnone
        · intro e' hmem hadm
          have hnone := hnew e' hmem
          rw [hadm.1] at hnone
          cases hnone
      have hins : Inserts plainHost log "u" "ann" "bob" e := by
        refine ⟨⟨"ann", "bob", hpid ▸ claimed_of hclaim⟩, ?_⟩
        have htook := took_of_reply hdo hreply
        cases hcase : e.cmd <;> rw [hcase] at hcmd <;> cases hcmd
        exact ⟨_, _, _, rfl, htook⟩
      exact ((hkept.1 "u" "bob" _ _ _ hleft).1 _ _ hins).2 rfl

/-- The guest leaves before the owner's start, and another joins. -/
def replaced : List (Move Request Nat) :=
  filling ++ [.start (.leaveRoom "bob")] ++ answers 2 5 ++ [.start (.joinRoom "cid" "ABC234")] ++
    answers 3 7 ++ [.start (.startRoom "ann")] ++ answers 4 22

/-- No leave comes after a claim, and who publishes a room as matched has just
recorded its match. -/
def leavesFirst (log : List LobbyEvent) (e : LobbyEvent) : Bool :=
  match e.cmd with
  | .roomLeave _ _ => log.all fun e' => !e'.cmd.claims
  | .publishToRoom ⟨_, .room view, _⟩ =>
    view.status ≠ .matched || (own e.pid log).head?.any fun c => c.cmd.record.isSome
  | _ => true

theorem prompt_of_leavesFirst (hfirst : Meets (fun log e => leavesFirst log e = true) (e :: log)) :
    Prompt host log e := by
  have hclaim : ∀ pid roomId token ownerId guestId userId, ¬ LeftSince host log pid
      ⟨.roomStartMatch roomId token, some (.claimed ownerId guestId)⟩ roomId userId := by
    intro pid roomId token ownerId guestId userId hsince
    obtain ⟨newer, older, leave, ⟨rfl, hleaves, -, -⟩, hmem⟩ := hsince
    obtain ⟨claim, hmem', -, hcall⟩ := mem_own.1 hmem
    have hleave := hfirst.2.of_append.1
    simp only [leavesFirst, hleaves.2.1] at hleave
    have hnot := List.all_eq_true.1 hleave claim hmem'
    rw [show claim.cmd = _ from congrArg Call.cmd hcall] at hnot
    cases hnot
  refine ⟨fun roomId token ownerId guestId player1Id player2Id userId _ _ => hclaim _ _ _ _ _ _,
    fun roomId code matchId recorded token ownerId guestId older targetUserIds userId _ _ _ => hclaim _ _ _ _ _ _,
    fun roomId targetUserIds hash older userId hann hown => ?_⟩
  obtain ⟨view, hcmd, hstatus, -⟩ := hann
  have hhead := hfirst.1
  simp only [leavesFirst, hcmd] at hhead
  simp [hown, hstatus, Cmd.record] at hhead

theorem meets_prompt (h : Meets (fun log e => leavesFirst log e = true) log) :
    Meets (Prompt host) log := by
  induction log with
  | nil => trivial
  | cons e log ih => exact ⟨prompt_of_leavesFirst h, ih h.2⟩

set_option maxRecDepth 100000 in
/-- The match is the owner's with the second guest. -/
theorem leavers_kept_out_replaced : Meets (KeptOut plainHost) (lobby {} replaced).log ∧
    (lobby {} replaced).store.matchRows.map (fun row => (row.player1Id, row.player2Id)) = [("ann", "cid")] := by
  have hfirst : Meets (fun log e => leavesFirst log e = true) (lobby {} replaced).log := by decide
  exact ⟨(leavers_kept_out plainHost {} (opening_empty plainHost) replaced).2 (meets_prompt hfirst), by decide⟩

end AutoChess.Lobby
