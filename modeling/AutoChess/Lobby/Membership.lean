/-
A user's room is kept twice: in the room's hash, and in the mapping
`user:room:<userId>`. An opening request holds the mapping as `pending` until
its room is written, a guest's mapping is written with its seat, and a user
whose mapping is taken enters no room. So the two agree for as long as no
deletion takes a mapping that belongs to another room than the one it is for.
-/
import AutoChess.Lobby.Handoff
import AutoChess.Lobby.Mappings

namespace AutoChess.Lobby

open AutoChess.Runtime Calls Expiring

variable {host : Host} {init s : Store} {log : List LobbyEvent} {e : LobbyEvent}
  {userId roomId : String} {pid : Nat}

/-! ## Both ends of a membership -/

/-- No mapping is past its expiry. -/
def Unexpired (s : Store) : Prop :=
  ∀ userId entry, (s.userRooms userId).entry = some entry → entry.live s.now = true

/-- The hash of a room in which no match is recorded. -/
def Unmatched (s : Store) (roomId : String) (hash : RoomHash) : Prop :=
  s.peek roomId = some hash ∧ hash.roomId ≠ none ∧ filled hash.matchId = none

def OwnerOf (s : Store) (roomId userId : String) : Prop :=
  ∃ hash, Unmatched s roomId hash ∧ hash.ownerId = some userId

def GuestOf (s : Store) (roomId userId : String) : Prop :=
  ∃ hash, Unmatched s roomId hash ∧ filled hash.guestId = some userId

def MemberOf (s : Store) (roomId userId : String) : Prop :=
  OwnerOf s roomId userId ∨ GuestOf s roomId userId

/-- A user has one unmatched room, and its mapping names it: a guest's always,
an owner's once the opening request has written it. -/
structure SingleRoom (host : Host) (log : List LobbyEvent) (s : Store) : Prop where
  one : ∀ userId roomId roomId', MemberOf s roomId userId → MemberOf s roomId' userId → roomId = roomId'
  guest : ∀ userId roomId, GuestOf s roomId userId → s.mapping userId = some roomId
  owner : ∀ userId roomId, OwnerOf s roomId userId →
    (∃ e ∈ log, e.cmd = .setUserRoom userId roomId ∧ Took host e) → s.mapping userId = some roomId

/-- The request has written the room. -/
def OpenedBy (host : Host) (log : List LobbyEvent) (pid : Nat) (roomId : String) : Prop :=
  ∃ e ∈ log, e.pid = pid ∧ (∃ hash, e.cmd = .hsetRoom roomId hash) ∧ Took host e

/-- The user's mapping can go: it names the room left anyway, or no room the
user is a member of. -/
def Spare (s : Store) (left : Option String) (userId : String) : Prop :=
  ∀ roomId, s.mapping userId = some roomId →
    some roomId = left ∨ roomId ≠ "pending" ∧ ¬ MemberOf s roomId userId

/-- A step that deletes no mapping but a spare one, or the `pending` of the
request's own opening that wrote no room. -/
structure Gentle (host : Host) (log : List LobbyEvent) (e : LobbyEvent) : Prop where
  cleanup : ∀ userId, e.cmd = .delUserRoom userId → Took host e → Spare e.before none userId ∨
    e.before.mapping userId = some "pending" ∧ Holds (own e.pid log) userId ∧
      ∀ roomId, ¬ OpenedBy host log e.pid roomId
  leaver : ∀ roomId userId, e.cmd = .roomLeave roomId userId → Took host e →
    (evalRoomLeave roomId userId e.before).1 ≠ .missing → Spare e.before (some roomId) userId
  guest : ∀ roomId userId guestId, e.cmd = .roomLeave roomId userId → Took host e →
    (evalRoomLeave roomId userId e.before).1 = .owner →
    filled (e.before.room roomId).guestId = some guestId → Spare e.before (some roomId) guestId

/-! ## Openings in progress -/

/-- The request holds the user's membership and has not yet written or deleted
its mapping. -/
def InProgress (host : Host) (log : List LobbyEvent) (pid : Nat) (userId : String) : Prop :=
  Holds (own pid log) userId ∧ ∀ e ∈ log, e.pid = pid → Took host e → e.cmd.rank ≤ 1

/-- What gentle runs keep of mappings and rooms. -/
structure Mapped (host : Host) (log : List LobbyEvent) (s : Store) : Prop where
  pending : ∀ pid userId, InProgress host log pid userId → s.mapping userId = some "pending"
  alone : ∀ pid pid' userId, InProgress host log pid userId → InProgress host log pid' userId → pid = pid'
  owner : ∀ roomId userId, OwnerOf s roomId userId → s.mapping userId = some roomId ∨
    ∃ pid, InProgress host log pid userId ∧ OpenedBy host log pid roomId
  guest : ∀ roomId userId, GuestOf s roomId userId → s.mapping userId = some roomId

/-- A request holds the membership of one user. -/
theorem holds_one (hrun : OrderedRun host init log s) {userId' : String} (h : Holds (own pid log) userId)
    (h' : Holds (own pid log) userId') : userId = userId' := by
  -- The newer of two requests for a membership would not be the first call.
  have key : ∀ {newer older : List LobbyEvent} {e e' : LobbyEvent}, log = newer ++ e :: older →
      e.cmd.slots = true → e' ∈ older → e'.pid ≠ e.pid := by
    intro newer older e e' heq hslot hmem hpid
    subst heq
    have hnil := hrun.of_split.2.1.2.first hslot
    have hown : e'.toCall ∈ own e.pid older := mem_own.2 ⟨e', hmem, hpid, rfl⟩
    rw [hnil] at hown
    cases hown
  obtain ⟨e, hmem, hpid, hcall⟩ := mem_own.1 h
  obtain ⟨e', hmem', hpid', hcall'⟩ := mem_own.1 h'
  have hslot : e.cmd.slots = true := by rw [show e.cmd = _ from congrArg Call.cmd hcall]; rfl
  have hslot' : e'.cmd.slots = true := by rw [show e'.cmd = _ from congrArg Call.cmd hcall']; rfl
  obtain ⟨l₁, l₂, rfl⟩ := List.append_of_mem hmem
  rcases List.mem_append.1 hmem' with hold | hold
  · obtain ⟨m₁, m₂, rfl⟩ := List.append_of_mem hold
    exact absurd (hpid.trans hpid'.symm) (key (List.append_assoc ..) hslot' (by simp))
  · rcases List.mem_cons.1 hold with rfl | hold
    · rw [hcall] at hcall'
      cases hcall'
      rfl
    · exact absurd (hpid'.trans hpid.symm) (key rfl hslot hold)

/-- The membership a request holds is that of all its calls since. -/
theorem Holds.mono {h h' : History} (hh : Holds h userId) (hsuf : h <:+ h') : Holds h' userId :=
  hsuf.mem hh

theorem Ordered.below {h : History} {c : Cmd} (hord : Ordered h c) (hh : Holds h userId)
    (hpos : 0 < c.rank) : ∀ c' ∈ h, c'.cmd.rank < c.rank :=
  hord.ranks ⟨_, hh, rfl⟩ hpos

/-- What an opening follows: the request holds the owner's membership, and has
written nothing. -/
theorem opening_holds (hrun : Run host init log s) {hash : RoomHash}
    (hguard : Guard (own pid log) (.hsetRoom roomId hash))
    (hord : Ordered (own pid log) (.hsetRoom roomId hash)) :
    ∃ ownerId, hash.ownerId = some ownerId ∧ filled hash.guestId = none ∧ Holds (own pid log) ownerId ∧
      (∀ e ∈ log, e.pid = pid → e.cmd.rank = 0) ∧ roomId ≠ "pending" := by
  obtain ⟨l₁, draw, l₂, hlog, -, hdraw, -⟩ := draw_of_open hguard
  obtain ⟨-, -, code, ownerId, expiresAt, -, -, rfl, hheld⟩ := hguard
  refine ⟨ownerId, rfl, rfl, hheld, fun e hmem hpid => ?_, ?_⟩
  · have hlt : e.cmd.rank < 1 := hord.below hheld Nat.zero_lt_one _ (mem_own.2 ⟨e, hmem, hpid, rfl⟩)
    omega
  · subst hlog
    have hid : roomId = host.uuid draw.before.drawn := (hrun.of_split.2.2.of_call hdraw).1
    rw [hid]
    exact host.uuid_ne_pending _

/-- A request opens one room. -/
theorem opened_one (hrun : OrderedRun host init log s) {roomId' : String}
    (h : OpenedBy host log pid roomId) (h' : OpenedBy host log pid roomId') : roomId = roomId' := by
  have key : ∀ {newer older : List LobbyEvent} {e e' : LobbyEvent} {r : String} {hash : RoomHash},
      log = newer ++ e :: older → e.cmd = .hsetRoom r hash → e' ∈ older → e'.pid = e.pid →
      e'.cmd.rank = 0 := by
    intro newer older e e' r hash heq hcmd hmem hpid
    subst heq
    obtain ⟨hrun', ⟨hguard, hord⟩, -⟩ := hrun.of_split
    rw [hcmd] at hguard hord
    obtain ⟨-, -, -, -, hidle, -⟩ := opening_holds (run_of_ordered hrun') hguard hord
    exact hidle e' hmem hpid
  obtain ⟨e, hmem, hpid, ⟨hash, hcmd⟩, -⟩ := h
  obtain ⟨e', hmem', hpid', ⟨hash', hcmd'⟩, -⟩ := h'
  obtain ⟨l₁, l₂, rfl⟩ := List.append_of_mem hmem
  rcases List.mem_append.1 hmem' with hold | hold
  · obtain ⟨m₁, m₂, rfl⟩ := List.append_of_mem hold
    have hidle : e.cmd.rank = 0 :=
      key (List.append_assoc ..) hcmd' (by simp) (hpid.trans hpid'.symm)
    rw [hcmd] at hidle
    cases hidle
  · rcases List.mem_cons.1 hold with rfl | hold
    · rw [hcmd] at hcmd'
      cases hcmd'
      rfl
    · have hidle := key rfl hcmd hold (hpid'.trans hpid.symm)
      rw [hcmd'] at hidle
      cases hidle

/-- A room is opened by one request. -/
theorem opened_by_one (hrun : Run host init log s) {pid' : Nat} (h : OpenedBy host log pid roomId)
    (h' : OpenedBy host log pid' roomId) : pid = pid' := by
  obtain ⟨e, hmem, rfl, ⟨hash, hcmd⟩, -⟩ := h
  obtain ⟨e', hmem', rfl, ⟨hash', hcmd'⟩, -⟩ := h'
  obtain ⟨l₁, l₂, rfl⟩ := List.append_of_mem hmem
  rcases List.mem_append.1 hmem' with hold | hold
  · obtain ⟨m₁, m₂, rfl⟩ := List.append_of_mem hold
    rw [List.append_assoc, List.cons_append] at hrun
    exact absurd hcmd (open_once hrun hcmd' e (by simp) hash)
  · rcases List.mem_cons.1 hold with rfl | hold
    · rfl
    · exact absurd hcmd' (open_once hrun hcmd e' hold hash')

/-- What the write of an owner's mapping follows: its request has opened the
room and is still in progress. -/
theorem setting_opened (hrun : OrderedRun host init log s)
    (hguard : Guard (own pid log) (.setUserRoom userId roomId))
    (hord : Ordered (own pid log) (.setUserRoom userId roomId)) :
    InProgress host log pid userId ∧ OpenedBy host log pid roomId ∧ roomId ≠ "pending" := by
  obtain ⟨code, expiresAt, hopen⟩ := hguard
  obtain ⟨o, hmem, hpid, hcall⟩ := mem_own.1 hopen
  have hcmd : o.cmd = .hsetRoom roomId (newRoom roomId code userId expiresAt) := congrArg Call.cmd hcall
  obtain ⟨l₁, l₂, hlog⟩ := List.append_of_mem hmem
  have hrun₀ := hrun
  rw [hlog] at hrun₀
  obtain ⟨hrun', ⟨hguard', hord'⟩, hdo⟩ := hrun₀.of_split
  rw [hcmd, hpid] at hguard' hord'
  obtain ⟨ownerId, howner, -, hheld, -, hne⟩ := opening_holds (run_of_ordered hrun') hguard' hord'
  obtain rfl : userId = ownerId := Option.some.inj howner
  have hheld : Holds (own pid log) userId := by
    refine hheld.mono ?_
    rw [hlog, own_append]
    refine List.IsSuffix.trans ?_ (List.suffix_append ..)
    rw [own_cons_self hpid]
    exact List.suffix_cons ..
  refine ⟨⟨hheld, fun e he hpid' _ => ?_⟩, ⟨o, hmem, hpid, ⟨_, hcmd⟩, ?_⟩, hne⟩
  · have hlt : e.cmd.rank < 2 := hord.below hheld Nat.zero_lt_two _ (mem_own.2 ⟨e, he, hpid', rfl⟩)
    omega
  · obtain ⟨call, pid', q, before, after⟩ := o
    subst hcall
    exact took_of_reply hdo rfl

/-- A rollback of a request that opened no room finds it in progress. -/
theorem rollback_inProgress (hrun : OrderedRun host init log s)
    (hord : Ordered (own pid log) (.delUserRoom userId)) (hheld : Holds (own pid log) userId)
    (hnone : ∀ roomId, ¬ OpenedBy host log pid roomId) : InProgress host log pid userId := by
  refine ⟨hheld, fun e hmem hpid htook => ?_⟩
  have hlt : e.cmd.rank < 3 := hord.below hheld (Nat.zero_lt_succ 2) _ (mem_own.2 ⟨e, hmem, hpid, rfl⟩)
  by_cases hset : ∃ userId' roomId', e.cmd = .setUserRoom userId' roomId'
  · -- Its own write of the mapping came after an opening.
    obtain ⟨userId', roomId', hcmd⟩ := hset
    obtain ⟨l₁, l₂, rfl⟩ := List.append_of_mem hmem
    obtain ⟨hrun', ⟨hguard', hord'⟩, -⟩ := hrun.of_split
    rw [hcmd, hpid] at hguard' hord'
    obtain ⟨-, ⟨o, ho, hopen⟩, -⟩ := setting_opened hrun' hguard' hord'
    exact absurd ⟨o, by simp [ho], hopen⟩ (hnone roomId')
  · cases hcmd : e.cmd with
    | setUserRoom userId' roomId' => exact absurd ⟨userId', roomId', hcmd⟩ hset
    | delUserRoom userId' =>
      rw [hcmd] at hlt
      exact absurd hlt (Nat.lt_irrefl 3)
    | _ => simp [Cmd.rank]

theorem InProgress.before (h : InProgress host (e :: log) pid userId) :
    e.pid = pid ∧ e.toCall = ⟨.setUserRoomNX userId "pending", some true⟩ ∨
      InProgress host log pid userId ∧ (e.pid = pid → Took host e → e.cmd.rank ≤ 1) := by
  obtain ⟨hheld, hranks⟩ := h
  obtain ⟨hrank, hranks⟩ := List.forall_mem_cons.1 hranks
  by_cases hpid : e.pid = pid
  · rw [Holds, own_cons_self hpid] at hheld
    rcases List.mem_cons.1 hheld with heq | hheld
    · exact .inl ⟨hpid, heq.symm⟩
    · exact .inr ⟨⟨hheld, hranks⟩, hrank⟩
  · rw [Holds, own_cons_other hpid] at hheld
    exact .inr ⟨⟨hheld, hranks⟩, hrank⟩

theorem InProgress.after (h : InProgress host log pid userId)
    (he : e.pid = pid → Took host e → e.cmd.rank ≤ 1) : InProgress host (e :: log) pid userId := by
  refine ⟨h.1.mono ?_, List.forall_mem_cons.2 ⟨he, h.2⟩⟩
  by_cases hpid : e.pid = pid
  · rw [own_cons_self hpid]
    exact List.suffix_cons ..
  · exact (own_cons_other hpid).symm ▸ List.suffix_refl _

/-- A membership is granted to a user without a mapping. -/
theorem slot_granted (hdo : (pool host).Does e)
    (hcall : e.toCall = ⟨.setUserRoomNX userId "pending", some true⟩) :
    e.before.mapping userId = none ∧ e.after.mapping userId = some "pending" := by
  obtain ⟨hreply, hafter⟩ := hdo.of_call hcall
  have hgrant : true = (setNX e.before.now ROOM_TTL_SECONDS "pending" (e.before.userRooms userId)).1 := hreply
  have hnone : e.before.mapping userId = none := by
    cases hmap : e.before.mapping userId with
    | none => rfl
    | some value =>
      simp [setNX, show (e.before.userRooms userId).get e.before.now = some value from hmap] at hgrant
  refine ⟨hnone, ?_⟩
  have hmap : (setNX e.before.now ROOM_TTL_SECONDS "pending" (e.before.userRooms userId)).2 =
      Key.setEx e.before.now (ROOM_TTL_SECONDS * 1000) "pending" := by
    simp only [setNX, show (e.before.userRooms userId).get e.before.now = none from hnone]
  have hput : ((act host (.setUserRoomNX userId "pending") e.before).2).mapping userId =
      (setNX e.before.now ROOM_TTL_SECONDS "pending" (e.before.userRooms userId)).2.get e.before.now :=
    (get_put ..).trans (if_pos rfl)
  rw [hafter]
  refine hput.trans ?_
  rw [hmap, Key.get_setEx]

/-! ## Members before and after a step -/

theorem MemberOf.room (h : MemberOf s roomId userId) :
    ∃ hash, s.peek roomId = some hash ∧ hash.roomId ≠ none ∧ filled hash.matchId = none := by
  rcases h with ⟨hash, h, -⟩ | ⟨hash, h, -⟩ <;> exact ⟨hash, h⟩

theorem MemberOf.ne_pending (hinit : Opening host init) (hrun : Run host init log s)
    (h : MemberOf s roomId userId) : roomId ≠ "pending" := by
  obtain ⟨hash, hpeek, hroom, -⟩ := h.room
  obtain ⟨n, rfl⟩ := room_drawn hinit hrun hpeek hroom
  exact host.uuid_ne_pending n

theorem owner_before (hdo : (pool host).Does e) (h : OwnerOf e.after roomId userId) :
    OwnerOf e.before roomId userId ∨
      Took host e ∧ ∃ hash, e.cmd = .hsetRoom roomId hash ∧ hash.ownerId = some userId := by
  obtain ⟨hash, ⟨hpeek, hroom, hfresh⟩, howner⟩ := h
  rcases event_room roomId hdo with hsame | ⟨htook, hchange⟩
  · exact .inl ⟨hash, ⟨hsame ▸ hpeek, hroom, hfresh⟩, howner⟩
  · rw [hpeek] at hchange
    generalize hcmd : e.cmd = c at hchange
    cases hchange with
    | opened => exact .inr ⟨htook, hash, rfl, howner⟩
    | joined hjoins => exact .inl ⟨_, ⟨peek_of_room hroom, hroom, hfresh⟩, howner⟩
    | left => exact .inl ⟨_, ⟨peek_of_room hroom, hroom, hfresh⟩, howner⟩
    | recorded hnone => exact .inl ⟨_, ⟨peek_of_room hroom, hroom, hnone⟩, howner⟩

theorem guest_before (hdo : (pool host).Does e) (h : GuestOf e.after roomId userId) :
    GuestOf e.before roomId userId ∨
      Took host e ∧ ((∃ hash, e.cmd = .hsetRoom roomId hash ∧ filled hash.guestId = some userId) ∨
        e.cmd = .roomJoin roomId userId ∧ Joins roomId userId e.before) := by
  obtain ⟨hash, ⟨hpeek, hroom, hfresh⟩, hguest⟩ := h
  rcases event_room roomId hdo with hsame | ⟨htook, hchange⟩
  · exact .inl ⟨hash, ⟨hsame ▸ hpeek, hroom, hfresh⟩, hguest⟩
  · rw [hpeek] at hchange
    generalize hcmd : e.cmd = c at hchange
    cases hchange with
    | opened => exact .inr ⟨htook, .inl ⟨hash, rfl, hguest⟩⟩
    | joined hjoins =>
      obtain ⟨heq, -⟩ := filled_some hguest
      cases heq
      exact .inr ⟨htook, .inr ⟨rfl, hjoins⟩⟩
    | left => simp at hguest
    | recorded hnone => exact .inl ⟨_, ⟨peek_of_room hroom, hroom, hnone⟩, hguest⟩

/-- Who leaves a room, and the guest of an owner who does, is no member of it
any more. -/
theorem left_out {leaver : String} (hcmd : e.cmd = .roomLeave roomId leaver) (htook : Took host e)
    (hreply : (evalRoomLeave roomId leaver e.before).1 ≠ .missing)
    (huser : userId = leaver ∨ (evalRoomLeave roomId leaver e.before).1 = .owner ∧
      filled (e.before.room roomId).guestId = some userId) : ¬ MemberOf e.after roomId userId := by
  have hafter : e.after = (evalRoomLeave roomId leaver e.before).2 := by
    rw [htook, hcmd]
    rfl
  rcases evalRoomLeave_cases roomId leaver e.before with h | ⟨-, -, codes, h⟩ | ⟨-, howner, -, h⟩
  · rw [h] at hreply
    exact absurd rfl hreply
  · intro hmember
    obtain ⟨hash, hpeek, -⟩ := hmember.room
    rw [hafter, h] at hpeek
    simp [Store.peek, put] at hpeek
  · have huser : userId = leaver := huser.resolve_right fun hleft => by simp [h] at hleft
    subst huser
    have hpeek : e.after.peek roomId =
        some { e.before.room roomId with guestId := some "", status := some .waiting } := by
      rw [hafter, h, peek_guestLeft, if_pos rfl]
    rintro (⟨hash, ⟨hpeek', -⟩, howner'⟩ | ⟨hash, ⟨hpeek', -⟩, hguest'⟩) <;> rw [hpeek] at hpeek' <;>
      cases hpeek'
    · exact howner howner'
    · simp at hguest'

/-- A room whose match is just recorded has no unmatched members. -/
theorem recorded_out (hinit : Opening host init) (hrun : Run host init log e.before)
    {code matchId ownerId guestId : String}
    (hguard : Guard (own e.pid log) (.roomMatchDone roomId code matchId ownerId guestId))
    (hcmd : e.cmd = .roomMatchDone roomId code matchId ownerId guestId) (htook : Took host e)
    (hfresh : filled (e.before.room roomId).matchId = none) : ¬ MemberOf e.after roomId userId := by
  intro hmember
  obtain ⟨hash, hpeek, -, hnone⟩ := hmember.room
  have hafter : e.after = (evalRoomMatchDone roomId code matchId ownerId guestId e.before).2 := by
    rw [htook, hcmd]
    rfl
  rw [hafter, peek_recorded hfresh, if_pos rfl] at hpeek
  cases hpeek
  rw [filled_of_ne (done_matchId hinit hrun hguard)] at hnone
  cases hnone

/-- The room of a record was drawn. -/
theorem record_ne_pending (hinit : Opening host init) (hrun : Run host init log s)
    {matchId ownerId guestId : String}
    (h : DoneGuard (own pid log) roomId matchId ownerId guestId) : roomId ≠ "pending" := by
  have hclaimed : ∀ {h' : History}, h' <:+ own pid log → Claimed h' roomId ownerId guestId →
      roomId ≠ "pending" := by
    intro h' hsuf hclaim
    obtain ⟨newer, claim, older, rfl, -, hclaim'⟩ := claim_event (hclaim.mono hsuf)
    obtain ⟨hrun', -, hdo⟩ := hrun.of_split
    obtain ⟨-, hroom, -⟩ := claims_room hdo hclaim'
    obtain ⟨n, rfl⟩ := room_drawn hinit hrun' (peek_of_room hroom) hroom
    exact host.uuid_ne_pending n
  cases h with
  | adopted hh hclaim _ _ =>
    exact hclaimed (hh ▸ (List.suffix_cons ..).trans (List.suffix_append ..)) hclaim
  | created hh hclaim _ =>
    exact hclaimed (hh ▸ (List.suffix_cons ..).trans (List.suffix_append ..)) hclaim
  | read hread hview hroom _ _ _ =>
    obtain ⟨read, hmem, -, hcall⟩ := mem_own.1 hread
    obtain ⟨l₁, l₂, hlog⟩ := List.append_of_mem hmem
    obtain ⟨hrun', -, hpeek, hne, hkey⟩ := view_read hinit hrun hlog hcall hview
    obtain ⟨n, hn⟩ := room_drawn hinit hrun' hpeek hne
    rw [← hroom, hkey, hn]
    exact host.uuid_ne_pending n

/-! ## One gentle step -/

section
variable (hinit : Opening host init) (hrun : OrderedRun host init log e.before)
  (hguard : Guard (own e.pid log) e.cmd) (hord : Ordered (own e.pid log) e.cmd)
  (hdo : (pool host).Does e) (hgentle : Gentle host log e) (h : Mapped host log e.before)
include hrun hguard hord h

/-- A write of an owner's mapping finds it `pending`. -/
theorem Mapped.set_pending (hcmd : e.cmd = .setUserRoom userId roomId) :
    InProgress host log e.pid userId ∧ OpenedBy host log e.pid roomId ∧
      e.before.mapping userId = some "pending" := by
  rw [hcmd] at hguard hord
  obtain ⟨hprog, hopen, -⟩ := setting_opened hrun hguard hord
  exact ⟨hprog, hopen, h.pending _ _ hprog⟩

include hinit hdo hgentle

/-- A member keeps a mapping to its room. -/
theorem Mapped.kept (hmap : e.before.mapping userId = some roomId)
    (hbefore : MemberOf e.before roomId userId) (hafter : MemberOf e.after roomId userId) :
    e.after.mapping userId = some roomId := by
  have hne := hbefore.ne_pending hinit (run_of_ordered hrun)
  rcases event_mapping userId hdo with hsame | ⟨htook, hchange⟩
  · exact hsame.trans hmap
  · have hspare : ∀ left, Spare e.before left userId → some roomId = left := fun left hspare =>
      (hspare roomId hmap).resolve_right fun hout => hout.2 hbefore
    exfalso
    generalize hcmd : e.cmd = c at hchange
    generalize e.after.mapping userId = value at hchange
    cases hchange with
    | slotted hnone =>
      rw [hmap] at hnone
      cases hnone
    | set =>
      obtain ⟨-, -, hpending⟩ := h.set_pending hrun hguard hord hcmd
      rw [hmap] at hpending
      exact hne (Option.some.inj hpending)
    | joined hjoins =>
      rw [show e.before.mapping userId = none from hjoins.unmapped] at hmap
      cases hmap
    | deleted =>
      rcases hgentle.cleanup userId hcmd htook with hspare' | ⟨hpending, -⟩
      · cases hspare none hspare'
      · rw [hmap] at hpending
        exact hne (Option.some.inj hpending)
    | @left roomId' leaver hreply huser =>
      have hleft : roomId = roomId' := by
        rcases id huser with rfl | ⟨howner, hguest⟩
        · exact Option.some.inj (hspare _ (hgentle.leaver roomId' userId hcmd htook hreply))
        · exact Option.some.inj (hspare _ (hgentle.guest roomId' leaver userId hcmd htook howner hguest))
      subst hleft
      exact left_out hcmd htook hreply huser hafter
    | @done roomId' code matchId ownerId guestId hmap' hfresh =>
      obtain rfl : roomId = roomId' := Option.some.inj (hmap.symm.trans hmap')
      rw [hcmd] at hguard
      exact recorded_out hinit (run_of_ordered hrun) hguard hcmd htook hfresh hafter

/-- The mapping of an opening in progress stays `pending`. -/
theorem Mapped.still_pending (hprog : InProgress host log pid userId)
    (hrank : e.pid = pid → Took host e → e.cmd.rank ≤ 1) :
    e.after.mapping userId = some "pending" := by
  have hmap := h.pending pid userId hprog
  have hdrawn : ∀ hash, e.before.peek "pending" = some hash → hash.roomId = none := by
    intro hash hpeek
    by_contra hroom
    obtain ⟨n, hn⟩ := room_drawn hinit (run_of_ordered hrun) hpeek hroom
    exact host.uuid_ne_pending n hn.symm
  rcases event_mapping userId hdo with hsame | ⟨htook, hchange⟩
  · exact hsame.trans hmap
  · have hspare : ∀ left, Spare e.before left userId → some "pending" = left := fun left hspare =>
      (hspare "pending" hmap).resolve_right fun hout => hout.1 rfl
    exfalso
    generalize hcmd : e.cmd = c at hchange
    generalize e.after.mapping userId = value at hchange
    cases hchange with
    | slotted hnone =>
      rw [hmap] at hnone
      cases hnone
    | set =>
      obtain ⟨hprog', -⟩ := h.set_pending hrun hguard hord hcmd
      have hle := hrank (h.alone _ _ _ hprog' hprog) htook
      rw [hcmd] at hle
      exact absurd hle (by simp [Cmd.rank])
    | joined hjoins =>
      rw [show e.before.mapping userId = none from hjoins.unmapped] at hmap
      cases hmap
    | deleted =>
      rcases hgentle.cleanup userId hcmd htook with hspare' | ⟨-, hheld, hnone⟩
      · cases hspare none hspare'
      · rw [hcmd] at hord
        have hprog' := rollback_inProgress hrun hord hheld hnone
        have hle := hrank (h.alone _ _ _ hprog' hprog) htook
        rw [hcmd] at hle
        exact absurd hle (by simp [Cmd.rank])
    | @left roomId' leaver hreply huser =>
      have hleft : "pending" = roomId' := by
        rcases id huser with rfl | ⟨howner, hguest⟩
        · exact Option.some.inj (hspare _ (hgentle.leaver roomId' userId hcmd htook hreply))
        · exact Option.some.inj (hspare _ (hgentle.guest roomId' leaver userId hcmd htook howner hguest))
      subst hleft
      have hroom : (e.before.room "pending").roomId ≠ none := by
        rcases evalRoomLeave_cases "pending" leaver e.before with heq | ⟨hroom, -⟩ | ⟨hroom, -⟩
        · rw [heq] at hreply
          exact absurd rfl hreply
        · exact hroom
        · exact hroom
      exact hroom (hdrawn _ (peek_of_room hroom))
    | @done roomId' code matchId ownerId guestId hmap' hfresh =>
      rw [hcmd] at hguard
      refine record_ne_pending hinit (run_of_ordered hrun) hguard ?_
      exact Option.some.inj (hmap'.symm.trans hmap)

/-- **A gentle step keeps mappings and rooms together.** -/
theorem Mapped.step : Mapped host (e :: log) e.after where
  pending pid userId hprog := by
    rcases hprog.before with ⟨hpid, hcall⟩ | ⟨hprog, hrank⟩
    · exact (slot_granted hdo hcall).2
    · exact h.still_pending hinit hrun hguard hord hdo hgentle hprog hrank
  alone pid pid' userId hprog hprog' := by
    have hnew : ∀ {p : Nat}, e.toCall = ⟨.setUserRoomNX userId "pending", some true⟩ →
        ¬ InProgress host log p userId := by
      intro p hcall hprog
      have hnone := (slot_granted hdo hcall).1
      rw [h.pending p userId hprog] at hnone
      cases hnone
    rcases hprog.before with ⟨hpid, hcall⟩ | ⟨hprog, -⟩
    · rcases hprog'.before with ⟨hpid', -⟩ | ⟨hprog', -⟩
      · exact hpid.symm.trans hpid'
      · exact absurd hprog' (hnew hcall)
    · rcases hprog'.before with ⟨-, hcall⟩ | ⟨hprog', -⟩
      · exact absurd hprog (hnew hcall)
      · exact h.alone pid pid' userId hprog hprog'
  owner roomId userId howner := by
    rcases owner_before hdo howner with hbefore | ⟨htook, hash, hcmd, hid⟩
    · rcases h.owner roomId userId hbefore with hmap | ⟨pid, hprog, hopen⟩
      · exact .inl (h.kept hinit hrun hguard hord hdo hgentle hmap (.inl hbefore) (.inl howner))
      · by_cases hrank : e.pid = pid → Took host e → e.cmd.rank ≤ 1
        · obtain ⟨o, hmem, ho⟩ := hopen
          exact .inr ⟨pid, hprog.after hrank, o, List.mem_cons_of_mem _ hmem, ho⟩
        · -- The opening request writes its mapping, or rolls back.
          simp only [not_forall, exists_prop] at hrank
          obtain ⟨rfl, htook, hrank⟩ := hrank
          have hmap := h.pending _ _ hprog
          cases hcmd : e.cmd with
          | setUserRoom userId' roomId' =>
            obtain ⟨hprog', hopen', -⟩ := h.set_pending hrun hguard hord hcmd
            obtain rfl := holds_one hrun hprog.1 hprog'.1
            obtain rfl := opened_one hrun hopen hopen'
            refine .inl ?_
            rw [htook, hcmd]
            exact (get_put_setEx ..).trans (if_pos rfl)
          | delUserRoom userId' =>
            have hheld := hord.own ⟨_, hprog.1, rfl⟩ userId' hcmd
            obtain rfl := holds_one hrun hprog.1 hheld
            rcases hgentle.cleanup userId hcmd htook with hspare | ⟨-, -, hnone⟩
            · rcases hspare "pending" hmap with hleft | ⟨hne, -⟩
              · cases hleft
              · exact absurd rfl hne
            · exact absurd hopen (hnone roomId)
          | _ => simp [hcmd, Cmd.rank] at hrank
    · rw [hcmd] at hguard hord
      obtain ⟨ownerId, hid', -, hheld, hidle, -⟩ := opening_holds (run_of_ordered hrun) hguard hord
      obtain rfl : userId = ownerId := Option.some.inj (hid.symm.trans hid')
      have hprog : InProgress host log e.pid userId :=
        ⟨hheld, fun e' hmem hpid _ => (hidle e' hmem hpid).symm ▸ Nat.zero_le 1⟩
      refine .inr ⟨e.pid, hprog.after fun _ _ => ?_, e, List.mem_cons_self .., rfl, ⟨hash, hcmd⟩, htook⟩
      rw [hcmd]
      exact le_rfl
  guest roomId userId hguest := by
    rcases guest_before hdo hguest with hbefore | ⟨htook, ⟨hash, hcmd, hid⟩ | ⟨hcmd, hjoins⟩⟩
    · exact h.kept hinit hrun hguard hord hdo hgentle (h.guest roomId userId hbefore) (.inr hbefore) (.inr hguest)
    · rw [hcmd] at hguard hord
      obtain ⟨-, -, hnone, -⟩ := opening_holds (run_of_ordered hrun) hguard hord
      rw [hnone] at hid
      cases hid
    · rw [htook, hcmd, act, evalRoomJoin_ok hjoins]
      exact (get_put_setEx ..).trans (if_pos rfl)

end

/-! ## Runs -/

/-- No mapping expires, so the clock takes none. -/
theorem mapping_time {ms : Nat} (hlive : Unexpired ((pool host).env ms s)) (userId : String) :
    ((pool host).env ms s).mapping userId = s.mapping userId :=
  Key.get_unexpired (Nat.le_add_right ..) (hlive userId)

theorem unexpired_time {ms : Nat} (hlive : Unexpired ((pool host).env ms s)) : Unexpired s :=
  fun userId entry hentry => Entry.live_earlier (Nat.le_add_right ..) (hlive userId entry hentry)

theorem owner_time {ms : Nat} (h : OwnerOf ((pool host).env ms s) roomId userId) : OwnerOf s roomId userId := by
  obtain ⟨hash, ⟨hpeek, hroom⟩, howner⟩ := h
  rcases peek_time host ms s roomId with heq | heq <;> rw [heq] at hpeek
  · exact ⟨hash, ⟨hpeek, hroom⟩, howner⟩
  · cases hpeek

theorem guest_time {ms : Nat} (h : GuestOf ((pool host).env ms s) roomId userId) : GuestOf s roomId userId := by
  obtain ⟨hash, ⟨hpeek, hroom⟩, hguest⟩ := h
  rcases peek_time host ms s roomId with heq | heq <;> rw [heq] at hpeek
  · exact ⟨hash, ⟨hpeek, hroom⟩, hguest⟩
  · cases hpeek

theorem Mapped.time {ms : Nat} (h : Mapped host log s) (hlive : Unexpired ((pool host).env ms s)) :
    Mapped host log ((pool host).env ms s) := by
  have hmap := mapping_time hlive
  exact ⟨fun pid userId hprog => (hmap userId).trans (h.pending pid userId hprog), h.alone,
    fun roomId userId howner => (hmap userId).symm ▸ h.owner roomId userId (owner_time howner),
    fun roomId userId hguest => (hmap userId).trans (h.guest roomId userId (guest_time hguest))⟩

/-- **Every state of a gentle run is mapped**, while no mapping expires. -/
theorem mappings_kept (hinit : Opening host init) (hrun : OrderedRun host init log s)
    (hlive : Meets (fun _ e => Unexpired e.before) log) (hlast : Unexpired s)
    (hgentle : Meets (Gentle host) log) : Mapped host log s := by
  induction hrun with
  | start =>
    have hprog : ∀ pid userId, ¬ InProgress host ([] : List LobbyEvent) pid userId := fun _ _ h => by cases h.1
    have hpeek : ∀ roomId hash, ¬ Unmatched init roomId hash := by
      intro roomId hash h
      have := h.1
      rw [hinit.peek] at this
      cases this
    exact ⟨fun pid userId h => absurd h (hprog pid userId), fun pid _ userId h => absurd h (hprog pid userId),
      fun roomId userId ⟨hash, h, _⟩ => absurd h (hpeek roomId hash),
      fun roomId userId ⟨hash, h, _⟩ => absurd h (hpeek roomId hash)⟩
  | time ms _ ih => exact (ih hlive (unexpired_time hlast) hgentle).time hlast
  | call hrun hguard hdo ih =>
    exact (ih hlive.2 hlive.1 hgentle.2).step hinit hrun hguard.1 hguard.2 hdo hgentle.1

/-- Where mappings and rooms agree, a user has one unmatched room. -/
theorem Mapped.single (hinit : Opening host init) (hrun : OrderedRun host init log s)
    (h : Mapped host log s) : SingleRoom host log s := by
  have hroom : ∀ userId roomId, MemberOf s roomId userId → s.mapping userId = some roomId ∨
      ∃ pid, InProgress host log pid userId ∧ OpenedBy host log pid roomId := by
    rintro userId roomId (howner | hguest)
    · exact h.owner roomId userId howner
    · exact .inl (h.guest roomId userId hguest)
  have hpending : ∀ userId roomId pid, MemberOf s roomId userId → s.mapping userId = some roomId →
      ¬ InProgress host log pid userId := by
    intro userId roomId pid hmember hmap hprog
    rw [h.pending pid userId hprog] at hmap
    exact hmember.ne_pending hinit (run_of_ordered hrun) (Option.some.inj hmap).symm
  refine ⟨fun userId roomId roomId' hmember hmember' => ?_, fun userId roomId => h.guest roomId userId,
    fun userId roomId howner hset => ?_⟩
  · rcases hroom userId roomId hmember with hmap | ⟨pid, hprog, hopen⟩
    · rcases hroom userId roomId' hmember' with hmap' | ⟨pid', hprog', -⟩
      · exact Option.some.inj (hmap.symm.trans hmap')
      · exact absurd hprog' (hpending userId roomId pid' hmember hmap)
    · rcases hroom userId roomId' hmember' with hmap' | ⟨pid', hprog', hopen'⟩
      · exact absurd hprog (hpending userId roomId' pid hmember' hmap')
      · obtain rfl := h.alone pid pid' userId hprog hprog'
        exact opened_one hrun hopen hopen'
  · rcases h.owner roomId userId howner with hmap | ⟨pid, hprog, hopen⟩
    · exact hmap
    · -- The request that wrote the mapping opened the room, so it is this one.
      obtain ⟨e, hmem, hcmd, htook⟩ := hset
      obtain ⟨l₁, l₂, rfl⟩ := List.append_of_mem hmem
      obtain ⟨hrun', ⟨hguard, hord⟩, -⟩ := hrun.of_split
      rw [hcmd] at hguard hord
      obtain ⟨-, ⟨o, ho, hopen'⟩, -⟩ := setting_opened hrun' hguard hord
      have hpid : pid = e.pid := opened_by_one (run_of_ordered hrun) hopen ⟨o, by simp [ho], hopen'⟩
      have hrank := hprog.2 e hmem hpid.symm htook
      rw [hcmd] at hrank
      exact absurd hrank (by simp [Cmd.rank])

/-- **A user has one unmatched room, and its mapping names it**, in every state
of a run from a lobby without rooms in which no mapping expires and every step
is gentle. -/
theorem single_room (host : Host) (init : Store) (hinit : Opening host init)
    (moves : List (Move Request Nat))
    (hlive : Meets (fun _ e => Unexpired e.before) ((pool host).run ⟨init, [], []⟩ moves).log)
    (hlast : Unexpired ((pool host).run ⟨init, [], []⟩ moves).store)
    (hgentle : Meets (Gentle host) ((pool host).run ⟨init, [], []⟩ moves).log) :
    SingleRoom host ((pool host).run ⟨init, [], []⟩ moves).log
      ((pool host).run ⟨init, [], []⟩ moves).store := by
  have hrun := ordered_run_of_moves host init moves
  exact (mappings_kept hinit hrun hlive hlast hgentle).single hinit hrun

/-! ## A cleanup that lands late -/

/-- Every mapping was written for 45 minutes. -/
def LongLived (m : String → Key String) : Prop := ∀ userId entry, (m userId).entry = some entry →
  ∃ written, entry.expireAt = some (written + ROOM_TTL_SECONDS * 1000)

theorem LongLived.put {m : String → Key String} (hm : LongLived m) {key : String} {k : Key String}
    (hk : ∀ entry, k.entry = some entry → ∃ written, entry.expireAt = some (written + ROOM_TTL_SECONDS * 1000)) :
    LongLived (put m key k) := by
  intro userId entry hentry
  unfold Runtime.put at hentry
  split at hentry
  · exact hk entry hentry
  · exact hm userId entry hentry

theorem LongLived.delete {m : String → Key String} (hm : LongLived m) (key : String) :
    LongLived (Runtime.put m key {}) := hm.put (by simp)

theorem LongLived.write {m : String → Key String} (hm : LongLived m) (key : String) (now : Nat)
    (value : String) : LongLived (Runtime.put m key (Key.setEx now (ROOM_TTL_SECONDS * 1000) value)) := by
  refine hm.put fun entry hentry => ⟨now, ?_⟩
  cases hentry
  rfl

theorem LongLived.clear {m : String → Key String} (hm : LongLived m) (now : Nat) (roomId key : String) :
    LongLived (clearUserRoom now roomId key m) := by
  unfold clearUserRoom
  split
  · exact hm.delete key
  · exact hm

theorem act_longLived (c : Cmd) {s : Store} (h : LongLived s.userRooms) :
    LongLived (act host c s).2.userRooms := by
  by_cases hc : c.writesMappings = false
  · rw [act_userRooms host hc]
    exact h
  · cases c with
    | setUserRoomNX key value =>
      change LongLived (Runtime.put s.userRooms key (setNX s.now ROOM_TTL_SECONDS value (s.userRooms key)).2)
      unfold setNX
      split
      · exact h.put fun entry hentry => h key entry hentry
      · exact h.write key s.now value
    | setUserRoom key roomId => exact h.write key s.now roomId
    | delUserRoom key => exact h.delete key
    | roomJoin roomId guestId =>
      rcases evalRoomJoin_cases roomId guestId s with ⟨-, heq⟩ | ⟨-, heq⟩
      · simp only [act, heq]
        exact h.write guestId s.now roomId
      · simp only [act, heq]
        exact h
    | roomLeave roomId leaver =>
      rcases evalRoomLeave_cases roomId leaver s with heq | ⟨-, -, codes, heq⟩ | ⟨-, -, -, heq⟩
      · simp only [act, heq]
        exact h
      · simp only [act, heq, unmapBoth]
        split
        · exact (h.delete leaver).delete _
        · exact h.delete leaver
      · simp only [act, heq]
        exact h.delete leaver
    | roomMatchDone roomId code matchId ownerId guestId =>
      cases hfresh : filled (s.room roomId).matchId with
      | some recorded =>
        simp only [act, evalRoomMatchDone_again hfresh]
        exact h
      | none =>
        simp only [act, evalRoomMatchDone, hfresh]
        exact (h.clear s.now roomId ownerId).clear s.now roomId guestId
    | _ => exact absurd rfl hc

/-- **No mapping expires in the first 45 minutes.** -/
theorem unexpired_early (hunmapped : ∀ userId, init.userRooms userId = {}) (hrun : Run host init log s)
    (hearly : s.now ≤ ROOM_TTL_SECONDS * 1000) : Unexpired s := by
  have hlong : LongLived s.userRooms := by
    clear hearly
    induction hrun with
    | start =>
      intro userId entry hentry
      rw [hunmapped] at hentry
      cases hentry
    | time ms _ ih => exact ih
    | call _ _ hdo ih =>
      rcases took_or_kept hdo with htook | hkept
      · rw [htook]
        exact act_longLived _ ih
      · rw [hkept]
        exact ih
  intro userId entry hentry
  obtain ⟨written, hwritten⟩ := hlong userId entry hentry
  simp only [Entry.live, hwritten, Option.all_some, decide_eq_true_eq]
  exact hearly.trans (Nat.le_add_left ..)

theorem meets_unexpired (hunmapped : ∀ userId, init.userRooms userId = {}) (hrun : Run host init log s)
    (hearly : ∀ e ∈ log, e.before.now ≤ ROOM_TTL_SECONDS * 1000) :
    Meets (fun _ e => Unexpired e.before) log := by
  induction hrun with
  | start => trivial
  | time ms _ ih => exact ih hearly
  | call hrun _ _ ih =>
    obtain ⟨he, hlog⟩ := List.forall_mem_cons.1 hearly
    exact ⟨unexpired_early hunmapped hrun he, ih hlog⟩

/-- The owner leaves while a guest reads its room, and the guest opens a room
of its own before the read of the closed one is cleaned up. -/
def cleaningLate : List (Move Request Nat) :=
  filling ++ [.start (.getMyRoom "bob")] ++ answers 2 1 ++ [.start (.leaveRoom "ann")] ++ answers 3 4 ++
    answers 2 1 ++ [.start (.createRoom "bob")] ++ answers 4 10 ++ answers 2 1

/-- The room and the user of a write of an owner's mapping. -/
def Cmd.setting : Cmd → Option (String × String)
  | .setUserRoom userId roomId => some (roomId, userId)
  | _ => none

set_option maxRecDepth 100000 in
/-- The second room is open, its mapping was written and is gone. -/
theorem single_room_cleaned : Meets (fun _ e => Unexpired e.before) (lobby {} cleaningLate).log ∧
    Unexpired (lobby {} cleaningLate).store ∧
    ¬ SingleRoom plainHost (lobby {} cleaningLate).log (lobby {} cleaningLate).store := by
  have hrun := run_of_moves plainHost {} cleaningLate
  change Run plainHost {} (lobby {} cleaningLate).log (lobby {} cleaningLate).store at hrun
  have hearly : ∀ e ∈ (lobby {} cleaningLate).log, e.before.now ≤ ROOM_TTL_SECONDS * 1000 := by decide
  have hlast : (lobby {} cleaningLate).store.now ≤ ROOM_TTL_SECONDS * 1000 := by decide
  refine ⟨meets_unexpired (fun _ => rfl) hrun hearly, unexpired_early (fun _ => rfl) hrun hlast, ?_⟩
  have hroom : ((lobby {} cleaningLate).store.peek "uu").map (fun hash =>
      (hash.roomId.isSome, filled hash.matchId, hash.ownerId)) = some (true, none, some "bob") := by decide
  have hmap : (lobby {} cleaningLate).store.mapping "bob" = none := by decide
  have hset : ∃ e ∈ (lobby {} cleaningLate).log, e.cmd.setting = some ("uu", "bob") ∧
      e.reply.isSome = true := by decide
  generalize (lobby {} cleaningLate).log = log at hrun hset
  generalize (lobby {} cleaningLate).store = s at hrun hroom hmap
  intro hsingle
  obtain ⟨hash, hpeek, hhash⟩ := Option.map_eq_some_iff.1 hroom
  simp only [Prod.mk.injEq] at hhash
  obtain ⟨hid, hmatch, howner⟩ := hhash
  obtain ⟨e, hmem, hcmd, hreply⟩ := hset
  obtain ⟨l₁, l₂, rfl⟩ := List.append_of_mem hmem
  have htook := took_of_reply hrun.of_split.2.2 hreply
  have hcmd' : e.cmd = .setUserRoom "bob" "uu" := by
    cases hcase : e.cmd <;> rw [hcase] at hcmd <;> cases hcmd
    rfl
  have hmapped := hsingle.owner "bob" "uu"
    ⟨hash, ⟨hpeek, Option.isSome_iff_ne_none.1 hid, hmatch⟩, howner⟩ ⟨e, hmem, hcmd', htook⟩
  rw [hmap] at hmapped
  cases hmapped

/-- A guest leaves the room and another joins it. -/
def changing : List (Move Request Nat) :=
  filling ++ [.start (.leaveRoom "bob")] ++ answers 2 5 ++ [.start (.joinRoom "cid" "ABC234")] ++ answers 3 7

/-- A call that deletes no mapping, or a leave of the room that the user's and
its guest's mappings name. -/
def leavesOwn (e : LobbyEvent) : Bool :=
  match e.cmd with
  | .delUserRoom _ => false
  | .roomLeave roomId userId => e.before.mapping userId = some roomId &&
    (filled (e.before.room roomId).guestId).all fun guestId => e.before.mapping guestId = some roomId
  | _ => true

theorem gentle_of_leavesOwn (h : leavesOwn e = true) : Gentle host log e := by
  have hspare : ∀ {s : Store} {roomId userId : String}, s.mapping userId = some roomId →
      Spare s (some roomId) userId := fun hmap roomId' hmap' => .inl (hmap'.symm.trans hmap)
  refine ⟨fun userId hcmd => ?_, fun roomId userId hcmd _ _ => ?_, fun roomId userId guestId hcmd _ _ hguest => ?_⟩
  · simp [leavesOwn, hcmd] at h
  · simp only [leavesOwn, hcmd, Bool.and_eq_true, decide_eq_true_eq] at h
    exact hspare h.1
  · simp only [leavesOwn, hcmd, Bool.and_eq_true, decide_eq_true_eq, hguest, Option.all_some] at h
    exact hspare h.2

set_option maxRecDepth 100000 in
theorem single_room_changing : SingleRoom plainHost (lobby {} changing).log (lobby {} changing).store ∧
    (lobby {} changing).store.mapping "cid" = some "u" := by
  have hrun := run_of_moves plainHost {} changing
  have hown : ∀ e ∈ (lobby {} changing).log, leavesOwn e = true := by decide
  have hearly : ∀ e ∈ (lobby {} changing).log, e.before.now ≤ ROOM_TTL_SECONDS * 1000 := by decide
  have hlast : (lobby {} changing).store.now ≤ ROOM_TTL_SECONDS * 1000 := by decide
  refine ⟨single_room plainHost {} (opening_empty plainHost) changing
    (meets_unexpired (fun _ => rfl) hrun hearly) (unexpired_early (fun _ => rfl) hrun hlast) ?_, by decide⟩
  exact Meets.of_mem fun log e hmem => gentle_of_leavesOwn (hown e hmem)

end AutoChess.Lobby
