/-
What can change a room in one step (`RoomChange`), and what every run keeps:
a room is written anew once, by the request that drew its id, so a room that
is gone never comes back.
-/
import AutoChess.Lobby.Writes

namespace AutoChess.Lobby

open AutoChess.Runtime Calls Expiring

variable {host : Host} {init s : Store} {log : List LobbyEvent} {e : LobbyEvent}

/-- The hash at `room:<roomId>`, if the key is there. -/
def Store.peek (s : Store) (roomId : String) : Option RoomHash := (s.rooms roomId).get s.now

theorem room_eq (s : Store) (roomId : String) : s.room roomId = (s.peek roomId).getD {} := rfl

theorem peek_of_room {s : Store} {roomId : String} (h : (s.room roomId).roomId ≠ none) :
    s.peek roomId = some (s.room roomId) := by
  rw [room_eq] at h ⊢
  cases hpeek : s.peek roomId with
  | none => simp [hpeek] at h
  | some hash => rfl

theorem peek_writeRoom (s : Store) (roomId r : String) (f : RoomHash → RoomHash) :
    (s.writeRoom roomId f).peek r = if r = roomId then some (f (s.room roomId)) else s.peek r := by
  unfold Store.peek Store.writeRoom Store.room put
  dsimp only
  split
  · next h =>
    subst h
    exact Key.get_modify ..
  · rfl

/-! ## One step -/

/-- `room_join.lua` admits the user. -/
structure Joins (roomId userId : String) (s : Store) : Prop where
  room : (s.room roomId).roomId ≠ none
  owner : (s.room roomId).ownerId ≠ some userId
  unmapped : (s.userRooms userId).get s.now = none
  free : filled (s.room roomId).guestId = none
  waiting : (s.room roomId).status = some .waiting

def joined (roomId userId : String) (s : Store) : Store :=
  { s.writeRoom roomId fun room => { room with guestId := some userId, status := some .full } with
    userRooms := put s.userRooms userId (Key.setEx s.now (ROOM_TTL_SECONDS * 1000) roomId) }

theorem evalRoomJoin_ok {roomId userId : String} {s : Store} (h : Joins roomId userId s) :
    evalRoomJoin roomId userId s = (.ok, joined roomId userId s) := by
  simp only [evalRoomJoin, h.room, h.owner, h.unmapped, h.free, h.waiting, if_false,
    Option.isSome_none, Bool.false_eq_true, ne_eq, not_true_eq_false]
  rfl

theorem peek_joined (roomId userId : String) (s : Store) (r : String) :
    (joined roomId userId s).peek r =
      if r = roomId then some { s.room roomId with guestId := some userId, status := some .full }
      else s.peek r := peek_writeRoom ..

theorem evalRoomJoin_cases (roomId userId : String) (s : Store) :
    (Joins roomId userId s ∧ evalRoomJoin roomId userId s = (.ok, joined roomId userId s)) ∨
    ((evalRoomJoin roomId userId s).1 ≠ .ok ∧ (evalRoomJoin roomId userId s).2 = s) := by
  by_cases h : Joins roomId userId s
  · exact .inl ⟨h, evalRoomJoin_ok h⟩
  · right
    unfold evalRoomJoin
    dsimp only
    split
    · exact ⟨by simp, rfl⟩
    next hroom =>
    split
    · exact ⟨by simp, rfl⟩
    next howner =>
    split
    · exact ⟨by simp, rfl⟩
    next hmapped =>
    split
    · exact ⟨by simp, rfl⟩
    next hguest =>
    split
    · exact ⟨by simp, rfl⟩
    next hstatus =>
    exact absurd ⟨hroom, howner, Option.not_isSome_iff_eq_none.1 hmapped,
      Option.not_isSome_iff_eq_none.1 hguest, not_not.1 hstatus⟩ h

/-- The store a guest leaves. -/
def guestLeft (roomId userId : String) (s : Store) : Store :=
  { s.writeRoom roomId fun room => { room with guestId := some "", status := some .waiting } with
    userRooms := put s.userRooms userId {} }

theorem peek_guestLeft (roomId userId : String) (s : Store) (r : String) :
    (guestLeft roomId userId s).peek r =
      if r = roomId then some { s.room roomId with guestId := some "", status := some .waiting }
      else s.peek r := peek_writeRoom ..

/-- The mappings an owner's leave deletes. -/
def unmapBoth (ownerId : String) (guestId : Option String) (userRooms : String → Key String) :
    String → Key String :=
  match filled guestId with
  | some guest => put (put userRooms ownerId {}) guest {}
  | none => put userRooms ownerId {}

theorem evalRoomLeave_cases (roomId userId : String) (s : Store) :
    evalRoomLeave roomId userId s = (.missing, s) ∨
    ((s.room roomId).roomId ≠ none ∧ (s.room roomId).ownerId = some userId ∧ ∃ codes,
      evalRoomLeave roomId userId s = (.owner, { s with
        rooms := put s.rooms roomId {}, codes := codes,
        userRooms := unmapBoth userId (s.room roomId).guestId s.userRooms })) ∨
    ((s.room roomId).roomId ≠ none ∧ (s.room roomId).ownerId ≠ some userId ∧
      (s.room roomId).guestId = some userId ∧
      evalRoomLeave roomId userId s = (.guest, guestLeft roomId userId s)) := by
  by_cases hroom : (s.room roomId).roomId = none
  · exact .inl (by simp [evalRoomLeave, hroom])
  by_cases howner : (s.room roomId).ownerId = some userId
  · refine .inr (.inl ⟨hroom, howner, (evalRoomLeave roomId userId s).2.codes, ?_⟩)
    cases hguest : filled (s.room roomId).guestId <;>
      simp [evalRoomLeave, unmapBoth, hroom, howner, hguest]
  by_cases hguest : (s.room roomId).guestId = some userId
  · refine .inr (.inr ⟨hroom, howner, hguest, ?_⟩)
    simp only [evalRoomLeave, hroom, howner, hguest, if_true, if_false]
    rfl
  · exact .inl (by simp [evalRoomLeave, hroom, howner, hguest])

/-- How a command changes the hash of the room `r`. -/
inductive RoomChange (r : String) (s : Store) : Cmd → Option RoomHash → Prop where
  | opened {hash : RoomHash} : RoomChange r s (.hsetRoom r hash) (some hash)
  | joined {userId : String} (h : Joins r userId s) :
      RoomChange r s (.roomJoin r userId)
        (some { s.room r with guestId := some userId, status := some .full })
  | left {userId : String} (hroom : (s.room r).roomId ≠ none)
      (howner : (s.room r).ownerId ≠ some userId) (hguest : (s.room r).guestId = some userId)
      (hreply : (evalRoomLeave r userId s).1 = .guest) :
      RoomChange r s (.roomLeave r userId)
        (some { s.room r with guestId := some "", status := some .waiting })
  | closed {userId : String} (hroom : (s.room r).roomId ≠ none)
      (howner : (s.room r).ownerId = some userId) (hreply : (evalRoomLeave r userId s).1 = .owner) :
      RoomChange r s (.roomLeave r userId) none
  | recorded {code matchId ownerId guestId : String} (hfresh : filled (s.room r).matchId = none) :
      RoomChange r s (.roomMatchDone r code matchId ownerId guestId)
        (some { s.room r with matchId := some matchId, status := some .matched })

theorem evalRoomLeave_guest {roomId userId : String} {s : Store}
    (h : (evalRoomLeave roomId userId s).1 = .guest) :
    evalRoomLeave roomId userId s = (.guest, guestLeft roomId userId s) := by
  rcases evalRoomLeave_cases roomId userId s with heq | ⟨-, -, codes, heq⟩ | ⟨-, -, -, heq⟩
  · rw [heq] at h
    cases h
  · rw [heq] at h
    cases h
  · exact heq

theorem peek_recorded {roomId code matchId ownerId guestId : String} {s : Store}
    (h : filled (s.room roomId).matchId = none) (r : String) :
    (evalRoomMatchDone roomId code matchId ownerId guestId s).2.peek r =
      if r = roomId then
        some { s.room roomId with matchId := some matchId, status := some .matched }
      else s.peek r := by
  unfold evalRoomMatchDone
  rw [h]
  simp only [Store.peek, Store.writeRoom, put]
  by_cases hr : r = roomId
  · subst hr
    simp only [if_true, Key.get_expire, Key.get_modify]
    rfl
  · simp only [hr, if_false]

/-- A recorded match is answered again, and nothing is written. -/
theorem evalRoomMatchDone_again {roomId code matchId ownerId guestId recorded : String} {s : Store}
    (h : filled (s.room roomId).matchId = some recorded) :
    evalRoomMatchDone roomId code matchId ownerId guestId s = (recorded, s) := by
  simp only [evalRoomMatchDone, h]

theorem roomJoin_change (r roomId userId : String) (s : Store) :
    (evalRoomJoin roomId userId s).2.peek r = s.peek r ∨
      RoomChange r s (.roomJoin roomId userId) ((evalRoomJoin roomId userId s).2.peek r) := by
  rcases evalRoomJoin_cases roomId userId s with ⟨h, heq⟩ | ⟨-, heq⟩
  · rw [heq]
    rw [peek_joined]
    split
    · next hr =>
      subst hr
      exact .inr (.joined h)
    · exact .inl rfl
  · rw [heq]
    exact .inl rfl

theorem roomLeave_change (r roomId userId : String) (s : Store) :
    (evalRoomLeave roomId userId s).2.peek r = s.peek r ∨
      RoomChange r s (.roomLeave roomId userId) ((evalRoomLeave roomId userId s).2.peek r) := by
  rcases evalRoomLeave_cases roomId userId s with h | ⟨hroom, howner, codes, h⟩ |
    ⟨hroom, howner, hguest, h⟩
  · rw [h]
    exact .inl rfl
  · have hreply := congrArg Prod.fst h
    rw [h]
    simp only [Store.peek, put]
    split
    · next hr =>
      subst hr
      exact .inr (.closed hroom howner hreply)
    · exact .inl rfl
  · have hreply := congrArg Prod.fst h
    rw [h]
    rw [peek_guestLeft]
    split
    · next hr =>
      subst hr
      exact .inr (.left hroom howner hguest hreply)
    · exact .inl rfl

theorem roomMatchDone_change (r roomId code matchId ownerId guestId : String) (s : Store) :
    (evalRoomMatchDone roomId code matchId ownerId guestId s).2.peek r = s.peek r ∨
      RoomChange r s (.roomMatchDone roomId code matchId ownerId guestId)
        ((evalRoomMatchDone roomId code matchId ownerId guestId s).2.peek r) := by
  cases h : filled (s.room roomId).matchId with
  | some recorded =>
    left
    rw [evalRoomMatchDone_again h]
  | none =>
    rw [peek_recorded h]
    split
    · next hr =>
      subst hr
      exact .inr (.recorded h)
    · exact .inl rfl

theorem peek_act (host : Host) {c : Cmd} (h : c.writesRooms = false) (s : Store) (r : String) :
    (act host c s).2.peek r = s.peek r := by
  rw [Store.peek, act_rooms host h, act_now]
  rfl

/-- **One step of a room.** -/
theorem act_room (host : Host) (r : String) (c : Cmd) (s : Store) :
    (act host c s).2.peek r = s.peek r ∨ RoomChange r s c ((act host c s).2.peek r) := by
  by_cases h : c.writesRooms = false
  · exact .inl (peek_act host h s r)
  · cases c with
    | hsetRoom roomId hash =>
      have hpeek : (act host (.hsetRoom roomId hash) s).2.peek r = _ := peek_writeRoom s roomId r _
      rw [hpeek]
      split
      · next hr =>
        subst hr
        exact .inr .opened
      · exact .inl rfl
    | expireRoom roomId =>
      left
      simp only [act, Store.peek, put]
      split
      · next hr => rw [hr, Key.get_expire]
      · rfl
    | roomJoin roomId userId => exact roomJoin_change r roomId userId s
    | roomLeave roomId userId => exact roomLeave_change r roomId userId s
    | roomMatchDone roomId code matchId ownerId guestId =>
      exact roomMatchDone_change r roomId code matchId ownerId guestId s
    | _ => exact absurd rfl h

theorem event_room (r : String) (hdo : (pool host).Does e) :
    e.after.peek r = e.before.peek r ∨
      Took host e ∧ RoomChange r e.before e.cmd (e.after.peek r) := by
  rcases took_or_kept hdo with htook | hkept
  · rcases act_room host r e.cmd e.before with hsame | hchange
    · left
      rw [htook, hsame]
    · right
      refine ⟨htook, ?_⟩
      rw [htook]
      exact hchange
  · left
    rw [hkept]

/-- The clock can only take a room away. -/
theorem peek_time (host : Host) (ms : Nat) (s : Store) (r : String) :
    ((pool host).env ms s).peek r = s.peek r ∨ ((pool host).env ms s).peek r = none :=
  Key.get_later (Nat.le_add_right _ _) _

/-! ## Every room is opened once -/

/-- Draws of a run give different UUIDs. -/
theorem draw_ne {newer older : List LobbyEvent} {draw draw' : LobbyEvent} {id id' : String}
    (hrun : Run host init (newer ++ draw :: older) s) (hdraw : draw.toCall = ⟨.randomUUID, some id⟩)
    (hmem : draw' ∈ older) (hdraw' : draw'.toCall = ⟨.randomUUID, some id'⟩) : id ≠ id' := by
  obtain ⟨hbefore, -, hdo⟩ := hrun.of_split
  obtain ⟨l₁, l₂, rfl⟩ := List.append_of_mem hmem
  have hdrawn := drawn_since hbefore
  have hid : id = host.uuid draw.before.drawn := (hdo.of_call hdraw).1
  obtain ⟨hid', hafter'⟩ := hbefore.of_split.2.2.of_call hdraw'
  have hid' : id' = host.uuid draw'.before.drawn := hid'
  have hnext : draw'.after.drawn = draw'.before.drawn + 1 := congrArg Store.drawn hafter'
  rw [hid, hid']
  intro heq
  have := host.uuid_injective heq
  omega

/-- The room an opening writes was drawn by the same request. -/
theorem draw_of_open {roomId : String} {hash : RoomHash} {pid : Nat}
    (hguard : Guard (own pid log) (.hsetRoom roomId hash)) : ∃ newer draw older,
      log = newer ++ draw :: older ∧ draw.pid = pid ∧ draw.toCall = ⟨.randomUUID, some roomId⟩ ∧
      ∀ c ∈ own pid newer, c.cmd.opens = false := by
  obtain ⟨newer, older, code, ownerId, expiresAt, hown, hopens, -⟩ := hguard
  obtain ⟨l₁, draw, l₂, rfl, hpid, hcall, -, hnewer⟩ := own_split hown
  exact ⟨l₁, draw, l₂, rfl, hpid, hcall, hnewer ▸ hopens⟩

/-- **A room is written anew at most once.** -/
theorem open_once {newer older : List LobbyEvent} {roomId : String} {hash : RoomHash}
    (hrun : Run host init (newer ++ e :: older) s) (he : e.cmd = .hsetRoom roomId hash) :
    ∀ e' ∈ older, ∀ hash', e'.cmd ≠ .hsetRoom roomId hash' := by
  intro e' hmem hash' he'
  obtain ⟨hbefore, hguard, -⟩ := hrun.of_split
  rw [he] at hguard
  obtain ⟨l₁, draw, l₂, rfl, hpid, hdraw, hopens⟩ := draw_of_open hguard
  -- The other opening has a draw of its own, of the same id: the same draw.
  rcases List.mem_append.1 hmem with hmem | hmem
  · obtain ⟨m₁, m₂, rfl⟩ := List.append_of_mem hmem
    rw [List.append_assoc, List.cons_append] at hbefore
    obtain ⟨hbefore', hguard', -⟩ := hbefore.of_split
    rw [he'] at hguard'
    obtain ⟨n₁, draw', n₂, hlog, hpid', hdraw', -⟩ := draw_of_open hguard'
    have hmem' : draw' ∈ m₂ ++ draw :: l₂ := hlog ▸ by simp
    rcases List.mem_append.1 hmem' with hm | hm
    · obtain ⟨k₁, k₂, rfl⟩ := List.append_of_mem hm
      rw [List.append_assoc, List.cons_append] at hbefore'
      exact draw_ne hbefore' hdraw' (by simp) hdraw rfl
    · rcases List.mem_cons.1 hm with rfl | hm
      · have hown : e'.toCall ∈ own e.pid (m₁ ++ e' :: m₂) :=
          mem_own.2 ⟨e', by simp, hpid'.symm.trans hpid, rfl⟩
        have := hopens _ hown
        rw [he'] at this
        cases this
      · exact draw_ne hbefore' hdraw hm hdraw' rfl
  · rcases List.mem_cons.1 hmem with rfl | hmem
    · have := congrArg Call.cmd hdraw
      rw [he'] at this
      cases this
    · obtain ⟨m₁, m₂, rfl⟩ := List.append_of_mem hmem
      have hold := (hbefore.of_split).1
      obtain ⟨-, hguard', -⟩ := hold.of_split
      rw [he'] at hguard'
      obtain ⟨n₁, draw', n₂, rfl, -, hdraw', -⟩ := draw_of_open hguard'
      exact draw_ne hbefore hdraw (by simp) hdraw' rfl

/-! ## What every room keeps -/

/-- A lobby before its first request: no room, and a table of drawn ids. -/
structure Opening (host : Host) (init : Store) : Prop where
  rooms : ∀ roomId, init.rooms roomId = {}
  rows : Registered host init

theorem opening_empty (host : Host) : Opening host {} :=
  ⟨fun _ => rfl, ⟨List.nodup_nil, by simp⟩⟩

theorem Opening.peek (h : Opening host init) (roomId : String) : init.peek roomId = none := by
  simp [Store.peek, h.rooms]

/-- A room was opened by the step, or was there before, of the same owner. -/
theorem room_before {r : String} {hash : RoomHash} (hdo : (pool host).Does e)
    (hpeek : e.after.peek r = some hash) (hroom : hash.roomId ≠ none) : e.cmd = .hsetRoom r hash ∨
      ∃ old, e.before.peek r = some old ∧ old.roomId = hash.roomId ∧ old.ownerId = hash.ownerId := by
  rcases event_room r hdo with hsame | ⟨-, hchange⟩
  · exact .inr ⟨hash, hsame ▸ hpeek, rfl, rfl⟩
  · rw [hpeek] at hchange
    generalize e.cmd = c at hchange
    cases hchange with
    | opened => exact .inl rfl
    | joined => exact .inr ⟨_, peek_of_room hroom, rfl, rfl⟩
    | left => exact .inr ⟨_, peek_of_room hroom, rfl, rfl⟩
    | recorded => exact .inr ⟨_, peek_of_room hroom, rfl, rfl⟩

/-- A room lies at its own id, and was opened. -/
theorem room_named (hinit : Opening host init) (hrun : Run host init log s) {r : String}
    {hash : RoomHash} (hpeek : s.peek r = some hash) (hroom : hash.roomId ≠ none) :
    hash.roomId = some r ∧ ∃ e ∈ log, ∃ first, e.cmd = .hsetRoom r first := by
  induction hrun generalizing hash with
  | start =>
    rw [hinit.peek] at hpeek
    cases hpeek
  | @time log s ms _ ih =>
    rcases peek_time host ms s r with h | h <;> rw [h] at hpeek
    · exact ih hpeek hroom
    · cases hpeek
  | @call log e hrun hguard hdo ih =>
    rcases room_before hdo hpeek hroom with hcmd | ⟨old, hbefore, hid, -⟩
    · rw [hcmd] at hguard
      obtain ⟨-, -, code, ownerId, expiresAt, -, -, rfl, -⟩ := hguard
      exact ⟨rfl, e, List.mem_cons_self .., _, hcmd⟩
    · obtain ⟨hname, e', hmem, hopen⟩ := ih hbefore (hid ▸ hroom)
      exact ⟨hid ▸ hname, e', List.mem_cons_of_mem _ hmem, hopen⟩

/-- The id of a room is a drawn UUID. -/
theorem room_drawn (hinit : Opening host init) (hrun : Run host init log s) {roomId : String}
    {hash : RoomHash} (hpeek : s.peek roomId = some hash) (hroom : hash.roomId ≠ none) : ∃ n, roomId = host.uuid n := by
  obtain ⟨-, opening, hmem, first, hcmd⟩ := room_named hinit hrun hpeek hroom
  obtain ⟨l₁, l₂, rfl⟩ := List.append_of_mem hmem
  obtain ⟨hrun', hguard, -⟩ := hrun.of_split
  rw [hcmd] at hguard
  obtain ⟨m₁, draw, m₂, rfl, -, hdraw, -⟩ := draw_of_open hguard
  exact ⟨draw.before.drawn, (hrun'.of_split.2.2.of_call hdraw).1⟩

/-- Once a room was seen, it is not opened again. -/
theorem not_reopened (hinit : Opening host init) {newer older : List LobbyEvent} {r : String}
    {hash : RoomHash} (hrun : Run host init (newer ++ e :: older) s)
    (hpeek : e.before.peek r = some hash) (hroom : hash.roomId ≠ none) :
    ∀ e' ∈ newer ++ [e], ∀ first, e'.cmd ≠ .hsetRoom r first := by
  intro e' hmem first hcmd
  obtain ⟨-, opening, hold, hash', hopen⟩ := room_named hinit hrun.of_split.1 hpeek hroom
  rcases List.mem_append.1 hmem with hmem | hmem
  · obtain ⟨l₁, l₂, rfl⟩ := List.append_of_mem hmem
    rw [List.append_assoc, List.cons_append] at hrun
    exact open_once hrun hcmd opening (by simp [hold]) hash' hopen
  · rw [List.mem_singleton] at hmem
    subst hmem
    exact open_once hrun hcmd opening hold hash' hopen

end AutoChess.Lobby
