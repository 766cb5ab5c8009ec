/-
The state machine of a room: its status says whether it has a guest and a
match. `room_leave.lua` and `room_match_done.lua` do not look at what the
other wrote, so the statuses can be trusted exactly in the runs in which
neither of them meets the other's room.
-/
import AutoChess.Lobby.RoomSteps

namespace AutoChess.Lobby

open AutoChess.Runtime Calls Expiring

variable {host : Host} {init s : Store} {log : List LobbyEvent} {e : LobbyEvent}

/-- The hash is a room's, and its status fits its guest and match. -/
structure RoomOk (hash : RoomHash) : Prop where
  room : hash.roomId ≠ none
  waiting : hash.status = some .waiting ↔ filled hash.guestId = none ∧ filled hash.matchId = none
  full : hash.status = some .full ↔ filled hash.guestId ≠ none ∧ filled hash.matchId = none
  matched : hash.status = some .matched ↔ filled hash.matchId ≠ none

/-- Every room key is that of a room in order. -/
def RoomsOk (s : Store) : Prop := ∀ roomId hash, s.peek roomId = some hash → RoomOk hash

/-- The call admits the user to the room. -/
def Admits (host : Host) (roomId userId : String) (e : LobbyEvent) : Prop :=
  e.cmd = .roomJoin roomId userId ∧ Joins roomId userId e.before ∧ Took host e

/-- The guest of the room leaves it. -/
def GuestLeaves (host : Host) (roomId userId : String) (e : LobbyEvent) : Prop :=
  e.cmd = .roomLeave roomId userId ∧ (evalRoomLeave roomId userId e.before).1 = .guest ∧ Took host e

/-- A call that takes effect admits no user without an id, lets no guest leave
a room whose match is recorded, and records no match where there is no room. -/
def Tidy (host : Host) (e : LobbyEvent) : Prop :=
  (∀ roomId, ¬ Admits host roomId "" e) ∧
  (∀ roomId userId, GuestLeaves host roomId userId e →
    filled (e.before.room roomId).matchId = none) ∧
  (∀ roomId code matchId ownerId guestId, e.cmd = .roomMatchDone roomId code matchId ownerId guestId →
    Took host e → (e.before.room roomId).roomId ≠ none)

/-- The laws of rooms over a run: every state is in order, two users are
admitted to a room only if a guest left in between, and a recorded match
stays. -/
structure RoomLaws (host : Host) (log : List LobbyEvent) (s : Store) : Prop where
  last : RoomsOk s
  states : ∀ e ∈ log, RoomsOk e.before ∧ RoomsOk e.after
  vacancy : ∀ newer mid older first second roomId userId userId',
    log = newer ++ second :: (mid ++ first :: older) → Admits host roomId userId first →
    Admits host roomId userId' second → ∃ e ∈ mid, ∃ guest, GuestLeaves host roomId guest e
  recorded : ∀ newer older e roomId hash hash', log = newer ++ e :: older →
    e.before.peek roomId = some hash → filled hash.matchId ≠ none → s.peek roomId = some hash' →
    hash'.matchId = hash.matchId ∧ hash'.status = some .matched

@[simp] theorem filled_none : filled none = none := rfl

@[simp] theorem filled_empty : filled (some "") = none := rfl

theorem filled_some {field : Option String} {v : String} (h : filled field = some v) :
    field = some v ∧ v ≠ "" := by
  rw [filled, Option.filter_eq_some_iff] at h
  exact ⟨h.1, by simpa using h.2⟩

theorem filled_of_ne {v : String} (h : v ≠ "") : filled (some v) = some v := by
  simp [filled, Option.filter, h]

/-- The match a request records has an id. -/
theorem done_matchId (hinit : Opening host init) (hrun : Run host init log s)
    {roomId matchId ownerId guestId : String} {pid : Nat}
    (h : DoneGuard (own pid log) roomId matchId ownerId guestId) : matchId ≠ "" := by
  cases h with
  | adopted hh _ _ hid =>
    obtain ⟨l₁, lookup, l₂, rfl, -, hcall, -⟩ := own_split hh
    have hreg := registered hinit.rows hrun.of_split.1
    obtain ⟨n, -, hrow⟩ := hreg.drawn _ (findActive_mem (found_row hrun hcall).1).1
    exact hid ▸ hrow ▸ host.uuid_ne_empty n
  | created hh _ hid =>
    obtain ⟨l₁, insert, l₂, rfl, -, hcall, -⟩ := own_split hh
    rw [← hid, (created_row hrun hcall).1]
    exact host.uuid_ne_empty _
  | read _ hview _ hid _ _ =>
    obtain ⟨_, -, rfl⟩ := Option.map_eq_some_iff.1 hview
    exact (filled_some hid).2

/-! ## One step -/

theorem newRoom_ok (roomId code ownerId : String) (expiresAt : Nat) :
    RoomOk (newRoom roomId code ownerId expiresAt) :=
  ⟨by simp [newRoom], by simp [newRoom], by simp [newRoom], by simp [newRoom]⟩

theorem RoomOk.joined {hash : RoomHash} {userId : String} (h : RoomOk hash)
    (hstatus : hash.status = some .waiting) (huser : userId ≠ "") :
    RoomOk { hash with guestId := some userId, status := some .full } := by
  have hmatch := (h.waiting.1 hstatus).2
  exact ⟨h.room, by simp [filled_of_ne huser], by simp [filled_of_ne huser, hmatch], by simp [hmatch]⟩

theorem RoomOk.left {hash : RoomHash} (h : RoomOk hash) (hmatch : filled hash.matchId = none) :
    RoomOk { hash with guestId := some "", status := some .waiting } :=
  ⟨h.room, by simp [hmatch], by simp, by simp [hmatch]⟩

theorem RoomOk.recorded {hash : RoomHash} {matchId : String} (h : RoomOk hash) (hid : matchId ≠ "") :
    RoomOk { hash with matchId := some matchId, status := some .matched } :=
  ⟨h.room, by simp [filled_of_ne hid], by simp [filled_of_ne hid], by simp [filled_of_ne hid]⟩

theorem roomsOk_time {s : Store} (h : RoomsOk s) (ms : Nat) : RoomsOk ((pool host).env ms s) := by
  intro roomId hash hpeek
  rcases peek_time host ms s roomId with heq | heq <;> rw [heq] at hpeek
  · exact h roomId hash hpeek
  · cases hpeek

theorem roomsOk_step (hinit : Opening host init) (hrun : Run host init log e.before)
    (hguard : Guard (own e.pid log) e.cmd) (hdo : (pool host).Does e) (htidy : Tidy host e)
    (h : RoomsOk e.before) : RoomsOk e.after := by
  intro roomId hash hpeek
  rcases event_room roomId hdo with hsame | ⟨htook, hchange⟩
  · exact h roomId hash (hsame ▸ hpeek)
  · rw [hpeek] at hchange
    generalize hcmd : e.cmd = c at hchange hguard
    have hold : (e.before.room roomId).roomId ≠ none → RoomOk (e.before.room roomId) :=
      fun hroom => h roomId _ (peek_of_room hroom)
    cases hchange with
    | opened =>
      obtain ⟨-, -, code, ownerId, expiresAt, -, -, rfl, -⟩ := hguard
      exact newRoom_ok ..
    | @joined userId hjoins =>
      refine (hold hjoins.room).joined hjoins.waiting fun heq => ?_
      subst heq
      exact htidy.1 roomId ⟨hcmd, hjoins, htook⟩
    | @left userId hroom _ _ hreply =>
      exact (hold hroom).left (htidy.2.1 roomId userId ⟨hcmd, hreply, htook⟩)
    | recorded =>
      exact (hold (htidy.2.2 roomId _ _ _ _ hcmd htook)).recorded (done_matchId hinit hrun hguard)

/-- A step that leaves every room in order was tidy. -/
theorem tidy_of_ok (hbefore : RoomsOk e.before) (hafter : RoomsOk e.after) : Tidy host e := by
  refine ⟨fun roomId ⟨hcmd, hjoins, htook⟩ => ?_, fun roomId userId ⟨hcmd, hreply, htook⟩ => ?_,
    fun roomId code matchId ownerId guestId hcmd htook hroom => ?_⟩
  · have hpeek : e.after.peek roomId = some { e.before.room roomId with
        guestId := some "", status := some .full } := by
      rw [htook, hcmd, act, evalRoomJoin_ok hjoins]
      exact (peek_joined ..).trans (if_pos rfl)
    exact ((hafter roomId _ hpeek).full.1 rfl).1 rfl
  · have hpeek : e.after.peek roomId = some { e.before.room roomId with
        guestId := some "", status := some .waiting } := by
      rw [htook, hcmd, act, evalRoomLeave_guest hreply]
      exact (peek_guestLeft ..).trans (if_pos rfl)
    exact ((hafter roomId _ hpeek).waiting.1 rfl).2
  · -- The key is gone, so the script writes one without a room.
    have hgone : e.before.peek roomId = none := by
      cases hpeek : e.before.peek roomId with
      | none => rfl
      | some hash =>
        rw [room_eq, hpeek] at hroom
        exact absurd hroom (hbefore roomId hash hpeek).room
    have hfresh : filled (e.before.room roomId).matchId = none := by simp [room_eq, hgone]
    have hpeek : e.after.peek roomId = some { e.before.room roomId with
        matchId := some matchId, status := some .matched } := by
      rw [htook, hcmd]
      exact (peek_recorded hfresh roomId).trans (if_pos rfl)
    exact (hafter roomId _ hpeek).room hroom

/-! ## Runs -/

/-- **Every state of a tidy run is in order.** -/
theorem rooms_ok (hinit : Opening host init) (hrun : Run host init log s)
    (htidy : Meets (fun _ e => Tidy host e) log) : RoomsOk s := by
  induction hrun with
  | start =>
    intro roomId hash hpeek
    rw [hinit.peek] at hpeek
    cases hpeek
  | time ms _ ih => exact roomsOk_time (ih htidy) ms
  | call hrun hguard hdo ih => exact roomsOk_step hinit hrun hguard hdo htidy.1 (ih htidy.2)

/-- A tidy step keeps a recorded match. -/
theorem recorded_step {roomId : String} {matchId : Option String} (hdo : (pool host).Does e)
    (htidy : Tidy host e) (hopen : ∀ first, e.cmd ≠ .hsetRoom roomId first)
    (hid : filled matchId ≠ none)
    (h : ∀ hash, e.before.peek roomId = some hash →
      hash.matchId = matchId ∧ hash.status = some .matched) :
    ∀ hash, e.after.peek roomId = some hash → hash.matchId = matchId ∧ hash.status = some .matched := by
  intro hash hpeek
  rcases event_room roomId hdo with hsame | ⟨htook, hchange⟩
  · exact h hash (hsame ▸ hpeek)
  · rw [hpeek] at hchange
    generalize hcmd : e.cmd = c at hchange
    have hold := fun hroom => h (e.before.room roomId) (peek_of_room hroom)
    cases hchange with
    | opened => exact absurd hcmd (hopen _)
    | joined hjoins =>
      have := (hold hjoins.room).2
      rw [hjoins.waiting] at this
      cases this
    | @left userId hroom _ _ hreply =>
      have hnone := htidy.2.1 roomId userId ⟨hcmd, hreply, htook⟩
      rw [(hold hroom).1] at hnone
      exact absurd hnone hid
    | recorded hfresh =>
      rw [(hold (htidy.2.2 roomId _ _ _ _ hcmd htook)).1] at hfresh
      exact absurd hfresh hid

/-- **A recorded match stays** for as long as the room is there. -/
theorem recorded_since (hinit : Opening host init) {newer older : List LobbyEvent} {roomId : String}
    {hash : RoomHash} (hrun : Run host init (newer ++ e :: older) s)
    (htidy : Meets (fun _ e => Tidy host e) (newer ++ e :: older))
    (hpeek : e.before.peek roomId = some hash) (hid : filled hash.matchId ≠ none) :
    ∀ hash', s.peek roomId = some hash' →
      hash'.matchId = hash.matchId ∧ hash'.status = some .matched := by
  obtain ⟨hrun₀, hguard₀, hdo₀⟩ := hrun.of_split
  have hok := rooms_ok hinit hrun₀ htidy.of_append.2 roomId hash hpeek
  revert htidy
  refine hrun.since_induction (motive := fun newer s =>
    Meets (fun _ e => Tidy host e) (newer ++ e :: older) → ∀ hash', s.peek roomId = some hash' →
      hash'.matchId = hash.matchId ∧ hash'.status = some .matched) ?_ ?_ ?_
  · intro htidy
    have hrun₁ : Run host init ([] ++ e :: older) e.after := hrun₀.call hguard₀ hdo₀
    refine recorded_step hdo₀ htidy.1 (not_reopened hinit hrun₁ hpeek hok.room e (by simp)) hid ?_
    intro hash' hpeek'
    rw [hpeek] at hpeek'
    cases hpeek'
    exact ⟨rfl, hok.matched.2 hid⟩
  · intro newer s ms ih htidy hash' hpeek'
    rcases peek_time host ms s roomId with h | h <;> rw [h] at hpeek'
    · exact ih htidy hash' hpeek'
    · cases hpeek'
  · intro newer e' hrun' hguard' hdo' ih htidy
    have hrun₁ : Run host init ((e' :: newer) ++ e :: older) e'.after := hrun'.call hguard' hdo'
    exact recorded_step hdo' htidy.1 (not_reopened hinit hrun₁ hpeek hok.room e' (by simp)) hid
      (ih htidy.2)

/-- Since a user was admitted, a guest left or the seat is taken. -/
theorem seat_since (hinit : Opening host init) {newer older : List LobbyEvent} {roomId userId : String}
    (hrun : Run host init (newer ++ e :: older) s)
    (htidy : Meets (fun _ e => Tidy host e) (newer ++ e :: older)) (hadm : Admits host roomId userId e) :
    (∃ e' ∈ newer, ∃ guest, GuestLeaves host roomId guest e') ∨
      ∀ hash, s.peek roomId = some hash → filled hash.guestId ≠ none := by
  obtain ⟨hcmd, hjoins, htook⟩ := hadm
  revert htidy
  refine hrun.since_induction (motive := fun newer s =>
    Meets (fun _ e => Tidy host e) (newer ++ e :: older) →
      (∃ e' ∈ newer, ∃ guest, GuestLeaves host roomId guest e') ∨
        ∀ hash, s.peek roomId = some hash → filled hash.guestId ≠ none) ?_ ?_ ?_
  · intro htidy
    right
    intro hash hpeek
    have huser : userId ≠ "" := fun heq => htidy.1.1 roomId ⟨heq ▸ hcmd, heq ▸ hjoins, htook⟩
    rw [htook, hcmd, act, evalRoomJoin_ok hjoins] at hpeek
    rw [show Store.peek _ roomId = _ from peek_joined .., if_pos rfl] at hpeek
    cases hpeek
    simp [filled_of_ne huser]
  · intro newer s ms ih htidy
    refine (ih htidy).imp_right fun hseat hash hpeek => ?_
    rcases peek_time host ms s roomId with h | h <;> rw [h] at hpeek
    · exact hseat hash hpeek
    · cases hpeek
  · intro newer e' hrun' hguard' hdo' ih htidy
    rcases ih htidy.2 with ⟨leave, hmem, hleave⟩ | hseat
    · exact .inl ⟨leave, List.mem_cons_of_mem _ hmem, hleave⟩
    rcases event_room roomId hdo' with hsame | ⟨htook', hchange⟩
    · exact .inr fun hash hpeek => hseat hash (hsame ▸ hpeek)
    · have hrun₁ : Run host init ((e' :: newer) ++ e :: older) e'.after := hrun'.call hguard' hdo'
      have hopen := not_reopened hinit hrun₁ (peek_of_room hjoins.room) hjoins.room e' (by simp)
      generalize hcmd' : e'.cmd = c at hchange
      generalize e'.after.peek roomId = after at hchange
      cases hchange with
      | opened => exact absurd hcmd' (hopen _)
      | @joined userId' hjoins' =>
        refine .inr fun hash hpeek => ?_
        cases hpeek
        have huser : userId' ≠ "" := fun heq => htidy.1.1 roomId ⟨heq ▸ hcmd', heq ▸ hjoins', htook'⟩
        simp [filled_of_ne huser]
      | @left guest hroom _ _ hreply =>
        exact .inl ⟨e', List.mem_cons_self .., guest, hcmd', hreply, htook'⟩
      | closed => exact .inr fun hash hpeek => by cases hpeek
      | recorded =>
        refine .inr fun hash hpeek => ?_
        cases hpeek
        exact hseat (e'.before.room roomId) (peek_of_room (htidy.1.2.2 roomId _ _ _ _ hcmd' htook'))

/-- **The laws of rooms hold exactly in the tidy runs.** From a lobby without
rooms, in every run: all states, all admissions and all recorded matches obey
the laws if and only if every step is tidy. -/
theorem room_laws (host : Host) (init : Store) (hinit : Opening host init)
    (moves : List (Move Request Nat)) :
    RoomLaws host ((pool host).run ⟨init, [], []⟩ moves).log
      ((pool host).run ⟨init, [], []⟩ moves).store ↔
    Meets (fun _ e => Tidy host e) ((pool host).run ⟨init, [], []⟩ moves).log := by
  have hrun := run_of_moves host init moves
  generalize ((pool host).run ⟨init, [], []⟩ moves).log = log at hrun
  generalize ((pool host).run ⟨init, [], []⟩ moves).store = s at hrun
  constructor
  · rintro ⟨-, hstates, -, -⟩
    clear hrun
    induction log with
    | nil => trivial
    | cons e log ih =>
      obtain ⟨⟨hbefore, hafter⟩, hold⟩ := List.forall_mem_cons.1 hstates
      exact ⟨tidy_of_ok hbefore hafter, ih hold⟩
  · intro htidy
    refine ⟨rooms_ok hinit hrun htidy, ?_, ?_, ?_⟩
    · intro e hmem
      obtain ⟨newer, older, rfl⟩ := List.append_of_mem hmem
      obtain ⟨hbefore, hguard, hdo⟩ := hrun.of_split
      have hmeets := htidy.of_append
      have hok := rooms_ok hinit hbefore hmeets.2
      exact ⟨hok, roomsOk_step hinit hbefore hguard hdo hmeets.1 hok⟩
    · rintro newer mid older first second roomId userId userId' rfl hfirst ⟨hcmd, hjoins, -⟩
      have hrun' := hrun.of_split.1
      have htidy' := htidy.of_append.2
      refine (seat_since hinit hrun' htidy' hfirst).resolve_right fun hseat => ?_
      exact hseat _ (peek_of_room hjoins.room) hjoins.free
    · rintro newer older e roomId hash hash' rfl hpeek hid hpeek'
      exact recorded_since hinit hrun htidy hpeek hid hash' hpeek'

/-! ## A leave that lands late -/

/-- The owner opens a room and a guest joins it. -/
def filling : List (Move Request Nat) :=
  [.start (.createRoom "ann")] ++ answers 0 10 ++ [.start (.joinRoom "bob" "ABC234")] ++ answers 1 7

/-- The guest's leave has read the mapping when the owner starts the match;
its script runs after the match is recorded. -/
def leavingLate : List (Move Request Nat) :=
  filling ++ [.start (.leaveRoom "bob")] ++ answers 2 2 ++ [.start (.startRoom "ann")] ++ answers 3 22 ++
    answers 2 1

set_option maxRecDepth 100000 in
theorem room_laws_late : ¬ RoomLaws plainHost (lobby {} leavingLate).log (lobby {} leavingLate).store := by
  intro hlaws
  have hview : ((lobby {} leavingLate).store.peek "u").map (fun hash => (hash.status, filled hash.matchId)) =
      some (some .waiting, some "uuuu") := by decide
  obtain ⟨hash, hpeek, hhash⟩ := Option.map_eq_some_iff.1 hview
  obtain ⟨hstatus, hmatch⟩ := Prod.mk.inj hhash
  have hnone := ((hlaws.last "u" hash hpeek).waiting.1 hstatus).2
  rw [hmatch] at hnone
  cases hnone

/-- The guest leaves before the start, another joins, and the owner starts the
match. -/
def handingOff : List (Move Request Nat) :=
  filling ++ [.start (.leaveRoom "bob")] ++ answers 2 5 ++ [.start (.joinRoom "cid" "ABC234")] ++ answers 3 7 ++
    [.start (.startRoom "ann")] ++ answers 4 22

/-- A join of a user with an id, a leave of a room without a match, or a record
where there is a room. -/
def tidyCall (e : LobbyEvent) : Bool :=
  match e.cmd with
  | .roomJoin _ userId => userId ≠ ""
  | .roomLeave roomId _ => filled (e.before.room roomId).matchId = none
  | .roomMatchDone roomId _ _ _ _ => (e.before.room roomId).roomId ≠ none
  | _ => true

theorem tidy_of_call (h : tidyCall e = true) : Tidy host e := by
  refine ⟨fun roomId hadmits => ?_, fun roomId userId hleaves => ?_, fun roomId code matchId ownerId guestId hcmd _ => ?_⟩
  · simp [tidyCall, hadmits.1] at h
  · simpa [tidyCall, hleaves.1] using h
  · simpa [tidyCall, hcmd] using h

set_option maxRecDepth 100000 in
theorem room_laws_handingOff : RoomLaws plainHost (lobby {} handingOff).log (lobby {} handingOff).store ∧
    ((lobby {} handingOff).store.peek "u").map (fun hash => (hash.guestId, hash.status, filled hash.matchId)) =
      some (some "cid", some .matched, some "uuuu") := by
  have htidy : ∀ e ∈ (lobby {} handingOff).log, tidyCall e = true := by decide +kernel
  refine ⟨(room_laws plainHost {} (opening_empty plainHost) handingOff).2 ?_, by decide +kernel⟩
  exact Meets.of_mem fun _ e hmem => tidy_of_call (htidy e hmem)

end AutoChess.Lobby
