/-
Convergence of the triggers. On a full room that nobody leaves, with no
failing call and no expiry, the first record is of a match that the one
claimer created, and every trigger is answered that match or told to retry;
the one way out is a trigger that read the room before the record and claims
after it.
-/
import AutoChess.Lobby.Leaving
import AutoChess.Lobby.Triggers

namespace AutoChess.Lobby

open AutoChess.Runtime Calls Expiring

variable {host : Host} {init s : Store} {log : List LobbyEvent} {e : LobbyEvent}
  {roomId ownerId guestId matchId : String}

/-- The hash of a room with both players, full or matched. -/
structure Seated (hash : RoomHash) : Prop where
  room : hash.roomId ≠ none
  status : hash.status = some .full ∨ hash.status = some .matched
  owner : filled hash.ownerId ≠ none
  guest : filled hash.guestId ≠ none

/-- A call of `startRoomMatch` on the room, or of its handoff. -/
def OfTrigger (roomId : String) (e : LobbyEvent) : Prop :=
  e.request = .startRoomMatch roomId ∨ (∃ token, e.cmd = .roomStartMatch roomId token) ∨
    ∃ code matchId ownerId guestId, e.cmd = .roomMatchDone roomId code matchId ownerId guestId

/-- A step that does not disturb the room: its call is answered, nobody leaves
the room, the triggers find it full or matched, and a claim has not expired
before its match is recorded. -/
structure Undisturbed (host : Host) (roomId : String) (log : List LobbyEvent) (e : LobbyEvent) :
    Prop where
  answered : e.reply ≠ none
  stays : ∀ userId, e.cmd = .roomLeave roomId userId →
    (evalRoomLeave roomId userId e.before).1 = .missing
  seated : OfTrigger roomId e → Seated (e.before.room roomId)
  held : (∃ claim ∈ log, ∃ ownerId guestId, Claims roomId ownerId guestId claim) →
    (∃ d ∈ log, Records host roomId d) ∨ (e.before.handoffs roomId).get e.before.now ≠ none

/-- The call records the match of a room that has none. -/
def Fills (host : Host) (roomId : String) (e : LobbyEvent) : Prop :=
  Records host roomId e ∧ filled (e.before.room roomId).matchId = none

/-- No match fills the room between its read by `startRoomMatch` and the claim,
and the players of a claim are in no match yet. -/
structure Timely (host : Host) (roomId : String) (log : List LobbyEvent) (e : LobbyEvent) : Prop where
  read : ∀ token newer read older, e.request = .startRoomMatch roomId → e.cmd = .roomStartMatch roomId token →
    log = newer ++ read :: older → read.pid = e.pid → read.cmd = .hgetallRoom roomId →
    ∀ d ∈ newer, ¬ Fills host roomId d
  free : ∀ userId ownerId guestId, e.cmd = .findActiveByUserId userId →
    Claimed (own e.pid log) roomId ownerId guestId → findActive userId e.before = none

/-! ## The record -/

/-- Once a match is recorded in a room nobody leaves, it stays. -/
theorem matched_since (hinit : Opening host init) {newer older : List LobbyEvent} {code : String}
    (hrun : Run host init (newer ++ e :: older) s)
    (hcalm : Meets (Undisturbed host roomId) (newer ++ e :: older))
    (hcmd : e.cmd = .roomMatchDone roomId code matchId ownerId guestId) (htook : Took host e)
    (hfresh : filled (e.before.room roomId).matchId = none)
    (hroom : (e.before.room roomId).roomId ≠ none) (hid : matchId ≠ "") :
    ∀ hash, s.peek roomId = some hash → hash.roomId ≠ none →
      hash.matchId = some matchId ∧ hash.status = some .matched := by
  revert hcalm
  refine hrun.since_induction (motive := fun newer s =>
    Meets (Undisturbed host roomId) (newer ++ e :: older) → ∀ hash, s.peek roomId = some hash →
      hash.roomId ≠ none → hash.matchId = some matchId ∧ hash.status = some .matched) ?_ ?_ ?_
  · intro _ hash hpeek _
    have hafter : e.after = (evalRoomMatchDone roomId code matchId ownerId guestId e.before).2 := by
      rw [htook, hcmd]
      rfl
    rw [hafter, peek_recorded hfresh, if_pos rfl] at hpeek
    cases hpeek
    exact ⟨rfl, rfl⟩
  · intro newer s ms ih hcalm hash hpeek
    rcases peek_time host ms s roomId with h | h <;> rw [h] at hpeek
    · exact ih hcalm hash hpeek
    · cases hpeek
  · intro newer e' hrun' hguard' hdo' ih hcalm hash hpeek hthere
    have hold := ih hcalm.2
    rcases event_room roomId hdo' with hsame | ⟨htook', hchange⟩
    · exact hold hash (hsame ▸ hpeek) hthere
    · have hrun₁ : Run host init ((e' :: newer) ++ e :: older) e'.after := hrun'.call hguard' hdo'
      have hopen := not_reopened hinit hrun₁ (peek_of_room hroom) hroom e' (by simp)
      rw [hpeek] at hchange
      generalize hcmd' : e'.cmd = c at hchange
      cases hchange with
      | opened => exact absurd hcmd' (hopen _)
      | joined hjoins =>
        have hstatus := (hold _ (peek_of_room hjoins.room) hjoins.room).2
        rw [hjoins.waiting] at hstatus
        cases hstatus
      | @left userId _ _ _ hreply =>
        rw [hcalm.1.stays userId hcmd'] at hreply
        cases hreply
      | recorded hnone =>
        have hmatch := (hold (e'.before.room roomId) (peek_of_room hthere) hthere).1
        rw [hmatch, filled_of_ne hid] at hnone
        cases hnone

/-- **The first record** of a room is of the match its own request created, for
the two players of its claim. -/
theorem first_record (hinit : Opening host init) (hrun : Run host init log s)
    (htimely : Meets (Timely host roomId) log) (hrec : ∃ d ∈ log, Records host roomId d) :
    ∃ newer d older code matchId ownerId guestId, log = newer ++ d :: older ∧
      d.cmd = .roomMatchDone roomId code matchId ownerId guestId ∧ Took host d ∧
      (∀ d' ∈ older, ¬ Records host roomId d') ∧ ∃ mid insert before seed p1 p2 row,
        older = mid ++ insert :: before ∧ insert.pid = d.pid ∧ row.id = matchId ∧
        insert.toCall = ⟨.createMatch ownerId guestId seed p1 p2, some row⟩ ∧
        Claimed (own insert.pid before) roomId ownerId guestId := by
  obtain ⟨newer, d, older, rfl, ⟨code, matchId, ownerId, guestId, hcmd, htook⟩, hfirst⟩ :=
    exists_oldest hrec
  obtain ⟨hrun', hguard, hdo⟩ := hrun.of_split
  rw [hcmd] at hguard
  refine ⟨newer, d, older, code, matchId, ownerId, guestId, rfl, hcmd, htook, hfirst, ?_⟩
  cases hguard with
  | @adopted userId row _ _ hh hclaim _ _ =>
    obtain ⟨l₁, lookup, l₂, rfl, hpid, hcall, hown, -⟩ := own_split hh
    have hnone := (htimely.of_append.2.of_append.1).free userId ownerId guestId
      (congrArg Call.cmd hcall) (by rw [hpid, hown]; exact hclaim)
    rw [(found_row hrun' hcall).1] at hnone
    cases hnone
  | @created seed p1 p2 row _ _ hh hclaim hid =>
    obtain ⟨l₁, insert, l₂, rfl, hpid, hcall, hown, -⟩ := own_split hh
    exact ⟨l₁, insert, l₂, seed, p1, p2, row, rfl, hpid, hid, hcall, by rw [hpid, hown]; exact hclaim⟩
  | @read key hash view hread hview hroom hid howner hguest =>
    -- The match read was recorded earlier.
    obtain ⟨read, hmem, -, hcall⟩ := mem_own.1 hread
    obtain ⟨l₁, l₂, rfl⟩ := List.append_of_mem hmem
    obtain ⟨hrun₀, -, hpeek, hthere, hname⟩ := view_read hinit hrun' rfl hcall hview
    obtain rfl : key = roomId := hname.symm.trans hroom
    obtain ⟨name, -, rfl⟩ := Option.map_eq_some_iff.1 hview
    have hid : filled hash.matchId = some matchId := hid
    obtain ⟨d', hmem', hrec'⟩ := recorded_before hinit hrun₀ hpeek (.inr (by simp [hid]))
    exact absurd hrec' (hfirst d' (by simp [hmem']))

/-- The first record of a room fills it. -/
theorem first_fills (hinit : Opening host init) {newer older : List LobbyEvent} {d : LobbyEvent} {code : String}
    (hrun : Run host init (newer ++ d :: older) s)
    (hcmd : d.cmd = .roomMatchDone roomId code matchId ownerId guestId) (htook : Took host d)
    (hfirst : ∀ d' ∈ older, ¬ Records host roomId d') : Fills host roomId d := by
  refine ⟨⟨code, matchId, ownerId, guestId, hcmd, htook⟩, ?_⟩
  cases hcase : filled (d.before.room roomId).matchId with
  | none => rfl
  | some old =>
    obtain ⟨d', hmem, hrec⟩ := recorded_before hinit hrun.of_split.1 (peek_of_filled hcase) (.inr (by simp [hcase]))
    exact absurd hrec (hfirst d' hmem)

/-- **Whatever is answered as the room's match** is the one recorded first. -/
theorem answered_match (hinit : Opening host init) (hrun : Run host init log s)
    (hcalm : Meets (Undisturbed host roomId) log) {newer older : List LobbyEvent} {d : LobbyEvent}
    {code : String} (hlog : log = newer ++ d :: older)
    (hcmd : d.cmd = .roomMatchDone roomId code matchId ownerId guestId) (htook : Took host d)
    (hfirst : ∀ d' ∈ older, ¬ Records host roomId d') :
    (∀ newer' e older', log = newer' ++ e :: older' → d ∈ older' → Seated (e.before.room roomId) →
      filled (e.before.room roomId).matchId = some matchId ∧
        (e.before.room roomId).status = some .matched) ∧
    ∀ e ∈ log, ∀ code matchId' ownerId guestId recorded,
      e.toCall = ⟨.roomMatchDone roomId code matchId' ownerId guestId, some recorded⟩ →
      recorded = matchId := by
  have hrun₀ : Run host init (newer ++ d :: older) s := hlog ▸ hrun
  have hcalm₀ : Meets (Undisturbed host roomId) (newer ++ d :: older) := hlog ▸ hcalm
  obtain ⟨hrun', hguard', hdo'⟩ := hrun₀.of_split
  have hseated := hcalm₀.of_append.1.seated (.inr (.inr ⟨_, _, _, _, hcmd⟩))
  have hid : matchId ≠ "" := by
    rw [hcmd] at hguard'
    exact done_matchId hinit hrun' hguard'
  have hfresh : filled (d.before.room roomId).matchId = none := (first_fills hinit hrun₀ hcmd htook hfirst).2
  have hkept : ∀ newer' e older', log = newer' ++ e :: older' → d ∈ older' →
      Seated (e.before.room roomId) → filled (e.before.room roomId).matchId = some matchId ∧
        (e.before.room roomId).status = some .matched := by
    rintro newer' e older' heq hmem hroom
    rcases split_cases (hlog.symm.trans heq) with ⟨-, -, rfl⟩ | ⟨mid, rfl, -⟩ | ⟨mid, rfl, -⟩
    · exact absurd ⟨_, _, _, _, hcmd, htook⟩ (hfirst d hmem)
    · exact absurd ⟨_, _, _, _, hcmd, htook⟩ (hfirst d (by simp [hmem]))
    · have hrun₁ : Run host init (newer' ++ e :: (mid ++ d :: older)) s := heq ▸ hrun
      have hcalm₁ : Meets (Undisturbed host roomId) (newer' ++ e :: (mid ++ d :: older)) := heq ▸ hcalm
      obtain ⟨hmatch, hstatus⟩ := matched_since hinit hrun₁.of_split.1 hcalm₁.of_append.2 hcmd htook hfresh
        hseated.room hid _ (peek_of_room hroom.room) hroom.room
      exact ⟨by rw [hmatch, filled_of_ne hid], hstatus⟩
  refine ⟨hkept, fun e hmem code' matchId' ownerId' guestId' recorded hcall => ?_⟩
  obtain ⟨l₁, l₂, heq⟩ := List.append_of_mem hmem
  have hrun₁ : Run host init (l₁ ++ e :: l₂) s := heq ▸ hrun
  obtain ⟨hreply, hafter⟩ := hrun₁.of_split.2.2.of_call hcall
  have hreply : recorded =
      (evalRoomMatchDone roomId code' matchId' ownerId' guestId' e.before).1 := hreply
  have hcmd' : e.cmd = .roomMatchDone roomId code' matchId' ownerId' guestId' := congrArg Call.cmd hcall
  have htook' : Took host e := by
    rw [Took, hcmd']
    exact hafter
  rcases split_cases (hlog.symm.trans heq) with ⟨-, rfl, -⟩ | ⟨mid, rfl, -⟩ | ⟨mid, rfl, -⟩
  · rw [hcmd] at hcmd'
    cases hcmd'
    rw [hreply]
    simp only [evalRoomMatchDone, hfresh]
  · exact absurd ⟨_, _, _, _, hcmd', htook'⟩ (hfirst e (by simp))
  · have hcalm₁ : Meets (Undisturbed host roomId) (l₁ ++ e :: (mid ++ d :: older)) := heq ▸ hcalm
    have hroom := hcalm₁.of_append.1.seated (.inr (.inr ⟨_, _, _, _, hcmd'⟩))
    rw [hreply, evalRoomMatchDone_again (hkept l₁ e _ heq (by simp) hroom).1]

/-! ## The claim -/

/-- A claim is granted when the handoff is not held. -/
theorem claims_unheld (hdo : (pool host).Does e) (hclaim : Claims roomId ownerId guestId e) :
    (e.before.handoffs roomId).get e.before.now = none := by
  obtain ⟨token, hcall⟩ := hclaim
  have hreply : ClaimReply.claimed ownerId guestId = (evalRoomStartMatch roomId token e.before).1 :=
    (hdo.of_call hcall).1
  cases hheld : (e.before.handoffs roomId).get e.before.now with
  | none => rfl
  | some holder =>
    simp only [evalRoomStartMatch, setNX, hheld] at hreply
    split at hreply
    · cases hreply
    · split at hreply
      · cases hreply
      · split at hreply <;> cases hreply

/-- **The handoff is claimed once.** -/
theorem claim_once (hinit : Opening host init) (hrun : Run host init log s)
    (hcalm : Meets (Undisturbed host roomId) log) (htimely : Meets (Timely host roomId) log)
    {newer mid older : List LobbyEvent} {claim claim' : LobbyEvent} {owner guest : String}
    (hlog : log = newer ++ claim' :: (mid ++ claim :: older)) (hclaim : Claims roomId ownerId guestId claim) :
    ¬ Claims roomId owner guest claim' := by
  intro hclaim'
  subst hlog
  obtain ⟨hrun', -, hdo'⟩ := hrun.of_split
  have hbefore := hcalm.of_append
  rcases hbefore.1.held ⟨claim, by simp, _, _, hclaim⟩ with hrec | hheld
  · obtain ⟨n, d, o, code, matchId, owner', guest', heq, hcmd, htook, hfirst, -⟩ :=
      first_record hinit hrun' htimely.of_append.2 hrec
    have hseated := hbefore.1.seated (.inr (.inl (hclaim'.imp fun _ h => congrArg Call.cmd h)))
    have hlog : newer ++ claim' :: (mid ++ claim :: older) = (newer ++ claim' :: n) ++ d :: o := by
      simp [heq]
    have hstatus := ((answered_match hinit hrun hcalm hlog hcmd htook hfirst).1 newer claim' _ rfl
      (by simp [heq]) hseated).2
    have hfull := (claims_room hdo' hclaim').2.2.1
    rw [hstatus] at hfull
    cases hfull
  · exact hheld (claims_unheld hdo' hclaim')

theorem claimed_pid (hinit : Opening host init) (hrun : Run host init log s)
    (hcalm : Meets (Undisturbed host roomId) log) (htimely : Meets (Timely host roomId) log)
    {pid pid' : Nat} {owner guest : String} (h : Claimed (own pid log) roomId ownerId guestId)
    (h' : Claimed (own pid' log) roomId owner guest) : pid = pid' := by
  obtain ⟨l₁, claim, l₂, hlog, hpid, hclaim⟩ := claim_event h
  obtain ⟨m₁, claim', m₂, hlog', hpid', hclaim'⟩ := claim_event h'
  rcases split_cases (hlog.symm.trans hlog') with ⟨-, rfl, -⟩ | ⟨mid, rfl, -⟩ | ⟨mid, rfl, -⟩
  · rw [← hpid, ← hpid']
  · exact absurd hclaim (claim_once hinit hrun hcalm htimely hlog hclaim')
  · exact absurd hclaim' (claim_once hinit hrun hcalm htimely hlog' hclaim)

/-- **At most one match is created in the room's handoff.** -/
theorem insert_once (hinit : Opening host init) (hrun : Run host init log s)
    (hcalm : Meets (Undisturbed host roomId) log) (htimely : Meets (Timely host roomId) log)
    {newer mid older : List LobbyEvent} {insert insert' : LobbyEvent} {p1 p2 p1' p2' : String}
    (hlog : log = newer ++ insert' :: (mid ++ insert :: older))
    (h : Inserts host older roomId p1 p2 insert) :
    ¬ Inserts host (mid ++ insert :: older) roomId p1' p2' insert' := by
  intro h'
  obtain ⟨⟨owner, guest, hclaim⟩, seed, s1, s2, hcmd, -⟩ := h
  obtain ⟨⟨owner', guest', hclaim'⟩, seed', s1', s2', hcmd', -⟩ := h'
  subst hlog
  have hclaim : Claimed (own insert.pid (newer ++ insert' :: (mid ++ insert :: older))) roomId owner guest := by
    have := hclaim.of_own (newer ++ insert' :: (mid ++ [insert]))
    simpa using this
  have hclaim' : Claimed (own insert'.pid (newer ++ insert' :: (mid ++ insert :: older))) roomId owner' guest' := by
    have := hclaim'.of_own (newer ++ [insert'])
    simpa using this
  have hpid := claimed_pid hinit hrun hcalm htimely hclaim hclaim'
  have hguard := hrun.of_split.2.1
  rw [hcmd'] at hguard
  have hmem : insert.toCall ∈ own insert'.pid (mid ++ insert :: older) :=
    mem_own.2 ⟨insert, by simp, hpid, rfl⟩
  have hfirst := hguard.first _ hmem
  rw [show insert.toCall.cmd = _ from hcmd] at hfirst
  cases hfirst

/-- Only a claim makes a handoff held. -/
theorem act_handoffs (host : Host) (c : Cmd) (s : Store) (roomId : String) :
    (act host c s).2.handoffs roomId = s.handoffs roomId ∨ (act host c s).2.handoffs roomId = {} ∨
      ∃ token ownerId guestId, c = .roomStartMatch roomId token ∧
        (evalRoomStartMatch roomId token s).1 = .claimed ownerId guestId := by
  cases c with
  | roomJoin room userId =>
    rcases evalRoomJoin_cases room userId s with ⟨-, heq⟩ | ⟨-, heq⟩
    · exact .inl (by simp only [act, heq]; rfl)
    · exact .inl (by simp only [act, heq])
  | roomLeave room userId =>
    rcases evalRoomLeave_cases room userId s with heq | ⟨-, -, codes, heq⟩ | ⟨-, -, -, heq⟩
    · exact .inl (by simp only [act, heq])
    · exact .inl (by simp only [act, heq])
    · exact .inl (by simp only [act, heq]; rfl)
  | roomStartMatch room token =>
    by_cases hroom : roomId = room
    · subst hroom
      cases hreply : (evalRoomStartMatch roomId token s).1 with
      | claimed ownerId guestId => exact .inr (.inr ⟨token, ownerId, guestId, rfl, hreply⟩)
      | _ =>
        left
        unfold evalRoomStartMatch at hreply
        simp only [act, evalRoomStartMatch]
        dsimp only at hreply
        repeat' split
        all_goals first | rfl | simp_all
    · left
      simp only [act, evalRoomStartMatch]
      repeat' split
      all_goals simp [put, hroom]
  | roomMatchDone room code matchId ownerId guestId =>
    simp only [act, evalRoomMatchDone]
    split
    · exact .inl rfl
    · by_cases hroom : roomId = room
      · exact .inr (.inl (by simp [put, hroom]))
      · exact .inl (by simp [put, hroom])
  | roomMatchAbort room token =>
    simp only [act, evalRoomMatchAbort]
    split
    · by_cases hroom : roomId = room
      · exact .inr (.inl (by simp [put, hroom]))
      · exact .inl (by simp [put, hroom])
    · exact .inl rfl
  | matchPair =>
    simp only [act, evalMatchPair]
    split <;> exact .inl rfl
  | _ => exact .inl rfl

/-- A held handoff was claimed. -/
theorem handoff_claimed (hfree : init.handoffs roomId = {}) (hrun : Run host init log s)
    (hcalm : Meets (Undisturbed host roomId) log) (hheld : (s.handoffs roomId).get s.now ≠ none) :
    ∃ claim ∈ log, ∃ ownerId guestId, Claims roomId ownerId guestId claim := by
  induction hrun with
  | start =>
    rw [hfree] at hheld
    exact absurd rfl hheld
  | @time log s ms _ ih =>
    refine ih hcalm fun hnone => hheld ?_
    rcases Key.get_later (Nat.le_add_right s.now ms) (s.handoffs roomId) with h | h
    · exact h.trans hnone
    · exact h
  | @call log e _ _ hdo ih =>
    have hold : (e.before.handoffs roomId).get e.before.now ≠ none →
        ∃ claim ∈ e :: log, ∃ ownerId guestId, Claims roomId ownerId guestId claim := by
      intro h
      obtain ⟨claim, hmem, hclaim⟩ := ih hcalm.2 h
      exact ⟨claim, List.mem_cons_of_mem _ hmem, hclaim⟩
    obtain ⟨r, hr⟩ := Option.ne_none_iff_exists'.1 hcalm.1.answered
    obtain ⟨hreply, hafter⟩ := hdo.of_reply hr
    have hnow : e.after.now = e.before.now := by
      rw [hafter]
      exact act_now host e.cmd e.before
    rw [hnow] at hheld
    rcases act_handoffs host e.cmd e.before roomId with heq | heq | ⟨token, ownerId, guestId, hcmd, hclaimed⟩
    · rw [hafter] at hheld
      exact hold (heq ▸ hheld)
    · rw [hafter] at hheld
      rw [show ((pool host).act e.cmd e.before).2.handoffs roomId = _ from heq] at hheld
      exact absurd rfl hheld
    · refine ⟨e, List.mem_cons_self .., ownerId, guestId, token, ?_⟩
      obtain ⟨⟨cmd, reply⟩, pid, q, before, after⟩ := e
      dsimp only at hcmd
      subst hcmd
      have hr : reply = some r := hr
      have hreply : r = (evalRoomStartMatch roomId token before).1 := hreply
      rw [hr, hreply, hclaimed]

/-! ## Ends of triggers -/

/-- A claim on a full or matched room is granted or held, or the room is
matched. -/
theorem seated_reply {s : Store} (h : Seated (s.room roomId)) (token : String) :
    (∃ ownerId guestId, (evalRoomStartMatch roomId token s).1 = .claimed ownerId guestId) ∨
      (evalRoomStartMatch roomId token s).1 = .held ∨
      (evalRoomStartMatch roomId token s).1 = .notFull ∧ (s.room roomId).status = some .matched := by
  obtain ⟨owner, howner⟩ := Option.ne_none_iff_exists'.1 h.owner
  obtain ⟨guest, hguest⟩ := Option.ne_none_iff_exists'.1 h.guest
  rcases h.status with hstatus | hstatus
  · simp only [evalRoomStartMatch, h.room, hstatus, howner, hguest, if_false, ne_eq, not_true_eq_false]
    split
    · exact .inl ⟨owner, guest, rfl⟩
    · exact .inr (.inl rfl)
  · refine .inr (.inr ⟨?_, hstatus⟩)
    simp [evalRoomStartMatch, h.room, hstatus]

/-- **No trigger is lost** in a timely run. -/
theorem not_lost (hinit : Opening host init) (hrun : Run host init log s)
    (hcalm : Meets (Undisturbed host roomId) log) (htimely : Meets (Timely host roomId) log) {pid : Nat}
    (hreq : ∀ e ∈ log, e.pid = pid → e.request = .startRoomMatch roomId) :
    ¬ Lost roomId (own pid log) := by
  intro hlost
  obtain ⟨token, reply, drawn, older, hown, hwhy⟩ := hlost
  obtain ⟨l₁, claim, l₂, rfl, hpid, hcall, hown'⟩ := own_last hown
  obtain ⟨hrun', -, hdo'⟩ := hrun.of_split
  have hcmd : claim.cmd = .roomStartMatch roomId token := congrArg Call.cmd hcall
  have hseated := hcalm.of_append.1.seated (.inr (.inl ⟨token, hcmd⟩))
  have hreply : reply = (evalRoomStartMatch roomId token claim.before).1 := (hdo'.of_call hcall).1
  rw [hreply] at hwhy
  rcases hwhy with hmissing | hunmapped | ⟨hash, rest, rfl, hwhy⟩
  · rcases seated_reply hseated token with ⟨_, _, h⟩ | h | ⟨h, -⟩ <;> rw [h] at hmissing <;> cases hmissing
  · obtain ⟨n, rfl⟩ := room_drawn hinit hrun' (peek_of_room hseated.room) hseated.room
    simp [mapped, host.uuid_ne_empty, host.uuid_ne_pending] at hunmapped
  · have hown'' : own pid l₂ = [⟨.randomUUID, drawn⟩] ++
        (⟨.hgetallRoom roomId, some hash⟩ : Call Cmd Resp) :: rest := hown'
    obtain ⟨m₁, read, m₂, rfl, hpid', hcall', -, -⟩ := own_split hown''
    obtain ⟨hrun₀, -, hdo₀⟩ := hrun'.of_split
    have hcalm' := hcalm.of_append.2
    have hthere := hcalm'.of_append.1.seated (.inl (hreq read (by simp) hpid'))
    have hhash : hash = read.before.room roomId := (hdo₀.of_call hcall').1
    subst hhash
    rcases hwhy with hview | ⟨hrefused, hnone⟩
    · have hname := (room_named hinit hrun₀ (peek_of_room hthere.room) hthere.room).1
      obtain ⟨n, rfl⟩ := room_drawn hinit hrun₀ (peek_of_room hthere.room) hthere.room
      simp [roomHashToView, hname, filled_of_ne (host.uuid_ne_empty n)] at hview
    · -- The claim found the room matched, by a record that the read came after.
      have hstatus : (claim.before.room roomId).status = some .matched := by
        rcases seated_reply hseated token with ⟨_, _, h⟩ | h | ⟨-, h⟩
        · rw [h] at hrefused
          simp at hrefused
        · rw [h] at hrefused
          simp at hrefused
        · exact h
      obtain ⟨n, d, o, code, matchId, owner, guest, heq, hdone, htook, hfirst, -⟩ :=
        first_record hinit hrun' htimely.of_append.2
          (recorded_before hinit hrun' (peek_of_room hseated.room) (.inl hstatus))
      have hfills : Fills host roomId d := first_fills hinit (heq ▸ hrun') hdone htook hfirst
      have hmem : d ∈ m₁ ++ read :: m₂ := heq ▸ by simp
      have hold : d ∈ m₂ := by
        rcases List.mem_append.1 hmem with h | h
        · exact absurd hfills (htimely.of_append.1.read token m₁ read m₂
            (hreq claim (by simp) hpid) hcmd rfl (hpid'.trans hpid.symm)
            (congrArg Call.cmd hcall') d h)
        · rcases List.mem_cons.1 h with rfl | h
          · rw [show d.cmd = _ from congrArg Call.cmd hcall'] at hdone
            cases hdone
          · exact h
      have hfilled := ((answered_match hinit hrun' hcalm' heq hdone htook hfirst).1 m₁ read m₂ rfl hold
        hthere).1
      rw [hfilled] at hnone
      cases hnone

/-! ## Whole runs -/

/-- How the triggers of a room converge: two inserts are the same, every match
answered is that of an insert, no trigger ends otherwise than with such an
answer or told to retry, and once all requests have ended, a match is there
if there was a trigger. -/
structure Converges (host : Host) (roomId : String) (w : World Store Request Cmd Resp Err) : Prop where
  once : ∀ newer mid older insert insert' p1 p2 p1' p2', w.log = newer ++ insert' :: (mid ++ insert :: older) →
    Inserts host older roomId p1 p2 insert → ¬ Inserts host (mid ++ insert :: older) roomId p1' p2' insert'
  answers : ∃ matchId, ∀ e ∈ w.log, ∀ code id ownerId guestId recorded,
    e.toCall = ⟨.roomMatchDone roomId code id ownerId guestId, some recorded⟩ → recorded = matchId ∧
      ∃ newer insert older p1 p2, w.log = newer ++ insert :: older ∧ Inserts host older roomId p1 p2 insert ∧
        ∃ row ∈ insert.after.matchRows, row.id = matchId
  returns : ∀ (pid : Nat) (t : Thread Request Cmd Resp Err), w.threads[pid]? = some t → t.request = .startRoomMatch roomId → t.rest = .pure () →
    Answered roomId (own pid w.log)
  refuses : ∀ (pid : Nat) (t : Thread Request Cmd Resp Err) err, w.threads[pid]? = some t → t.request = .startRoomMatch roomId →
    t.rest = .throw err → err = matchStarting
  settles : (∀ t ∈ w.threads, t.rest = .pure () ∨ ∃ err, t.rest = .throw err) →
    (∃ t ∈ w.threads, t.request = .startRoomMatch roomId) →
    ∃ newer insert older p1 p2, w.log = newer ++ insert :: older ∧ Inserts host older roomId p1 p2 insert

theorem not_failed (hcalm : Meets (Undisturbed host roomId) log) (pid : Nat) : ¬ Failed (own pid log) := by
  intro hfail
  obtain ⟨c, hmem, hnone⟩ := hfail
  obtain ⟨e, he, -, rfl⟩ := mem_own.1 hmem
  obtain ⟨l₁, l₂, rfl⟩ := List.append_of_mem he
  exact hcalm.of_append.1.answered hnone

/-- A record's match was inserted in the handoff. -/
theorem record_inserted (hinit : Opening host init) (hrun : Run host init log s)
    (hcalm : Meets (Undisturbed host roomId) log) (htimely : Meets (Timely host roomId) log)
    (hrec : ∃ d ∈ log, Records host roomId d) : ∃ matchId, (∃ newer insert older p1 p2,
      log = newer ++ insert :: older ∧ Inserts host older roomId p1 p2 insert ∧
        ∃ row ∈ insert.after.matchRows, row.id = matchId) ∧
      ∀ e ∈ log, ∀ code id ownerId guestId recorded,
        e.toCall = ⟨.roomMatchDone roomId code id ownerId guestId, some recorded⟩ → recorded = matchId := by
  obtain ⟨n, d, o, code, matchId, owner, guest, heq, hdone, htook, hfirst, mid, insert, before, seed, p1, p2,
    row, ho, -, hid, hcall, hclaim⟩ := first_record hinit hrun htimely hrec
  refine ⟨matchId, ⟨n ++ d :: mid, insert, before, owner, guest, by simp [heq, ho], ?_, ?_⟩,
    (answered_match hinit hrun hcalm heq hdone htook hfirst).2⟩
  · have hrun' : Run host init ((n ++ d :: mid) ++ insert :: before) s := by
      rw [heq, ho] at hrun
      simpa using hrun
    have hcmd : insert.cmd = .createMatch owner guest seed p1 p2 := congrArg Call.cmd hcall
    refine ⟨⟨owner, guest, hclaim⟩, seed, p1, p2, hcmd, ?_⟩
    rw [Took, hcmd]
    exact (hrun'.of_split.2.2.of_call hcall).2
  · have hrun' : Run host init ((n ++ d :: mid) ++ insert :: before) s := by
      rw [heq, ho] at hrun
      simpa using hrun
    obtain ⟨hbefore, hguard, hdo⟩ := hrun'.of_split
    have hafter : Run host init ([] ++ insert :: before) insert.after := hbefore.call hguard hdo
    obtain ⟨-, row', hrow', hages⟩ := created_row hafter hcall
    exact ⟨row', hrow', hages.id.trans hid⟩

theorem Answered.records (hrun : Run host init log s) {pid : Nat} (h : Answered roomId (own pid log)) :
    ∃ d ∈ log, Records host roomId d := by
  obtain ⟨code, matchId, ownerId, guestId, recorded, hmem⟩ := h
  obtain ⟨d, hd, -, hcall⟩ := mem_own.1 hmem
  obtain ⟨l₁, l₂, rfl⟩ := List.append_of_mem hd
  have hcmd : d.cmd = .roomMatchDone roomId code matchId ownerId guestId := congrArg Call.cmd hcall
  refine ⟨d, hd, code, matchId, ownerId, guestId, hcmd, ?_⟩
  rw [Took, hcmd]
  exact (hrun.of_split.2.2.of_call hcall).2

/-- A trigger that returned was answered the match of its own room. -/
theorem Ended.answered (hinit : Opening host init) (hrun : Run host init log s) {pid : Nat}
    {view : RoomView} (h : Ended roomId (.ok view) (own pid log)) : Answered roomId (own pid log) := by
  obtain ⟨name, hreturns, hname⟩ := h.returned
  obtain ⟨code, matchId, ownerId, guestId, recorded, hmem, -⟩ := hreturns view rfl
  rcases hname with rfl | ⟨hash, hread, hroom⟩
  · exact ⟨code, matchId, ownerId, guestId, recorded, hmem⟩
  · obtain ⟨read, hr, -, hcall⟩ := mem_own.1 hread
    obtain ⟨l₁, l₂, hlog⟩ := List.append_of_mem hr
    have hview : roomHashToView hash ≠ none := by simp [roomHashToView, hroom]
    obtain ⟨view, hview⟩ := Option.ne_none_iff_exists'.1 hview
    obtain ⟨-, -, -, -, hid⟩ := view_read hinit hrun hlog hcall hview
    obtain ⟨name', hname', rfl⟩ := Option.map_eq_some_iff.1 hview
    rw [hroom] at hname'
    cases hname'
    obtain rfl : name = roomId := hid
    exact ⟨code, matchId, ownerId, guestId, recorded, hmem⟩

theorem held_reply {token : String} {s : Store} (h : (evalRoomStartMatch roomId token s).1 = .held) :
    (s.handoffs roomId).get s.now ≠ none := by
  intro hfree
  simp only [evalRoomStartMatch, setNX, hfree] at h
  split at h
  · cases h
  · split at h
    · cases h
    · split at h <;> cases h

/-- **The triggers of a room converge** in every run of the lobby, from no
rooms and no claims, that does not disturb the room and is timely. -/
theorem triggers_converge (host : Host) (init : Store) (hinit : Opening host init) (roomId : String)
    (hfree : init.handoffs roomId = {}) (moves : List (Move Request Nat))
    (hcalm : Meets (Undisturbed host roomId) ((pool host).run ⟨init, [], []⟩ moves).log)
    (htimely : Meets (Timely host roomId) ((pool host).run ⟨init, [], []⟩ moves).log) :
    Converges host roomId ((pool host).run ⟨init, [], []⟩ moves) := by
  have hrun := run_of_moves host init moves
  have hreqs := (pool host).run_request init moves
  have hends : World.Obeys (fun _ _ _ => True) Ends ((pool host).run ⟨init, [], []⟩ moves) :=
    Pool.run_obeys program_ends moves
  generalize (pool host).run ⟨init, [], []⟩ moves = w at hrun hreqs hends hcalm htimely
  have hended : ∀ {pid : Nat} {t : Thread Request Cmd Resp Err} {err : Err},
      w.threads[pid]? = some t → t.request = .startRoomMatch roomId → t.rest = .throw err →
      err = matchStarting ∧
        ∃ token, (⟨.roomStartMatch roomId token, some .held⟩ : Call Cmd Resp) ∈ own pid w.log := by
    intro pid t err ht hreq hrest
    have hend := hends.threads pid t ht
    rw [hrest] at hend
    obtain ⟨o, hended, -, herr⟩ := hend.trigger roomId hreq
    rcases hended.refused err (herr err rfl) with hfail | hlost | hheld
    · exact absurd hfail (not_failed hcalm pid)
    · refine absurd hlost (not_lost hinit hrun hcalm htimely fun e hmem hpid => ?_)
      exact (hreqs e hmem t (hpid ▸ ht)).symm.trans hreq
    · exact hheld
  have hreturns : ∀ {pid : Nat} {t : Thread Request Cmd Resp Err}, w.threads[pid]? = some t →
      t.request = .startRoomMatch roomId → t.rest = .pure () → Answered roomId (own pid w.log) := by
    intro pid t ht hreq hrest
    have hend := hends.threads pid t ht
    rw [hrest] at hend
    obtain ⟨o, hended, hok, -⟩ := hend.trigger roomId hreq
    obtain ⟨view, rfl⟩ := hok rfl
    exact hended.answered hinit hrun
  have hinserted : (∃ d ∈ w.log, Records host roomId d) → ∃ newer insert older p1 p2,
      w.log = newer ++ insert :: older ∧ Inserts host older roomId p1 p2 insert := by
    intro hrec
    obtain ⟨matchId, ⟨newer, insert, older, p1, p2, hlog, hins, -⟩, -⟩ :=
      record_inserted hinit hrun hcalm htimely hrec
    exact ⟨newer, insert, older, p1, p2, hlog, hins⟩
  refine ⟨?_, ?_, fun pid t => hreturns, fun pid t err ht hreq hrest => (hended ht hreq hrest).1, ?_⟩
  · intro newer mid older insert insert' p1 p2 p1' p2' hlog hins
    exact insert_once hinit hrun hcalm htimely hlog hins
  · by_cases hrec : ∃ d ∈ w.log, Records host roomId d
    · obtain ⟨matchId, hins, hall⟩ := record_inserted hinit hrun hcalm htimely hrec
      exact ⟨matchId, fun e hmem code id ownerId guestId recorded hcall =>
        ⟨hall e hmem code id ownerId guestId recorded hcall, hins⟩⟩
    · refine ⟨"", fun e hmem code id ownerId guestId recorded hcall => absurd ?_ hrec⟩
      have hanswered : Answered roomId (own e.pid w.log) :=
        ⟨code, id, ownerId, guestId, recorded, mem_own.2 ⟨e, hmem, rfl, hcall⟩⟩
      exact hanswered.records hrun
  · intro hall htrigger
    obtain ⟨t, hmem, hreq⟩ := htrigger
    obtain ⟨pid, ht⟩ := List.getElem?_of_mem hmem
    rcases hall t hmem with hrest | ⟨err, hrest⟩
    · exact hinserted ((hreturns ht hreq hrest).records hrun)
    · -- The holder that refused it has ended with the match.
      obtain ⟨-, token, hheld⟩ := hended ht hreq hrest
      obtain ⟨e, he, -, hcall⟩ := mem_own.1 hheld
      obtain ⟨l₁, l₂, hlog⟩ := List.append_of_mem he
      have hrun₀ : Run host init (l₁ ++ e :: l₂) w.store := hlog ▸ hrun
      have hcalm₀ : Meets (Undisturbed host roomId) (l₁ ++ e :: l₂) := hlog ▸ hcalm
      have hreply : ClaimReply.held = (evalRoomStartMatch roomId token e.before).1 :=
        (hrun₀.of_split.2.2.of_call hcall).1
      obtain ⟨claim, hclaim, ownerId, guestId, htoken, hcall'⟩ := handoff_claimed hfree hrun₀.of_split.1
        hcalm₀.of_append.2 (held_reply hreply.symm)
      have hin : claim ∈ w.log := hlog ▸ by simp [hclaim]
      have hlt := hends.pids claim hin
      obtain ⟨t', ht'⟩ : ∃ t', w.threads[claim.pid]? = some t' := ⟨_, List.getElem?_eq_getElem hlt⟩
      have hclaimed : Claimed (own claim.pid w.log) roomId ownerId guestId :=
        ⟨htoken, mem_own.2 ⟨claim, hin, rfl, hcall'⟩⟩
      have hend := hends.threads claim.pid t' ht'
      have hanswered : Failed (own claim.pid w.log) ∨ Answered roomId (own claim.pid w.log) := by
        rcases hall t' (List.mem_of_getElem? ht') with hrest' | ⟨err', hrest'⟩ <;> rw [hrest'] at hend
        · exact hend.claimed roomId ownerId guestId hclaimed
        · exact hend.claimed roomId ownerId guestId hclaimed
      exact hinserted ((hanswered.resolve_left (not_failed hcalm _)).records hrun)

/-! ## A trigger that read too early -/

/-- Two triggers: the second reads the room, the first runs to its end, then the
second claims. -/
def overtaken : List (Move Request Nat) :=
  filling ++ [.start (.startRoomMatch "u"), .start (.startRoomMatch "u")] ++ answers 3 1 ++ answers 2 22 ++
    answers 3 2

/-- Five triggers: the second comes while the first holds the claim, the others
after the record; the fourth has read the room before the fifth runs to its
end. -/
def triggered : List (Move Request Nat) :=
  filling ++ [.start (.startRoomMatch "u"), .start (.startRoomMatch "u")] ++ answers 2 3 ++ answers 3 3 ++
    answers 2 19 ++ [.start (.startRoomMatch "u")] ++ answers 4 5 ++
    [.start (.startRoomMatch "u"), .start (.startRoomMatch "u")] ++ answers 5 1 ++ answers 6 5 ++ answers 5 4

def Cmd.reads (roomId : String) : Cmd → Bool
  | .hgetallRoom key => key = roomId
  | _ => false

def Cmd.recordsIn (roomId : String) : Cmd → Bool
  | .roomMatchDone room _ _ _ _ => room = roomId
  | _ => false

def Cmd.claimsOf (roomId : String) : Cmd → Bool
  | .roomStartMatch room _ => room = roomId
  | _ => false

def seated (hash : RoomHash) : Bool :=
  hash.roomId.isSome && (hash.status = some .full || hash.status = some .matched) &&
    (filled hash.ownerId).isSome && (filled hash.guestId).isSome

theorem seated_iff (hash : RoomHash) (h : seated hash = true) : Seated hash := by
  simp only [seated, Bool.and_eq_true, Bool.or_eq_true, decide_eq_true_eq, Option.isSome_iff_ne_none] at h
  exact ⟨h.1.1.1, h.1.1.2, h.1.2, h.2⟩

/-- What `Undisturbed` asks of an answered call. -/
def calm (roomId : String) (log : List LobbyEvent) (e : LobbyEvent) : Bool :=
  e.reply.isSome && (leaveOf e).isNone &&
    (!(e.request = .startRoomMatch roomId || e.cmd.claimsOf roomId || e.cmd.recordsIn roomId) ||
      seated (e.before.room roomId)) &&
    (log.all (fun claim => !claim.cmd.claims) || log.any (fun d => d.cmd.recordsIn roomId) ||
      ((e.before.handoffs roomId).get e.before.now).isSome)

theorem recordsIn_iff {c : Cmd} (h : c.recordsIn roomId = true) :
    ∃ code matchId ownerId guestId, c = .roomMatchDone roomId code matchId ownerId guestId := by
  cases c <;> simp only [Cmd.recordsIn, Bool.false_eq_true, decide_eq_true_eq] at h
  subst h
  exact ⟨_, _, _, _, rfl⟩

theorem undisturbed_of_calm (hrun : Run host init (e :: log) s)
    (h : Meets (fun log e => calm roomId log e = true) (e :: log)) : Undisturbed host roomId log e := by
  have hcalm := h.1
  simp only [calm, Bool.and_eq_true, Bool.or_eq_true, Bool.not_eq_true', Option.isSome_iff_ne_none,
    Option.isNone_iff_eq_none, Bool.or_eq_false_iff, decide_eq_false_iff_not] at hcalm
  obtain ⟨⟨⟨hreply, hleave⟩, hseat⟩, hheld⟩ := hcalm
  refine ⟨hreply, fun userId hcmd => ?_, fun htrigger => ?_, fun hclaim => ?_⟩
  · simp [leaveOf, hcmd] at hleave
  · refine seated_iff _ (hseat.resolve_left fun hnot => ?_)
    rcases htrigger with hreq | ⟨token, hcmd⟩ | ⟨code, matchId, ownerId, guestId, hcmd⟩
    · exact hnot.1.1 hreq
    · simp [hcmd, Cmd.claimsOf] at hnot
    · simp [hcmd, Cmd.recordsIn] at hnot
  · rcases hheld with (hnone | hrec) | hheld
    · obtain ⟨claim, hmem, ownerId, guestId, token, hcall⟩ := hclaim
      have := List.all_eq_true.1 hnone claim hmem
      rw [show claim.cmd = _ from congrArg Call.cmd hcall] at this
      cases this
    · left
      obtain ⟨d, hmem, hd⟩ := List.any_eq_true.1 hrec
      obtain ⟨code, matchId, ownerId, guestId, hcmd⟩ := recordsIn_iff hd
      obtain ⟨l₁, l₂, rfl⟩ := List.append_of_mem hmem
      have hrun' : Run host init ((e :: l₁) ++ d :: l₂) s := hrun
      have hcalm' := h.2.of_append.1
      simp only [calm, Bool.and_eq_true] at hcalm'
      exact ⟨d, hmem, code, matchId, ownerId, guestId, hcmd,
        took_of_reply hrun'.of_split.2.2 hcalm'.1.1.1⟩
    · exact .inr hheld

theorem meets_undisturbed (hrun : Run host init log s)
    (h : Meets (fun log e => calm roomId log e = true) log) : Meets (Undisturbed host roomId) log := by
  induction hrun with
  | start => trivial
  | time ms _ ih => exact ih h
  | call hrun hguard hdo ih => exact ⟨undisturbed_of_calm (hrun.call hguard hdo) h, ih h.2⟩

/-- The call fills the room. -/
def fillsIn (roomId : String) (e : LobbyEvent) : Bool :=
  e.cmd.recordsIn roomId && (filled (e.before.room roomId).matchId).isNone

/-- No match fills the room since any read of the request; `seen` says whether
one did later. -/
def readsLast (roomId : String) (pid : Nat) : Bool → List LobbyEvent → Bool
  | _, [] => true
  | seen, e :: log =>
    (!(e.pid = pid && e.cmd.reads roomId) || !seen) &&
      readsLast roomId pid (seen || fillsIn roomId e) log

theorem not_fills_of {d : LobbyEvent} (h : fillsIn roomId d = false) : ¬ Fills host roomId d := by
  intro hfills
  obtain ⟨⟨code, matchId, ownerId, guestId, hcmd, -⟩, hnone⟩ := hfills
  simp [fillsIn, hcmd, hnone, Cmd.recordsIn] at h

theorem readsLast_split {pid : Nat} {seen : Bool} {newer older : List LobbyEvent} {read : LobbyEvent}
    (h : readsLast roomId pid seen (newer ++ read :: older) = true) (hpid : read.pid = pid)
    (hcmd : read.cmd = .hgetallRoom roomId) : seen = false ∧ ∀ d ∈ newer, fillsIn roomId d = false := by
  induction newer generalizing seen with
  | nil =>
    simp only [List.nil_append, readsLast, Bool.and_eq_true] at h
    simpa [hpid, hcmd, Cmd.reads] using h.1
  | cons e newer ih =>
    simp only [List.cons_append, readsLast, Bool.and_eq_true] at h
    obtain ⟨hseen, hall⟩ := ih h.2
    rw [Bool.or_eq_false_iff] at hseen
    exact ⟨hseen.1, List.forall_mem_cons.2 ⟨hseen.2, hall⟩⟩

/-- What `Timely` asks of a call. -/
def inTime (roomId : String) (log : List LobbyEvent) (e : LobbyEvent) : Bool :=
  match e.cmd with
  | .roomStartMatch _ _ => readsLast roomId e.pid false log
  | .findActiveByUserId userId => (findActive userId e.before).isNone
  | _ => true

theorem meets_timely (h : Meets (fun log e => inTime roomId log e = true) log) :
    Meets (Timely host roomId) log := by
  induction log with
  | nil => trivial
  | cons e log ih =>
    have htime := h.1
    refine ⟨⟨fun token newer read older _ hcmd hlog hpid hread d hmem => ?_,
      fun userId ownerId guestId hcmd _ => ?_⟩, ih h.2⟩
    · simp only [inTime, hcmd, hlog] at htime
      exact not_fills_of ((readsLast_split htime hpid hread).2 d hmem)
    · simp only [inTime, hcmd, Option.isNone_iff_eq_none] at htime
      exact htime

/-- The error a request ended with. -/
def thrown {α : Type} : M α → Option Err
  | .throw err => some err
  | _ => none

theorem of_thrown {α : Type} {p : M α} {err : Err} (h : thrown p = some err) : p = .throw err := by
  cases p <;> simp only [thrown, reduceCtorEq, Option.some.injEq] at h
  exact congrArg _ h

set_option maxRecDepth 100000 in
/-- The room is not disturbed, but the second trigger is refused for good. -/
theorem triggers_overtaken : Meets (Undisturbed plainHost "u") (lobby {} overtaken).log ∧
    ¬ Converges plainHost "u" (lobby {} overtaken) := by
  have hcalm : Meets (fun log e => calm "u" log e = true) (lobby {} overtaken).log := by decide
  have hthread : (lobby {} overtaken).threads[3]?.map (fun t => (t.request, thrown t.rest)) =
      some (.startRoomMatch "u", some (.http .conflict "room.not_waiting"
        "Room is no longer accepting players")) := by decide
  refine ⟨meets_undisturbed (run_of_moves plainHost {} overtaken) hcalm, fun hconv => ?_⟩
  obtain ⟨t, ht, hend⟩ := Option.map_eq_some_iff.1 hthread
  rw [Prod.mk.injEq] at hend
  have herr := hconv.refuses 3 t _ ht hend.1 (of_thrown hend.2)
  rw [matchStarting] at herr
  injection herr with _ hcode _
  exact absurd hcode (by decide)

set_option maxRecDepth 100000 in
/-- One trigger creates the match, one is told to retry, the late ones are
answered it, also the one whose claim comes after another's call of
`room_match_done`. -/
theorem triggers_converge_triggered : Converges plainHost "u" (lobby {} triggered) ∧
    (lobby {} triggered).log.filterMap (fun e => e.cmd.record) =
      List.replicate 4 ("u", "ABC234", "uuuuu", "ann", "bob") := by
  have hcalm : Meets (fun log e => calm "u" log e = true) (lobby {} triggered).log := by decide
  have htime : Meets (fun log e => inTime "u" log e = true) (lobby {} triggered).log := by decide
  exact ⟨triggers_converge plainHost {} (opening_empty plainHost) "u" rfl triggered
    (meets_undisturbed (run_of_moves plainHost {} triggered) hcalm) (meets_timely htime), by decide⟩

end AutoChess.Lobby
