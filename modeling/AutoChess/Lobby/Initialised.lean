/-
Whether a handed-off match has its runtime, over sequences of attempts on a
full room. A row in the table was there before the first attempt or was
inserted by an attempt that is over, and that attempt has either made all its
calls or seen one fail.
-/
import AutoChess.Lobby.Attempts

namespace AutoChess.Lobby

open AutoChess.Runtime AutoChess.Shop Calls Expiring

variable {host : Host} {init s : Store} {log : List LobbyEvent} {e : LobbyEvent} {roomId matchId : String}

/-- The command took effect in the log. -/
def TookIn (host : Host) (log : List LobbyEvent) (c : Cmd) : Prop := ∃ e ∈ log, e.cmd = c ∧ Took host e

/-- The call inserts the row of the match, between these players. -/
def InsertsRow (host : Host) (e : LobbyEvent) (matchId player1Id player2Id : String) : Prop :=
  ∃ seed p1 p2, e.cmd = .createMatch player1Id player2Id seed p1 p2 ∧ Took host e ∧
    matchId = host.uuid e.before.drawn

/-- The user's shop of the match was stored. -/
def StoredShop (host : Host) (log : List LobbyEvent) (matchId userId : String) : Prop :=
  ∃ shop ttlSeconds, TookIn host log (.runtime matchId (.setShop userId shop ttlSeconds))

/-- The runtime of a match that was inserted is initialised: its hash was
written, the first round's timer added and both players' shops stored. -/
structure Initialised (host : Host) (log : List LobbyEvent) (matchId player1Id player2Id : String) : Prop where
  row : ∃ e ∈ log, InsertsRow host e matchId player1Id player2Id
  hash : ∃ hash, TookIn host log (.hsetRuntime matchId hash)
  timer : TookIn host log (.runtime matchId (.schedule (.phaseStart 1) SHOP_PHASE_MS))
  shop1 : StoredShop host log matchId player1Id
  shop2 : StoredShop host log matchId player2Id

/-- A step that fails no call of an attempt from its insert on, until both
players' shops are stored. -/
def Spared (host : Host) (log : List LobbyEvent) (e : LobbyEvent) : Prop :=
  ∀ insert matchId player1Id player2Id, insert ∈ e :: log → insert.pid = e.pid →
    InsertsRow host insert matchId player1Id player2Id → e.reply = none →
    StoredShop host (e :: log) matchId player1Id ∧ StoredShop host (e :: log) matchId player2Id

/-- A room with two players and no match. -/
structure FullRoom (s : Store) (roomId : String) : Prop where
  room : (s.room roomId).roomId = some roomId
  status : (s.room roomId).status = some .full
  unmatched : filled (s.room roomId).matchId = none

theorem TookIn.mono {older : List LobbyEvent} {c : Cmd} (h : TookIn host older c) (hsuf : older <:+ log) :
    TookIn host log c := by
  obtain ⟨e, hmem, hcmd, htook⟩ := h
  exact ⟨e, hsuf.mem hmem, hcmd, htook⟩

theorem StoredShop.mono {older : List LobbyEvent} {userId : String}
    (h : StoredShop host older matchId userId) (hsuf : older <:+ log) : StoredShop host log matchId userId := by
  obtain ⟨shop, ttlSeconds, htook⟩ := h
  exact ⟨shop, ttlSeconds, htook.mono hsuf⟩

theorem Initialised.mono {older : List LobbyEvent} {player1Id player2Id : String}
    (h : Initialised host older matchId player1Id player2Id) (hsuf : older <:+ log) :
    Initialised host log matchId player1Id player2Id := by
  obtain ⟨⟨e, hmem, hrow⟩, ⟨hash, hhash⟩, htimer, hshop1, hshop2⟩ := h
  exact ⟨⟨e, hsuf.mem hmem, hrow⟩, ⟨hash, hhash.mono hsuf⟩, htimer.mono hsuf, hshop1.mono hsuf, hshop2.mono hsuf⟩

/-! ## Runs of attempts -/

/-- What is known of the log and store of attempts on the room. -/
abbrev AttemptRun (host : Host) (roomId : String) (init : Store) (log : List LobbyEvent) (s : Store) : Prop :=
  Chronicle (pool host) (fun q h c => q = .startRoomMatch roomId → AttemptGuard roomId h c) init log s

theorem program_attempts (roomId : String) (q : Request) :
    (program host q).Obeys (fun h c => q = .startRoomMatch roomId → AttemptGuard roomId h c)
      (fun _ h => q = .startRoomMatch roomId → Wrapped h) [] := by
  by_cases hq : q = .startRoomMatch roomId
  · subst hq
    refine Prog.Obeys.bind (((startRoomMatch_attempts roomId (fun _ hc => by cases hc)).weaken
      fun _ _ h _ => h).mono fun o h _ hwrapped => ?_)
    cases o <;> exact fun _ => hwrapped
  · exact ((Prog.Obeys.any _).weaken fun _ _ _ heq => absurd heq hq).mono fun _ _ _ _ heq => absurd heq hq

/-- A call that was answered took effect. -/
theorem took_of_own {S : Request → History → Cmd → Prop} (hrun : Chronicle (pool host) S init log s)
    {pid : Nat} {c : Cmd} {r : Resp c} (h : (⟨c, some r⟩ : Call Cmd Resp) ∈ own pid log) :
    TookIn host log c := by
  obtain ⟨e, hmem, -, hcall⟩ := mem_own.1 h
  obtain ⟨l₁, l₂, rfl⟩ := List.append_of_mem hmem
  obtain ⟨call, pid', q, before, after⟩ := e
  subst hcall
  exact ⟨_, hmem, rfl, took_of_reply hrun.of_split.2.2 rfl⟩

/-- A row was there at first, or was inserted. -/
theorem row_origin {S : Request → History → Cmd → Prop} (hrun : Chronicle (pool host) S init log s)
    {row : MatchRow} (hrow : row ∈ s.matchRows) : (∃ first ∈ init.matchRows, Ages first row) ∨
      ∃ insert ∈ log, ∃ player1Id player2Id, InsertsRow host insert row.id player1Id player2Id := by
  induction hrun generalizing row with
  | start => exact .inl ⟨row, hrow, .refl row⟩
  | time ms _ ih => exact ih hrow
  | @call log e hrun hguard hdo ih =>
    have hold : ∀ {x : MatchRow}, x ∈ e.before.matchRows → Ages x row →
        (∃ first ∈ init.matchRows, Ages first row) ∨ ∃ insert ∈ e :: log, ∃ player1Id player2Id,
          InsertsRow host insert row.id player1Id player2Id := by
      intro x hx hages
      rcases ih hx with ⟨first, hfirst, hx'⟩ | ⟨insert, hmem, player1Id, player2Id, hins⟩
      · exact .inl ⟨first, hfirst, hx'.trans hages⟩
      · exact .inr ⟨insert, List.mem_cons_of_mem _ hmem, player1Id, player2Id, hages.id ▸ hins⟩
    rcases took_or_kept hdo with htook | hkept
    · by_cases hwrites : e.cmd.writesMatches = false
      · rw [htook, act_matchRows host hwrites] at hrow
        exact hold hrow (.refl row)
      · cases hcmd : e.cmd with
        | createMatch player1Id player2Id seed p1 p2 =>
          rw [htook, hcmd] at hrow
          rcases List.mem_append.1 hrow with hrow | hrow
          · exact hold hrow (.refl row)
          · rw [List.mem_singleton] at hrow
            refine .inr ⟨e, List.mem_cons_self .., player1Id, player2Id, seed, p1, p2, hcmd, htook, ?_⟩
            rw [hrow]
            rfl
        | finalize matchId status =>
          rw [htook, hcmd] at hrow
          obtain ⟨x, hx, rfl⟩ := List.mem_map.1 hrow
          exact hold hx (closeMatch_ages matchId status x)
        | _ => simp [hcmd, Cmd.writesMatches] at hwrites
    · exact hold (hkept ▸ hrow) (.refl row)

/-- Shops are stored last, so a match with both is initialised. -/
theorem initialised_of_shops (hrun : AttemptRun host roomId init log s)
    (hreq : ∀ e ∈ log, e.request = .startRoomMatch roomId) {player1Id player2Id : String}
    (hrow : ∃ e ∈ log, InsertsRow host e matchId player1Id player2Id)
    (hshop1 : StoredShop host log matchId player1Id) (hshop2 : StoredShop host log matchId player2Id) :
    Initialised host log matchId player1Id player2Id := by
  obtain ⟨shop, ttlSeconds, store, hmem, hcmd, -⟩ := id hshop1
  obtain ⟨l₁, l₂, hlog⟩ := List.append_of_mem hmem
  have hrun' := hrun
  rw [hlog] at hrun'
  obtain ⟨hrun₀, hguard, -⟩ := hrun'.of_split
  have hguard := hguard (hreq store hmem)
  rw [hcmd] at hguard
  obtain ⟨⟨hash, hhash⟩, htimer⟩ := hguard
  have hsuf : l₂ <:+ log := hlog ▸ (List.suffix_cons ..).trans (List.suffix_append ..)
  exact ⟨hrow, ⟨hash, (took_of_own hrun₀ hhash).mono hsuf⟩, (took_of_own hrun₀ htimer).mono hsuf, hshop1, hshop2⟩

/-- What an attempt that is wrapped up has inserted is initialised. -/
theorem Wrapped.initialised (hrun : AttemptRun host roomId init log s)
    (hreq : ∀ e ∈ log, e.request = .startRoomMatch roomId) (hspared : Meets (Spared host) log)
    {insert : LobbyEvent} {player1Id player2Id : String} (hmem : insert ∈ log)
    (hins : InsertsRow host insert matchId player1Id player2Id) (hwrapped : Wrapped (own insert.pid log)) :
    Initialised host log matchId player1Id player2Id := by
  obtain ⟨l₁, l₂, hlog⟩ := List.append_of_mem hmem
  have hfail : ∀ {newer older : List LobbyEvent} {f : LobbyEvent}, log = newer ++ f :: older →
      f.pid = insert.pid → f.reply = none → insert ∈ f :: older →
      Initialised host log matchId player1Id player2Id := by
    intro newer older f hlog' hpid hnone hmem'
    rw [hlog'] at hspared
    obtain ⟨hshop1, hshop2⟩ := hspared.of_append.1 insert matchId player1Id player2Id hmem' hpid.symm hins hnone
    have hsuf : f :: older <:+ log := hlog' ▸ List.suffix_append ..
    exact initialised_of_shops hrun hreq ⟨insert, hmem, hins⟩ (hshop1.mono hsuf) (hshop2.mono hsuf)
  obtain ⟨seed, p1, p2, hcmd, htook, hid⟩ := id hins
  obtain ⟨⟨cmd, reply⟩, pid, q, before, after⟩ := insert
  obtain rfl : cmd = .createMatch player1Id player2Id seed p1 p2 := hcmd
  cases reply with
  | none => exact hfail hlog rfl rfl (List.mem_cons_self ..)
  | some row =>
    have hown : own pid log = own pid l₁ ++
        (⟨.createMatch player1Id player2Id seed p1 p2, some row⟩ : Call Cmd Resp) :: own pid l₂ := by
      rw [hlog]
      exact (own_append ..).trans (congrArg (own pid l₁ ++ ·) (own_cons_self rfl))
    rcases hwrapped _ _ _ _ _ _ _ _ hown with ⟨c, hc, hnone⟩ | hdone
    · obtain ⟨f, hf, hpid, hcall⟩ := mem_own.1 hc
      obtain ⟨n, o, rfl⟩ := List.append_of_mem hf
      have hfnone : f.reply = none := by
        obtain ⟨call, pid', q', before', after'⟩ := f
        subst hcall
        exact hnone
      rw [List.append_assoc, List.cons_append] at hlog
      exact hfail hlog hpid hfnone (by simp)
    · -- It made all its calls.
      have hrow : row = newRow (host.uuid before.drawn) player1Id player2Id seed p1 p2 := by
        have hrun' := hrun
        rw [hlog] at hrun'
        exact (hrun'.of_split.2.2.of_call rfl).1
      obtain ⟨⟨hash, hhash⟩, htimer, ⟨shop1, ttl1, hshop1⟩, shop2, ttl2, hshop2⟩ := hdone
      have hid' : row.id = matchId := (congrArg (fun x : MatchRow => x.id) hrow).trans hid.symm
      have hplayer1 : row.player1Id = player1Id := congrArg (fun x : MatchRow => x.player1Id) hrow
      have hplayer2 : row.player2Id = player2Id := congrArg (fun x : MatchRow => x.player2Id) hrow
      rw [hid'] at hhash htimer
      rw [hid', hplayer1] at hshop1
      rw [hid', hplayer2] at hshop2
      exact ⟨⟨_, hmem, hins⟩, ⟨hash, took_of_own hrun hhash⟩, took_of_own hrun htimer,
        ⟨shop1, ttl1, took_of_own hrun hshop1⟩, ⟨shop2, ttl2, took_of_own hrun hshop2⟩⟩

/-! ## Every record's match -/

/-- The match has its runtime: it was known to before the first attempt, or is
initialised since. -/
def HasRuntime (host : Host) (known : String → Prop) (log : List LobbyEvent) (matchId : String) : Prop :=
  known matchId ∨ ∃ player1Id player2Id, Initialised host log matchId player1Id player2Id

/-- The room keeps its name and its players, and its match has a runtime. -/
def RoomHandled (host : Host) (init : Store) (roomId : String) (known : String → Prop)
    (log : List LobbyEvent) (s : Store) : Prop :=
  ∀ hash, s.peek roomId = some hash →
    (hash.roomId = none ∨ hash.roomId = some roomId ∧ hash.ownerId = (init.room roomId).ownerId ∧
      hash.guestId = (init.room roomId).guestId) ∧
    ∀ matchId, filled hash.matchId = some matchId → HasRuntime host known log matchId

theorem HasRuntime.mono {known : String → Prop} {older : List LobbyEvent}
    (h : HasRuntime host known older matchId) (hsuf : older <:+ log) : HasRuntime host known log matchId :=
  h.imp_right fun ⟨player1Id, player2Id, hinit⟩ => ⟨player1Id, player2Id, hinit.mono hsuf⟩

/-- Attempts on a full room, one after the other, all of whose calls are
spared; the players' active matches of before are known to have a runtime. -/
structure Attempts (host : Host) (init : Store) (roomId : String) (known : String → Prop)
    (w : World Store Request Cmd Resp Err) : Prop where
  run : AttemptRun host roomId init w.log w.store
  room : FullRoom init roomId
  known : ∀ row ∈ init.matchRows, live row = true → ∀ userId, isPlayer row userId = true →
    ((init.room roomId).ownerId = some userId ∨ (init.room roomId).guestId = some userId) → known row.id
  requests : ∀ e ∈ w.log, e.request = .startRoomMatch roomId
  turned : w.Turned
  wrapped : ∀ (pid : Nat) (t : Thread Request Cmd Resp Err), w.threads[pid]? = some t → t.ended = true →
    Wrapped (own pid w.log)
  spared : Meets (Spared host) w.log

section
variable {known : String → Prop} {w : World Store Request Cmd Resp Err}
  (h : Attempts host init roomId known w) {newer : List LobbyEvent}
include h

/-- A match that an attempt's lookup finds before its insert has its runtime. -/
theorem Attempts.found {read : LobbyEvent} {userId : String} {row : MatchRow}
    (hlog : w.log = newer ++ read :: log) (hfirst : ∀ e ∈ log, e.pid = read.pid → e.cmd.creates = false)
    (hcall : read.toCall = ⟨.findActiveByUserId userId, some (some row)⟩)
    (huser : (init.room roomId).ownerId = some userId ∨ (init.room roomId).guestId = some userId) :
    HasRuntime host known log row.id := by
  have hrun := h.run
  rw [hlog] at hrun
  obtain ⟨hrun₀, -, hdo⟩ := hrun.of_split
  obtain ⟨hmem, hplayer, hlive⟩ := findActive_mem (hdo.of_call hcall).1.symm
  have hsuf : log <:+ w.log := hlog ▸ (List.suffix_cons ..).trans (List.suffix_append ..)
  rcases row_origin hrun₀ hmem with ⟨first, hfirst', hages⟩ | ⟨insert, hins, player1Id, player2Id, hrow⟩
  · left
    rw [hages.id]
    exact h.known first hfirst' (hages.live hlive) userId ((hages.isPlayer userId).symm.trans hplayer) huser
  · -- The attempt that inserted it is over.
    right
    have hcreates : insert.cmd.creates = true := by
      obtain ⟨seed, p1, p2, hcmd, -⟩ := hrow
      rw [hcmd]
      rfl
    have hne : insert.pid ≠ read.pid := fun heq => by simp [hfirst insert hins heq] at hcreates
    have horder := h.turned.order
    rw [hlog] at horder
    have hle := (List.pairwise_cons.1 (List.pairwise_append.1 horder).2.1).1 insert hins
    have hlt : insert.pid < read.pid := Nat.lt_of_le_of_ne hle hne
    have hread := h.turned.pids read (hlog ▸ by simp)
    have ht := List.getElem?_eq_getElem (Nat.lt_trans hlt hread)
    have hover := h.turned.ended insert.pid _ ht (by omega)
    have hwrapped := h.wrapped insert.pid _ ht hover
    rw [h.turned.own_eq hlog hlt] at hwrapped
    refine ⟨player1Id, player2Id, hwrapped.initialised hrun₀ (fun e hmem' => h.requests e (hsuf.mem hmem')) ?_
      hins hrow⟩
    have hspared := h.spared
    rw [hlog] at hspared
    exact hspared.of_append.2

/-- What an attempt records has its runtime, if the room was handled at every
earlier call. -/
theorem Attempts.fetched {name : String} {pid : Nat} (hlog : w.log = newer ++ log)
    (hrun : AttemptRun host roomId init log s)
    (hrooms : ∀ newer' e older, log = newer' ++ e :: older → RoomHandled host init roomId known older e.before)
    (hfetched : Fetched roomId (own pid log) name matchId) :
    name = roomId ∧ HasRuntime host known log matchId := by
  have hsuf : ∀ {l₁ l₂ : List LobbyEvent} {e : LobbyEvent}, log = l₁ ++ e :: l₂ → l₂ <:+ log := fun heq =>
    heq ▸ (List.suffix_cons ..).trans (List.suffix_append ..)
  cases hfetched with
  | @adopted userId ownerId guestId row hname hfirst hclaim huser hfound hid =>
    refine ⟨hname, ?_⟩
    obtain ⟨read, hmem, hpid, hcall⟩ := mem_own.1 hfound
    obtain ⟨l₁, l₂, heq⟩ := List.append_of_mem hmem
    have hplayer : (init.room roomId).ownerId = some userId ∨ (init.room roomId).guestId = some userId := by
      obtain ⟨n, claim, o, heq', -, hclaim'⟩ := claim_event hclaim
      have hrun' := hrun
      rw [heq'] at hrun'
      obtain ⟨-, hroom, -, howner, hguest⟩ := claims_room hrun'.of_split.2.2 hclaim'
      obtain ⟨hnone | ⟨-, howner', hguest'⟩, -⟩ := hrooms n claim o heq' _ (peek_of_room hroom)
      · exact absurd hnone hroom
      · rcases huser with rfl | rfl
        · exact .inl (howner'.symm.trans (filled_some howner).1)
        · exact .inr (hguest'.symm.trans (filled_some hguest).1)
    have hlog' : w.log = (newer ++ l₁) ++ read :: l₂ := by rw [hlog, heq, List.append_assoc]
    have hlookup := h.found hlog' (fun e hmem' hpid' => ?_) hcall hplayer
    · exact hid ▸ hlookup.mono (hsuf heq)
    · exact hfirst _ (mem_own.2 ⟨e, (hsuf heq).mem hmem', hpid'.trans hpid, rfl⟩)
  | @inserted player1Id player2Id seed p1 p2 row hname hwrapped hinsert hid =>
    refine ⟨hname, .inr ⟨player1Id, player2Id, ?_⟩⟩
    obtain ⟨insert, hmem, rfl, hcall⟩ := mem_own.1 hinsert
    obtain ⟨l₁, l₂, heq⟩ := List.append_of_mem hmem
    have hrun' := hrun
    rw [heq] at hrun'
    obtain ⟨hrow, hafter⟩ := hrun'.of_split.2.2.of_call hcall
    have hcmd : insert.cmd = .createMatch player1Id player2Id seed p1 p2 := congrArg Call.cmd hcall
    have htook : Took host insert := by
      rw [Took, hcmd]
      exact hafter
    have hrow : row = newRow (host.uuid insert.before.drawn) player1Id player2Id seed p1 p2 := hrow
    have hid' : matchId = host.uuid insert.before.drawn :=
      hid.symm.trans (congrArg (fun x : MatchRow => x.id) hrow)
    have hspared := h.spared
    rw [hlog] at hspared
    exact hwrapped.initialised hrun (fun e hmem' => h.requests e (hlog ▸ List.mem_append_right _ hmem'))
      hspared.of_append hmem ⟨seed, p1, p2, hcmd, htook, hid'⟩
  | @read hash view hread hview hname hid =>
    obtain ⟨read, hmem, -, hcall⟩ := mem_own.1 hread
    obtain ⟨l₁, l₂, heq⟩ := List.append_of_mem hmem
    have hrun' := hrun
    rw [heq] at hrun'
    have hhash : hash = read.before.room roomId := (hrun'.of_split.2.2.of_call hcall).1
    obtain ⟨key, hkey, rfl⟩ := Option.map_eq_some_iff.1 hview
    have hroom : hash.roomId = some key := (filled_some hkey).1
    have hpeek : read.before.peek roomId = some hash := by
      rw [hhash]
      refine peek_of_room ?_
      rw [← hhash, hroom]
      simp
    obtain ⟨hkept, hmatch⟩ := hrooms l₁ read l₂ heq hash hpeek
    refine ⟨?_, (hmatch matchId hid).mono (hsuf heq)⟩
    rcases hkept with hnone | ⟨hroom', -⟩
    · rw [hnone] at hroom
      cases hroom
    · rw [hroom] at hroom'
      exact hname.symm.trans (Option.some.inj hroom')

/-- **The room is handled at every call**: its match has a runtime. -/
theorem Attempts.handled (hlog : w.log = newer ++ log) (hrun : AttemptRun host roomId init log s) :
    RoomHandled host init roomId known log s := by
  refine hrun.history_induction (motive := fun log s => ∀ newer : List LobbyEvent, w.log = newer ++ log →
    RoomHandled host init roomId known log s) ?_ ?_ ?_ newer hlog
  · intro newer _ hash hpeek
    have hroom : init.room roomId = hash := by rw [room_eq, hpeek]; rfl
    subst hroom
    refine ⟨.inr ⟨h.room.room, rfl, rfl⟩, fun matchId hmatch => ?_⟩
    rw [h.room.unmatched] at hmatch
    cases hmatch
  · intro log s ms ih newer hlog hash hpeek
    rcases peek_time host ms s roomId with heq | heq <;> rw [heq] at hpeek
    · exact ih newer hlog hash hpeek
    · cases hpeek
  · intro log e hrun hguard hdo hpast ih newer hlog hash hpeek
    have hlog' : w.log = (newer ++ [e]) ++ log := by rw [hlog, List.append_assoc]; rfl
    have hbefore := ih _ hlog'
    have hguard := hguard (h.requests e (hlog ▸ by simp))
    have hsuf : log <:+ e :: log := List.suffix_cons ..
    rcases event_room roomId hdo with hsame | ⟨-, hchange⟩
    · obtain ⟨hkept, hmatch⟩ := hbefore hash (hsame ▸ hpeek)
      exact ⟨hkept, fun matchId hid => (hmatch matchId hid).mono hsuf⟩
    · rw [hpeek] at hchange
      generalize e.cmd = c at hchange hguard
      cases hchange with
      | opened => exact hguard.elim
      | joined => exact hguard.elim
      | left => exact hguard.elim
      | @recorded code matchId ownerId guestId hfresh =>
        constructor
        · by_cases hroom : (e.before.room roomId).roomId = none
          · exact .inl hroom
          · exact (hbefore _ (peek_of_room hroom)).1
        · intro matchId' hid
          obtain rfl : matchId = matchId' := Option.some.inj (filled_some hid).1
          have hrooms : ∀ newer' e' older, log = newer' ++ e' :: older →
              RoomHandled host init roomId known older e'.before := by
            intro newer' e' older heq
            refine hpast newer' e' older heq (newer ++ e :: newer' ++ [e']) ?_
            rw [hlog, heq]
            simp
          exact (h.fetched hlog' hrun hrooms hguard).2.mono hsuf

end

/-- The match an attempt was answered by its record, the one it returns, has
its runtime at that time. -/
def HandedOff (host : Host) (known : String → Prop) (log : List LobbyEvent) (e : LobbyEvent) : Prop :=
  ∀ name code matchId ownerId guestId recorded,
    e.toCall = ⟨.roomMatchDone name code matchId ownerId guestId, some recorded⟩ →
    HasRuntime host known log recorded

theorem Attempts.handed {known : String → Prop} {w : World Store Request Cmd Resp Err}
    (h : Attempts host init roomId known w) : Meets (HandedOff host known) w.log := by
  suffices hall : ∀ log newer, w.log = newer ++ log → Meets (HandedOff host known) log from hall w.log [] rfl
  intro log
  induction log with
  | nil => exact fun _ _ => trivial
  | cons e log ih =>
    intro newer hlog
    have hlog' : w.log = (newer ++ [e]) ++ log := by rw [hlog, List.append_assoc]; rfl
    refine ⟨fun name code matchId ownerId guestId recorded hcall => ?_, ih _ hlog'⟩
    have hrun := h.run
    rw [hlog] at hrun
    obtain ⟨hrun₀, hguard, hdo⟩ := hrun.of_split
    have hguard := hguard (h.requests e (hlog ▸ by simp))
    rw [show e.cmd = _ from congrArg Call.cmd hcall] at hguard
    have hrooms : ∀ newer' e' older, log = newer' ++ e' :: older →
        RoomHandled host init roomId known older e'.before := by
      intro newer' e' older heq
      have hpast : w.log = (newer ++ e :: newer' ++ [e']) ++ older := by
        rw [hlog, heq]
        simp
      rw [heq] at hrun₀
      exact h.handled hpast hrun₀.of_split.1
    obtain ⟨rfl, hfetched⟩ := h.fetched hlog' hrun₀ hrooms hguard
    have hreply : recorded = (evalRoomMatchDone name code matchId ownerId guestId e.before).1 :=
      (hdo.of_call hcall).1
    cases hfresh : filled (e.before.room name).matchId with
    | none =>
      rw [evalRoomMatchDone, hfresh] at hreply
      exact hreply ▸ hfetched
    | some first =>
      rw [evalRoomMatchDone_again hfresh] at hreply
      rw [hreply]
      exact (h.handled hlog' hrun₀ _ (peek_of_filled hfresh)).2 first hfresh

/-- **A handed-off match has a runtime** in every sequence of attempts on a
full room, whatever calls fail, that spares the calls from an insert to the
shops. `known` are the matches that have one before. -/
theorem handed_off_initialised (host : Host) (init : Store) (roomId : String)
    (hroom : FullRoom init roomId) (known : String → Prop)
    (hknown : ∀ row ∈ init.matchRows, live row = true → ∀ userId, isPlayer row userId = true →
      ((init.room roomId).ownerId = some userId ∨ (init.room roomId).guestId = some userId) → known row.id)
    (moves : List (Move Request Nat)) (hstart : ∀ q, .start q ∈ moves → q = .startRoomMatch roomId)
    (hturn : (pool host).inTurn ⟨init, [], []⟩ moves = true)
    (hspared : Meets (Spared host) ((pool host).run ⟨init, [], []⟩ moves).log) :
    Meets (HandedOff host known) ((pool host).run ⟨init, [], []⟩ moves).log := by
  have hrequests := (pool host).run_requests init moves hstart
  have hobeys : World.Obeys (fun q h c => q = .startRoomMatch roomId → AttemptGuard roomId h c)
      (fun q _ h => q = .startRoomMatch roomId → Wrapped h) ((pool host).run ⟨init, [], []⟩ moves) :=
    Pool.run_obeys (program_attempts roomId) moves
  have hattempts : Attempts host init roomId known ((pool host).run ⟨init, [], []⟩ moves) :=
    { run := (pool host).run_chronicle (fun q => (program_attempts roomId q).mono fun _ _ _ _ => trivial) moves
      room := hroom
      known := hknown
      requests := hrequests.2
      turned := (pool host).run_turned hturn
      wrapped := fun pid t ht hover => by
        have hq := hrequests.1 t (List.mem_of_getElem? ht)
        have hend := hobeys.threads pid t ht
        cases hrest : t.rest with
        | call c k => simp [Thread.ended, hrest] at hover
        | pure a =>
          rw [hrest] at hend
          exact hend hq
        | throw err =>
          rw [hrest] at hend
          exact hend hq
      spared := hspared }
  exact hattempts.handed

/-! ## An attempt that stops after its insert -/

/-- A lobby with one full room. -/
def fullRoom : Store :=
  { rooms := put (fun _ => {}) "r" ⟨some ⟨{ newRoom "r" "ABC234" "ann" 0 with
      guestId := some "bob", status := some .full }, none⟩⟩ }

theorem fullRoom_full : FullRoom fullRoom "r" := ⟨by decide, by decide, by decide⟩

/-- The first attempt's lookup of the players' names fails, the second adopts
its row. -/
def bare : List (Move Request Nat) :=
  [.start (.startRoomMatch "r")] ++ answers 0 7 ++ [.run 0 .refused] ++ answers 0 1 ++
    [.start (.startRoomMatch "r")] ++ answers 1 6

/-- The match a record answered. -/
def recordedOf : Call Cmd Resp → Option String
  | ⟨.roomMatchDone _ _ _ _ _, some recorded⟩ => some recorded
  | _ => none

/-- The first write of a runtime. -/
def Cmd.initialises : Cmd → Bool
  | .hsetRuntime _ _ => true
  | _ => false

theorem handedOff_recorded {known : String → Prop} (h : HandedOff host known log e) {recorded : String}
    (hrec : recordedOf e.toCall = some recorded) : HasRuntime host known log recorded := by
  obtain ⟨call, pid, q, before, after⟩ := e
  unfold recordedOf at hrec
  split at hrec
  · next hcall =>
    cases hrec
    exact h _ _ _ _ _ _ hcall
  · cases hrec

set_option maxRecDepth 100000 in
/-- The second attempt returns a match whose runtime was never written. -/
theorem handed_off_bare : FullRoom fullRoom "r" ∧ (pool plainHost).inTurn ⟨fullRoom, [], []⟩ bare = true ∧
    ¬ Meets (HandedOff plainHost fun _ => False) (lobby fullRoom bare).log := by
  have hrec : ∃ e ∈ (lobby fullRoom bare).log, recordedOf e.toCall = some "uuu" := by decide
  have hnone : ∀ e ∈ (lobby fullRoom bare).log, e.cmd.initialises = false := by decide
  refine ⟨fullRoom_full, by decide, ?_⟩
  generalize (lobby fullRoom bare).log = log at hrec hnone
  intro hmeets
  obtain ⟨e, hmem, hcall⟩ := hrec
  obtain ⟨l₁, l₂, rfl⟩ := List.append_of_mem hmem
  rcases handedOff_recorded hmeets.of_append.1 hcall with hknown | ⟨player1Id, player2Id, hinit⟩
  · exact hknown
  · obtain ⟨hash, e', hmem', hcmd, -⟩ := hinit.hash
    have := hnone e' (by simp [hmem'])
    rw [hcmd] at this
    cases this

/-- The first attempt's insert is refused, the second makes the match. -/
def retried : List (Move Request Nat) :=
  [.start (.startRoomMatch "r")] ++ answers 0 6 ++ [.run 0 .refused] ++ answers 0 1 ++
    [.start (.startRoomMatch "r")] ++ answers 1 22

/-- The call is answered, or its attempt has added no row. -/
def addsNone (log : List LobbyEvent) (e : LobbyEvent) : Bool :=
  e.reply.isSome || (e :: log).all fun e' =>
    e'.pid ≠ e.pid || e'.after.matchRows.length = e'.before.matchRows.length

theorem spared_of_addsNone (h : addsNone log e = true) : Spared host log e := by
  intro insert matchId player1Id player2Id hmem hpid hins hnone
  obtain ⟨seed, p1, p2, hcmd, htook, -⟩ := hins
  rw [addsNone, hnone, Option.isSome_none, Bool.false_or] at h
  have hrows := List.all_eq_true.1 h insert hmem
  have hmore : insert.after.matchRows.length = insert.before.matchRows.length + 1 := by
    rw [htook, hcmd]
    exact List.length_append
  simp [hpid, hmore] at hrows

theorem meets_spared (h : Meets (fun log e => addsNone log e = true) log) : Meets (Spared host) log := by
  induction log with
  | nil => trivial
  | cons e log ih => exact ⟨spared_of_addsNone h.1, ih h.2⟩

set_option maxRecDepth 100000 in
theorem handed_off_retried : Meets (HandedOff plainHost fun _ => False) (lobby fullRoom retried).log ∧
    ∃ e ∈ (lobby fullRoom retried).log, recordedOf e.toCall = some "uuuuu" := by
  have hspared : Meets (fun log e => addsNone log e = true) (lobby fullRoom retried).log := by decide
  have hstart : ∀ q, .start q ∈ retried → q = .startRoomMatch "r" := by
    intro q hq
    simpa [retried, answers] using hq
  exact ⟨handed_off_initialised plainHost fullRoom "r" fullRoom_full (fun _ => False) (by simp [fullRoom])
    retried hstart (by decide) (meets_spared hspared), by decide⟩

end AutoChess.Lobby
