/-
What a request's own earlier calls guarantee when it opens a room, inserts a
match or records one in a room (`Guard`), proved of every program of the
lobby. Every other call is free.
-/
import AutoChess.Lobby.Rooms

namespace AutoChess.Lobby

open AutoChess.Runtime Calls

/-- The calls a request has made, newest first. -/
abbrev History := List (Call Cmd Resp)

/-- Calls a request may make at any time. -/
def Free : Cmd → Prop
  | .setUserRoomNX _ _ | .setUserRoom _ _ | .hsetRoom _ _ | .roomStartMatch _ _
  | .roomMatchDone _ _ _ _ _ | .createMatch _ _ _ _ _ | .publishToRoom _ => False
  | _ => True

/-- The first write of a room. -/
def Cmd.opens : Cmd → Bool
  | .hsetRoom _ _ => true
  | _ => false

/-- The claim of a room's handoff. -/
def Cmd.claims : Cmd → Bool
  | .roomStartMatch _ _ => true
  | _ => false

/-- The insert of a match. -/
def Cmd.creates : Cmd → Bool
  | .createMatch _ _ _ _ _ => true
  | _ => false

/-- The request has inserted no match. -/
def Uncreated (h : History) : Prop := ∀ c ∈ h, c.cmd.creates = false

/-- The request has claimed no handoff. -/
def Unclaimed (h : History) : Prop := ∀ c ∈ h, c.cmd.claims = false

/-- The request holds the handoff of the room, claimed for these players. -/
def Claimed (h : History) (roomId ownerId guestId : String) : Prop :=
  ∃ token, (⟨.roomStartMatch roomId token, some (.claimed ownerId guestId)⟩ : Call Cmd Resp) ∈ h

/-- No other handoff is claimed. -/
def OnlyClaim (h : History) (roomId ownerId guestId : String) : Prop :=
  ∀ roomId' ownerId' guestId', Claimed h roomId' ownerId' guestId' →
    roomId' = roomId ∧ ownerId' = ownerId ∧ guestId' = guestId

/-- The request holds the user's membership for a room it opens. -/
def Holds (h : History) (userId : String) : Prop :=
  (⟨.setUserRoomNX userId "pending", some true⟩ : Call Cmd Resp) ∈ h

/-- A lookup found the player in no match. -/
def SawNone (h : History) (userId : String) : Prop :=
  (⟨.findActiveByUserId userId, some none⟩ : Call Cmd Resp) ∈ h

/-- What an insert follows: no other insert, both players were looked up and had
no match, and under a claim they are the room's. -/
structure CreateGuard (h : History) (player1Id player2Id : String) : Prop where
  first : Uncreated h
  player1 : SawNone h player1Id
  player2 : SawNone h player2Id
  claimed : ∀ roomId ownerId guestId, Claimed h roomId ownerId guestId →
    player1Id = ownerId ∧ player2Id = guestId

/-- Where the match comes from that a request records in a room: adopted or
created after a claim, or read in the room itself. -/
inductive DoneGuard (h : History) (roomId matchId ownerId guestId : String) : Prop where
  | adopted {userId : String} {row : MatchRow} {newer older : History}
      (hh : h = newer ++ (⟨.findActiveByUserId userId, some (some row)⟩ : Call Cmd Resp) :: older)
      (hclaim : Claimed older roomId ownerId guestId) (huser : userId = ownerId ∨ userId = guestId)
      (hid : row.id = matchId)
  | created {seed : String} {p1 p2 : RuntimePlayerState} {row : MatchRow} {newer older : History}
      (hh : h = newer ++ (⟨.createMatch ownerId guestId seed p1 p2, some row⟩ : Call Cmd Resp) :: older)
      (hclaim : Claimed older roomId ownerId guestId) (hid : row.id = matchId)
  | read {key : String} {hash : RoomHash} {view : RoomView}
      (hread : (⟨.hgetallRoom key, some hash⟩ : Call Cmd Resp) ∈ h)
      (hview : roomHashToView hash = some view) (hroom : view.roomId = roomId)
      (hid : view.matchId = some matchId) (howner : view.ownerId = ownerId) (hguest : view.guestId.getD "" = guestId)

/-- What a publication follows: a record, the read of a room the publisher
joined or left, or the close of one. -/
inductive PublishGuard : History → RoomPublication → Prop where
  | matched {code matchId recorded ownerId guestId : String} {older : History} (view : RoomView)
      (hstatus : view.status = .matched) :
      PublishGuard ((⟨.roomMatchDone view.roomId code matchId ownerId guestId, some recorded⟩ :
        Call Cmd Resp) :: older) ⟨view.roomId, .room view, [ownerId, guestId]⟩
  | joined {roomId userId : String} {hash : RoomHash} {view : RoomView} {older : History}
      (hview : roomHashToView hash = some view) :
      PublishGuard ((⟨.hgetallRoom roomId, some hash⟩ : Call Cmd Resp) ::
        ⟨.roomJoin roomId userId, some .ok⟩ :: older) ⟨roomId, .room view, [view.ownerId, userId]⟩
  | left {roomId userId : String} {hash : RoomHash} {view : RoomView} {older : History}
      (hview : roomHashToView hash = some view) :
      PublishGuard ((⟨.hgetallRoom roomId, some hash⟩ : Call Cmd Resp) ::
        ⟨.roomLeave roomId userId, some .guest⟩ :: older) ⟨roomId, .room view, [view.ownerId]⟩
  | closed {roomId userId code ownerId guestId : String} {expiresAt : Nat} {older : History} :
      PublishGuard ((⟨.roomLeave roomId userId, some .owner⟩ : Call Cmd Resp) :: older)
        ⟨roomId, .closed roomId code ownerId guestId expiresAt, [guestId]⟩

/-- What the calls `h` of a request guarantee when it makes a call. -/
def Guard (h : History) : Cmd → Prop
  | .setUserRoomNX _ value => value = "pending"
  | .hsetRoom roomId hash => ∃ newer older code ownerId expiresAt,
      h = newer ++ (⟨.randomUUID, some roomId⟩ : Call Cmd Resp) :: older ∧
      (∀ c ∈ newer, c.cmd.opens = false) ∧ hash = newRoom roomId code ownerId expiresAt ∧
      Holds h ownerId
  | .setUserRoom userId roomId => ∃ code expiresAt,
      (⟨.hsetRoom roomId (newRoom roomId code userId expiresAt), some ()⟩ : Call Cmd Resp) ∈ h
  | .roomStartMatch _ _ => Unclaimed h
  | .createMatch player1Id player2Id _ _ _ => CreateGuard h player1Id player2Id
  | .roomMatchDone roomId _ matchId ownerId guestId => DoneGuard h roomId matchId ownerId guestId
  | .publishToRoom publication => PublishGuard h publication
  | _ => True

variable {h : History} {host : Host}

abbrev Guarded {α : Type} (h : History) (p : M α) : Prop := p.Obeys Guard (fun _ _ => True) h

theorem guard_of_free {c : Cmd} (hc : Free c) : Guard h c := by
  cases c <;> trivial

theorem guarded_of_free {α : Type} {p : M α} (hp : p.Issues Free) : Guarded h p :=
  (Prog.Issues.obeys hp fun _ _ => guard_of_free).mono fun _ _ _ _ => trivial

theorem Free.claims {c : Cmd} (hc : Free c) : c.claims = false := by
  cases c <;> first | rfl | exact hc.elim

theorem Free.creates {c : Cmd} (hc : Free c) : c.creates = false := by
  cases c <;> first | rfl | exact hc.elim

theorem Uncreated.append {new : History} (hnew : ∀ c ∈ new, Free c.cmd) (hh : Uncreated h) :
    Uncreated (new ++ h) :=
  List.forall_mem_append.2 ⟨fun c hc => (hnew c hc).creates, hh⟩

theorem Unclaimed.append {new : History} (hnew : ∀ c ∈ new, Free c.cmd) (hh : Unclaimed h) :
    Unclaimed (new ++ h) :=
  List.forall_mem_append.2 ⟨fun c hc => (hnew c hc).claims, hh⟩

theorem OnlyClaim.append {new : History} {roomId ownerId guestId : String}
    (hnew : ∀ c ∈ new, Free c.cmd) (hh : OnlyClaim h roomId ownerId guestId) :
    OnlyClaim (new ++ h) roomId ownerId guestId := by
  rintro roomId' ownerId' guestId' ⟨token, hmem⟩
  rcases List.mem_append.1 hmem with hmem | hmem
  · exact (hnew _ hmem).elim
  · exact hh _ _ _ ⟨token, hmem⟩

theorem Unclaimed.only {roomId token ownerId guestId : String} (hh : Unclaimed h) :
    OnlyClaim ((⟨.roomStartMatch roomId token, some (.claimed ownerId guestId)⟩ : Call Cmd Resp) :: h)
      roomId ownerId guestId := by
  rintro roomId' ownerId' guestId' ⟨token', hmem⟩
  rcases List.mem_cons.1 hmem with heq | hmem
  · cases heq
    exact ⟨rfl, rfl, rfl⟩
  · cases hh _ hmem

theorem Unclaimed.not_claimed {roomId ownerId guestId : String} (hh : Unclaimed h) :
    ¬ Claimed h roomId ownerId guestId := by
  rintro ⟨token, hmem⟩
  cases hh _ hmem

/-- A free call, then the rest. -/
theorem guarded_call {α : Type} {c : Cmd} {f : Resp c → M α} (hc : Free c)
    (hf : ∀ r, Guarded (⟨c, some r⟩ :: h) (f r)) : Guarded h ((call c).bind f) :=
  Prog.Obeys.perform_bind (guard_of_free hc) hf trivial

theorem free_call {c : Cmd} (hc : Free c) : (call c).Issues Free := Prog.Issues.perform hc _

theorem free_then {α : Type} {c : Cmd} {f : Resp c → M α} (hc : Free c)
    (hf : ∀ r, (f r).Issues Free) : ((call c).bind f).Issues Free := Prog.Issues.perform_bind hc hf

/-! ## Free programs -/

theorem onRuntime_free {α : Type} (matchId : String) (p : Runtime.M α) :
    (onRuntime matchId p).Issues Free :=
  Prog.Issues.embed _ _ _ fun _ => trivial

theorem initializeMatch_free (row : MatchRow) : (initializeMatch host row).Issues Free :=
  free_then (by trivial) fun _ => free_then (by trivial) fun _ => onRuntime_free _ _

theorem joinQueueAt_free (userId : String) (joinedAtMs : Nat) :
    (joinQueueAt userId joinedAtMs).Issues Free := by
  refine free_then (by trivial) fun found => ?_
  cases found with
  | some active => trivial
  | none => exact free_then (by trivial) fun _ => trivial

theorem joinQueue_free (userId : String) (joinedAtMs : Option Nat) :
    (joinQueue userId joinedAtMs).Issues Free := by
  cases joinedAtMs with
  | some ms => exact joinQueueAt_free userId ms
  | none => exact free_then (by trivial) fun ms => joinQueueAt_free userId ms

theorem requeueAfterFailure_free (playerIds : List String) :
    (requeueAfterFailure playerIds).Issues Free := by
  unfold requeueAfterFailure
  split
  · trivial
  · exact free_then (by trivial) fun _ => (free_call (by trivial)).attempt.bind fun _ => trivial

theorem loadRoomIfExists_free (roomId : Option String) : (loadRoomIfExists roomId).Issues Free := by
  unfold loadRoomIfExists
  split
  · trivial
  · exact free_then (by trivial) fun _ => trivial

theorem loadRoom_free (roomId : String) : (loadRoom roomId).Issues Free := by
  refine free_then (by trivial) fun hash => ?_
  split <;> trivial

theorem getMyRoom_free (userId : String) : (getMyRoom userId).Issues Free := by
  refine free_then (by trivial) fun value => ?_
  split
  · trivial
  · refine free_then (by trivial) fun hash => ?_
    split
    · trivial
    · exact (free_call (by trivial)).attempt.bind fun _ => trivial

theorem claimCode_free (roomId : String) : ∀ attempts, (claimCode roomId attempts).Issues Free
  | 0 => trivial
  | attempts + 1 => by
    refine free_then (by trivial) fun code => free_then (by trivial) fun claimed => ?_
    split
    · trivial
    · exact claimCode_free roomId attempts

/-! ## Joining and leaving -/

/-- A view is that of the hash the request read last. -/
theorem loadRoomIfExists_obeys (roomId : Option String) :
    (loadRoomIfExists roomId).Obeys Guard (fun o h' => ∀ view, o = .ok (some view) → ∃ key hash,
      h' = (⟨.hgetallRoom key, some hash⟩ : Call Cmd Resp) :: h ∧ mapped roomId = some key ∧
      roomHashToView hash = some view) h := by
  unfold loadRoomIfExists
  split
  · rintro _ ⟨⟩
  · next key hkey =>
    refine Prog.Obeys.perform_bind (by trivial) (fun hash => ?_) (by simp)
    intro view heq
    exact ⟨key, hash, rfl, hkey, Except.ok.inj heq⟩

/-- A room that was just joined is announced as it is read then. -/
theorem announceJoin_guarded (userId roomId : String) :
    Guarded ((⟨.roomJoin roomId userId, some .ok⟩ : Call Cmd Resp) :: h) (announceJoin userId roomId) := by
  refine Prog.Obeys.bind ((loadRoomIfExists_obeys (some roomId)).mono fun o h' _ hview => ?_)
  cases o with
  | error e => trivial
  | ok room =>
    cases room with
    | none => trivial
    | some room =>
      obtain ⟨key, hash, rfl, hkey, hview⟩ := hview room rfl
      obtain rfl : roomId = key := Option.some.inj (Option.filter_eq_some_iff.1 hkey).1
      exact Prog.Obeys.perform_bind (PublishGuard.joined hview) (fun _ => trivial) trivial

theorem enterRoom_guarded (userId roomId : String) : Guarded h (enterRoom userId roomId) := by
  refine guarded_call (by trivial) fun active => ?_
  split
  · trivial
  · refine guarded_call (by trivial) fun queued => ?_
    split
    · trivial
    · refine guarded_call (by trivial) fun reply => ?_
      cases reply with
      | ok => exact announceJoin_guarded userId roomId
      | _ => trivial

theorem joinRoom_guarded (userId code : String) : Guarded h (joinRoom userId code) := by
  unfold joinRoom
  split
  · trivial
  · refine guarded_call (by trivial) fun value => ?_
    split
    · trivial
    · refine guarded_call (by trivial) fun own => ?_
      split
      · refine guarded_of_free ((loadRoomIfExists_free _).bind fun existing => ?_)
        cases existing with
        | none => trivial
        | some existing =>
          dsimp only
          split <;> trivial
      · exact enterRoom_guarded userId _

theorem leaveRoom_guarded (userId : String) : Guarded h (leaveRoom userId) := by
  refine guarded_call (by trivial) fun value => ?_
  split
  · trivial
  · refine guarded_call (by trivial) fun before => guarded_call (by trivial) fun reply => ?_
    cases reply with
    | missing => exact guarded_of_free ((free_call (by trivial)).attempt.bind fun _ => trivial)
    | owner =>
      unfold announceClosed
      dsimp only
      split
      · trivial
      · exact Prog.Obeys.bind (Prog.Obeys.perform PublishGuard.closed (fun _ => trivial) trivial)
    | guest =>
      refine Prog.Obeys.bind (Prog.Obeys.perform_bind (by trivial) (fun hash => ?_) trivial)
      cases hview : roomHashToView hash with
      | none => trivial
      | some room => exact Prog.Obeys.perform_bind (PublishGuard.left hview) (fun _ => trivial) trivial

/-! ## Opening a room -/

theorem openRoom_guarded {ownerId : String} (hheld : Holds h ownerId) :
    Guarded h (openRoom ownerId) := by
  refine guarded_call (by trivial) fun active => ?_
  split
  · trivial
  · refine guarded_call (by trivial) fun queued => ?_
    split
    · trivial
    · refine guarded_call (by trivial) fun roomId => ?_
      -- Only code claims and the clock stand between the draw and the write.
      refine Prog.Obeys.bind ((Prog.Issues.obeys (claimCode_free roomId _)
        fun _ _ => guard_of_free).mono fun o h' _ hnew => ?_)
      obtain ⟨new, rfl, hfree⟩ := hnew
      cases o with
      | error e => trivial
      | ok code =>
        refine guarded_call (by trivial) fun now => ?_
        have hopens : ∀ c ∈ ((⟨.dateNow, some now⟩ : Call Cmd Resp) :: new), c.cmd.opens = false := by
          intro c hc
          rcases List.mem_cons.1 hc with rfl | hc
          · rfl
          · have := hfree c hc
            cases hcmd : c.cmd <;> rw [hcmd] at this <;> first | rfl | exact this.elim
        have hheld' : Holds ((⟨.dateNow, some now⟩ : Call Cmd Resp) ::
            (new ++ (⟨.randomUUID, some roomId⟩ : Call Cmd Resp) :: ⟨.zscore ownerId, some queued⟩ ::
              ⟨.findActiveByUserId ownerId, some active⟩ :: h)) ownerId := by
          have := List.mem_append_right new (List.mem_cons_of_mem (⟨.randomUUID, some roomId⟩ : Call Cmd Resp)
            (List.mem_cons_of_mem (⟨.zscore ownerId, some queued⟩ : Call Cmd Resp)
              (List.mem_cons_of_mem (⟨.findActiveByUserId ownerId, some active⟩ : Call Cmd Resp) hheld)))
          exact List.mem_cons_of_mem _ this
        refine Prog.Obeys.perform_bind ⟨_, _, code, ownerId, _, rfl, hopens, rfl, hheld'⟩ (fun _ => ?_)
          trivial
        refine guarded_call (by trivial) fun _ => ?_
        refine Prog.Obeys.perform_bind ⟨code, _, List.mem_cons_of_mem _ (List.mem_cons_self ..)⟩
          (fun _ => trivial) trivial

theorem createRoom_guarded (ownerId : String) : Guarded h (createRoom ownerId) := by
  refine Prog.Obeys.perform_bind rfl (fun slot => ?_) trivial
  cases slot with
  | false => trivial
  | true =>
    have hheld : Holds ((⟨.setUserRoomNX ownerId "pending", some true⟩ : Call Cmd Resp) :: h) ownerId :=
      List.mem_cons_self ..
    refine Prog.Obeys.bind (Prog.Obeys.attempt ((openRoom_guarded hheld).mono fun o h' _ _ => ?_))
    cases o with
    | ok view => trivial
    | error e =>
      exact guarded_of_free ((free_call (by trivial)).attempt.bind fun _ => trivial)

/-! ## Creating a match -/

theorem SawNone.mono {h' : History} {userId : String} (hsaw : SawNone h userId) (hsuf : h <:+ h') :
    SawNone h' userId := hsuf.subset hsaw

theorem CreateGuard.append {new : History} {player1Id player2Id : String}
    (hnew : ∀ c ∈ new, Free c.cmd) (hh : CreateGuard h player1Id player2Id) :
    CreateGuard (new ++ h) player1Id player2Id := by
  have hsuf : h <:+ new ++ h := List.suffix_append _ _
  refine ⟨hh.first.append hnew, hh.player1.mono hsuf, hh.player2.mono hsuf,
    fun roomId ownerId guestId hclaim => ?_⟩
  obtain ⟨token, hmem⟩ := hclaim
  rcases List.mem_append.1 hmem with hmem | hmem
  · exact (hnew _ hmem).elim
  · exact hh.claimed roomId ownerId guestId ⟨token, hmem⟩

theorem Claimed.mono {h' : History} {roomId ownerId guestId : String}
    (hclaim : Claimed h roomId ownerId guestId) (hsuf : h <:+ h') :
    Claimed h' roomId ownerId guestId :=
  hclaim.imp fun _ hmem => hsuf.subset hmem

/-- The insert is the last call, and its reply is the row. -/
theorem createMatch_obeys {player1Id player2Id : String} (hguard : CreateGuard h player1Id player2Id) :
    (createMatch player1Id player2Id).Obeys Guard (fun o h' => ∀ row, o = .ok row →
      ∃ seed p1 p2 older, h <:+ older ∧
        h' = (⟨.createMatch player1Id player2Id seed p1 p2, some row⟩ : Call Cmd Resp) :: older) h := by
  refine Prog.Obeys.perform_bind (by trivial) (fun seed => ?_) (by simp)
  have hguard' : CreateGuard ([(⟨.randomUUID, some seed⟩ : Call Cmd Resp)] ++ h) player1Id player2Id :=
    hguard.append (by simp [Free])
  refine Prog.Obeys.perform hguard' (fun row => ?_) (by simp)
  rintro _ ⟨⟩
  exact ⟨seed, _, _, _, List.suffix_cons _ _, rfl⟩

theorem createMatchForPlayers_obeys {player1Id player2Id : String}
    (hguard : CreateGuard h player1Id player2Id) :
    (createMatchForPlayers host player1Id player2Id).Obeys Guard (fun o h' => ∀ created,
      o = .ok created → ∃ seed p1 p2 row newer older, h <:+ older ∧ row.id = created.matchId ∧
        h' = newer ++
          (⟨.createMatch player1Id player2Id seed p1 p2, some row⟩ : Call Cmd Resp) :: older) h := by
  refine Prog.Obeys.bind ((createMatch_obeys hguard).mono fun o h' _ hrow => ?_)
  cases o with
  | error e => simp
  | ok row =>
    obtain ⟨seed, p1, p2, older, hsuf, rfl⟩ := hrow row rfl
    refine Prog.Obeys.bind ((Prog.Issues.obeys (initializeMatch_free row)
      fun _ _ => guard_of_free).mono fun o h'' _ hnew => ?_)
    obtain ⟨new, rfl, -⟩ := hnew
    cases o with
    | error e => simp
    | ok _ =>
      rintro _ ⟨⟩
      exact ⟨seed, p1, p2, row, new, older, hsuf, rfl, rfl⟩

theorem findBoth_free (player1Id player2Id : String) (swapped : Bool) :
    (findBoth player1Id player2Id swapped).Issues Free := by
  refine (free_call (by trivial)).attempt.bind fun first => ?_
  refine (free_call (by trivial)).attempt.bind fun second => ?_
  cases first <;> cases second <;> trivial

theorem findBoth_obeys (player1Id player2Id : String) (swapped : Bool) :
    (findBoth player1Id player2Id swapped).Obeys Guard (fun o h' => ∀ active, o = .ok active →
      (active.1 = none → SawNone h' player1Id) ∧ (active.2 = none → SawNone h' player2Id)) h := by
  refine Prog.Obeys.bind (Prog.Obeys.attempt (Prog.Obeys.perform (by trivial) (fun first => ?_) ?_))
  · refine Prog.Obeys.bind (Prog.Obeys.attempt (Prog.Obeys.perform (by trivial) (fun second => ?_) ?_))
    · cases swapped <;> rintro _ ⟨⟩ <;>
        exact ⟨fun hnone => by simp_all [SawNone], fun hnone => by simp_all [SawNone]⟩
    · rintro _ ⟨⟩
  · refine Prog.Obeys.bind (Prog.Obeys.attempt (Prog.Obeys.perform (by trivial) (fun second => ?_) ?_))
    · rintro _ ⟨⟩
    · rintro _ ⟨⟩

theorem settlePair_guarded {player1Id player2Id : String} {swapped : Bool} (hh : Unclaimed h)
    (hfirst : Uncreated h) : Guarded h (settlePair host player1Id player2Id swapped) := by
  refine Prog.Obeys.bind (((findBoth_obeys player1Id player2Id swapped).and
    (Prog.Issues.obeys (findBoth_free player1Id player2Id swapped) fun _ _ => guard_of_free)).mono
      fun o h' _ hsaw => ?_)
  obtain ⟨hsaw, new, rfl, hnew⟩ := hsaw
  cases o with
  | error e => trivial
  | ok active =>
    obtain ⟨h1, h2⟩ := hsaw active rfl
    dsimp only
    split
    · exact guarded_of_free ((requeueAfterFailure_free _).bind fun _ => trivial)
    · next hfree =>
      simp only [Bool.or_eq_true, Option.isSome_iff_ne_none, not_or, not_not] at hfree
      have hguard : CreateGuard (new ++ h) player1Id player2Id :=
        ⟨hfirst.append hnew, h1 hfree.1, h2 hfree.2,
          fun _ _ _ hclaim => absurd hclaim (hh.append hnew).not_claimed⟩
      refine Prog.Obeys.bind (Prog.Obeys.attempt ((createMatch_obeys hguard).mono fun o h'' _ _ => ?_))
      cases o with
      | error e => exact guarded_of_free ((requeueAfterFailure_free _).bind fun _ => trivial)
      | ok row => exact guarded_of_free ((initializeMatch_free row).bind fun _ => trivial)

theorem Unclaimed.cons {c : Cmd} {reply : Option (Resp c)} (hc : Free c) (hh : Unclaimed h) :
    Unclaimed (⟨c, reply⟩ :: h) := List.forall_mem_cons.2 ⟨hc.claims, hh⟩

theorem Uncreated.cons {c : Cmd} {reply : Option (Resp c)} (hc : c.creates = false)
    (hh : Uncreated h) : Uncreated (⟨c, reply⟩ :: h) := List.forall_mem_cons.2 ⟨hc, hh⟩

theorem tryPair_guarded {swapped : Bool} (hh : Unclaimed h) (hfirst : Uncreated h) :
    Guarded h (tryPair host swapped) := by
  refine guarded_call (by trivial) fun players => ?_
  split
  · exact settlePair_guarded (hh.cons (by trivial)) (hfirst.cons rfl)
  · trivial

/-! ## Handoff -/

theorem finishRoomMatch_guarded {view : RoomView} {matchId : String}
    (hdone : DoneGuard h view.roomId matchId view.ownerId (view.guestId.getD "")) :
    Guarded h (finishRoomMatch view matchId) :=
  Prog.Obeys.perform_bind hdone (fun recorded => Prog.Obeys.perform_bind
    (PublishGuard.matched { view with
      guestId := some (view.guestId.getD ""), status := .matched, matchId := some recorded } rfl)
    (fun _ => trivial) trivial) trivial

/-- An orphan was found by a lookup of one of the two; otherwise neither had a
match. -/
theorem findOrphan_obeys (ownerId guestId : String) :
    (findOrphan ownerId guestId).Obeys Guard (fun o h' =>
      (∀ row, o = .ok (some row) → ∃ userId newer older, (userId = ownerId ∨ userId = guestId) ∧
        h <:+ older ∧
        h' = newer ++ (⟨.findActiveByUserId userId, some (some row)⟩ : Call Cmd Resp) :: older) ∧
      (o = .ok none → SawNone h' ownerId ∧ SawNone h' guestId)) h := by
  refine Prog.Obeys.perform_bind (by trivial) (fun found => ?_) (by simp)
  cases found with
  | some row =>
    refine ⟨?_, by simp⟩
    rintro _ ⟨⟩
    exact ⟨ownerId, [], h, .inl rfl, List.suffix_refl h, rfl⟩
  | none =>
    refine Prog.Obeys.perform (by trivial) (fun found => ?_) (by simp)
    cases found with
    | some row =>
      refine ⟨?_, by simp⟩
      rintro _ ⟨⟩
      exact ⟨guestId, [], _, .inr rfl, List.suffix_cons _ _, rfl⟩
    | none => exact ⟨by simp, fun _ => ⟨by simp [SawNone], by simp [SawNone]⟩⟩

theorem findOrphan_free (ownerId guestId : String) : (findOrphan ownerId guestId).Issues Free := by
  refine free_then (by trivial) fun found => ?_
  cases found with
  | some row => trivial
  | none => exact free_call (by trivial)

/-- The match to record was adopted or created under the claim. -/
theorem adoptOrCreate_obeys {roomId ownerId guestId token : String}
    (hclaim : Claimed h roomId ownerId guestId) (honly : OnlyClaim h roomId ownerId guestId)
    (hfirst : Uncreated h) : (adoptOrCreate host roomId ownerId guestId token).Obeys Guard (fun o h' => ∀ matchId,
      o = .ok matchId → DoneGuard h' roomId matchId ownerId guestId) h := by
  refine Prog.Obeys.bind (((findOrphan_obeys ownerId guestId).and
    (Prog.Issues.obeys (findOrphan_free ownerId guestId) fun _ _ => guard_of_free)).mono
      fun o h' hsuf hfound => ?_)
  obtain ⟨hfound, new, rfl, hnew⟩ := hfound
  cases o with
  | error e => simp
  | ok orphan =>
    cases orphan with
    | some row =>
      obtain ⟨userId, newer, older, huser, hsuf', heq⟩ := hfound.1 row rfl
      rintro _ ⟨⟩
      exact .adopted heq (hclaim.mono hsuf') huser rfl
    | none =>
      obtain ⟨hsaw1, hsaw2⟩ := hfound.2 rfl
      have hguard : CreateGuard (new ++ h) ownerId guestId := by
        refine ⟨hfirst.append hnew, hsaw1, hsaw2, fun roomId' ownerId' guestId' hclaim' => ?_⟩
        obtain ⟨-, howner, hguest⟩ := honly.append hnew _ _ _ hclaim'
        exact ⟨howner.symm, hguest.symm⟩
      refine Prog.Obeys.bind (Prog.Obeys.attempt
        ((createMatchForPlayers_obeys hguard).mono fun o h'' _ hcreated => ?_))
      cases o with
      | error e => exact Prog.Obeys.perform_bind (by trivial) (fun _ => by simp [Prog.Obeys]) (by simp)
      | ok created =>
        obtain ⟨seed, p1, p2, row, newer, older, hsuf', hid, rfl⟩ := hcreated created rfl
        rintro _ ⟨⟩
        exact .created rfl (hclaim.mono (hsuf.trans hsuf')) hid

theorem DoneGuard.mono {h' : History} {roomId matchId ownerId guestId : String}
    (hdone : DoneGuard h roomId matchId ownerId guestId) (hsuf : h <:+ h') :
    DoneGuard h' roomId matchId ownerId guestId := by
  obtain ⟨new, rfl⟩ := hsuf
  cases hdone with
  | adopted hh hclaim huser hid =>
    exact .adopted (by rw [hh, List.append_assoc]) hclaim huser hid
  | created hh hclaim hid => exact .created (by rw [hh, List.append_assoc]) hclaim hid
  | read hread hview hroom hid howner hguest =>
    exact .read (List.mem_append_right new hread) hview hroom hid howner hguest

theorem createRoomMatch_guarded {roomId ownerId guestId token : String} {view : Option RoomView}
    (hclaim : Claimed h roomId ownerId guestId) (honly : OnlyClaim h roomId ownerId guestId)
    (hfirst : Uncreated h) : Guarded h (createRoomMatch host roomId ownerId guestId token view) := by
  refine Prog.Obeys.bind ((adoptOrCreate_obeys hclaim honly hfirst).mono fun o h' _ hdone => ?_)
  cases o with
  | error e => trivial
  | ok matchId =>
    have hdone := hdone matchId rfl
    cases view with
    | some view => exact finishRoomMatch_guarded hdone
    | none =>
      exact guarded_call (by trivial) fun now => finishRoomMatch_guarded (hdone.mono (List.suffix_cons _ _))

theorem startRoomMatch_guarded {roomId : String} (hh : Unclaimed h) (hfirst : Uncreated h) :
    Guarded h (startRoomMatch host roomId) := by
  refine Prog.Obeys.bind (((loadRoomIfExists_obeys (some roomId)).and
    (Prog.Issues.obeys (loadRoomIfExists_free (some roomId)) fun _ _ => guard_of_free)).mono
      fun o h' _ hview => ?_)
  obtain ⟨hview, new, rfl, hnew⟩ := hview
  cases o with
  | error e => trivial
  | ok view =>
    refine guarded_call (by trivial) fun token => ?_
    have hunclaimed : Unclaimed (⟨.randomUUID, some token⟩ :: (new ++ h)) :=
      (hh.append hnew).cons (by trivial)
    have huncreated : Uncreated (⟨.randomUUID, some token⟩ :: (new ++ h)) := (hfirst.append hnew).cons rfl
    refine Prog.Obeys.perform_bind hunclaimed (fun claim => ?_) trivial
    split
    · exact createRoomMatch_guarded ⟨token, List.mem_cons_self ..⟩ hunclaimed.only (huncreated.cons rfl)
    · trivial
    · cases view with
      | none => trivial
      | some view =>
        dsimp only
        split
        · next matchId hid =>
          obtain ⟨key, hash, hread, -, hhash⟩ := hview view rfl
          have hmem : (⟨.hgetallRoom key, some hash⟩ : Call Cmd Resp) ∈ new ++ h :=
            hread ▸ List.mem_cons_self ..
          exact finishRoomMatch_guarded (.read
            (List.mem_cons_of_mem _ (List.mem_cons_of_mem _ hmem)) hhash rfl hid rfl rfl)
        · split <;> trivial

theorem startRoomForOwner_guarded {ownerId : String} (hh : Unclaimed h) (hfirst : Uncreated h) :
    Guarded h (startRoomForOwner host ownerId) := by
  refine guarded_call (by trivial) fun roomId => ?_
  refine Prog.Obeys.bind ((Prog.Issues.obeys (loadRoomIfExists_free roomId)
    fun _ _ => guard_of_free).mono fun o h' _ hnew => ?_)
  obtain ⟨new, rfl, hnew⟩ := hnew
  cases o with
  | error e => trivial
  | ok room =>
    cases room with
    | none => trivial
    | some room =>
      dsimp only
      split
      · trivial
      · split
        · trivial
        · exact startRoomMatch_guarded ((hh.cons (by trivial)).append hnew)
            ((hfirst.cons rfl).append hnew)

/-- **Every program of the lobby is guarded**, from its first call on. -/
theorem program_guarded (q : Request) : (program host q).Obeys Guard (fun _ _ => True) [] := by
  have hdrop : ∀ {α : Type} {p : M α}, Guarded [] p → Guarded [] (p.bind fun _ => (pure () : M Unit)) :=
    fun hp => Prog.Obeys.andThen hp (fun _ _ => trivial) fun _ _ => trivial
  have hempty : Unclaimed [] := fun _ hc => by cases hc
  have hfirst : Uncreated [] := fun _ hc => by cases hc
  cases q with
  | joinQueue userId joinedAtMs => exact hdrop (guarded_of_free (joinQueue_free userId joinedAtMs))
  | leaveQueue userId => exact hdrop (guarded_of_free (free_then (by trivial) fun _ => trivial))
  | tryPair swapped => exact hdrop (tryPair_guarded hempty hfirst)
  | createRoom ownerId => exact hdrop (createRoom_guarded ownerId)
  | getMyRoom userId => exact hdrop (guarded_of_free (getMyRoom_free userId))
  | joinRoom userId code => exact hdrop (joinRoom_guarded userId code)
  | leaveRoom userId => exact hdrop (leaveRoom_guarded userId)
  | startRoom ownerId => exact hdrop (startRoomForOwner_guarded hempty hfirst)
  | startRoomMatch roomId => exact hdrop (startRoomMatch_guarded hempty hfirst)
  | finalize matchId status => exact guarded_of_free (free_call (by trivial))

end AutoChess.Lobby
