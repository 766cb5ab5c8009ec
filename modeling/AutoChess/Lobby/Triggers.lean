/-
How the triggers of a room's handoff end. A trigger that holds the claim
throws only after a failed call; one that does not decides by the claim's
answer and the room it read before. On a full room that nobody leaves, with
no failing call and no expiry, all triggers converge on one match unless one
of them read the room before the record and claims after it.
-/
import AutoChess.Lobby.Commands
import AutoChess.Lobby.Handoff

namespace AutoChess.Lobby

open AutoChess.Runtime AutoChess.Shop Calls Expiring

variable {host : Host} {h : History}

/-! ## Endings -/

def matchStarting : Err :=
  .http .conflict "room.match_starting" "Match creation already in progress, please retry"

/-- A call of the request failed. -/
def Failed (h : History) : Prop := ∃ c ∈ h, c.reply = none

/-- The claim was refused, and the room read before shows no match. -/
def Lost (roomId : String) (h : History) : Prop :=
  ∃ token reply drawn older,
    h = (⟨.roomStartMatch roomId token, some reply⟩ : Call Cmd Resp) :: ⟨.randomUUID, drawn⟩ :: older ∧
    (reply = .missing ∨ mapped (some roomId) = none ∨
      ∃ hash rest, older = (⟨.hgetallRoom roomId, some hash⟩ : Call Cmd Resp) :: rest ∧
        (roomHashToView hash = none ∨
          (reply = .notFull ∨ reply = .invalid) ∧ filled hash.matchId = none))

/-- The request was answered the match recorded in the room. -/
def Answered (roomId : String) (h : History) : Prop :=
  ∃ code matchId ownerId guestId recorded,
    (⟨.roomMatchDone roomId code matchId ownerId guestId, some recorded⟩ : Call Cmd Resp) ∈ h

/-- A view is returned once its match was answered as the room's. -/
def Returns (roomId : String) (o : Except Err RoomView) (h : History) : Prop :=
  ∀ view, o = .ok view → ∃ code matchId ownerId guestId recorded,
    (⟨.roomMatchDone roomId code matchId ownerId guestId, some recorded⟩ : Call Cmd Resp) ∈ h ∧
      view.matchId = some recorded

/-- How `startRoomMatch` ends: with a recorded match, after a failed call, told
to retry, or lost. -/
structure Ended (roomId : String) (o : Except Err RoomView) (h : History) : Prop where
  returned : ∃ name, Returns name o h ∧ (name = roomId ∨
    ∃ hash, (⟨.hgetallRoom roomId, some hash⟩ : Call Cmd Resp) ∈ h ∧ filled hash.roomId = some name)
  claimed : ∀ name ownerId guestId, Claimed h name ownerId guestId → Failed h ∨ Answered name h
  refused : ∀ err, o = .error err → Failed h ∨ Lost roomId h ∨
    err = matchStarting ∧ ∃ token, (⟨.roomStartMatch roomId token, some .held⟩ : Call Cmd Resp) ∈ h

theorem steady_call {α : Type} {c : Cmd} {f : Resp c → M α} (hf : ∀ r, (f r).Steady) :
    ((call c).bind f).Steady := Prog.Steady.perform_bind hf

theorem publishOffers_steady (runtime : MatchRuntimeState) (userId : String)
    (offers : List (Option ShopOffer)) : (publishOffers runtime userId offers).Steady :=
  Prog.Steady.perform _ _

theorem resetShop_steady (host : Runtime.Host) (runtime : MatchRuntimeState) (playerId : String) :
    (resetShop host runtime playerId).Steady :=
  Prog.Steady.perform_bind fun _ => publishOffers_steady runtime playerId _

theorem publishState_steady (runtime : MatchRuntimeState) (side : Game.Side) (state : RuntimePlayerState) :
    (publishState runtime side state).Steady :=
  Prog.Steady.both (Prog.Steady.perform _ _) (Prog.Steady.perform _ _)

theorem announceMatch_steady (host : Runtime.Host) (m : Match) (names : PlayerNames) :
    (announceMatch host m names).Steady := by
  refine Prog.Steady.perform_bind fun _ => Prog.Steady.perform_bind fun _ => ?_
  refine Prog.Steady.perform_bind fun _ => (publishState_steady _ _ _).bind fun _ => ?_
  exact (resetShop_steady host _ _).both (resetShop_steady host _ _)

theorem initializeMatch_steady (row : MatchRow) : (initializeMatch host row).Steady :=
  steady_call fun _ => steady_call fun _ => (announceMatch_steady host.toHost row.toMatch _).embed _ _ _

theorem createMatchForPlayers_steady (player1Id player2Id : String) :
    (createMatchForPlayers host player1Id player2Id).Steady := by
  have hcreate : (createMatch player1Id player2Id).Steady :=
    steady_call fun _ => Prog.Steady.perform _ _
  exact hcreate.bind fun row => (initializeMatch_steady row).bind fun _ => trivial

theorem findOrphan_steady (ownerId guestId : String) : (findOrphan ownerId guestId).Steady := by
  refine steady_call fun found => ?_
  cases found with
  | some row => trivial
  | none => exact Prog.Steady.perform _ _

theorem adoptOrCreate_steady (roomId ownerId guestId token : String) :
    (adoptOrCreate host roomId ownerId guestId token).Steady := by
  refine (findOrphan_steady ownerId guestId).bind fun orphan => ?_
  cases orphan with
  | some row => trivial
  | none => exact (createMatchForPlayers_steady ownerId guestId).attempt_bind fun created => trivial

theorem finishRoomMatch_steady (view : RoomView) (matchId : String) :
    (finishRoomMatch view matchId).Steady := steady_call fun _ => steady_call fun _ => trivial

theorem createRoomMatch_steady (roomId ownerId guestId token : String) (view : Option RoomView) :
    (createRoomMatch host roomId ownerId guestId token view).Steady := by
  refine (adoptOrCreate_steady roomId ownerId guestId token).bind fun matchId => ?_
  cases view with
  | some view => exact finishRoomMatch_steady _ matchId
  | none => exact steady_call fun now => finishRoomMatch_steady _ matchId

/-! ## Programs that claim nothing -/

/-- A call other than a claim. -/
abbrev Claimless (c : Cmd) : Prop := c.claims = false

theorem allows_claimless : Allows Claimless :=
  ⟨fun _ => Free.claims, fun _ _ _ _ _ => rfl, fun _ _ _ _ _ => rfl, fun _ => rfl⟩

theorem claimless_of_free {α : Type} {p : M α} (hp : p.Issues Free) : p.Issues Claimless :=
  allows_claimless.of_free hp

theorem claimless_call {α : Type} {c : Cmd} {f : Resp c → M α} (hc : Claimless c)
    (hf : ∀ r, (f r).Issues Claimless) : ((call c).bind f).Issues Claimless :=
  Prog.Issues.perform_bind hc hf

theorem createRoom_claimless (ownerId : String) : (createRoom ownerId).Issues Claimless := by
  refine claimless_call rfl fun slot => ?_
  split
  · trivial
  · refine Prog.Issues.bind (Prog.Issues.attempt ?_) fun view => ?_
    · refine claimless_call rfl fun active => ?_
      split
      · trivial
      · refine claimless_call rfl fun queued => ?_
        split
        · trivial
        · refine claimless_call rfl fun roomId => ?_
          refine (claimless_of_free (claimCode_free roomId _)).bind fun code => ?_
          exact claimless_call rfl fun _ => claimless_call rfl fun _ => claimless_call rfl fun _ =>
            claimless_call rfl fun _ => trivial
    · cases view with
      | ok view => trivial
      | error e => exact claimless_of_free ((free_call (by trivial)).attempt.bind fun _ => trivial)

/-! ## How a trigger ends -/

theorem Returns.error {roomId : String} {err : Err} : Returns roomId (.error err) h := by
  rintro _ ⟨⟩

/-- A returned view shows the match the record answered. -/
theorem finishRoomMatch_returns (view : RoomView) (matchId : String) :
    (finishRoomMatch view matchId).Obeys (fun _ _ => True) (Returns view.roomId) h := by
  refine Prog.Obeys.perform_bind trivial (fun recorded => ?_) .error
  refine Prog.Obeys.perform_bind trivial (fun _ => ?_) .error
  rintro _ ⟨⟩
  exact ⟨_, _, _, _, recorded, List.mem_cons_of_mem _ (List.mem_cons_self ..), rfl⟩

theorem createRoomMatch_returns (roomId ownerId guestId token : String) (view : Option RoomView) :
    (createRoomMatch host roomId ownerId guestId token view).Obeys (fun _ _ => True) (Returns roomId) h := by
  refine Prog.Obeys.andThen (Prog.Obeys.any _) (fun matchId h' => ?_) fun err h' => .error
  cases view with
  | some view => exact finishRoomMatch_returns _ matchId
  | none => exact Prog.Obeys.perform_bind trivial (fun now => finishRoomMatch_returns _ matchId) .error

/-- What was read before the claim. -/
def Loaded (roomId : String) (view : Option RoomView) (h : History) : Prop :=
  mapped (some roomId) = none ∧ view = none ∨
    ∃ hash rest, h = (⟨.hgetallRoom roomId, some hash⟩ : Call Cmd Resp) :: rest ∧ roomHashToView hash = view

theorem loadRoomIfExists_loads (roomId : String) (hh : Unclaimed h) :
    (loadRoomIfExists (some roomId)).Obeys (fun _ _ => True) (fun o h' => Unclaimed h' ∧
      (∀ view, o = .ok view → Loaded roomId view h') ∧ ∀ err, o = .error err → Failed h') h := by
  unfold loadRoomIfExists
  split
  · next hnone => exact ⟨hh, fun view heq => .inl ⟨hnone, (Except.ok.inj heq).symm⟩, by simp⟩
  · next key hkey =>
    obtain rfl : roomId = key := Option.some.inj (Option.filter_eq_some_iff.1 hkey).1
    refine Prog.Obeys.perform_bind trivial (fun hash => ?_) ?_
    · exact ⟨hh.cons (by trivial), fun view heq => .inr ⟨hash, h, rfl, Except.ok.inj heq⟩, by simp⟩
    · exact ⟨hh.cons (by trivial), by simp, fun _ _ => ⟨_, List.mem_cons_self .., rfl⟩⟩

theorem Loaded.of_none {roomId : String} (hload : Loaded roomId none h) : mapped (some roomId) = none ∨
    ∃ hash rest, h = (⟨.hgetallRoom roomId, some hash⟩ : Call Cmd Resp) :: rest ∧
      roomHashToView hash = none := hload.imp_left And.left

theorem Loaded.of_some {roomId : String} {view : RoomView} (hload : Loaded roomId (some view) h) :
    ∃ hash rest, h = (⟨.hgetallRoom roomId, some hash⟩ : Call Cmd Resp) :: rest ∧
      filled hash.matchId = view.matchId ∧ filled hash.roomId = some view.roomId := by
  rcases hload with ⟨-, hnone⟩ | ⟨hash, rest, hrest, hsome⟩
  · cases hnone
  · obtain ⟨name, hname, rfl⟩ := Option.map_eq_some_iff.1 hsome
    exact ⟨hash, rest, hrest, rfl, hname⟩

theorem Ended.failed {roomId : String} {err : Err} (hfail : Failed h) :
    Ended roomId (.error err) h :=
  ⟨⟨roomId, .error, .inl rfl⟩, fun _ _ _ _ => .inl hfail, fun _ _ => .inl hfail⟩

/-- A claim refused, as the trigger ends with it. -/
theorem Ended.refusal {roomId token : String} {claim : ClaimReply} {err : Err} (hh : Unclaimed h)
    (hclaim : ∀ ownerId guestId, claim ≠ .claimed ownerId guestId)
    (hend : Lost roomId ((⟨.roomStartMatch roomId token, some claim⟩ : Call Cmd Resp) :: h) ∨
      err = matchStarting ∧ claim = .held) :
    Ended roomId (.error err) ((⟨.roomStartMatch roomId token, some claim⟩ : Call Cmd Resp) :: h) := by
  refine ⟨⟨roomId, .error, .inl rfl⟩, fun name ownerId guestId hclaimed => ?_, fun err' heq => ?_⟩
  · obtain ⟨token', hmem⟩ := hclaimed
    rcases List.mem_cons.1 hmem with heq | hmem
    · cases heq
      exact absurd rfl (hclaim ownerId guestId)
    · exact absurd ⟨token', hmem⟩ hh.not_claimed
  · cases heq
    rcases hend with hlost | ⟨herr, rfl⟩
    · exact .inr (.inl hlost)
    · exact .inr (.inr ⟨herr, token, List.mem_cons_self ..⟩)

theorem Claimless.not_new {new : History} {name ownerId guestId : String}
    (hnew : ∀ c ∈ new, Claimless c.cmd) (hclaim : Claimed (new ++ h) name ownerId guestId) :
    Claimed h name ownerId guestId := by
  obtain ⟨token, hmem⟩ := hclaim
  rcases List.mem_append.1 hmem with hmem | hmem
  · cases hnew _ hmem
  · exact ⟨token, hmem⟩

/-- What a steady rest that returns a record ends with. -/
theorem Ended.rest {roomId name : String} {p : M RoomView} (hsteady : p.Steady)
    (hreturns : p.Obeys (fun _ _ => True) (Returns name) h) (hless : p.Issues Claimless)
    (hname : name = roomId ∨
      ∃ hash, (⟨.hgetallRoom roomId, some hash⟩ : Call Cmd Resp) ∈ h ∧ filled hash.roomId = some name)
    (hclaim : ∀ room ownerId guestId, Claimed h room ownerId guestId → room = name) :
    p.Obeys (fun _ _ => True) (Ended roomId) h := by
  refine ((hsteady.obeys.and hreturns).and (hless.obeys fun _ _ _ => trivial)).mono
    fun o h' hsuf hend => ?_
  obtain ⟨⟨⟨-, hfail⟩, hreturn⟩, new, rfl, hnew⟩ := hend
  refine ⟨⟨name, hreturn, hname.imp_right ?_⟩, fun room ownerId guestId hclaimed => ?_,
    fun err heq => .inl (hfail err heq)⟩
  · exact fun ⟨hash, hmem, hhash⟩ => ⟨hash, List.mem_append_right _ hmem, hhash⟩
  · obtain rfl := hclaim room ownerId guestId (Claimless.not_new hnew hclaimed)
    cases o with
    | error err => exact .inl (hfail err rfl)
    | ok view =>
      obtain ⟨code, matchId, owner, guest, recorded, hmem, -⟩ := hreturn view rfl
      exact .inr ⟨code, matchId, owner, guest, recorded, hmem⟩

/-- **How a trigger ends.** -/
theorem startRoomMatch_ends (roomId : String) (hh : Unclaimed h) :
    (startRoomMatch host roomId).Obeys (fun _ _ => True) (Ended roomId) h := by
  refine Prog.Obeys.bind ((loadRoomIfExists_loads roomId hh).mono fun o h' _ hload => ?_)
  obtain ⟨hh', hview, hfail⟩ := hload
  cases o with
  | error err => exact .failed (hfail err rfl)
  | ok view =>
    have hloaded := hview view rfl
    refine Prog.Obeys.perform_bind trivial (fun token => ?_) (.failed ⟨_, List.mem_cons_self .., rfl⟩)
    refine Prog.Obeys.perform_bind trivial (fun claim => ?_) (.failed ⟨_, List.mem_cons_self .., rfl⟩)
    have hdraw : Unclaimed ((⟨.randomUUID, some token⟩ : Call Cmd Resp) :: h') := hh'.cons (by trivial)
    have hnone : view = none → mapped (some roomId) = none ∨ ∃ hash rest,
        h' = (⟨.hgetallRoom roomId, some hash⟩ : Call Cmd Resp) :: rest ∧ roomHashToView hash = none := by
      rintro rfl
      exact hloaded.of_none
    -- A claim that was refused leaves the view to decide.
    have hrecorded : ∀ {claim : ClaimReply} {seen : RoomView} {matchId : String}, view = some seen →
        (∀ ownerId guestId, claim ≠ .claimed ownerId guestId) →
        (finishRoomMatch seen matchId).Obeys (fun _ _ => True) (Ended roomId)
          ((⟨.roomStartMatch roomId token, some claim⟩ : Call Cmd Resp) ::
            ⟨.randomUUID, some token⟩ :: h') := by
      rintro claim seen matchId rfl hclaim
      obtain ⟨hash, rest, hrest, -, hname⟩ := hloaded.of_some
      refine Ended.rest (finishRoomMatch_steady seen matchId) (finishRoomMatch_returns ..)
        (finishRoomMatch_issues allows_claimless ..) (.inr ⟨hash, by simp [hrest], hname⟩) ?_
      intro room ownerId guestId hclaimed
      obtain ⟨token', hmem⟩ := hclaimed
      rcases List.mem_cons.1 hmem with heq | hmem
      · cases heq
        exact absurd rfl (hclaim ownerId guestId)
      · exact absurd ⟨token', hmem⟩ hdraw.not_claimed
    cases claim with
    | claimed ownerId guestId =>
      refine Ended.rest (createRoomMatch_steady roomId ownerId guestId token view)
        (createRoomMatch_returns ..) (createRoomMatch_issues allows_claimless ..) (.inl rfl) ?_
      exact fun room owner guest hclaimed => (hdraw.only room owner guest hclaimed).1
    | missing => exact .refusal hdraw (by simp) (.inl ⟨token, _, _, h', rfl, .inl rfl⟩)
    | held =>
      cases view with
      | none =>
        refine .refusal hdraw (by simp) (.inl ⟨token, _, _, h', rfl, .inr ((hnone rfl).imp_right ?_)⟩)
        exact fun ⟨hash, rest, hrest, hash_none⟩ => ⟨hash, rest, hrest, .inl hash_none⟩
      | some view =>
        dsimp only
        split
        · exact hrecorded rfl (by simp)
        · exact .refusal hdraw (by simp) (.inr ⟨rfl, rfl⟩)
    | _ =>
      cases view with
      | none =>
        refine .refusal hdraw (by simp) (.inl ⟨token, _, _, h', rfl, .inr ((hnone rfl).imp_right ?_)⟩)
        exact fun ⟨hash, rest, hrest, hash_none⟩ => ⟨hash, rest, hrest, .inl hash_none⟩
      | some view =>
        dsimp only
        split
        · exact hrecorded rfl (by simp)
        · next hid =>
          obtain ⟨hash, rest, hrest, hmatch, -⟩ := hloaded.of_some
          exact .refusal hdraw (by simp) (.inl ⟨token, _, _, h', rfl, .inr (.inr ⟨hash, rest, hrest,
            .inr ⟨by simp, hmatch.trans hid⟩⟩)⟩)

/-- How a request ends: one that claimed a handoff has its match answered, or a
call of it failed. -/
structure Ends (q : Request) (o : Except Err Unit) (h : History) : Prop where
  claimed : ∀ name ownerId guestId, Claimed h name ownerId guestId → Failed h ∨ Answered name h
  trigger : ∀ roomId, q = .startRoomMatch roomId → ∃ o', Ended roomId o' h ∧
    (o = .ok () → ∃ view, o' = .ok view) ∧ ∀ err, o = .error err → o' = .error err

/-- A rest that claims nothing. -/
theorem Ends.idle {q : Request} {p : M Unit} (hq : ∀ roomId, q ≠ .startRoomMatch roomId)
    (hh : Unclaimed h) (hp : p.Issues Claimless) : p.Obeys (fun _ _ => True) (Ends q) h := by
  refine (hp.obeys fun _ _ _ => trivial).mono fun o h' _ hnew => ?_
  obtain ⟨new, rfl, hnew⟩ := hnew
  refine ⟨fun name ownerId guestId hclaim => ?_, fun roomId heq => absurd heq (hq roomId)⟩
  exact absurd (Claimless.not_new hnew hclaim) hh.not_claimed

theorem Ends.claimless {α : Type} {q : Request} {p : M α} (hq : ∀ roomId, q ≠ .startRoomMatch roomId)
    (hp : p.Issues Claimless) :
    (p.bind fun _ => (pure () : M Unit)).Obeys (fun _ _ => True) (Ends q) [] := by
  exact Ends.idle hq (fun _ hc => by cases hc) (hp.bind fun _ => trivial)

theorem startRoomForOwner_ends (ownerId : String) :
    ((startRoomForOwner host ownerId).bind fun _ => (pure () : M Unit)).Obeys (fun _ _ => True)
      (Ends (.startRoom ownerId)) [] := by
  have hempty : Unclaimed [] := fun _ hc => by cases hc
  have hidle : ∀ {h : History} {err : Err}, Unclaimed h → Ends (.startRoom ownerId) (.error err) h :=
    fun hh => ⟨fun _ _ _ hclaim => absurd hclaim hh.not_claimed, by simp⟩
  refine Prog.Obeys.bind (Prog.Obeys.perform_bind trivial (fun roomId => ?_)
    (hidle (hempty.cons (by trivial))))
  have hread : Unclaimed [(⟨.getUserRoom ownerId, some roomId⟩ : Call Cmd Resp)] :=
    hempty.cons (by trivial)
  refine Prog.Obeys.bind (((loadRoomIfExists_free roomId).obeys fun _ _ _ => trivial).mono
    fun o h' _ hnew => ?_)
  obtain ⟨new, rfl, hnew⟩ := hnew
  have hh := hread.append hnew
  cases o with
  | error err => exact hidle hh
  | ok room =>
    cases room with
    | none => exact hidle hh
    | some room =>
      dsimp only
      split
      · exact hidle hh
      · split
        · exact hidle hh
        · refine (startRoomMatch_ends room.roomId hh).mono fun o h'' _ hend => ?_
          cases o with
          | ok view => exact ⟨hend.claimed, by simp⟩
          | error err => exact ⟨hend.claimed, by simp⟩

/-- **Every request that claims a handoff is answered its match**, if none of
its calls fails. -/
theorem program_ends (q : Request) : (program host q).Obeys (fun _ _ => True) (Ends q) [] := by
  have hempty : Unclaimed [] := fun _ hc => by cases hc
  cases q with
  | joinQueue userId joinedAtMs =>
    exact Ends.claimless (by simp) (claimless_of_free (joinQueue_free userId joinedAtMs))
  | leaveQueue userId =>
    exact Ends.claimless (by simp) (leaveQueue_issues allows_claimless userId)
  | tryPair swapped => exact Ends.claimless (by simp) (tryPair_issues allows_claimless swapped)
  | createRoom ownerId => exact Ends.claimless (by simp) (createRoom_claimless ownerId)
  | getMyRoom userId => exact Ends.claimless (by simp) (claimless_of_free (getMyRoom_free userId))
  | joinRoom userId code => exact Ends.claimless (by simp) (joinRoom_issues allows_claimless userId code)
  | leaveRoom userId => exact Ends.claimless (by simp) (leaveRoom_issues allows_claimless userId)
  | startRoom ownerId => exact startRoomForOwner_ends ownerId
  | startRoomMatch roomId =>
    refine Prog.Obeys.bind ((startRoomMatch_ends roomId hempty).mono fun o h' _ hend => ?_)
    cases o with
    | ok view => exact ⟨hend.claimed, fun _ heq => ⟨.ok view, by cases heq; exact hend, by simp, by simp⟩⟩
    | error err => exact ⟨hend.claimed, fun _ heq => ⟨.error err, by cases heq; exact hend, by simp, by simp⟩⟩
  | finalize matchId status => exact Ends.idle (by simp) hempty (Prog.Issues.perform (A := Claimless) rfl _)

end AutoChess.Lobby
