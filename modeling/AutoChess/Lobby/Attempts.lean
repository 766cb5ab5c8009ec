/-
Attempts to start a full room's match, one after the other, any of whose
calls may fail. A failed attempt gives the claim back but not the row it has
inserted, which the next attempt adopts as it finds it; so a match handed off
has its runtime exactly when the attempt that inserted it got that far.
-/
import AutoChess.Lobby.Triggers

namespace AutoChess.Lobby

open AutoChess.Runtime AutoChess.Shop Calls Expiring

variable {host : Host}

/-! ## The calls of an initialisation -/

abbrev RuntimeHistory := List (Call Runtime.Cmd Runtime.Resp)

/-- The first round's timer was added. -/
def Scheduled (h : RuntimeHistory) : Prop :=
  (⟨.schedule (.phaseStart 1) SHOP_PHASE_MS, some ()⟩ : Call Runtime.Cmd Runtime.Resp) ∈ h

/-- The user's shop was stored. -/
def Rolled (h : RuntimeHistory) (userId : String) : Prop :=
  ∃ shop ttlSeconds, (⟨.setShop userId shop ttlSeconds, some ()⟩ : Call Runtime.Cmd Runtime.Resp) ∈ h

/-- Shops are stored after the timer is added. -/
def RollGuard (h : RuntimeHistory) : Runtime.Cmd → Prop
  | .setShop _ _ _ => Scheduled h
  | _ => True

/-- A call failed. -/
def RuntimeFailed (h : RuntimeHistory) : Prop := ∃ c ∈ h, c.reply = none

/-- Any other call. -/
def Silent (c : Runtime.Cmd) : Prop := ∀ h, RollGuard h c

theorem publishOffers_silent (runtime : MatchRuntimeState) (userId : String)
    (offers : List (Option ShopOffer)) : (publishOffers runtime userId offers).Issues Silent :=
  Prog.Issues.perform (by intro h; trivial) _

theorem publishState_silent (runtime : MatchRuntimeState) (side : Game.Side) (state : RuntimePlayerState) :
    (publishState runtime side state).Issues Silent :=
  Prog.Issues.both (Prog.Issues.perform (by intro h; trivial) _) (Prog.Issues.perform (by intro h; trivial) _)

theorem publishState_obeys (runtime : MatchRuntimeState) (side : Game.Side) (state : RuntimePlayerState)
    {h : RuntimeHistory} : (publishState runtime side state).Obeys RollGuard
      (fun o h' => h <:+ h' ∧ ∀ e, o = .error e → RuntimeFailed h') h := by
  have hsteady : (publishState runtime side state).Steady := publishState_steady runtime side state
  have hsilent : (publishState runtime side state).Obeys RollGuard (fun _ _ => True) h :=
    ((publishState_silent runtime side state).obeys fun h' c hc => hc h').mono fun _ _ _ _ => trivial
  exact (hsteady.obeys.guards hsilent).weaken fun _ _ hs => hs.2

theorem rollOffers_obeys (host : Runtime.Host) (runtime : MatchRuntimeState) {h : RuntimeHistory}
    (hsched : Scheduled h) : (rollOffersForMatch host runtime).Obeys RollGuard (fun _ h' =>
      RuntimeFailed h' ∨ Scheduled h' ∧ Rolled h' runtime.player1Id ∧ Rolled h' runtime.player2Id) h := by
  refine ⟨hsched, fun r => ⟨List.mem_cons_of_mem _ hsched, fun s => ?_⟩⟩
  -- Both shops were asked for; what follows only publishes.
  refine (Prog.Issues.obeys (Prog.Issues.both (A := Silent) ?_ ?_) fun h' c hc => hc h').mono
    fun o h' hsuf _ => ?_
  · cases r with
    | none => trivial
    | some r => exact publishOffers_silent ..
  · cases s with
    | none => trivial
    | some s => exact publishOffers_silent ..
  · have hp2 := hsuf.mem (List.mem_cons_self ..)
    have hp1 := hsuf.mem (List.mem_cons_of_mem _ (List.mem_cons_self ..))
    cases r with
    | none => exact .inl ⟨_, hp1, rfl⟩
    | some r =>
      cases s with
      | none => exact .inl ⟨_, hp2, rfl⟩
      | some s =>
        have hsched' := hsuf.mem (List.mem_cons_of_mem _ (List.mem_cons_of_mem _ hsched))
        exact .inr ⟨hsched', ⟨_, _, hp1⟩, ⟨_, _, hp2⟩⟩

theorem announceMatch_obeys (host : Runtime.Host) (m : Match) (names : PlayerNames) :
    (announceMatch host m names).Obeys RollGuard (fun _ h' =>
      RuntimeFailed h' ∨ Scheduled h' ∧ Rolled h' m.player1Id ∧ Rolled h' m.player2Id) [] := by
  refine Prog.Obeys.perform_bind trivial (fun _ => ?_) (.inl ⟨_, List.mem_cons_self .., rfl⟩)
  refine Prog.Obeys.perform_bind trivial (fun _ => ?_) (.inl ⟨_, List.mem_cons_self .., rfl⟩)
  refine Prog.Obeys.perform_bind trivial (fun _ => ?_) (.inl ⟨_, List.mem_cons_self .., rfl⟩)
  refine Prog.Obeys.bind ((publishState_obeys ..).mono fun o h' _ hpost => ?_)
  cases o with
  | error e => exact .inl (hpost.2 e rfl)
  | ok _ =>
    have hsched := hpost.1.mem (List.mem_cons_of_mem _ (List.mem_cons_self ..))
    exact rollOffers_obeys host _ hsched

/-! ## The calls of an attempt -/

variable {h : History} {roomId : String}

/-- The request has initialised the runtime of the row's match. -/
structure Complete (h : History) (row : MatchRow) : Prop where
  hash : ∃ hash, (⟨.hsetRuntime row.id hash, some ()⟩ : Call Cmd Resp) ∈ h
  timer : (⟨.runtime row.id (.schedule (.phaseStart 1) SHOP_PHASE_MS), some ()⟩ : Call Cmd Resp) ∈ h
  shop1 : ∃ shop ttlSeconds,
    (⟨.runtime row.id (.setShop row.player1Id shop ttlSeconds), some ()⟩ : Call Cmd Resp) ∈ h
  shop2 : ∃ shop ttlSeconds,
    (⟨.runtime row.id (.setShop row.player2Id shop ttlSeconds), some ()⟩ : Call Cmd Resp) ∈ h

theorem Complete.mono {h' : History} {row : MatchRow} (hc : Complete h row) (hsuf : h <:+ h') :
    Complete h' row := by
  obtain ⟨⟨hash, hhash⟩, htimer, ⟨shop1, ttl1, hshop1⟩, shop2, ttl2, hshop2⟩ := hc
  exact ⟨⟨hash, hsuf.mem hhash⟩, hsuf.mem htimer, ⟨shop1, ttl1, hsuf.mem hshop1⟩,
    ⟨shop2, ttl2, hsuf.mem hshop2⟩⟩

/-- A row the request was answered is initialised, or a call failed since. -/
def Wrapped (h : History) : Prop :=
  ∀ newer older player1Id player2Id seed p1 p2 row,
    h = newer ++ (⟨.createMatch player1Id player2Id seed p1 p2, some row⟩ : Call Cmd Resp) :: older →
    Failed newer ∨ Complete h row

/-- Where the match comes from that an attempt records: adopted, inserted, or
read in the room. -/
inductive Fetched (roomId : String) (h : History) (name matchId : String) : Prop where
  | adopted {userId ownerId guestId : String} {row : MatchRow} (hname : name = roomId)
      (hfirst : Uncreated h) (hclaim : Claimed h roomId ownerId guestId)
      (huser : userId = ownerId ∨ userId = guestId)
      (hfound : (⟨.findActiveByUserId userId, some (some row)⟩ : Call Cmd Resp) ∈ h)
      (hid : row.id = matchId)
  | inserted {player1Id player2Id seed : String} {p1 p2 : RuntimePlayerState} {row : MatchRow}
      (hname : name = roomId) (hwrapped : Wrapped h)
      (hinsert : (⟨.createMatch player1Id player2Id seed p1 p2, some row⟩ : Call Cmd Resp) ∈ h)
      (hid : row.id = matchId)
  | read {hash : RoomHash} {view : RoomView}
      (hread : (⟨.hgetallRoom roomId, some hash⟩ : Call Cmd Resp) ∈ h)
      (hview : roomHashToView hash = some view) (hname : view.roomId = name)
      (hid : view.matchId = some matchId)

/-- An attempt stores shops last, records what it fetched, and leaves rooms
alone otherwise. -/
def AttemptGuard (roomId : String) (h : History) : Cmd → Prop
  | .runtime matchId (.setShop _ _ _) =>
    (∃ hash, (⟨.hsetRuntime matchId hash, some ()⟩ : Call Cmd Resp) ∈ h) ∧
    (⟨.runtime matchId (.schedule (.phaseStart 1) SHOP_PHASE_MS), some ()⟩ : Call Cmd Resp) ∈ h
  | .roomMatchDone name _ matchId _ _ => Fetched roomId h name matchId
  | .hsetRoom _ _ | .roomJoin _ _ | .roomLeave _ _ => False
  | _ => True

theorem Wrapped.of_uncreated (hh : Uncreated h) : Wrapped h := by
  intro newer older player1Id player2Id seed p1 p2 row heq
  have hnone := hh ⟨.createMatch player1Id player2Id seed p1 p2, some row⟩ (by simp [heq])
  cases hnone

theorem Wrapped.cons (hh : Wrapped h) {c : Call Cmd Resp} (hc : c.cmd.creates = false) : Wrapped (c :: h) := by
  intro newer older player1Id player2Id seed p1 p2 row heq
  cases newer with
  | nil =>
    cases heq
    cases hc
  | cons c' newer =>
    cases heq
    rcases hh newer older player1Id player2Id seed p1 p2 row rfl with ⟨f, hmem, hf⟩ | hdone
    · exact .inl ⟨f, List.mem_cons_of_mem _ hmem, hf⟩
    · exact .inr (hdone.mono (List.suffix_cons ..))

theorem initializeMatch_obeys (row : MatchRow) :
    (initializeMatch host row).Obeys (AttemptGuard roomId) (fun _ h' => ∃ new, h' = new ++ h ∧
      (∀ c ∈ new, c.cmd.creates = false) ∧ (Failed new ∨ Complete h' row)) h := by
  refine Prog.Obeys.perform_bind trivial (fun names => ?_)
    ⟨[_], rfl, List.forall_mem_singleton.2 rfl, .inl ⟨_, List.mem_cons_self .., rfl⟩⟩
  refine Prog.Obeys.perform_bind trivial (fun _ => ?_)
    ⟨[_, _], rfl, by simp [Cmd.creates], .inl ⟨_, List.mem_cons_self .., rfl⟩⟩
  refine Prog.Obeys.embed (h := []) (Cmd.runtime row.id) _ _ (fun _ r => r) (fun _ _ => rfl)
    (((announceMatch_obeys host.toHost row.toMatch names).weaken fun h' c hc => ?_).mono
      fun o h' _ hpost => ?_)
  · cases c with
    | setShop userId shop ttlSeconds =>
      have hsched : Scheduled h' := hc
      refine ⟨⟨_, List.mem_append_right _ (List.mem_cons_self ..)⟩, List.mem_append_left _ ?_⟩
      exact List.mem_map.2 ⟨_, hsched, rfl⟩
    | _ => trivial
  · have hmem : ∀ {c : Call Runtime.Cmd Runtime.Resp}, c ∈ h' →
        (⟨.runtime row.id c.cmd, c.reply⟩ : Call Cmd Resp) ∈
          h'.map (Prog.embedCall (Cmd.runtime row.id) fun _ r => r) := by
      intro c hc
      refine List.mem_map.2 ⟨c, hc, ?_⟩
      simp [Prog.embedCall]
    refine ⟨h'.map (Prog.embedCall (Cmd.runtime row.id) fun _ r => r) ++
      [⟨.hsetRuntime row.id (initialRuntimeHash row.toMatch names), some ()⟩,
        ⟨.runtime row.id (.usernamesForPlayers row.player1Id row.player2Id), some names⟩],
      by simp, ?_, ?_⟩
    · refine List.forall_mem_append.2 ⟨fun c hc => ?_, by simp [Cmd.creates]⟩
      obtain ⟨c', -, rfl⟩ := List.mem_map.1 hc
      rfl
    · rcases hpost with ⟨c, hc, hnone⟩ | ⟨hsched, ⟨shop1, ttl1, hshop1⟩, shop2, ttl2, hshop2⟩
      · exact .inl ⟨_, List.mem_append_left _ (hmem hc), hnone⟩
      · exact .inr ⟨⟨_, List.mem_append_right _ (List.mem_cons_self ..)⟩, List.mem_append_left _ (hmem hsched),
          ⟨shop1, ttl1, List.mem_append_left _ (hmem hshop1)⟩,
          ⟨shop2, ttl2, List.mem_append_left _ (hmem hshop2)⟩⟩

/-- What an attempt's insert is followed by. -/
theorem Wrapped.of_insert {new : History} {player1Id player2Id seed : String} {p1 p2 : RuntimePlayerState}
    {row : MatchRow} (hh : Uncreated h) (hnew : ∀ c ∈ new, c.cmd.creates = false)
    (hdone : Failed new ∨ Complete
      (new ++ (⟨.createMatch player1Id player2Id seed p1 p2, some row⟩ : Call Cmd Resp) :: h) row) :
    Wrapped (new ++ (⟨.createMatch player1Id player2Id seed p1 p2, some row⟩ : Call Cmd Resp) :: h) := by
  intro newer older player1Id' player2Id' seed' p1' p2' row' heq
  rcases split_cases heq with ⟨rfl, hcall, rfl⟩ | ⟨mid, hmid, -⟩ | ⟨mid, -, hmid⟩
  · cases hcall
    exact hdone
  · have hnone := hh ⟨.createMatch player1Id' player2Id' seed' p1' p2', some row'⟩ (by simp [hmid])
    cases hnone
  · have hnone := hnew ⟨.createMatch player1Id' player2Id' seed' p1' p2', some row'⟩ (by simp [hmid])
    cases hnone

theorem createMatchForPlayers_attempts (player1Id player2Id : String) (hh : Uncreated h) :
    (createMatchForPlayers host player1Id player2Id).Obeys (AttemptGuard roomId) (fun o h' => Wrapped h' ∧
      ∀ created, o = .ok created → ∃ seed p1 p2 row,
        (⟨.createMatch player1Id player2Id seed p1 p2, some row⟩ : Call Cmd Resp) ∈ h' ∧
        row.id = created.matchId) h := by
  refine Prog.Obeys.bind (Prog.Obeys.perform_bind trivial (fun seed => ?_)
    ⟨(Wrapped.of_uncreated hh).cons rfl, by simp⟩)
  have hseed : Uncreated (⟨.randomUUID, some seed⟩ :: h) := hh.cons rfl
  refine Prog.Obeys.perform trivial (fun row => ?_) ⟨?_, by simp⟩
  · refine Prog.Obeys.bind ((initializeMatch_obeys row).mono fun o h' _ hpost => ?_)
    obtain ⟨new, rfl, hnew, hdone⟩ := hpost
    have hwrapped := Wrapped.of_insert hseed hnew hdone
    cases o with
    | error e => exact ⟨hwrapped, by simp⟩
    | ok _ =>
      refine ⟨hwrapped, fun created heq => ⟨seed, _, _, row, List.mem_append_right _ (List.mem_cons_self ..), ?_⟩⟩
      cases heq
      rfl
  · -- The insert failed, and nothing else inserts.
    intro newer older player1Id' player2Id' seed' p1' p2' row heq
    cases newer with
    | nil => cases heq
    | cons c newer =>
      rw [List.cons_append, List.cons.injEq] at heq
      have hnone := hseed ⟨.createMatch player1Id' player2Id' seed' p1' p2', some row⟩ (by simp [heq.2])
      cases hnone

theorem finishRoomMatch_attempts (view : RoomView) (matchId : String) (hh : Wrapped h)
    (hfetched : Fetched roomId h view.roomId matchId) :
    (finishRoomMatch view matchId).Obeys (AttemptGuard roomId) (fun _ h' => Wrapped h') h := by
  refine Prog.Obeys.perform_bind hfetched (fun recorded => ?_) (hh.cons rfl)
  exact Prog.Obeys.perform_bind trivial (fun _ => (hh.cons rfl).cons rfl) ((hh.cons rfl).cons rfl)

theorem Fetched.cons {name matchId : String} (hf : Fetched roomId h name matchId) {c : Call Cmd Resp}
    (hc : c.cmd.creates = false) : Fetched roomId (c :: h) name matchId := by
  cases hf with
  | adopted hname hfirst hclaim huser hfound hid =>
    exact .adopted hname (hfirst.cons hc) (hclaim.mono (List.suffix_cons ..)) huser
      (List.mem_cons_of_mem _ hfound) hid
  | inserted hname hwrapped hinsert hid =>
    exact .inserted hname (hwrapped.cons hc) (List.mem_cons_of_mem _ hinsert) hid
  | read hread hview hname hid => exact .read (List.mem_cons_of_mem _ hread) hview hname hid

theorem findOrphan_attempts (ownerId guestId : String) (hh : Uncreated h) :
    (findOrphan ownerId guestId).Obeys (AttemptGuard roomId) (fun o h' => Uncreated h' ∧ h <:+ h' ∧
      ∀ row, o = .ok (some row) → ∃ userId, (userId = ownerId ∨ userId = guestId) ∧
        (⟨.findActiveByUserId userId, some (some row)⟩ : Call Cmd Resp) ∈ h') h := by
  refine Prog.Obeys.perform_bind trivial (fun found => ?_) ⟨hh.cons rfl, List.suffix_cons .., by simp⟩
  cases found with
  | some row =>
    refine ⟨hh.cons rfl, List.suffix_cons .., fun row' heq => ⟨ownerId, .inl rfl, ?_⟩⟩
    cases heq
    exact List.mem_cons_self ..
  | none =>
    have hsuf : ∀ r, h <:+ ⟨.findActiveByUserId guestId, r⟩ :: ⟨.findActiveByUserId ownerId, some none⟩ :: h :=
      fun r => (List.suffix_cons ..).trans (List.suffix_cons ..)
    refine Prog.Obeys.perform trivial (fun found => ?_) ⟨(hh.cons rfl).cons rfl, hsuf _, by simp⟩
    refine ⟨(hh.cons rfl).cons rfl, hsuf _, fun row heq => ⟨guestId, .inr rfl, ?_⟩⟩
    cases heq
    exact List.mem_cons_self ..

theorem adoptOrCreate_attempts {ownerId guestId token : String} (hh : Uncreated h)
    (hclaim : Claimed h roomId ownerId guestId) :
    (adoptOrCreate host roomId ownerId guestId token).Obeys (AttemptGuard roomId) (fun o h' => Wrapped h' ∧
      ∀ matchId, o = .ok matchId → Fetched roomId h' roomId matchId) h := by
  refine Prog.Obeys.bind ((findOrphan_attempts ownerId guestId hh).mono fun o h' _ hpost => ?_)
  obtain ⟨hh', hsuf, hfound⟩ := hpost
  cases o with
  | error e => exact ⟨.of_uncreated hh', by simp⟩
  | ok orphan =>
    cases orphan with
    | some row =>
      obtain ⟨userId, huser, hmem⟩ := hfound row rfl
      refine ⟨.of_uncreated hh', fun matchId heq => ?_⟩
      cases heq
      exact .adopted rfl hh' (hclaim.mono hsuf) huser hmem rfl
    | none =>
      refine Prog.Obeys.bind (Prog.Obeys.attempt ((createMatchForPlayers_attempts ownerId guestId hh').mono
        fun o h'' _ hpost => ?_))
      cases o with
      | ok created =>
        obtain ⟨seed, p1, p2, row, hinsert, hid⟩ := hpost.2 created rfl
        refine ⟨hpost.1, fun matchId heq => ?_⟩
        cases heq
        exact .inserted rfl hpost.1 hinsert hid
      | error e =>
        exact Prog.Obeys.perform_bind trivial (fun _ => ⟨hpost.1.cons rfl, by simp⟩)
          ⟨hpost.1.cons rfl, by simp⟩

theorem createRoomMatch_attempts {ownerId guestId token : String} {view : Option RoomView}
    (hh : Uncreated h) (hclaim : Claimed h roomId ownerId guestId) :
    (createRoomMatch host roomId ownerId guestId token view).Obeys (AttemptGuard roomId)
      (fun _ h' => Wrapped h') h := by
  refine Prog.Obeys.bind ((adoptOrCreate_attempts hh hclaim).mono fun o h' _ hpost => ?_)
  cases o with
  | error e => exact hpost.1
  | ok matchId =>
    have hfetched := hpost.2 matchId rfl
    cases view with
    | some view => exact finishRoomMatch_attempts _ matchId hpost.1 hfetched
    | none =>
      exact Prog.Obeys.perform_bind trivial (fun now => finishRoomMatch_attempts _ matchId (hpost.1.cons rfl)
        (hfetched.cons rfl)) (hpost.1.cons rfl)

theorem loadRoom_attempts (roomId : String) (hh : Uncreated h) :
    (loadRoomIfExists (some roomId)).Obeys (AttemptGuard roomId) (fun o h' => Uncreated h' ∧
      ∀ view, o = .ok (some view) → ∃ hash,
        (⟨.hgetallRoom roomId, some hash⟩ : Call Cmd Resp) ∈ h' ∧ roomHashToView hash = some view) h := by
  unfold loadRoomIfExists
  split
  · exact ⟨hh, by simp⟩
  · next key hkey =>
    obtain rfl : roomId = key := Option.some.inj (Option.filter_eq_some_iff.1 hkey).1
    refine Prog.Obeys.perform_bind trivial (fun hash => ⟨hh.cons rfl, fun view heq => ?_⟩)
      ⟨hh.cons rfl, by simp⟩
    exact ⟨hash, List.mem_cons_self .., Except.ok.inj heq⟩

/-- **Every attempt is wrapped up**: what it inserted is initialised when it
ends, unless a call failed. -/
theorem startRoomMatch_attempts (roomId : String) (hh : Uncreated h) :
    (startRoomMatch host roomId).Obeys (AttemptGuard roomId) (fun _ h' => Wrapped h') h := by
  refine Prog.Obeys.bind ((loadRoom_attempts roomId hh).mono fun o h' _ hpost => ?_)
  obtain ⟨hh', hread⟩ := hpost
  cases o with
  | error e => exact .of_uncreated hh'
  | ok view =>
    refine Prog.Obeys.perform_bind trivial (fun token => ?_) (.of_uncreated (hh'.cons rfl))
    refine Prog.Obeys.perform_bind trivial (fun claim => ?_) (.of_uncreated ((hh'.cons rfl).cons rfl))
    have hh₂ : Uncreated (⟨.roomStartMatch roomId token, some claim⟩ :: ⟨.randomUUID, some token⟩ :: h') :=
      (hh'.cons rfl).cons rfl
    split
    · exact createRoomMatch_attempts hh₂ ⟨token, List.mem_cons_self ..⟩
    · exact .of_uncreated hh₂
    · cases view with
      | none => exact .of_uncreated hh₂
      | some view =>
        dsimp only
        split
        · next matchId hid =>
          obtain ⟨hash, hmem, hview⟩ := hread view rfl
          exact finishRoomMatch_attempts view matchId (.of_uncreated hh₂)
            (.read (List.mem_cons_of_mem _ (List.mem_cons_of_mem _ hmem)) hview rfl hid)
        · split <;> exact .of_uncreated hh₂

end AutoChess.Lobby
