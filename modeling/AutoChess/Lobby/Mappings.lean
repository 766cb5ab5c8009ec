/-
The mapping `user:room:<userId>`: the order in which an opening request
writes (`Ordered`), and what can change a mapping in one step (`MapChange`).
-/
import AutoChess.Lobby.Commands
import AutoChess.Lobby.RoomSteps

namespace AutoChess.Lobby

open AutoChess.Runtime Calls Expiring

variable {host : Host} {init s : Store} {log : List LobbyEvent} {e : LobbyEvent} {userId : String}

/-! ## The order of an opening request's writes -/

/-- The room comes before the mapping, and a rollback last. -/
def Cmd.rank : Cmd → Nat
  | .hsetRoom _ _ => 1
  | .setUserRoom _ _ => 2
  | .delUserRoom _ => 3
  | _ => 0

/-- The request for a user's membership. -/
def Cmd.slots : Cmd → Bool
  | .setUserRoomNX _ _ => true
  | _ => false

/-- A request asks for a membership first or not at all; if it did, its writes
come in order, and it rolls back the membership it holds. -/
structure Ordered (h : History) (c : Cmd) : Prop where
  first : c.slots = true → h = []
  ranks : (∃ c' ∈ h, c'.cmd.slots = true) → 0 < c.rank → ∀ c' ∈ h, c'.cmd.rank < c.rank
  own : (∃ c' ∈ h, c'.cmd.slots = true) → ∀ userId, c = .delUserRoom userId → Holds h userId

/-- The calls of a request that holds the membership, all ranked below `n`. -/
structure Slotted (userId : String) (n : Nat) (h : History) : Prop where
  holds : Holds h userId
  below : ∀ c ∈ h, c.cmd.rank < n

variable {h : History} {n : Nat}

theorem Slotted.cons (hh : Slotted userId n h) {c : Call Cmd Resp} (hc : c.cmd.rank < n) :
    Slotted userId n (c :: h) :=
  ⟨List.mem_cons_of_mem _ hh.holds, List.forall_mem_cons.2 ⟨hc, hh.below⟩⟩

theorem Slotted.append (hh : Slotted userId n h) {new : History} (hnew : ∀ c ∈ new, c.cmd.rank < n) :
    Slotted userId n (new ++ h) :=
  ⟨List.mem_append_right _ hh.holds, List.forall_mem_append.2 ⟨hnew, hh.below⟩⟩

theorem Slotted.mono {m : Nat} (hh : Slotted userId m h) (hle : m ≤ n) : Slotted userId n h :=
  ⟨hh.holds, fun c hc => Nat.lt_of_lt_of_le (hh.below c hc) hle⟩

/-- Neither a request for a membership nor a write of one. -/
def Idle (c : Cmd) : Prop := c.slots = false ∧ c.rank = 0

theorem Idle.ordered {c : Cmd} (hc : Idle c) : Ordered h c := by
  refine ⟨by simp [hc.1], fun _ hpos => ?_, fun _ userId heq => ?_⟩
  · rw [hc.2] at hpos
    exact absurd hpos (Nat.lt_irrefl 0)
  · have hrank := hc.2
    rw [heq] at hrank
    cases hrank

theorem Slotted.ordered {c : Cmd} (hh : Slotted userId c.rank h) (hslot : c.slots = false)
    (hdel : ∀ userId', c = .delUserRoom userId' → userId' = userId) : Ordered h c := by
  refine ⟨by simp [hslot], fun _ _ => hh.below, fun _ userId' heq => ?_⟩
  rw [hdel userId' heq]
  exact hh.holds

/-- An idle call of a request that holds a membership, then the rest. -/
theorem Slotted.idle {α : Type} {c : Cmd} {f : Resp c → M α} (hh : Slotted userId 1 h) (hc : Idle c)
    (hf : ∀ r, Slotted userId 1 (⟨c, some r⟩ :: h) →
      (f r).Obeys Ordered (fun _ h' => Slotted userId 3 h') (⟨c, some r⟩ :: h)) :
    ((call c).bind f).Obeys Ordered (fun _ h' => Slotted userId 3 h') h := by
  have hnext : ∀ r, Slotted userId 1 (⟨c, r⟩ :: h) := fun r => hh.cons (by simp [hc.2])
  exact Prog.Obeys.perform_bind hc.ordered (fun r => hf r (hnext _)) ((hnext none).mono (by omega))

theorem claimCode_idle (roomId : String) : ∀ attempts, (claimCode roomId attempts).Issues Idle
  | 0 => trivial
  | attempts + 1 => by
    refine Prog.Issues.perform_bind ⟨rfl, rfl⟩ fun code => ?_
    refine Prog.Issues.perform_bind ⟨rfl, rfl⟩ fun claimed => ?_
    split
    · trivial
    · exact claimCode_idle roomId attempts

theorem openRoom_ordered {ownerId : String} (hh : Slotted ownerId 1 h) :
    (openRoom ownerId).Obeys Ordered (fun _ h' => Slotted ownerId 3 h') h := by
  refine hh.idle ⟨rfl, rfl⟩ fun active hh => ?_
  split
  · exact hh.mono (by omega)
  · refine hh.idle ⟨rfl, rfl⟩ fun queued hh => ?_
    split
    · exact hh.mono (by omega)
    · refine hh.idle ⟨rfl, rfl⟩ fun roomId hh => ?_
      refine Prog.Obeys.bind (((claimCode_idle roomId _).obeys fun _ _ => Idle.ordered).mono
        fun o h' _ hnew => ?_)
      obtain ⟨new, rfl, hidle⟩ := hnew
      have hh : Slotted ownerId 1 (new ++ _) := hh.append fun c hc => by simp [(hidle c hc).2]
      cases o with
      | error e => exact hh.mono (by omega)
      | ok code =>
        refine hh.idle ⟨rfl, rfl⟩ fun now hh => ?_
        -- The three writes, of rising rank.
        refine Prog.Obeys.perform_bind (hh.ordered rfl (by simp)) (fun _ => ?_)
          ((hh.mono (by omega)).cons (by simp [Cmd.rank]))
        have hh := (hh.mono (n := 2) (by omega)).cons
          (c := ⟨.hsetRoom roomId (newRoom roomId code ownerId (now + ROOM_TTL_SECONDS * 1000)), some ()⟩)
          (Nat.lt_succ_self 1)
        refine Prog.Obeys.perform_bind (Idle.ordered ⟨rfl, rfl⟩) (fun _ => ?_)
          ((hh.mono (by omega)).cons (by simp [Cmd.rank]))
        have hh := hh.cons (c := ⟨.expireRoom roomId, some ()⟩) Nat.zero_lt_two
        exact Prog.Obeys.perform_bind (hh.ordered rfl (by simp))
          (fun _ => (hh.mono (by omega)).cons (by simp [Cmd.rank])) ((hh.mono (by omega)).cons (by simp [Cmd.rank]))

theorem createRoom_ordered (ownerId : String) :
    (createRoom ownerId).Obeys Ordered (fun _ _ => True) [] := by
  have hfirst : Ordered [] (.setUserRoomNX ownerId "pending") := ⟨fun _ => rfl, by simp, by simp⟩
  refine Prog.Obeys.perform_bind hfirst (fun slot => ?_) trivial
  cases slot with
  | false => trivial
  | true =>
    have hh : Slotted ownerId 1 [(⟨.setUserRoomNX ownerId "pending", some true⟩ : Call Cmd Resp)] :=
      ⟨List.mem_singleton_self _, by simp [Cmd.rank]⟩
    refine Prog.Obeys.bind (Prog.Obeys.attempt ((openRoom_ordered hh).mono fun o h' _ hh => ?_))
    cases o with
    | ok view => trivial
    | error e =>
      refine Prog.Obeys.bind (Prog.Obeys.attempt (Prog.Obeys.perform ?_ (fun _ => trivial) trivial))
      exact hh.ordered rfl fun userId' heq => (Cmd.delUserRoom.inj heq).symm

/-- **Every request writes in order.** -/
theorem program_ordered (q : Request) : (program host q).Obeys Ordered (fun _ _ => True) [] := by
  by_cases hq : ∃ ownerId, q = .createRoom ownerId
  · obtain ⟨ownerId, rfl⟩ := hq
    exact Prog.Obeys.andThen (createRoom_ordered ownerId) (fun _ _ => trivial) fun _ _ => trivial
  · have hallows : Allows (fun c => c.slots = false) := by
      refine ⟨fun c hc => ?_, fun _ _ _ _ _ => rfl, fun _ _ _ _ _ => rfl, fun _ => rfl⟩
      cases c <;> first | rfl | exact hc.elim
    have hp : (program host q).Issues (fun c => c.slots = false) :=
      program_issues hallows (fun _ _ => rfl) (fun _ _ => rfl) q fun ownerId heq => hq ⟨ownerId, heq⟩
    refine (hp.obeys_all (by simp)).weaken fun h c hc => ?_
    have hnone : ¬ ∃ c' ∈ h, c'.cmd.slots = true := fun ⟨c', hmem, hslot⟩ => by simp [hc.2 c' hmem] at hslot
    exact ⟨by simp [hc.1], fun hex => absurd hex hnone, fun hex => absurd hex hnone⟩

/-- What is known of a run's log and store, with the order of its writes. -/
abbrev OrderedRun (host : Host) (init : Store) (log : List LobbyEvent) (s : Store) : Prop :=
  Chronicle (pool host) (fun _ h c => Guard h c ∧ Ordered h c) init log s

theorem ordered_run_of_moves (host : Host) (init : Store) (moves : List (Move Request Nat)) :
    OrderedRun host init ((pool host).run ⟨init, [], []⟩ moves).log
      ((pool host).run ⟨init, [], []⟩ moves).store :=
  (pool host).run_chronicle (fun q => (program_guarded q).guards (program_ordered q)) moves

theorem run_of_ordered (hrun : OrderedRun host init log s) : Run host init log s :=
  hrun.weaken fun _ _ _ h => h.1

/-! ## One step of a mapping -/

/-- The value of `user:room:<userId>`. -/
def Store.mapping (s : Store) (userId : String) : Option String := (s.userRooms userId).get s.now

/-- How a command changes the mapping of `userId`. -/
inductive MapChange (userId : String) (s : Store) : Cmd → Option String → Prop where
  | slotted {value : String} (hnone : s.mapping userId = none) :
      MapChange userId s (.setUserRoomNX userId value) (some value)
  | set {roomId : String} : MapChange userId s (.setUserRoom userId roomId) (some roomId)
  | joined {roomId : String} (h : Joins roomId userId s) :
      MapChange userId s (.roomJoin roomId userId) (some roomId)
  | deleted : MapChange userId s (.delUserRoom userId) none
  | left {roomId leaver : String} (hreply : (evalRoomLeave roomId leaver s).1 ≠ .missing)
      (huser : userId = leaver ∨ (evalRoomLeave roomId leaver s).1 = .owner ∧
        filled (s.room roomId).guestId = some userId) : MapChange userId s (.roomLeave roomId leaver) none
  | done {roomId code matchId ownerId guestId : String} (hmap : s.mapping userId = some roomId)
      (hfresh : filled (s.room roomId).matchId = none) :
      MapChange userId s (.roomMatchDone roomId code matchId ownerId guestId) none

/-- The commands that write a mapping. -/
def Cmd.writesMappings : Cmd → Bool
  | .setUserRoomNX _ _ | .setUserRoom _ _ | .delUserRoom _ | .roomJoin _ _ | .roomLeave _ _
  | .roomMatchDone _ _ _ _ _ => true
  | _ => false

theorem act_userRooms (host : Host) {c : Cmd} (h : c.writesMappings = false) (s : Store) :
    (act host c s).2.userRooms = s.userRooms := by
  cases c with
  | roomStartMatch roomId token =>
    simp only [act, evalRoomStartMatch]
    repeat' split
    all_goals rfl
  | roomMatchAbort roomId token =>
    simp only [act, evalRoomMatchAbort]
    split <;> rfl
  | matchPair =>
    simp only [act, evalMatchPair]
    split <;> rfl
  | _ => first | rfl | cases h

theorem get_put (now : Nat) (m : String → Key String) (k u : String) (v : Key String) :
    ((put m k v) u).get now = if u = k then v.get now else (m u).get now := by
  unfold put
  split <;> rfl

theorem get_put_setEx (now ms : Nat) (m : String → Key String) (k u value : String) :
    ((put m k (Key.setEx now ms value)) u).get now = if u = k then some value else (m u).get now := by
  rw [get_put, Key.get_setEx]

theorem get_clearUserRoom (now : Nat) (roomId k u : String) (m : String → Key String) :
    ((clearUserRoom now roomId k m) u).get now = (m u).get now ∨
      (m u).get now = some roomId ∧ ((clearUserRoom now roomId k m) u).get now = none := by
  unfold clearUserRoom
  split
  · next hmap =>
    rw [get_put]
    split
    · next hu => exact .inr ⟨hu ▸ hmap, rfl⟩
    · exact .inl rfl
  · exact .inl rfl

theorem roomJoin_mapping (userId roomId guestId : String) (s : Store) :
    (evalRoomJoin roomId guestId s).2.mapping userId = s.mapping userId ∨
      MapChange userId s (.roomJoin roomId guestId) ((evalRoomJoin roomId guestId s).2.mapping userId) := by
  rcases evalRoomJoin_cases roomId guestId s with ⟨h, heq⟩ | ⟨-, heq⟩
  · have hmap : (joined roomId guestId s).mapping userId =
        if userId = guestId then some roomId else s.mapping userId := get_put_setEx ..
    rw [heq, hmap]
    split
    · next hu =>
      subst hu
      exact .inr (.joined h)
    · exact .inl rfl
  · rw [heq]
    exact .inl rfl

theorem roomLeave_mapping (userId roomId leaver : String) (s : Store) :
    (evalRoomLeave roomId leaver s).2.mapping userId = s.mapping userId ∨
      MapChange userId s (.roomLeave roomId leaver) ((evalRoomLeave roomId leaver s).2.mapping userId) := by
  rcases evalRoomLeave_cases roomId leaver s with h | ⟨-, -, codes, h⟩ | ⟨-, -, -, h⟩
  · rw [h]
    exact .inl rfl
  · have hreply := congrArg Prod.fst h
    have hmissing : (evalRoomLeave roomId leaver s).1 ≠ .missing := by simp [hreply]
    rw [h]
    simp only [Store.mapping, unmapBoth]
    cases hguest : filled (s.room roomId).guestId with
    | none =>
      simp only [get_put]
      split
      · next hu => exact .inr (.left hmissing (.inl hu))
      · exact .inl rfl
    | some guest =>
      simp only [get_put]
      split
      · next hu => exact .inr (.left hmissing (.inr ⟨hreply, hu ▸ hguest⟩))
      · split
        · next hu => exact .inr (.left hmissing (.inl hu))
        · exact .inl rfl
  · have hmissing : (evalRoomLeave roomId leaver s).1 ≠ .missing := by simp [h]
    have hmap : (guestLeft roomId leaver s).mapping userId =
        if userId = leaver then none else s.mapping userId := get_put ..
    rw [h, hmap]
    split
    · next hu => exact .inr (.left hmissing (.inl hu))
    · exact .inl rfl

theorem roomMatchDone_mapping (userId roomId code matchId ownerId guestId : String) (s : Store) :
    (evalRoomMatchDone roomId code matchId ownerId guestId s).2.mapping userId = s.mapping userId ∨
      MapChange userId s (.roomMatchDone roomId code matchId ownerId guestId)
        ((evalRoomMatchDone roomId code matchId ownerId guestId s).2.mapping userId) := by
  cases hfresh : filled (s.room roomId).matchId with
  | some recorded =>
    rw [evalRoomMatchDone_again hfresh]
    exact .inl rfl
  | none =>
    have hmap : (evalRoomMatchDone roomId code matchId ownerId guestId s).2.mapping userId =
        ((clearUserRoom s.now roomId guestId (clearUserRoom s.now roomId ownerId s.userRooms)) userId).get
          s.now := by
      simp only [Store.mapping, evalRoomMatchDone, hfresh]
      rfl
    rw [hmap]
    rcases get_clearUserRoom s.now roomId guestId userId (clearUserRoom s.now roomId ownerId s.userRooms) with
      h | ⟨hroom, h⟩
    · rcases get_clearUserRoom s.now roomId ownerId userId s.userRooms with h' | ⟨hroom, h'⟩
      · exact .inl (h.trans h')
      · rw [h, h']
        exact .inr (.done hroom hfresh)
    · rw [h]
      rcases get_clearUserRoom s.now roomId ownerId userId s.userRooms with h' | ⟨hroom', -⟩
      · exact .inr (.done (h'.symm.trans hroom) hfresh)
      · exact .inr (.done hroom' hfresh)

theorem setUserRoomNX_mapping (userId key value : String) (s : Store) :
    (act host (.setUserRoomNX key value) s).2.mapping userId = s.mapping userId ∨
      MapChange userId s (.setUserRoomNX key value)
        ((act host (.setUserRoomNX key value) s).2.mapping userId) := by
  have hmap : (act host (.setUserRoomNX key value) s).2.mapping userId = if userId = key then
      (setNX s.now ROOM_TTL_SECONDS value (s.userRooms key)).2.get s.now else s.mapping userId := get_put ..
  rw [hmap]
  split
  · next hu =>
    subst hu
    unfold setNX
    split
    · exact .inl rfl
    · next hnone =>
      rw [Key.get_setEx]
      exact .inr (.slotted hnone)
  · exact .inl rfl

/-- **One step of a mapping.** -/
theorem act_mapping (host : Host) (userId : String) (c : Cmd) (s : Store) :
    (act host c s).2.mapping userId = s.mapping userId ∨
      MapChange userId s c ((act host c s).2.mapping userId) := by
  by_cases h : c.writesMappings = false
  · left
    rw [Store.mapping, act_userRooms host h, act_now]
    rfl
  · cases c with
    | setUserRoomNX key value => exact setUserRoomNX_mapping userId key value s
    | setUserRoom key roomId =>
      have hmap : (act host (.setUserRoom key roomId) s).2.mapping userId =
          if userId = key then some roomId else s.mapping userId := get_put_setEx ..
      rw [hmap]
      split
      · next hu =>
        subst hu
        exact .inr .set
      · exact .inl rfl
    | delUserRoom key =>
      have hmap : (act host (.delUserRoom key) s).2.mapping userId =
          if userId = key then none else s.mapping userId := get_put ..
      rw [hmap]
      split
      · next hu =>
        subst hu
        exact .inr .deleted
      · exact .inl rfl
    | roomJoin roomId guestId => exact roomJoin_mapping userId roomId guestId s
    | roomLeave roomId leaver => exact roomLeave_mapping userId roomId leaver s
    | roomMatchDone roomId code matchId ownerId guestId =>
      exact roomMatchDone_mapping userId roomId code matchId ownerId guestId s
    | _ => exact absurd rfl h

theorem event_mapping (userId : String) (hdo : (pool host).Does e) :
    e.after.mapping userId = e.before.mapping userId ∨
      Took host e ∧ MapChange userId e.before e.cmd (e.after.mapping userId) := by
  rcases took_or_kept hdo with htook | hkept
  · rcases act_mapping host userId e.cmd e.before with hsame | hchange
    · left
      rw [htook, hsame]
    · right
      refine ⟨htook, ?_⟩
      rw [htook]
      exact hchange
  · left
    rw [hkept]

end AutoChess.Lobby
