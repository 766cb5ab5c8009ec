/-
What a player is shown of the other's board over a whole match: the board
that fought the last resolved battle, whoever asks and whenever
(`planning_secrecy`). While a request runs, the runtimes it reads have the
boards scouted before it (`Since`), and it publishes what it read.
-/
import AutoChess.Runtime.Bridge
import AutoChess.Runtime.Score
import AutoChess.Runtime.Tells

namespace AutoChess.Runtime

open AutoChess.Game AutoChess.Shop Calls Expiring

/-! ## What is done on a match -/

/-- The gateway's `resumeActiveMatch`: what a player who comes back is shown. -/
def resumeActiveMatch (matchId userId : String) : M (Option StatePayload) := do
  match ← call (.findActiveByUserId userId) with
  | none => return none
  | some _ =>
    let payload ← statePayloadForUser matchId userId
    return some payload

inductive Operation where
  | request (q : Request)
  | resume (userId : String)

def Operation.resolves : Operation → Bool
  | .request q => q.resolves
  | .resume _ => false

def Operation.announces : Operation → Bool
  | .request (.announce _ _) => true
  | _ => false

/-- A roster, and who it is for. -/
abbrev Shown := Option String × StatePayload

def rosters (publications : List Publication) : List Shown :=
  publications.filterMap fun publication =>
    match publication.payload with
    | .state payload => some (publication.targetUserId, payload)
    | _ => none

/-- An operation runs to its end: the rosters it shows, and what it leaves. -/
def perform (matchId : String) (host : Host) (s : Store) : Operation → List Shown × Store
  | .request q =>
    let after := ((program matchId host q).alone (act host) { s with published := [] }).2
    (rosters after.published, after)
  | .resume userId =>
    let resumed := (resumeActiveMatch matchId userId).alone (act host) s
    ((match resumed.1 with
      | .ok (some payload) => [(some userId, payload)]
      | _ => []), resumed.2)

/-- A match as it is watched: what is stored, each player's board in the last
resolved battle, and what the last operation showed. -/
structure Watched where
  store : Store
  fought : Side → OpponentBoardSummary
  shown : List Shown

/-- Some time passes, and an operation runs. A battle is resolved where a
request at its end takes the match out of it. -/
def Watched.next (matchId : String) (host : Host) (w : Watched) (step : Nat × Operation) : Watched :=
  let before := elapse step.1 w.store
  let performed := perform matchId host before step.2
  { store := performed.2
    fought := if step.2.resolves = true ∧ before.hash.phase = some .battle ∧
        performed.2.hash.phase ≠ some .battle then
      fun side => summarizeBoard (stored before.hash side).board
    else w.fought
    shown := performed.1 }

def Match.player (m : Match) : Side → String
  | .p1 => m.player1Id
  | .p2 => m.player2Id

/-- Every roster goes to its player, with the board of the other player. -/
def ShowsFor (m : Match) (boards : Side → OpponentBoardSummary) (shown : List Shown) : Prop :=
  ∀ target payload, (target, payload) ∈ shown → target = some (m.player payload.yourSide) ∧
    payload.opponent.boardSummary = boards (enemySideOf payload.yourSide)

/-- The match as `initializeMatch` leaves it. -/
def Watched.opened (matchId : String) (host : Host) (m : Match) (names : PlayerNames)
    (users : String → Option User) (ms : Nat) : Watched :=
  Watched.next matchId host ⟨freshStore m names users, fun _ => emptyBoardSummary, []⟩
    (ms, .request (.announce m names))

/-! ## Scouted boards in the hash -/

def RuntimeHash.scout (hash : RuntimeHash) : Side → OpponentBoardSummary
  | .p1 => hash.scoutP1Board
  | .p2 => hash.scoutP2Board

/-- A write of a scouted board, or of a player's state. -/
def FieldWrite.isScout : FieldWrite → Bool
  | .scoutP1Board _ | .scoutP2Board _ => true
  | _ => false

def FieldWrite.isState : FieldWrite → Bool
  | .p1State _ | .p2State _ => true
  | _ => false

theorem summarizeBoard_normalized (board : Slots) :
    normalizeBoardSummary (summarizeBoard board) = summarizeBoard board := by
  unfold normalizeBoardSummary summarizeBoard
  refine List.map_congr_left fun index hindex => ?_
  rw [List.getElem?_map, List.getElem?_range (List.mem_range.1 hindex)]
  rw [Option.map_some, Option.join_some]
  split
  · split
    · next hstar => simp [Option.filter, hstar]
    · rfl
  · rfl

theorem summarizeBoard_slots (board : Slots) : summarizeBoard (normalizeSlots board 9) = summarizeBoard board := by
  unfold summarizeBoard normalizeSlots
  refine List.map_congr_left fun index hindex => ?_
  rw [List.getElem?_map, List.getElem?_range (List.mem_range.1 hindex)]
  rfl

section
variable {matchId : String} {host : Host} {q : Request} {h : History} {s₀ s : Store} {a b : RuntimeHash}
  {runtime : MatchRuntimeState} {side : Side}

theorem ReadAs.seen (h : ReadAs matchId b runtime) : b.phase = some runtime.phase ∧
    (∀ side, scouted runtime side = normalizeBoardSummary (b.scout (enemySideOf side))) ∧
    ∀ side, (sideState runtime side).board = normalizeSlots (stored b side).board 9 := by
  refine ⟨h.fields.1, ?_⟩
  obtain ⟨name1, name2, h⟩ := h
  simp only [parseRuntimeHash, Option.bind_eq_bind, Option.bind_eq_some_iff, Option.pure_def,
    Option.some.injEq] at h
  obtain ⟨phase, -, round, -, heq⟩ := h
  injection heq with _ _ _ _ _ _ _ _ hstate1 hstate2 _ _ _ _ _ _ hscout1 hscout2
  refine ⟨fun side => ?_, fun side => ?_⟩
  · cases side
    · exact hscout2.symm
    · exact hscout1.symm
  · cases side
    · exact (congrArg RuntimePlayerState.board hstate1).symm
    · exact (congrArg RuntimePlayerState.board hstate2).symm

/-! ## While a request runs -/

/-- What a request has made of the match `a` by its calls `h`. -/
structure Since (q : Request) (h : History) (a b : RuntimeHash) : Prop where
  ids : ∀ side, b.player side = a.player side
  stored : q.resolves = false → b.phase ≠ none → a.phase ≠ none
  closed : a.phase = some .finished → b.phase = some .finished
  battle : q.resolves = true → b.phase = some .battle → a.phase = some .battle
  scouts : q.resolves = false → ∀ side, b.scout side = a.scout side
  boards : q.resolves = true → Never Cmd.isResult h → ∀ side, (Runtime.stored b side).board = (Runtime.stored a side).board

theorem Since.refl (a : RuntimeHash) : Since q h a a :=
  ⟨fun _ => rfl, fun _ => id, id, fun _ => id, fun _ _ => rfl, fun _ _ _ => rfl⟩

theorem hset_scout {fields : List FieldWrite} (hfields : ∀ f ∈ fields, f.isScout = false) (side : Side) :
    (b.hset fields).scout side = b.scout side := by
  induction fields generalizing b with
  | nil => rfl
  | cons f fields ih =>
    obtain ⟨hf, hfields⟩ := List.forall_mem_cons.1 hfields
    refine (ih hfields).trans ?_
    cases f <;> first | (cases side <;> rfl) | cases hf

theorem hset_stored {fields : List FieldWrite} (hfields : ∀ f ∈ fields, f.isState = false) (side : Side) :
    stored (b.hset fields) side = stored b side := by
  induction fields generalizing b with
  | nil => rfl
  | cons f fields ih =>
    obtain ⟨hf, hfields⟩ := List.forall_mem_cons.1 hfields
    refine (ih hfields).trans ?_
    cases f <;> first | (cases side <;> rfl) | cases hf

theorem edits_resolves (hq : q.edits = true) : q.resolves = false := by
  cases q with
  | action userId round action => cases action <;> first | rfl | cases hq
  | _ => cases hq

/-- Only the requests at the end of a battle write scouted boards, and they
write a player's state only with the result. -/
theorem written_keeps {c : Cmd} (hg : Guard matchId q h c) (s : Store) :
    (q.resolves = false → ∀ f ∈ written c s, f.isScout = false) ∧
      (q.resolves = true → c.isResult = false → ∀ f ∈ written c s, f.isState = false) := by
  cases c with
  | hset fields =>
    cases (show WriteGuard matchId q h fields from hg) with
    | result _ _ _ hq => exact ⟨fun hres => by simp [hq] at hres, fun _ hresult => by cases hresult⟩
    | knockout _ _ _ hq => exact ⟨fun hres => by simp [hq] at hres, fun _ hresult => by cases hresult⟩
    | @roundReady _ _ _ side => cases side <;> simp [written, readyField, FieldWrite.isScout, FieldWrite.isState]
    | @markReady _ _ side => cases side <;> simp [written, readyField, FieldWrite.isScout, FieldWrite.isState]
    | _ => simp [written, resetFields, FieldWrite.isScout, FieldWrite.isState]
  | phaseFlip expectedPhase newPhase round next =>
    simp only [written]
    split
    · cases next <;> simp [flipFields, FieldWrite.isScout, FieldWrite.isState]
    · simp
  | actionLog userId actionId field shop phase round =>
    simp only [written]
    split
    · cases (show LogGuard q field phase from hg) with
      | @state side state hq =>
        refine ⟨fun _ => by cases side <;> simp [stateField, FieldWrite.isScout], fun hres => ?_⟩
        simp [edits_resolves hq] at hres
      | @ready _ _ _ _ side => cases side <;> simp [readyField, FieldWrite.isScout, FieldWrite.isState]
    · simp
  | _ => simp [written]

/-- A request at the end of a battle starts none. -/
theorem written_battle {c : Cmd} (hg : Guard matchId q h c) (hq : q.resolves = true) (s : Store)
    (hbattle : (s.hash.hset (written c s)).phase = some .battle) : s.hash.phase = some .battle := by
  cases c with
  | hset fields =>
    rcases WriteGuard.phase_or (show WriteGuard matchId q h fields from hg) s.hash with hsame | hover
    · exact hsame ▸ hbattle
    · cases hover.symm.trans hbattle
  | phaseFlip expectedPhase newPhase round next =>
    simp only [written] at hbattle
    split at hbattle
    · cases (show FlipGuard matchId q h expectedPhase newPhase round next from hg) with
      | start hstarts => cases hstarts <;> subst q <;> cases hq
      | _ => cases hbattle
    · exact hbattle
  | actionLog userId actionId field shop phase round =>
    simp only [written] at hbattle
    split at hbattle
    · cases (show LogGuard q field phase from hg) with
      | @state side state _ => exact (stateField_keeps s.hash side state).1 ▸ hbattle
      | @ready _ _ _ ready side _ => exact (readyField_keeps s.hash side (ready.getD true)).1 ▸ hbattle
    · exact hbattle
  | _ => exact hbattle

theorem written_stored {c : Cmd} (hg : Guard matchId q h c) (hq : q.resolves = false) (s : Store)
    (hstored : (s.hash.hset (written c s)).phase ≠ none) : s.hash.phase ≠ none := by
  cases c with
  | hset fields =>
    cases (show WriteGuard matchId q h fields from hg) with
    | result _ _ _ hq' => simp [hq] at hq'
    | knockout _ _ _ hq' => simp [hq] at hq'
    | @roundReady _ _ _ side => exact (readyField_keeps s.hash side true).1 ▸ hstored
    | @markReady _ _ side => exact (readyField_keeps s.hash side true).1 ▸ hstored
    | _ => exact hstored
  | phaseFlip expectedPhase newPhase round next =>
    simp only [written] at hstored
    split at hstored
    · next hflip =>
      rw [(evalPhaseFlip_iff.1 hflip).1]
      exact Option.some_ne_none _
    · exact hstored
  | actionLog userId actionId field shop phase round =>
    simp only [written] at hstored
    split at hstored
    · cases (show LogGuard q field phase from hg) with
      | @state side state _ => exact (stateField_keeps s.hash side state).1 ▸ hstored
      | @ready _ _ _ ready side _ => exact (readyField_keeps s.hash side (ready.getD true)).1 ▸ hstored
    · exact hstored
  | _ => exact hstored

theorem Since.step {c : Cmd} {r : Option (Resp c)} (hs : Since q h a s.hash) (hg : Guard matchId q h c) (host : Host) :
    Since q (⟨c, r⟩ :: h) a (act host c s).2.hash := by
  rw [act_hash]
  obtain ⟨hscout, hstate⟩ := written_keeps hg s
  refine ⟨fun side => (hset_player _ _ _).trans (hs.ids side), fun hq hstored => ?_, fun hover => ?_,
    fun hq hbattle => ?_, fun hq side => ?_, fun hq hnever side => ?_⟩
  · exact hs.stored hq (written_stored hg hq s hstored)
  · cases Guard.phaseStep hg s with
    | same hphase _ => exact hphase.trans (hs.closed hover)
    | finish hphase _ => exact hphase
    | start hwas _ => cases (hs.closed hover).symm.trans hwas.1
    | resolve hwas _ => cases (hs.closed hover).symm.trans hwas.1
    | advance hwas _ => cases (hs.closed hover).symm.trans hwas.1
  · exact hs.battle hq (written_battle hg hq s hbattle)
  · exact (hset_scout (hscout hq) side).trans (hs.scouts hq side)
  · obtain ⟨hc, hnever⟩ := List.forall_mem_cons.1 hnever
    exact (congrArg RuntimePlayerState.board (hset_stored (hstate hq hc) side)).trans (hs.boards hq hnever side)

/-- The row is of the same players, and open only if it was; nobody is
deleted. -/
structure Filed (s s' : Store) : Prop where
  player1 : s'.row.player1Id = s.row.player1Id
  player2 : s'.row.player2Id = s.row.player2Id
  closed : s'.row.status = .in_progress → s.row.status = .in_progress
  known : ∀ id, (s.users id).isSome → (s'.users id).isSome

/-- What a command leaves of the row, the users and what was published. -/
structure Recorded (c : Cmd) (s s' : Store) : Prop extends Filed s s' where
  published : (∀ publication, c ≠ .publish publication) → s'.published = s.published

theorem Filed.of_eq {s s' : Store} (h1 : s'.row = s.row) (h2 : s'.users = s.users) : Filed s s' :=
  ⟨by rw [h1], by rw [h1], by rw [h1]; exact id, by rw [h2]; exact fun _ => id⟩

theorem Filed.trans {s₁ s₂ s₃ : Store} (h : Filed s₁ s₂) (h' : Filed s₂ s₃) : Filed s₁ s₃ :=
  ⟨h'.player1.trans h.player1, h'.player2.trans h.player2, h.closed ∘ h'.closed,
    fun id hid => h'.known id (h.known id hid)⟩

theorem Recorded.of_eq {c : Cmd} {s s' : Store} (h1 : s'.row = s.row) (h2 : s'.users = s.users)
    (h3 : s'.published = s.published) : Recorded c s s' :=
  ⟨.of_eq h1 h2, fun _ => h3⟩

theorem put_known {α : Type} {f : String → Option α} {id id' : String} {v : α} (h : (f id).isSome) :
    (put f id' (some v) id).isSome := by
  unfold put
  split
  · rfl
  · exact h

theorem act_recorded (host : Host) (c : Cmd) (s : Store) : Recorded c s (act host c s).2 := by
  cases c with
  | phaseFlip expectedPhase newPhase round next =>
    simp only [act, evalPhaseFlip]
    split
    · exact .of_eq rfl rfl rfl
    · split <;> exact .of_eq rfl rfl rfl
  | actionLog userId id field shop phase round =>
    simp only [act, evalActionLog]
    split
    · exact .of_eq rfl rfl rfl
    · split
      · exact .of_eq rfl rfl rfl
      · split
        · exact .of_eq rfl rfl rfl
        · cases shop <;> exact .of_eq rfl rfl rfl
  | setLock lock owner ttlMs =>
    simp only [act, setLock]
    split <;> exact .of_eq rfl rfl rfl
  | releaseOwnedLock lock owner =>
    simp only [act, releaseOwnedLock]
    split <;> exact .of_eq rfl rfl rfl
  | combatDone userId =>
    simp only [act, evalCombatDone]
    split <;> exact .of_eq rfl rfl rfl
  | schedule job delayMs =>
    simp only [act, schedule]
    split <;> exact .of_eq rfl rfl rfl
  | updateState side state => cases side <;> exact ⟨⟨rfl, rfl, id, fun _ => id⟩, fun _ => rfl⟩
  | updateRuntimeSnapshot p1 p2 index1 index2 => exact ⟨⟨rfl, rfl, id, fun _ => id⟩, fun _ => rfl⟩
  | appendRoundEvents round events => exact ⟨⟨rfl, rfl, id, fun _ => id⟩, fun _ => rfl⟩
  | publish publication => exact ⟨⟨rfl, rfl, id, fun _ => id⟩, fun hother => absurd rfl (hother publication)⟩
  | finalizeRow winnerId reason =>
    have hclosed : (closeRow winnerId reason s).status = .in_progress → s.row.status = .in_progress := by
      intro hstatus
      unfold closeRow at hstatus
      split at hstatus <;> cases hstatus
    simp only [act, finalizeRow]
    split
    · exact .of_eq rfl rfl rfl
    · split
      · exact ⟨⟨rfl, rfl, hclosed, fun _ => id⟩, fun _ => rfl⟩
      · split
        · exact .of_eq rfl rfl rfl
        · split
          · exact ⟨⟨rfl, rfl, hclosed, fun _ hid => put_known (put_known hid)⟩, fun _ => rfl⟩
          · exact .of_eq rfl rfl rfl
  | _ => exact .of_eq rfl rfl rfl

/-- What a request publishes of the match it found. -/
structure Reveals (q : Request) (h : History) (a : RuntimeHash) (target : Option String) (payload : StatePayload) :
    Prop where
  target : target = some (a.player payload.yourSide)
  scouted : q.resolves = false → a.phase ≠ none ∧ a.phase ≠ some .finished ∧
    payload.opponent.boardSummary = normalizeBoardSummary (a.scout (enemySideOf payload.yourSide))
  fought : q.resolves = true → (∃ round, Won h .battle .resolved round none) ∧
    payload.opponent.boardSummary = summarizeBoard (stored a (enemySideOf payload.yourSide)).board

/-- A request at work on the match it found in `s₀`. -/
structure Watching (matchId : String) (q : Request) (s₀ : Store) (h : History) (s : Store) : Prop where
  now : Since q h s₀.hash s.hash
  first : q.resolves = false → Never Cmd.isResult h
  reads : ∀ newer hash older, h = newer ++ (⟨.hgetall, some hash⟩ : Call Cmd Resp) :: older →
    Since q older s₀.hash hash
  won : ∀ round, Won h .battle .resolved round none →
    q.resolves = true ∧ s₀.hash.phase = some .battle ∧ s.hash.phase ≠ some .battle
  told : ∀ target payload, ⟨target, .state payload⟩ ∈ s.published → Reveals q h s₀.hash target payload

theorem Watching.saw (hw : Watching matchId q s₀ h s) (hnever : q.resolves = true → Never Cmd.isResult h)
    (hsaw : Saw matchId h runtime) : ∃ hash, Since q h s₀.hash hash ∧ ReadAs matchId hash runtime := by
  obtain ⟨hash, hmem, hread⟩ := hsaw
  obtain ⟨newer, older, rfl⟩ := List.append_of_mem hmem
  have hs := hw.reads newer hash older rfl
  refine ⟨hash, ⟨hs.ids, hs.stored, hs.closed, hs.battle, hs.scouts, fun hq _ => hs.boards hq ?_⟩, hread⟩
  intro c hc
  exact hnever hq c (List.mem_append_right _ (List.mem_cons_of_mem _ hc))

/-- A roster that is told is one the match showed. -/
theorem StateTold.reveals {target : Option String} {payload : StatePayload} (ht : StateTold matchId q h target payload)
    (hw : Watching matchId q s₀ h s) (hq : ∀ m names, q ≠ .announce m names) : Reveals q h s₀.hash target payload := by
  cases ht with
  | announced hannounce _ => exact absurd hannounce (hq _ _)
  | @read runtime live hres hsaw hlive htarget hscout =>
    have hnever : q.resolves = true → Never Cmd.isResult h := fun hres' => by simp [hres] at hres'
    obtain ⟨hash, hs, hread⟩ := hw.saw hnever hsaw
    obtain ⟨hash', hs', hread'⟩ := hw.saw hnever hlive.1
    obtain ⟨-, hscouted, -⟩ := hread.seen
    have hphase := hread'.fields.1
    refine ⟨?_, fun _ => ⟨?_, fun hover => ?_, ?_⟩, fun hres' => by simp [hres] at hres'⟩
    · rw [htarget, hread.ids, hs.ids]
    · exact hs'.stored hres (hphase ▸ Option.some_ne_none _)
    · exact hlive.2 (Option.some.inj (hphase.symm.trans (hs'.closed hover)))
    · rw [hscout, hscouted, hs.scouts hres]
  | @resolved round runtime older hwon hsuf hfirst hsaw hphase htarget hscout =>
    obtain ⟨hres, -, -⟩ := hw.won round hwon
    obtain ⟨newer, rfl⟩ := hsuf
    obtain ⟨hash, hmem, hread⟩ := hsaw
    obtain ⟨newer', older', rfl⟩ := List.append_of_mem hmem
    have hs := hw.reads (newer ++ newer') hash older' (by simp)
    obtain ⟨-, -, hboards⟩ := hread.seen
    refine ⟨?_, fun hres' => by simp [hres] at hres', fun _ => ⟨⟨round, hwon⟩, ?_⟩⟩
    · rw [htarget, hread.ids, hs.ids]
    · rw [hscout, hboards, summarizeBoard_slots, hs.boards hres]
      intro c hc
      exact hfirst c (List.mem_append_right _ (List.mem_cons_of_mem _ hc))

theorem Reveals.later {target : Option String} {payload : StatePayload} {c : Call Cmd Resp}
    (hs : Reveals q h a target payload) : Reveals q (c :: h) a target payload := by
  refine ⟨hs.target, hs.scouted, fun hq => ?_⟩
  obtain ⟨⟨round, hwon⟩, hboards⟩ := hs.fought hq
  exact ⟨⟨round, List.mem_cons_of_mem _ hwon⟩, hboards⟩

/-- **One call of a request at work.** -/
theorem Watching.step {c : Cmd} (hw : Watching matchId q s₀ h s) (hq : ∀ m names, q ≠ .announce m names)
    (hg : Guard matchId q h c) (ht : Tells matchId q h c) (host : Host) :
    Watching matchId q s₀ (⟨c, some (act host c s).1⟩ :: h) (act host c s).2 := by
  have hnow := hw.now.step (r := some (act host c s).1) hg host
  refine ⟨hnow, fun hres => ?_, fun newer hash older hh => ?_, fun round hwon => ?_,
    fun target payload hmem => ?_⟩
  · refine (hw.first hres).cons ?_
    cases c with
    | hset fields =>
      cases (show WriteGuard matchId q h fields from hg) with
      | result _ _ _ hq' => simp [hres] at hq'
      | knockout _ _ _ hq' => simp [hres] at hq'
      | @roundReady _ _ _ side => cases side <;> rfl
      | @markReady _ _ side => cases side <;> rfl
      | _ => rfl
    | _ => rfl
  · rcases newer with _ | ⟨c', newer⟩
    · injection hh with hcall hold
      subst hold
      cases c with
      | hgetall =>
        injection hcall with _ hreply
        have hhash : s.hash = hash := Option.some.inj hreply
        exact hhash ▸ hw.now
      | _ => injection hcall with hcmd _; cases hcmd
    · injection hh with _ hold
      exact hw.reads newer hash older hold
  · rcases List.mem_cons.1 hwon with hcall | hwon
    · injection hcall with hcmd hreply
      subst hcmd
      have hflip : (evalPhaseFlip .battle .resolved round none s).1 = true := (Option.some.inj (eq_of_heq hreply)).symm
      cases (show FlipGuard matchId q h .battle .resolved round none from hg) with
      | resolve _ _ _ _ _ hres =>
        refine ⟨hres, hw.now.battle hres (evalPhaseFlip_iff.1 hflip).1, ?_⟩
        rw [act_hash, written, if_pos hflip]
        exact fun hphase => by cases hphase
    · obtain ⟨hres, hbattle, hleft⟩ := hw.won round hwon
      refine ⟨hres, hbattle, fun hphase => hleft ?_⟩
      rw [act_hash] at hphase
      exact written_battle hg hres s hphase
  · have hold : ⟨target, .state payload⟩ ∈ s.published →
        Reveals q (⟨c, some (act host c s).1⟩ :: h) s₀.hash target payload :=
      fun hmem => (hw.told target payload hmem).later
    by_cases hpublish : ∃ publication, c = .publish publication
    · obtain ⟨publication, rfl⟩ := hpublish
      rcases List.mem_cons.1 hmem with rfl | hmem
      · exact (StateTold.reveals ht hw hq).later
      · exact hold hmem
    · exact hold ((act_recorded host c s).published (fun _ heq => hpublish ⟨_, heq⟩) ▸ hmem)

/-- A request, watched from beginning to end. -/
theorem program_watched (hq : ∀ m names, q ≠ .announce m names) (hnone : s.published = []) :
    ∃ h, Watching matchId q s h ((program matchId host q).alone (act host) s).2 ∧
      Filed s ((program matchId host q).alone (act host) s).2 := by
  have hobeys : (program matchId host q).Obeys (fun h c => Guard matchId q h c ∧ Tells matchId q h c)
      (fun _ _ => True) [] := (program_guarded q).guards (program_tells q)
  have key : (program matchId host q).wp (act host) (fun _ s' => ∃ h, Watching matchId q s h s' ∧ Filed s s') s := by
    refine hobeys.wp (J := fun h s' => Watching matchId q s h s' ∧ Filed s s') ?_ ⟨⟨.refl _, by simp [Never], ?_,
      by simp [Won], by simp [hnone]⟩, .of_eq rfl rfl⟩
    · rintro h c s' ⟨hg, ht⟩ ⟨hw, hfiled⟩
      exact ⟨hw.step hq hg ht host, hfiled.trans (act_recorded host c s').toFiled⟩
    · intro newer hash older hh
      cases newer <;> cases hh
  exact Prog.wp_iff.1 key

theorem Alike.scout {s s' : Store} (h : Alike s s') (side : Side) : s'.hash.scout side = s.hash.scout side := by
  obtain ⟨⟨a, b, h⟩, -, -, -⟩ := h
  rw [h]
  cases side <;> rfl

theorem Alike.player {s s' : Store} (h : Alike s s') (side : Side) : s'.hash.player side = s.hash.player side := by
  obtain ⟨⟨a, b, h⟩, -, -, -⟩ := h
  rw [h]
  cases side <;> rfl

/-- A round both players survive scouts the boards it was computed from. -/
theorem fields_scout {events : List CombatEvent} {round : Nat} {resolution : Resolution}
    (hres : resolveRound runtime round events = some resolution) (hlive : resolution.winnerId = none) :
    (b.hset (flipFields .resolved none ++ resolution.fields round)).scout side =
      summarizeBoard (sideState runtime side).board := by
  obtain ⟨h1, h2⟩ := resolveRound_boards hres
  unfold Resolution.fields
  rw [hlive]
  cases side with
  | p1 => exact congrArg summarizeBoard h1
  | p2 => exact congrArg summarizeBoard h2

/-- **A resolution scouts the boards that fought, or ends the match.** -/
theorem resolve_scouts {round : Nat} {events : List CombatEvent} (hdue : Due round s events) :
    (∀ side, (resolve matchId host round s).hash.player side = s.hash.player side) ∧
    (((resolve matchId host round s).hash.phase = some .resolved ∧ ∀ side,
        (resolve matchId host round s).hash.scout side = summarizeBoard (stored s.hash side).board) ∨
      ((resolve matchId host round s).hash.phase = some .finished ∧
        (OpenRow s → (resolve matchId host round s).row.status ≠ .in_progress))) := by
  obtain ⟨runtime, resolution, hread, hres, hstored⟩ : ∃ runtime resolution, ReadAs matchId s.hash runtime ∧
      resolveRound runtime round events = some resolution ∧
      Alike (s.hset (flipFields .resolved none ++ resolution.fields round)) (resolve matchId host round s) := by
    refine Prog.wp_iff.1 (applyDamageAndAdvance_wp (Q := fun _ s' => ∃ runtime resolution,
      ReadAs matchId s.hash runtime ∧ resolveRound runtime round events = some resolution ∧
      Alike (s.hset (flipFields .resolved none ++ resolution.fields round)) s')
      (fun hskip => (hskip events hdue).elim) ?_)
    intro runtime events' resolution hdue' hread hres o s' hs
    obtain rfl : events' = events := Option.some.inj (hdue'.cached.symm.trans hdue.cached)
    exact ⟨runtime, resolution, hread, hres, hs⟩
  have hphase := hstored.phase
  rw [hash_hset, fields_phase] at hphase
  refine ⟨fun side => ?_, ?_⟩
  · rw [hstored.player, hash_hset, hset_player]
  cases hwinner : resolution.winnerId with
  | none =>
    rw [if_pos hwinner] at hphase
    refine .inl ⟨hphase, fun side => ?_⟩
    rw [hstored.scout, hash_hset, fields_scout hres hwinner, hread.seen.2.2, summarizeBoard_slots]
  | some winnerId =>
    rw [if_neg (by simp [hwinner])] at hphase
    refine .inr ⟨hphase, fun hopen hstatus => ?_⟩
    have hclosed : (resolve matchId host round s).row.status = .finished :=
      ((resolve_row hdue hread hres hopen).2 winnerId hwinner).1
    cases hstatus.symm.trans hclosed

/-! ## Over a match -/

/-- What holds of a watched match between two operations. -/
structure Sound (m : Match) (fought : Side → OpponentBoardSummary) (s : Store) : Prop where
  player1 : s.row.player1Id = m.player1Id
  player2 : s.row.player2Id = m.player2Id
  known1 : (s.users m.player1Id).isSome
  known2 : (s.users m.player2Id).isSome
  ids : s.hash.phase ≠ none → ∀ side, s.hash.player side = m.player side
  /-- A knockout stores no boards, but closes the row. -/
  scouts : s.hash.phase ≠ none → s.hash.phase ≠ some .finished ∨ s.row.status = .in_progress →
    ∀ side, normalizeBoardSummary (s.hash.scout side) = fought side

section
variable {m : Match} {fought : Side → OpponentBoardSummary} {s' : Store}

theorem Sound.openRow (hs : Sound m fought s) (hstored : s.hash.phase ≠ none) (hopen : s.row.status = .in_progress) :
    OpenRow s where
  inProgress := hopen
  player1 := hs.player1.trans (hs.ids hstored .p1).symm
  player2 := hs.player2.trans (hs.ids hstored .p2).symm
  known1 := hs.player1 ▸ hs.known1
  known2 := hs.player2 ▸ hs.known2

theorem Sound.elapse (hs : Sound m fought s) (ms : Nat) : Sound m fought (elapse ms s) := by
  rcases hash_elapse ms s with h | h
  · have hhash : (Runtime.elapse ms s).hash = s.hash := h
    exact ⟨hs.player1, hs.player2, hs.known1, hs.known2, hhash ▸ hs.ids, hhash ▸ hs.scouts⟩
  · have hhash : (Runtime.elapse ms s).hash.phase = none := congrArg RuntimeHash.phase h
    exact ⟨hs.player1, hs.player2, hs.known1, hs.known2, fun h => absurd hhash h, fun h => absurd hhash h⟩

theorem Sound.unpublished (hs : Sound m fought s) : Sound m fought { s with published := [] } :=
  ⟨hs.player1, hs.player2, hs.known1, hs.known2, hs.ids, hs.scouts⟩

/-- An operation that leaves the hash alike, or expired, keeps the match sound. -/
theorem Sound.filed (hs : Sound m fought s) (hf : Filed s s')
    (hids : s'.hash.phase ≠ none → s.hash.phase ≠ none ∧ ∀ side, s'.hash.player side = s.hash.player side)
    (hover : s.hash.phase = some .finished → s'.hash.phase = some .finished)
    (hscouts : s'.hash.phase ≠ none → ∀ side, s'.hash.scout side = s.hash.scout side) : Sound m fought s' := by
  refine ⟨hf.player1.trans hs.player1, hf.player2.trans hs.player2, hf.known _ hs.known1, hf.known _ hs.known2,
    fun hstored side => ?_, fun hstored hlasts side => ?_⟩
  · exact ((hids hstored).2 side).trans (hs.ids (hids hstored).1 side)
  · rw [hscouts hstored]
    exact hs.scouts (hids hstored).1 (hlasts.imp (fun h => h ∘ hover) hf.closed) side

theorem Sound.alike (hs : Sound m fought s) (hf : Filed s s') (ha : Alike s s') : Sound m fought s' :=
  hs.filed hf (fun h => ⟨ha.phase ▸ h, ha.player⟩) (fun h => ha.phase.trans h) fun _ => ha.scout

theorem mem_rosters {publications : List Publication} {target : Option String} {payload : StatePayload}
    (h : (target, payload) ∈ rosters publications) : ⟨target, .state payload⟩ ∈ publications := by
  unfold rosters at h
  obtain ⟨⟨target', payload'⟩, hmem, hsome⟩ := List.mem_filterMap.1 h
  cases payload' <;> cases hsome
  exact hmem

/-- **A request that resolves nothing shows the boards already scouted.** -/
theorem Sound.request (hs : Sound m fought s) (hq : ∀ m names, q ≠ .announce m names) (hres : q.resolves = false) :
    ShowsFor m fought (perform matchId host s (.request q)).1 ∧
      Sound m fought (perform matchId host s (.request q)).2 := by
  obtain ⟨h, hw, hf⟩ := @program_watched matchId host q { s with published := [] } hq rfl
  refine ⟨fun target payload hmem => ?_, hs.unpublished.filed hf
    (fun hstored => ⟨hw.now.stored hres hstored, hw.now.ids⟩) hw.now.closed fun _ => hw.now.scouts hres⟩
  have hshows := hw.told target payload (mem_rosters hmem)
  obtain ⟨hstored, hlasts, hboards⟩ := hshows.scouted hres
  refine ⟨?_, ?_⟩
  · rw [hshows.target]
    exact congrArg some (hs.ids hstored _)
  · rw [hboards]
    exact hs.scouts hstored (.inl hlasts) _

/-- **A request at the end of a battle shows the boards that fought it**, once
the battle is resolved. -/
theorem Sound.resolves (hs : Sound m fought s) (hres : q.resolves = true) :
    ShowsFor m (if s.hash.phase = some .battle ∧
        (perform matchId host s (.request q)).2.hash.phase ≠ some .battle then
      fun side => summarizeBoard (stored s.hash side).board else fought)
      (perform matchId host s (.request q)).1 ∧
    Sound m (if s.hash.phase = some .battle ∧
        (perform matchId host s (.request q)).2.hash.phase ≠ some .battle then
      fun side => summarizeBoard (stored s.hash side).board else fought)
      (perform matchId host s (.request q)).2 := by
  have hq : ∀ m names, q ≠ .announce m names := by
    rintro m names rfl
    cases hres
  obtain ⟨h, hw, hf⟩ := @program_watched matchId host q { s with published := [] } hq rfl
  have hresolves : Resolves matchId host { s with published := [] } (perform matchId host s (.request q)).2 :=
    Prog.wp_iff.1 (program_resolves hres)
  refine ⟨fun target payload hmem => ?_, ?_⟩
  · have hshows := hw.told target payload (mem_rosters hmem)
    obtain ⟨⟨round, hwon⟩, hboards⟩ := hshows.fought hres
    obtain ⟨-, hbattle, hleft⟩ := hw.won round hwon
    have hstored : s.hash.phase ≠ none := by
      rw [show s.hash.phase = some .battle from hbattle]
      exact Option.some_ne_none _
    rw [if_pos ⟨hbattle, hleft⟩]
    refine ⟨?_, hboards⟩
    rw [hshows.target]
    exact congrArg some (hs.ids hstored _)
  cases hresolves with
  | none ha =>
    have hphase : (perform matchId host s (.request q)).2.hash.phase = s.hash.phase := ha.phase
    rw [hphase, if_neg fun h => h.2 h.1]
    exact hs.unpublished.alike hf ha
  | @round s₁ round events hlooked hdue heq =>
    have hphase : s.hash.phase = some .battle := hlooked.phase.symm.trans hdue.inBattle
    have hstored : s.hash.phase ≠ none := by rw [hphase]; exact Option.some_ne_none _
    have hfiled : Filed { s with published := [] } (resolve matchId host round s₁) := heq ▸ hf
    obtain ⟨hids, hscouts⟩ := @resolve_scouts matchId host s₁ round events hdue
    rw [heq]
    have hleft : (resolve matchId host round s₁).hash.phase ≠ some .battle := by
      rcases hscouts with ⟨h, -⟩ | ⟨h, -⟩ <;> rw [h] <;> decide
    rw [if_pos ⟨hphase, hleft⟩]
    refine ⟨hfiled.player1.trans hs.player1, hfiled.player2.trans hs.player2, hfiled.known _ hs.known1,
      hfiled.known _ hs.known2, fun _ side => ?_, fun _ hlasts side => ?_⟩
    · rw [hids, hlooked.player]
      exact hs.ids hstored side
    rcases hscouts with ⟨-, hscouts⟩ | ⟨hover, hclosed⟩
    · rw [hscouts, summarizeBoard_normalized, hlooked.stored]
      rfl
    · rcases hlasts with hlasts | hopen
      · exact absurd hover hlasts
      · have hs₁ : Sound m fought s₁ :=
          hs.unpublished.alike (.of_eq hlooked.row hlooked.users) hlooked.toAlike
        refine absurd hopen (hclosed (hs₁.openRow ?_ ?_))
        · rw [hdue.inBattle]
          exact Option.some_ne_none _
        · rw [hlooked.row]
          exact hfiled.closed hopen

theorem resumeActiveMatch_peeks {userId : String} : (resumeActiveMatch matchId userId).Issues Peeks := by
  refine Prog.Issues.perform_bind trivial fun found => ?_
  cases found with
  | none => trivial
  | some _ =>
    refine Prog.Issues.bind ?_ fun _ => trivial
    exact getRuntime_peeks.bind fun _ => (sideFor_peeks _ _).bind fun _ => trivial

/-- A player is shown an open match only, as it is stored. -/
theorem resumeActiveMatch_shows {userId : String} {payload : StatePayload}
    (h : ((resumeActiveMatch matchId userId).alone (act host) s).1 = .ok (some payload)) :
    s.row.status = .in_progress ∧
      payloadFrom matchId userId (foundRuntime matchId s) = .ok payload := by
  have key : (resumeActiveMatch matchId userId).wp (act host) (fun o _ => ∀ payload, o = .ok (some payload) →
      s.row.status = .in_progress ∧ payloadFrom matchId userId (foundRuntime matchId s) = .ok payload) s := ?_
  · exact Prog.wp_iff.1 key payload h
  refine wp_call.2 ?_
  by_cases hopen : (s.row.status = .in_progress && isPlayer s.row userId) = true
  · have hreply : (act host (.findActiveByUserId userId) s).1 = some s.row.id := if_pos hopen
    rw [hreply]
    show Prog.wp (act host) _ ((statePayloadForUser matchId userId).bind _) s
    refine Prog.wp_bind.2 (Prog.wp_iff.2 ?_)
    rw [statePayloadForUser_reply]
    rw [Bool.and_eq_true, decide_eq_true_eq] at hopen
    cases payloadFrom matchId userId (foundRuntime matchId s) with
    | error e => rintro _ ⟨⟩
    | ok payload =>
      rintro _ ⟨⟩
      exact ⟨hopen.1, rfl⟩
  · have hreply : (act host (.findActiveByUserId userId) s).1 = none := if_neg hopen
    rw [hreply]
    rintro _ ⟨⟩

/-- **A player who comes back is shown the boards already scouted.** -/
theorem Sound.resume (hs : Sound m fought s) (userId : String) :
    ShowsFor m fought (perform matchId host s (.resume userId)).1 ∧
      Sound m fought (perform matchId host s (.resume userId)).2 := by
  have hlooked : Looked s (perform matchId host s (.resume userId)).2 :=
    Prog.wp_iff.1 (peeks_wp resumeActiveMatch_peeks)
  refine ⟨fun target payload hmem => ?_, hs.alike (.of_eq hlooked.row hlooked.users) hlooked.toAlike⟩
  simp only [perform] at hmem
  split at hmem
  · next shown hshown =>
    obtain ⟨rfl, rfl⟩ := Prod.mk.inj (List.mem_singleton.1 hmem)
    obtain ⟨hopen, hpayload⟩ := resumeActiveMatch_shows hshown
    cases hfound : foundRuntime matchId s with
    | none => rw [hfound] at hpayload; cases hpayload
    | some runtime =>
      have hread := foundRuntime_reads hfound
      have hstored : s.hash.phase ≠ none := by rw [hread.fields.1]; exact Option.some_ne_none _
      have hids : ∀ side, playerId runtime side = m.player side :=
        fun side => (hread.ids side).trans (hs.ids hstored side)
      have hscouted : ∀ side, scouted runtime side = fought (enemySideOf side) :=
        fun side => (hread.seen.2.1 side).trans (hs.scouts hstored (.inr hopen) _)
      rw [hfound] at hpayload
      simp only [payloadFrom] at hpayload
      split at hpayload
      · next hplayer =>
        cases hpayload
        exact ⟨congrArg some (hplayer.symm.trans (hids .p1)), hscouted .p1⟩
      · split at hpayload
        · next hplayer =>
          cases hpayload
          exact ⟨congrArg some (hplayer.symm.trans (hids .p2)), hscouted .p2⟩
        · cases hpayload
  · cases hmem

/-- **One operation of a watched match.** -/
theorem Watched.next_sound {w : Watched} {step : Nat × Operation} (hs : Sound m w.fought w.store)
    (hop : step.2.announces = false) : ShowsFor m (w.next matchId host step).fought (w.next matchId host step).shown ∧
      Sound m (w.next matchId host step).fought (w.next matchId host step).store := by
  obtain ⟨ms, op⟩ := step
  have hs := hs.elapse ms
  cases op with
  | resume userId => exact hs.resume userId
  | request q =>
    have hq : ∀ m names, q ≠ .announce m names := by
      rintro m names rfl
      cases hop
    cases hres : q.resolves with
    | false =>
      have hfought : (w.next matchId host (ms, .request q)).fought = w.fought :=
        if_neg fun h => by simp [Operation.resolves, hres] at h
      rw [hfought]
      exact hs.request hq hres
    | true =>
      have hfought : (w.next matchId host (ms, .request q)).fought = if (Runtime.elapse ms w.store).hash.phase =
          some .battle ∧ (perform matchId host (Runtime.elapse ms w.store) (.request q)).2.hash.phase ≠ some .battle
          then fun side => summarizeBoard (stored (Runtime.elapse ms w.store).hash side).board else w.fought := by
        simp [Watched.next, Operation.resolves, hres]
      rw [hfought]
      exact hs.resolves hres

theorem fresh_sound (names : PlayerNames) {users : String → Option User} (h1 : (users m.player1Id).isSome)
    (h2 : (users m.player2Id).isSome) : Sound m (fun _ => emptyBoardSummary) (freshStore m names users) :=
  ⟨rfl, rfl, h1, h2, fun _ side => by cases side <;> rfl, fun _ _ side => by cases side <;> rfl⟩

/-- The opening announcement shows two empty boards. -/
theorem Watched.opened_sound (names : PlayerNames) {users : String → Option User} (h1 : (users m.player1Id).isSome)
    (h2 : (users m.player2Id).isSome) (ms : Nat) :
    ShowsFor m (Watched.opened matchId host m names users ms).fought (Watched.opened matchId host m names users ms).shown ∧
      Sound m (Watched.opened matchId host m names users ms).fought
        (Watched.opened matchId host m names users ms).store := by
  have hfought : (Watched.opened matchId host m names users ms).fought = fun _ => emptyBoardSummary := by
    simp [Watched.opened, Watched.next, Operation.resolves, Request.resolves]
  have hguarded : Guarded matchId (.announce m names) [] (announceMatch host m names) :=
    @program_guarded matchId host (.announce m names)
  have hkept : Alike (elapse ms (freshStore m names users)) (Watched.opened matchId host m names users ms).store ∧
      Filed (elapse ms (freshStore m names users)) (Watched.opened matchId host m names users ms).store := by
    refine ⟨Prog.wp_iff.1 (quiet_wp (announceMatch_quiet m names)), ?_⟩
    have key : (announceMatch host m names).wp (act host)
        (fun _ s' => Filed { elapse ms (freshStore m names users) with published := [] } s')
        { elapse ms (freshStore m names users) with published := [] } := ?_
    · exact Prog.wp_iff.1 key
    refine Prog.wp_mono (hguarded.wp (J := fun _ s' => Filed { elapse ms (freshStore m names users) with
      published := [] } s') (fun h c s' _ hs => hs.trans (act_recorded host c s').toFiled) (.of_eq rfl rfl)) ?_
    rintro o s' ⟨h, hs⟩
    exact hs
  rw [hfought]
  refine ⟨fun target payload hmem => ?_, ((fresh_sound names h1 h2).elapse ms).alike hkept.2 hkept.1⟩
  have hmem : (target, payload) ∈ [(some m.player2Id, _), (some m.player1Id, _)] := hmem
  rcases List.mem_cons.1 hmem with hmem | hmem
  · obtain ⟨rfl, rfl⟩ := Prod.mk.inj hmem
    exact ⟨rfl, rfl⟩
  · obtain ⟨rfl, rfl⟩ := Prod.mk.inj (List.mem_singleton.1 hmem)
    exact ⟨rfl, rfl⟩

theorem Watched.run_sound {w : Watched} (hs : ShowsFor m w.fought w.shown ∧ Sound m w.fought w.store)
    (steps : List (Nat × Operation)) (hops : ∀ step ∈ steps, step.2.announces = false) :
    ShowsFor m (steps.foldl (Watched.next matchId host) w).fought (steps.foldl (Watched.next matchId host) w).shown ∧
      Sound m (steps.foldl (Watched.next matchId host) w).fought (steps.foldl (Watched.next matchId host) w).store := by
  induction steps generalizing w with
  | nil => exact hs
  | cons step steps ih =>
    obtain ⟨hop, hops⟩ := List.forall_mem_cons.1 hops
    exact ih (Watched.next_sound hs.2 hop) hops

end

end

/-- What one player is shown of the other's units and offers outside battles:
nothing. -/
structure Secret (matchId : String) (host : Host) (side : Side) (userId : String) : Prop where
  publishState : ∀ runtime runtime' changed state state' s s', Twins side runtime runtime' →
    TwinStates side changed state state' → playerId runtime side ≠ "" → playerId runtime side ≠ userId →
      Indistinct userId (sent host (Runtime.publishState runtime changed state) s)
        (sent host (Runtime.publishState runtime' changed state') s')
  publishPhase : ∀ runtime runtime' timer s s', Twins side runtime runtime' →
    Indistinct userId (sent host (publish (.phase (phasePayload runtime timer))) s)
      (sent host (publish (.phase (phasePayload runtime' timer))) s')
  publishOffers : ∀ runtime runtime' buyer offers offers' s s', Twins side runtime runtime' →
    (buyer ≠ playerId runtime side → offers' = offers) →
    playerId runtime side ≠ "" → playerId runtime side ≠ userId →
      Indistinct userId (sent host (Shop.publishOffers runtime buyer offers) s)
        (sent host (Shop.publishOffers runtime' buyer offers') s')
  resetShop : ∀ runtime runtime' buyer s s', Twins side runtime runtime' →
    Indistinct userId (sent host (Shop.resetShop host runtime buyer) s)
      (sent host (Shop.resetShop host runtime' buyer) s')
  statePayloadForUser : ∀ (s s' : Store) board bench, s.hash.phase ≠ some .battle →
    s'.hash = s.hash.withUnits side board bench → s'.users = s.users → s.hash.player side ≠ userId →
      ((Runtime.statePayloadForUser matchId userId).alone (act host) s').1 =
        ((Runtime.statePayloadForUser matchId userId).alone (act host) s).1

/-- **Planning is secret.** Outside battles a player is delivered the same
whatever the other one holds, and over a whole match the board a player is
shown of the other is the one that fought the last resolved battle. -/
theorem planning_secrecy (matchId : String) (host : Host) :
    (∀ side userId, Secret matchId host side userId) ∧
    ∀ (m : Match) (names : PlayerNames) (users : String → Option User) (ms : Nat),
      (users m.player1Id).isSome → (users m.player2Id).isSome →
      ∀ steps : List (Nat × Operation), (∀ step ∈ steps, step.2.announces = false) →
        ShowsFor m (steps.foldl (Watched.next matchId host) (.opened matchId host m names users ms)).fought
          (steps.foldl (Watched.next matchId host) (.opened matchId host m names users ms)).shown := by
  refine ⟨fun side userId => ⟨?_, ?_, ?_, ?_, ?_⟩, fun m names users ms h1 h2 steps hsteps =>
    (Watched.run_sound (Watched.opened_sound names h1 h2 ms) steps hsteps).1⟩
  · exact fun _ _ _ _ _ _ _ htwins hstate hnamed hother => htwins.publishState hstate hnamed hother
  · exact fun _ _ timer _ _ htwins => htwins.publishPhase timer
  · exact fun _ _ _ _ _ _ _ htwins hoffers hnamed hother => htwins.publishOffers hoffers hnamed hother
  · intro _ _ buyer s s' htwins bridge
    rw [htwins.resetShop buyer (s := s)]
    exact ⟨rfl, rfl⟩
  · exact fun _ _ _ _ hplanning hhash husers hother => statePayloadForUser_withUnits hplanning hhash husers hother

/-- The opening planning phase of a match. -/
def opening : MatchRuntimeState where
  matchId := "m"
  player1Id := "u1"
  player2Id := "u2"
  player1Name := "one"
  player2Name := "two"
  matchSeed := "s"
  phase := .shop_place
  round := 1
  p1State := freshPlayer
  p2State := freshPlayer
  readyP1 := false
  readyP2 := false
  wipeIndexP1 := 0
  wipeIndexP2 := 0
  combatRound := none
  scoutRound := none
  scoutP1Board := emptyBoardSummary
  scoutP2Board := emptyBoardSummary

/-- Each player buys a unit and puts it on the board; the first round is fought
and resolved, and the first player connects again. -/
def reconnaissance : List (Nat × Operation) :=
  [(10, .request (.action "u1" 1 (.shop (.buy 4) "a"))), (10, .request (.action "u1" 1 (.place "u" .board 0 "b"))),
    (10, .request (.action "u2" 1 (.shop (.buy 0) "a"))), (10, .request (.action "u2" 1 (.place "uuuu" .board 0 "b"))),
    (40000, .request (.phaseTimer 1)), (60000, .request (.combatDoneTimeout 1)), (1000, .resume "u1")]

def afterReconnaissance : Watched :=
  reconnaissance.foldl (Watched.next "m" plainHost) (.opened "m" plainHost friendly ⟨"one", "two"⟩ (fun _ => some ⟨"one", 1000⟩) 0)

set_option maxRecDepth 100000 in
theorem planning_secrecy_scouted :
    Indistinct "u1" (sent plainHost (publishState opening .p1 freshPlayer) (freshStore friendly ⟨"one", "two"⟩ fun _ => none))
      (sent plainHost (publishState (opening.withUnits .p2 [some ⟨"a", .tank, 0, 100, 100, none⟩] []) .p1 freshPlayer)
        (freshStore friendly ⟨"one", "two"⟩ fun _ => none)) ∧
    ShowsFor friendly afterReconnaissance.fought afterReconnaissance.shown ∧ afterReconnaissance.shown.length = 1 ∧
      afterReconnaissance.fought .p2 ≠ emptyBoardSummary :=
  ⟨((planning_secrecy "m" plainHost).1 .p2 "u1").publishState _ _ .p1 _ _ _ _ ⟨by decide, _, _, rfl⟩ rfl (by decide)
      (by decide),
    (planning_secrecy "m" plainHost).2 friendly ⟨"one", "two"⟩ (fun _ => some ⟨"one", 1000⟩) 0 rfl rfl
      reconnaissance (by decide), by decide +kernel, by decide +kernel⟩

end AutoChess.Runtime
