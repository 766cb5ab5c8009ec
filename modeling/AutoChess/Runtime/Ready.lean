/-
When combat starts. The ready flags of the planning phase are also the acks
of the summary before it, they are reset after the transition into the phase,
and the transition out of it does not look at them again. So a flag left from
the summary starts the next battle (`stale_start`). In runs where summary acks
are stored before the phase, ready actions commit after its reset, and no
cancellation comes between a count and its transition, combat starts early
for the timer alone (`starts_when_ready`).
-/
import AutoChess.Runtime.Rounds

namespace AutoChess.Runtime

open AutoChess.Game AutoChess.Shop Calls Expiring

/-! ## What players have said -/

/-- The actions logged for a user. -/
def logged (s : Store) (userId : String) : List String := ((s.actionLog userId).get s.now).getD []

/-- The field a call committed through `action_log.lua`, with the round it
was committed in. -/
def committed (e : RuntimeEvent) : Option (FieldWrite × Nat) :=
  match e.cmd with
  | .actionLog userId id field _ _ round =>
    if id ∉ logged e.before userId ∧ id ∈ logged e.after userId then some (field, round) else none
  | _ => none

def readyValue : Side → FieldWrite → Option Bool
  | .p1, .readyP1 ready => some ready
  | .p2, .readyP2 ready => some ready
  | _, _ => none

/-- What a `match:ready` of the round, committed by the call, says for a side. -/
def said (side : Side) (round : Nat) (e : RuntimeEvent) : Option Bool :=
  (committed e).bind fun (field, r) => if r = round then readyValue side field else none

/-- The latest `match:ready` of a side committed in a round. -/
def latestReady (side : Side) (round : Nat) (log : List RuntimeEvent) : Option Bool :=
  log.findSome? (said side round)

/-- The log of a match where, its own timer apart, a round's battle starts
only while the latest word of both players is that they are ready. -/
def StartsWhenReady (log : List RuntimeEvent) : Prop :=
  ∀ newer e older, log = newer ++ e :: older → ∀ round, Enters .shop_place .battle round e →
    e.request ≠ .phaseTimer round → ∀ side, latestReady side round older = some true

/-! ## The condition -/

def RuntimeHash.ready (h : RuntimeHash) : Side → Bool
  | .p1 => h.readyP1
  | .p2 => h.readyP2

/-- A summary ack's flag. -/
def Cmd.setsReady : Cmd → Bool
  | .hset [.readyP1 _] | .hset [.readyP2 _] => true
  | _ => false

/-- The event reset the flags during the round's planning phase. -/
def StoresReset (round : Nat) (e : RuntimeEvent) : Prop :=
  e.cmd.isReset = true ∧ e.before.hash.phase = some .shop_place ∧ e.before.hash.round = some round ∧
    e.after.hash = e.before.hash.hset resetFields

/-- The flags of the round's planning phase were reset; those of the first
are set up with the match. -/
def ResetStored (round : Nat) (log : List RuntimeEvent) : Prop :=
  round ≤ 1 ∨ ∃ w ∈ log, StoresReset round w

/-- The read after a committed action that finds both flags set. -/
def counts : Call Cmd Resp → History → Bool
  | ⟨.hgetall, some hash⟩, ⟨.actionLog _ _ _ _ _ _, some .recorded⟩ :: _ =>
    hash.readyP1 && hash.readyP2
  | _, _ => false

/-- The request has counted both players as ready. -/
def counted : History → Bool
  | [] => false
  | c :: h => counts c h || counted h

/-- The call took back a side's word for the round. -/
def cancels (round : Nat) (e : RuntimeEvent) : Bool :=
  said .p1 round e = some false || said .p2 round e = some false

/-- The condition: no summary ack is stored in a planning phase, no ready
action commits before the phase's reset is stored, and none is taken back
between a request's count of both flags and its transition. -/
structure KeepsReady (log : List RuntimeEvent) (e : RuntimeEvent) : Prop where
  acked : e.cmd.setsReady = true → e.before.hash.phase ≠ some .shop_place
  reset : ∀ c ∈ committed e, (readyValue .p1 c.1).isSome || (readyValue .p2 c.1).isSome →
    ResetStored c.2 log
  uncancelled : ∀ round ∈ e.before.hash.round, Enters .shop_place .battle round e →
    e.request ≠ .phaseTimer round →
    Meets (fun older e' => cancels round e' = true → counted (own e.pid older) = false) log

instance (round : Nat) (e : RuntimeEvent) : Decidable (StoresReset round e) :=
  inferInstanceAs (Decidable (_ ∧ _ ∧ _ ∧ _))

instance (round : Nat) (log : List RuntimeEvent) : Decidable (ResetStored round log) :=
  inferInstanceAs (Decidable (_ ∨ _))

instance (log : List RuntimeEvent) (e : RuntimeEvent) : Decidable (KeepsReady log e) :=
  decidable_of_iff (_ ∧ _ ∧ _) ⟨fun ⟨h₁, h₂, h₃⟩ => ⟨h₁, h₂, h₃⟩, fun h => ⟨h.1, h.2, h.3⟩⟩

/-- The older entry point, which no client message leads to. -/
def Request.isMarkReady : Request → Bool
  | .markReady _ _ => true
  | _ => false

section
variable {matchId : String} {host : Host} {init : Store} {log newer older : List RuntimeEvent}
  {e : RuntimeEvent} {s : Store}

/-! ## What a call says -/

theorem evalActionLog_logged {userId id : String} {field : FieldWrite}
    {shop : Option (StoredShop × Nat)} {phase : MatchPhase} {round : Nat}
    (h : (evalActionLog userId id field shop phase round s).1 = .recorded) :
    id ∉ logged s userId ∧ id ∈ logged (evalActionLog userId id field shop phase round s).2 userId := by
  simp only [evalActionLog] at h ⊢
  split at h
  · cases h
  next hid =>
  split at h
  · cases h
  next hround =>
  split at h
  · cases h
  next hphase =>
  refine ⟨hid, ?_⟩
  rw [if_neg hid, if_neg hround, if_neg hphase]
  cases shop <;> simp [logged, Store.hset, put]

/-- A call commits a field when its script records the action. -/
theorem committed_iff (hdo : (pool matchId host).Does e) {field : FieldWrite} {round : Nat} :
    committed e = some (field, round) ↔ ∃ userId id shop phase,
      e.cmd = .actionLog userId id field shop phase round ∧
      (evalActionLog userId id field shop phase round e.before).1 = .recorded ∧
      e.after = (evalActionLog userId id field shop phase round e.before).2 := by
  obtain ⟨⟨cmd, reply⟩, pid, request, before, after⟩ := e
  refine ⟨fun h => ?_, ?_⟩
  · cases cmd with
    | actionLog userId id field' shop phase round' =>
      simp only [committed] at h
      split at h
      · next hlog =>
        cases h
        refine ⟨userId, id, shop, phase, rfl, ?_⟩
        rcases hdo.after_eq with hafter | hafter
        · obtain rfl : after = before := hafter
          exact absurd hlog.2 hlog.1
        · by_contra hnot
          have hrefused : ¬ (evalActionLog userId id field shop phase round before).1 = .recorded :=
            fun hrec => hnot ⟨hrec, hafter⟩
          have hsame : after = before := hafter.trans (evalActionLog_refused hrefused)
          exact absurd (hsame ▸ hlog.2) hlog.1
      · cases h
    | _ => cases h
  · rintro ⟨userId, id, shop, phase, hcmd, hrec, hafter⟩
    obtain ⟨hnew, hold⟩ := evalActionLog_logged hrec
    cases hcmd
    rw [← hafter] at hold
    simp only [committed]
    exact if_pos ⟨hnew, hold⟩

/-- Every committed action was committed in its round's planning phase. -/
theorem Run.committed_hash (h : Run matchId host init (newer ++ e :: older) s) {field : FieldWrite}
    {round : Nat} (hc : committed e = some (field, round)) :
    stage e.before.hash = .some (3 * round) ∧ e.after.hash = e.before.hash.hset [field] ∧
      LogGuard e.request field .shop_place := by
  obtain ⟨-, hg, hdo⟩ := h.of_split
  obtain ⟨userId, id, shop, phase, hcmd, hrec, hafter⟩ := (committed_iff hdo).1 hc
  rw [hcmd] at hg
  have hshop : phase = .shop_place := by cases hg <;> rfl
  subst hshop
  obtain ⟨hphase, hround, hhash⟩ := evalActionLog_recorded hrec
  exact ⟨stage_shop ⟨hphase, hround⟩, hafter ▸ hhash, hg⟩

theorem said_of_committed {side : Side} {field : FieldWrite} {round : Nat}
    (hc : committed e = some (field, round)) : said side round e = readyValue side field := by
  simp [said, hc]

/-- A flag that is set after a call was set before, with nothing said since,
or is the call's word. -/
theorem Run.ready_step (h : Run matchId host init (newer ++ e :: older) s)
    (hok : KeepsReady older e) (hentry : e.request.isMarkReady = false)
    {round : Nat} (hs : stage e.before.hash = .some (3 * round)) {side : Side}
    (hf : e.after.hash.ready side = true) :
    (e.before.hash.ready side = true ∧ said side round e = none) ∨
      said side round e = some true := by
  obtain ⟨-, hg, hdo⟩ := h.of_split
  cases hc : committed e with
  | some c =>
    obtain ⟨field, r⟩ := c
    obtain ⟨hst, hhash, hlog⟩ := h.committed_hash hc
    obtain rfl : r = round := by
      have := WithTop.coe_eq_coe.1 (hst.symm.trans hs)
      omega
    rw [said_of_committed hc]
    rw [hhash] at hf
    cases hlog with
    | @state side' _ _ => cases side' <;> cases side <;> exact .inl ⟨hf, rfl⟩
    | @ready _ _ _ ready side' _ =>
      cases side' <;> cases side <;>
        first | exact .inl ⟨hf, rfl⟩ | exact .inr (congrArg some hf)
  | none =>
    refine .inl ⟨?_, by simp [said, hc]⟩
    rcases hdo.after_eq with hafter | hafter
    · exact hafter ▸ hf
    have hhash : e.after.hash = e.before.hash.hset (written e.cmd e.before) :=
      (congrArg Store.hash hafter).trans (act_hash host _ _)
    rw [hhash] at hf
    have hshop : e.before.hash.phase = some .shop_place := (stage_shop_iff.1 hs).1
    have hacked := hok.acked
    generalize hcmd : e.cmd = c at hg hf hacked
    cases c with
    | hset fields =>
      cases hg with
      | names => cases side <;> exact hf
      | fought _ _ _ => cases side <;> exact hf
      | result _ _ _ _ => cases side <;> simp [written, resultFields, hset_cons, RuntimeHash.ready] at hf
      | knockout _ _ _ _ =>
        cases side <;> simpa [written, knockoutFields, hset_cons, RuntimeHash.ready] using hf
      | reset _ _ => cases side <;> simp [written, resetFields, hset_cons, RuntimeHash.ready] at hf
      | @roundReady _ _ _ side' _ _ _ _ => cases side' <;> exact absurd hshop (hacked rfl)
      | @markReady userId r _ hq => rw [hq] at hentry; cases hentry
    | phaseFlip expectedPhase newPhase r next =>
      simp only [written] at hf
      split at hf
      · cases next <;> cases side <;> exact hf
      · exact hf
    | actionLog userId id field shop phase r =>
      simp only [written] at hf
      split at hf
      · next hrec =>
        have hcommit := (committed_iff hdo).2 ⟨userId, id, shop, phase, hcmd, hrec, by
          rw [hafter, hcmd]; rfl⟩
        rw [hc] at hcommit
        cases hcommit
      · exact hf
    | _ => exact hf

/-! ## Flags after the reset -/

theorem StoresReset.stage {round : Nat} (h : StoresReset round e) :
    stage e.before.hash = .some (3 * round) := stage_shop ⟨h.2.1, h.2.2.1⟩

theorem StoresReset.ready {round : Nat} (h : StoresReset round e) (side : Side) :
    e.after.hash.ready side = false := by
  rw [h.2.2.2]
  cases side <;> simp [resetFields, hset_cons, RuntimeHash.ready]

theorem ResetStored.later {round : Nat} (h : ResetStored round older) (hsuf : older <:+ log) :
    ResetStored round log := by
  rcases h with h | ⟨w, hw, hr⟩
  · exact .inl h
  · exact .inr ⟨w, hsuf.subset hw, hr⟩

/-- Nothing resets the flags of a phase before the transition into it. -/
theorem Run.not_reset_yet (h : Run matchId host init (newer ++ e :: older) s)
    (hstage : stage init.hash = .some 3) {round : Nat} (hb : stage e.before.hash < .some (3 * round)) :
    ¬ ResetStored round (e :: older) := by
  rintro (hle | ⟨w, hw, hr⟩)
  · have hfirst := Run.stage_first h.of_split.1
    rw [hstage] at hfirst
    have := WithTop.coe_lt_coe.1 (hfirst.trans_lt hb)
    omega
  · rcases List.mem_cons.1 hw with rfl | hw
    · exact absurd hr.stage hb.ne
    · have hrun : Run matchId host init older e.before := h.of_split.1
      obtain ⟨l₁, l₂, rfl⟩ := List.append_of_mem hw
      have := hrun.phaseStep.stage_le.trans hrun.stage_since
      rw [hr.stage] at this
      exact absurd hb this.not_gt

/-- **After the reset, a flag that is set is its player's latest word.** -/
theorem Run.ready_holds (h : Run matchId host init log s) (hstage : stage init.hash = .some 3)
    (hinit : ∀ side, init.hash.ready side = false) (hok : Meets KeepsReady log)
    (hentry : ∀ e ∈ log, e.request.isMarkReady = false) {round : Nat}
    (hs : stage s.hash = .some (3 * round)) (hreset : ResetStored round log) {side : Side}
    (hf : s.hash.ready side = true) : latestReady side round log = some true := by
  induction h with
  | start => rw [hinit side] at hf; cases hf
  | @time log s ms hrun ih =>
    rcases hash_elapse ms s with heq | heq
    · exact ih hok hentry ((congrArg stage heq).symm.trans hs) hreset
        ((congrArg (RuntimeHash.ready · side) heq).symm.trans hf)
    · exact absurd ((congrArg stage heq).symm.trans hs) (WithTop.coe_ne_top.symm ·)
  | @call log e hrun hg hdo ih =>
    have hwhole : Run matchId host init ([] ++ e :: log) e.after := .call hrun hg hdo
    have hle := hwhole.phaseStep.stage_le
    rw [hs] at hle
    rcases hle.lt_or_eq with hlt | heq
    -- The call is the transition into the phase.
    · exact absurd hreset (hwhole.not_reset_yet hstage hlt)
    · rcases Classical.em (StoresReset round e) with hr | hr
      · rw [hr.ready side] at hf
        cases hf
      have hreset' : ResetStored round log := by
        rcases hreset with hle | ⟨w, hw, hw'⟩
        · exact .inl hle
        · rcases List.mem_cons.1 hw with rfl | hw
          · exact absurd hw' hr
          · exact .inr ⟨w, hw, hw'⟩
      have hentry' := fun e' he' => hentry e' (List.mem_cons_of_mem _ he')
      rcases hwhole.ready_step hok.1 (hentry e (List.mem_cons_self ..)) heq hf with ⟨hb, hn⟩ | hsaid
      · rw [latestReady, List.findSome?_cons, hn]
        exact ih hok.2 hentry' heq hreset' hb
      · rw [latestReady, List.findSome?_cons, hsaid]

/-! ## When combat starts -/

theorem counted_split {newer older : History} {hash : RuntimeHash} {userId id : String}
    {field : FieldWrite} {shop : Option (StoredShop × Nat)} {phase : MatchPhase} {round : Nat}
    (h1 : hash.readyP1 = true) (h2 : hash.readyP2 = true) :
    counted (newer ++ (⟨.hgetall, some hash⟩ : Call Cmd Resp) ::
      (⟨.actionLog userId id field shop phase round, some .recorded⟩ : Call Cmd Resp) :: older) =
      true := by
  induction newer with
  | nil => simp [counted, counts, h1, h2]
  | cons c newer ih =>
    rw [List.cons_append, counted, ih, Bool.or_true]

/-- A word that stands stands until it is taken back. -/
theorem latestReady_append {side : Side} {round : Nat}
    (hnew : ∀ e ∈ newer, said side round e ≠ some false)
    (hold : latestReady side round older = some true) :
    latestReady side round (newer ++ older) = some true := by
  induction newer with
  | nil => exact hold
  | cons e newer ih =>
    have ih := ih fun e' he' => hnew e' (List.mem_cons_of_mem _ he')
    rw [List.cons_append, latestReady, List.findSome?_cons]
    cases hsaid : said side round e with
    | none => exact ih
    | some ready =>
      cases ready with
      | true => rfl
      | false => exact absurd hsaid (hnew e (List.mem_cons_self ..))

theorem Run.starts_ready (h : Run matchId host init (newer ++ e :: older) s)
    (hstage : stage init.hash = .some 3) (hinit : ∀ side, init.hash.ready side = false)
    (hok : Meets KeepsReady (e :: older))
    (hentry : ∀ e' ∈ e :: older, e'.request.isMarkReady = false) {round : Nat}
    (hen : Enters .shop_place .battle round e) (htimer : e.request ≠ .phaseTimer round) (side : Side) :
    latestReady side round older = some true := by
  have hrun : Run matchId host init older e.before := h.of_split.1
  obtain ⟨next, -, hg⟩ := h.flip_of_enters hen (by decide) (by decide)
  cases hg with
  | start hstarts =>
    cases hstarts with
    | timer hq => exact absurd hq htimer
    | markReady hq =>
      have hnot := hentry e (List.mem_cons_self ..)
      rw [hq] at hnot
      cases hnot
    | @ready userId id ready side' newerC olderC hash _ hh h1 h2 =>
      obtain ⟨l₁, read, l₂, rfl, hpid, hread, hown, -⟩ := own_split hh
      obtain ⟨m₁, commit, m₂, rfl, -, hcommit, -⟩ := own_last hown
      have hrun₂ : Run matchId host init (m₁ ++ commit :: m₂) read.before := hrun.of_split.1
      have hok₂ : Meets KeepsReady (m₁ ++ commit :: m₂) := (Meets.of_append hok.2).2
      -- The request's own action says that the phase was reset before.
      have hcommitted : committed commit = some (readyField side' (ready.getD true), round) := by
        have hdo := hrun₂.of_split.2.2
        refine (committed_iff hdo).2 ⟨userId, id, none, .shop_place, congrArg Call.cmd hcommit, ?_⟩
        obtain ⟨⟨cmd, reply⟩, pid, request, before, after⟩ := commit
        cases hcommit
        obtain ⟨hrec, hafter⟩ := hdo.of_reply rfl
        exact ⟨hrec.symm, hafter⟩
      have hreset : ResetStored round (m₁ ++ commit :: m₂) := by
        refine ResetStored.later ((Meets.of_append hok₂).1.reset _ hcommitted ?_) suffix_split
        cases side' <;> rfl
      have hflags : ∀ side, read.before.hash.ready side = true := by
        have hhash : hash = read.before.hash := by
          have hdo := hrun.of_split.2.2
          obtain ⟨⟨cmd, reply⟩, pid, request, before, after⟩ := read
          cases hread
          exact (hdo.of_reply rfl).1
        intro side
        cases side
        · exact hhash ▸ h1
        · exact hhash ▸ h2
      have hst : stage read.before.hash = .some (3 * round) := by
        refine le_antisymm ?_ ?_
        · rw [← stage_shop ⟨hen.1, hen.2.1⟩]
          exact hrun.phaseStep.stage_le.trans hrun.stage_since
        · rw [← (hrun₂.committed_hash hcommitted).1]
          exact hrun₂.phaseStep.stage_le.trans hrun₂.stage_since
      have hthen : latestReady side round (m₁ ++ commit :: m₂) = some true :=
        hrun₂.ready_holds hstage hinit hok₂ (fun e' he' => hentry e' (by simp_all)) hst hreset
          (hflags side)
      -- Since the count nobody took it back.
      have hsplit : l₁ ++ read :: (m₁ ++ commit :: m₂) = (l₁ ++ [read]) ++ (m₁ ++ commit :: m₂) := by
        simp
      rw [hsplit]
      refine latestReady_append (fun e' he' hsaid => ?_) hthen
      rcases List.mem_append.1 he' with he' | he'
      · obtain ⟨k₁, k₂, rfl⟩ := List.append_of_mem he'
        have hun := hok.1.uncancelled round hen.2.1 hen htimer
        rw [List.append_assoc, List.cons_append] at hun
        have hcancels : cancels round e' = true := by
          cases side <;> simp [cancels, hsaid]
        have hnone := (Meets.of_append hun).1 hcancels
        rw [own_append, own_cons_self hpid, hread, hown, counted_split h1 h2] at hnone
        cases hnone
      · obtain rfl := List.mem_singleton.1 he'
        have hcmd : e'.cmd = .hgetall := congrArg Call.cmd hread
        simp [said, committed, hcmd] at hsaid

end

/-- **Under the condition, combat never starts early**: in every run of a
match whose requests come from its entry points, a battle that its timer did
not start has both players' latest word. -/
theorem starts_when_ready (matchId : String) (host : Host) (m : Match) (names : PlayerNames)
    (users : String → Option User) (moves : List (Move Request Nat))
    (hentry : ∀ e ∈ ((pool matchId host).run ⟨freshStore m names users, [], []⟩ moves).log,
      e.request.isMarkReady = false)
    (hok : Meets KeepsReady
      ((pool matchId host).run ⟨freshStore m names users, [], []⟩ moves).log) :
    StartsWhenReady ((pool matchId host).run ⟨freshStore m names users, [], []⟩ moves).log := by
  have h : Run matchId host (freshStore m names users)
      ((pool matchId host).run ⟨freshStore m names users, [], []⟩ moves).log
      ((pool matchId host).run ⟨freshStore m names users, [], []⟩ moves).store :=
    Pool.run_chronicle program_guarded moves
  have hstage : stage (freshStore m names users).hash = .some (3 * 1) := stage_shop ⟨rfl, rfl⟩
  have hinit : ∀ side, (freshStore m names users).hash.ready side = false := by
    intro side
    cases side <;> rfl
  intro newer e older hlog round hen htimer side
  rw [hlog] at h hok hentry
  exact h.starts_ready hstage hinit (Meets.of_append hok)
    (fun e' he' => hentry e' (List.mem_append_right _ he')) hen htimer side

/-! ## Two runs -/

/-- Both players are ready in round 1. -/
def bothReady : List (Move Request Nat) :=
  .start (.action "u1" 1 (.ready (some true) "a")) :: answers 0 30 ++
  .start (.action "u2" 1 (.ready none "b")) :: answers 1 30

set_option maxRecDepth 100000 in
theorem starts_when_ready_both : StartsWhenReady (play bothReady).log :=
  starts_when_ready "m" plainHost friendly ⟨"one", "two"⟩ (fun _ => none) bothReady
    (by decide) (by decide)

/-- The second player's summary ack has started round 2 and not yet reset the
flags when the first says that they are ready. -/
def staleFlags : List (Move Request Nat) :=
  .start (.phaseTimer 1) :: answers 0 25 ++
  .start (.action "u1" 1 .combatDone) :: answers 1 25 ++
  .start (.action "u2" 1 .combatDone) :: answers 2 25 ++
  .start (.action "u1" 1 .roundReady) :: answers 3 25 ++
  .start (.action "u2" 1 .roundReady) :: answers 4 5 ++
  .start (.action "u1" 2 (.ready (some true) "a")) :: answers 5 8

set_option maxRecDepth 100000 in
/-- Round 2's battle starts without a word of the second player. -/
theorem stale_start : ¬ StartsWhenReady (play staleFlags).log := by
  intro h
  have hhead : ((play staleFlags).log.head?.any fun e => Enters .shop_place .battle 2 e &&
      e.request ≠ .phaseTimer 2) = true := by decide
  have hnone : latestReady .p2 2 (play staleFlags).log.tail = none := by decide
  generalize (play staleFlags).log = log at h hhead hnone
  cases log with
  | nil => cases hhead
  | cons e older =>
    simp only [List.head?_cons, Option.any_some, Bool.and_eq_true, decide_eq_true_eq] at hhead
    have := h [] e older rfl 2 hhead.1 hhead.2 .p2
    rw [List.tail_cons] at hnone
    rw [hnone] at this
    cases this

end AutoChess.Runtime
