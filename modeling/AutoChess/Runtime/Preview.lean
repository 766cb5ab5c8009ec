/-
The damage preview against the damage that is applied. A preview is computed
from the runtime its request read before the transition to battle, a
resolution from one read in the battle. In a round whose requests take turns,
but for the roster actions of its planning phase, no call between the two
reads touches the HP or the wipe indices, and both find the same events
cached: so there is one damage (`damage_previewed`).
-/
import AutoChess.Runtime.Charges

namespace AutoChess.Runtime

open AutoChess.Game AutoChess.Shop Calls

/-! ## The condition -/

/-- The players' shop, place and ready actions. -/
def Request.plans : Request → Bool
  | .action _ _ (.shop _ _) | .action _ _ (.place _ _ _ _) | .action _ _ (.ready _ _) | .markReady _ _ => true
  | _ => false

/-- The call takes the match from planning to battle. -/
def Begins (e : RuntimeEvent) : Prop :=
  e.before.hash.phase = some .shop_place ∧ e.after.hash.phase = some .battle

instance (e : RuntimeEvent) : Decidable (Begins e) := inferInstanceAs (Decidable (_ ∧ _))

/-- The call is one of a roster action that has not started the battle. -/
def Planning (older : List RuntimeEvent) (e : RuntimeEvent) : Prop :=
  e.request.plans = true ∧ ∀ a ∈ e :: older, a.pid = e.pid → ¬ Begins a

instance (older : List RuntimeEvent) (e : RuntimeEvent) : Decidable (Planning older e) :=
  inferInstanceAs (Decidable (_ ∧ _))

/-- Who made the other calls, newest first. -/
def turns : List RuntimeEvent → List Nat
  | [] => []
  | e :: older => if Planning older e then turns older else e.pid :: turns older

def TakesPart (round : Nat) (older : List RuntimeEvent) (e : RuntimeEvent) : Prop :=
  ∃ a ∈ e :: older, a.pid = e.pid ∧ a.before.hash.round = some round

instance (round : Nat) (older : List RuntimeEvent) (e : RuntimeEvent) : Decidable (TakesPart round older e) :=
  inferInstanceAs (Decidable (∃ _ ∈ _, _))

/-- The condition: a request that takes part in the round is not interrupted,
but for planning. -/
def OneByOne (round : Nat) (older : List RuntimeEvent) (e : RuntimeEvent) : Prop :=
  TakesPart round older e → Planning older e ∨ e.pid ∉ (turns older).dropWhile (· == e.pid)

instance (round : Nat) (older : List RuntimeEvent) (e : RuntimeEvent) : Decidable (OneByOne round older e) :=
  inferInstanceAs (Decidable (_ → _))

/-! ## What a payload says -/

/-- The wipe index a payload implies: each wipe costs five more. -/
def SideDamage.wipeIndex (damage : SideDamage) (before : Nat) : Nat :=
  if damage.wiped then damage.damageApplied / 5 else before

def DamagePayload.score (payload : DamagePayload) (wipeIndexP1 wipeIndexP2 : Nat) : Score :=
  ⟨payload.p1.hpAfter, payload.p2.hpAfter, payload.p1.wipeIndex wipeIndexP1, payload.p2.wipeIndex wipeIndexP2⟩

/-- `none` while both players live, else the winner's id or a draw. -/
def DamagePayload.winnerId (payload : DamagePayload) (player1Id player2Id : String) : Option (Option String) :=
  if payload.p1.hpAfter ≤ 0 && payload.p2.hpAfter ≤ 0 then some none
  else if payload.p1.hpAfter ≤ 0 then some (some player2Id)
  else if payload.p2.hpAfter ≤ 0 then some (some player1Id)
  else none

/-- The field, if it keeps HP or a wipe index, keeps the score's. -/
def FieldWrite.Keeps (score : Score) : FieldWrite → Prop
  | .p1State state => state.hp = score.p1Hp
  | .p2State state => state.hp = score.p2Hp
  | .wipeIndexP1 index => index = score.wipeIndexP1
  | .wipeIndexP2 index => index = score.wipeIndexP2
  | _ => True

/-- Whatever a log says or stores of the damage of a round, resolved in a match
that holds `held`, is what `payload` says. -/
structure OneDamage (log : List RuntimeEvent) (round : Nat) (held : RuntimeHash) (payload : DamagePayload) : Prop where
  /-- The preview, and the announcement of the resolution. -/
  published : ∀ e ∈ log, ∀ target p, e.cmd = .publish ⟨target, .damage p⟩ → p.round = round → p = payload
  stored : ∀ e ∈ log, e.request.resolving = some round → ∀ fields, e.cmd = .hset fields →
    ∀ field ∈ fields, field.Keeps (payload.score held.wipeIndexP1 held.wipeIndexP2)
  snapshot : ∀ e ∈ log, e.request.resolving = some round → ∀ p1 p2 wipeIndexP1 wipeIndexP2,
    e.cmd = .updateRuntimeSnapshot p1 p2 wipeIndexP1 wipeIndexP2 →
    (⟨p1.hp, p2.hp, wipeIndexP1, wipeIndexP2⟩ : Score) = payload.score held.wipeIndexP1 held.wipeIndexP2
  /-- The round is the last, or it is not. -/
  ended : ∀ e ∈ log, e.request.resolving = some round → ∀ fields, e.cmd = .hset fields →
    (.phase .finished ∈ fields → payload.winnerId held.player1Id held.player2Id ≠ none) ∧
    (.scoutRound (some round) ∈ fields → payload.winnerId held.player1Id held.player2Id = none)
  finalised : ∀ e ∈ log, e.request.resolving = some round → ∀ winnerId reason,
    e.cmd = .finalizeRow winnerId reason → payload.winnerId held.player1Id held.player2Id = some winnerId

/-! ## What a resolution depends on -/

/-- What the damage of a round is computed from, besides its events. -/
structure Stakes where
  score : Score
  player1Id : String
  player2Id : String

def MatchRuntimeState.stakes (runtime : MatchRuntimeState) : Stakes :=
  ⟨runtime.score, runtime.player1Id, runtime.player2Id⟩

/-- As a read of the hash returns it. -/
def RuntimeHash.stakes (h : RuntimeHash) : Stakes where
  score := ⟨(normalizePlayerState h.p1State).hp, (normalizePlayerState h.p2State).hp, h.wipeIndexP1, h.wipeIndexP2⟩
  player1Id := h.player1Id
  player2Id := h.player2Id

/-- The payload of a battle that ended so. -/
def payloadOf (matchId : String) (round : Nat) (winner : Option Side) (score : Score) : DamagePayload :=
  let damage := damageFor winner score.wipeIndexP1 score.wipeIndexP2
  { matchId := matchId
    round := round
    p1 := { wiped := winner == some .p2, tie := winner.isNone, hpBefore := score.p1Hp,
            hpAfter := max 0 (score.p1Hp - damage.p1), damageApplied := damage.p1 }
    p2 := { wiped := winner == some .p1, tie := winner.isNone, hpBefore := score.p2Hp,
            hpAfter := max 0 (score.p2Hp - damage.p2), damageApplied := damage.p2 }
    winner := winner }

section
variable {matchId : String} {host : Host} {init s : Store} {log newer older : List RuntimeEvent} {e : RuntimeEvent}
  {round : Nat} {runtime : MatchRuntimeState} {events : List CombatEvent} {resolution : Resolution}

theorem ReadAs.stakes {hash : RuntimeHash} (h : ReadAs matchId hash runtime) :
    runtime.stakes = hash.stakes ∧ runtime.matchId = matchId := by
  obtain ⟨a, b, h⟩ := h
  simp only [parseRuntimeHash, Option.bind_eq_bind, Option.bind_eq_some_iff, Option.pure_def, Option.some.injEq,
    MatchRuntimeState.mk.injEq] at h
  obtain ⟨phase, -, r, -, hid, h1, h2, -, -, -, -, -, hp1, hp2, -, -, hw1, hw2, -⟩ := h
  simp only [MatchRuntimeState.stakes, MatchRuntimeState.score, RuntimeHash.stakes, ← h1, ← h2, ← hp1, ← hp2, ← hw1,
    ← hw2]
  exact ⟨trivial, hid.symm⟩

/-- What a resolution leaves is what its payload says. -/
theorem resolveRound_payload (h : resolveRound runtime round events = some resolution) :
    ∃ winner, battleWinner events = some winner ∧
      resolution.damagePayload = payloadOf runtime.matchId round winner runtime.score ∧
      resolution.score = resolution.damagePayload.score runtime.wipeIndexP1 runtime.wipeIndexP2 ∧
      resolution.winnerId = resolution.damagePayload.winnerId runtime.player1Id runtime.player2Id := by
  simp only [resolveRound, Option.bind_eq_bind, Option.bind_eq_some_iff, Option.pure_def,
    Option.some.injEq] at h
  obtain ⟨winner, hwinner, rfl⟩ := h
  refine ⟨winner, hwinner, rfl, ?_, rfl⟩
  rcases winner with _ | _ | _ <;> simp [Resolution.score, DamagePayload.score, SideDamage.wipeIndex, damageFor]

/-! ## Turns -/

theorem turns_split (he : ¬ Planning older e) (newer : List RuntimeEvent) :
    ∃ pids, turns (newer ++ e :: older) = pids ++ e.pid :: turns older := by
  induction newer with
  | nil => exact ⟨[], by rw [List.nil_append, turns, if_neg he, List.nil_append]⟩
  | cons e' newer ih =>
    obtain ⟨pids, ih⟩ := ih
    rw [List.cons_append, turns, ih]
    split
    · exact ⟨pids, rfl⟩
    · exact ⟨e'.pid :: pids, rfl⟩

theorem mem_dropWhile {p q : Nat} {l₁ l₂ : List Nat} (hne : q ≠ p) (hmem : p ∈ l₂) :
    p ∈ (l₁ ++ q :: l₂).dropWhile (· == p) := by
  induction l₁ with
  | nil => simp [hne, hmem]
  | cons x l₁ ih =>
    rw [List.cons_append, List.dropWhile_cons]
    split
    · exact ih
    · simp [hmem]

/-- A request that made a call, then saw another make one, is interrupted. -/
theorem OneByOne.uninterrupted {a c : RuntimeEvent} {mid rest : List RuntimeEvent}
    (hok : OneByOne round (newer ++ e :: (mid ++ a :: rest)) c)
    (hpart : TakesPart round (newer ++ e :: (mid ++ a :: rest)) c) (hc : ¬ Planning (newer ++ e :: (mid ++ a :: rest)) c)
    (he : ¬ Planning (mid ++ a :: rest) e) (ha : ¬ Planning rest a) (hpid : a.pid = c.pid) (hne : e.pid ≠ c.pid) :
    False := by
  obtain ⟨pids, hturns⟩ := turns_split he newer
  obtain ⟨pids', hturns'⟩ := turns_split ha mid
  refine (hok hpart).elim hc fun hnot => hnot ?_
  rw [hturns, hturns']
  exact mem_dropWhile hne (by simp [hpid])

theorem not_planning (h : e.request.plans = false) : ¬ Planning older e := fun hp =>
  Bool.false_ne_true (h.symm.trans hp.1)

theorem resolves_plans {q : Request} (h : q.resolves = true) : q.plans = false := by
  unfold Request.resolves at h
  split at h <;> first | rfl | cases h

theorem advances_plans {q : Request} (h : q.advances = true) : q.plans = false ∧ q.resolves = false := by
  unfold Request.advances at h
  split at h <;> first | exact ⟨rfl, rfl⟩ | cases h

theorem Starts.plays {q : Request} {h : History} (hs : Starts q h round) : q.resolves = false := by
  cases hs with
  | timer hq => rw [hq]; rfl
  | ready hq _ _ _ => rw [hq]; rfl
  | markReady hq => rw [hq]; rfl

/-! ## Runs in which a round is played in turns -/

structure SerialRun (matchId : String) (host : Host) (init : Store) (round : Nat) (log : List RuntimeEvent)
    (s : Store) : Prop where
  charges : ChargeRun matchId host init log s
  opened : stage init.hash = .some 3
  unfought : init.hash.combatRound = none
  requests : ∀ a ∈ log, ∀ b ∈ log, a.pid = b.pid → a.request = b.request
  serial : Meets (OneByOne round) log

theorem SerialRun.run (h : SerialRun matchId host init round log s) : Run matchId host init log s := h.charges.run

theorem SerialRun.prior (h : SerialRun matchId host init round (newer ++ e :: older) s) :
    SerialRun matchId host init round older e.before := by
  have hsub : ∀ a ∈ older, a ∈ newer ++ e :: older := fun a ha =>
    List.mem_append_right _ (List.mem_cons_of_mem _ ha)
  exact ⟨h.charges.of_split.1, h.opened, h.unfought, fun a ha b hb => h.requests a (hsub a ha) b (hsub b hb),
    (Meets.of_append h.serial).2⟩

theorem Meets.at {ok : List RuntimeEvent → RuntimeEvent → Prop} (h : Meets ok (newer ++ e :: older)) : ok older e :=
  (Meets.of_append h).1

theorem SerialRun.resolver {f : RuntimeEvent} (h : SerialRun matchId host init round (newer ++ f :: older) s)
    {r : Nat} (hen : Enters .battle .resolved r f) : f.request.resolves = true := by
  obtain ⟨next, -, hg⟩ := h.run.flip_of_enters hen (by decide) (by decide)
  cases hg with
  | resolve _ _ _ _ _ hq => exact hq

theorem SerialRun.advancer {a : RuntimeEvent} (h : SerialRun matchId host init round (newer ++ a :: older) s)
    {r : Nat} (hen : Enters .resolved .shop_place r a) : a.request.advances = true := by
  obtain ⟨next, hcmd, -⟩ := h.run.flip_of_enters hen (by decide) (by decide)
  have hg := h.charges.of_split.2.1.2
  rw [hcmd] at hg
  exact hg rfl rfl

theorem SerialRun.starter {w : RuntimeEvent} (h : SerialRun matchId host init round (newer ++ w :: older) s)
    {r : Nat} (hen : Enters .shop_place .battle r w) : w.request.resolves = false := by
  obtain ⟨next, -, hg⟩ := h.run.flip_of_enters hen (by decide) (by decide)
  cases hg with
  | start hs => exact hs.plays

/-- Until its round is resolved, no resolution is written: one of an earlier
round would come after another request advanced from it. -/
theorem SerialRun.no_resolution (h : SerialRun matchId host init round (newer ++ e :: older) s)
    (hb : stage e.before.hash = .some (3 * round) ∨ stage e.before.hash = .some (3 * round + 1)) {r : Nat} :
    ¬ ResolutionWrite r older e := by
  intro hw
  have hprior := h.prior
  obtain ⟨n, hn, hsome⟩ : ∃ n : Nat, stage e.before.hash = .some n ∧ (n = 3 * round ∨ n = 3 * round + 1) := by
    rcases hb with hb | hb
    · exact ⟨_, hb, .inl rfl⟩
    · exact ⟨_, hb, .inr rfl⟩
  have hround : e.before.hash.round = some round := by
    rcases hb with hb | hb
    · exact (stage_shop_iff.1 hb).2
    · exact (stage_battle_iff.1 hb).2
  obtain ⟨f, hf, hpid, hen⟩ := won_enters hprior.run hw.1
  obtain ⟨l₁, l₂, rfl⟩ := List.append_of_mem hf
  obtain ⟨hfb, hfa⟩ := enters_resolved_stage hen hprior.run.phaseStep
  have hfirst : 3 ≤ 3 * r + 1 := by
    have hle := Run.stage_first hprior.prior.run
    rw [h.opened, hfb] at hle
    exact WithTop.coe_le_coe.1 hle
  have hle : 3 * r + 2 ≤ n := by
    have hle := hprior.run.stage_since
    rw [hfa, hn] at hle
    exact WithTop.coe_le_coe.1 hle
  obtain ⟨a, ha, hab, haa⟩ := hprior.run.passed (k := 3 * r + 2) h.opened hn (by omega) (by omega)
  have ha : a ∈ l₁ := by
    rcases List.mem_append.1 ha with ha | ha
    · exact ha
    rcases List.mem_cons.1 ha with rfl | ha
    · have := WithTop.coe_eq_coe.1 (hfb.symm.trans hab)
      omega
    · have hlate := hprior.run.stage_between ha
      rw [haa, hfb] at hlate
      have := WithTop.coe_le_coe.1 hlate
      omega
  obtain ⟨k₁, k₂, rfl⟩ := List.append_of_mem ha
  rw [List.append_assoc, List.cons_append] at h hprior
  have hadvance : a.request.advances = true := hprior.advancer
    ⟨(stage_resolved_iff.1 hab).1, (stage_resolved_iff.1 hab).2,
      (stage_shop_iff.1 (show stage a.after.hash = .some (3 * (r + 1)) from haa)).1⟩
  have hresolve : f.request.resolves = true := hprior.prior.resolver hen
  have hsame : f.request = e.request := h.requests f (by simp) e (by simp) hpid
  refine OneByOne.uninterrupted (a := f) (Meets.at h.serial) ⟨e, List.mem_cons_self .., rfl, hround⟩
    (not_planning (resolves_plans (hsame ▸ hresolve))) (not_planning (advances_plans hadvance).1)
    (not_planning (resolves_plans hresolve)) hpid fun hpid' => ?_
  have hother : a.request = e.request := h.requests a (by simp) e (by simp) hpid'
  have hnot := (advances_plans hadvance).2
  rw [hother, ← hsame, hresolve] at hnot
  cases hnot

/-! ## What a round is played for -/

theorem stage_between_cases {h : RuntimeHash} {n : Nat} (hge : .some n ≤ stage h) (hle : stage h ≤ .some (n + 1)) :
    stage h = .some n ∨ stage h = .some (n + 1) := by
  cases hs : stage h with
  | top =>
    rw [hs] at hle
    exact absurd (top_le_iff.1 hle) (WithTop.coe_ne_top ·)
  | coe k =>
    rw [hs] at hge hle
    have hk : n ≤ k := WithTop.coe_le_coe.1 hge
    have hk' : k ≤ n + 1 := WithTop.coe_le_coe.1 hle
    rcases Nat.eq_or_lt_of_le hk with rfl | hlt
    · exact .inl rfl
    · exact .inr (by rw [show k = n + 1 by omega])

theorem stakes_players {h h' : RuntimeHash} (heq : players h' = players h) : h'.stakes = h.stakes := by
  simp only [players, Players.mk.injEq] at heq
  obtain ⟨h1, h2, h3, h4, h5, h6⟩ := heq
  simp only [RuntimeHash.stakes, h1, h2, h3, h4, h5, h6]

/-- A state with the HP that a read returned keeps the stakes. -/
theorem stakes_state {h hash : RuntimeHash} {side : Side} {state : RuntimePlayerState}
    (hread : runtime.stakes = hash.stakes) (hsame : h.stakes = hash.stakes)
    (hhp : state.hp = (sideState runtime side).hp) : (h.hset [stateField side state]).stakes = h.stakes := by
  have hagain : ∀ v : Int, finiteNonNegative (finiteNonNegative v 100) 100 = finiteNonNegative v 100 := by
    intro v
    unfold finiteNonNegative
    split <;> grind
  simp only [MatchRuntimeState.stakes, MatchRuntimeState.score, RuntimeHash.stakes, Stakes.mk.injEq,
    Score.mk.injEq] at hread hsame
  cases side with
  | p1 =>
    have hstate : (normalizePlayerState state).hp = (normalizePlayerState h.p1State).hp := by
      rw [hsame.1.1]
      show finiteNonNegative state.hp 100 = _
      rw [hhp, show (sideState runtime .p1).hp = _ from hread.1.1]
      exact hagain _
    exact congrArg (fun hp => (⟨⟨hp, _, _, _⟩, _, _⟩ : Stakes)) hstate
  | p2 =>
    have hstate : (normalizePlayerState state).hp = (normalizePlayerState h.p2State).hp := by
      rw [hsame.1.2.1]
      show finiteNonNegative state.hp 100 = _
      rw [hhp, show (sideState runtime .p2).hp = _ from hread.1.2.1]
      exact hagain _
    exact congrArg (fun hp => (⟨⟨_, hp, _, _⟩, _, _⟩ : Stakes)) hstate

/-- A call made while the round is planned or fought keeps its stakes, if
those before it did. -/
theorem SerialRun.stakes_step (h : SerialRun matchId host init round (newer ++ e :: older) s)
    (hb : stage e.before.hash = .some (3 * round) ∨ stage e.before.hash = .some (3 * round + 1))
    (hpast : ∀ read ∈ older, .some (3 * round) ≤ stage read.before.hash →
      e.before.hash.stakes = read.before.hash.stakes) : e.after.hash.stakes = e.before.hash.stakes := by
  rcases h.run.players_written with hp | ⟨hphase, userId, id, field, shop, phase, r, hcmd⟩ | ⟨r, hw⟩
  · exact stakes_players hp
  · obtain ⟨-, ⟨⟨hg, -⟩, hcharges⟩, hdo⟩ := h.charges.of_split
    rcases does_hash hdo with heq | heq
    · rw [heq]
    rw [heq]
    rw [hcmd] at hg hcharges ⊢
    simp only [written]
    split
    · next hrec =>
      obtain ⟨-, hround, -⟩ := evalActionLog_recorded hrec
      have hstage := stage_shop ⟨hphase, hround⟩
      obtain rfl : r = round := by
        rcases hb with hb | hb <;> have := WithTop.coe_eq_coe.1 (hstage.symm.trans hb) <;> omega
      cases hg with
      | @ready _ _ _ _ side _ => cases side <;> exact stakes_players rfl
      | @state side state _ =>
        obtain ⟨runtime, hsaw, hplanned, rfl, hhp⟩ := hcharges side state rfl
        obtain ⟨l₁, read, l₂, rfl, -, hread⟩ := h.prior.run.saw_read hsaw
        have hat : stage read.before.hash = .some (3 * runtime.round) :=
          stage_shop ⟨hplanned ▸ hread.fields.1, hread.fields.2.1⟩
        exact stakes_state hread.stakes.1 (hpast read (by simp) hat.ge) hhp
    · rfl
  · exact absurd hw (h.no_resolution hb)

/-- **The stakes of a round are those of its planning phase** until it is
resolved. -/
theorem SerialRun.stakes_kept (h : SerialRun matchId host init round log s) :
    ∀ e ∈ log, .some (3 * round) ≤ stage e.before.hash → stage s.hash ≤ .some (3 * round + 1) →
      s.hash.stakes = e.before.hash.stakes := by
  obtain ⟨hrun, hopened, hunfought, hrequests, hserial⟩ := h
  refine Chronicle.history_induction (motive := fun log s =>
    (∀ a ∈ log, ∀ b ∈ log, a.pid = b.pid → a.request = b.request) → Meets (OneByOne round) log →
    ∀ e ∈ log, .some (3 * round) ≤ stage e.before.hash → stage s.hash ≤ .some (3 * round + 1) →
      s.hash.stakes = e.before.hash.stakes) hrun ?_ ?_ ?_ hrequests hserial
  · intro _ _ e he
    cases he
  · intro log s ms ih hreq hser e he hge hle
    rcases hash_elapse ms s with heq | heq
    · rw [show ((pool matchId host).env ms s).hash = s.hash from heq] at hle ⊢
      exact ih hreq hser e he hge hle
    · rw [show ((pool matchId host).env ms s).hash = {} from heq] at hle
      exact absurd (top_le_iff.1 hle) (WithTop.coe_ne_top ·)
  · intro log e' hrun hS hdo _ hbefore hreq hser e he hge hle
    have hwhole : SerialRun matchId host init round ([] ++ e' :: log) e'.after :=
      ⟨.call hrun hS hdo, hopened, hunfought, hreq, hser⟩
    have hpast : ∀ read ∈ log, .some (3 * round) ≤ stage read.before.hash →
        e'.before.hash.stakes = read.before.hash.stakes := fun read hread hge' =>
      hbefore (fun a ha b hb => hreq a (List.mem_cons_of_mem _ ha) b (List.mem_cons_of_mem _ hb)) hser.2 read hread
        hge' (hwhole.run.phaseStep.stage_le.trans hle)
    have hge' : .some (3 * round) ≤ stage e'.before.hash := by
      rcases List.mem_cons.1 he with rfl | he
      · exact hge
      · obtain ⟨l₁, l₂, rfl⟩ := List.append_of_mem he
        exact (hge.trans (Run.phaseStep hwhole.prior.run).stage_le).trans (hwhole.run.stage_between (by simp))
    have hb : stage e'.before.hash = .some (3 * round) ∨ stage e'.before.hash = .some (3 * round + 1) :=
      stage_between_cases hge' (hwhole.run.phaseStep.stage_le.trans hle)
    rw [hwhole.stakes_step hb hpast]
    rcases List.mem_cons.1 he with rfl | he
    · rfl
    · exact hpast e he hge

/-! ## Both computations -/

theorem Run.older_of_stage {e' : RuntimeEvent} (h : Run matchId host init (newer ++ e :: older) s)
    (he' : e' ∈ newer ++ e :: older) (hlt : stage e'.before.hash < stage e.before.hash) : e' ∈ older := by
  rcases List.mem_append.1 he' with he' | he'
  · obtain ⟨l₁, l₂, rfl⟩ := List.append_of_mem he'
    rw [List.append_assoc, List.cons_append] at h
    have hmem : e ∈ l₂ ++ e :: older := by simp
    have hle := h.stage_between hmem
    exact absurd ((Run.phaseStep h.of_split.1).stage_le.trans hle) (not_le.2 hlt)
  · rcases List.mem_cons.1 he' with rfl | he'
    · exact absurd rfl hlt.ne
    · exact he'

/-- What is fetched in a fought battle is what its starter cached. -/
theorem SerialRun.fetched {get f : RuntimeEvent} (h : SerialRun matchId host init round (newer ++ get :: older) s)
    (hget : get.toCall = ⟨.getCombatResult, some (some events)⟩) (hf : f ∈ older) (hfought : IsFought round f)
    (hs : stage get.before.hash = .some (3 * round + 1)) : cached f.after = some events := by
  have hcached : cached get.before = some events := by
    have hdo := h.run.of_split.2.2
    obtain ⟨⟨cmd, reply⟩, pid, request, before, after⟩ := get
    cases hget
    exact (hdo.of_reply rfl).1.symm
  have hrun := h.prior.run
  obtain ⟨l₁, l₂, rfl⟩ := List.append_of_mem hf
  obtain ⟨state, written, ttl, calls, hown, hwon, -⟩ := hrun.fought_event hfought
  have hsince := hrun.cached_since h.opened h.unfought (by rw [show f.cmd = _ from hfought]; rfl)
    (show Won (own f.pid l₂) _ _ _ _ from hown ▸ List.mem_cons_of_mem _ hwon) hs
  rcases hsince with heq | hnone
  · rw [← heq, hcached]
  · rw [hcached] at hnone
    cases hnone

/-- What the damage of a round is computed from: the stakes its resolution
finds, and the events its battle left. -/
structure Sources (matchId : String) (log : List RuntimeEvent) (round : Nat) (held : RuntimeHash)
    (runtime : MatchRuntimeState) (events : List CombatEvent) : Prop where
  fought : ∃ f ∈ log, IsFought round f ∧ cached f.after = some events
  stakes : runtime.stakes = held.stakes
  ofMatch : runtime.matchId = matchId

/-- A preview is fetched before the round is resolved. -/
theorem SerialRun.preview_first {get f flip : RuntimeEvent}
    (h : SerialRun matchId host init round (newer ++ get :: older) s)
    (hget : get.toCall = ⟨.getCombatResult, some (some events)⟩) (hf : f ∈ older) (hpid : f.pid = get.pid)
    (hfought : IsFought round f) (hflip : flip ∈ newer ++ get :: older) (hen : Enters .battle .resolved round flip) :
    flip ∈ newer := by
  rcases List.mem_append.1 hflip with hmem | hmem
  · exact hmem
  obtain ⟨w, hw, hwpid, hstart⟩ := won_enters h.prior.run (h.prior.run.fought_won hf hfought)
  rcases List.mem_cons.1 hmem with rfl | hmem
  · obtain ⟨next, hcmd, -⟩ := h.run.flip_of_enters hen (by decide) (by decide)
    cases hcmd.symm.trans (congrArg Call.cmd hget)
  · obtain ⟨l₁, l₂, rfl⟩ := List.append_of_mem hmem
    have hbegins : Begins w := ⟨hstart.1, hstart.2.2⟩
    obtain ⟨k₁, k₂, hk⟩ := List.append_of_mem hw
    have hwstage : stage w.before.hash = .some (3 * round) := stage_shop ⟨hstart.1, hstart.2.1⟩
    have hflipped : stage flip.before.hash = .some (3 * round + 1) := stage_battle ⟨hen.1, hen.2.1⟩
    have hw₂ : w ∈ l₂ := h.prior.run.older_of_stage hw (by
      rw [hwstage, hflipped]
      exact WithTop.coe_lt_coe.2 (by omega))
    obtain ⟨m₁, m₂, rfl⟩ := List.append_of_mem hw₂
    have hwget : w.pid = get.pid := hwpid.trans hpid
    have hresolve : flip.request.resolves = true := h.prior.resolver hen
    have hplays : w.request.resolves = false := h.prior.prior.starter hstart
    refine (OneByOne.uninterrupted (a := w) (Meets.at h.serial) ⟨w, by simp, hwget, hstart.2.1⟩
      (fun hp => hp.2 w (by simp) hwget hbegins) (not_planning (resolves_plans hresolve))
      (fun hp => hp.2 w (List.mem_cons_self ..) rfl hbegins) hwget fun hsame => ?_).elim
    have hrequest : flip.request = w.request := h.requests flip (by simp) w (by simp) (hsame.trans hwget.symm)
    rw [hrequest, hplays] at hresolve
    cases hresolve

theorem SerialRun.preview_sources {flip : RuntimeEvent} (h : SerialRun matchId host init round (newer ++ e :: older) s)
    (hflip : flip ∈ newer ++ e :: older) (hen : Enters .battle .resolved round flip)
    (hp : Previewed matchId (own e.pid older) round runtime events resolution) :
    Sources matchId (newer ++ e :: older) round flip.before.hash runtime events := by
  obtain ⟨newerC, olderC, hown, c, hc, hfought⟩ := hp.fetched
  obtain ⟨newerS, mid, hash, olderS, hownS, -, hreadS⟩ := hp.started
  have hsaw : Saw matchId (own e.pid older) runtime := ⟨hash, by simp [hownS], hreadS⟩
  obtain ⟨r₁, read, r₂, hr, -, hread⟩ := h.prior.run.saw_read hsaw
  have hreadMem : read ∈ older := by simp [hr]
  have hplanned : stage read.before.hash = .some (3 * round) :=
    stage_shop ⟨hp.planning ▸ hread.fields.1, hp.ofRound ▸ hread.fields.2.1⟩
  have hflipped : stage flip.before.hash = .some (3 * round + 1) := stage_battle ⟨hen.1, hen.2.1⟩
  obtain ⟨m₁, get, m₂, rfl, hpid, hget, rfl, -⟩ := own_split hown
  obtain ⟨f, hf, hfpid, rfl⟩ := mem_own.1 hc
  have hlog : newer ++ e :: (m₁ ++ get :: m₂) = (newer ++ e :: m₁) ++ get :: m₂ := by simp
  rw [hlog] at h hflip ⊢
  obtain ⟨a₁, a₂, ha⟩ := List.append_of_mem (h.preview_first hget hf (hfpid.trans hpid.symm) hfought hflip hen)
  have hreadMem : read ∈ (newer ++ e :: m₁) ++ get :: m₂ := by
    rw [← hlog]
    exact List.mem_append_right _ (List.mem_cons_of_mem _ hreadMem)
  have hwon := h.prior.run.fought_won hf hfought
  have hfetch := h.fetched hget hf hfought
  have hstarted := (h.prior.run.started_stage hwon).2
  rw [ha, List.append_assoc, List.cons_append] at h hreadMem ⊢
  have hat : stage get.before.hash = .some (3 * round + 1) := by
    refine le_antisymm ?_ hstarted
    exact (h.prior.run.phaseStep.stage_le.trans h.prior.run.stage_since).trans_eq hflipped
  have hfirst : read ∈ a₂ ++ get :: m₂ := h.run.older_of_stage hreadMem (by
    rw [hplanned, hflipped]
    exact WithTop.coe_lt_coe.2 (by omega))
  refine ⟨⟨f, by simp [hf], hfought, hfetch hat⟩, ?_, hread.stakes.2⟩
  rw [hread.stakes.1]
  exact (h.prior.stakes_kept read hfirst hplanned.ge hflipped.le).symm

theorem SerialRun.resolution_sources {flip : RuntimeEvent}
    (h : SerialRun matchId host init round (newer ++ e :: older) s) (hflip : flip ∈ newer ++ e :: older)
    (hen : Enters .battle .resolved round flip)
    (hc : Computed matchId (own e.pid older) round runtime events resolution) :
    Sources matchId (newer ++ e :: older) round flip.before.hash runtime events := by
  obtain ⟨newerC, mid, olderC, hown, hsaw⟩ := hc.calls
  obtain ⟨l₁, flip', l₂, rfl, -, hcall, hown, -⟩ := own_split hown
  obtain rfl : flip' = flip := h.run.resolver_unique (by simp) hflip (h.prior.run.enters_of_flip hcall).1 hen
  obtain ⟨m₁, get, m₂, rfl, -, hget, rfl, -⟩ := own_split hown
  have hbefore := h.prior.prior
  obtain ⟨k₁, read, k₂, hk, -, hread⟩ := hbefore.prior.run.saw_read hsaw
  have hbattle : stage read.before.hash = .some (3 * round + 1) :=
    stage_battle ⟨hc.inBattle ▸ hread.fields.1, hc.ofRound ▸ hread.fields.2.1⟩
  have hflipped : stage flip'.before.hash = .some (3 * round + 1) := stage_battle ⟨hen.1, hen.2.1⟩
  obtain ⟨f, hf, hfought⟩ := hbefore.prior.run.saw_fought h.unfought hsaw hc.fought
  have hat : stage get.before.hash = .some (3 * round + 1) := by
    refine le_antisymm ?_ ?_
    · exact (hbefore.run.phaseStep.stage_le.trans hbefore.run.stage_since).trans_eq hflipped
    · have hrun := hbefore.prior.run
      rw [hk] at hrun
      exact hbattle ▸ hrun.phaseStep.stage_le.trans hrun.stage_since
  refine ⟨⟨f, by simp [hf], hfought, hbefore.fetched hget hf hfought hat⟩, ?_, hread.stakes.2⟩
  rw [hread.stakes.1]
  refine (hbefore.stakes_kept read (by simp [hk]) ?_ hflipped.le).symm
  rw [hbattle]
  exact WithTop.coe_le_coe.2 (by omega)

/-! ## One damage -/

theorem SerialRun.source_round (h : SerialRun matchId host init round (newer ++ e :: older) s)
    (hround : e.request.resolving = some round) {r : Nat}
    (hc : Computed matchId (own e.pid older) r runtime events resolution) : r = round := by
  obtain ⟨f, hf, hpid, hresolves⟩ := DeedRun.resolving h.prior.charges.deeds hc.won
  rw [h.requests f (by simp [hf]) e (by simp) hpid, hround] at hresolves
  exact (Option.some.inj hresolves).symm

theorem keeps_fields {score : Score} {fields : List FieldWrite} {reset : Nat} {p1 p2 : RuntimePlayerState}
    {damage : Damage} (hscore : (⟨p1.hp, p2.hp, damage.wipeIndexP1, damage.wipeIndexP2⟩ : Score) = score)
    (hfields : fields = resultFields reset damage (rewarded p1) (rewarded p2) ∨ fields = knockoutFields damage p1 p2) :
    ∀ field ∈ fields, field.Keeps score := by
  subst hscore
  intro field hmem
  rcases hfields with rfl | rfl
  · simp only [resultFields, List.mem_cons, List.not_mem_nil, or_false] at hmem
    rcases hmem with rfl | rfl | rfl | rfl | rfl | rfl | rfl | rfl | rfl | rfl <;>
      first | rfl | trivial
  · simp only [knockoutFields, List.mem_cons, List.not_mem_nil, or_false] at hmem
    rcases hmem with rfl | rfl | rfl | rfl | rfl <;> first | rfl | trivial

/-- What all computations of a round's damage make of it. -/
theorem SerialRun.agreed (h : SerialRun matchId host init round log s) (held : RuntimeHash) :
    ∃ payload : DamagePayload, ∀ runtime events resolution, Sources matchId log round held runtime events →
      resolveRound runtime round events = some resolution →
        resolution.damagePayload = payload ∧
        resolution.score = payload.score held.wipeIndexP1 held.wipeIndexP2 ∧
        resolution.winnerId = payload.winnerId held.player1Id held.player2Id := by
  by_cases hfought : ∃ f ∈ log, IsFought round f
  · obtain ⟨f, hf, hfought⟩ := hfought
    refine ⟨payloadOf matchId round ((cached f.after).bind battleWinner).join held.stakes.score,
      fun runtime events resolution hs hres => ?_⟩
    obtain ⟨f', hf', hfought', hcached⟩ := hs.fought
    obtain rfl := h.run.fought_once hf hf' hfought hfought'
    obtain ⟨winner, hwinner, hpayload, hscore, hid⟩ := resolveRound_payload hres
    have hsame : resolution.damagePayload = payloadOf matchId round ((cached f.after).bind battleWinner).join
        held.stakes.score := by
      rw [hpayload, hs.ofMatch, hcached, Option.bind_some, hwinner, Option.join_some,
        show runtime.score = held.stakes.score from congrArg Stakes.score hs.stakes]
    rw [← hsame]
    refine ⟨rfl, ?_, ?_⟩
    · rw [hscore, show runtime.wipeIndexP1 = held.wipeIndexP1 from congrArg (·.score.wipeIndexP1) hs.stakes,
        show runtime.wipeIndexP2 = held.wipeIndexP2 from congrArg (·.score.wipeIndexP2) hs.stakes]
    · rw [hid, show runtime.player1Id = held.player1Id from congrArg Stakes.player1Id hs.stakes,
        show runtime.player2Id = held.player2Id from congrArg Stakes.player2Id hs.stakes]
  · exact ⟨payloadOf matchId round none held.stakes.score, fun runtime events resolution hs _ =>
      (hfought (hs.fought.imp fun f hf => ⟨hf.1, hf.2.1⟩)).elim⟩

/-- What the fields of a resolution say. -/
theorem SerialRun.stores (h : SerialRun matchId host init round (newer ++ e :: older) s)
    (hround : e.request.resolving = some round) {fields : List FieldWrite} (hcmd : e.cmd = .hset fields) :
    (∃ runtime events resolution, Computed matchId (own e.pid older) round runtime events resolution ∧
      (resolution.winnerId = none ∧ fields = resultFields round resolution.damage (rewarded resolution.p1)
          (rewarded resolution.p2) ∨
        resolution.winnerId ≠ none ∧ fields = knockoutFields resolution.damage resolution.p1 resolution.p2)) ∨
      ∀ score : Score, ∀ field ∈ fields, field.Keeps score ∧ field ≠ .phase .finished ∧
        field ≠ .scoutRound (some round) := by
  have hg := h.run.of_split.2.1
  rw [hcmd] at hg
  cases hg with
  | result hc hlive _ _ =>
    obtain rfl := h.source_round hround hc
    exact .inl ⟨_, _, _, hc, .inl ⟨hlive, rfl⟩⟩
  | knockout hc hover _ _ =>
    obtain rfl := h.source_round hround hc
    exact .inl ⟨_, _, _, hc, .inr ⟨hover, rfl⟩⟩
  | names => exact .inr fun score => by simp [FieldWrite.Keeps]
  | fought _ _ _ => exact .inr fun score => by simp [FieldWrite.Keeps]
  | reset _ _ => exact .inr fun score => by simp [resetFields, FieldWrite.Keeps]
  | @roundReady _ _ _ side _ _ _ _ => exact .inr fun score => by cases side <;> simp [readyField, FieldWrite.Keeps]
  | @markReady _ _ side _ => exact .inr fun score => by cases side <;> simp [readyField, FieldWrite.Keeps]

theorem SerialRun.one_damage {flip : RuntimeEvent} (h : SerialRun matchId host init round log s) (hflip : flip ∈ log)
    (hen : Enters .battle .resolved round flip) : ∃ payload, OneDamage log round flip.before.hash payload := by
  obtain ⟨payload, hagreed⟩ := h.agreed flip.before.hash
  have hcomputed : ∀ {newer e older runtime events resolution}, log = newer ++ e :: older →
      Computed matchId (own e.pid older) round runtime events resolution →
        resolution.damagePayload = payload ∧
        resolution.score = payload.score flip.before.hash.wipeIndexP1 flip.before.hash.wipeIndexP2 ∧
        resolution.winnerId = payload.winnerId flip.before.hash.player1Id flip.before.hash.player2Id := by
    intro newer e older runtime events resolution hlog hc
    subst hlog
    exact hagreed _ _ _ (h.resolution_sources hflip hen hc) hc.resolved
  refine ⟨payload, ?_, ?_, ?_, ?_, ?_⟩
  · intro e he target p hcmd hround
    obtain ⟨newer, older, rfl⟩ := List.append_of_mem he
    have hcharges := h.charges.of_split.2.1.2
    rw [hcmd] at hcharges
    obtain ⟨r, runtime, events, resolution, rfl, hp | hc⟩ := hcharges
    · obtain ⟨winner, -, hpayload, -⟩ := resolveRound_payload hp.resolved
      obtain rfl : r = round := by
        rw [hpayload] at hround
        exact hround
      exact (hagreed _ _ _ (h.preview_sources hflip hen hp) hp.resolved).1
    · obtain ⟨winner, -, hpayload, -⟩ := resolveRound_payload hc.resolved
      obtain rfl : r = round := by
        rw [hpayload] at hround
        exact hround
      exact (hcomputed rfl hc).1
  · intro e he hround fields hcmd field hfield
    obtain ⟨newer, older, rfl⟩ := List.append_of_mem he
    rcases h.stores hround hcmd with ⟨runtime, events, resolution, hc, hfields⟩ | hother
    · exact keeps_fields (hcomputed rfl hc).2.1 (hfields.imp And.right And.right) field hfield
    · exact (hother _ field hfield).1
  · intro e he hround p1 p2 w1 w2 hcmd
    obtain ⟨newer, older, rfl⟩ := List.append_of_mem he
    have hcharges := h.charges.of_split.2.1.2
    rw [hcmd] at hcharges
    obtain ⟨r, runtime, events, resolution, hc, hscore⟩ := hcharges
    obtain rfl := h.source_round hround hc
    exact hscore.trans (hcomputed rfl hc).2.1
  · intro e he hround fields hcmd
    obtain ⟨newer, older, rfl⟩ := List.append_of_mem he
    rcases h.stores hround hcmd with ⟨runtime, events, resolution, hc, hfields⟩ | hother
    · rw [← (hcomputed rfl hc).2.2]
      rcases hfields with ⟨hlive, rfl⟩ | ⟨hover, rfl⟩
      · exact ⟨fun hmem => by simp [resultFields] at hmem, fun _ => hlive⟩
      · exact ⟨fun _ => hover, fun hmem => by simp [knockoutFields] at hmem⟩
    · exact ⟨fun hmem => absurd rfl (hother ⟨0, 0, 0, 0⟩ _ hmem).2.1, fun hmem => absurd rfl (hother ⟨0, 0, 0, 0⟩ _ hmem).2.2⟩
  · intro e he hround winnerId reason hcmd
    obtain ⟨newer, older, rfl⟩ := List.append_of_mem he
    have hcharges := h.charges.of_split.2.1.2
    rw [hcmd] at hcharges
    rcases hcharges with hnone | ⟨r, runtime, events, resolution, hc, hwinner⟩
    · rw [hround] at hnone
      cases hnone
    · obtain rfl := h.source_round hround hc
      rw [← (hcomputed rfl hc).2.2, hwinner]

end

/-- **The damage previewed is the damage applied**, in every round whose
requests take turns, but for the planning: what is published right after the
battle is what is published as the round is resolved, and the HP, the wipe
indices and the winner stored are those it says. -/
theorem damage_previewed (matchId : String) (host : Host) (m : Match) (names : PlayerNames)
    (users : String → Option User) (moves : List (Move Request Nat)) (round : Nat)
    (hok : Meets (OneByOne round) ((pool matchId host).run ⟨freshStore m names users, [], []⟩ moves).log) :
    ∀ flip ∈ ((pool matchId host).run ⟨freshStore m names users, [], []⟩ moves).log,
      Enters .battle .resolved round flip → ∃ payload,
        OneDamage ((pool matchId host).run ⟨freshStore m names users, [], []⟩ moves).log round flip.before.hash
          payload :=
  fun _ hflip hen => SerialRun.one_damage
    ⟨run_charges (freshStore m names users) moves, stage_shop (r := 1) ⟨rfl, rfl⟩, rfl,
      fun _ ha _ hb hpid => Pool.same_request _ _ moves hb ha hpid, hok⟩ hflip hen

/-- A player places a unit between the timer's read and its transition; the
timeout resolves the battle. -/
def placedLate : List (Move Request Nat) :=
  .start (.announce friendly ⟨"one", "two"⟩) :: answers 0 20 ++
  .start (.action "u1" 1 (.shop (.buy 4) "a")) :: answers 1 25 ++
  .start (.phaseTimer 1) :: answers 2 1 ++
  .start (.action "u1" 1 (.place "u" .board 0 "b")) :: answers 3 25 ++ answers 2 25 ++
  .start (.combatDoneTimeout 1) :: answers 4 25

set_option maxRecDepth 100000 in
theorem damage_previewed_late : ∃ flip ∈ (play placedLate).log, Enters .battle .resolved 1 flip ∧
    ∃ payload, OneDamage (play placedLate).log 1 flip.before.hash payload := by
  have hflip : ∃ flip ∈ (play placedLate).log, Enters .battle .resolved 1 flip := by decide
  obtain ⟨flip, hmem, hen⟩ := hflip
  exact ⟨flip, hmem, hen, damage_previewed "m" plainHost friendly ⟨"one", "two"⟩ (fun _ => none) placedLate 1
    (by decide) flip hmem hen⟩

end AutoChess.Runtime
