/-
When a round's result is durable. `applyDamageAndAdvance` flips the phase to
`resolved` before it stores the result, and nothing stops
`advanceResolvedRound` from flipping on in that gap (`early_advance`). In
runs where every call of `advanceResolvedRound` that advances a round has
read the runtime after the round's result was stored, the next planning phase
starts from the result and the result is never written again
(`results_durable`).
-/
import AutoChess.Runtime.Battles

namespace AutoChess.Runtime

open AutoChess.Game AutoChess.Shop Calls Expiring

/-! ## The property -/

/-- The round whose result a command stores. -/
def Cmd.resultRound : Cmd → Option Nat
  | .hset (.p1State _ :: fields) =>
    fields.findSome? fun
      | .scoutRound round => round
      | _ => none
  | _ => none

/-- The event stored the result of a round. -/
def StoresResult (round : Nat) (e : RuntimeEvent) : Prop :=
  e.cmd.resultRound = some round ∧ e.after.hash = e.before.hash.hset (written e.cmd e.before)

instance (round : Nat) (e : RuntimeEvent) : Decidable (StoresResult round e) :=
  inferInstanceAs (Decidable (_ ∧ _))

/-- A write of a round's resolution, by the request that resolved it: the
PostgreSQL snapshot, or the states in Redis. -/
def ResolutionWrite (round : Nat) (log : List RuntimeEvent) (e : RuntimeEvent) : Prop :=
  Won (own e.pid log) .battle .resolved round none ∧
    (e.cmd.isResult = true ∨ ∃ p1 p2 w1 w2, e.cmd = .updateRuntimeSnapshot p1 p2 w1 w2)

/-- The stored players are what round `round` made of the players who fought
it: the damage and wipe indices that the engine's events give, and the gold. -/
def HoldsResult (matchId : String) (round : Nat) (log : List RuntimeEvent) (h : RuntimeHash) : Prop :=
  ∃ flip ∈ log, ∃ engine ∈ log, ∃ state events runtime resolution,
    Enters .battle .resolved round flip ∧
    engine.toCall = ⟨.runBattle round state, some events⟩ ∧
    parseRuntimeHash matchId flip.before.hash = some runtime ∧
    resolveRound runtime round events = some resolution ∧
    h.p1State = rewarded resolution.p1 ∧ h.p2State = rewarded resolution.p2 ∧
    h.wipeIndexP1 = resolution.damage.wipeIndexP1 ∧ h.wipeIndexP2 = resolution.damage.wipeIndexP2

/-- Everything a resolution is computed from or writes. -/
structure Players where
  p1State : RuntimePlayerState
  p2State : RuntimePlayerState
  wipeIndexP1 : Nat
  wipeIndexP2 : Nat
  player1Id : String
  player2Id : String

def players (h : RuntimeHash) : Players :=
  ⟨h.p1State, h.p2State, h.wipeIndexP1, h.wipeIndexP2, h.player1Id, h.player2Id⟩

/-- A log, and the hash it leaves, of a match whose results are durable. -/
structure DurableResults (matchId : String) (log : List RuntimeEvent) (h : RuntimeHash) : Prop where
  /-- A planning phase starts from the stored result of the round before it,
  which is not written again. -/
  stored : ∀ newer e older, log = newer ++ e :: older → ∀ round,
    Enters .resolved .shop_place round e →
      (∃ w ∈ older, StoresResult round w) ∧ HoldsResult matchId round older e.before.hash ∧
      ∀ newer' e' older', newer = newer' ++ e' :: older' →
        ¬ ResolutionWrite round (older' ++ e :: older) e'
  /-- During it only recorded actions change the players. -/
  planning : ∀ round, 1 ≤ round → h.phase = some .shop_place → h.round = some (round + 1) →
    ∃ newer e older, log = newer ++ e :: older ∧ Enters .resolved .shop_place round e ∧
      ∀ e' ∈ newer, players e'.after.hash ≠ players e'.before.hash →
        ∃ userId id field shop phase round, e'.cmd = .actionLog userId id field shop phase round

/-- The log at the last read of the runtime by `pid`. -/
def atRead (pid : Nat) : List RuntimeEvent → Option (List RuntimeEvent)
  | [] => none
  | e :: log =>
    match e.cmd with
    | .hgetall => if e.pid = pid then some log else atRead pid log
    | _ => atRead pid log

/-- The condition: a request that starts the next planning phase last read
the runtime when the round's result was already stored. -/
def AdvancesFromResult (log : List RuntimeEvent) (e : RuntimeEvent) : Prop :=
  ∀ round ∈ e.before.hash.round, Enters .resolved .shop_place round e →
    ∀ log' ∈ atRead e.pid log, ∃ w ∈ log', StoresResult round w

instance (log : List RuntimeEvent) (e : RuntimeEvent) : Decidable (AdvancesFromResult log e) :=
  inferInstanceAs (Decidable (∀ _ ∈ _, _))

/-! ## The result is stored first -/

section
variable {matchId : String} {host : Host} {init : Store} {log newer older : List RuntimeEvent}
  {e : RuntimeEvent} {s : Store}

theorem atRead_split {pid : Nat} {read : RuntimeEvent} (hpid : read.pid = pid)
    (hread : read.cmd = .hgetall) (hnewer : ∀ e ∈ newer, e.pid = pid → e.cmd ≠ .hgetall) :
    atRead pid (newer ++ read :: older) = some older := by
  induction newer with
  | nil => simp [atRead, hread, hpid]
  | cons e newer ih =>
    have ih := ih fun e' he' => hnewer e' (List.mem_cons_of_mem _ he')
    simp only [List.cons_append, atRead]
    split
    · next hcmd =>
      rw [if_neg fun hp => hnewer e (List.mem_cons_self ..) hp hcmd]
      exact ih
    · exact ih

/-- Under the condition, a round's result was stored before the next planning
phase starts. -/
theorem Run.advance_stored (h : Run matchId host init (newer ++ e :: older) s)
    (hok : AdvancesFromResult older e) {round : Nat} (hen : Enters .resolved .shop_place round e) :
    ∃ w ∈ older, StoresResult round w := by
  obtain ⟨next, -, hg⟩ := h.flip_of_enters hen (by decide) (by decide)
  cases hg with
  | advance hsaw _ _ =>
    obtain ⟨newerC, hash, olderC, hown, hlast, -⟩ := hsaw
    obtain ⟨l₁, read, l₂, rfl, hpid, hcall, -, rfl⟩ := own_split hown
    obtain ⟨w, hw, hres⟩ := hok round hen.2.1 hen l₂ (atRead_split hpid (congrArg Call.cmd hcall)
      fun e' he' hp => hlast _ (mem_own.2 ⟨e', he', hp, rfl⟩))
    exact ⟨w, List.mem_append_right _ (List.mem_cons_of_mem _ hw), hres⟩

/-! ## Where a resolution is written -/

/-- The two writes of a resolution are guarded alike. -/
theorem ResolutionWrite.never (h : Run matchId host init (newer ++ e :: older) s) {round : Nat}
    (hw : ResolutionWrite round older e) : Never Cmd.isResult (own e.pid older) := by
  have hg := h.of_split.2.1
  obtain ⟨-, hres | ⟨p1, p2, w1, w2, hcmd⟩⟩ := hw
  · generalize e.cmd = c at hg hres
    cases c with
    | hset fields =>
      cases hg with
      | result _ _ hfirst _ => exact hfirst
      | knockout _ _ hfirst _ => exact hfirst
      | names => cases hres
      | fought _ _ _ => cases hres
      | reset _ _ => cases hres
      | @roundReady _ _ _ side _ _ _ _ => cases side <;> cases hres
      | @markReady _ _ side _ => cases side <;> cases hres
    | _ => cases hres
  · rw [hcmd] at hg
    exact hg.1

/-- The request that stored a round's result is the one that resolved it. -/
theorem StoresResult.won (h : Run matchId host init (newer ++ e :: older) s) {round : Nat}
    (hw : StoresResult round e) : ∃ runtime events resolution,
      Computed matchId (own e.pid older) round runtime events resolution ∧
        e.cmd = .hset (resultFields round resolution.damage (rewarded resolution.p1)
          (rewarded resolution.p2)) := by
  have hround := hw.1
  have hg := h.of_split.2.1
  generalize e.cmd = c at hg hround
  cases c with
  | hset fields =>
    cases hg with
    | @result round' runtime events resolution hc _ _ _ =>
      obtain rfl : round' = round := Option.some.inj hround
      exact ⟨runtime, events, resolution, hc, rfl⟩
    | @roundReady _ _ _ side _ _ _ _ => cases side <;> cases hround
    | @markReady _ _ side _ => cases side <;> cases hround
    | _ => cases hround
  | _ => cases hround

theorem Computed.won {h : History} {round : Nat} {runtime : MatchRuntimeState}
    {events : List CombatEvent} {resolution : Resolution}
    (hc : Computed matchId h round runtime events resolution) : Won h .battle .resolved round none := by
  obtain ⟨newer, mid, older, rfl, -⟩ := hc.calls
  simp [Won]

/-- A request whose own calls resolved a round and stored its result writes
nothing of it again. -/
theorem Run.stored_last (h : Run matchId host init (newer ++ e :: older) s) {round : Nat}
    (hw : ResolutionWrite round older e) {w : RuntimeEvent} (hmem : w ∈ older)
    (hres : StoresResult round w) : False := by
  have hnever := ResolutionWrite.never h hw
  obtain ⟨l₁, l₂, rfl⟩ := List.append_of_mem hmem
  have hrun : Run matchId host init (l₁ ++ w :: l₂) e.before := h.of_split.1
  obtain ⟨runtime, events, resolution, hc, hcmd⟩ := StoresResult.won hrun hres
  obtain ⟨f, hf, hpid, hen⟩ := won_enters hrun hw.1
  obtain ⟨f', hf', hpid', hen'⟩ := won_enters hrun.of_split.1 hc.won
  have hmem' : f' ∈ l₁ ++ w :: l₂ := List.mem_append_right _ (List.mem_cons_of_mem _ hf')
  have hsame : w.pid = e.pid := by
    rw [← hpid, ← hpid', hrun.resolver_unique hf hmem' hen hen']
  have := hnever _ (mem_own.2 ⟨w, hmem, hsame, rfl⟩)
  rw [hcmd] at this
  cases this

/-- **Under the condition, a resolution is written while its round is still
the resolved one**, or after the end of the match. -/
theorem Run.resolution_stage (h : Run matchId host init (newer ++ e :: older) s)
    (hinit : stage init.hash = .some 3) (hok : Meets AdvancesFromResult older) {round : Nat}
    (hw : ResolutionWrite round older e) :
    stage e.before.hash = .some (3 * round + 2) ∨ stage e.before.hash = ⊤ := by
  have hrun : Run matchId host init older e.before := h.of_split.1
  obtain ⟨hfirst, hge⟩ : 3 ≤ 3 * round + 2 ∧
      WithTop.some (3 * round + 2) ≤ stage e.before.hash := by
    obtain ⟨f, hf, -, hen⟩ := won_enters hrun hw.1
    obtain ⟨l₁, l₂, rfl⟩ := List.append_of_mem hf
    obtain ⟨hb, ha⟩ := enters_resolved_stage hen hrun.phaseStep
    refine ⟨?_, ha ▸ hrun.stage_since⟩
    have hle := Run.stage_first hrun.of_split.1
    rw [hinit, hb] at hle
    have := WithTop.coe_le_coe.1 hle
    omega
  cases hs : stage e.before.hash with
  | top => exact .inr rfl
  | coe n =>
    rw [hs] at hge
    rcases Nat.eq_or_lt_of_le (WithTop.coe_le_coe.1 hge) with heq | hlt
    · exact .inl (by rw [heq])
    -- Had the match moved on, the result would have been stored before.
    · obtain ⟨a, ha, hb, haa⟩ := hrun.passed hinit hs hfirst hlt
      obtain ⟨m₁, m₂, rfl⟩ := List.append_of_mem ha
      have hadv : Enters .resolved .shop_place round a :=
        ⟨(stage_resolved_iff.1 hb).1, (stage_resolved_iff.1 hb).2,
          (stage_shop_iff.1 (show stage a.after.hash = .some (3 * (round + 1)) from haa)).1⟩
      obtain ⟨w, hmem, hres⟩ := hrun.advance_stored (Meets.of_append hok).1 hadv
      refine (h.stored_last hw ?_ hres).elim
      exact List.mem_append_right _ (List.mem_cons_of_mem _ hmem)

/-! ## What stays while the stage stays -/

/-- Only a roster action of the planning phase and the writes of a resolution
change the players. -/
theorem Run.players_written (h : Run matchId host init (newer ++ e :: older) s) :
    players e.after.hash = players e.before.hash ∨
      (e.before.hash.phase = some .shop_place ∧
        ∃ userId id field shop phase round, e.cmd = .actionLog userId id field shop phase round) ∨
      ∃ round, ResolutionWrite round older e := by
  obtain ⟨-, hg, hdo⟩ := h.of_split
  rcases does_hash hdo with heq | heq
  · exact .inl (by rw [heq])
  have hres : ∀ {round}, Won (own e.pid older) .battle .resolved round none → e.cmd.isResult = true →
      ∃ round, ResolutionWrite round older e := fun hw hr => ⟨_, hw, .inl hr⟩
  rw [heq]
  generalize hcmd : e.cmd = c at hg
  rw [hcmd] at hres
  cases c with
  | hset fields =>
    cases hg with
    | result hc _ _ _ => exact .inr (.inr (hres hc.won rfl))
    | knockout hc _ _ _ => exact .inr (.inr (hres hc.won rfl))
    | @roundReady _ _ _ side _ _ _ _ => cases side <;> exact .inl rfl
    | @markReady _ _ side _ => cases side <;> exact .inl rfl
    | names => exact .inl rfl
    | fought _ _ _ => exact .inl rfl
    | reset _ _ => exact .inl rfl
  | phaseFlip expectedPhase newPhase r next =>
    simp only [written]
    split
    · cases next <;> exact .inl rfl
    · exact .inl rfl
  | actionLog userId id field shop phase r =>
    simp only [written]
    split
    · next hrec =>
      obtain ⟨hphase, -, -⟩ := evalActionLog_recorded hrec
      have hshop : phase = .shop_place := by cases hg <;> rfl
      exact .inr (.inl ⟨hshop ▸ hphase, _, _, _, _, _, _, rfl⟩)
    · exact .inl rfl
  | _ => exact .inl rfl

/-- From `s` to `s'` the match moved forward, and if it stayed at stage `n`
then so did its players. -/
def Still (n : Nat) (s s' : Store) : Prop :=
  stage s.hash ≤ stage s'.hash ∧
    (stage s.hash = .some n → stage s'.hash = .some n → players s'.hash = players s.hash)

theorem Still.refl (n : Nat) (s : Store) : Still n s s := ⟨le_rfl, fun _ _ => rfl⟩

theorem Still.trans {n : Nat} {s₁ s₂ s₃ : Store} (h₁ : Still n s₁ s₂) (h₂ : Still n s₂ s₃) :
    Still n s₁ s₃ := by
  refine ⟨h₁.1.trans h₂.1, fun hs₁ hs₃ => ?_⟩
  have hs₂ : stage s₂.hash = .some n := le_antisymm (hs₃ ▸ h₂.1) (hs₁ ▸ h₁.1)
  rw [h₂.2 hs₂ hs₃, h₁.2 hs₁ hs₂]

theorem still_elapse (n ms : Nat) (s : Store) : Still n s ((pool matchId host).env ms s) := by
  refine ⟨stage_elapse ms s, fun _ hs => ?_⟩
  rcases hash_elapse ms s with h | h
  · exact congrArg players h
  · exact absurd ((congrArg stage h).symm.trans hs) (WithTop.coe_ne_top.symm ·)

theorem Run.still_since (h : Run matchId host init (newer ++ e :: older) s) {n : Nat}
    (hstep : ∀ newer' e' older', newer = newer' ++ e' :: older' → stage e'.before.hash = .some n →
      players e'.after.hash = players e'.before.hash) : Still n e.after s := by
  refine Chronicle.rel_since (Still.refl n) (fun _ _ _ => Still.trans) (still_elapse n) h
    fun newer' e' older' heq => ?_
  have hs := hstep newer' e' older' heq
  subst heq
  rw [List.append_assoc, List.cons_append] at h
  exact ⟨h.phaseStep.stage_le, fun hb _ => hs hb⟩

theorem stage_of_shop_phase {h : RuntimeHash} (hp : h.phase = some .shop_place) {n : Nat}
    (hs : stage h = .some n) : ∃ r, n = 3 * r := by
  obtain ⟨p, r, -, hr⟩ := stage_eq_coe hs
  rw [stage_shop ⟨hp, hr⟩] at hs
  exact ⟨r, (WithTop.coe_eq_coe.1 hs).symm⟩

/-- A call made during a battle leaves the players as they are. -/
theorem Run.battle_step (h : Run matchId host init (newer ++ e :: older) s)
    (hinit : stage init.hash = .some 3) (hok : Meets AdvancesFromResult older)
    {round : Nat} (hb : stage e.before.hash = .some (3 * round + 1)) :
    players e.after.hash = players e.before.hash := by
  rcases h.players_written with hp | ⟨hp, -⟩ | ⟨round', hw⟩
  · exact hp
  · obtain ⟨r, hr⟩ := stage_of_shop_phase hp hb
    omega
  · rcases h.resolution_stage hinit hok hw with hr | hr
    · have := WithTop.coe_eq_coe.1 (hb.symm.trans hr)
      omega
    · exact absurd (hr.symm.trans hb) (WithTop.coe_ne_top.symm ·)

/-- During a battle the players stay as they are. -/
theorem Run.battle_still (h : Run matchId host init (newer ++ e :: older) s)
    (hinit : stage init.hash = .some 3) (hok : Meets AdvancesFromResult (newer ++ e :: older))
    {round : Nat} (hb : stage e.before.hash = .some (3 * round + 1))
    (hs : stage s.hash = .some (3 * round + 1)) : players s.hash = players e.before.hash := by
  have hthen : Still (3 * round + 1) e.after s := by
    refine h.still_since fun newer' e' older' heq hst => ?_
    subst heq
    have h' := h
    rw [List.append_assoc, List.cons_append] at h' hok
    exact h'.battle_step hinit (Meets.of_append hok).2 hst
  have hafter : stage e.after.hash = .some (3 * round + 1) :=
    le_antisymm (hs ▸ hthen.1) (hb ▸ h.phaseStep.stage_le)
  rw [hthen.2 hafter hs, h.battle_step hinit (Meets.of_append hok).2 hb]

/-- Once its result is stored, a resolved round keeps it. -/
theorem Run.resolved_still (h : Run matchId host init (newer ++ e :: older) s)
    (hinit : stage init.hash = .some 3) (hok : Meets AdvancesFromResult (newer ++ e :: older))
    {round : Nat} (hw : StoresResult round e) (hs : stage s.hash = .some (3 * round + 2)) :
    players s.hash = players e.after.hash := by
  obtain ⟨runtime, events, resolution, hc, hcmd⟩ := hw.won h
  have hres : ResolutionWrite round older e := ⟨hc.won, .inl (by rw [hcmd]; rfl)⟩
  have hthen : Still (3 * round + 2) e.after s := by
    refine h.still_since fun newer' e' older' heq hst => ?_
    subst heq
    have h' := h
    rw [List.append_assoc, List.cons_append] at h' hok
    rcases h'.players_written with hp | ⟨hp, -⟩ | ⟨round', hw'⟩
    · exact hp
    · obtain ⟨r, hr⟩ := stage_of_shop_phase hp hst
      omega
    · rcases h'.resolution_stage hinit (Meets.of_append hok).2 hw' with hr | hr
      · obtain rfl : round' = round := by
          have := WithTop.coe_eq_coe.1 (hst.symm.trans hr)
          omega
        exact (h'.stored_last hw' (by simp) hw).elim
      · exact absurd (hr.symm.trans hst) (WithTop.coe_ne_top.symm ·)
  have hafter : stage e.after.hash = .some (3 * round + 2) := by
    refine le_antisymm (hs ▸ hthen.1) ?_
    have hle := h.phaseStep.stage_le
    rcases h.resolution_stage hinit (Meets.of_append hok).2 hres with hr | hr
    · exact hr ▸ hle
    · rw [hr, top_le_iff] at hle
      rw [hle]
      exact le_top
  exact hthen.2 hafter hs

/-! ## What is stored -/

/-- A round resolves the same way as long as its players stay. -/
theorem parse_players {hash hash' : RuntimeHash} {runtime : MatchRuntimeState}
    (hplayers : players hash' = players hash) (hphase : hash'.phase = hash.phase)
    (hround : hash'.round = hash.round) (hread : ReadAs matchId hash runtime) :
    ∃ runtime', parseRuntimeHash matchId hash' = some runtime' ∧
      ∀ round events, resolveRound runtime' round events = resolveRound runtime round events := by
  obtain ⟨a, b, hread⟩ := hread
  simp only [players, Players.mk.injEq] at hplayers
  obtain ⟨h1, h2, h3, h4, h5, h6⟩ := hplayers
  simp only [parseRuntimeHash, Option.bind_eq_bind, Option.bind_eq_some_iff, Option.pure_def,
    Option.some.injEq, hphase, hround] at hread ⊢
  obtain ⟨phase, hp, round, hr, heq⟩ := hread
  refine ⟨_, ⟨phase, hp, round, hr, rfl⟩, fun round' events => ?_⟩
  have hsame : resolveRound runtime round' events =
      resolveRound { runtime with player1Name := a, player2Name := b } round' events := rfl
  rw [hsame, ← heq]
  simp only [resolveRound, knockout, h1, h2, h3, h4, h5, h6]

/-- What a round's result is computed from is what the store holds when the
round is resolved. -/
theorem Run.stored_result (h : Run matchId host init (newer ++ e :: older) s)
    (hstage : stage init.hash = .some 3) (hinit : init.hash.combatRound = none)
    (hok : Meets AdvancesFromResult older) {round : Nat} (hw : StoresResult round e) :
    ∃ flip ∈ older, ∃ engine ∈ older, ∃ state events runtime resolution,
      Enters .battle .resolved round flip ∧
      engine.toCall = ⟨.runBattle round state, some events⟩ ∧
      parseRuntimeHash matchId flip.before.hash = some runtime ∧
      resolveRound runtime round events = some resolution ∧
      e.cmd = .hset (resultFields round resolution.damage (rewarded resolution.p1)
        (rewarded resolution.p2)) := by
  obtain ⟨runtime, events, resolution, hc, hcmd⟩ := hw.won h
  obtain ⟨newerC, mid, olderC, hcalls, hsaw⟩ := hc.calls
  obtain ⟨l₁, flip, l₂, rfl, -, hflip, hcalls, -⟩ := own_split hcalls
  have hrun : Run matchId host init (l₁ ++ flip :: l₂) e.before := h.of_split.1
  have hen := (hrun.enters_of_flip hflip).1
  obtain ⟨m₁, get, m₂, rfl, -, hget, rfl, -⟩ := own_split hcalls
  have hrun₂ : Run matchId host init (m₁ ++ get :: m₂) flip.before := hrun.of_split.1
  have hrun₃ : Run matchId host init m₂ get.before := hrun₂.of_split.1
  obtain ⟨f, hf, hfought⟩ := hrun₃.saw_fought hinit hsaw hc.fought
  obtain ⟨k₁, read, k₂, hk, -, hread⟩ := hrun₃.saw_read hsaw
  -- The match was in the battle from the read to the transition.
  have hbattle : stage read.before.hash = .some (3 * round + 1) :=
    stage_battle ⟨hc.inBattle ▸ hread.fields.1, hc.ofRound ▸ hread.fields.2.1⟩
  have hflipped : stage flip.before.hash = .some (3 * round + 1) := stage_battle ⟨hen.1, hen.2.1⟩
  have hgot : stage get.before.hash = .some (3 * round + 1) := by
    refine le_antisymm ?_ ?_
    · exact hflipped ▸ hrun₂.phaseStep.stage_le.trans hrun₂.stage_since
    · rw [hk] at hrun₃
      exact hbattle ▸ hrun₃.phaseStep.stage_le.trans hrun₃.stage_since
  have hcached : cached get.before = some events := by
    have hdo := hrun₂.of_split.2.2
    obtain ⟨⟨cmd, reply⟩, pid, request, before, after⟩ := get
    cases hget
    exact (hdo.of_reply rfl).1.symm
  obtain ⟨engine, hengine, state, hran⟩ :=
    hrun₃.cached_events hstage hinit hf hfought hgot hcached
  have hstill : players flip.before.hash = players read.before.hash := by
    have hok : Meets AdvancesFromResult ((l₁ ++ [flip]) ++ (m₁ ++ get :: m₂)) := by simpa using hok
    have hok' := Meets.of_append hok
    have hsplit : m₁ ++ get :: m₂ = (m₁ ++ get :: k₁) ++ read :: k₂ := by simp [hk]
    rw [hsplit] at hrun₂ hok'
    exact hrun₂.battle_still hstage hok' hbattle hflipped
  obtain ⟨runtime', hparse, hsame⟩ := parse_players hstill
    (hen.1.trans (hc.inBattle ▸ hread.fields.1).symm)
    (hen.2.1.trans (hc.ofRound ▸ hread.fields.2.1).symm) hread
  refine ⟨flip, by simp, engine, by simp [hengine], state, events, runtime', resolution, hen, hran,
    hparse, ?_, hcmd⟩
  rw [hsame, hc.resolved]

theorem Run.holds_result (h : Run matchId host init (newer ++ e :: older) s)
    (hstage : stage init.hash = .some 3) (hinit : init.hash.combatRound = none)
    (hok : Meets AdvancesFromResult (e :: older)) {round : Nat}
    (hen : Enters .resolved .shop_place round e) :
    (∃ w ∈ older, StoresResult round w) ∧ HoldsResult matchId round older e.before.hash := by
  obtain ⟨w, hmem, hw⟩ := h.advance_stored hok.1 hen
  refine ⟨⟨w, hmem, hw⟩, ?_⟩
  obtain ⟨l₁, l₂, rfl⟩ := List.append_of_mem hmem
  have hrun : Run matchId host init (l₁ ++ w :: l₂) e.before := h.of_split.1
  obtain ⟨flip, hflip, engine, hengine, state, events, runtime, resolution, hresolved, hran, hparse,
    hres, hcmd⟩ := hrun.stored_result hstage hinit (Meets.of_append hok.2).2 hw
  have hplayers : players e.before.hash = players w.after.hash :=
    hrun.resolved_still hstage hok.2 hw (stage_resolved ⟨hen.1, hen.2.1⟩)
  have hafter := hw.2
  rw [hcmd] at hafter
  refine ⟨flip, by simp [hflip], engine, by simp [hengine], state, events, runtime, resolution,
    hresolved, hran, hparse, hres, ?_⟩
  simp only [players, Players.mk.injEq, hafter] at hplayers
  obtain ⟨h1, h2, h3, h4, -⟩ := hplayers
  simp only [written, resultFields, hset_cons, hset_nil, write_p1State, write_p2State,
    write_wipeIndexP1, write_wipeIndexP2] at h1 h2 h3 h4
  exact ⟨h1, h2, h3, h4⟩

end

/-- **In runs where a round is left only by requests that saw its result
stored, results are durable**: whatever the requests, their order and the
calls that fail. -/
theorem results_durable (matchId : String) (host : Host) (m : Match) (names : PlayerNames)
    (users : String → Option User) (moves : List (Move Request Nat))
    (hok : Meets AdvancesFromResult
      ((pool matchId host).run ⟨freshStore m names users, [], []⟩ moves).log) :
    DurableResults matchId ((pool matchId host).run ⟨freshStore m names users, [], []⟩ moves).log
      ((pool matchId host).run ⟨freshStore m names users, [], []⟩ moves).store.hash := by
  have h : Run matchId host (freshStore m names users)
      ((pool matchId host).run ⟨freshStore m names users, [], []⟩ moves).log
      ((pool matchId host).run ⟨freshStore m names users, [], []⟩ moves).store :=
    Pool.run_chronicle program_guarded moves
  have hstage : stage (freshStore m names users).hash = .some (3 * 1) := stage_shop ⟨rfl, rfl⟩
  have hinit : (freshStore m names users).hash.combatRound = none := rfl
  generalize ((pool matchId host).run ⟨freshStore m names users, [], []⟩ moves).log = log at h hok ⊢
  generalize ((pool matchId host).run ⟨freshStore m names users, [], []⟩ moves).store = s at h ⊢
  refine ⟨fun newer e older hlog round hen => ?_, fun round hpos hphase hround => ?_⟩
  · subst hlog
    obtain ⟨⟨w, hmem, hw⟩, hholds⟩ := h.holds_result hstage hinit (Meets.of_append hok) hen
    refine ⟨⟨w, hmem, hw⟩, hholds, fun newer' e' older' hnewer hwrite => ?_⟩
    subst hnewer
    rw [List.append_assoc, List.cons_append] at h
    exact h.stored_last hwrite (by simp [hmem]) hw
  · have hs : stage s.hash = .some (3 * (round + 1)) := stage_shop ⟨hphase, hround⟩
    obtain ⟨e, hmem, hb, ha⟩ := h.passed (k := 3 * round + 2) hstage hs (by omega) (by omega)
    obtain ⟨newer, older, rfl⟩ := List.append_of_mem hmem
    have hafter : stage e.after.hash = .some (3 * (round + 1)) := ha
    refine ⟨newer, e, older, rfl, ⟨(stage_resolved_iff.1 hb).1, (stage_resolved_iff.1 hb).2,
      (stage_shop_iff.1 hafter).1⟩, fun e' he' hne => ?_⟩
    obtain ⟨l₁, l₂, rfl⟩ := List.append_of_mem he'
    rw [List.append_assoc, List.cons_append] at h hok
    rcases h.players_written with hp | ⟨-, hact⟩ | ⟨round', hwrite⟩
    · exact absurd hp hne
    · exact hact
    · -- The match is in the planning phase all along.
      have hge : stage e.after.hash ≤ stage e'.before.hash := h.stage_between (by simp)
      have hle := h.phaseStep.stage_le.trans h.stage_since
      rw [hafter] at hge
      rw [hs] at hle
      rcases h.resolution_stage hstage (Meets.of_append hok).2 hwrite with hr | hr
      · rw [hr] at hge hle
        have := WithTop.coe_le_coe.1 hge
        have := WithTop.coe_le_coe.1 hle
        omega
      · rw [hr, top_le_iff] at hle
        exact absurd hle (WithTop.coe_ne_top ·)

/-! ## Two runs -/

/-- Round 1 with every request run to its end. -/
def orderly : List (Move Request Nat) :=
  .start (.phaseTimer 1) :: answers 0 25 ++
  .start (.action "u1" 1 .combatDone) :: answers 1 25 ++
  .start (.action "u2" 1 .combatDone) :: answers 2 25 ++
  .start (.action "u1" 1 .roundReady) :: answers 3 25 ++
  .start (.action "u2" 1 .roundReady) :: answers 4 25

set_option maxRecDepth 100000 in
theorem results_durable_orderly : DurableResults "m" (play orderly).log (play orderly).store.hash :=
  results_durable "m" plainHost friendly ⟨"one", "two"⟩ (fun _ => none) orderly (by decide)

/-- Round 1 in which both players acknowledge the summary while the second
ack has won the transition but not yet stored the result. -/
def hasty : List (Move Request Nat) :=
  .start (.phaseTimer 1) :: answers 0 25 ++
  .start (.action "u1" 1 .combatDone) :: answers 1 25 ++
  .start (.action "u2" 1 .combatDone) :: answers 2 5 ++
  .start (.action "u1" 1 .roundReady) :: answers 3 5 ++
  .start (.action "u2" 1 .roundReady) :: answers 4 5

set_option maxRecDepth 100000 in
/-- The planning phase of round 2 has started, and nothing of round 1's result
is stored. -/
theorem early_advance : ¬ DurableResults "m" (play hasty).log (play hasty).store.hash := by
  intro h
  have hhead : ((play hasty).log.head?.any fun e => Enters .resolved .shop_place 1 e) = true := by
    decide
  have hnone : ∀ e ∈ (play hasty).log, e.cmd.resultRound = none := by decide
  have hstored := h.stored
  generalize (play hasty).log = log at hhead hnone hstored
  cases log with
  | nil => cases hhead
  | cons e older =>
    obtain ⟨⟨w, hmem, hw⟩, -⟩ := hstored [] e older rfl 1 (of_decide_eq_true hhead)
    have := hnone w (List.mem_cons_of_mem _ hmem)
    rw [hw.1] at this
    cases this

end AutoChess.Runtime
