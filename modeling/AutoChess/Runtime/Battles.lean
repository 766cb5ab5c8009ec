/-
What the cached combat result is. The combat keys are written by the request
that started a battle and by no other while the battle is on, so that a
request which reads the match as fought reads the events of that battle.
-/
import AutoChess.Runtime.Rounds

namespace AutoChess.Runtime

open AutoChess.Game AutoChess.Shop Calls Expiring

/-- The event says that a round is fought. -/
def IsFought (round : Nat) (e : RuntimeEvent) : Prop := e.cmd = .hset [.combatRound (some round)]

section
variable {matchId : String} {host : Host} {init : Store} {log newer older : List RuntimeEvent}
  {e : RuntimeEvent} {s : Store}

/-! ## The combat keys -/

/-- The result a read of the cache finds. -/
def cached (s : Store) : Option (List CombatEvent) := s.combatResult.get s.now

theorem cached_elapse (ms : Nat) (s : Store) :
    cached ((pool matchId host).env ms s) = cached s ∨ cached ((pool matchId host).env ms s) = none :=
  Key.get_later (Nat.le_add_right s.now ms) s.combatResult

theorem does_cached (hdo : (pool matchId host).Does e) (hc : e.cmd.onCombatKeys = false) :
    cached e.after = cached e.before := by
  rcases hdo.after_eq with h | h
  · rw [h]
  · rw [h, cached, cached]
    exact congrArg₂ Key.get (act_frame host e.cmd e.before).now ((act_frame host e.cmd e.before).combatResult hc)

/-- Both commands come before their request has written anything of the
battle it started. -/
theorem Run.on_combat_keys (h : Run matchId host init (newer ++ e :: older) s)
    (hc : e.cmd.onCombatKeys = true) : Never Cmd.isFought (own e.pid older) ∧
      ∃ round, Won (own e.pid older) .shop_place .battle round none := by
  have hg := h.of_split.2.1
  generalize e.cmd = c at hc hg
  cases c with
  | delCombatKeys => exact ⟨hg.1.imp fought_isCombat, hg.2⟩
  | writeCombatResult events ttl =>
    obtain ⟨hnever, round, -, hwon, -⟩ := hg
    exact ⟨hnever, round, hwon⟩
  | _ => cases hc

/-- The request that started a battle has cached the events of its engine run
just before it says that the round is fought. -/
theorem Run.fought_event (h : Run matchId host init (newer ++ e :: older) s) {round : Nat}
    (hf : IsFought round e) : ∃ state events ttl calls,
      own e.pid older = (⟨.writeCombatResult events ttl, some ()⟩ : Call Cmd Resp) :: calls ∧
      Won calls .shop_place .battle round none ∧
      (⟨.runBattle round state, some events⟩ : Call Cmd Resp) ∈ calls := by
  have hg := h.of_split.2.1
  rw [hf] at hg
  generalize hfields : [FieldWrite.combatRound (some round)] = fields at hg
  cases hg with
  | fought hh hwon hrun => cases hfields; exact ⟨_, _, _, _, hh, hwon, hrun⟩
  | @roundReady _ _ _ side _ _ _ _ => cases side <;> cases hfields
  | @markReady _ _ side _ => cases side <;> cases hfields
  | _ => cases hfields

/-! ## A battle that was fought -/

/-- A call leaves `combatRound`, clears it, or announces a battle. -/
theorem Run.combatRound_step (h : Run matchId host init (newer ++ e :: older) s) {round : Nat}
    (hr : e.after.hash.combatRound = some round) :
    e.before.hash.combatRound = some round ∨ IsFought round e := by
  obtain ⟨-, hg, hdo⟩ := h.of_split
  rcases does_hash hdo with heq | heq
  · exact .inl (heq ▸ hr)
  rw [heq] at hr
  unfold IsFought
  generalize e.cmd = c at hg hr
  cases c with
  | hset fields =>
    cases hg with
    | names => exact .inl hr
    | fought _ _ _ => exact .inr (by simpa [written, hset_cons] using hr)
    | result _ _ _ _ => simp [written, resultFields, hset_cons] at hr
    | knockout _ _ _ _ => exact .inl (by simpa [written, knockoutFields, hset_cons] using hr)
    | reset _ _ => simp [written, resetFields, hset_cons] at hr
    | @roundReady _ _ _ side _ _ _ _ => cases side <;> exact .inl hr
    | @markReady _ _ side _ => cases side <;> exact .inl hr
  | phaseFlip expectedPhase newPhase r next =>
    simp only [written] at hr
    split at hr
    · cases next <;> exact .inl (by simpa [flipFields, hset_cons] using hr)
    · exact .inl hr
  | actionLog userId id field shop phase r =>
    simp only [written] at hr
    split at hr
    · cases hg with
      | @state side _ _ => cases side <;> exact .inl hr
      | @ready _ _ _ _ side _ => cases side <;> exact .inl hr
    · exact .inl hr
  | _ => exact .inl hr

/-- A round that reads as fought was announced. -/
theorem Run.combatRound_fought (h : Run matchId host init log s)
    (hinit : init.hash.combatRound = none) {round : Nat} (hr : s.hash.combatRound = some round) :
    ∃ e ∈ log, IsFought round e := by
  induction h with
  | start => rw [hinit] at hr; cases hr
  | @time log s ms hrun ih =>
    rcases hash_elapse ms s with heq | heq
    · exact ih ((congrArg RuntimeHash.combatRound heq).symm.trans hr)
    · exact absurd ((congrArg RuntimeHash.combatRound heq).symm.trans hr) (by simp)
  | @call log e hrun hg hdo ih =>
    have hwhole : Run matchId host init ([] ++ e :: log) e.after := .call hrun hg hdo
    rcases hwhole.combatRound_step hr with hb | hf
    · obtain ⟨f, hf, hfought⟩ := ih hb
      exact ⟨f, List.mem_cons_of_mem _ hf, hfought⟩
    · exact ⟨e, List.mem_cons_self .., hf⟩

/-! ## What a request has read -/

theorem parse_fields {hash : RuntimeHash} {runtime : MatchRuntimeState}
    (h : parseRuntimeHash matchId hash = some runtime) : hash.phase = some runtime.phase ∧
      hash.round = some runtime.round ∧ positiveInt hash.combatRound = runtime.combatRound := by
  simp only [parseRuntimeHash, Option.bind_eq_bind, Option.bind_eq_some_iff, Option.pure_def,
    Option.some.injEq] at h
  obtain ⟨phase, hphase, round, hround, rfl⟩ := h
  refine ⟨hphase, ?_, rfl⟩
  cases hr : hash.round with
  | none => rw [hr] at hround; cases hround
  | some r =>
    rw [hr, positiveInt] at hround
    split at hround
    · exact hround
    · cases hround

theorem ReadAs.fields {hash : RuntimeHash} {runtime : MatchRuntimeState}
    (h : ReadAs matchId hash runtime) : hash.phase = some runtime.phase ∧
      hash.round = some runtime.round ∧ positiveInt hash.combatRound = runtime.combatRound := by
  obtain ⟨a, b, h⟩ := h
  have hfields := parse_fields h
  exact hfields

/-- What a request saw is what the store held at one of its reads. -/
theorem Run.saw_read (h : Run matchId host init log s) {pid : Nat} {runtime : MatchRuntimeState}
    (hsaw : Saw matchId (own pid log) runtime) : ∃ newer read older,
      log = newer ++ read :: older ∧ read.pid = pid ∧ ReadAs matchId read.before.hash runtime := by
  obtain ⟨hash, hmem, hread⟩ := hsaw
  obtain ⟨read, hmem, hpid, hcall⟩ := mem_own.1 hmem
  obtain ⟨l₁, l₂, rfl⟩ := List.append_of_mem hmem
  refine ⟨l₁, read, l₂, rfl, hpid, ?_⟩
  have hdo := h.of_split.2.2
  obtain ⟨⟨cmd, reply⟩, pid', request, before, after⟩ := read
  cases hcall
  exact (hdo.of_reply rfl).1 ▸ hread

/-- A request that saw a round as fought came after its announcement. -/
theorem Run.saw_fought (h : Run matchId host init log s) (hinit : init.hash.combatRound = none)
    {pid round : Nat} {runtime : MatchRuntimeState} (hsaw : Saw matchId (own pid log) runtime)
    (hr : runtime.combatRound = some round) : ∃ e ∈ log, IsFought round e := by
  obtain ⟨l₁, read, l₂, rfl, -, hread⟩ := h.saw_read hsaw
  have hcombat : read.before.hash.combatRound = some round := by
    have hpos := hread.fields.2.2.trans hr
    cases hc : read.before.hash.combatRound with
    | none => rw [hc] at hpos; cases hpos
    | some r =>
      rw [hc, positiveInt] at hpos
      split at hpos
      · exact hpos
      · cases hpos
  obtain ⟨e, he, hf⟩ := Run.combatRound_fought h.of_split.1 hinit hcombat
  exact ⟨e, List.mem_append_right _ (List.mem_cons_of_mem _ he), hf⟩

/-- Only a battle that was announced is resolved. -/
theorem Run.resolved_fought (h : Run matchId host init (newer ++ e :: older) s)
    (hinit : init.hash.combatRound = none) {round : Nat} (hen : Enters .battle .resolved round e) :
    ∃ f ∈ older, IsFought round f := by
  obtain ⟨next, -, hg⟩ := h.flip_of_enters hen (by decide) (by decide)
  cases hg with
  | @resolve _ runtime events newerC olderC hh hsaw hphase hround hfought _ =>
    have hsaw' : Saw matchId (own e.pid older) runtime := by
      obtain ⟨hash, hmem, hread⟩ := hsaw
      exact ⟨hash, hh ▸ List.mem_append_right _ (List.mem_cons_of_mem _ hmem), hread⟩
    exact Run.saw_fought h.of_split.1 hinit hsaw' hfought

theorem Won.later {pid round : Nat} {old new : MatchPhase} {next : Option Nat}
    (hw : Won (own pid older) old new round next) (hsuf : older <:+ log) :
    Won (own pid log) old new round next := by
  obtain ⟨l, rfl⟩ := hsuf
  rw [Won, own_append]
  exact List.mem_append_right _ hw

/-- Only one request starts a round's battle. -/
theorem Run.one_starter (h : Run matchId host init log s) {pid₁ pid₂ round : Nat}
    (h₁ : Won (own pid₁ log) .shop_place .battle round none)
    (h₂ : Won (own pid₂ log) .shop_place .battle round none) : pid₁ = pid₂ := by
  obtain ⟨w₁, hw₁, rfl, hen₁⟩ := won_enters h h₁
  obtain ⟨w₂, hw₂, rfl, hen₂⟩ := won_enters h h₂
  rw [h.starter_unique hw₁ hw₂ hen₁ hen₂]

/-- The request that announced a battle started it. -/
theorem Run.fought_won (h : Run matchId host init log s) {round : Nat} {f : RuntimeEvent}
    (hmem : f ∈ log) (hf : IsFought round f) : Won (own f.pid log) .shop_place .battle round none := by
  obtain ⟨l₁, l₂, rfl⟩ := List.append_of_mem hmem
  obtain ⟨state, events, ttl, calls, hown, hwon, -⟩ := h.fought_event hf
  exact Won.later (show Won (own f.pid l₂) _ _ _ _ from hown ▸ List.mem_cons_of_mem _ hwon)
    suffix_split

/-- Whoever started a round's battle, the match has been in it since. -/
theorem Run.started_stage (h : Run matchId host init log s) {pid round : Nat}
    (hwon : Won (own pid log) .shop_place .battle round none) :
    stage init.hash ≤ .some (3 * round) ∧ WithTop.some (3 * round + 1) ≤ stage s.hash := by
  obtain ⟨w, hw, -, hen⟩ := won_enters h hwon
  obtain ⟨l₁, l₂, rfl⟩ := List.append_of_mem hw
  obtain ⟨hb, ha⟩ := enters_battle_stage hen h.phaseStep
  exact ⟨hb ▸ Run.stage_first h.of_split.1, ha ▸ h.stage_since⟩

theorem Never.not_made {p : Cmd → Bool} {pid : Nat} {f : RuntimeEvent} (hnever : Never p (own pid log))
    (hmem : f ∈ log) (hpid : f.pid = pid) : p f.cmd = false :=
  hnever _ (mem_own.2 ⟨f, hmem, hpid, rfl⟩)

/-- A round is announced as fought once. -/
theorem Run.fought_once (h : Run matchId host init log s) {round : Nat} {f f' : RuntimeEvent} (hf : f ∈ log)
    (hf' : f' ∈ log) (hfought : IsFought round f) (hfought' : IsFought round f') : f = f' := by
  have hpid := h.one_starter (h.fought_won hf hfought) (h.fought_won hf' hfought')
  have hnone : ∀ {newer older : List RuntimeEvent} {f f' : RuntimeEvent},
      Run matchId host init (newer ++ f :: older) s → IsFought round f → IsFought round f' → f'.pid = f.pid →
      f' ∉ older := by
    intro newer older f f' h hf hf' hpid hmem
    obtain ⟨state, events, ttl, calls, hown, -, -⟩ := h.fought_event hf
    have hwrote : own f.pid older = [] ++ (⟨.writeCombatResult events ttl, some ()⟩ : Call Cmd Resp) :: calls := hown
    obtain ⟨m₁, w, m₂, rfl, hw, hcall, -, hnew⟩ := own_split hwrote
    have hwcmd : w.cmd = .writeCombatResult events ttl := congrArg Call.cmd hcall
    have hrun : Run matchId host init (m₁ ++ w :: m₂) f.before := h.of_split.1
    have hnever := (hrun.on_combat_keys (by rw [hwcmd]; rfl)).1
    rcases List.mem_append.1 hmem with hmem | hmem
    · have hcalled := mem_own.2 ⟨f', hmem, hpid, rfl⟩
      rw [hnew] at hcalled
      cases hcalled
    rcases List.mem_cons.1 hmem with rfl | hmem
    · rw [IsFought, hwcmd] at hf'
      cases hf'
    · have hnone := hnever.not_made hmem (hpid.trans hw.symm)
      rw [hf'] at hnone
      cases hnone
  obtain ⟨newer, older, rfl⟩ := List.append_of_mem hf
  rcases List.mem_append.1 hf' with hf' | hf'
  · obtain ⟨l₁, l₂, rfl⟩ := List.append_of_mem hf'
    rw [List.append_assoc, List.cons_append] at h
    exact absurd (List.mem_append_right _ (List.mem_cons_self ..)) (hnone h hfought' hfought hpid)
  · rcases List.mem_cons.1 hf' with heq | hf'
    · exact heq.symm
    · exact absurd hf' (hnone h hfought hfought' hpid.symm)

/-- **The combat keys are written during the battle they are for**, or after
the end of the match. -/
theorem Run.combat_keys_stage (h : Run matchId host init (newer ++ e :: older) s)
    (hstage : stage init.hash = .some 3) (hinit : init.hash.combatRound = none)
    (hc : e.cmd.onCombatKeys = true) : ∃ round, Won (own e.pid older) .shop_place .battle round none ∧
      (stage e.before.hash = .some (3 * round + 1) ∨ stage e.before.hash = ⊤) := by
  obtain ⟨hnever, round, hwon⟩ := h.on_combat_keys hc
  refine ⟨round, hwon, ?_⟩
  have hrun : Run matchId host init older e.before := h.of_split.1
  obtain ⟨hfirst, hge⟩ := hrun.started_stage hwon
  have hfirst : 3 ≤ 3 * round := WithTop.coe_le_coe.1 (hstage ▸ hfirst)
  cases hs : stage e.before.hash with
  | top => exact .inr rfl
  | coe n =>
    rw [hs] at hge
    rcases Nat.eq_or_lt_of_le (WithTop.coe_le_coe.1 hge) with heq | hlt
    · exact .inl (by rw [heq])
    -- Had the battle been resolved, it would have been announced before.
    · obtain ⟨f, hf, hb, ha⟩ := hrun.passed hstage hs (by omega) hlt
      obtain ⟨l₁, l₂, rfl⟩ := List.append_of_mem hf
      have hres : Enters .battle .resolved round f :=
        ⟨(stage_battle_iff.1 hb).1, (stage_battle_iff.1 hb).2, (stage_resolved_iff.1 ha).1⟩
      obtain ⟨f', hf', hfought⟩ := hrun.resolved_fought hinit hres
      have hmem : f' ∈ l₁ ++ f :: l₂ := List.mem_append_right _ (List.mem_cons_of_mem _ hf')
      have hnone := hnever.not_made hmem (hrun.one_starter (hrun.fought_won hmem hfought) hwon)
      rw [hfought] at hnone
      cases hnone

/-- While a battle is on, what its starter cached stays cached until it
expires. -/
theorem Run.cached_since (h : Run matchId host init (newer ++ e :: older) s) (hstage : stage init.hash = .some 3)
    (hinit : init.hash.combatRound = none) {round : Nat} (hfought : e.cmd.isFought = true)
    (hwon : Won (own e.pid older) .shop_place .battle round none) (hs : stage s.hash = .some (3 * round + 1)) :
    cached s = cached e.after ∨ cached s = none := by
  refine Chronicle.rel_since (r := fun s s' => cached s' = cached s ∨ cached s' = none)
    (fun _ => .inl rfl) (fun s₁ s₂ s₃ h₁ h₂ => ?_) cached_elapse h fun newer' e' older' heq => ?_
  · rcases h₂ with h₂ | h₂
    · exact h₂ ▸ h₁
    · exact .inr h₂
  · rw [heq, List.append_assoc, List.cons_append] at h
    have hwon' : Won (own e.pid (older' ++ e :: older)) .shop_place .battle round none := hwon.later suffix_split
    cases hkeys : e'.cmd.onCombatKeys with
    | false => exact .inl (does_cached h.of_split.2.2 hkeys)
    | true =>
      obtain ⟨round', hstarted, hst⟩ := h.combat_keys_stage hstage hinit hkeys
      obtain rfl : round' = round := by
        have hle := h.phaseStep.stage_le.trans (h.stage_since.trans_eq hs)
        have hge : WithTop.some (3 * round + 1) ≤ stage e'.before.hash := (Run.started_stage h.of_split.1 hwon').2
        rcases hst with hst | hst
        · rw [hst] at hle hge
          have := WithTop.coe_le_coe.1 hle
          have := WithTop.coe_le_coe.1 hge
          omega
        · rw [hst, top_le_iff] at hle
          exact absurd hle (WithTop.coe_ne_top ·)
      have hnone := (h.on_combat_keys hkeys).1.not_made (List.mem_append_right _ (List.mem_cons_self ..))
        (Run.one_starter h.of_split.1 hwon' hstarted)
      rw [hfought] at hnone
      cases hnone

/-- **What is cached while a fought battle is on is what the engine made of
it.** -/
theorem Run.cached_events (h : Run matchId host init log s) (hstage : stage init.hash = .some 3)
    (hinit : init.hash.combatRound = none) {round : Nat} {f : RuntimeEvent} (hmem : f ∈ log)
    (hf : IsFought round f) (hs : stage s.hash = .some (3 * round + 1)) {events : List CombatEvent}
    (hc : cached s = some events) :
    ∃ engine ∈ log, ∃ state, engine.toCall = ⟨.runBattle round state, some events⟩ := by
  obtain ⟨l₁, l₂, rfl⟩ := List.append_of_mem hmem
  obtain ⟨state, written, ttl, calls, hown, hwon, hran⟩ := h.fought_event hf
  obtain ⟨m₁, w, m₂, rfl, hpid, hcall, hcalls⟩ := own_last hown
  have hlog : l₁ ++ f :: (m₁ ++ w :: m₂) = (l₁ ++ f :: m₁) ++ w :: m₂ := by simp
  rw [hlog] at h
  have hsince : cached s = cached w.after ∨ cached s = none :=
    h.cached_since hstage hinit (by rw [show w.cmd = _ from congrArg Call.cmd hcall]; rfl)
      (hpid ▸ hcalls.symm ▸ hwon) hs
  -- What the request wrote is what its engine run gave it.
  have hwrote : cached w.after = some written := by
    have hdo := h.of_split.2.2
    obtain ⟨⟨cmd, reply⟩, pid', request, before, after⟩ := w
    cases hcall
    have hafter := (hdo.of_reply rfl).2
    exact (congrArg cached hafter).trans (Key.get_setEx _ _ _)
  rcases hsince with heq | hnone
  · obtain rfl : events = written := Option.some.inj (hc.symm.trans (heq.trans hwrote))
    obtain ⟨engine, hmem', -, hcall'⟩ := mem_own.1 (hcalls ▸ hran)
    refine ⟨engine, ?_, state, hcall'⟩
    exact List.mem_append_right _ (List.mem_cons_of_mem _ (List.mem_append_right _
      (List.mem_cons_of_mem _ hmem')))
  · rw [hc] at hnone
    cases hnone

end

end AutoChess.Runtime
