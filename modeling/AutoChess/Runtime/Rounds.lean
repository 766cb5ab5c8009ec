/-
Each round is fought and resolved at most once, whatever the interleaving:
the transitions of one round are one event each, and the engine is only ever
run by the request that won the transition into battle.
-/
import AutoChess.Runtime.Phases

namespace AutoChess.Runtime

open AutoChess.Game AutoChess.Shop Calls

/-- The engine call for a round. -/
def Cmd.runsRound (round : Nat) : Cmd → Bool
  | .runBattle r _ => r == round
  | _ => false

/-- A `phase_flip.lua` call whose script finds the phase and round it expects. -/
def Flips (e : RuntimeEvent) : Prop :=
  ∃ expectedPhase newPhase round next, e.cmd = .phaseFlip expectedPhase newPhase round next ∧
    (evalPhaseFlip expectedPhase newPhase round next e.before).1 = true

/-- The log of a match whose rounds are fought and resolved once, in order. -/
structure RoundsOnce (log : List RuntimeEvent) : Prop where
  engine : ∀ round, log.countP (·.cmd.runsRound round) ≤ 1
  resolved : ∀ round, log.countP (fun e => Enters .battle .resolved round e) ≤ 1
  /-- A call leaves the round alone or starts the next planning phase. -/
  byOne : ∀ e ∈ log, ∀ a b, e.before.hash.round = some a → e.after.hash.round = some b →
    b = a ∨ b = a + 1 ∧ e.before.hash.phase = some .resolved ∧ e.after.hash.phase = some .shop_place
  /-- Starting the next planning phase is the next round. -/
  next : ∀ e ∈ log, ∀ a, Enters .resolved .shop_place a e → e.after.hash.round = some (a + 1)
  increasing : log.Pairwise fun newer older => ∀ a b, older.after.hash.round = some a →
    newer.before.hash.round = some b → a ≤ b
  finished : log.Pairwise fun newer older =>
    older.after.hash.phase = some .finished → ¬ Flips newer

section
variable {matchId : String} {host : Host} {init : Store} {log newer older : List RuntimeEvent}
  {e : RuntimeEvent} {s : Store}

theorem PhaseStep.byOne {h h' : RuntimeHash} (hs : PhaseStep h h') {a b : Nat}
    (ha : h.round = some a) (hb : h'.round = some b) :
    b = a ∨ b = a + 1 ∧ h.phase = some .resolved ∧ h'.phase = some .shop_place := by
  cases hs with
  | same _ hr => exact .inl (Option.some.inj (hb.symm.trans (hr.trans ha)))
  | start hw hn =>
    exact .inl (Option.some.inj (hb.symm.trans (hn.2.trans (hw.2.symm.trans ha))))
  | resolve hw hn =>
    exact .inl (Option.some.inj (hb.symm.trans (hn.2.trans (hw.2.symm.trans ha))))
  | advance hw hn =>
    have hr := Option.some.inj (hw.2.symm.trans ha)
    exact .inr ⟨Option.some.inj (hb.symm.trans (hn.2.trans (hr ▸ rfl))), hw.1, hn.1⟩
  | finish _ hr => exact .inl (Option.some.inj (hb.symm.trans (hr.trans ha)))

/-- The round is there and has not gone back. -/
def RoundLe (h h' : RuntimeHash) : Prop := ∀ b, h'.round = some b → ∃ a, h.round = some a ∧ a ≤ b

theorem PhaseStep.roundLe {h h' : RuntimeHash} (hs : PhaseStep h h') : RoundLe h h' := by
  intro b hb
  cases hs with
  | same _ hr => exact ⟨b, hr ▸ hb, le_rfl⟩
  | start hw hn => exact ⟨b, by rw [hw.2, ← hn.2, hb], le_rfl⟩
  | resolve hw hn => exact ⟨b, by rw [hw.2, ← hn.2, hb], le_rfl⟩
  | @advance r hw hn =>
    have := Option.some.inj (hn.2.symm.trans hb)
    exact ⟨r, hw.2, by omega⟩
  | finish _ hr => exact ⟨b, hr ▸ hb, le_rfl⟩

theorem roundLe_elapse (ms : Nat) (s : Store) :
    RoundLe s.hash ((pool matchId host).env ms s).hash := by
  intro b hb
  rcases hash_elapse ms s with h | h
  · exact ⟨b, (congrArg RuntimeHash.round h).symm.trans hb, le_rfl⟩
  · exact absurd ((congrArg RuntimeHash.round h).symm.trans hb) (by simp)

theorem Run.round_between (h : Run matchId host init (newer ++ e :: older) s) {e' : RuntimeEvent}
    (he' : e' ∈ older) : RoundLe e'.after.hash e.before.hash := by
  obtain ⟨l₁, l₂, rfl⟩ := List.append_of_mem he'
  have hrun : Run matchId host init (l₁ ++ e' :: l₂) e.before := h.of_split.1
  refine Chronicle.rel_since (r := fun s s' => RoundLe s.hash s'.hash)
    (fun _ b hb => ⟨b, hb, le_rfl⟩) (fun _ _ _ h₁ h₂ b hb => ?_) roundLe_elapse hrun
    fun newer' e'' older' heq => ?_
  · obtain ⟨c, hc, hcb⟩ := h₂ b hb
    obtain ⟨a, ha, hac⟩ := h₁ c hc
    exact ⟨a, ha, hac.trans hcb⟩
  · subst heq
    rw [List.append_assoc, List.cons_append] at hrun
    exact hrun.phaseStep.roundLe

/-- An answered flip has its effect. -/
theorem Run.enters_of_flip (h : Run matchId host init (newer ++ e :: older) s) {round : Nat}
    {old new : MatchPhase} {next : Option Nat}
    (hcall : e.toCall = ⟨.phaseFlip old new round next, some true⟩) :
    Enters old new round e ∧ e.after.hash = e.before.hash.hset (flipFields new next) := by
  have hdo := h.of_split.2.2
  obtain ⟨⟨cmd, reply⟩, pid, request, before, after⟩ := e
  cases hcall
  obtain ⟨hreply, hafter⟩ := hdo.of_reply rfl
  have hflip : (evalPhaseFlip old new round next before).1 = true := hreply.symm
  have hhash : after.hash = before.hash.hset (flipFields new next) := by
    have hact := act_hash host (.phaseFlip old new round next) before
    simp only [written, hflip, if_true] at hact
    exact (congrArg Store.hash hafter).trans hact
  refine ⟨⟨(evalPhaseFlip_iff.1 hflip).1, (evalPhaseFlip_iff.1 hflip).2, ?_⟩, hhash⟩
  change after.hash.phase = some new
  rw [hhash]
  cases next <;> simp [flipFields, hset_cons]

/-- A transition won is an event with its effect. -/
theorem won_enters (h : Run matchId host init log s) {pid round : Nat} {old new : MatchPhase}
    {next : Option Nat} (hw : Won (own pid log) old new round next) :
    ∃ w ∈ log, w.pid = pid ∧ Enters old new round w := by
  obtain ⟨w, hmem, hpid, hcall⟩ := mem_own.1 hw
  obtain ⟨l₁, l₂, rfl⟩ := List.append_of_mem hmem
  exact ⟨w, hmem, hpid, (h.enters_of_flip hcall).1⟩

theorem enters_battle_stage {round : Nat} (he : Enters .shop_place .battle round e)
    (hs : PhaseStep e.before.hash e.after.hash) :
    stage e.before.hash = .some (3 * round) ∧ stage e.after.hash = .some (3 * round + 1) := by
  refine ⟨stage_shop ⟨he.1, he.2.1⟩, ?_⟩
  cases hs with
  | same hp _ => rw [he.2.2, he.1] at hp; cases hp
  | start hw hn =>
    have hr := Option.some.inj (hw.2.symm.trans he.2.1)
    exact stage_battle (hr ▸ hn)
  | resolve hw _ => rw [he.1] at hw; cases hw.1
  | advance hw _ => rw [he.1] at hw; cases hw.1
  | finish hp _ => rw [he.2.2] at hp; cases hp

theorem enters_resolved_stage {round : Nat} (he : Enters .battle .resolved round e)
    (hs : PhaseStep e.before.hash e.after.hash) :
    stage e.before.hash = .some (3 * round + 1) ∧ stage e.after.hash = .some (3 * round + 2) := by
  refine ⟨stage_battle ⟨he.1, he.2.1⟩, ?_⟩
  cases hs with
  | same hp _ => rw [he.2.2, he.1] at hp; cases hp
  | start hw _ => rw [he.1] at hw; cases hw.1
  | resolve hw hn =>
    have hr := Option.some.inj (hw.2.symm.trans he.2.1)
    exact stage_resolved (hr ▸ hn)
  | advance hw _ => rw [he.1] at hw; cases hw.1
  | finish hp _ => rw [he.2.2] at hp; cases hp

/-- Only one request has won the transition into a round's battle. -/
theorem Run.starter_unique (h : Run matchId host init log s) {round : Nat} {e₁ e₂ : RuntimeEvent}
    (h₁ : e₁ ∈ log) (h₂ : e₂ ∈ log) (he₁ : Enters .shop_place .battle round e₁)
    (he₂ : Enters .shop_place .battle round e₂) : e₁ = e₂ := by
  have hstage : ∀ e ∈ log, Enters .shop_place .battle round e →
      stage e.before.hash = .some (3 * round) ∧ WithTop.some (3 * round) < stage e.after.hash := by
    intro e he hen
    obtain ⟨l₁, l₂, rfl⟩ := List.append_of_mem he
    obtain ⟨hb, ha⟩ := enters_battle_stage hen h.phaseStep
    exact ⟨hb, by rw [ha]; exact WithTop.coe_lt_coe.2 (by omega)⟩
  exact h.enters_unique h₁ h₂ (hstage e₁ h₁ he₁).1 (hstage e₁ h₁ he₁).2 (hstage e₂ h₂ he₂).1
    (hstage e₂ h₂ he₂).2

/-- Only one request has resolved a round. -/
theorem Run.resolver_unique (h : Run matchId host init log s) {round : Nat} {e₁ e₂ : RuntimeEvent}
    (h₁ : e₁ ∈ log) (h₂ : e₂ ∈ log) (he₁ : Enters .battle .resolved round e₁)
    (he₂ : Enters .battle .resolved round e₂) : e₁ = e₂ := by
  have hstage : ∀ e ∈ log, Enters .battle .resolved round e →
      stage e.before.hash = .some (3 * round + 1) ∧
        WithTop.some (3 * round + 1) < stage e.after.hash := by
    intro e he hen
    obtain ⟨l₁, l₂, rfl⟩ := List.append_of_mem he
    obtain ⟨hb, ha⟩ := enters_resolved_stage hen h.phaseStep
    exact ⟨hb, by rw [ha]; exact WithTop.coe_lt_coe.2 (by omega)⟩
  exact h.enters_unique h₁ h₂ (hstage e₁ h₁ he₁).1 (hstage e₁ h₁ he₁).2 (hstage e₂ h₂ he₂).1
    (hstage e₂ h₂ he₂).2

theorem WriteGuard.phase_or {q : Request} {h : History} {fields : List FieldWrite}
    (hg : WriteGuard matchId q h fields) (hash : RuntimeHash) :
    (hash.hset fields).phase = hash.phase ∨ (hash.hset fields).phase = some .finished := by
  cases hg with
  | names => exact .inl rfl
  | fought _ _ _ => exact .inl rfl
  | result _ _ _ _ => exact .inl (resultFields_keeps ..).1
  | knockout _ _ _ _ => exact .inr (knockoutFields_keeps ..).1
  | reset _ _ => exact .inl rfl
  | roundReady _ _ _ _ => exact .inl (readyField_keeps ..).1
  | markReady _ => exact .inl (readyField_keeps ..).1

/-- A transition short of the end is a `phase_flip.lua` call. -/
theorem Run.flip_of_enters (h : Run matchId host init (newer ++ e :: older) s) {round : Nat}
    {old new : MatchPhase} (hen : Enters old new round e) (hne : old ≠ new) (hfin : new ≠ .finished) :
    ∃ next, e.cmd = .phaseFlip old new round next ∧
      FlipGuard matchId e.request (own e.pid older) old new round next := by
  obtain ⟨-, hg, hdo⟩ := h.of_split
  rcases does_hash hdo with heq | heq
  · rw [Enters, heq] at hen
    exact absurd (Option.some.inj (hen.1.symm.trans hen.2.2)) hne
  obtain ⟨hphase, hround, hafter⟩ := hen
  rw [heq] at hafter
  generalize e.cmd = c at hg hafter
  have hsame : ∀ fields, (e.before.hash.hset fields).phase = e.before.hash.phase →
      (e.before.hash.hset fields).phase = some new → False := fun _ hs ha =>
    hne (Option.some.inj (hphase.symm.trans (hs.symm.trans ha)))
  cases c with
  | hset fields =>
    rcases WriteGuard.phase_or hg e.before.hash with hs | hs
    · exact (hsame _ hs hafter).elim
    · exact absurd (Option.some.inj (hafter.symm.trans hs)) hfin
  | phaseFlip expectedPhase newPhase r next =>
    simp only [written] at hafter
    split at hafter
    · next hflip =>
      obtain ⟨hp, hr⟩ := evalPhaseFlip_iff.1 hflip
      obtain rfl := Option.some.inj (hp.symm.trans hphase)
      obtain rfl := Option.some.inj (hr.symm.trans hround)
      have hnew : newPhase = new := by
        cases next <;> simpa [flipFields, hset_cons] using hafter
      subst hnew
      exact ⟨next, rfl, hg⟩
    · exact (hsame [] rfl hafter).elim
  | actionLog userId id field shop phase r =>
    simp only [written] at hafter
    split at hafter
    · refine (hsame _ ?_ hafter).elim
      cases hg with
      | state _ => exact (stateField_keeps ..).1
      | ready _ => exact (readyField_keeps ..).1
    · exact (hsame [] rfl hafter).elim
  | _ => exact (hsame [] rfl hafter).elim

/-- The engine runs under the transition its request won. -/
theorem Run.engine_won (h : Run matchId host init (newer ++ e :: older) s) {round : Nat}
    (he : e.cmd.runsRound round = true) :
    Never Cmd.isEngine (own e.pid older) ∧ Won (own e.pid older) .shop_place .battle round none := by
  have hg := h.of_split.2.1
  generalize e.cmd = c at he hg
  cases c with
  | runBattle r state =>
    have hr : r = round := by simpa [Cmd.runsRound] using he
    exact hr ▸ hg
  | _ => simp [Cmd.runsRound] at he

theorem runsRound_isEngine {round : Nat} : ∀ c : Cmd, c.runsRound round = true → c.isEngine = true := by
  intro c hc
  cases c <;> simp_all [Cmd.runsRound, Cmd.isEngine]

theorem Run.engine_once (h : Run matchId host init (newer ++ e :: older) s) {round : Nat}
    (he : e.cmd.runsRound round = true) : ∀ e' ∈ older, e'.cmd.runsRound round = false := by
  intro e' he'
  by_contra hrun
  rw [Bool.not_eq_false] at hrun
  obtain ⟨hnever, hwon⟩ := h.engine_won he
  obtain ⟨l₁, l₂, rfl⟩ := List.append_of_mem he'
  have hrun' : Run matchId host init (l₁ ++ e' :: l₂) e.before := h.of_split.1
  obtain ⟨-, hwon'⟩ := hrun'.engine_won hrun
  obtain ⟨w, hw, hpid, hen⟩ := won_enters hrun' hwon
  obtain ⟨w', hw', hpid', hen'⟩ := won_enters hrun'.of_split.1 hwon'
  -- Both requests won the same transition, so they are the same request.
  have hmem' : w' ∈ l₁ ++ e' :: l₂ := List.mem_append_right _ (List.mem_cons_of_mem _ hw')
  have hsame : e'.pid = e.pid := by
    rw [← hpid, ← hpid', hrun'.starter_unique hw hmem' hen hen']
  have hown : e'.toCall ∈ own e.pid (l₁ ++ e' :: l₂) := mem_own.2 ⟨e', he', hsame, rfl⟩
  have := hnever _ hown
  rw [runsRound_isEngine _ hrun] at this
  cases this

theorem Run.resolved_once (h : Run matchId host init (newer ++ e :: older) s) {round : Nat}
    (he : Enters .battle .resolved round e) : ∀ e' ∈ older, ¬ Enters .battle .resolved round e' := by
  intro e' he' hen
  have hbetween := h.stage_between he'
  obtain ⟨l₁, l₂, rfl⟩ := List.append_of_mem he'
  have hrun' : Run matchId host init (l₁ ++ e' :: l₂) e.before := h.of_split.1
  rw [(enters_resolved_stage he h.phaseStep).1, (enters_resolved_stage hen hrun'.phaseStep).2] at hbetween
  have := WithTop.coe_le_coe.1 hbetween
  omega

/-- A finished match has reached the last stage, where no flip is expected. -/
theorem Run.finished_stays (h : Run matchId host init (newer ++ e :: older) s) {e' : RuntimeEvent}
    (he' : e' ∈ older) (hfin : e'.after.hash.phase = some .finished) : ¬ Flips e := by
  rintro ⟨expectedPhase, newPhase, round, next, hcmd, hflip⟩
  have hbetween := h.stage_between he'
  rw [stage_finished hfin, top_le_iff] at hbetween
  obtain ⟨hphase, hround⟩ := evalPhaseFlip_iff.1 hflip
  have hg := h.of_split.2.1
  rw [hcmd] at hg
  rw [stage, hphase, hround] at hbetween
  cases expectedPhase with
  | finished => cases hg; contradiction
  | shop_place => exact WithTop.coe_ne_top hbetween
  | battle => exact WithTop.coe_ne_top hbetween
  | resolved => exact WithTop.coe_ne_top hbetween

/-- **Rounds are fought and resolved at most once, in order**, in every run of
a match, with any requests on it, in any number and order, any of whose calls
may fail, and with its keys expiring or not. -/
theorem rounds_once (matchId : String) (host : Host) (m : Match) (names : PlayerNames)
    (users : String → Option User) (moves : List (Move Request Nat)) :
    RoundsOnce ((pool matchId host).run ⟨freshStore m names users, [], []⟩ moves).log := by
  have h : Run matchId host (freshStore m names users)
      ((pool matchId host).run ⟨freshStore m names users, [], []⟩ moves).log
      ((pool matchId host).run ⟨freshStore m names users, [], []⟩ moves).store :=
    Pool.run_chronicle program_guarded moves
  generalize ((pool matchId host).run ⟨freshStore m names users, [], []⟩ moves).log = log at h ⊢
  generalize ((pool matchId host).run ⟨freshStore m names users, [], []⟩ moves).store = s at h
  refine ⟨fun round => ?_, fun round => ?_, fun e he => ?_, fun e he a hen => ?_, ?_, ?_⟩
  · refine countP_le_one fun newer e older heq hp => ?_
    subst heq
    exact h.engine_once hp
  · refine countP_le_one fun newer e older heq hp e' he' => ?_
    subst heq
    exact decide_eq_false (h.resolved_once (of_decide_eq_true hp) e' he')
  · obtain ⟨l₁, l₂, rfl⟩ := List.append_of_mem he
    exact fun a b => h.phaseStep.byOne
  · obtain ⟨l₁, l₂, rfl⟩ := List.append_of_mem he
    have hs := h.phaseStep
    cases hs with
    | same hp _ => rw [hen.2.2, hen.1] at hp; cases hp
    | start hw _ => rw [hen.1] at hw; cases hw.1
    | resolve hw _ => rw [hen.1] at hw; cases hw.1
    | advance hw hn =>
      have hr := Option.some.inj (hw.2.symm.trans hen.2.1)
      exact hr ▸ hn.2
    | finish hp _ => rw [hen.2.2] at hp; cases hp
  · refine pairwise_of_split fun newer e older heq e' he' a b ha hb => ?_
    subst heq
    obtain ⟨c, hc, hcb⟩ := h.round_between he' b hb
    exact Option.some.inj (ha.symm.trans hc) ▸ hcb
  · refine pairwise_of_split fun newer e older heq e' he' => ?_
    subst heq
    exact h.finished_stays he'

end

end AutoChess.Runtime
