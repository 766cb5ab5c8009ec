/-
Two acknowledgements of one battle. The hash that counts them lives for
ninety seconds after an insert, however long the battle is; the deadline
grows with the battle. The later of the two first acks finds the earlier one
exactly when the deadline is no longer than that, and the match and its
cached result are still stored.
-/
import AutoChess.Runtime.Alone

namespace AutoChess.Runtime

open AutoChess.Game AutoChess.Shop Calls Expiring

/-- How long clients have to acknowledge a battle. -/
def deadline (host : Host) (events : List CombatEvent) : Nat :=
  combatDoneTimeoutForEventCount (visibleEventCount events) (combatDoneTimeoutMs host.timeoutSetting)

/-- The events of a fought round are published, and nobody has acked it. -/
structure Published (round : Nat) (events : List CombatEvent) (s : Store) : Prop where
  due : Due round s events
  unacked : s.combatDone.get s.now = none
  distinct : s.hash.player1Id ≠ s.hash.player2Id

/-- The acks one player sends, some time apart. -/
def acks (matchId : String) (host : Host) (round : Nat) (userId : String) (s : Store)
    (waits : List Nat) : Store :=
  waits.foldl (fun s wait => serve matchId host s (wait, .action userId round .combatDone)) s

/-- However often `first` acks, when `second` acks for the first time, within
the deadline, the script counts two and the round is resolved. -/
def Counts (matchId : String) (host : Host) (round : Nat) (events : List CombatEvent) (s : Store)
    (first second : String) : Prop :=
  ∀ (waits : List Nat) (wait : Nat), waits ≠ [] → waits.sum + wait ≤ deadline host events →
    (act host (.combatDone second) (elapse wait (acks matchId host round first s waits))).1 = (2 : Nat) ∧
    ((serve matchId host (acks matchId host round first s waits)
        (wait, .action second round .combatDone)).hash.phase = some .resolved ∨
      (serve matchId host (acks matchId host round first s waits)
        (wait, .action second round .combatDone)).hash.phase = some .finished)

/-- Acks count in either order. -/
def AcksCount (matchId : String) (host : Host) (round : Nat) (events : List CombatEvent)
    (s : Store) : Prop :=
  Counts matchId host round events s s.hash.player1Id s.hash.player2Id ∧
    Counts matchId host round events s s.hash.player2Id s.hash.player1Id

section
variable {matchId : String} {host : Host} {round : Nat} {events : List CombatEvent} {s s' s₀ : Store}
  {userId first second : String} {limit : Nat}

/-! ## A battle publishes its events -/

/-- Every log has a verdict. -/
theorem runCycles_verdict (localeCompare : String → String → Int) (initSide : Side)
    (cycles : List Nat) (sim : BattleSim) :
    ∃ e ∈ runCycles localeCompare initSide cycles sim, ∃ cycle winner, e.kind = .battleEnd cycle winner := by
  induction cycles generalizing sim with
  | nil => exact ⟨_, List.mem_singleton_self _, _, _, rfl⟩
  | cons cycle cycles ih =>
    simp only [runCycles]
    split
    · exact ⟨_, List.mem_append_right _ (.tail _ (.head _)), _, _, rfl⟩
    · obtain ⟨e, he, hkind⟩ := ih (runTicks localeCompare initSide cycle
        (List.range' 1 TICKS_PER_CYCLE) sim).1
      exact ⟨e, List.mem_append_right _ (.tail _ he), hkind⟩

theorem battleWinner_ne_none {e : CombatEvent} {cycle : Nat} {winner : Option Side} (he : e ∈ events)
    (hkind : e.kind = .battleEnd cycle winner) : battleWinner events ≠ none := by
  intro hnone
  have := List.findSome?_eq_none_iff.1 hnone e (List.mem_reverse.2 he)
  rw [hkind] at this
  cases this

theorem runBattle_verdict (localeCompare : String → String → Int) (battle : BattleState) :
    battleWinner (runBattle localeCompare battle) ≠ none := by
  obtain ⟨e, he, cycle, winner, hkind⟩ := runCycles_verdict localeCompare (initSideOf battle)
    (List.range' 1 MAX_CYCLES) (cloneSim battle)
  exact battleWinner_ne_none he hkind

theorem Published.of_eq (h : Published round events s) (hruntime : s'.runtime = s.runtime)
    (hnow : s'.now = s.now) (hresult : s'.combatResult = s.combatResult)
    (hacks : s'.combatDone = s.combatDone) : Published round events s' := by
  have hhash : s'.hash = s.hash := by rw [Store.hash, hruntime, hnow]; rfl
  obtain ⟨⟨h1, h2, h3, h4, h5⟩, h6, h7⟩ := h
  rw [← hhash] at h1 h2 h3 h7
  rw [← hnow, ← hresult] at h4
  rw [← hnow, ← hacks] at h6
  exact ⟨⟨h1, h2, h3, h4, h5⟩, h6, h7⟩

/-- The result of a battle is cached for longer than its deadline. -/
theorem deadline_le_ttl (host : Host) (events : List CombatEvent) :
    deadline host events ≤ combatResultTtlSeconds (deadline host events) * 1000 := by
  unfold combatResultTtlSeconds
  omega

theorem schedule_keeps (job : Job) (delayMs : Nat) (s : Store) :
    (schedule job delayMs s).runtime = s.runtime ∧ (schedule job delayMs s).now = s.now ∧
      (schedule job delayMs s).combatResult = s.combatResult ∧
      (schedule job delayMs s).combatDone = s.combatDone := by
  unfold schedule
  split <;> exact ⟨rfl, rfl, rfl, rfl⟩

/-- The store a fought battle leaves, before it is announced. -/
def withResult (host : Host) (round : Nat) (events : List CombatEvent) (s : Store) : Store :=
  Store.hset { s with
    combatDone := {}
    combatResult := Key.setEx s.now (combatResultTtlSeconds (deadline host events) * 1000) events
    row := { s.row with rounds := saveRoundEvents round events s.row.rounds } }
    [.combatRound (some round)]

theorem withResult_published {runtime : MatchRuntimeState} (ended : battleWinner events ≠ none)
    (hparse : parseRuntimeHash matchId s.hash = some runtime) (hphase : runtime.phase = .battle)
    (hne : runtime.player1Id ≠ runtime.player2Id) :
    Published runtime.round events (withResult host runtime.round events s) := by
  obtain ⟨hstored, hround, -⟩ := parse_fields hparse
  obtain ⟨hp1, hp2⟩ := parse_ids hparse
  have hhash : (withResult host runtime.round events s).hash =
      { s.hash with combatRound := some runtime.round } := hash_hset _ _
  refine ⟨⟨?_, ?_, ?_, Key.get_setEx _ _ _, ended⟩, rfl, ?_⟩
  · rw [hhash]
    exact hstored.trans (congrArg some hphase)
  · rw [hhash]
    exact hround
  · rw [hhash]
    exact positiveInt_eq.2 ⟨rfl, parse_round_pos hparse⟩
  · rw [hhash]
    exact hp1 ▸ hp2 ▸ hne

/-- **A battle that is fought alone publishes its events** and caches them past
its deadline. -/
theorem fightRound_publishes {runtime : MatchRuntimeState} {battle : BattleState}
    (hparse : parseRuntimeHash matchId s.hash = some runtime) (hphase : runtime.phase = .battle)
    (hnew : runtime.combatRound ≠ some runtime.round) (hbattle : battleOf host runtime = .ok battle)
    (hne : runtime.player1Id ≠ runtime.player2Id) :
    (fightRound matchId host runtime.round).wp (act host) (fun _ s' =>
      Published runtime.round (runBattle host.localeCompare battle) s' ∧
      s'.combatResult.get (s'.now + deadline host (runBattle host.localeCompare battle)) ≠ none) s := by
  refine wp_call.2 ?_
  rw [hgetall_reply, hparse]
  show Prog.wp (act host) _ (if (runtime.phase != .battle || runtime.round != runtime.round ||
    runtime.combatRound == some runtime.round) = true then _ else _) s
  rw [if_neg (by simp [hphase, hnew])]
  refine wp_call.2 ?_
  dsimp only
  rw [hbattle]
  refine wp_call.2 (wp_call.2 ?_)
  have hreread : (act host .hgetall (act host (.runBattle runtime.round battle)
      (act host .delCombatKeys s).2).2).1 = s.hash := rfl
  rw [hreread, hparse]
  show Prog.wp (act host) _ (if (runtime.phase != .battle || runtime.round != runtime.round) = true
    then _ else _) _
  rw [if_neg (by simp [hphase])]
  refine wp_call.2 (wp_call.2 (wp_call.2 ?_))
  show Prog.wp (act host) _ _
    (withResult host runtime.round (runBattle host.localeCompare battle) s)
  refine wp_call.2 (wp_call.2 ?_)
  show Published _ _ (schedule _ _ _) ∧
    Key.get ((schedule _ _ _).now + _) (schedule _ _ _).combatResult ≠ none
  have hpublished : Published runtime.round (runBattle host.localeCompare battle)
      (withResult host runtime.round (runBattle host.localeCompare battle) s) :=
    withResult_published (runBattle_verdict _ battle) hparse hphase hne
  refine ⟨hpublished.of_eq (schedule_keeps _ _ _).1 (schedule_keeps _ _ _).2.1
    (schedule_keeps _ _ _).2.2.1 (schedule_keeps _ _ _).2.2.2, ?_⟩
  rw [(schedule_keeps _ _ _).2.1, (schedule_keeps _ _ _).2.2.1]
  show Key.get (s.now + deadline host _) (Key.setEx s.now _ _) ≠ none
  rw [Key.get_setEx_later, if_pos (Nat.add_le_add_left (deadline_le_ttl host _) _)]
  exact Option.some_ne_none _
/-! ## One ack -/

theorem runtime_of_phase {phase : MatchPhase} (h : s.hash.phase = some phase) :
    s.runtime.get s.now ≠ none := by
  intro hnone
  rw [Store.hash, hnone] at h
  cases h

theorem hydrate_combatDone (s : Store) : (hydrate s).combatDone = s.combatDone := by
  unfold hydrate
  split <;> rfl

/-- Looking names up does not change how long the match is stored. -/
theorem hydrate_readable {later : Nat} (h : s.runtime.get s.now ≠ none) :
    (hydrate s).runtime.get later = none ↔ s.runtime.get later = none := by
  unfold hydrate
  split
  · simp [Store.hset, Key.get_modify_later later _ _ h]
  · rfl

theorem Alike.due (h : Alike s s') : Due round s' events ↔ Due round s events := by
  obtain ⟨⟨a, b, hhash⟩, hnow, -, hcached⟩ := h
  constructor
  · rintro ⟨h1, h2, h3, h4, h5⟩
    rw [hhash] at h1 h2 h3
    rw [hcached, hnow] at h4
    exact ⟨h1, h2, h3, h4, h5⟩
  · rintro ⟨h1, h2, h3, h4, h5⟩
    refine ⟨?_, ?_, ?_, ?_, h5⟩
    · rw [hhash]
      exact h1
    · rw [hhash]
      exact h2
    · rw [hhash]
      exact h3
    · rw [hcached, hnow]
      exact h4

theorem evalCombatDone_runtime (userId : String) (s : Store) : (evalCombatDone userId s).2.runtime = s.runtime := by
  unfold evalCombatDone
  dsimp only
  split <;> rfl

/-- An ack that finds none. -/
theorem evalCombatDone_new (h : s.combatDone.get s.now = none) : evalCombatDone userId s =
    (1, { s with combatDone := Key.setEx s.now 90000 [userId] }) := by
  simp [evalCombatDone, h]

theorem combatDone_alike (host : Host) (userId : String) (s : Store) : Alike s (evalCombatDone userId (hydrate s)).2 :=
  (hydrate_alike s).trans (Quiet.alike (c := .combatDone userId) trivial host _)

/-- An ack of a round that is not due, or of nobody's, changes no phase. -/
theorem handleCombatDone_idle (matchId : String) (host : Host) (userId : String)
    (h : ∀ events, ¬ Due round s events) :
    (handleCombatDone matchId userId round).wp (act host) (fun _ s' => Alike s s') s := by
  refine Prog.wp_bind.2 (requireActionPhase_reads (fun _ _ hs => hs) ?_)
  intro runtime s₁ hs₁ _ _ _
  refine wp_quiet (sideFor_quiet _ _) (fun _ s₂ hs₂ => ?_) fun _ _ hs => hs₁.trans hs
  refine wp_quiet (quiet_call trivial) (fun count s₃ hs₃ => ?_) fun _ _ hs => hs₁.trans (hs₂.trans hs)
  have hs := hs₁.trans (hs₂.trans hs₃)
  show Prog.wp (act host) _ (if count ≥ 2 then _ else _) s₃
  split
  · refine Prog.wp_bind.2 (applyDamageAndAdvance_wp (fun _ o s' hs' => ?_) fun _ events' _ hdue => ?_)
    · cases o <;> exact hs.trans hs'
    · exact absurd (hs.due.1 hdue) (h events')
  · exact hs

/-- An ack of a fought round is counted; the second resolves the round. -/
theorem handleCombatDone_wp {Q : Except Err Nat → Store → Prop} (hdue : Due round s events)
    (huser : userId = s.hash.player1Id ∨ userId = s.hash.player2Id)
    (hone : (evalCombatDone userId (hydrate s)).1 < 2 → ∀ o, Q o (evalCombatDone userId (hydrate s)).2)
    (htwo : 2 ≤ (evalCombatDone userId (hydrate s)).1 →
      (applyDamageAndAdvance matchId round).wp (act host) (fun _ s' => ∀ o, Q o s')
        (evalCombatDone userId (hydrate s)).2) :
    (handleCombatDone matchId userId round).wp (act host) Q s := by
  obtain ⟨runtime, hparse⟩ := Option.ne_none_iff_exists'.1 (hdue.parses matchId)
  obtain ⟨hphase, hround, -⟩ := parse_fields hparse
  obtain ⟨hp1, hp2⟩ := parse_ids hparse
  have hphase : runtime.phase = .battle := Option.some.inj (hphase.symm.trans hdue.inBattle)
  have hround : runtime.round = round := Option.some.inj (hround.symm.trans hdue.ofRound)
  refine Prog.wp_bind.2 (Prog.wp_bind.2 (Prog.wp_bind.2 (findRuntime_wp hparse fun a b => ?_)))
  show Prog.wp (act host) _ (if runtime.round ≠ round then _ else if runtime.phase ≠ .battle then _ else _)
    (hydrate s)
  rw [if_neg (not_not.2 hround), if_neg (not_not.2 hphase)]
  refine Prog.wp_bind.2 ?_
  show Prog.wp (act host) _ (if runtime.player1Id = userId then _ else
    if runtime.player2Id = userId then _ else _) (hydrate s)
  have hcount : Prog.wp (act host) Q ((call (.combatDone userId)).bind fun count => if count ≥ 2 then
      (applyDamageAndAdvance matchId round).bind fun _ => pure count else pure count) (hydrate s) := by
    refine wp_call.2 ?_
    show Prog.wp (act host) Q (if (evalCombatDone userId (hydrate s)).1 ≥ 2 then _ else _)
      (evalCombatDone userId (hydrate s)).2
    split
    · next hge =>
      refine Prog.wp_bind.2 (Prog.wp_mono (htwo hge) fun o s' h => ?_)
      cases o <;> exact h _
    · next hlt => exact hone (not_le.1 hlt) _
  split
  · exact hcount
  · split
    · exact hcount
    · next h1 h2 =>
      rw [hp1] at h1
      rw [hp2] at h2
      rcases huser with rfl | rfl
      · exact absurd rfl h1
      · exact absurd rfl h2

/-! ## Many acks -/

/-- What one player's acks leave, for as long as the match is stored: the
round is still due, and the first ack is either counted or not sent yet. -/
structure Waiting (s₀ : Store) (first : String) (limit : Nat) (s : Store) : Prop where
  hash : ∃ a b, s.hash = { s₀.hash with player1Name := a, player2Name := b }
  readable : s.runtime.get limit ≠ none
  cached : s.combatResult = s₀.combatResult
  since : s₀.now ≤ s.now
  acked : s.combatDone.get s.now = none ∨ ∃ t, s₀.now ≤ t ∧ s.combatDone = Key.setEx t 90000 [first]

/-- The first ack is sent. -/
def Sent (s₀ : Store) (first : String) (s : Store) : Prop :=
  ∃ t, s₀.now ≤ t ∧ s.combatDone = Key.setEx t 90000 [first]

theorem Waiting.elapse (h : Waiting s₀ first limit s) {wait : Nat} (hle : s.now + wait ≤ limit) :
    Waiting s₀ first limit (elapse wait s) := by
  obtain ⟨v, hlimit⟩ := Option.ne_none_iff_exists'.1 h.readable
  have hlater := Key.get_earlier hle hlimit
  have hnow := Key.get_earlier (Nat.le_add_right s.now wait) hlater
  have hhash : (Runtime.elapse wait s).hash = s.hash := by
    show ((s.runtime.get (s.now + wait)).getD {}) = (s.runtime.get s.now).getD {}
    rw [hlater, hnow]
  refine ⟨hhash ▸ h.hash, h.readable, h.cached, h.since.trans (Nat.le_add_right _ _), ?_⟩
  rcases h.acked with hnone | hsent
  · left
    rcases Key.get_later (Nat.le_add_right s.now wait) s.combatDone with heq | hgone
    · exact heq.trans hnone
    · exact hgone
  · exact .inr hsent

/-- The round stays due while the match and its result are stored. -/
theorem Waiting.due (h : Waiting s₀ first limit s) (hdue : Due round s₀ events)
    (hle : s.now ≤ limit) (hcached : s₀.combatResult.get limit ≠ none) : Due round s events := by
  obtain ⟨a, b, hhash⟩ := h.hash
  obtain ⟨v, hlimit⟩ := Option.ne_none_iff_exists'.1 hcached
  have hnow := Key.get_earlier hle hlimit
  obtain rfl : v = events :=
    Option.some.inj ((Key.get_earlier (h.since.trans hle) hlimit).symm.trans hdue.cached)
  refine ⟨?_, ?_, ?_, h.cached ▸ hnow, hdue.ended⟩
  · rw [hhash]
    exact hdue.inBattle
  · rw [hhash]
    exact hdue.ofRound
  · rw [hhash]
    exact hdue.fought

/-- What the script counts for the first player. -/
theorem Waiting.first_ack (h : Waiting s₀ first limit s) :
    (evalCombatDone first (hydrate s)).1 = 1 ∧ Sent s₀ first (evalCombatDone first (hydrate s)).2 := by
  have hnow := (hydrate_alike s).now
  unfold evalCombatDone
  rw [hydrate_combatDone, hnow]
  rcases h.acked with hnone | ⟨t, ht, hsent⟩
  · rw [hnone]
    exact ⟨rfl, s.now, h.since, by simp⟩
  · rw [hsent, Key.get_setEx_later]
    split
    · exact ⟨by simp, t, ht, by simp [hydrate_combatDone, hsent]⟩
    · exact ⟨by simp, s.now, h.since, by simp⟩

/-- An ack that does not complete the round. -/
theorem serve_first_ack {wait : Nat} (hdue : Due round (elapse wait s) events)
    (huser : userId = (elapse wait s).hash.player1Id ∨ userId = (elapse wait s).hash.player2Id)
    (hone : (evalCombatDone userId (hydrate (elapse wait s))).1 = 1) :
    serve matchId host s (wait, .action userId round .combatDone) =
      (evalCombatDone userId (hydrate (elapse wait s))).2 := by
  have hwp : (handleCombatDone matchId userId round).wp (act host)
      (fun _ s' => s' = (evalCombatDone userId (hydrate (elapse wait s))).2) (elapse wait s) := by
    refine handleCombatDone_wp hdue huser (fun _ _ => rfl) fun hge => ?_
    rw [hone] at hge
    omega
  exact Prog.wp_iff.1 (wp_drop hwp)

/-- One more ack of the first player. -/
theorem Waiting.serve (matchId : String) (host : Host) (h : Waiting s₀ first limit s) (hdue : Due round s₀ events)
    (hfirst : first = s₀.hash.player1Id ∨ first = s₀.hash.player2Id) {wait : Nat}
    (hle : s.now + wait ≤ limit) (hcached : s₀.combatResult.get limit ≠ none) :
    Waiting s₀ first limit (serve matchId host s (wait, .action first round .combatDone)) ∧
      Sent s₀ first (Runtime.serve matchId host s (wait, .action first round .combatDone)) ∧
      (Runtime.serve matchId host s (wait, .action first round .combatDone)).now = s.now + wait := by
  have hw := h.elapse hle
  have hdue' := hw.due hdue hle hcached
  obtain ⟨hone, hsent⟩ := hw.first_ack
  have halike := combatDone_alike host first (Runtime.elapse wait s)
  obtain ⟨a, b, hhash⟩ := hw.hash
  have huser : first = (Runtime.elapse wait s).hash.player1Id ∨
      first = (Runtime.elapse wait s).hash.player2Id := by
    rw [hhash]
    exact hfirst
  rw [serve_first_ack hdue' huser hone]
  refine ⟨⟨?_, ?_, halike.combatResult.trans hw.cached, ?_, .inr hsent⟩, hsent, halike.now⟩
  · obtain ⟨a', b', hhash'⟩ := halike.hash
    exact ⟨a', b', by rw [hhash', hhash]⟩
  · rw [evalCombatDone_runtime, Ne, hydrate_readable (runtime_of_phase hdue'.inBattle)]
    exact hw.readable
  · rw [halike.now]
    exact hw.since

/-- All acks of the first player. -/
theorem acks_waiting (matchId : String) (host : Host) (hdue : Due round s₀ events)
    (hfirst : first = s₀.hash.player1Id ∨ first = s₀.hash.player2Id)
    (hcached : s₀.combatResult.get limit ≠ none) {waits : List Nat}
    (h : Waiting s₀ first limit s) (hle : s.now + waits.sum ≤ limit)
    (hsent : waits = [] → Sent s₀ first s) :
    Waiting s₀ first limit (acks matchId host round first s waits) ∧
      Sent s₀ first (acks matchId host round first s waits) ∧
      (acks matchId host round first s waits).now = s.now + waits.sum := by
  induction waits generalizing s with
  | nil => exact ⟨h, hsent rfl, rfl⟩
  | cons wait waits ih =>
    rw [List.sum_cons] at hle ⊢
    have hle₁ : s.now + wait ≤ limit := by omega
    obtain ⟨hw, hs, hnow⟩ := h.serve matchId host hdue hfirst hle₁ hcached
    obtain ⟨hw', hs', hnow'⟩ := ih hw (by omega) fun _ => hs
    exact ⟨hw', hs', by rw [← Nat.add_assoc, ← hnow]; exact hnow'⟩

theorem Published.waiting (h : Published round events s₀) (hreadable : s₀.runtime.get limit ≠ none) :
    Waiting s₀ first limit s₀ :=
  ⟨⟨_, _, rfl⟩, hreadable, rfl, le_rfl, .inl h.unacked⟩

/-- What the script counts for the second player. -/
theorem second_ack {t : Nat} (hsent : s.combatDone = Key.setEx t 90000 [first])
    (hle : s.now ≤ t + 90000) (hne : second ≠ first) : (evalCombatDone second s).1 = 2 := by
  unfold evalCombatDone
  rw [hsent, Key.get_setEx_later, if_pos hle]
  simp [hne]

/-- The second player's ack resolves a round that is due. -/
theorem serve_second_ack {wait : Nat} (hdue : Due round (elapse wait s) events)
    (huser : userId = (elapse wait s).hash.player1Id ∨ userId = (elapse wait s).hash.player2Id)
    (htwo : (evalCombatDone userId (hydrate (elapse wait s))).1 = 2) :
    (serve matchId host s (wait, .action userId round .combatDone)).hash.phase = some .resolved ∨
      (serve matchId host s (wait, .action userId round .combatDone)).hash.phase = some .finished := by
  have hwp : (handleCombatDone matchId userId round).wp (act host) (fun _ s' =>
      s'.hash.phase = some .resolved ∨ s'.hash.phase = some .finished) (elapse wait s) := by
    refine handleCombatDone_wp hdue huser (fun hlt => ?_) fun _ => ?_
    · rw [htwo] at hlt
      omega
    refine applyDamageAndAdvance_wp (fun hidle => ?_) fun _ _ resolution _ _ _ _ s' hs _ => ?_
    · exact absurd ((combatDone_alike host userId (elapse wait s)).due.2 hdue) (hidle events)
    · rw [hs.phase, hash_hset]
      unfold Resolution.fields
      cases resolution.winnerId with
      | some winner => exact .inr rfl
      | none => exact .inl rfl
  exact Prog.wp_iff.1 (wp_drop hwp)

theorem Published.counts (h : Published round events s₀) (hdeadline : deadline host events ≤ 90000)
    (hreadable : s₀.runtime.get (s₀.now + deadline host events) ≠ none)
    (hcached : s₀.combatResult.get (s₀.now + deadline host events) ≠ none)
    (hfirst : first = s₀.hash.player1Id ∨ first = s₀.hash.player2Id)
    (hsecond : second = s₀.hash.player1Id ∨ second = s₀.hash.player2Id) (hne : second ≠ first) :
    Counts matchId host round events s₀ first second := by
  intro waits wait hwaits hle
  have hlast : s₀.now + waits.sum ≤ s₀.now + deadline host events := by omega
  obtain ⟨hw, ⟨t, ht, hsent⟩, hnow⟩ := acks_waiting matchId host h.due hfirst hcached
    (h.waiting hreadable) hlast fun hnil => absurd hnil hwaits
  have hwait : (acks matchId host round first s₀ waits).now + wait ≤ s₀.now + deadline host events := by
    rw [hnow]
    omega
  have hw' := hw.elapse hwait
  have htime : (elapse wait (acks matchId host round first s₀ waits)).now ≤ t + 90000 := by
    show (acks matchId host round first s₀ waits).now + wait ≤ t + 90000
    rw [hnow]
    omega
  refine ⟨second_ack hsent htime hne, serve_second_ack (hw'.due h.due hwait hcached) ?_ ?_⟩
  · obtain ⟨a, b, hhash⟩ := hw'.hash
    rw [hhash]
    exact hsecond
  · refine second_ack ((hydrate_combatDone _).trans hsent) ?_ hne
    rw [(hydrate_alike _).now]
    exact htime

/-! ## When acks count -/

/-- A second ack that resolves the round found it due. -/
theorem due_of_resolved {wait : Nat} (hphase : s.hash.phase = some .battle)
    (h : (serve matchId host s (wait, .action userId round .combatDone)).hash.phase = some .resolved ∨
      (serve matchId host s (wait, .action userId round .combatDone)).hash.phase = some .finished) :
    ∃ events, Due round (elapse wait s) events := by
  by_contra hidle
  have hsame := Prog.wp_iff.1 (wp_drop (handleCombatDone_idle matchId host userId
    (not_exists.1 hidle)))
  have hafter : (serve matchId host s (wait, .action userId round .combatDone)).hash.phase =
      (elapse wait s).hash.phase := hsame.phase
  rw [hafter] at h
  rcases hash_elapse wait s with heq | hgone
  · rw [elapse, heq, hphase] at h
    rcases h with h | h <;> cases h
  · rw [elapse, hgone] at h
    rcases h with h | h <;> cases h

/-- The first ack at once, the second at the deadline. -/
theorem Counts.needs (h : Published round events s)
    (hcounts : Counts matchId host round events s s.hash.player1Id s.hash.player2Id) :
    deadline host events ≤ 90000 ∧ s.runtime.get (s.now + deadline host events) ≠ none ∧
      s.combatResult.get (s.now + deadline host events) ≠ none := by
  have hw : Waiting s s.hash.player1Id s.now (elapse 0 s) :=
    h.waiting (runtime_of_phase h.due.inBattle)
  have hfirst : acks matchId host round s.hash.player1Id s [0] =
      (evalCombatDone s.hash.player1Id (hydrate (elapse 0 s))).2 :=
    serve_first_ack h.due (.inl rfl) hw.first_ack.1
  obtain ⟨hreply, hphase⟩ := hcounts [0] (deadline host events) (by simp) (by simp)
  rw [hfirst] at hreply hphase
  have halike := combatDone_alike host s.hash.player1Id (elapse 0 s)
  have hruntime := evalCombatDone_runtime s.hash.player1Id (hydrate (elapse 0 s))
  have hacks : (evalCombatDone s.hash.player1Id (hydrate (elapse 0 s))).2.combatDone =
      Key.setEx s.now 90000 [s.hash.player1Id] := by
    have hnone : (hydrate (elapse 0 s)).combatDone.get (hydrate (elapse 0 s)).now = none := by
      rw [hydrate_combatDone, (hydrate_alike _).now]
      exact h.unacked
    rw [evalCombatDone_new hnone, (hydrate_alike _).now]
    rfl
  generalize (evalCombatDone s.hash.player1Id (hydrate (elapse 0 s))).2 = s₁
    at hreply hphase halike hruntime hacks
  have hnow : s₁.now = s.now := halike.now
  obtain ⟨events', hdue⟩ := due_of_resolved (halike.phase.trans h.due.inBattle) hphase
  refine ⟨?_, ?_, ?_⟩
  · by_contra hlate
    have hgone : (elapse (deadline host events) s₁).combatDone.get
        (elapse (deadline host events) s₁).now = none := by
      show s₁.combatDone.get (s₁.now + deadline host events) = none
      rw [hacks, hnow, Key.get_setEx_later, if_neg (by omega)]
    change (evalCombatDone s.hash.player2Id (elapse (deadline host events) s₁)).1 = 2 at hreply
    rw [evalCombatDone_new hgone] at hreply
    cases hreply
  · have hlater : s₁.runtime.get (s₁.now + deadline host events) ≠ none :=
      runtime_of_phase hdue.inBattle
    rw [hruntime, hnow] at hlater
    exact fun hgone => hlater ((hydrate_readable (s := elapse 0 s)
      (runtime_of_phase h.due.inBattle)).2 hgone)
  · have hlater : s₁.combatResult.get (s₁.now + deadline host events) = some events' := hdue.cached
    rw [halike.combatResult, hnow] at hlater
    exact Option.ne_none_iff_exists'.2 ⟨events', hlater⟩

/-- **Both acks count, whenever they come before the deadline, exactly when
the deadline is no longer than an ack is kept** and the match and its result
are still stored then. -/
theorem acks_count (h : Published round events s) : AcksCount matchId host round events s ↔
    deadline host events ≤ 90000 ∧ s.runtime.get (s.now + deadline host events) ≠ none ∧
      s.combatResult.get (s.now + deadline host events) ≠ none := by
  constructor
  · rintro ⟨hcounts, -⟩
    exact hcounts.needs h
  · rintro ⟨hdeadline, hreadable, hcached⟩
    exact ⟨h.counts hdeadline hreadable hcached (.inl rfl) (.inr rfl) h.distinct.symm,
      h.counts hdeadline hreadable hcached (.inr rfl) (.inl rfl) h.distinct⟩

end

/-- A stored match that shows it was fought. -/
theorem published_of_stored (host : Host) (round ms : Nat) (s : Store)
    (h : s.hash.phase = some .battle ∧ s.hash.round = some round ∧
      positiveInt s.hash.combatRound = some round ∧ s.hash.player1Id ≠ s.hash.player2Id ∧
      s.combatDone.get s.now = none ∧ (s.combatResult.get s.now).any fun events =>
        battleWinner events ≠ none ∧ deadline host events = ms) :
    ∃ events, Published round events s ∧ deadline host events = ms := by
  obtain ⟨hphase, hround, hfought, hne, hacks, hcached⟩ := h
  obtain ⟨events, hevents, hchecks⟩ := (Option.any_eq_true _ _).1 hcached
  obtain ⟨hended, hdeadline⟩ := of_decide_eq_true hchecks
  exact ⟨events, ⟨⟨hphase, hround, hfought, hevents, hended⟩, hacks, hne⟩, hdeadline⟩

/-- A healer against a fighter, of which 41 events are seen. -/
def duel : Store :=
  [(0, .announce friendly ⟨"one", "two"⟩),
   (10, .action "u1" 1 (.shop (.buy 4) "a")), (10, .action "u1" 1 (.place "u" .board 0 "b")),
   (10, .action "u2" 1 (.shop (.buy 0) "a")), (10, .action "u2" 1 (.place "uuuu" .board 0 "b")),
   (40000, .phaseTimer 1)].foldl (serve "m" plainHost)
    (freshStore friendly ⟨"one", "two"⟩ fun _ => none)

set_option maxRecDepth 100000 in
theorem acks_count_duel : ∃ events, Published 1 events duel ∧ AcksCount "m" plainHost 1 events duel := by
  obtain ⟨events, hpublished, hdeadline⟩ := published_of_stored plainHost 1 60000 duel (by decide +kernel)
  refine ⟨events, hpublished, (acks_count hpublished).2 ?_⟩
  rw [hdeadline]
  exact ⟨by decide +kernel, by decide +kernel, by decide +kernel⟩

/-- Each player buys a healer and puts it on the board: a battle of thirty
cycles. -/
def healers : Store :=
  [(0, .announce friendly ⟨"one", "two"⟩),
   (10, .action "u1" 1 (.shop (.buy 4) "a")), (10, .action "u1" 1 (.place "u" .board 0 "b")),
   (10, .action "u2" 1 (.shop (.buy 4) "a")), (10, .action "u2" 1 (.place "uuuu" .board 0 "b")),
   (40000, .phaseTimer 1)].foldl (serve "m" plainHost)
    (freshStore friendly ⟨"one", "two"⟩ fun _ => none)

theorem acks_lost :
    ∃ events, Published 1 events healers ∧ ¬ AcksCount "m" plainHost 1 events healers := by
  obtain ⟨events, hpublished, hdeadline⟩ := published_of_stored plainHost 1 196200 healers
    (by decide +kernel)
  refine ⟨events, hpublished, fun hcounts => ?_⟩
  have hle := (hcounts.1.needs hpublished).1
  rw [hdeadline] at hle
  omega

end AutoChess.Runtime
