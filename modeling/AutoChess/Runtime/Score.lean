/-
How long a match can last. Whatever outcomes its battles have, the players'
HP and wipe indices depend only on how many ties and wipes there were
(`Score.foldl_after`), and one of the two players runs out of HP
(`match_ends`).
-/
import AutoChess.Runtime.Ledger
import Mathlib.Algebra.BigOperators.Intervals

namespace AutoChess.Runtime

open AutoChess.Game AutoChess.Shop Calls Expiring

/-! ## Scores -/

/-- What the rounds of a match change for good. -/
structure Score where
  p1Hp : Int
  p2Hp : Int
  wipeIndexP1 : Nat
  wipeIndexP2 : Nat
  deriving DecidableEq, Repr

def RuntimeHash.score (h : RuntimeHash) : Score :=
  ⟨h.p1State.hp, h.p2State.hp, h.wipeIndexP1, h.wipeIndexP2⟩

/-- The score after one more battle. -/
def Score.after (score : Score) (winner : Option Side) : Score :=
  let damage := damageFor winner score.wipeIndexP1 score.wipeIndexP2
  { p1Hp := max 0 (score.p1Hp - damage.p1)
    p2Hp := max 0 (score.p2Hp - damage.p2)
    wipeIndexP1 := damage.wipeIndexP1
    wipeIndexP2 := damage.wipeIndexP2 }

/-- Both players are alive. -/
def Score.Alive (score : Score) : Prop := 0 < score.p1Hp ∧ 0 < score.p2Hp

instance (score : Score) : Decidable score.Alive := inferInstanceAs (Decidable (_ ∧ _))

/-- What `k` lost battles cost. -/
def wipeDamage (k : Nat) : Nat := ∑ i ∈ Finset.Icc 1 k, 5 * min i 5

/-- The score after `t` ties and that many wipes of each player. -/
def Score.tallied (h1 h2 : Int) (t k1 k2 : Nat) : Score :=
  { p1Hp := max 0 (h1 - 5 * t - wipeDamage k1)
    p2Hp := max 0 (h2 - 5 * t - wipeDamage k2)
    wipeIndexP1 := min k1 5
    wipeIndexP2 := min k2 5 }

/-- `⌈h / 5⌉`. -/
def ceilFifth (h : Int) : Nat := ((h + 4) / 5).toNat

@[simp] theorem wipeDamage_zero : wipeDamage 0 = 0 := rfl

theorem wipeDamage_succ (k : Nat) : wipeDamage (k + 1) = wipeDamage k + 5 * min (k + 1) 5 :=
  Finset.sum_Icc_succ_top (Nat.le_add_left 1 k) _

/-- Every wipe costs five HP or more, and from the second on ten. -/
theorem wipeDamage_ge (k : Nat) : 5 * k ≤ wipeDamage k ∧ 10 * k ≤ wipeDamage k + 5 := by
  induction k with
  | zero => simp
  | succ k ih =>
    rw [wipeDamage_succ]
    rcases k with _ | k
    · simp
    · omega

theorem wipeDamage_mono {k k' : Nat} (h : k ≤ k') : wipeDamage k ≤ wipeDamage k' := by
  induction h with
  | refl => exact le_rfl
  | step _ ih =>
    rw [wipeDamage_succ]
    omega

section
variable {h1 h2 : Int} {t k1 k2 : Nat}

theorem hit_hit (hp : Int) (damage : Nat) : max 0 (max 0 hp - damage) = max 0 (hp - damage) := by omega

theorem Score.tallied_tie : (Score.tallied h1 h2 t k1 k2).after none =
    Score.tallied h1 h2 (t + 1) k1 k2 := by
  simp only [Score.after, Score.tallied, damageFor, TIE_DAMAGE, hit_hit, Score.mk.injEq]
  refine ⟨congrArg (max 0) ?_, congrArg (max 0) ?_, trivial, trivial⟩ <;> omega

theorem Score.tallied_p1 : (Score.tallied h1 h2 t k1 k2).after (some .p1) =
    Score.tallied h1 h2 t k1 (k2 + 1) := by
  simp only [Score.after, Score.tallied, damageFor, hit_hit, wipeDamage_succ, Score.mk.injEq]
  refine ⟨congrArg (max 0) ?_, congrArg (max 0) ?_, trivial, ?_⟩ <;> omega

theorem Score.tallied_p2 : (Score.tallied h1 h2 t k1 k2).after (some .p2) =
    Score.tallied h1 h2 t (k1 + 1) k2 := by
  simp only [Score.after, Score.tallied, damageFor, hit_hit, wipeDamage_succ, Score.mk.injEq]
  refine ⟨congrArg (max 0) ?_, congrArg (max 0) ?_, ?_, trivial⟩ <;> omega

/-- The score a list of outcomes leads to. -/
def Score.of (h1 h2 : Int) (winners : List (Option Side)) : Score :=
  .tallied h1 h2 (winners.count none) (winners.count (some .p2)) (winners.count (some .p1))

/-- **The order of the outcomes does not matter.** -/
theorem Score.foldl_after (h1 h2 : Int) (hpos : 0 ≤ h1 ∧ 0 ≤ h2) (winners : List (Option Side)) :
    winners.foldl Score.after ⟨h1, h2, 0, 0⟩ = .of h1 h2 winners := by
  induction winners using List.reverseRecOn with
  | nil => simp [Score.of, Score.tallied, hpos.1, hpos.2]
  | append_singleton winners winner ih =>
    rw [List.foldl_append, ih]
    simp only [List.foldl_cons, List.foldl_nil, Score.of, List.count_append]
    rcases winner with _ | _ | _
    · exact Score.tallied_tie
    · exact Score.tallied_p1
    · exact Score.tallied_p2

theorem length_outcomes (winners : List (Option Side)) : winners.length =
    winners.count none + winners.count (some .p1) + winners.count (some .p2) := by
  induction winners with
  | nil => rfl
  | cons winner winners ih =>
    rw [List.length_cons, ih]
    rcases winner with _ | _ | _ <;> simp <;> omega

/-- While both players live, few rounds have been played. -/
theorem Score.alive_length {winners : List (Option Side)} (h : (Score.of h1 h2 winners).Alive) :
    winners.length + 2 ≤ ceilFifth h1 + ceilFifth h2 ∧
      (h1 = 100 → h2 = 100 → winners.length ≤ 20) := by
  obtain ⟨h1alive, h2alive⟩ := h
  simp only [Score.of, Score.tallied] at h1alive h2alive
  have hk1 := wipeDamage_ge (winners.count (some .p2))
  have hk2 := wipeDamage_ge (winners.count (some .p1))
  have hlength := length_outcomes winners
  unfold ceilFifth
  omega

theorem Score.of_nonneg (h1 h2 : Int) (winners : List (Option Side)) :
    0 ≤ (Score.of h1 h2 winners).p1Hp ∧ 0 ≤ (Score.of h1 h2 winners).p2Hp :=
  ⟨le_max_left _ _, le_max_left _ _⟩

/-- More rounds leave no more HP. -/
theorem Score.of_append_le (h1 h2 : Int) (winners more : List (Option Side)) :
    (Score.of h1 h2 (winners ++ more)).p1Hp ≤ (Score.of h1 h2 winners).p1Hp ∧
      (Score.of h1 h2 (winners ++ more)).p2Hp ≤ (Score.of h1 h2 winners).p2Hp := by
  simp only [Score.of, Score.tallied, List.count_append]
  have hk1 := wipeDamage_mono (Nat.le_add_right (winners.count (some .p2)) (more.count (some .p2)))
  have hk2 := wipeDamage_mono (Nat.le_add_right (winners.count (some .p1)) (more.count (some .p1)))
  constructor <;> refine max_le_max le_rfl ?_ <;> omega

end

/-! ## The rounds of a match -/

/-- What happens between two rounds: the score stays while the match is
stored, and a match that is over stays over. -/
structure Idle (s s' : Store) : Prop where
  stored : s'.hash.phase ≠ none → s.hash.phase ≠ none
  score : s'.hash.phase ≠ none → s'.hash.score = s.hash.score
  closed : stage s.hash = ⊤ → stage s'.hash = ⊤

/-- The match from `s` on, with the outcomes of the battles it resolved. -/
inductive Fed (matchId : String) (host : Host) (s : Store) : List (Option Side) → Store → Prop where
  | start : Fed matchId host s [] s
  | idle {winners : List (Option Side)} {s₁ s₂ : Store} (h : Fed matchId host s winners s₁)
      (hidle : Idle s₁ s₂) : Fed matchId host s winners s₂
  | round {winners : List (Option Side)} {winner : Option Side} {s₁ : Store} {round : Nat}
      {events : List CombatEvent} (h : Fed matchId host s winners s₁) (hdue : Due round s₁ events)
      (hwinner : battleWinner events = some winner) :
      Fed matchId host s (winners ++ [winner]) (resolve matchId host round s₁)

/-- The winner a resolution names, by the HP it leaves. -/
structure Verdict (player1Id player2Id : String) (score : Score) (winnerId : Option (Option String)) :
    Prop where
  lasts : score.Alive → winnerId = none
  draw : score.p1Hp = 0 → score.p2Hp = 0 → winnerId = some none
  p1 : 0 < score.p1Hp → score.p2Hp = 0 → winnerId = some (some player1Id)
  p2 : score.p1Hp = 0 → 0 < score.p2Hp → winnerId = some (some player2Id)

/-- The match's row is open, and for players who still exist. -/
structure OpenRow (s : Store) : Prop where
  inProgress : s.row.status = .in_progress
  player1 : s.row.player1Id = s.hash.player1Id
  player2 : s.row.player2Id = s.hash.player2Id
  known1 : (s.users s.row.player1Id).isSome
  known2 : (s.users s.row.player2Id).isSome

/-- What is known of a match that started with `h1` and `h2` HP once its
battles had these outcomes. -/
structure Settled (matchId : String) (host : Host) (h1 h2 : Int) (winners : List (Option Side)) (s : Store) :
    Prop where
  /-- HP and wipe indices in closed form. -/
  score : s.hash.phase ≠ none → s.hash.score = .of h1 h2 winners
  /-- HP never increases. -/
  falls : ∀ more s', Fed matchId host s more s' → s'.hash.phase ≠ none →
    s'.hash.score.p1Hp ≤ s.hash.score.p1Hp ∧ s'.hash.score.p2Hp ≤ s.hash.score.p2Hp
  /-- While both players live, fewer than `⌈h1 / 5⌉ + ⌈h2 / 5⌉ - 1` rounds
  were played. -/
  alive : s.hash.phase ≠ none → s.hash.score.Alive →
    winners.length + 1 < ceilFifth h1 + ceilFifth h2 ∧ (h1 = 100 → h2 = 100 → winners.length < 21)
  /-- No match has more rounds. -/
  rounds : winners.length + 1 ≤ ceilFifth h1 + ceilFifth h2 ∧ (h1 = 100 → h2 = 100 → winners.length ≤ 21)
  /-- A round that leaves a player without HP is the last. -/
  closed : ∀ round events, Due round s events → ¬ (resolve matchId host round s).hash.score.Alive →
    stage (resolve matchId host round s).hash = ⊤
  /-- The next round names the winner, if there is one, and closes the row. -/
  verdict : ∀ round events runtime resolution, Due round s events → ReadAs matchId s.hash runtime →
    resolveRound runtime round events = some resolution →
      Verdict s.hash.player1Id s.hash.player2Id (resolve matchId host round s).hash.score
        resolution.winnerId ∧
      (OpenRow s →
        (resolution.winnerId = none → (resolve matchId host round s).row.status = .in_progress) ∧
        ∀ winnerId, resolution.winnerId = some winnerId →
          (resolve matchId host round s).row.status = .finished ∧
          (resolve matchId host round s).row.winnerId = winnerId)

section
variable {matchId : String} {host : Host} {s s' s'' : Store} {runtime : MatchRuntimeState} {round : Nat}
  {events : List CombatEvent} {resolution : Resolution} {winner : Option Side}

theorem Alike.score (h : Alike s s') : s'.hash.score = s.hash.score := by
  obtain ⟨⟨a, b, h⟩, -, -, -⟩ := h
  rw [h]
  rfl

theorem Alike.stage (h : Alike s s') : stage s'.hash = stage s.hash := by
  obtain ⟨⟨a, b, h⟩, -, -, -⟩ := h
  rw [h]
  rfl

theorem Alike.idle (h : Alike s s') : Idle s s' where
  stored hsome := h.phase ▸ hsome
  score _ := h.score
  closed hover := h.stage.trans hover

theorem Idle.trans (h : Idle s s') (h' : Idle s' s'') : Idle s s'' where
  stored := h.stored ∘ h'.stored
  score hsome := (h'.score hsome).trans (h.score (h'.stored hsome))
  closed := h'.closed ∘ h.closed

theorem elapse_idle (ms : Nat) (s : Store) : Idle s (elapse ms s) := by
  rcases hash_elapse ms s with h | h
  · have hhash : (elapse ms s).hash = s.hash := h
    exact ⟨fun hsome => hhash ▸ hsome, fun _ => by rw [hhash], fun hover => hhash ▸ hover⟩
  · have hhash : (elapse ms s).hash = {} := h
    exact ⟨fun hsome => absurd (by rw [hhash]) hsome, fun hsome => absurd (by rw [hhash]) hsome,
      fun _ => by rw [hhash]; rfl⟩

/-! ## One round -/

/-- What is read of the score, once HP is not negative. -/
theorem ReadAs.score (h : ReadAs matchId s.hash runtime) (hp1 : 0 ≤ s.hash.score.p1Hp)
    (hp2 : 0 ≤ s.hash.score.p2Hp) : runtime.p1State.hp = s.hash.score.p1Hp ∧
      runtime.p2State.hp = s.hash.score.p2Hp ∧ runtime.wipeIndexP1 = s.hash.score.wipeIndexP1 ∧
      runtime.wipeIndexP2 = s.hash.score.wipeIndexP2 := by
  obtain ⟨a, b, h⟩ := h
  simp only [parseRuntimeHash, Option.bind_eq_bind, Option.bind_eq_some_iff, Option.pure_def,
    Option.some.injEq] at h
  obtain ⟨phase, -, round, -, heq⟩ := h
  injection heq with _ _ _ _ _ _ _ _ hstate1 hstate2 _ _ hindex1 hindex2
  exact ⟨hstate1 ▸ if_pos hp1, hstate2 ▸ if_pos hp2, hindex1.symm, hindex2.symm⟩

theorem fields_score (h : RuntimeHash) : (h.hset (flipFields .resolved none ++ resolution.fields round)).score =
    ⟨resolution.p1.hp, resolution.p2.hp, resolution.damage.wipeIndexP1, resolution.damage.wipeIndexP2⟩ := by
  unfold Resolution.fields
  cases resolution.winnerId <;> rfl

theorem fields_phase (h : RuntimeHash) : (h.hset (flipFields .resolved none ++ resolution.fields round)).phase =
    if resolution.winnerId = none then some .resolved else some .finished := by
  unfold Resolution.fields
  cases resolution.winnerId <;> rfl

/-- A resolution takes the score it read to the next one. -/
theorem resolveRound_score (hres : resolveRound runtime round events = some resolution)
    (hwinner : battleWinner events = some winner) :
    (⟨resolution.p1.hp, resolution.p2.hp, resolution.damage.wipeIndexP1, resolution.damage.wipeIndexP2⟩ : Score) =
      Score.after ⟨runtime.p1State.hp, runtime.p2State.hp, runtime.wipeIndexP1, runtime.wipeIndexP2⟩ winner ∧
    resolution.winnerId = knockout runtime resolution.p1.hp resolution.p2.hp := by
  rw [resolveRound, hwinner] at hres
  cases hres
  exact ⟨rfl, rfl⟩

/-- **A round that is due takes the score on**, and ends the match if a player
has no HP left. -/
theorem resolve_score (hdue : Due round s events) (hwinner : battleWinner events = some winner)
    (hp1 : 0 ≤ s.hash.score.p1Hp) (hp2 : 0 ≤ s.hash.score.p2Hp) :
    (resolve matchId host round s).hash.score = s.hash.score.after winner ∧
      (stage (resolve matchId host round s).hash ≠ ⊤ → (s.hash.score.after winner).Alive) := by
  refine Prog.wp_iff.1 (applyDamageAndAdvance_wp (Q := fun _ s' => s'.hash.score = s.hash.score.after winner ∧
    (stage s'.hash ≠ ⊤ → (s.hash.score.after winner).Alive)) (fun hskip => (hskip events hdue).elim) ?_)
  intro runtime events' resolution hdue' hread hres o s' hs
  obtain rfl : events' = events := Option.some.inj (hdue'.cached.symm.trans hdue.cached)
  obtain ⟨hscore, hknockout⟩ := resolveRound_score hres hwinner
  obtain ⟨h1, h2, h3, h4⟩ := hread.score hp1 hp2
  rw [h1, h2, h3, h4] at hscore
  have hafter : s'.hash.score = s.hash.score.after winner := by
    rw [hs.score, hash_hset, fields_score, hscore]
  refine ⟨hafter, fun hlasts => ?_⟩
  have hlive : resolution.winnerId = none := by
    by_contra hover
    have hphase := hs.phase
    rw [hash_hset, fields_phase, if_neg hover] at hphase
    exact hlasts (stage_finished hphase)
  rw [← hscore]
  rw [hknockout] at hlive
  unfold knockout at hlive
  unfold Score.Alive
  grind

/-- What a round resolves to depends on what is stored, not on who reads it. -/
theorem ReadAs.resolveRound_eq {hash : RuntimeHash} {runtime' : MatchRuntimeState}
    (h : ReadAs matchId hash runtime) (h' : ReadAs matchId hash runtime') :
    resolveRound runtime round events = resolveRound runtime' round events := by
  obtain ⟨a, b, h⟩ := h
  obtain ⟨a', b', h'⟩ := h'
  have hsame := congrArg (fun runtime => resolveRound runtime round events)
    (Option.some.inj (h.symm.trans h'))
  exact hsame

/-- A round that is due, by what its resolution does. -/
theorem resolve_wp {Q : Store → Prop} (hdue : Due round s events) (hread : ReadAs matchId s.hash runtime)
    (hres : resolveRound runtime round events = some resolution)
    (hQ : ∀ runtime', ReadAs matchId s.hash runtime' → (storeResolution runtime' round resolution).wp
      (act host) (fun _ s' => Q s') ((hydrate s).hset (flipFields .resolved none))) :
    Q (resolve matchId host round s) := by
  refine Prog.wp_iff.1 (applyDamageAndAdvance_stores (Q := fun _ s' => Q s')
    (fun hskip => (hskip events hdue).elim) fun runtime' events' resolution' hdue' hread' hres' => ?_)
  obtain rfl : events' = events := Option.some.inj (hdue'.cached.symm.trans hdue.cached)
  rw [hread'.resolveRound_eq hread, hres] at hres'
  cases hres'
  exact hQ runtime' hread'

/-- The stored score is the one the resolution computed. -/
theorem resolve_stored (hdue : Due round s events) (hread : ReadAs matchId s.hash runtime)
    (hres : resolveRound runtime round events = some resolution) :
    (resolve matchId host round s).hash.score = ⟨resolution.p1.hp, resolution.p2.hp,
      resolution.damage.wipeIndexP1, resolution.damage.wipeIndexP2⟩ := by
  refine resolve_wp (Q := fun s' => s'.hash.score = _) hdue hread hres fun runtime' _ => ?_
  refine Prog.wp_mono storeResolution_wp fun o s' hs => ?_
  rw [hs.score, hash_hset]
  unfold Resolution.fields
  cases resolution.winnerId <;> rfl

/-- **The winner is the player with HP left.** -/
theorem resolve_verdict (hdue : Due round s events) (hread : ReadAs matchId s.hash runtime)
    (hres : resolveRound runtime round events = some resolution) :
    Verdict s.hash.player1Id s.hash.player2Id (resolve matchId host round s).hash.score
      resolution.winnerId := by
  obtain ⟨winner, hwinner⟩ := Option.ne_none_iff_exists'.1 hdue.ended
  have hids : runtime.player1Id = s.hash.player1Id ∧ runtime.player2Id = s.hash.player2Id := by
    obtain ⟨a, b, hread⟩ := hread
    have hids := parse_ids hread
    exact hids
  rw [resolve_stored hdue hread hres, (resolveRound_score hres hwinner).2, ← hids.1, ← hids.2]
  unfold knockout
  constructor <;> simp only [Score.Alive] <;> grind

/-! ## The row of a match that is over -/

theorem hydrate_row (s : Store) : (hydrate s).row = s.row ∧ (hydrate s).users = s.users := by
  unfold hydrate
  split <;> exact ⟨rfl, rfl⟩

theorem schedule_row (job : Job) (delayMs : Nat) (s : Store) : (schedule job delayMs s).row = s.row := by
  unfold schedule
  split <;> rfl

/-- The open row is closed, whoever has won. -/
theorem finalizeRow_closes (host : Host) {winnerId : Option String} {reason : MatchEndReason}
    (hstatus : s.row.status = .in_progress) (hwinner : ∀ id ∈ winnerId, isPlayer s.row id = true)
    (hknown1 : (s.users s.row.player1Id).isSome) (hknown2 : (s.users s.row.player2Id).isSome) :
    ∃ rating, (finalizeRow host.eloDelta winnerId reason s).1 = .finalized (closeRow winnerId reason s) rating ∧
      (finalizeRow host.eloDelta winnerId reason s).2.row = closeRow winnerId reason s := by
  obtain ⟨user1, h1⟩ := Option.isSome_iff_exists.1 hknown1
  obtain ⟨user2, h2⟩ := Option.isSome_iff_exists.1 hknown2
  cases winnerId with
  | none => exact ⟨none, by simp [finalizeRow, hstatus]⟩
  | some id =>
    refine ⟨some (ratingChange user1.rating (host.eloDelta user1.rating user2.rating (id = s.row.player1Id)),
      ratingChange user2.rating (-host.eloDelta user1.rating user2.rating (id = s.row.player1Id))), ?_⟩
    simp [finalizeRow, hstatus, hwinner id rfl, h1, h2]

theorem finalize_row {winnerId : Option String} {reason : MatchEndReason}
    (hstatus : s.row.status = .in_progress) (hwinner : ∀ id ∈ winnerId, isPlayer s.row id = true)
    (hknown1 : (s.users s.row.player1Id).isSome) (hknown2 : (s.users s.row.player2Id).isSome) :
    (finalize winnerId reason).wp (act host) (fun _ s' => s'.row = closeRow winnerId reason s) s := by
  obtain ⟨rating, hreply, hrow⟩ := @finalizeRow_closes s host winnerId reason hstatus hwinner hknown1 hknown2
  refine wp_call.2 ?_
  have hact : act host (.finalizeRow winnerId reason) s = finalizeRow host.eloDelta winnerId reason s := rfl
  rw [hact, hreply]
  refine wp_call.2 (wp_call.2 (wp_call.2 (wp_call.2 ?_)))
  show (schedule .matchCleanup 30000 _).row = _
  rw [schedule_row, hrow]

theorem storeResolution_row (hstatus : s.row.status = .in_progress)
    (hwinner : ∀ id, resolution.winnerId = some (some id) → isPlayer s.row id = true)
    (hknown1 : (s.users s.row.player1Id).isSome) (hknown2 : (s.users s.row.player2Id).isSome) :
    (storeResolution runtime round resolution).wp (act host) (fun _ s' =>
      (resolution.winnerId = none → s'.row.status = .in_progress) ∧
      ∀ winnerId, resolution.winnerId = some winnerId →
        s'.row.status = .finished ∧ s'.row.winnerId = winnerId) s := by
  unfold storeResolution
  cases hover : resolution.winnerId with
  | none => exact ⟨fun _ => hstatus, by rintro _ ⟨⟩⟩
  | some winnerId =>
    refine wp_call.2 (wp_call.2 (wp_call.2 ?_))
    refine Prog.wp_bind.2 (Prog.wp_mono (finalize_row hstatus ?_ hknown1 hknown2) fun o s' hrow => ?_)
    · intro id hid
      exact hwinner id (by rw [hover, Option.mem_def.1 hid])
    · have hclosed : (some winnerId = none → s'.row.status = .in_progress) ∧
          ∀ winnerId', some winnerId = some winnerId' →
            s'.row.status = .finished ∧ s'.row.winnerId = winnerId' := by
        refine ⟨by rintro ⟨⟩, ?_⟩
        rintro _ ⟨⟩
        rw [hrow]
        exact ⟨rfl, rfl⟩
      cases o <;> exact hclosed

/-- **The row of a match is closed with its winner.** -/
theorem resolve_row (hdue : Due round s events) (hread : ReadAs matchId s.hash runtime)
    (hres : resolveRound runtime round events = some resolution) (hopen : OpenRow s) :
    (resolution.winnerId = none → (resolve matchId host round s).row.status = .in_progress) ∧
      ∀ winnerId, resolution.winnerId = some winnerId →
        (resolve matchId host round s).row.status = .finished ∧
        (resolve matchId host round s).row.winnerId = winnerId := by
  obtain ⟨hrow, husers⟩ := hydrate_row s
  obtain ⟨winner, hwinner⟩ := Option.ne_none_iff_exists'.1 hdue.ended
  have hids : runtime.player1Id = s.row.player1Id ∧ runtime.player2Id = s.row.player2Id := by
    obtain ⟨a, b, hread⟩ := hread
    obtain ⟨h1, h2⟩ := parse_ids hread
    exact ⟨h1.trans hopen.player1.symm, h2.trans hopen.player2.symm⟩
  refine resolve_wp (Q := fun s' => (resolution.winnerId = none → s'.row.status = .in_progress) ∧
    ∀ winnerId, resolution.winnerId = some winnerId →
      s'.row.status = .finished ∧ s'.row.winnerId = winnerId) hdue hread hres fun runtime' _ => ?_
  have hflipped : ((hydrate s).hset (flipFields .resolved none)).row = s.row := hrow
  have hkept : ((hydrate s).hset (flipFields .resolved none)).users = s.users := husers
  refine storeResolution_row ?_ (fun id hid => ?_) ?_ ?_
  · rw [hflipped]
    exact hopen.inProgress
  · rw [(resolveRound_score hres hwinner).2] at hid
    rw [hflipped]
    unfold knockout at hid
    unfold isPlayer
    grind
  · rw [hflipped, hkept]
    exact hopen.known1
  · rw [hflipped, hkept]
    exact hopen.known2

/-! ## Everything else -/

theorem placeUnit_hp {state after : RuntimePlayerState} {instanceId : String} {target : Place} {slot : Nat}
    (h : placeUnit state instanceId target slot = .ok after) : after.hp = state.hp := by
  unfold placeUnit at h
  split at h
  · cases h
  split at h
  · cases h
  split at h
  · cases h
  split at h <;> cases h <;> simp

theorem buyOffer_hp {held after : Holdings} {index : Nat} {offer : ShopOffer} {uuid : String}
    (h : buyOffer held index offer uuid = .ok after) : after.state.hp = held.state.hp := by
  unfold buyOffer at h
  split at h <;> cases h
  simp

theorem Edited.hp {drawn : Nat} {state after : RuntimePlayerState} (h : Edited host drawn state after) :
    after.hp = state.hp := by
  cases h with
  | place h => exact placeUnit_hp h
  | buy hoffer h => exact buyOffer_hp h
  | sell h =>
    unfold sellUnit at h
    split at h <;> cases h
    simp
  | refresh => rfl
  | fuse h =>
    obtain ⟨target, source, -, heq⟩ := fuseUnits_fuses h
    rw [heq]
    simp [Shop.fuseInto]

theorem Edits.idle (h : Edits matchId host s s')
    (hp : s.hash.phase ≠ .none → 0 ≤ s.hash.score.p1Hp ∧ 0 ≤ s.hash.score.p2Hp) : Idle s s' := by
  cases h with
  | none h => exact h.idle
  | @one runtime side drawn state hread _ hstate _ _ h =>
    refine Idle.trans ?_ h.idle
    obtain ⟨hp1, hp2⟩ := hp (hread.fields.1 ▸ Option.some_ne_none _)
    obtain ⟨h1, h2, -, -⟩ := hread.score hp1 hp2
    have hhp := hstate.hp
    obtain ⟨hphase, hround⟩ := stateField_keeps s.hash side state
    refine ⟨fun hsome => ?_, fun _ => ?_, fun hover => ?_⟩
    · rw [hash_hset, hphase] at hsome
      exact hsome
    · rw [hash_hset]
      cases side with
      | p1 => exact congrArg (fun hp => (⟨hp, s.hash.p2State.hp, _, _⟩ : Score)) (hhp.trans h1)
      | p2 => exact congrArg (fun hp => (⟨s.hash.p1State.hp, hp, _, _⟩ : Score)) (hhp.trans h2)
    · rw [hash_hset, stage_of_phase hphase hround, hover]

/-- One call of a request that neither edits a roster nor resolves a round. -/
theorem guard_idle {q : Request} {h : History} {c : Cmd} (hg : Guard matchId q h c)
    (hedits : q.edits = false) (hresolves : q.resolves = false) : Idle s (act host c s).2 := by
  have hcalm : Calm s.hash (act host c s).2.hash := guard_calm hg hedits hresolves
  have hstep : PhaseStep s.hash (act host c s).2.hash := (act_hash host c s).symm ▸ Guard.phaseStep hg s
  have hindex : (act host c s).2.hash.wipeIndexP1 = s.hash.wipeIndexP1 ∧
      (act host c s).2.hash.wipeIndexP2 = s.hash.wipeIndexP2 := by
    rw [act_hash]
    cases c with
    | hset fields =>
      cases (show WriteGuard matchId q h fields from hg) with
      | result _ _ _ hq => exact absurd hq (by simp [hresolves])
      | knockout _ _ _ hq => exact absurd hq (by simp [hresolves])
      | @roundReady _ _ _ side => cases side <;> exact ⟨rfl, rfl⟩
      | @markReady _ _ side => cases side <;> exact ⟨rfl, rfl⟩
      | _ => exact ⟨rfl, rfl⟩
    | phaseFlip expectedPhase newPhase round next =>
      show (s.hash.hset (if _ then _ else _)).wipeIndexP1 = _ ∧ (s.hash.hset (if _ then _ else _)).wipeIndexP2 = _
      split
      · cases next <;> exact ⟨rfl, rfl⟩
      · exact ⟨rfl, rfl⟩
    | actionLog userId actionId field shop phase round =>
      show (s.hash.hset (if _ then _ else _)).wipeIndexP1 = _ ∧ (s.hash.hset (if _ then _ else _)).wipeIndexP2 = _
      split
      · cases (show LogGuard q field phase from hg) with
        | state hq => exact absurd hq (by simp [hedits])
        | @ready _ _ _ _ side => cases side <;> exact ⟨rfl, rfl⟩
      · exact ⟨rfl, rfl⟩
    | _ => exact ⟨rfl, rfl⟩
  refine ⟨hcalm.alive, fun _ => ?_, fun hover => top_le_iff.1 (hover ▸ hstep.stage_le)⟩
  have h1 := hcalm.players .p1
  have h2 := hcalm.players .p2
  simp only [stored] at h1 h2
  simp only [RuntimeHash.score, h1, h2, hindex.1, hindex.2]

theorem program_idle {q : Request} (hresolves : q.resolves = false)
    (hp : s.hash.phase ≠ none → 0 ≤ s.hash.score.p1Hp ∧ 0 ≤ s.hash.score.p2Hp) :
    (program matchId host q).wp (act host) (fun _ s' => Idle s s') s := by
  by_cases hedits : q.edits = true
  · exact Prog.wp_mono (program_edits hedits) fun _ _ h => h.idle hp
  have hguarded : Guarded matchId q [] (program matchId host q) := program_guarded q
  refine Prog.wp_mono (hguarded.wp (J := fun _ s' => Idle s s') ?_ (Alike.refl s).idle)
    fun o s' ⟨h', hs'⟩ => hs'
  intro h c s' hg hidle
  exact hidle.trans (guard_idle hg (by simpa using hedits) hresolves)

/-! ## Whole matches -/

theorem Fed.trans {winners more : List (Option Side)} (h : Fed matchId host s winners s')
    (h' : Fed matchId host s' more s'') : Fed matchId host s (winners ++ more) s'' := by
  induction h' with
  | start => exact (List.append_nil winners).symm ▸ h
  | idle _ hidle ih => exact .idle ih hidle
  | round _ hdue hwinner ih =>
    rw [← List.append_assoc]
    exact .round ih hdue hwinner

theorem Fed.stored {winners : List (Option Side)} (h : Fed matchId host s winners s')
    (hsome : s'.hash.phase ≠ none) : s.hash.phase ≠ none := by
  induction h with
  | start => exact hsome
  | idle _ hidle ih => exact ih (hidle.stored hsome)
  | round _ hdue _ ih => exact ih (by rw [hdue.inBattle]; exact Option.some_ne_none _)

/-- The invariant of a match that started with `h1` and `h2` HP. -/
structure Keeps (h1 h2 : Int) (winners : List (Option Side)) (s : Store) : Prop where
  score : s.hash.phase ≠ none → s.hash.score = .of h1 h2 winners
  alive : stage s.hash ≠ ⊤ → (Score.of h1 h2 winners).Alive
  bound : winners.length + 1 ≤ ceilFifth h1 + ceilFifth h2
  bound100 : h1 = 100 → h2 = 100 → winners.length ≤ 21

theorem Fed.keeps {h1 h2 : Int} (hpos : 0 < h1 ∧ 0 < h2) (hscore : s.hash.score = ⟨h1, h2, 0, 0⟩)
    {winners : List (Option Side)} (h : Fed matchId host s winners s') : Keeps h1 h2 winners s' := by
  have hstart : Score.of h1 h2 [] = ⟨h1, h2, 0, 0⟩ := (Score.foldl_after h1 h2 ⟨hpos.1.le, hpos.2.le⟩ []).symm
  induction h with
  | start =>
    refine ⟨fun _ => hscore.trans hstart.symm, fun _ => hstart.symm ▸ hpos, ?_, fun _ _ => Nat.zero_le _⟩
    unfold ceilFifth
    simp only [List.length_nil]
    omega
  | idle _ hidle ih =>
    exact ⟨fun hsome => (hidle.score hsome).trans (ih.score (hidle.stored hsome)),
      fun hlasts => ih.alive fun hover => hlasts (hidle.closed hover), ih.bound, ih.bound100⟩
  | @round winners winner s₁ round events _ hdue hwinner ih =>
    have hlasts : stage s₁.hash ≠ ⊤ := by
      rw [stage_battle ⟨hdue.inBattle, hdue.ofRound⟩]
      exact WithTop.coe_ne_top
    have hscore₁ := ih.score (by rw [hdue.inBattle]; exact Option.some_ne_none _)
    obtain ⟨hp1, hp2⟩ := Score.of_nonneg h1 h2 winners
    rw [← hscore₁] at hp1 hp2
    have hafter : s₁.hash.score.after winner = .of h1 h2 (winners ++ [winner]) := by
      rw [hscore₁, ← Score.foldl_after h1 h2 ⟨hpos.1.le, hpos.2.le⟩, ← Score.foldl_after h1 h2 ⟨hpos.1.le, hpos.2.le⟩,
        List.foldl_append]
      rfl
    have hresolved : (resolve matchId host round s₁).hash.score = s₁.hash.score.after winner ∧ _ :=
      resolve_score hdue hwinner hp1 hp2
    rw [hafter] at hresolved
    obtain ⟨hlength, hlength100⟩ := Score.alive_length (ih.alive hlasts)
    refine ⟨fun _ => hresolved.1, hresolved.2, ?_, fun hh1 hh2 => ?_⟩
    · rw [List.length_append, List.length_singleton]
      omega
    · have := hlength100 hh1 hh2
      rw [List.length_append, List.length_singleton]
      omega

/-- **Requests served one after the other feed the match outcomes.** -/
theorem served_fed {h1 h2 : Int} (hpos : 0 < h1 ∧ 0 < h2) (hscore : s.hash.score = ⟨h1, h2, 0, 0⟩)
    (sends : List (Nat × Request)) :
    ∃ winners, Fed matchId host s winners (sends.foldl (serve matchId host) s) := by
  induction sends using List.reverseRecOn with
  | nil => exact ⟨[], .start⟩
  | append_singleton sends send ih =>
    obtain ⟨winners, hfed⟩ := ih
    rw [List.foldl_append]
    generalize hlast : sends.foldl (serve matchId host) s = last at hfed
    have hwait := hfed.idle (elapse_idle send.1 last)
    show ∃ winners, Fed matchId host s winners
      ((program matchId host send.2).alone (act host) (elapse send.1 last)).2
    have key : (program matchId host send.2).wp (act host)
        (fun _ s' => ∃ winners, Fed matchId host s winners s') (elapse send.1 last) := ?_
    · exact Prog.wp_iff.1 key
    cases hresolves : send.2.resolves with
    | true =>
      refine Prog.wp_mono (program_resolves hresolves) fun _ s' h => ?_
      cases h with
      | none h => exact ⟨_, hwait.idle h.idle⟩
      | round h hdue heq =>
        obtain ⟨winner, hwinner⟩ := Option.ne_none_iff_exists'.1 hdue.ended
        rw [heq]
        exact ⟨_, (hwait.idle h.idle).round hdue hwinner⟩
    | false =>
      refine Prog.wp_mono (program_idle hresolves fun hsome => ?_) fun _ _ hidle => ⟨_, hwait.idle hidle⟩
      rw [(hwait.keeps hpos hscore).score hsome]
      exact Score.of_nonneg h1 h2 winners

theorem Fed.settled {h1 h2 : Int} (hpos : 0 < h1 ∧ 0 < h2) (hscore : s.hash.score = ⟨h1, h2, 0, 0⟩)
    {winners : List (Option Side)} (h : Fed matchId host s winners s') :
    Settled matchId host h1 h2 winners s' := by
  have hkeeps := h.keeps hpos hscore
  refine ⟨hkeeps.score, fun more s'' hmore hsome => ?_, fun hsome halive => ?_, ⟨hkeeps.bound, hkeeps.bound100⟩,
    fun round events hdue hdead => ?_, fun round events runtime resolution hdue hread hres =>
      ⟨resolve_verdict hdue hread hres, resolve_row hdue hread hres⟩⟩
  · rw [((h.trans hmore).keeps hpos hscore).score hsome, hkeeps.score (hmore.stored hsome)]
    exact Score.of_append_le h1 h2 winners more
  · rw [hkeeps.score hsome] at halive
    obtain ⟨hlength, hlength100⟩ := Score.alive_length halive
    exact ⟨hlength, fun hh1 hh2 => Nat.lt_succ_of_le (hlength100 hh1 hh2)⟩
  · obtain ⟨winner, hwinner⟩ := Option.ne_none_iff_exists'.1 hdue.ended
    obtain ⟨hp1, hp2⟩ := Score.of_nonneg h1 h2 winners
    rw [← hkeeps.score (by rw [hdue.inBattle]; exact Option.some_ne_none _)] at hp1 hp2
    obtain ⟨hafter, hlasts⟩ : (resolve matchId host round s').hash.score = _ ∧ _ :=
      resolve_score hdue hwinner hp1 hp2
    by_contra hover
    exact hdead (hafter ▸ hlasts hover)

end

/-- **Every match ends.** From any HP, whatever its battles' outcomes. -/
theorem match_ends (matchId : String) (host : Host) {s : Store} {h1 h2 : Int} (hpos1 : 0 < h1) (hpos2 : 0 < h2)
    (hscore : s.hash.score = ⟨h1, h2, 0, 0⟩) :
    (∀ sends : List (Nat × Request), ∃ winners,
      Fed matchId host s winners (sends.foldl (serve matchId host) s)) ∧
      ∀ winners s', Fed matchId host s winners s' → Settled matchId host h1 h2 winners s' :=
  ⟨served_fed ⟨hpos1, hpos2⟩ hscore, fun _ _ h => h.settled ⟨hpos1, hpos2⟩ hscore⟩

theorem match_ends_friendly :
    (∀ sends : List (Nat × Request), ∃ winners,
      Fed "m" plainHost (freshStore friendly ⟨"one", "two"⟩ fun _ => none) winners
        (sends.foldl (serve "m" plainHost) (freshStore friendly ⟨"one", "two"⟩ fun _ => none))) ∧
      ∀ winners s', Fed "m" plainHost (freshStore friendly ⟨"one", "two"⟩ fun _ => none) winners s' →
        Settled "m" plainHost 100 100 winners s' :=
  match_ends "m" plainHost (by decide) (by decide) rfl

end AutoChess.Runtime
