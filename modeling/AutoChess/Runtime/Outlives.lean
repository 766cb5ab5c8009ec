/-
How long the match is stored while a round is planned and fought. Only the
start of the match, a resolution and an advance renew its lifetime
(`StoredUntil`), and the deadline of a battle grows with its events; so the
timeout of a battle finds its match exactly when the battle is short enough.
-/
import AutoChess.Game.Cycles
import AutoChess.Runtime.Acks
import AutoChess.Runtime.Fielding
import AutoChess.Runtime.Ledger

namespace AutoChess.Runtime

open AutoChess.Game AutoChess.Shop Calls Expiring

/-! ## Lifetimes -/

/-- The match is stored until `limit`, as long as nobody renews it. -/
def StoredUntil (limit : Nat) (s : Store) : Prop :=
  s.now ≤ limit ∧ ∃ h, s.runtime.entry = some ⟨h, some limit⟩

/-- A round is planned, with no battle of the match under way, and the match
is stored until `limit`. -/
structure Planned (limit round : Nat) (s : Store) : Prop where
  phase : s.hash.phase = some .shop_place
  ofRound : s.hash.round = some round
  positive : 0 < round
  unfought : s.hash.combatRound ≠ some round
  distinct : s.hash.player1Id ≠ s.hash.player2Id
  unlocked : (s.locks .combat).get s.now = none
  stored : StoredUntil limit s

/-- The planning of a round has just begun, with a new lifetime for the match. -/
def Opens (round : Nat) (s : Store) : Prop := Planned (s.now + RUNTIME_TTL_SECONDS * 1000) round s

/-- The store forty seconds after a round opened, when its timer fires, with
these requests served since. -/
def atTimer (matchId : String) (host : Host) (s : Store) (sends : List (Nat × Request)) : Store :=
  elapse (SHOP_PHASE_MS - (sends.map Prod.fst).sum) (sends.foldl (serve matchId host) s)

/-- The events of the battle that the stored boards fight. -/
def battleEvents (matchId : String) (host : Host) (s : Store) : List CombatEvent :=
  match parseRuntimeHash matchId s.hash with
  | none => []
  | some runtime =>
    match battleOf host runtime with
    | .error _ => []
    | .ok battle => runBattle host.localeCompare battle

/-- The store once the round's timer has started its battle. -/
def atBattle (matchId : String) (host : Host) (round : Nat) (s : Store) : Store :=
  serve matchId host s (0, .phaseTimer round)

/-- When the timeout of the battle fires, the match and the result of the
battle are stored, and the round is resolved. -/
def Outlives (matchId : String) (host : Host) (round : Nat) (s : Store) : Prop :=
  let due := deadline host (battleEvents matchId host s)
  let battle := atBattle matchId host round s
  battle.combatResult.get (battle.now + due) ≠ none ∧ battle.runtime.get (battle.now + due) ≠ none ∧
    ((serve matchId host battle (due, .combatDoneTimeout round)).hash.phase = some .resolved ∨
      (serve matchId host battle (due, .combatDoneTimeout round)).hash.phase = some .finished)

/-- Commands that leave the match's lifetime and its combat lock alone. -/
def Lasting : Cmd → Prop
  | .expireRuntime _ => False
  | .setLock lock _ _ => lock ≠ .combat
  | _ => True

section
variable {matchId : String} {host : Host} {α : Type} {limit round given : Nat} {s s' : Store}

theorem StoredUntil.get (h : StoredUntil limit s) (later : Nat) :
    s.runtime.get later ≠ none ↔ later ≤ limit := by
  obtain ⟨-, v, hentry⟩ := h
  by_cases hlater : later ≤ limit <;>
    simp [Key.get, Key.current, hentry, Option.filter, Entry.live, hlater]

theorem StoredUntil.hset (h : StoredUntil limit s) (fields : List FieldWrite) :
    StoredUntil limit (s.hset fields) := by
  obtain ⟨hnow, v, hentry⟩ := h
  refine ⟨hnow, v.hset fields, ?_⟩
  have hcurrent : s.runtime.current s.now = some ⟨v, some limit⟩ := by
    simp [Key.current, hentry, Option.filter, Entry.live, hnow]
  simp [Store.hset, Key.modify, hcurrent]

theorem StoredUntil.of_eq (h : StoredUntil limit s) (hnow : s'.now = s.now) (hruntime : s'.runtime = s.runtime) :
    StoredUntil limit s' := by
  unfold StoredUntil
  rw [hnow, hruntime]
  exact h

/-- What a lasting command does to the match's lifetime and to its combat lock. -/
structure Lasts (s s' : Store) : Prop where
  now : s'.now = s.now
  runtime : s'.runtime = s.runtime ∨ ∃ fields, s'.runtime = (s.hset fields).runtime
  combatLock : s'.locks .combat = s.locks .combat ∨ s'.locks .combat = {}

theorem Lasting.lasts {c : Cmd} (hc : Lasting c) (host : Host) (s : Store) : Lasts s (act host c s).2 := by
  have hnow := (act_frame host c s).now
  cases c with
  | expireRuntime seconds => cases hc
  | hset fields => exact ⟨hnow, .inr ⟨fields, rfl⟩, .inl rfl⟩
  | phaseFlip expectedPhase newPhase round next =>
    refine ⟨hnow, ?_, ?_⟩ <;> simp only [act, evalPhaseFlip]
    · split
      · exact .inl rfl
      · split
        · exact .inl rfl
        · exact .inr ⟨_, rfl⟩
    · split
      · exact .inl rfl
      · split <;> exact .inl rfl
  | actionLog userId id field shop phase round =>
    by_cases hrecorded : (evalActionLog userId id field shop phase round s).1 = .recorded
    · simp only [act, evalActionLog] at hnow hrecorded ⊢
      split at hrecorded
      · cases hrecorded
      next hid =>
      split at hrecorded
      · cases hrecorded
      next hround =>
      split at hrecorded
      · cases hrecorded
      next hphase =>
      simp only [if_neg hid, if_neg hround, if_neg hphase]
      cases shop <;> exact ⟨rfl, .inr ⟨[field], rfl⟩, .inl rfl⟩
    · have hsame : (act host (.actionLog userId id field shop phase round) s).2 = s :=
        evalActionLog_refused hrecorded
      rw [hsame]
      exact ⟨rfl, .inl rfl, .inl rfl⟩
  | setLock lock owner ttlMs =>
    refine ⟨hnow, ?_, ?_⟩ <;> simp only [act, setLock]
    · split <;> exact .inl rfl
    · split
      · exact .inl rfl
      · exact .inl (if_neg (Ne.symm hc))
  | releaseOwnedLock lock owner =>
    refine ⟨hnow, ?_, ?_⟩ <;> simp only [act, releaseOwnedLock]
    · split <;> exact .inl rfl
    · split
      · by_cases hlock : lock = .combat
        · exact .inr (if_pos hlock.symm)
        · exact .inl (if_neg (Ne.symm hlock))
      · exact .inl rfl
  | combatDone userId =>
    refine ⟨hnow, ?_, ?_⟩ <;> simp only [act, evalCombatDone] <;> split <;> exact .inl rfl
  | schedule job delayMs =>
    refine ⟨hnow, ?_, ?_⟩ <;> simp only [act, schedule] <;> split <;> exact .inl rfl
  | updateState side state => cases side <;> exact ⟨hnow, .inl rfl, .inl rfl⟩
  | finalizeRow winnerId reason =>
    refine ⟨hnow, ?_, ?_⟩ <;> simp only [act, finalizeRow]
    all_goals
      split
      · exact .inl rfl
      · split
        · exact .inl rfl
        · split
          · exact .inl rfl
          · split <;> exact .inl rfl
  | _ => exact ⟨hnow, .inl rfl, .inl rfl⟩

/-! ## Planning -/

theorem OfRoster.lasting {c : Cmd} (hc : OfRoster c) : Lasting c := by
  cases c with
  | setLock lock owner ttlMs => exact hc
  | expireRuntime seconds => cases hc
  | _ => trivial

theorem Lasts.stored (h : Lasts s s') (hs : StoredUntil limit s) : StoredUntil limit s' := by
  rcases h.runtime with heq | ⟨fields, heq⟩
  · exact hs.of_eq h.now heq
  · exact (hs.hset fields).of_eq h.now heq

theorem Lasts.unlocked (h : Lasts s s') (hs : (s.locks .combat).get s.now = none) :
    (s'.locks .combat).get s'.now = none := by
  rw [h.now]
  rcases h.combatLock with heq | heq
  · rwa [heq]
  · rw [heq]
    rfl

/-- What the hash says of the round, whatever the players do to their rosters. -/
theorem Edits.planned (h : Edits matchId host s s') : s'.hash.phase = s.hash.phase ∧
    s'.hash.round = s.hash.round ∧ s'.hash.combatRound = s.hash.combatRound ∧
    s'.hash.player1Id = s.hash.player1Id ∧ s'.hash.player2Id = s.hash.player2Id := by
  cases h with
  | none hs =>
    obtain ⟨⟨a, b, hhash⟩, -, -, -⟩ := hs
    rw [hhash]
    exact ⟨rfl, rfl, rfl, rfl, rfl⟩
  | @one runtime side drawn state hread _ hstate hold hnew hs =>
    obtain ⟨⟨a, b, hhash⟩, -, -, -⟩ := hs
    rw [hhash, hash_hset]
    cases side <;> exact ⟨rfl, rfl, rfl, rfl, rfl⟩

theorem Planned.elapse (h : Planned limit round s) {wait : Nat} (hle : s.now + wait ≤ limit) :
    Planned limit round (elapse wait s) := by
  have hhash : (Runtime.elapse wait s).hash = s.hash := by
    rcases Key.get_later (Nat.le_add_right s.now wait) s.runtime with heq | hgone
    · simp only [Store.hash, Runtime.elapse, heq]
    · exact absurd hgone ((h.stored.get _).2 hle)
  refine ⟨?_, ?_, h.positive, ?_, ?_, ?_, hle, h.stored.2⟩
  · rw [hhash]
    exact h.phase
  · rw [hhash]
    exact h.ofRound
  · rw [hhash]
    exact h.unfought
  · rw [hhash]
    exact h.distinct
  · rcases Key.get_later (Nat.le_add_right s.now wait) (s.locks .combat) with heq | hgone
    · exact heq.trans h.unlocked
    · exact hgone

/-- A roster action leaves the round planned, and renews nothing. -/
theorem Planned.serve (h : Planned limit round s) (send : Nat × Request) (hedits : send.2.edits = true)
    (hle : s.now + send.1 ≤ limit) : Planned limit round (serve matchId host s send) ∧
      (Runtime.serve matchId host s send).now = s.now + send.1 := by
  have hw := h.elapse hle
  have hkept : Edits matchId host (Runtime.elapse send.1 s) (Runtime.serve matchId host s send) :=
    Prog.wp_iff.1 (program_edits hedits)
  obtain ⟨hphase, hround, hcombat, hp1, hp2⟩ := hkept.planned
  have hlasts : StoredUntil limit (Runtime.serve matchId host s send) ∧
      ((Runtime.serve matchId host s send).locks .combat).get (Runtime.serve matchId host s send).now = none ∧
      (Runtime.serve matchId host s send).now = s.now + send.1 := by
    refine Prog.wp_iff.1 (Prog.Issues.wp (I := fun s' => StoredUntil limit s' ∧
      (s'.locks .combat).get s'.now = none ∧ s'.now = s.now + send.1) (program_roster hedits) ?_
      ⟨hw.stored, hw.unlocked, rfl⟩)
    rintro c s' hc ⟨hstored, hunlocked, hnow⟩
    have hlasts := hc.lasting.lasts host s'
    exact ⟨hlasts.stored hstored, hlasts.unlocked hunlocked, hlasts.now.trans hnow⟩
  refine ⟨⟨hphase.trans hw.phase, hround.trans hw.ofRound, h.positive, ?_, ?_, hlasts.2.1, hlasts.1⟩, hlasts.2.2⟩
  · rw [hcombat]
    exact hw.unfought
  · rw [hp1, hp2]
    exact hw.distinct

theorem Planned.serves {sends : List (Nat × Request)} (h : Planned limit round s)
    (hedits : ∀ send ∈ sends, send.2.edits = true) (hle : s.now + (sends.map Prod.fst).sum ≤ limit) :
    Planned limit round (sends.foldl (Runtime.serve matchId host) s) ∧
      (sends.foldl (Runtime.serve matchId host) s).now = s.now + (sends.map Prod.fst).sum := by
  induction sends generalizing s with
  | nil => exact ⟨h, rfl⟩
  | cons send sends ih =>
    rw [List.map_cons, List.sum_cons] at hle ⊢
    obtain ⟨hserved, hnow⟩ := @Planned.serve matchId host _ _ _ h send
      (hedits send (List.mem_cons_self ..)) (by omega)
    obtain ⟨hrest, hlast⟩ := ih hserved (fun send' hmem => hedits send' (List.mem_cons_of_mem _ hmem))
      (by omega)
    exact ⟨hrest, hlast.trans (by omega)⟩

/-- Roster actions resolve no round. -/
theorem serves_books {sends : List (Nat × Request)} (hb : Books host given s)
    (hedits : ∀ send ∈ sends, send.2.edits = true) :
    Books host given (sends.foldl (serve matchId host) s) := by
  induction sends generalizing s with
  | nil => exact hb
  | cons send sends ih =>
    refine ih ?_ fun send' hmem => hedits send' (List.mem_cons_of_mem _ hmem)
    have hkept : Kept host given (elapse send.1 s).hash.phase (serve matchId host s send) :=
      Prog.wp_iff.1 (program_kept (hedits send (List.mem_cons_self ..)) (hb.elapse send.1))
    exact hkept.books

/-! ## The battle -/

theorem Books.fights {runtime : MatchRuntimeState} (hb : Books host given s)
    (hread : ReadAs matchId s.hash runtime) : ∃ battle, battleOf host runtime = .ok battle := by
  have hstars : ∀ side, ∀ u ∈ held (sideState runtime side).board, u.star ≤ 2 := fun side u hu =>
    ((hb.read hread side).standard u (List.mem_append_left _ hu)).star
  obtain ⟨p1Units, hp1⟩ := unitsFromBoard_ok .p1 (hstars .p1)
  obtain ⟨p2Units, hp2⟩ := unitsFromBoard_ok .p2 (hstars .p2)
  exact ⟨_, by rw [battleOf, show unitsFromBoard runtime.p1State.board .p1 = _ from hp1,
    show unitsFromBoard runtime.p2State.board .p2 = _ from hp2]; rfl⟩

/-- The match after the flip to battle reads as it did, in battle. -/
theorem parse_flipped {hash : RuntimeHash} {runtime : MatchRuntimeState} (a b : String)
    (h : parseRuntimeHash matchId hash = some runtime) :
    parseRuntimeHash matchId { hash.hset (flipFields .battle none) with player1Name := a, player2Name := b } =
      some { runtime with
        phase := .battle, player1Name := orDefault a "ผู้เล่น 1", player2Name := orDefault b "ผู้เล่น 2" } := by
  simp only [parseRuntimeHash, Option.bind_eq_bind, Option.bind_eq_some_iff, Option.pure_def,
    Option.some.injEq] at h
  obtain ⟨phase, -, stored, hround, rfl⟩ := h
  simp [parseRuntimeHash, flipFields, RuntimeHash.hset, RuntimeHash.write, hround]

/-- Commands that leave a published battle as it is. -/
def Trailing : Cmd → Prop
  | .publish _ | .getCombatResult | .releaseOwnedLock _ _ => True
  | _ => False

/-- A battle that is published, cached past its deadline and stored until
`limit`. -/
structure Fought (host : Host) (limit round : Nat) (events : List CombatEvent) (s : Store) : Prop where
  published : Published round events s
  cached : s.combatResult.get (s.now + deadline host events) ≠ none
  stored : StoredUntil limit s

theorem Fought.trailing {events : List CombatEvent} {c : Cmd} (h : Fought host limit round events s)
    (hc : Trailing c) : Fought host limit round events (act host c s).2 ∧ (act host c s).2.now = s.now := by
  have hframe := act_frame host c s
  have hsame : (act host c s).2.runtime = s.runtime ∧ (act host c s).2.combatResult = s.combatResult ∧
      (act host c s).2.combatDone = s.combatDone := by
    cases c with
    | publish publication => exact ⟨rfl, rfl, rfl⟩
    | getCombatResult => exact ⟨rfl, rfl, rfl⟩
    | releaseOwnedLock lock owner =>
      refine ⟨?_, ?_, ?_⟩ <;> simp only [act, releaseOwnedLock] <;> split <;> rfl
    | _ => cases hc
  obtain ⟨hruntime, hresult, hacks⟩ := hsame
  refine ⟨⟨h.published.of_eq hruntime hframe.now hresult hacks, ?_, h.stored.of_eq hframe.now hruntime⟩,
    hframe.now⟩
  rw [hframe.now, hresult]
  exact h.cached

theorem lasting_then {c : Cmd} {f : Resp c → M α} (hc : Lasting c) (hf : ∀ r, (f r).Issues Lasting) :
    ((call c).bind f).Issues Lasting := Prog.Issues.perform_bind hc hf

theorem fightRound_lasting : (fightRound matchId host round).Issues Lasting := by
  refine lasting_then (by trivial) fun hash => ?_
  split
  · trivial
  split
  · trivial
  refine lasting_then (by trivial) fun _ => ?_
  split
  · trivial
  refine lasting_then (by trivial) fun events => lasting_then (by trivial) fun hash' => ?_
  split
  · trivial
  split
  · trivial
  refine lasting_then (by trivial) fun _ => lasting_then (by trivial) fun _ => lasting_then (by trivial) fun _ => ?_
  exact lasting_then (by trivial) fun _ => lasting_then (by trivial) fun _ => trivial

theorem publishDamagePreview_trailing (runtime : MatchRuntimeState) (round : Nat) :
    (publishDamagePreview runtime round).Issues Trailing := by
  refine Prog.Issues.perform_bind (by trivial) fun found => ?_
  split
  · trivial
  · split
    · trivial
    · exact Prog.Issues.perform (by trivial) _

/-- Publishing the state takes no lock and writes no hash. -/
theorem publishState_wp {runtime : MatchRuntimeState} {side : Side} {state : RuntimePlayerState}
    {Q : Except Err Unit → Store → Prop}
    (h : ∀ s', s'.runtime = s.runtime → s'.locks = s.locks → s'.now = s.now → Q (.ok ()) s') :
    (publishState runtime side state).wp (act host) Q s := h _ rfl rfl rfl

theorem setLock_free {lock : Lock} (h : (s.locks lock).get s.now = none) (owner : String) (ttlMs : Nat) :
    setLock lock owner ttlMs s = (true, { s with locks := put s.locks lock (Key.setEx s.now ttlMs owner) }) := by
  simp [setLock, h]

/-- **A battle fought under a free lock is published.** -/
theorem runCombat_fights {runtime : MatchRuntimeState} {battle : BattleState}
    (hparse : parseRuntimeHash matchId s.hash = some runtime) (hphase : runtime.phase = .battle)
    (hnew : runtime.combatRound ≠ some runtime.round) (hbattle : battleOf host runtime = .ok battle)
    (hne : runtime.player1Id ≠ runtime.player2Id) (hfree : (s.locks .combat).get s.now = none)
    (hstored : StoredUntil limit s) :
    (runCombat matchId host runtime.round).wp (act host) (fun _ s' =>
      Fought host limit runtime.round (runBattle host.localeCompare battle) s' ∧ s'.now = s.now) s := by
  refine wp_call.2 (wp_call.2 ?_)
  have hlock := setLock_free (s := { s with drawn := s.drawn + 1 }) hfree (host.uuid s.drawn)
    (COMBAT_LOCK_TTL_SECONDS * 1000)
  show Prog.wp (act host) _
    (if (setLock .combat (host.uuid s.drawn) _ { s with drawn := s.drawn + 1 }).1 = true then _ else _)
    (setLock .combat (host.uuid s.drawn) _ { s with drawn := s.drawn + 1 }).2
  rw [hlock]
  generalize hlocked : ({ s with
    drawn := s.drawn + 1
    locks := put s.locks .combat (Key.setEx s.now (COMBAT_LOCK_TTL_SECONDS * 1000) (host.uuid s.drawn)) } :
      Store) = s₁
  have hhash : s₁.hash = s.hash := by rw [← hlocked]; rfl
  have hnow : s₁.now = s.now := by rw [← hlocked]
  have hstored₁ : StoredUntil limit s₁ := hstored.of_eq hnow (by rw [← hlocked])
  have hpublishes := @fightRound_publishes matchId host _ _ _ (hhash ▸ hparse) hphase hnew hbattle hne
  have hlasts : (fightRound matchId host runtime.round).wp (act host)
      (fun _ s' => StoredUntil limit s' ∧ s'.now = s.now) s₁ :=
    Prog.Issues.wp fightRound_lasting (fun c s' hc h =>
      ⟨(hc.lasts host s').stored h.1, (hc.lasts host s').now.trans h.2⟩) ⟨hstored₁, hnow⟩
  refine Prog.wp_ensuring (Prog.wp_iff.2 ?_)
  obtain ⟨hpublished, hcached⟩ := Prog.wp_iff.1 hpublishes
  obtain ⟨hstored', hnow'⟩ := Prog.wp_iff.1 hlasts
  have hreleased := Fought.trailing (c := .releaseOwnedLock .combat (host.uuid s.drawn))
    ⟨hpublished, hcached, hstored'⟩ trivial
  exact ⟨hreleased.1, hreleased.2.trans hnow'⟩

/-- **The timer's battle is published and cached past its deadline**; the
match keeps the lifetime it had. -/
theorem tryStartCombat_fights {runtime : MatchRuntimeState} {battle : BattleState}
    (h : Planned limit round s) (hparse : parseRuntimeHash matchId s.hash = some runtime)
    (hbattle : battleOf host runtime = .ok battle) :
    (tryStartCombat matchId host round).wp (act host) (fun _ s' =>
      Fought host limit round (runBattle host.localeCompare battle) s' ∧ s'.now = s.now) s := by
  obtain ⟨hphase, hround, hcombat⟩ := parse_fields hparse
  have hphase : runtime.phase = .shop_place := Option.some.inj (hphase.symm.trans h.phase)
  obtain rfl : runtime.round = round := Option.some.inj (hround.symm.trans h.ofRound)
  refine Prog.wp_bind.2 (findRuntime_wp hparse fun a b => ?_)
  show Prog.wp (act host) _ (if runtime.phase ≠ .shop_place ∨ runtime.round ≠ runtime.round then _ else _)
    (hydrate s)
  rw [if_neg (by simp [hphase])]
  have halike := hydrate_alike s
  have hflips : evalPhaseFlip .shop_place .battle runtime.round none (hydrate s) =
      (true, (hydrate s).hset (flipFields .battle none)) := by
    obtain ⟨a', b', hhash⟩ := halike.hash
    exact evalPhaseFlip_flips (by rw [hhash]; exact h.phase) (by rw [hhash]; exact h.ofRound)
  refine wp_call.2 ?_
  show Prog.wp (act host) _
    (if (!(evalPhaseFlip .shop_place .battle runtime.round none (hydrate s)).1) = true then _ else _)
    (evalPhaseFlip .shop_place .battle runtime.round none (hydrate s)).2
  rw [hflips]
  obtain ⟨⟨a', b', hhash⟩, hnow, -, -⟩ := halike
  obtain ⟨a'', b'', hfields⟩ := hset_renamed s.hash a' b' (flipFields .battle none)
  have hflipped : ((hydrate s).hset (flipFields .battle none)).hash =
      { s.hash.hset (flipFields .battle none) with player1Name := a'', player2Name := b'' } := by
    rw [hash_hset, hhash, hfields]
  have hlasts : StoredUntil limit (hydrate s) ∧ (hydrate s).locks = s.locks := by
    unfold hydrate
    split
    · exact ⟨h.stored.hset _, rfl⟩
    · exact ⟨h.stored, rfl⟩
  show Prog.wp (act host) _ ((publish _).bind _) ((hydrate s).hset (flipFields .battle none))
  refine wp_call.2 (Prog.wp_bind.2 (publishState_wp fun s₁ hruntime hlocks hnow₁ => ?_))
  have hhash₁ : s₁.hash = ((hydrate s).hset (flipFields .battle none)).hash := by
    rw [Store.hash, hruntime, hnow₁]
    rfl
  have hnow₁ : s₁.now = s.now := hnow₁.trans hnow
  have hstored₁ : StoredUntil limit s₁ := (hlasts.1.hset _).of_eq (hnow₁.trans hnow.symm) hruntime
  have hfree₁ : (s₁.locks .combat).get s₁.now = none := by
    rw [hnow₁, hlocks]
    exact hlasts.2 ▸ h.unlocked
  have hparse₁ := parse_flipped a'' b'' hparse
  rw [← hflipped, ← hhash₁] at hparse₁
  obtain ⟨hp1, hp2⟩ := parse_ids hparse
  have hnew : runtime.combatRound ≠ some runtime.round := by
    rw [← hcombat]
    exact fun heq => h.unfought (positiveInt_eq.1 heq).1
  have hne : runtime.player1Id ≠ runtime.player2Id := by
    rw [hp1, hp2]
    exact h.distinct
  have hfights := runCombat_fights hparse₁ rfl hnew hbattle hne hfree₁ hstored₁
  refine Prog.wp_bind.2 (Prog.wp_mono hfights ?_)
  rintro o s₂ ⟨hfought, hnow₂⟩
  rcases o with e | ran
  · exact ⟨hfought, hnow₂.trans hnow₁⟩
  show Prog.wp (act host) _ (if ran = true then (publishDamagePreview _ _).bind _ else _) s₂
  split
  · have hpreview := Prog.Issues.wp (I := fun s' => Fought host limit runtime.round
        (runBattle host.localeCompare battle) s' ∧ s'.now = s.now)
      (publishDamagePreview_trailing { runtime with
        phase := .battle, player1Name := a, player2Name := b } runtime.round)
      (fun c s' hc hs' => ⟨(hs'.1.trailing hc).1, (hs'.1.trailing hc).2.trans hs'.2⟩)
      ⟨hfought, hnow₂.trans hnow₁⟩
    refine Prog.wp_bind.2 (Prog.wp_mono hpreview fun o s' hs' => ?_)
    cases o <;> exact hs'
  · exact ⟨hfought, hnow₂.trans hnow₁⟩

/-! ## The timeout -/

theorem Fought.due {events : List CombatEvent} (h : Fought host limit round events s)
    (hle : s.now + deadline host events ≤ limit) : Due round (elapse (deadline host events) s) events := by
  have hhash : (elapse (deadline host events) s).hash = s.hash := by
    rcases Key.get_later (Nat.le_add_right s.now (deadline host events)) s.runtime with heq | hgone
    · simp only [Store.hash, elapse, heq]
    · exact absurd hgone ((h.stored.get _).2 hle)
  have hdue := h.published.due
  refine ⟨?_, ?_, ?_, ?_, hdue.ended⟩
  · rw [hhash]
    exact hdue.inBattle
  · rw [hhash]
    exact hdue.ofRound
  · rw [hhash]
    exact hdue.fought
  · rcases Key.get_later (Nat.le_add_right s.now (deadline host events)) s.combatResult with heq | hgone
    · exact heq.trans hdue.cached
    · exact absurd hgone h.cached

/-- The timeout resolves a round that is due. -/
theorem serve_timeout {wait : Nat} {events : List CombatEvent} (hdue : Due round (elapse wait s) events) :
    (serve matchId host s (wait, .combatDoneTimeout round)).hash.phase = some .resolved ∨
      (serve matchId host s (wait, .combatDoneTimeout round)).hash.phase = some .finished := by
  have hwp : (applyDamageAndAdvance matchId round).wp (act host) (fun _ s' =>
      s'.hash.phase = some .resolved ∨ s'.hash.phase = some .finished) (elapse wait s) := by
    refine applyDamageAndAdvance_wp (fun hidle => absurd hdue (hidle events))
      fun _ _ resolution _ _ _ _ s' hs => ?_
    rw [hs.phase, hash_hset]
    unfold Resolution.fields
    cases resolution.winnerId with
    | some winner => exact .inr rfl
    | none => exact .inl rfl
  exact Prog.wp_iff.1 (wp_drop hwp)

/-- **A planned round is resolved at its timeout exactly when the match is
still stored then.** -/
theorem Planned.outlives (h : Planned limit round s) (hbooks : Books host given s) :
    Outlives matchId host round s ↔ s.now + deadline host (battleEvents matchId host s) ≤ limit := by
  have hparses : parseRuntimeHash matchId s.hash ≠ none := by
    simp [parseRuntimeHash, h.phase, positiveInt_eq.2 ⟨h.ofRound, h.positive⟩]
  obtain ⟨runtime, hparse⟩ := Option.ne_none_iff_exists'.1 hparses
  obtain ⟨battle, hbattle⟩ := hbooks.fights ⟨runtime.player1Name, runtime.player2Name, hparse⟩
  have hevents : battleEvents matchId host s = runBattle host.localeCompare battle := by
    unfold battleEvents
    rw [hparse]
    dsimp only
    rw [hbattle]
  obtain ⟨hfought, hnow⟩ : Fought host limit round (runBattle host.localeCompare battle)
      (atBattle matchId host round s) ∧ (atBattle matchId host round s).now = s.now :=
    Prog.wp_iff.1 (wp_drop (tryStartCombat_fights h hparse hbattle))
  unfold Outlives
  rw [hevents]
  dsimp only
  rw [← hnow]
  constructor
  · rintro ⟨-, hreadable, -⟩
    exact (hfought.stored.get _).1 hreadable
  · intro hle
    exact ⟨hfought.cached, (hfought.stored.get _).2 hle, serve_timeout (hfought.due hle)⟩

theorem Opens.atTimer {sends : List (Nat × Request)} (h : Opens round s)
    (hedits : ∀ send ∈ sends, send.2.edits = true) (hwaits : (sends.map Prod.fst).sum ≤ SHOP_PHASE_MS) :
    Planned (s.now + RUNTIME_TTL_SECONDS * 1000) round (atTimer matchId host s sends) ∧
      (Runtime.atTimer matchId host s sends).now = s.now + SHOP_PHASE_MS := by
  have hphase : SHOP_PHASE_MS ≤ RUNTIME_TTL_SECONDS * 1000 := by
    unfold SHOP_PHASE_MS SHOP_PHASE_SECONDS RUNTIME_TTL_SECONDS
    omega
  obtain ⟨hserved, hnow⟩ := @Planned.serves matchId host _ _ _ _ h hedits (by omega)
  refine ⟨hserved.elapse (by omega), ?_⟩
  show (sends.foldl (serve matchId host) s).now + (SHOP_PHASE_MS - (sends.map Prod.fst).sum) = _
  omega

/-- What is left of a match's lifetime once a round is planned. -/
theorem Opens.outlives {sends : List (Nat × Request)} (hopens : Opens round s) (hbooks : Books host given s)
    (hedits : ∀ send ∈ sends, send.2.edits = true) (hwaits : (sends.map Prod.fst).sum ≤ SHOP_PHASE_MS) :
    Outlives matchId host round (Runtime.atTimer matchId host s sends) ↔
      SHOP_PHASE_MS + deadline host (battleEvents matchId host (Runtime.atTimer matchId host s sends)) ≤
        RUNTIME_TTL_SECONDS * 1000 := by
  obtain ⟨hplanned, hnow⟩ := @Opens.atTimer matchId host _ _ _ hopens hedits hwaits
  rw [hplanned.outlives ((serves_books hbooks hedits).elapse _), hnow, Nat.add_assoc]
  exact Nat.add_le_add_iff_left

/-- **The match outlives a battle that starts at the end of its planning
phase exactly when the battle has no more than 2193 visible events**, or its
deadline is set by hand. -/
theorem match_outlives (matchId : String) (hopens : Opens round s) (hbooks : Books host given s)
    {sends : List (Nat × Request)} (hedits : ∀ send ∈ sends, send.2.edits = true)
    (hwaits : (sends.map Prod.fst).sum ≤ SHOP_PHASE_MS) :
    Outlives matchId host round (atTimer matchId host s sends) ↔
      combatDoneTimeoutMs host.timeoutSetting ≠ REAL_COMBAT_DONE_TIMEOUT_MS ∨
        visibleEventCount (battleEvents matchId host (atTimer matchId host s sends)) ≤ 2193 := by
  rw [hopens.outlives hbooks hedits hwaits]
  have hsetting : combatDoneTimeoutMs host.timeoutSetting ≤ 300000 := by
    unfold combatDoneTimeoutMs REAL_COMBAT_DONE_TIMEOUT_MS
    split
    · omega
    · split
      · next h => simp only [Bool.and_eq_true, decide_eq_true_eq] at h; omega
      · omega
  unfold deadline combatDoneTimeoutForEventCount
  generalize visibleEventCount (battleEvents matchId host (atTimer matchId host s sends)) = count
  generalize combatDoneTimeoutMs host.timeoutSetting = setting at hsetting
  unfold RUNTIME_TTL_SECONDS SHOP_PHASE_MS SHOP_PHASE_SECONDS COMBAT_EVENT_PLAYBACK_MS COMBAT_PLAYBACK_GRACE_MS
    REAL_COMBAT_DONE_TIMEOUT_MS
  split <;> omega

/-! ## Rounds open with a new lifetime -/

/-- Announcements after a new lifetime: jobs, publications and offers. -/
def Announces : Cmd → Prop
  | .schedule _ _ | .publish _ | .setShop _ _ _ => True
  | _ => False

theorem Announces.keeps {c : Cmd} (hc : Announces c) (host : Host) (s : Store) :
    (act host c s).2.runtime = s.runtime ∧ (act host c s).2.locks = s.locks ∧ (act host c s).2.now = s.now := by
  cases c with
  | schedule job delayMs =>
    refine ⟨?_, ?_, ?_⟩ <;> simp only [act, schedule] <;> split <;> rfl
  | publish publication => exact ⟨rfl, rfl, rfl⟩
  | setShop userId shop ttlSeconds => exact ⟨rfl, rfl, rfl⟩
  | _ => cases hc

theorem announces_then {c : Cmd} {f : Resp c → M α} (hc : Announces c) (hf : ∀ r, (f r).Issues Announces) :
    ((call c).bind f).Issues Announces := Prog.Issues.perform_bind hc hf

theorem publishState_announces (runtime : MatchRuntimeState) (side : Side) (state : RuntimePlayerState) :
    (publishState runtime side state).Issues Announces :=
  (Prog.Issues.perform (by trivial) _).both (Prog.Issues.perform (by trivial) _)

theorem rollOffersForMatch_announces (runtime : MatchRuntimeState) :
    (rollOffersForMatch host runtime).Issues Announces := by
  have hreset : ∀ playerId, (resetShop host runtime playerId).Issues Announces := fun playerId =>
    announces_then (by trivial) fun _ => Prog.Issues.perform (by trivial) _
  exact (hreset _).both (hreset _)

/-- A round opens when the match is renewed, and stays open while this is announced. -/
theorem Opens.announced {p : M α} (hp : p.Issues Announces) (h : Opens round s) :
    p.wp (act host) (fun _ s' => Opens round s') s := by
  refine Prog.Issues.wp hp (fun c s' hc hs' => ?_) h
  obtain ⟨hruntime, hlocks, hnow⟩ := hc.keeps host s'
  have hhash : (act host c s').2.hash = s'.hash := by
    rw [Store.hash, hruntime, hnow]
    rfl
  refine ⟨?_, ?_, hs'.positive, ?_, ?_, ?_, ?_⟩
  · rw [hhash]
    exact hs'.phase
  · rw [hhash]
    exact hs'.ofRound
  · rw [hhash]
    exact hs'.unfought
  · rw [hhash]
    exact hs'.distinct
  · rw [hlocks, hnow]
    exact hs'.unlocked
  · rw [hnow]
    exact hs'.stored.of_eq hnow hruntime

/-- A new lifetime for a match that is stored. -/
theorem storedUntil_expire (hlive : s.runtime.get s.now ≠ none) (ms : Nat) :
    StoredUntil (s.now + ms) { s with runtime := s.runtime.expire s.now ms } := by
  refine ⟨Nat.le_add_right _ _, s.hash, ?_⟩
  cases hcurrent : s.runtime.current s.now with
  | none => exact absurd (by simp [Key.get, hcurrent]) hlive
  | some e => simp [Key.expire, hcurrent, Store.hash, Key.get]

/-- **The first round opens when the match is announced.** -/
theorem opens_first (matchId : String) (host : Host) (m : Match) (names : PlayerNames)
    (users : String → Option User) (hne : m.player1Id ≠ m.player2Id) :
    Opens 1 (serve matchId host (freshStore m names users) (0, .announce m names)) := by
  have hannounce : (announceMatch host m names).wp (act host) (fun _ s' => Opens 1 s')
      (elapse 0 (freshStore m names users)) := by
    refine wp_call.2 (Opens.announced ?_ ?_)
    · refine announces_then (by trivial) fun _ => announces_then (by trivial) fun _ => ?_
      exact (publishState_announces _ _ _).bind fun _ => rollOffersForMatch_announces _
    · exact ⟨rfl, rfl, Nat.one_pos, by rintro ⟨⟩, hne, rfl, storedUntil_expire (by rintro ⟨⟩) _⟩
  exact Prog.wp_iff.1 hannounce

/-- **The next round opens when a resolved one is advanced.** -/
theorem opens_next {matchId : String} {host : Host} {wait : Nat} (hphase : (elapse wait s).hash.phase = some .resolved)
    (hround : (elapse wait s).hash.round = some round) (hpos : 0 < round)
    (hne : (elapse wait s).hash.player1Id ≠ (elapse wait s).hash.player2Id)
    (hfree : ((elapse wait s).locks .combat).get (elapse wait s).now = none) :
    Opens (round + 1) (serve matchId host s (wait, .roundReadyTimeout round)) := by
  generalize helapsed : elapse wait s = s₀ at hphase hround hne hfree
  have hparses : parseRuntimeHash matchId s₀.hash ≠ none := by
    simp [parseRuntimeHash, hphase, positiveInt_eq.2 ⟨hround, hpos⟩]
  obtain ⟨runtime, hparse⟩ := Option.ne_none_iff_exists'.1 hparses
  obtain ⟨hread, hreadRound, -⟩ := parse_fields hparse
  have hread : runtime.phase = .resolved := Option.some.inj (hread.symm.trans hphase)
  have hreadRound : runtime.round = round := Option.some.inj (hreadRound.symm.trans hround)
  have hadvance : (advanceResolvedRound matchId host round).wp (act host) (fun _ s' => Opens (round + 1) s') s₀ := by
    refine Prog.wp_bind.2 (findRuntime_wp hparse fun a b => ?_)
    show Prog.wp (act host) _ (if runtime.phase ≠ .resolved ∨ runtime.round ≠ round then _ else _) (hydrate s₀)
    rw [if_neg (by simp [hread, hreadRound])]
    obtain ⟨⟨a', b', hhash⟩, hnow, -, -⟩ := hydrate_alike s₀
    have hflips : evalPhaseFlip .resolved .shop_place round (some (round + 1)) (hydrate s₀) =
        (true, (hydrate s₀).hset (flipFields .shop_place (some (round + 1)))) :=
      evalPhaseFlip_flips (by rw [hhash]; exact hphase) (by rw [hhash]; exact hround)
    refine wp_call.2 ?_
    show Prog.wp (act host) _
      (if (!(evalPhaseFlip .resolved .shop_place round (some (round + 1)) (hydrate s₀)).1) = true then _ else _)
      (evalPhaseFlip .resolved .shop_place round (some (round + 1)) (hydrate s₀)).2
    rw [hflips]
    have hlocks : (hydrate s₀).locks = s₀.locks := by
      unfold hydrate
      split <;> rfl
    refine wp_call.2 (wp_call.2 (Opens.announced ?_ ?_))
    · refine announces_then (by trivial) fun _ => announces_then (by trivial) fun _ => ?_
      exact (publishState_announces _ _ _).bind fun _ => (rollOffersForMatch_announces _).bind fun _ => trivial
    · show Opens (round + 1) (act host (.expireRuntime RUNTIME_TTL_SECONDS)
        (((hydrate s₀).hset (flipFields .shop_place (some (round + 1)))).hset resetFields)).2
      have hreset : Store.hash (((hydrate s₀).hset (flipFields .shop_place (some (round + 1)))).hset resetFields) =
          (({ s₀.hash with player1Name := a', player2Name := b' } : RuntimeHash).hset
            (flipFields .shop_place (some (round + 1)))).hset resetFields := by
        rw [hash_hset, hash_hset, hhash]
      generalize hs₁ : ((hydrate s₀).hset (flipFields .shop_place (some (round + 1)))).hset resetFields = s₁ at hreset
      have hhash₁ : (act host (.expireRuntime RUNTIME_TTL_SECONDS) s₁).2.hash = s₁.hash := act_hash host _ _
      have hlocks₁ : s₁.locks = s₀.locks := by
        rw [← hs₁]
        exact hlocks
      have hnow₁ : s₁.now = s₀.now := by
        rw [← hs₁]
        exact hnow
      have hphase₁ : s₁.hash.phase = some .shop_place := by
        rw [hreset]
        rfl
      have hlive := runtime_of_phase hphase₁
      refine ⟨?_, ?_, Nat.succ_pos _, ?_, ?_, ?_, storedUntil_expire hlive _⟩
      · rw [hhash₁, hreset]
        rfl
      · rw [hhash₁, hreset]
        rfl
      · rw [hhash₁, hreset]
        rintro ⟨⟩
      · rw [hhash₁, hreset]
        exact hne
      · show (s₁.locks .combat).get s₁.now = none
        rw [hlocks₁, hnow₁]
        exact hfree
  unfold serve
  rw [helapsed]
  exact Prog.wp_iff.1 (wp_drop hadvance)

end

/-! ## A match that expires -/

theorem isVisible_unlabelled : Unlabelled isVisible where
  label c e := by
    obtain ⟨kind, states⟩ := e
    cases kind <;> rfl
  cycleEnd _ _ := rfl
  battleEnd _ _ _ := rfl

/-- A stored match that opens a round. -/
theorem opens_of_stored {round : Nat} {s : Store} (h : s.hash.phase = some .shop_place ∧
    s.hash.round = some round ∧ 0 < round ∧ s.hash.combatRound = none ∧ s.hash.player1Id ≠ s.hash.player2Id ∧
    (s.locks .combat).get s.now = none ∧
    (s.runtime.entry.bind fun e => e.expireAt) = some (s.now + RUNTIME_TTL_SECONDS * 1000)) : Opens round s := by
  obtain ⟨hphase, hround, hpos, hcombat, hne, hfree, hentry⟩ := h
  obtain ⟨e, hentry, hexpire⟩ := Option.bind_eq_some_iff.1 hentry
  refine ⟨hphase, hround, hpos, by simp [hcombat], hne, hfree, Nat.le_add_right _ _, e.value, ?_⟩
  rw [hentry, ← hexpire]

/-- The events of a battle, by the boards it starts from. -/
theorem battleEvents_eq {matchId : String} {host : Host} {s : Store} {side : Side} {sim : BattleSim}
    (h : ((parseRuntimeHash matchId s.hash).bind fun runtime => (battleOf host runtime).toOption.map fun battle =>
      (initSideOf battle, cloneSim battle)) = some (side, sim)) :
    battleEvents matchId host s = runCycles host.localeCompare side (List.range' 1 MAX_CYCLES) sim := by
  obtain ⟨runtime, hparse, h⟩ := Option.bind_eq_some_iff.1 h
  obtain ⟨battle, hbattle, h⟩ := Option.map_eq_some_iff.1 h
  unfold battleEvents
  rw [hparse]
  dsimp only
  cases hof : battleOf host runtime with
  | error message =>
    rw [hof] at hbattle
    cases hbattle
  | ok battle' =>
    rw [hof] at hbattle
    obtain rfl : battle' = battle := Option.some.inj hbattle
    rw [Prod.mk.injEq] at h
    rw [← h.1, ← h.2]
    rfl

/-- Ids that stay short: a letter, and how often the alphabet was used up. -/
def shortId (n : Nat) : String := String.ofList (Char.ofNat (97 + n % 26) :: List.replicate (n / 26) 'u')

theorem shortId_injective : Function.Injective shortId := by
  have hletter : ∀ a < 26, ∀ b < 26, Char.ofNat (97 + a) = Char.ofNat (97 + b) → a = b := by decide
  intro a b h
  have h := String.ofList_injective h
  injection h with hhead htail
  have hmod := hletter _ (Nat.mod_lt a (by omega)) _ (Nat.mod_lt b (by omega)) hhead
  have hdiv : a / 26 = b / 26 := by simpa using congrArg List.length htail
  rw [← Nat.div_add_mod a 26, ← Nat.div_add_mod b 26, hmod, hdiv]

/-- A host on which the shops of the match offer healers only. -/
def healerShops : Host :=
  { plainHost with
    digests := { plainHost.digests with hashString := fun _ => 122 }
    uuid := shortId
    uuid_injective := shortId_injective }

def shopping (round : Nat) (userId : String) (actions : List ShopAction) : List (Nat × Request) :=
  actions.zipIdx.map fun (action, i) =>
    (0, .action userId round (.shop action (Nat.repr (100 * round + i))))

def placing (userId : String) (firstSlot : Nat) (ids : List String) : List (Nat × Request) :=
  ids.zipIdx.map fun (id, i) =>
    (0, .action userId 6 (.place id .board (firstSlot + i) (Nat.repr (1000 + firstSlot + i))))

def fuseHealers : ShopAction := .fuse .healer none none

/-- Both players buy five healers and fuse what they can; nobody fights. -/
def healerRound (round : Nat) : List (Nat × Request) :=
  let actions : List ShopAction := [.buy 0, .buy 1, .buy 2, fuseHealers, fuseHealers, .buy 3, fuseHealers,
    fuseHealers, .buy 4, fuseHealers, fuseHealers]
  shopping round "u1" actions ++ shopping round "u2" actions ++
    [(40000, .phaseTimer round), (60000, .combatDoneTimeout round), (3000, .roundReadyTimeout round)]

/-- The sixth round opens. -/
def sixthRound : Store :=
  ((0, .announce friendly ⟨"one", "two"⟩) :: (List.range' 1 5).flatMap healerRound).foldl
    (serve friendly.id healerShops) (freshStore friendly ⟨"one", "two"⟩ fun _ => none)

/-- Each player places six healers of two stars, and makes and places a
seventh. -/
def muster : List (Nat × Request) :=
  let last := [.buy 0, .buy 1, .buy 2, fuseHealers, fuseHealers, fuseHealers]
  placing "u1" 0 ["b", "n", "qu", "xuu", "iuuuu", "duuuuu"] ++ shopping 6 "u1" last ++ placing "u1" 6 ["quuuuuu"] ++
    placing "u2" 0 ["r", "du", "guu", "nuuu", "yuuuu", "tuuuuu"] ++ shopping 6 "u2" last ++
    placing "u2" 6 ["guuuuuuu"]

/-- Healers of two stars, the first of them slowed, with the HP they have
and the healers who slowed them. -/
def squad (side : Side) (ids : List String) (slowed : List (Int × String)) : List UnitInstance :=
  ids.zipIdx.map fun (id, slot) =>
    { instanceId := id, unitId := .healer, star := 2, hp := (slowed[slot]?.map Prod.fst).getD 70, maxHp := 70,
      slot := slot, side := side, alive := true, revivedThisRound := some false,
      slowActive := slowed[slot]?.map fun _ => true, slowUntilHealerAct := slowed[slot]?.map Prod.snd,
      effectiveSpd := some (if slot < slowed.length then 35 else 50) }

/-- The two squads as they meet, or after these were slowed. -/
def squads (slowed1 slowed2 : List (Int × String)) : BattleSim where
  p1Units := squad .p1 ["b", "n", "qu", "xuu", "iuuuu", "duuuuu", "quuuuuu"] slowed1
  p2Units := squad .p2 ["r", "du", "guu", "nuuu", "yuuuu", "tuuuuu", "guuuuuuu"] slowed2

/-- The squads after any number of cycles: what is hit is healed. -/
def standoff : BattleSim :=
  squads [(70, "guuuuuuu"), (70, "yuuuu"), (70, "tuuuuu")] [(46, "quuuuuu"), (58, "iuuuu"), (58, "duuuuu")]

set_option maxRecDepth 100000 in
theorem first_cycle :
    (runTicks healerShops.localeCompare .p2 1 (List.range' 1 TICKS_PER_CYCLE) (squads [] [])).1 = standoff ∧
    (runTicks healerShops.localeCompare .p2 1 (List.range' 1 TICKS_PER_CYCLE) (squads [] [])).2.countP
      isVisible = 92 := by
  decide +kernel

set_option maxRecDepth 100000 in
theorem standoff_cycle :
    (runTicks healerShops.localeCompare .p2 1 (List.range' 1 TICKS_PER_CYCLE) standoff).1 = standoff ∧
    (runTicks healerShops.localeCompare .p2 1 (List.range' 1 TICKS_PER_CYCLE) standoff).2.countP
      isVisible = 83 := by
  decide +kernel

/-- Thirty cycles of the standoff: nobody dies. -/
theorem standoff_visible : visibleEventCount
    (runCycles healerShops.localeCompare .p2 (List.range' 1 MAX_CYCLES) (squads [] [])) = 2499 := by
  have hstanding : standing standoff .p1 = true ∧ standing standoff .p2 = true := by decide
  have hcycles : List.range' 1 MAX_CYCLES = 1 :: List.range' 2 29 := rfl
  rw [visibleEventCount, ← List.countP_eq_length_filter, hcycles,
    runCycles_countP isVisible_unlabelled first_cycle.1 hstanding.1 hstanding.2,
    runCycles_steady isVisible_unlabelled standoff_cycle.1 hstanding.1 hstanding.2, first_cycle.2,
    standoff_cycle.2, List.length_range']

set_option maxRecDepth 100000 in
theorem sixthRound_opens : Opens 6 sixthRound := opens_of_stored (by decide +kernel)

theorem sixthRound_books : ∃ given, Books healerShops given sixthRound := by
  have hplayer : NewPlayer freshPlayer := ⟨rfl, by simp [freshPlayer], by simp [freshPlayer]⟩
  exact ⟨_, books_of_served _ (freshStore_books _ _ hplayer hplayer) _⟩

set_option maxRecDepth 100000 in
theorem muster_boards : ((parseRuntimeHash "m" (atTimer "m" healerShops sixthRound muster).hash).bind fun runtime =>
    (battleOf healerShops runtime).toOption.map fun battle => (initSideOf battle, cloneSim battle)) =
      some (.p2, squads [] []) := by
  decide +kernel

theorem muster_edits : (∀ send ∈ muster, send.2.edits = true) ∧ (muster.map Prod.fst).sum ≤ SHOP_PHASE_MS := by
  decide

theorem muster_deadline :
    deadline healerShops (battleEvents "m" healerShops (atTimer "m" healerShops sixthRound muster)) = 2004200 := by
  have hdeadline : combatDoneTimeoutForEventCount 2499 (combatDoneTimeoutMs healerShops.timeoutSetting) = 2004200 := by
    decide
  rw [battleEvents_eq muster_boards, deadline, standoff_visible, hdeadline]

/-- Seven healers of two stars a side keep each other alive: 2499 events,
and the match expires before they are played. -/
theorem match_expires : Opens 6 sixthRound ∧ (∃ given, Books healerShops given sixthRound) ∧
    (∀ send ∈ muster, send.2.edits = true) ∧ (muster.map Prod.fst).sum ≤ SHOP_PHASE_MS ∧
    ¬ Outlives "m" healerShops 6 (atTimer "m" healerShops sixthRound muster) := by
  obtain ⟨given, hbooks⟩ := sixthRound_books
  refine ⟨sixthRound_opens, ⟨given, hbooks⟩, muster_edits.1, muster_edits.2, fun houtlives => ?_⟩
  have hle := (sixthRound_opens.outlives hbooks muster_edits.1 muster_edits.2).1 houtlives
  rw [muster_deadline] at hle
  unfold RUNTIME_TTL_SECONDS SHOP_PHASE_MS SHOP_PHASE_SECONDS at hle
  omega

/-- The match as its first round opens. -/
def firstOpened : Store :=
  serve friendly.id plainHost (freshStore friendly ⟨"one", "two"⟩ fun _ => none) (0, .announce friendly ⟨"one", "two"⟩)

/-- Each player buys a unit and puts it on the board. -/
def fielding (round : Nat) (bought : String) : List (Nat × Request) :=
  [(10, .action "u1" round (.shop (.buy 4) "a")), (10, .action "u1" round (.place bought .board 0 "b")),
   (10, .action "u2" round (.shop (.buy 0) "a")), (10, .action "u2" round (.place "uuuu" .board 0 "b"))]

/-- The first round is fought and resolved by its timers. -/
def untilResolved : List (Nat × Request) := [(40000, .phaseTimer 1), (60000, .combatDoneTimeout 1)]

def resolvedRound : Store := untilResolved.foldl (serve friendly.id plainHost) firstOpened

set_option maxRecDepth 100000 in
/-- The battle of the first round, and that of the second when nobody has
fielded a unit in the first. -/
theorem match_outlives_fielding :
    Outlives friendly.id plainHost 1 (atTimer friendly.id plainHost firstOpened (fielding 1 "u")) ∧
    Outlives friendly.id plainHost 2 (atTimer friendly.id plainHost
      (serve friendly.id plainHost resolvedRound (3000, .roundReadyTimeout 1)) (fielding 2 "uu")) := by
  have hplayer : NewPlayer freshPlayer := ⟨rfl, by simp [freshPlayer], by simp [freshPlayer]⟩
  have hfresh : Books plainHost 0 (freshStore friendly ⟨"one", "two"⟩ fun _ => none) :=
    freshStore_books _ _ hplayer hplayer
  have hfirst := serve_books friendly.id hfresh (0, .announce friendly ⟨"one", "two"⟩)
  have hsecond := serve_books friendly.id (books_of_served friendly.id hfirst untilResolved) (3000, .roundReadyTimeout 1)
  have hopens : Opens 2 (serve friendly.id plainHost resolvedRound (3000, .roundReadyTimeout 1)) :=
    opens_next (by decide +kernel) (by decide +kernel) Nat.one_pos (by decide +kernel) (by decide +kernel)
  constructor
  · refine (match_outlives friendly.id (opens_first friendly.id plainHost friendly ⟨"one", "two"⟩ (fun _ => none)
      (by decide)) hfirst (by decide) (by decide)).2 (.inr ?_)
    decide +kernel
  · refine (match_outlives friendly.id hopens hsecond (by decide) (by decide)).2 (.inr ?_)
    decide +kernel

end AutoChess.Runtime
