/-
The books of a whole match. Requests are served one at a time, whatever
their order: an action on a roster keeps the books of the player who acts
(`Shop.Ledger`), a round that both players survive gives each five gold, and
nothing else writes the players' states.
-/
import AutoChess.Runtime.Edits
import AutoChess.Shop.Ledger

namespace AutoChess.Runtime

open AutoChess.Game AutoChess.Shop Calls Expiring

def stored (h : RuntimeHash) : Side → RuntimePlayerState
  | .p1 => h.p1State
  | .p2 => h.p2State

/-- The ids drawn so far. -/
def Issued (host : Host) (n : Nat) (id : String) : Prop := ∃ i < n, id = host.uuid i

/-- Both players' books, while the match is stored. -/
def Books (host : Host) (given : Nat) (s : Store) : Prop :=
  s.hash.phase ≠ none → ∀ side, Ledger given (Issued host s.drawn) (stored s.hash side)

/-- Rounds that ended between two stores with both players alive: one
request ends one round at most. -/
def gained (s s' : Store) : Nat :=
  if s.hash.phase = some .battle ∧ s'.hash.phase = some .resolved then 1 else 0

/-- Rounds resolved without a knockout while these requests are served. -/
def survived (matchId : String) (host : Host) : Store → List (Nat × Request) → Nat
  | _, [] => 0
  | s, send :: sends =>
    gained (elapse send.1 s) (serve matchId host s send) +
      survived matchId host (serve matchId host s send) sends

section
variable {matchId : String} {host : Host} {given : Nat} {phase : Option MatchPhase} {s s' : Store}
  {runtime : MatchRuntimeState} {side : Side} {state : RuntimePlayerState}

theorem Issued.mono {n n' : Nat} {id : String} (h : Issued host n id) (hn : n ≤ n') :
    Issued host n' id := by
  obtain ⟨i, hi, rfl⟩ := h
  exact ⟨i, hi.trans_le hn, rfl⟩

theorem Alike.stored (h : Alike s s') : stored s'.hash side = stored s.hash side := by
  obtain ⟨⟨a, b, h⟩, -, -⟩ := h
  rw [h]
  cases side <;> rfl

theorem stored_stateField (h : RuntimeHash) (side' : Side) :
    stored (h.hset [stateField side state]) side' = if side' = side then state else stored h side' := by
  cases side <;> cases side' <;> rfl

theorem Books.alike (hb : Books host given s) (h : Alike s s') : Books host given s' := by
  intro hphase side
  rw [h.stored]
  exact (hb (h.phase ▸ hphase) side).mono fun id hid => hid.mono h.drawn

theorem ReadAs.live (h : ReadAs matchId s.hash runtime) : s.hash.phase ≠ none := by
  rw [h.fields.1]
  exact Option.some_ne_none _

/-- What a request reads of a player is what is stored. -/
theorem Books.reads (hb : Books host given s) (hread : ReadAs matchId s.hash runtime) (side : Side) :
    sideState runtime side = stored s.hash side := by
  refine Eq.trans ?_ (hb hread.live side).normalize
  obtain ⟨a, b, hread⟩ := hread
  simp only [parseRuntimeHash, Option.bind_eq_bind, Option.bind_eq_some_iff, Option.pure_def,
    Option.some.injEq] at hread
  obtain ⟨phase, -, round, -, heq⟩ := hread
  cases side with
  | p1 => exact (congrArg (·.p1State) heq).symm
  | p2 => exact (congrArg (·.p2State) heq).symm

theorem Books.read (hb : Books host given s) (hread : ReadAs matchId s.hash runtime) (side : Side) :
    Ledger given (Issued host s.drawn) (sideState runtime side) := by
  rw [hb.reads hread side]
  exact hb hread.live side

/-! ## Roster actions -/

/-- The books hold, and the phase is still the one it was. -/
structure Kept (host : Host) (given : Nat) (phase : Option MatchPhase) (s : Store) : Prop where
  books : Books host given s
  phase : s.hash.phase = phase

/-- Every roster action keeps the books of the player who acts, if the UUID
it draws is not one of theirs. -/
theorem Edited.books {drawn : Nat} {after : RuntimePlayerState} {known : String → Prop}
    (h : Edited host drawn state after) (hfresh : ¬ known (host.uuid drawn)) (hstate : Ledger given known state) :
    Ledger given (fun id => known id ∨ id = host.uuid drawn) after := by
  have hmono : ∀ {state'}, Ledger given known state' →
      Ledger given (fun id => known id ∨ id = host.uuid drawn) state' := fun h => h.mono fun _ => .inl
  cases h with
  | place h => exact hmono (hstate.place h)
  | buy hoffer h => exact hstate.buy hoffer h hfresh
  | sell h => exact hmono (hstate.sell h)
  | refresh => exact hmono hstate
  | fuse h => exact hmono (hstate.fuse h)

theorem uuid_fresh {n drawn : Nat} (hn : n ≤ drawn) : ¬ Issued host n (host.uuid drawn) := by
  rintro ⟨i, hi, heq⟩
  exact (hi.trans_le hn).ne (host.uuid_injective heq).symm

theorem Edited.ledger {drawn : Nat} {after : RuntimePlayerState} (h : Edited host drawn state after)
    {n : Nat} (hn : n ≤ drawn) (hstate : Ledger given (Issued host n) state) :
    Ledger given (Issued host (drawn + 1)) after := by
  refine (h.books (uuid_fresh hn) hstate).mono fun id hid => ?_
  rcases hid with hid | rfl
  · exact hid.mono (hn.trans (Nat.le_succ _))
  · exact ⟨drawn, Nat.lt_succ_self _, rfl⟩

theorem Edits.kept (h : Edits matchId host s s') (hb : Books host given s) :
    Kept host given s.hash.phase s' := by
  cases h with
  | none hs => exact ⟨hb.alike hs, hs.phase⟩
  | @one runtime side drawn state hread _ hstate hold hnew hs =>
    have hafter := hstate.ledger hold (hb.read hread side)
    have hphase : (s.hset [stateField side state]).hash.phase = s.hash.phase := by
      rw [hash_hset]
      cases side <;> rfl
    refine ⟨fun hsome side' => ?_, hs.phase.trans hphase⟩
    rw [hs.stored, hash_hset, stored_stateField]
    split
    · exact hafter.mono fun id hid => hid.mono hnew
    · rw [hs.phase, hphase] at hsome
      exact (hb hsome side').mono fun id hid => hid.mono (hold.trans hnew.le)

/-! ## Resolving a round -/

theorem gained_of_same (h : s'.hash.phase = s.hash.phase) : gained s s' = 0 := by
  refine if_neg fun hboth => ?_
  rw [h, hboth.1] at hboth
  cases hboth.2

theorem resolveRound_players {round : Nat} {events : List CombatEvent} {resolution : Resolution}
    (h : resolveRound runtime round events = some resolution) : ∃ d₁ d₂,
      resolution.p1 = hit runtime.p1State d₁ ∧ resolution.p2 = hit runtime.p2State d₂ := by
  simp only [resolveRound, Option.bind_eq_bind, Option.bind_eq_some_iff, Option.pure_def,
    Option.some.injEq] at h
  obtain ⟨winner, -, rfl⟩ := h
  exact ⟨_, _, rfl, rfl⟩

/-- **A resolved round gives both players five gold, or ends the match.** -/
theorem applyDamageAndAdvance_books {round : Nat} (hb : Books host given s) :
    (applyDamageAndAdvance matchId round).wp (act host)
      (fun _ s' => Books host (given + gained s s') s') s := by
  refine applyDamageAndAdvance_wp (fun _ o s' hs => ?_)
    fun runtime events resolution hdue hread hres o s' hs => ?_
  · rw [gained_of_same hs.phase]
    exact hb.alike hs
  obtain ⟨d₁, d₂, hp1, hp2⟩ := resolveRound_players hres
  have hbooks := hb.read hread
  have hafter : Ledger given (Issued host s.drawn) resolution.p1 ∧
      Ledger given (Issued host s.drawn) resolution.p2 :=
    ⟨hp1 ▸ (hbooks .p1).hit d₁, hp2 ▸ (hbooks .p2).hit d₂⟩
  have hphase := hs.phase
  rw [hash_hset] at hphase
  intro hsome side
  rw [hs.stored, hash_hset]
  refine Ledger.mono ?_ fun id hid => Issued.mono hid hs.drawn
  unfold Resolution.fields at hphase ⊢
  cases hwinner : resolution.winnerId with
  | some winner =>
    rw [hwinner] at hphase
    have hgained : gained s s' = 0 := by
      refine if_neg fun hboth => ?_
      rw [hphase] at hboth
      cases hboth.2
    rw [hgained]
    cases side with
    | p1 => exact hafter.1
    | p2 => exact hafter.2
  | none =>
    rw [hwinner] at hphase
    have hgained : gained s s' = 1 := if_pos ⟨hdue.inBattle, hphase⟩
    rw [hgained]
    cases side with
    | p1 => exact hafter.1.rewarded
    | p2 => exact hafter.2.rewarded

theorem Resolves.books (h : Resolves matchId host s s') (hb : Books host given s) :
    Books host (given + gained s s') s' := by
  cases h with
  | none hs =>
    rw [gained_of_same hs.phase]
    exact hb.alike hs
  | @round s₁ round events hs hdue heq =>
    have hresolved : Books host (given + gained s₁ s') s' := by
      rw [heq]
      exact Prog.wp_iff.1 (applyDamageAndAdvance_books (hb.alike hs.toAlike))
    unfold gained at hresolved ⊢
    rwa [hs.phase] at hresolved

/-! ## Everything else -/

/-- What the other requests do to the hash: the players' states stay, a gone
match stays gone, and no round is resolved. -/
structure Calm (h h' : RuntimeHash) : Prop where
  players : ∀ side, stored h' side = stored h side
  alive : h'.phase ≠ none → h.phase ≠ none
  resolved : h'.phase = some .resolved → h.phase = some .resolved

theorem Calm.refl (h : RuntimeHash) : Calm h h := ⟨fun _ => rfl, id, id⟩

theorem Calm.trans {h₁ h₂ h₃ : RuntimeHash} (h : Calm h₁ h₂) (h' : Calm h₂ h₃) : Calm h₁ h₃ where
  players side := (h'.players side).trans (h.players side)
  alive := h.alive ∘ h'.alive
  resolved := h.resolved ∘ h'.resolved

theorem Calm.books (hb : Books host given s) (hc : Calm s.hash s'.hash) (hd : s.drawn ≤ s'.drawn) :
    Books host (given + gained s s') s' := by
  have hgained : gained s s' = 0 := by
    refine if_neg fun hboth => ?_
    have := hc.resolved hboth.2
    rw [hboth.1] at this
    cases this
  intro hsome side
  rw [hgained, hc.players]
  exact (hb (hc.alive hsome) side).mono fun id hid => hid.mono hd

/-- One call of a request that neither edits a roster nor resolves a round. -/
theorem guard_calm {q : Request} {h : History} {c : Cmd} (hg : Guard matchId q h c)
    (hedits : q.edits = false) (hresolves : q.resolves = false) :
    Calm s.hash (act host c s).2.hash := by
  rw [act_hash]
  cases c with
  | hset fields =>
    cases (show WriteGuard matchId q h fields from hg) with
    | names => exact ⟨fun side => by cases side <;> rfl, id, id⟩
    | fought => exact ⟨fun side => by cases side <;> rfl, id, id⟩
    | result hc hlive hfirst hq => exact absurd hq (by simp [hresolves])
    | knockout hc hover hfirst hq => exact absurd hq (by simp [hresolves])
    | reset => exact ⟨fun side => by cases side <;> rfl, id, id⟩
    | @roundReady _ _ _ side' => cases side' <;> exact ⟨fun side => by cases side <;> rfl, id, id⟩
    | @markReady _ _ side' => cases side' <;> exact ⟨fun side => by cases side <;> rfl, id, id⟩
  | phaseFlip expectedPhase newPhase round next =>
    show Calm s.hash (s.hash.hset (if _ then _ else _))
    split
    · next hflips =>
      have hphase := (evalPhaseFlip_iff.1 hflips).1
      have halive : s.hash.phase ≠ none := by simp [hphase]
      cases (show FlipGuard matchId q h expectedPhase newPhase round next from hg) with
      | start => exact ⟨fun side => by cases side <;> rfl, fun _ => halive, fun h => by cases h⟩
      | resolve _ _ _ _ _ hq => exact absurd hq (by simp [hresolves])
      | advance => exact ⟨fun side => by cases side <;> rfl, fun _ => halive, fun h => by cases h⟩
      | finish => exact ⟨fun side => by cases side <;> rfl, fun _ => halive, fun h => by cases h⟩
    · exact .refl _
  | actionLog userId actionId field shop phase round =>
    show Calm s.hash (s.hash.hset (if _ then _ else _))
    split
    · cases (show LogGuard q field phase from hg) with
      | state hq => exact absurd hq (by simp [hedits])
      | @ready _ _ _ _ side' => cases side' <;> exact ⟨fun side => by cases side <;> rfl, id, id⟩
    · exact .refl _
  | _ => exact .refl _

theorem program_calm {q : Request} (hedits : q.edits = false) (hresolves : q.resolves = false) :
    (program matchId host q).wp (act host)
      (fun _ s' => Calm s.hash s'.hash ∧ s.drawn ≤ s'.drawn) s := by
  have hguarded : Guarded matchId q [] (program matchId host q) := program_guarded q
  refine Prog.wp_mono (hguarded.wp (J := fun _ s' => Calm s.hash s'.hash ∧ s.drawn ≤ s'.drawn) ?_
    ⟨.refl _, le_rfl⟩) fun o s' ⟨h', hs'⟩ => hs'
  intro h c s' hg ⟨hcalm, hdrawn⟩
  exact ⟨hcalm.trans (guard_calm hg hedits hresolves), hdrawn.trans (act_frame host c s').drawn⟩

/-! ## Whole matches -/

theorem Kept.gained (h : Kept host given s.hash.phase s') : Books host (given + gained s s') s' := by
  rw [gained_of_same h.phase]
  exact h.books

theorem program_kept {q : Request} (hedits : q.edits = true) (hb : Books host given s) :
    (program matchId host q).wp (act host) (fun _ s' => Kept host given s.hash.phase s') s :=
  Prog.wp_mono (program_edits hedits) fun _ _ h => h.kept hb

theorem program_books {q : Request} (hb : Books host given s) : (program matchId host q).wp (act host)
    (fun _ s' => Books host (given + gained s s') s') s := by
  by_cases hedits : q.edits = true
  · exact Prog.wp_mono (program_kept hedits hb) fun o s' h => h.gained
  by_cases hresolves : q.resolves = true
  · exact Prog.wp_mono (program_resolves hresolves) fun _ _ h => h.books hb
  · exact Prog.wp_mono (program_calm (by simpa using hedits) (by simpa using hresolves))
      fun o s' ⟨hcalm, hdrawn⟩ => hcalm.books hb hdrawn

theorem Books.elapse (hb : Books host given s) (ms : Nat) : Books host given (elapse ms s) := by
  intro hsome side
  rcases hash_elapse ms s with h | h
  · rw [Runtime.elapse, h] at hsome ⊢
    exact hb hsome side
  · rw [Runtime.elapse, h] at hsome
    exact absurd rfl hsome

/-- One request keeps the books. -/
theorem serve_books (matchId : String) (hb : Books host given s) (send : Nat × Request) :
    Books host (given + gained (elapse send.1 s) (serve matchId host s send))
      (serve matchId host s send) := by
  exact Prog.wp_iff.1 (program_books (hb.elapse send.1))

theorem books_of_served (matchId : String) (hb : Books host given s) (sends : List (Nat × Request)) :
    Books host (given + survived matchId host s sends) (sends.foldl (serve matchId host) s) := by
  induction sends generalizing given s with
  | nil => exact hb
  | cons send sends ih =>
    have := ih (serve_books matchId hb send)
    rw [survived, ← Nat.add_assoc]
    exact this

/-- A player before the first round: five gold and no units. -/
structure NewPlayer (p : RuntimePlayerState) : Prop where
  gold : p.gold = 5
  board : ∀ x ∈ p.board, x = none
  bench : ∀ x ∈ p.bench, x = none

theorem normalizeSlots_empty {slots : Slots} {n : Nat} (h : ∀ x ∈ slots, x = none) :
    ∀ x ∈ normalizeSlots slots n, x = none := by
  intro x hx
  obtain ⟨index, -, rfl⟩ := List.mem_map.1 hx
  cases hget : slots[index]? with
  | none => rfl
  | some y => exact h y (List.mem_of_getElem? hget)

theorem NewPlayer.ledger {p : RuntimePlayerState} (h : NewPlayer p) (known : String → Prop) :
    Ledger 0 known { normalizePlayerState p with ready := false } := by
  refine .new ?_ ?_ (units_empty (normalizeSlots_empty h.board) (normalizeSlots_empty h.bench)) ?_ ?_
  · simp [normalizePlayerState, finiteNonNegative, h.gold]
  · show 0 ≤ finiteNonNegative p.hp 100
    unfold finiteNonNegative
    split <;> omega
  · simp [normalizePlayerState, normalizeSlots]
  · simp [normalizePlayerState, normalizeSlots]

theorem freshStore_books {m : Match} (names : PlayerNames) (users : String → Option User)
    (h1 : NewPlayer m.p1State) (h2 : NewPlayer m.p2State) :
    Books host 0 (freshStore m names users) := by
  intro _ side
  cases side with
  | p1 => exact h1.ledger _
  | p2 => exact h2.ledger _

/-- **Gold is conserved over a whole match.** From a fresh match, whatever
requests are served in whatever order: a player's gold and the gold in their
units add up to five, and five more for every round resolved without a
knockout; the gold is never negative, and every unit is worth its copies. -/
theorem gold_conserved {m : Match} (names : PlayerNames) (users : String → Option User)
    (h1 : NewPlayer m.p1State) (h2 : NewPlayer m.p2State) (sends : List (Nat × Request))
    (hread : parseRuntimeHash m.id (sends.foldl (serve m.id host) (freshStore m names users)).hash =
      some runtime) (side : Side) :
    (sideState runtime side).gold + ((units (sideState runtime side)).map investedGold).sum =
        5 + 5 * survived m.id host (freshStore m names users) sends ∧
      0 ≤ (sideState runtime side).gold ∧
      ∀ u ∈ units (sideState runtime side), Standard u := by
  have hfresh : Books host 0 (freshStore m names users) := freshStore_books names users h1 h2
  have hbooks := books_of_served m.id hfresh sends
  have hledger := hbooks.read ⟨runtime.player1Name, runtime.player2Name, hread⟩ side
  rw [Nat.zero_add] at hledger
  exact ⟨hledger.balance, hledger.gold, hledger.standard⟩

end

/-- A healer bought, and the first round a tie. -/
def firstRound : List (Nat × Request) :=
  [(0, .announce friendly ⟨"one", "two"⟩), (10, .action "u1" 1 (.shop (.buy 4) "a")),
   (40000, .phaseTimer 1), (10, .combatDoneTimeout 1)]

set_option maxRecDepth 100000 in
theorem gold_conserved_firstRound : ∃ runtime,
    parseRuntimeHash friendly.id (firstRound.foldl (serve friendly.id plainHost)
      (freshStore friendly ⟨"one", "two"⟩ fun _ => none)).hash = some runtime ∧
    runtime.p1State.gold = 9 ∧ runtime.p1State.gold + invested runtime.p1State = 10 := by
  have hplayer : NewPlayer freshPlayer := ⟨rfl, by simp [freshPlayer], by simp [freshPlayer]⟩
  have hrun : ((parseRuntimeHash friendly.id (firstRound.foldl (serve friendly.id plainHost)
      (freshStore friendly ⟨"one", "two"⟩ fun _ => none)).hash).map fun runtime => runtime.p1State.gold) =
      some 9 := by decide
  obtain ⟨runtime, hread, hgold⟩ := Option.map_eq_some_iff.1 hrun
  have hcount : survived friendly.id plainHost (freshStore friendly ⟨"one", "two"⟩ fun _ => none)
      firstRound = 1 := by decide
  have h := (gold_conserved _ _ hplayer hplayer firstRound hread .p1).1
  rw [hcount] at h
  exact ⟨runtime, hread, hgold, h⟩

end AutoChess.Runtime
