/-
Requests served one at a time (`serve`), with the rules for what a program
does when no other one is at the services: quiet calls leave the match alike,
reads return what is stored.
-/
import AutoChess.Runtime.Battles

namespace AutoChess.Runtime

open AutoChess.Game AutoChess.Shop Calls Expiring

/-- Some time passes. -/
def elapse (ms : Nat) (s : Store) : Store := { s with now := s.now + ms }

/-- Some time passes, and then a request runs to its end. -/
def serve (matchId : String) (host : Host) (s : Store) (send : Nat × Request) : Store :=
  ((program matchId host send.2).alone (act host) (elapse send.1 s)).2

/-- The same match, but for the names of its players. -/
structure Alike (s s' : Store) : Prop where
  hash : ∃ a b, s'.hash = { s.hash with player1Name := a, player2Name := b }
  now : s'.now = s.now
  drawn : s.drawn ≤ s'.drawn
  combatResult : s'.combatResult = s.combatResult

theorem Alike.refl (s : Store) : Alike s s := ⟨⟨_, _, rfl⟩, rfl, le_rfl, rfl⟩

theorem Alike.trans {s₁ s₂ s₃ : Store} (h₁ : Alike s₁ s₂) (h₂ : Alike s₂ s₃) : Alike s₁ s₃ := by
  obtain ⟨⟨a, b, h₁⟩, hn₁, hd₁, hc₁⟩ := h₁
  obtain ⟨⟨a', b', h₂⟩, hn₂, hd₂, hc₂⟩ := h₂
  exact ⟨⟨a', b', by rw [h₂, h₁]⟩, hn₂.trans hn₁, hd₁.trans hd₂, hc₂.trans hc₁⟩

theorem Alike.phase {s s' : Store} (h : Alike s s') : s'.hash.phase = s.hash.phase := by
  obtain ⟨⟨a, b, h⟩, -, -, -⟩ := h
  rw [h]

theorem hset_renamed (h : RuntimeHash) (a b : String) (fields : List FieldWrite) : ∃ a' b',
    ({ h with player1Name := a, player2Name := b } : RuntimeHash).hset fields =
      { h.hset fields with player1Name := a', player2Name := b' } := by
  induction fields generalizing h a b with
  | nil => exact ⟨a, b, rfl⟩
  | cons f fields ih =>
    obtain ⟨a', b', hwrite⟩ : ∃ a' b',
        ({ h with player1Name := a, player2Name := b } : RuntimeHash).write f =
          { h.write f with player1Name := a', player2Name := b' } := by
      cases f <;> exact ⟨_, _, rfl⟩
    rw [hset_cons, hset_cons, hwrite]
    exact ih _ _ _

/-- Both are written the same fields. -/
theorem Alike.hset {s s' : Store} (h : Alike s s') (fields : List FieldWrite) :
    Alike (s.hset fields) (s'.hset fields) := by
  obtain ⟨⟨a, b, hhash⟩, hnow, hdrawn, hcached⟩ := h
  refine ⟨?_, hnow, hdrawn, hcached⟩
  rw [hash_hset, hash_hset, hhash]
  exact hset_renamed _ _ _ _

theorem Quiet.alike {c : Cmd} (hc : Quiet c) (host : Host) (s : Store) :
    Alike s (act host c s).2 := by
  have hframe := act_frame host c s
  have hkeys : c.onCombatKeys = false := by
    cases c with
    | delCombatKeys => cases hc
    | writeCombatResult events ttl => cases hc
    | _ => rfl
  refine ⟨?_, hframe.now, hframe.drawn, hframe.combatResult hkeys⟩
  rw [act_hash]
  cases c with
  | hset fields =>
    obtain ⟨a, b, rfl⟩ := hc
    exact ⟨a, b, rfl⟩
  | hgetall => cases hc
  | phaseFlip expectedPhase newPhase round next => cases hc
  | actionLog userId id field shop phase round => cases hc
  | delCombatKeys => cases hc
  | writeCombatResult events ttl => cases hc
  | runBattle round state => cases hc
  | updateRuntimeSnapshot p1 p2 w1 w2 => cases hc
  | _ => exact ⟨_, _, rfl⟩

section
variable {matchId : String} {host : Host} {α β : Type} {s : Store} {Q : Except Err β → Store → Prop}

theorem wp_call {c : Cmd} {f : Resp c → M β} :
    ((call c).bind f).wp (act host) Q s ↔ (f (act host c s).1).wp (act host) Q (act host c s).2 :=
  Iff.rfl

theorem quiet_wp {p : M α} (hp : p.Issues Quiet) : p.wp (act host) (fun _ s' => Alike s s') s :=
  Prog.Issues.wp hp (fun _ _ hc hs => hs.trans (hc.alike host _)) (.refl s)

/-- Quiet calls, then the rest. -/
theorem wp_quiet {p : M α} {f : α → M β} (hp : p.Issues Quiet)
    (hok : ∀ a s', Alike s s' → (f a).wp (act host) Q s')
    (herr : ∀ e s', Alike s s' → Q (.error e) s') : (p.bind f).wp (act host) Q s := by
  refine Prog.wp_bind.2 (Prog.wp_mono (quiet_wp hp) fun o s' hs => ?_)
  cases o with
  | ok a => exact hok a s' hs
  | error e => exact herr e s' hs

/-- A program whose value is dropped. -/
theorem wp_drop {α : Type} {p : M α} {I : Store → Prop} (hp : p.wp (act host) (fun _ s' => I s') s) :
    (p.bind fun _ => (pure () : M Unit)).wp (act host) (fun _ s' => I s') s := by
  refine Prog.wp_bind.2 (Prog.wp_mono hp fun o s' h => ?_)
  cases o <;> exact h

/-! ## Reads -/

theorem hgetall_reply (host : Host) (s : Store) : (act host .hgetall s).1 = s.hash := rfl

/-- What a read leaves: names are looked up once. -/
def hydrate (s : Store) : Store :=
  if s.hash.player1Name == "" || s.hash.player2Name == "" then
    let names := usernames s.users s.hash.player1Id s.hash.player2Id
    s.hset [.player1Name names.player1Name, .player2Name names.player2Name]
  else s

theorem hydrate_alike (s : Store) : Alike s (hydrate s) := by
  unfold hydrate
  split
  · exact ⟨⟨_, _, hash_hset _ _⟩, rfl, le_rfl, rfl⟩
  · exact .refl s

theorem parse_ids {hash : RuntimeHash} {runtime : MatchRuntimeState}
    (h : parseRuntimeHash matchId hash = some runtime) :
    runtime.player1Id = hash.player1Id ∧ runtime.player2Id = hash.player2Id := by
  simp only [parseRuntimeHash, Option.bind_eq_bind, Option.bind_eq_some_iff, Option.pure_def,
    Option.some.injEq] at h
  obtain ⟨phase, -, round, -, rfl⟩ := h
  exact ⟨rfl, rfl⟩

theorem findRuntime_wp {Q : Except Err (Option MatchRuntimeState) → Store → Prop}
    {runtime : MatchRuntimeState} (hparse : parseRuntimeHash matchId s.hash = some runtime)
    (hQ : ∀ a b, Q (.ok (some { runtime with player1Name := a, player2Name := b })) (hydrate s)) :
    (findRuntime matchId).wp (act host) Q s := by
  have hids := parse_ids hparse
  refine wp_call.2 ?_
  rw [hgetall_reply, hparse]
  unfold hydrate at hQ
  show Prog.wp (act host) Q (if (s.hash.player1Name == "" || s.hash.player2Name == "") then _ else _) s
  split
  · next hblank =>
    have := hQ (usernames s.users s.hash.player1Id s.hash.player2Id).player1Name
      (usernames s.users s.hash.player1Id s.hash.player2Id).player2Name
    rw [if_pos hblank] at this
    dsimp only at this
    rw [← hids.1, ← hids.2] at this
    exact wp_call.2 (wp_call.2 this)
  · next hblank =>
    have := hQ runtime.player1Name runtime.player2Name
    rw [if_neg hblank] at this
    exact this

theorem findRuntime_wp_none {Q : Except Err (Option MatchRuntimeState) → Store → Prop}
    (hparse : parseRuntimeHash matchId s.hash = none) (hQ : Q (.ok none) s) :
    (findRuntime matchId).wp (act host) Q s := by
  refine wp_call.2 ?_
  rw [hgetall_reply, hparse]
  exact hQ

/-- What a read tells, whatever the store. -/
theorem findRuntime_reads {Q : Except Err (Option MatchRuntimeState) → Store → Prop}
    (hnone : Q (.ok none) s)
    (hsome : ∀ runtime s', Alike s s' → ReadAs matchId s.hash runtime → Q (.ok (some runtime)) s') :
    (findRuntime matchId).wp (act host) Q s := by
  cases hparse : parseRuntimeHash matchId s.hash with
  | some runtime =>
    exact findRuntime_wp hparse fun a b => hsome _ _ (hydrate_alike s)
      ⟨runtime.player1Name, runtime.player2Name, hparse⟩
  | none => exact findRuntime_wp_none hparse hnone

theorem requireActionPhase_reads {Q : Except Err MatchRuntimeState → Store → Prop} {round : Nat}
    {phase : MatchPhase} (herr : ∀ e s', Alike s s' → Q (.error e) s')
    (hok : ∀ runtime s', Alike s s' → ReadAs matchId s.hash runtime → runtime.round = round →
      runtime.phase = phase → Q (.ok runtime) s') :
    (requireActionPhase matchId round phase).wp (act host) Q s := by
  refine Prog.wp_bind.2 (Prog.wp_bind.2 (findRuntime_reads (herr _ _ (.refl s)) ?_))
  intro runtime s' hs hread
  show Prog.wp (act host) Q (if runtime.round ≠ round then _ else if runtime.phase ≠ phase then _ else _) s'
  split
  · exact herr _ _ hs
  next hround =>
  split
  · exact herr _ _ hs
  next hphase =>
  exact hok runtime s' hs hread (not_not.1 hround) (not_not.1 hphase)

/-! ## Looking -/

/-- Commands that look at the match, or count an ack. -/
def Peeks : Cmd → Prop
  | .hgetall | .usernamesForPlayers _ _ | .findActiveByUserId _ | .combatDone _ => True
  | .hset fields => ∃ a b, fields = [.player1Name a, .player2Name b]
  | _ => False

/-- Alike, with the same row and the same users. -/
structure Looked (s s' : Store) : Prop extends Alike s s' where
  row : s'.row = s.row
  users : s'.users = s.users

theorem Peeks.looked {c : Cmd} (hc : Peeks c) (host : Host) (s : Store) : Looked s (act host c s).2 := by
  cases c with
  | hset fields =>
    obtain ⟨a, b, rfl⟩ := hc
    exact ⟨Quiet.alike (c := .hset _) ⟨a, b, rfl⟩ host s, rfl, rfl⟩
  | hgetall => exact ⟨.refl s, rfl, rfl⟩
  | usernamesForPlayers player1Id player2Id => exact ⟨.refl s, rfl, rfl⟩
  | findActiveByUserId userId => exact ⟨.refl s, rfl, rfl⟩
  | combatDone userId =>
    refine ⟨Quiet.alike (c := .combatDone userId) trivial host s, ?_, ?_⟩ <;>
      simp only [act, evalCombatDone] <;> split <;> rfl
  | _ => cases hc

theorem peeks_wp {p : M α} (hp : p.Issues Peeks) : p.wp (act host) (fun _ s' => Looked s s') s :=
  Prog.Issues.wp hp (fun _ _ hc hs => ⟨hs.toAlike.trans (hc.looked host _).toAlike,
    (hc.looked host _).row.trans hs.row, (hc.looked host _).users.trans hs.users⟩) ⟨.refl s, rfl, rfl⟩

theorem findRuntime_peeks : (findRuntime matchId).Issues Peeks := by
  refine Prog.Issues.perform_bind trivial fun hash => ?_
  split
  · trivial
  · split
    · exact Prog.Issues.perform_bind trivial fun _ => Prog.Issues.perform_bind ⟨_, _, rfl⟩ fun _ => trivial
    · trivial

theorem getRuntime_peeks : (getRuntime matchId).Issues Peeks :=
  findRuntime_peeks.bind fun found => by cases found <;> trivial

theorem sideFor_peeks (runtime : MatchRuntimeState) (userId : String) :
    (sideFor runtime userId).Issues Peeks := by
  unfold sideFor
  split
  · trivial
  · split <;> trivial

theorem requireActionPhase_peeks {round : Nat} {phase : MatchPhase} :
    (requireActionPhase matchId round phase).Issues Peeks := by
  refine getRuntime_peeks.bind fun runtime => ?_
  split
  · trivial
  · split <;> trivial

/-! ## Resolving a round -/

/-- What a resolution stores. -/
def Resolution.fields (round : Nat) (resolution : Resolution) : List FieldWrite :=
  match resolution.winnerId with
  | some _ => knockoutFields resolution.damage resolution.p1 resolution.p2
  | none => resultFields round resolution.damage (rewarded resolution.p1) (rewarded resolution.p2)

theorem storeResolution_wp {runtime : MatchRuntimeState} {round : Nat} {resolution : Resolution} :
    (storeResolution runtime round resolution).wp (act host)
      (fun _ s' => Alike (s.hset (resolution.fields round)) s') s := by
  unfold storeResolution Resolution.fields
  cases hwinner : resolution.winnerId with
  | some winnerId =>
    refine wp_call.2 (wp_call.2 ?_)
    refine Prog.wp_mono (quiet_wp ?_) fun _ _ h => ?_
    · exact (publish_quiet _).bind fun _ => (finalize_quiet _ _).bind fun _ => trivial
    · exact ⟨h.hash, h.now, h.drawn, h.combatResult⟩
  | none =>
    refine wp_call.2 (wp_call.2 ?_)
    refine Prog.wp_mono (quiet_wp ?_) fun _ _ h => ?_
    · refine quiet_then (by trivial) fun _ => (publish_quiet _).bind fun _ => ?_
      exact (publish_quiet _).bind fun _ => (publishState_quiet _ _ _).bind fun _ => trivial
    · exact ⟨h.hash, h.now, h.drawn, h.combatResult⟩

/-- The round resolved, with no one else at the services. -/
def resolve (matchId : String) (host : Host) (round : Nat) (s : Store) : Store :=
  ((applyDamageAndAdvance matchId round).alone (act host) s).2

/-- The round can be resolved: it is fought, and its result is cached. -/
structure Due (round : Nat) (s : Store) (events : List CombatEvent) : Prop where
  inBattle : s.hash.phase = some .battle
  ofRound : s.hash.round = some round
  fought : positiveInt s.hash.combatRound = some round
  cached : s.combatResult.get s.now = some events
  ended : battleWinner events ≠ none

theorem positiveInt_eq {stored : Option Nat} {n : Nat} :
    positiveInt stored = some n ↔ stored = some n ∧ 0 < n := by
  unfold positiveInt
  split
  · split
    · next h => exact ⟨fun he => ⟨he, Option.some.inj he ▸ h⟩, fun he => he.1⟩
    · next h => exact ⟨fun he => (by cases he), fun he => absurd (Option.some.inj he.1 ▸ he.2) h⟩
  · simp

theorem parse_round_pos {hash : RuntimeHash} {runtime : MatchRuntimeState}
    (h : parseRuntimeHash matchId hash = some runtime) : 0 < runtime.round := by
  simp only [parseRuntimeHash, Option.bind_eq_bind, Option.bind_eq_some_iff, Option.pure_def,
    Option.some.injEq] at h
  obtain ⟨phase, -, round, hround, rfl⟩ := h
  exact (positiveInt_eq.1 hround).2

theorem Due.parses (matchId : String) {round : Nat} {events : List CombatEvent}
    (h : Due round s events) :
    parseRuntimeHash matchId s.hash ≠ none := by
  have hround := positiveInt_eq.2 ⟨h.ofRound, (positiveInt_eq.1 h.fought).2⟩
  simp [parseRuntimeHash, h.inBattle, hround]

theorem resolveRound_none {runtime : MatchRuntimeState} {round : Nat} {events : List CombatEvent}
    (h : resolveRound runtime round events = none) : battleWinner events = none := by
  unfold resolveRound at h
  cases hwinner : battleWinner events with
  | none => rfl
  | some winner =>
    rw [hwinner] at h
    cases h

theorem evalPhaseFlip_flips {expectedPhase newPhase : MatchPhase} {round : Nat} {next : Option Nat}
    (hphase : s.hash.phase = some expectedPhase) (hround : s.hash.round = some round) :
    evalPhaseFlip expectedPhase newPhase round next s = (true, s.hset (flipFields newPhase next)) := by
  simp [evalPhaseFlip, hphase, hround]

/-- A round that is due is flipped and its resolution stored; else nothing
happens. -/
theorem applyDamageAndAdvance_stores {Q : Except Err Bool → Store → Prop} {round : Nat}
    (hskip : (∀ events, ¬ Due round s events) → ∀ o s', Alike s s' → Q o s')
    (hdone : ∀ runtime events resolution, Due round s events → ReadAs matchId s.hash runtime →
      resolveRound runtime round events = some resolution →
      (storeResolution runtime round resolution).wp (act host) Q
        ((hydrate s).hset (flipFields .resolved none))) :
    (applyDamageAndAdvance matchId round).wp (act host) Q s := by
  refine Prog.wp_bind.2 ?_
  cases hparse : parseRuntimeHash matchId s.hash with
  | none =>
    exact findRuntime_wp_none hparse (hskip (fun _ hdue => hdue.parses matchId hparse) _ _ (.refl s))
  | some runtime =>
  refine findRuntime_wp hparse fun a b => ?_
  have hs := hydrate_alike s
  have hread : ReadAs matchId s.hash { runtime with player1Name := a, player2Name := b } :=
    ⟨runtime.player1Name, runtime.player2Name, hparse⟩
  obtain ⟨hphase, hround, hfought⟩ := hread.fields
  show Prog.wp (act host) Q (if runtime.phase ≠ .battle ∨ runtime.round ≠ round ∨
    runtime.combatRound ≠ some round then _ else _) (hydrate s)
  split
  · next hcond =>
    refine hskip (fun events hdue => ?_) _ _ hs
    rcases hcond with h | h | h
    · exact h (Option.some.inj (hphase.symm.trans hdue.inBattle))
    · exact h (Option.some.inj (hround.symm.trans hdue.ofRound))
    · exact h (hfought.symm.trans hdue.fought)
  next hcond =>
  simp only [not_or, not_not, ne_eq] at hcond
  obtain ⟨hbattle, rfl, hcombat⟩ := hcond
  refine wp_call.2 ?_
  generalize hreply : (act host .getCombatResult (hydrate s)).1 = found
  have hcached : s.combatResult.get s.now = found := by
    rw [← hreply, ← hs.combatResult, ← hs.now]
    rfl
  rcases found with _ | events
  · exact hskip (fun events hdue => by simp [hdue.cached] at hcached) _ _ hs
  dsimp only
  split
  · next hres =>
    refine hskip (fun events' hdue => ?_) _ _ hs
    rw [hdue.cached, Option.some.injEq] at hcached
    exact hdue.ended (hcached ▸ resolveRound_none hres)
  next resolution hres =>
  have hdue : Due runtime.round s events := by
    refine ⟨hphase.trans (congrArg some hbattle), hround, hfought.trans hcombat, hcached, fun hend => ?_⟩
    rw [resolveRound, hend] at hres
    cases hres
  have hflips : evalPhaseFlip .battle .resolved runtime.round none (hydrate s) =
      (true, (hydrate s).hset (flipFields .resolved none)) := by
    obtain ⟨a', b', hhash⟩ := hs.hash
    refine evalPhaseFlip_flips ?_ ?_
    · rw [hhash]
      exact hdue.inBattle
    · rw [hhash]
      exact hdue.ofRound
  refine wp_call.2 ?_
  show Prog.wp (act host) Q
    (if (!(evalPhaseFlip .battle .resolved runtime.round none (hydrate s)).1) = true then _ else _)
    (evalPhaseFlip .battle .resolved runtime.round none (hydrate s)).2
  rw [hflips]
  exact hdone _ events resolution hdue hread hres

/-- What a resolved round leaves in the hash. -/
theorem applyDamageAndAdvance_wp {Q : Except Err Bool → Store → Prop} {round : Nat}
    (hskip : (∀ events, ¬ Due round s events) → ∀ o s', Alike s s' → Q o s')
    (hdone : ∀ runtime events resolution, Due round s events → ReadAs matchId s.hash runtime →
      resolveRound runtime round events = some resolution → ∀ o s',
      Alike (s.hset (flipFields .resolved none ++ resolution.fields round)) s' → Q o s') :
    (applyDamageAndAdvance matchId round).wp (act host) Q s := by
  refine applyDamageAndAdvance_stores hskip fun runtime events resolution hdue hread hres => ?_
  refine Prog.wp_mono storeResolution_wp fun o s' hstored => ?_
  refine hdone runtime events resolution hdue hread hres o s' ?_
  have := (((hydrate_alike s).hset (flipFields .resolved none)).hset (resolution.fields round)).trans hstored
  refine ⟨?_, this.now, this.drawn, this.combatResult⟩
  have hhash := this.hash
  rw [hash_hset, hash_hset] at hhash
  rw [hash_hset, RuntimeHash.hset, List.foldl_append]
  exact hhash

/-- What a request at the end of a battle does: nothing, or it resolves the
round. -/
inductive Resolves (matchId : String) (host : Host) (s s' : Store) : Prop where
  | none (h : Alike s s')
  | round {s₁ : Store} {round : Nat} {events : List CombatEvent} (h : Looked s s₁)
      (hdue : Due round s₁ events) (heq : s' = resolve matchId host round s₁)

theorem applyDamageAndAdvance_resolves {s₀ : Store} {round : Nat} (h : Looked s₀ s) :
    (applyDamageAndAdvance matchId round).wp (act host) (fun _ s' => Resolves matchId host s₀ s') s := by
  by_cases hdue : ∃ events, Due round s events
  · obtain ⟨events, hdue⟩ := hdue
    exact Prog.wp_iff.2 (.round h hdue rfl)
  · refine applyDamageAndAdvance_wp (fun _ o s' hs => .none (h.toAlike.trans hs)) ?_
    intro _ events _ hdue' _ _ _ _ _
    exact (hdue ⟨events, hdue'⟩).elim

/-- The ack is counted, and with the second one the round resolved. -/
theorem handleCombatDone_resolves {userId : String} {round : Nat} :
    (handleCombatDone matchId userId round).wp (act host) (fun _ s' => Resolves matchId host s s') s := by
  have hcounted : (handleCombatDone matchId userId round).wp (act host) (fun _ s' => Resolves matchId host s s') s ↔
      (((requireActionPhase matchId round .battle).bind fun runtime => (sideFor runtime userId).bind fun _ =>
        call (.combatDone userId)).bind fun count => if count ≥ 2 then
          (applyDamageAndAdvance matchId round).bind fun _ => (pure count : M Nat) else pure count).wp (act host)
        (fun _ s' => Resolves matchId host s s') s := by
    rw [Prog.bind_assoc]
    simp only [Prog.bind_assoc]
    exact Iff.rfl
  rw [hcounted]
  refine Prog.wp_bind.2 (Prog.wp_mono (peeks_wp ?_) fun o s₁ hs => ?_)
  · exact requireActionPhase_peeks.bind fun _ => (sideFor_peeks _ _).bind fun _ => Prog.Issues.perform trivial _
  rcases o with e | count
  · exact .none hs.toAlike
  show Prog.wp (act host) _ (if count ≥ 2 then _ else _) s₁
  split
  · refine Prog.wp_bind.2 (Prog.wp_mono (applyDamageAndAdvance_resolves hs) fun o s' h => ?_)
    cases o <;> exact h
  · exact .none hs.toAlike

/-- **The requests at the end of a battle resolve its round, if they do
anything.** -/
theorem program_resolves {q : Request} (hresolves : q.resolves = true) :
    (program matchId host q).wp (act host) (fun _ s' => Resolves matchId host s s') s := by
  unfold Request.resolves at hresolves
  split at hresolves
  · exact wp_drop handleCombatDone_resolves
  · exact wp_drop (applyDamageAndAdvance_resolves ⟨.refl s, rfl, rfl⟩)
  · cases hresolves

end

end AutoChess.Runtime
