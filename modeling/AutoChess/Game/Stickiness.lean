/-
Target stickiness over a whole battle. A unit other than a 2★ ranger hits
the same enemy, attack after attack, until that enemy's death is reported
(`runBattle_sticky`). The step is `pickTarget_lasting`; what is added here is
that a unit which is alive before some turns and dead after them has a death
event in them.
-/
import AutoChess.Game.Grammar

namespace AutoChess.Game

/-! ## Deaths are reported -/

theorem effect_alive (e : EventKind) (board : List UnitSnapshot) (id : String) (hdead : e.dead ≠ some id)
    (h : ∀ s ∈ board, s.instanceId = id → s.alive = true) :
    ∀ s ∈ effect e board, s.instanceId = id → s.alive = true := by
  have hunit : ∀ {tid} {f : UnitSnapshot → UnitSnapshot}, (∀ s, (f s).instanceId = s.instanceId) →
      (tid = id → ∀ s, (f s).alive = s.alive) →
      ∀ s ∈ onUnit tid f board, s.instanceId = id → s.alive = true := by
    intro tid f hkeep hsame s hs hid
    obtain ⟨s₀, hs₀, rfl⟩ := List.mem_map.1 hs
    by_cases hself : s₀.instanceId = tid
    · rw [if_pos (by simpa using hself)] at hid ⊢
      rw [hkeep] at hid
      rw [hsame (hself.symm.trans hid)]
      exact h s₀ hs₀ hid
    · rw [if_neg (by simpa using hself)] at hid ⊢
      exact h s₀ hs₀ hid
  cases e with
  | slow | cycleEnd | battleEnd => exact h
  | death cycle tick unit => exact hunit (fun _ => rfl) fun hself => absurd (congrArg some hself) hdead
  | attack | revive | heal | lifesteal | pierce => exact hunit (fun _ => rfl) fun _ _ => rfl

theorem replay_alive {kinds : List EventKind} {board : List UnitSnapshot} {id : String}
    (hdead : ∀ e ∈ kinds, e.dead ≠ some id) (h : ∀ s ∈ board, s.instanceId = id → s.alive = true) :
    ∀ s ∈ replay kinds board, s.instanceId = id → s.alive = true := by
  induction kinds generalizing board with
  | nil => exact h
  | cons e kinds ih =>
    rw [replay_cons]
    exact ih (fun e' he' => hdead e' (List.mem_cons_of_mem e he'))
      (effect_alive e board id (hdead e List.mem_cons_self) h)

section
variable {localeCompare : String → String → Int} {sim last : BattleSim} {ts : List Turn}

/-- Who is alive before some turns and dead after them is reported dead in them. -/
theorem Played.died (h : Played localeCompare sim ts last) (hs : sim.Sound) {u u' : UnitInstance}
    (hu : u ∈ sim.units) (halive : u.alive = true) (hu' : u' ∈ last.units) (hid : u'.instanceId = u.instanceId)
    (hdead : u'.alive = false) : ∃ e ∈ ts.flatMap (·.kinds), e.dead = some u.instanceId := by
  by_contra hnone
  have hkinds : (ts.flatMap (·.log)).map (·.kind) = ts.flatMap (·.kinds) := by
    rw [List.map_flatMap]
    exact congrArg (ts.flatMap ·) (funext kinds_log)
  have hboard : ∀ s ∈ snapshotAllUnits sim, s.instanceId = u.instanceId → s.alive = true := fun s hs' hsid => by
    obtain ⟨v, hv, rfl⟩ := List.mem_map.1 hs'
    rw [hs.ok.unique hv hu hsid]
    exact halive
  have hlives := replay_alive (fun e he hdies => hnone ⟨e, he, hdies⟩) hboard
  rw [← hkinds, ← replayLog, h.replayed hs] at hlives
  have hu'lives : u'.alive = true := hlives (snapshotUnit u') (List.mem_map_of_mem hu') hid
  rw [hdead] at hu'lives
  cases hu'lives

end

/-! ## The whole battle -/

/-- The hits of the turns: on whom each unit aims at, and, of a unit that is
not a 2★ ranger, on the same enemy at any two attacks unless that enemy's
death is reported from the first of them on. -/
structure Sticky (localeCompare : String → String → Int) (ts : List Turn) : Prop where
  aim : ∀ t ∈ ts, ∀ unit, t.unit = some unit →
    t.hit = (pickTarget localeCompare unit t.before).map (·.instanceId)
  sticks : ∀ pre t mid t' post, ts = pre ++ t :: (mid ++ t' :: post) → ∀ unit unit', t.unit = some unit →
    t'.unit = some unit' → unit'.instanceId = unit.instanceId → ¬ (unit.unitId = .ranger ∧ unit.star = 2) →
      ∀ target target', t.hit = some target → t'.hit = some target' → target' ≠ target →
        ∃ e ∈ (t :: mid).flatMap (·.kinds), e.dead = some target

section
variable {localeCompare : String → String → Int} {sim last : BattleSim} {ts : List Turn}

theorem Played.aim (h : Played localeCompare sim ts last) (hs : sim.Sound) {t : Turn} (ht : t ∈ ts)
    {unit : UnitInstance} (hunit : t.unit = some unit) :
    t.hit = (pickTarget localeCompare unit t.before).map (·.instanceId) ∧ t.before.Sound ∧
      unit ∈ t.before.units ∧ Ages t.before t.after := by
  rcases h.turn hs t ht with ⟨v, s, cycle, tick, rfl, hsound, hmem, halive⟩ | ⟨cycle, kind, s, rfl, -⟩
  · obtain rfl : v = unit := Option.some.inj hunit
    exact ⟨unitAct_hit, hsound, mem_units _ hmem, unitAct_ages hsound.ok hmem halive⟩
  · cases hunit

theorem Played.sticky (h : Played localeCompare sim ts last) (hs : sim.Sound) (hseated : Seated sim) :
    Sticky localeCompare ts := by
  refine ⟨fun t ht unit hunit => (h.aim hs ht hunit).1, ?_⟩
  intro pre t mid t' post hts unit unit' hunit hunit' hsame hnot target target' hhit hhit' hne
  subst hts
  obtain ⟨haim, hsound, hmem, hact⟩ := h.aim hs (by simp) hunit
  obtain ⟨haim', -, hmem', -⟩ := h.aim hs (t := t') (by simp) hunit'
  obtain ⟨hpre, hturn, hpost⟩ := h.split
  have hmid : Played localeCompare t.after mid t'.before := hpost.split.1
  have hages : Ages t.before t'.before := hact.trans (hmid.ages (hact.sound hsound))
  rw [haim, Option.map_eq_some_iff] at hhit
  obtain ⟨v, hv, rfl⟩ := hhit
  rw [haim', Option.map_eq_some_iff] at hhit'
  obtain ⟨v', hv', rfl⟩ := hhit'
  obtain ⟨hvmem, hvalive⟩ := pickTarget_mem hv
  obtain ⟨u, hu, haged⟩ := hages.to (mem_units _ hvmem)
  have hid : u.instanceId = v.instanceId := congrArg Actor.instanceId haged.actor
  cases hlives : u.alive with
  | true =>
    have hactor : unit'.actor = unit.actor := (hages.aged hsound.ok hmem hmem' hsame).actor
    have hagain := pickTarget_lasting hsound.ok ((hpre.ages hs).seated hseated) hages hnot hactor hv hu hid hlives
    rw [hv'] at hagain
    exact absurd ((congrArg UnitInstance.instanceId (Option.some.inj hagain)).trans hid) hne
  | false =>
    have hthrough : Played localeCompare t.before (t :: mid) t'.before := hturn.append hmid
    exact hthrough.died hsound (mem_units _ hvmem) hvalive hu hid hlives

end

/-- **Target stickiness.** Between two attacks of a unit that is not a 2★
ranger its target changes only if the one it had has died. -/
theorem runBattle_sticky (localeCompare : String → String → Int) (battle : Battle) :
    runBattle localeCompare battle.toBattleState =
        (turns localeCompare battle.toBattleState).flatMap (·.log) ∧
      Sticky localeCompare (turns localeCompare battle.toBattleState) := by
  obtain ⟨last, hplayed⟩ := @turns_played localeCompare battle.toBattleState
  exact ⟨runBattle_turns localeCompare _, hplayed.sticky battle.sound battle.seated⟩

end AutoChess.Game
