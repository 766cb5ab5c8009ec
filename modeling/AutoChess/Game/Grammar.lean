/-
The grammar of the log. An action's events are those of its hit and what
follows from it (`Follows`): a lifesteal, heals and a slow, or a pierce and
the death it causes. Every unit they name is alive when the action begins,
and a unit whose death they report is dead when it ends; so a dead unit is
never named again.
-/
import AutoChess.Game.Schedule
import AutoChess.Game.Replay
import AutoChess.Lib.Pool

namespace AutoChess.Game

/-! ## What events name -/

/-- When the event happened; a closing event comes after the ticks of its cycle. -/
def EventKind.stamp : EventKind → Nat × Nat
  | .attack cycle tick _ _ _ _ | .death cycle tick _ | .revive cycle tick _ _ | .heal cycle tick _ _ _ _
  | .lifesteal cycle tick _ _ _ | .pierce cycle tick _ _ _ | .slow cycle tick _ _ => (cycle, tick)
  | .cycleEnd cycle | .battleEnd cycle _ => (cycle, TICKS_PER_CYCLE + 1)

/-- The units an event names. -/
def EventKind.names : EventKind → List String
  | .attack _ _ attacker target _ _ => [attacker.instanceId, target.instanceId]
  | .death _ _ unit | .revive _ _ unit _ | .lifesteal _ _ unit _ _ => [unit.instanceId]
  | .heal _ _ target healer _ _ => [target.instanceId, healer.instanceId]
  | .pierce _ _ attacker target _ => [attacker.instanceId, target.instanceId]
  | .slow _ _ target healer => [target.instanceId, healer.instanceId]
  | .cycleEnd _ | .battleEnd _ _ => []

/-- The unit whose death the event reports. -/
def EventKind.dead : EventKind → Option String
  | .death _ _ unit => some unit.instanceId
  | _ => none

/-- The events of one action of `unit` on its target. There is one hit, on
the target; each death is followed by the attack that dealt it or preceded by
the pierce that did; and what is left to say of the dead is that attack, and
the slow of a healer that killed. -/
structure ActionGrammar (unit : UnitInstance) (target : Option UnitInstance) (kinds : List EventKind) : Prop where
  hits : kinds.filterMap EventKind.hit = (target.map (·.instanceId)).toList
  cause : ∀ before cycle tick u after, kinds = before ++ .death cycle tick u :: after →
    (∃ dmg rest, after = .attack cycle tick unit.actor u dmg 0 :: rest) ∨
      ∃ front dmg, before = front ++ [.pierce cycle tick unit.actor u dmg]
  epilogue : ∀ before cycle tick u after, kinds = before ++ .death cycle tick u :: after →
    ∀ e ∈ after, u.instanceId ∈ e.names →
      (∃ dmg, e = .attack cycle tick unit.actor u dmg 0) ∨
        unit.unitId = .healer ∧ e = .slow cycle tick u unit.actor

/-- The log of a battle, turn by turn. -/
structure WellFormedLog (localeCompare : String → String → Int) (ts : List Turn) : Prop where
  chronological : (ts.flatMap (·.kinds)).Pairwise fun e e' => toLex e.stamp ≤ toLex e'.stamp
  ticks : ∀ e ∈ ts.flatMap (·.kinds), e.isAction = true → 1 ≤ e.stamp.2 ∧ e.stamp.2 ≤ TICKS_PER_CYCLE
  deaths : ((ts.flatMap (·.kinds)).filterMap EventKind.dead).Nodup
  actions : ∀ t ∈ ts, ∀ unit, t.unit = some unit →
    ActionGrammar unit (pickTarget localeCompare unit t.before) t.kinds
  silence : ts.Pairwise fun t t' => ∀ e ∈ t.kinds, ∀ id, e.dead = some id → ∀ e' ∈ t'.kinds, id ∉ e'.names

/-! ## One action -/

/-- What may follow a hit: nothing but aid, or a pierce. -/
inductive Follows (unit target : UnitInstance) (sim : BattleSim) (cycle tick : Nat) : List EventKind → Prop where
  | aid {more : List EventKind} (h : ∀ e ∈ more,
      (∃ u : UnitInstance, u.instanceId = unit.instanceId ∧ ∃ amount hp, e = .lifesteal cycle tick u.actor amount hp) ∨
      (∃ v ∈ unitsOf sim unit.side, v.alive = true ∧ ∃ amount hp, e = .heal cycle tick v.actor unit.actor amount hp) ∨
      unit.unitId = .healer ∧ e = .slow cycle tick target.actor unit.actor) : Follows unit target sim cycle tick more
  | pierce {behind : UnitInstance} (dmg : Int) (hbehind : behind ∈ unitsOf sim (enemySideOf unit.side))
      (halive : behind.alive = true) (hne : behind.instanceId ≠ target.instanceId) {more : List EventKind}
      (hmore : more = [] ∨ more = [.death cycle tick behind.actor]) :
      Follows unit target sim cycle tick (.pierce cycle tick unit.actor behind.actor dmg :: more)

section
variable {localeCompare : String → String → Int} {sim : BattleSim} {cycle tick : Nat} {unit target : UnitInstance}

theorem Ages.from_side {sim' : BattleSim} (h : Ages sim sim') {side : Side} {u' : UnitInstance}
    (hu' : u' ∈ unitsOf sim' side) : ∃ u ∈ unitsOf sim side, Aged u u' := by
  obtain ⟨f, rfl, hf⟩ := h
  rw [BattleSim.each, unitsOf_map, List.mem_map] at hu'
  obtain ⟨u, hu, rfl⟩ := hu'
  exact ⟨u, hu, hf u (mem_units side hu)⟩

/-- A healing event heals an ally that was alive all along. -/
theorem healIf_heals_ally {sim' : BattleSim} {healer : UnitInstance} {target : Option UnitInstance}
    (hages : Ages sim sim')
    (ht : ∀ u, target = some u → u ∈ unitsOf sim' healer.side ∧ u.alive = true) :
    ∀ e ∈ (healIf target healer sim' cycle tick).2, ∃ v ∈ unitsOf sim healer.side, v.alive = true ∧
      ∃ amount hp, e = .heal cycle tick v.actor healer.actor amount hp := by
  intro e he
  cases target with
  | none => cases he
  | some u =>
    obtain ⟨hu, halive⟩ := ht u rfl
    obtain ⟨v, hv, haged⟩ := hages.from_side hu
    simp only [healIf, healOne] at he
    split at he
    · cases he
    · obtain rfl : e = _ := List.mem_singleton.1 he
      exact ⟨v, hv, haged.lived halive, _, _, by rw [haged.actor]⟩

theorem support_heals_ally {sim' : BattleSim} {healer : UnitInstance} (hok : sim'.Ok) (hages : Ages sim sim') :
    ∀ e ∈ (applyHealerSupport localeCompare healer sim' cycle tick).2, ∃ v ∈ unitsOf sim healer.side,
      v.alive = true ∧ ∃ amount hp, e = .heal cycle tick v.actor healer.actor amount hp := by
  intro e he
  have hfirst : Ages sim' (healIf (lowestHpAlly localeCompare (unitsOf sim' healer.side) none) healer sim'
      cycle tick).1 := healIf_ages hok lowestHpAlly_target
  simp only [applyHealerSupport] at he
  split at he
  · rcases List.mem_append.1 he with he | he
    · exact healIf_heals_ally hages (fun _ h => lowestHpAlly_mem h) e he
    · exact healIf_heals_ally (hages.trans hfirst) (fun _ h => lowestHpAlly_mem h) e he
  · exact healIf_heals_ally hages (fun _ h => lowestHpAlly_mem h) e he

theorem pierce_follows {sim' : BattleSim} (hok : sim.Ok) (hages : Ages sim sim')
    (ht : target ∈ unitsOf sim (enemySideOf unit.side)) (dmg : Int) :
    Follows unit target sim cycle tick (applyPierce unit target dmg sim' cycle tick).2 := by
  unfold applyPierce
  split
  · exact .aid (by simp)
  · next behind hbehind =>
    obtain ⟨v, hv, haged⟩ := hages.from_side (unitBehind_mem hbehind)
    have hlives := haged.lived (unitBehind_alive hbehind)
    -- It stands in another row than the target.
    have hne : v.instanceId ≠ target.instanceId := by
      intro hid
      obtain rfl : v = target := hok.unique (mem_units _ hv) (mem_units _ ht) hid
      have hslot : behind.slot = v.slot := congrArg Actor.slot haged.actor
      simp only [unitBehind] at hbehind
      split at hbehind
      · cases hbehind
      · have hrow := List.find?_some hbehind
        simp only [Bool.and_eq_true, beq_iff_eq, UnitInstance.row, hslot] at hrow
        omega
    dsimp only
    rw [haged.actor]
    split
    · exact .pierce _ hv hlives hne (.inr rfl)
    · exact .pierce _ hv hlives hne (.inl rfl)

/-- The events of an action: without a target, heals; else its hit and what
follows. -/
theorem unitAct_kinds (hok : sim.Ok) :
    (pickTarget localeCompare unit sim = none ∧ ∀ e ∈ (unitAct localeCompare unit sim cycle tick).2,
      ∃ v ∈ unitsOf sim unit.side, v.alive = true ∧ ∃ amount hp, e = .heal cycle tick v.actor unit.actor amount hp) ∨
    ∃ target more, pickTarget localeCompare unit sim = some target ∧ Follows unit target sim cycle tick more ∧
      (unitAct localeCompare unit sim cycle tick).2 =
        damageEvents target (atkFor unit.unitId unit.star) unit cycle tick ++ more := by
  cases ht : pickTarget localeCompare unit sim with
  | none =>
    left
    refine ⟨rfl, ?_⟩
    unfold unitAct
    split <;> rw [ht] <;> dsimp only
    · simp
    · simp
    · simp
    · exact support_heals_ally hok (Ages.refl sim)
  | some target =>
    right
    have hdmg := atkFor_nonneg unit.unitId unit.star
    have hmem := (pickTarget_mem ht).1
    have hnone : Follows unit target sim cycle tick [] := .aid (by simp)
    have hit : Ages sim (applyDamage target (atkFor unit.unitId unit.star) unit sim cycle tick).1 :=
      applyDamage_ages (pickTarget_lives hok ht).1 hdmg
    have hcleared : Ages sim (applyDamage target (atkFor unit.unitId unit.star) unit
        (clearHealerSlows unit sim) cycle tick).1 :=
      clearHealerSlows_ages.trans (applyDamage_ages (pickTarget_lives hok ht).2 hdmg)
    unfold unitAct
    split <;> rw [ht] <;> dsimp only
    · split
      · refine ⟨target, _, rfl, .aid fun e he => ?_, rfl⟩
        unfold applyLifesteal at he
        split at he
        · cases he
        · next u hfind =>
          obtain rfl : e = _ := List.mem_singleton.1 he
          exact .inl ⟨u, find_id hfind, _, _, rfl⟩
      · exact ⟨target, [], rfl, hnone, (List.append_nil _).symm⟩
    · exact ⟨target, [], rfl, hnone, (List.append_nil _).symm⟩
    · split
      · exact ⟨target, _, rfl, pierce_follows hok hit hmem _, rfl⟩
      · exact ⟨target, [], rfl, hnone, (List.append_nil _).symm⟩
    · next hkind =>
      have hsupport := @support_heals_ally localeCompare sim cycle tick _ unit (hcleared.ok hok) hcleared
      split
      · refine ⟨target, _, rfl, .aid fun e he => ?_, List.append_assoc _ _ _⟩
        rcases List.mem_append.1 he with he | he
        · exact .inr (.inl (hsupport e he))
        · obtain rfl : e = _ := List.mem_singleton.1 he
          exact .inr (.inr ⟨hkind, rfl⟩)
      · exact ⟨target, _, rfl, .aid fun e he => .inr (.inl (hsupport e he)), rfl⟩

/-! ## Deaths in one action -/

theorem split_append {α : Type} {a b before after : List α} {x : α} (h : a ++ b = before ++ x :: after) :
    (∃ mid, a = before ++ x :: mid ∧ after = mid ++ b) ∨ ∃ mid, before = a ++ mid ∧ b = mid ++ x :: after := by
  rcases List.append_eq_append_iff.1 h with ⟨mid, hbefore, hb⟩ | ⟨mid, ha, hx⟩
  · exact .inr ⟨mid, hbefore, hb⟩
  · cases mid with
    | nil =>
      refine .inr ⟨[], ?_, ?_⟩
      · simpa using ha.symm
      · simpa using hx.symm
    | cons y mid =>
      obtain ⟨rfl, hafter⟩ := List.cons_eq_cons.1 hx
      exact .inl ⟨mid, ha, hafter⟩

/-- The hit reports at most the death of its target, and then the attack. -/
theorem damageEvents_split {dmg : Int} {before after : List EventKind} {c t : Nat} {u : Actor}
    (h : damageEvents target dmg unit cycle tick = before ++ .death c t u :: after) :
    before = [] ∧ c = cycle ∧ t = tick ∧ u = target.actor ∧
      after = [.attack cycle tick unit.actor target.actor dmg 0] := by
  unfold damageEvents at h
  split at h
  · cases before with
    | nil => cases h
    | cons e before => simp at h
  · split at h
    · cases before with
      | nil =>
        simp only [List.nil_append, List.cons.injEq, EventKind.death.injEq] at h
        obtain ⟨⟨rfl, rfl, rfl⟩, rfl⟩ := h
        exact ⟨rfl, rfl, rfl, rfl, rfl⟩
      | cons e before =>
        obtain ⟨-, h⟩ := List.cons_eq_cons.1 h
        cases before with
        | nil => simp at h
        | cons e' before => simp at h
    · cases before with
      | nil => simp at h
      | cons e before => simp at h

theorem Follows.split {more : List EventKind} (h : Follows unit target sim cycle tick more)
    {before after : List EventKind} {c t : Nat} {u : Actor} (hmore : more = before ++ .death c t u :: after) :
    ∃ dmg, before = [.pierce c t unit.actor u dmg] ∧ after = [] := by
  cases h with
  | aid h =>
    have hmem : EventKind.death c t u ∈ more := by simp [hmore]
    rcases h _ hmem with ⟨_, -, _, _, he⟩ | ⟨_, -, -, _, _, he⟩ | ⟨-, he⟩ <;> cases he
  | pierce dmg hbehind halive hne hlast =>
    cases before with
    | nil => simp at hmore
    | cons e before =>
      obtain ⟨rfl, hrest⟩ := List.cons_eq_cons.1 hmore
      rcases hlast with rfl | rfl
      · simp at hrest
      · cases before with
        | nil =>
          obtain ⟨hdeath, hnil⟩ := List.cons_eq_cons.1 hrest
          cases hdeath
          exact ⟨dmg, rfl, hnil.symm⟩
        | cons e' before =>
          have hnil := (List.cons_eq_cons.1 hrest).2
          exact absurd hnil.symm (by simp)

/-- What follows a hit names its target only when a healer slows it. -/
theorem Follows.names (hok : sim.Ok) (hunit : unit ∈ unitsOf sim unit.side)
    (ht : target ∈ unitsOf sim (enemySideOf unit.side)) {more : List EventKind}
    (h : Follows unit target sim cycle tick more) :
    ∀ e ∈ more, target.instanceId ∈ e.names → unit.unitId = .healer ∧ e = .slow cycle tick target.actor unit.actor := by
  intro e he hname
  have hself : target.instanceId ≠ unit.instanceId := hok.ne_enemy hunit ht
  cases h with
  | aid h =>
    rcases h e he with ⟨u, hu, _, _, rfl⟩ | ⟨v, hv, -, _, _, rfl⟩ | hslow
    · simp only [EventKind.names, UnitInstance.actor, List.mem_singleton] at hname
      exact absurd (hname.trans hu) hself
    · simp only [EventKind.names, UnitInstance.actor, List.mem_cons, List.not_mem_nil, or_false] at hname
      rcases hname with hname | hname
      · exact absurd hname (hok.ne_enemy hv ht)
      · exact absurd hname hself
    · exact hslow
  | @pierce behind dmg hbehind halive hne _ hlast =>
    have hdeath : e = .pierce cycle tick unit.actor behind.actor dmg ∨ e = .death cycle tick behind.actor := by
      rcases List.mem_cons.1 he with rfl | he
      · exact .inl rfl
      · rcases hlast with rfl | rfl
        · cases he
        · exact .inr (List.mem_singleton.1 he)
    rcases hdeath with rfl | rfl
    · simp only [EventKind.names, UnitInstance.actor, List.mem_cons, List.not_mem_nil, or_false] at hname
      rcases hname with hname | hname
      · exact absurd hname hself
      · exact absurd hname.symm hne
    · simp only [EventKind.names, UnitInstance.actor, List.mem_singleton] at hname
      exact absurd hname.symm hne

theorem Follows.hits {more : List EventKind} (h : Follows unit target sim cycle tick more) :
    more.filterMap EventKind.hit = [] := by
  rw [List.filterMap_eq_nil_iff]
  intro e he
  cases h with
  | aid h =>
    rcases h e he with ⟨_, -, _, _, rfl⟩ | ⟨_, -, -, _, _, rfl⟩ | ⟨-, rfl⟩ <;> rfl
  | pierce dmg hbehind halive hne hlast =>
    rcases List.mem_cons.1 he with rfl | he
    · rfl
    · rcases hlast with rfl | rfl
      · cases he
      · obtain rfl := List.mem_singleton.1 he
        rfl

theorem damageEvents_hits {dmg : Int} :
    (damageEvents target dmg unit cycle tick).filterMap EventKind.hit = [target.instanceId] := by
  unfold damageEvents
  split
  · rfl
  · split <;> rfl

/-- Every action keeps the grammar. -/
theorem unitAct_grammar (hok : sim.Ok) (hunit : unit ∈ unitsOf sim unit.side) :
    ActionGrammar unit (pickTarget localeCompare unit sim) (unitAct localeCompare unit sim cycle tick).2 := by
  rcases @unitAct_kinds localeCompare sim cycle tick unit hok with
    ⟨hnone, hheals⟩ | ⟨target, more, ht, hmore, hkinds⟩
  · rw [hnone]
    have hdeath : ∀ {before c t u after}, (unitAct localeCompare unit sim cycle tick).2 ≠
        before ++ .death c t u :: after := by
      intro before c t u after heq
      obtain ⟨_, -, -, _, _, he⟩ := hheals (.death c t u) (by simp [heq])
      cases he
    refine ⟨?_, fun _ _ _ _ _ h => absurd h hdeath, fun _ _ _ _ _ h => absurd h hdeath⟩
    rw [Option.map_none, Option.toList_none, List.filterMap_eq_nil_iff]
    intro e he
    obtain ⟨_, -, -, _, _, rfl⟩ := hheals e he
    rfl
  · rw [ht, hkinds]
    refine ⟨?_, ?_, ?_⟩
    · rw [List.filterMap_append, damageEvents_hits, hmore.hits]
      rfl
    · intro before c t u after hsplit
      rcases split_append hsplit with ⟨mid, hhit, rfl⟩ | ⟨mid, rfl, hpierce⟩
      · obtain ⟨-, rfl, rfl, rfl, rfl⟩ := damageEvents_split hhit
        exact .inl ⟨_, more, rfl⟩
      · obtain ⟨dmg, rfl, -⟩ := hmore.split hpierce
        exact .inr ⟨_, dmg, rfl⟩
    · intro before c t u after hsplit e he hname
      rcases split_append hsplit with ⟨mid, hhit, rfl⟩ | ⟨mid, rfl, hpierce⟩
      · obtain ⟨-, rfl, rfl, rfl, rfl⟩ := damageEvents_split hhit
        rcases List.mem_append.1 he with he | he
        · exact .inl ⟨_, List.mem_singleton.1 he⟩
        · exact .inr (hmore.names hok hunit (pickTarget_mem ht).1 e he hname)
      · obtain ⟨-, -, rfl⟩ := hmore.split hpierce
        cases he

/-- An action names units alive before it. -/
theorem unitAct_names (hok : sim.Ok) (hunit : unit ∈ unitsOf sim unit.side) (halive : unit.alive = true) :
    ∀ e ∈ (unitAct localeCompare unit sim cycle tick).2, ∀ id ∈ e.names,
      ∃ u ∈ sim.units, u.instanceId = id ∧ u.alive = true := by
  intro e he id hid
  have hself : ∃ u ∈ sim.units, u.instanceId = unit.instanceId ∧ u.alive = true :=
    ⟨unit, mem_units _ hunit, rfl, halive⟩
  rcases @unitAct_kinds localeCompare sim cycle tick unit hok with
    ⟨-, hheals⟩ | ⟨target, more, ht, hmore, hkinds⟩
  · obtain ⟨v, hv, hlives, _, _, rfl⟩ := hheals e he
    simp only [EventKind.names, UnitInstance.actor, List.mem_cons, List.not_mem_nil, or_false] at hid
    rcases hid with rfl | rfl
    · exact ⟨v, mem_units _ hv, rfl, hlives⟩
    · exact hself
  · have htarget : ∃ u ∈ sim.units, u.instanceId = target.instanceId ∧ u.alive = true :=
      ⟨target, mem_units _ (pickTarget_mem ht).1, rfl, (pickTarget_mem ht).2⟩
    rw [hkinds] at he
    rcases List.mem_append.1 he with he | he
    · have hnames : id = target.instanceId ∨ id = unit.instanceId := by
        unfold damageEvents at he
        split at he
        · obtain rfl := List.mem_singleton.1 he
          exact .inl (List.mem_singleton.1 hid)
        · split at he
          · rcases List.mem_cons.1 he with rfl | he
            · exact .inl (List.mem_singleton.1 hid)
            · obtain rfl := List.mem_singleton.1 he
              simpa [EventKind.names, UnitInstance.actor, or_comm] using hid
          · obtain rfl := List.mem_singleton.1 he
            simpa [EventKind.names, UnitInstance.actor, or_comm] using hid
      rcases hnames with rfl | rfl
      · exact htarget
      · exact hself
    · cases hmore with
      | aid h =>
        rcases h e he with ⟨u, hu, _, _, rfl⟩ | ⟨v, hv, hlives, _, _, rfl⟩ | ⟨-, rfl⟩
        · obtain rfl := List.mem_singleton.1 hid
          simpa only [UnitInstance.actor, hu] using hself
        · simp only [EventKind.names, UnitInstance.actor, List.mem_cons, List.not_mem_nil, or_false] at hid
          rcases hid with rfl | rfl
          · exact ⟨v, mem_units _ hv, rfl, hlives⟩
          · exact hself
        · simp only [EventKind.names, UnitInstance.actor, List.mem_cons, List.not_mem_nil, or_false] at hid
          rcases hid with rfl | rfl
          · exact htarget
          · exact hself
      | @pierce behind dmg hbehind hlives hne _ hlast =>
        have hbehind' : ∃ u ∈ sim.units, u.instanceId = behind.instanceId ∧ u.alive = true :=
          ⟨behind, mem_units _ hbehind, rfl, hlives⟩
        rcases List.mem_cons.1 he with rfl | he
        · simp only [EventKind.names, UnitInstance.actor, List.mem_cons, List.not_mem_nil, or_false] at hid
          rcases hid with rfl | rfl
          · exact hself
          · exact hbehind'
        · rcases hlast with rfl | rfl
          · cases he
          · obtain rfl := List.mem_singleton.1 he
            obtain rfl := List.mem_singleton.1 hid
            exact hbehind'

/-- No event wakes the dead. -/
theorem effect_dead (e : EventKind) (board : List UnitSnapshot) (id : String)
    (h : ∀ s ∈ board, s.instanceId = id → s.alive = false) :
    ∀ s ∈ effect e board, s.instanceId = id → s.alive = false := by
  have hunit : ∀ {tid} {f : UnitSnapshot → UnitSnapshot}, (∀ s, (f s).instanceId = s.instanceId) →
      (∀ s, s.alive = false → (f s).alive = false) →
      ∀ s ∈ onUnit tid f board, s.instanceId = id → s.alive = false := by
    intro tid f hkeep hdead s hs hid
    obtain ⟨s₀, hs₀, rfl⟩ := List.mem_map.1 hs
    split at hid
    · rw [hkeep] at hid
      rw [if_pos ‹_›]
      exact hdead s₀ (h s₀ hs₀ hid)
    · rw [if_neg ‹_›]
      exact h s₀ hs₀ hid
  cases e with
  | slow | cycleEnd | battleEnd => exact h
  | death => exact hunit (fun _ => rfl) fun _ _ => rfl
  | attack | revive | heal | lifesteal | pierce => exact hunit (fun _ => rfl) fun _ hs => hs

theorem replay_dead {kinds : List EventKind} {board : List UnitSnapshot} {id : String}
    (hdead : (∀ s ∈ board, s.instanceId = id → s.alive = false) ∨ ∃ e ∈ kinds, e.dead = some id) :
    ∀ s ∈ replay kinds board, s.instanceId = id → s.alive = false := by
  induction kinds generalizing board with
  | nil =>
    rcases hdead with hdead | ⟨e, he, -⟩
    · exact hdead
    · cases he
  | cons e kinds ih =>
    rw [replay_cons]
    refine ih ?_
    rcases hdead with hdead | ⟨e', he', hdies⟩
    · exact .inl (effect_dead e board id hdead)
    · rcases List.mem_cons.1 he' with rfl | he'
      · left
        cases e' with
        | death cycle tick u =>
          obtain rfl : u.instanceId = id := by simpa [EventKind.dead] using hdies
          intro s hs hid
          obtain ⟨s₀, hs₀, rfl⟩ := List.mem_map.1 hs
          by_cases hself : s₀.instanceId = u.instanceId
          · simp [hself]
          · rw [if_neg (by simpa using hself)] at hid
            exact absurd hid hself
        | _ => cases hdies
      · exact .inr ⟨e', he', hdies⟩

/-- Who dies in an action is dead after it. -/
theorem unitAct_dead (hok : sim.Ok) (hunit : unit ∈ unitsOf sim unit.side) {e : EventKind}
    (he : e ∈ (unitAct localeCompare unit sim cycle tick).2) {id : String} (hdead : e.dead = some id) :
    ∀ u ∈ (unitAct localeCompare unit sim cycle tick).1.units, u.instanceId = id → u.alive = false := by
  intro u hu hid
  have hreplay := @replay_unitAct localeCompare sim cycle tick unit hok hunit
  have hs : snapshotUnit u ∈ snapshotAllUnits (unitAct localeCompare unit sim cycle tick).1 :=
    List.mem_map_of_mem hu
  rw [← hreplay] at hs
  exact replay_dead (.inr ⟨e, he, hdead⟩) _ hs hid

/-! ## The order of turns -/

/-- When a turn is: at its tick, or after the ticks of its cycle. -/
def Turn.stamp (t : Turn) : Nat × Nat := (t.cycle, if t.unit.isSome then t.tick else TICKS_PER_CYCLE + 1)

theorem unitAct_stamp (hok : sim.Ok) :
    ∀ e ∈ (unitAct localeCompare unit sim cycle tick).2, e.stamp = (cycle, tick) := by
  intro e he
  rcases @unitAct_kinds localeCompare sim cycle tick unit hok with
    ⟨-, hheals⟩ | ⟨target, more, -, hmore, hkinds⟩
  · obtain ⟨_, -, -, _, _, rfl⟩ := hheals e he
    rfl
  · rw [hkinds] at he
    rcases List.mem_append.1 he with he | he
    · unfold damageEvents at he
      split at he
      · obtain rfl := List.mem_singleton.1 he
        rfl
      · split at he
        · rcases List.mem_cons.1 he with rfl | he
          · rfl
          · obtain rfl := List.mem_singleton.1 he
            rfl
        · obtain rfl := List.mem_singleton.1 he
          rfl
    · cases hmore with
      | aid h => rcases h e he with ⟨_, -, _, _, rfl⟩ | ⟨_, -, -, _, _, rfl⟩ | ⟨-, rfl⟩ <;> rfl
      | pierce dmg hbehind hlives hne hlast =>
        rcases List.mem_cons.1 he with rfl | he
        · rfl
        · rcases hlast with rfl | rfl
          · cases he
          · obtain rfl := List.mem_singleton.1 he
            rfl

/-- A turn is the action of an alive unit on sound boards, or closes a cycle
or the battle. -/
theorem Played.turn {last : BattleSim} {ts : List Turn} (h : Played localeCompare sim ts last) (hs : sim.Sound) :
    ∀ t ∈ ts, (∃ unit sim cycle tick, t = actTurn localeCompare unit sim cycle tick ∧ sim.Sound ∧
        unit ∈ unitsOf sim unit.side ∧ unit.alive = true) ∨
      ∃ cycle kind sim, t = closeTurn cycle kind sim ∧ kind.isAction = false :=
  (h.induct (I := BattleSim.Sound)
    (fun unit sim cycle tick hs hfind halive =>
      ⟨.inl ⟨unit, sim, cycle, tick, rfl, hs, mem_of_find hs.ok hfind, halive⟩,
        (unitAct_keeps localeCompare unit sim cycle tick hs hfind halive).1⟩)
    (fun cycle kind sim _ hkind => .inr ⟨cycle, kind, sim, rfl, hkind⟩) hs).1

theorem actTurns_stamp {ids : List String} {t : Turn} :
    t ∈ actTurns localeCompare cycle tick ids sim → t.stamp = (cycle, tick) := by
  induction ids generalizing sim with
  | nil => simp [actTurns]
  | cons id ids ih =>
    intro ht
    unfold actTurns at ht
    split at ht
    · exact ih ht
    · split at ht
      · rcases List.mem_cons.1 ht with rfl | ht
        · rfl
        · exact ih ht
      · exact ih ht

theorem tickTurns_stamp {initSide : Side} {ticks : List Nat} {t : Turn}
    (ht : t ∈ tickTurns localeCompare initSide cycle ticks sim) : ∃ tick ∈ ticks, t.stamp = (cycle, tick) := by
  induction ticks generalizing sim with
  | nil => cases ht
  | cons tick ticks ih =>
    rw [tickTurns_cons] at ht
    rcases List.mem_append.1 ht with ht | ht
    · exact ⟨tick, by simp, actTurns_stamp ht⟩
    · obtain ⟨later, hlater, hstamp⟩ := ih ht
      exact ⟨later, List.mem_cons_of_mem tick hlater, hstamp⟩

theorem stamp_le {a b : Nat × Nat} (h : a.1 < b.1 ∨ a.1 = b.1 ∧ a.2 ≤ b.2) : toLex a ≤ toLex b :=
  Prod.Lex.toLex_le_toLex.2 h

theorem tickTurns_chronological {initSide : Side} {ticks : List Nat} (hticks : ticks.Pairwise (· ≤ ·)) :
    (tickTurns localeCompare initSide cycle ticks sim).Pairwise fun t t' => toLex t.stamp ≤ toLex t'.stamp := by
  induction ticks generalizing sim with
  | nil => exact .nil
  | cons tick ticks ih =>
    obtain ⟨hfirst, hticks⟩ := List.pairwise_cons.1 hticks
    rw [tickTurns_cons, List.pairwise_append]
    refine ⟨List.pairwise_of_forall_mem_list fun t ht t' ht' => ?_, ih hticks, fun t ht t' ht' => ?_⟩
    · rw [actTurns_stamp ht, actTurns_stamp ht']
    · obtain ⟨later, hlater, hstamp⟩ := tickTurns_stamp ht'
      rw [actTurns_stamp ht, hstamp]
      exact stamp_le (.inr ⟨rfl, hfirst later hlater⟩)

/-- Where the turns of the cycles to come stand, and what the closing ones report. -/
theorem cycleTurns_stamp {initSide : Side} {cycles : List Nat} {t : Turn}
    (ht : t ∈ cycleTurns localeCompare initSide cycles sim) :
    (t.unit ≠ none ∧ t.cycle ∈ cycles ∧ 1 ≤ t.stamp.2 ∧ t.stamp.2 ≤ TICKS_PER_CYCLE) ∨
      t.unit = none ∧ (t.cycle ∈ cycles ∨ t.cycle = MAX_CYCLES) ∧
        ∀ e ∈ t.kinds, e.isAction = false ∧ e.stamp = t.stamp := by
  induction cycles generalizing sim with
  | nil =>
    obtain rfl := List.mem_singleton.1 ht
    exact .inr ⟨rfl, .inr rfl, by simp [closeTurn, EventKind.isAction, EventKind.stamp, Turn.stamp]⟩
  | cons first cycles ih =>
    have hclose : ∀ kind s, kind.isAction = false → kind.stamp = (first, TICKS_PER_CYCLE + 1) →
        (closeTurn first kind s).unit = none ∧
          ((closeTurn first kind s).cycle ∈ first :: cycles ∨ (closeTurn first kind s).cycle = MAX_CYCLES) ∧
          ∀ e ∈ (closeTurn first kind s).kinds, e.isAction = false ∧ e.stamp = (closeTurn first kind s).stamp := by
      intro kind s hkind hstamp
      refine ⟨rfl, .inl (by simp [closeTurn]), fun e he => ?_⟩
      obtain rfl : e = kind := List.mem_singleton.1 he
      exact ⟨hkind, hstamp⟩
    unfold cycleTurns at ht
    dsimp only at ht
    rcases List.mem_append.1 ht with ht | ht
    · obtain ⟨hcycle, hunit⟩ := tickTurns_cycle ht
      obtain ⟨tick, htick, hstamp⟩ := tickTurns_stamp ht
      rw [List.mem_range'_1] at htick
      refine .inl ⟨hunit, by simp [hcycle], ?_⟩
      rw [hstamp]
      dsimp only
      omega
    · rcases List.mem_cons.1 ht with rfl | ht
      · exact .inr (hclose _ _ rfl rfl)
      · split at ht
        · obtain rfl := List.mem_singleton.1 ht
          exact .inr (hclose _ _ rfl rfl)
        · rcases ih ht with ⟨hunit, hcycle, htick⟩ | ⟨hunit, hcycle, hkinds⟩
          · exact .inl ⟨hunit, List.mem_cons_of_mem first hcycle, htick⟩
          · exact .inr ⟨hunit, hcycle.imp (List.mem_cons_of_mem first) id, hkinds⟩

theorem cycleTurns_chronological {initSide : Side} {cycles : List Nat} (hcycles : cycles.Pairwise (· < ·))
    (hmax : ∀ c ∈ cycles, c ≤ MAX_CYCLES) :
    (cycleTurns localeCompare initSide cycles sim).Pairwise fun t t' => toLex t.stamp ≤ toLex t'.stamp := by
  induction cycles generalizing sim with
  | nil => exact List.pairwise_singleton _ _
  | cons first cycles ih =>
    obtain ⟨hfirst, hcycles⟩ := List.pairwise_cons.1 hcycles
    have hbound : first ≤ MAX_CYCLES := hmax first (by simp)
    have hticks : (List.range' 1 TICKS_PER_CYCLE).Pairwise (· ≤ ·) := List.pairwise_le_range'
    have htick : ∀ tick ∈ List.range' 1 TICKS_PER_CYCLE, tick ≤ TICKS_PER_CYCLE := by
      intro tick ht
      rw [List.mem_range'_1] at ht
      omega
    have hclosed : ∀ (wiped : Bool) (winner : Option Side) (board : BattleSim), ∀ t ∈
        (if wiped = true then [closeTurn first (.battleEnd first winner) board]
          else cycleTurns localeCompare initSide cycles board),
        toLex (first, TICKS_PER_CYCLE + 1) ≤ toLex t.stamp := by
      intro wiped winner board t ht
      split at ht
      · obtain rfl := List.mem_singleton.1 ht
        exact le_rfl
      · rcases cycleTurns_stamp ht with ⟨-, hcycle, -⟩ | ⟨hunit, hcycle, -⟩
        · exact stamp_le (.inl (hfirst _ hcycle))
        · have hlater : first < t.cycle ∨ t.cycle = MAX_CYCLES := hcycle.imp (hfirst _) id
          by_cases hlt : first < t.cycle
          · exact stamp_le (.inl hlt)
          · have hcycle' : first = t.cycle := by omega
            exact stamp_le (.inr ⟨hcycle', by simp [Turn.stamp, hunit]⟩)
    unfold cycleTurns
    dsimp only
    rw [List.pairwise_append, List.pairwise_cons]
    refine ⟨tickTurns_chronological hticks, ⟨hclosed _ _ _, ?_⟩, fun t ht t' ht' => ?_⟩
    · split
      · exact List.pairwise_singleton _ _
      · exact ih hcycles fun c hc => hmax c (List.mem_cons_of_mem first hc)
    · obtain ⟨tick, hin, hstamp⟩ := tickTurns_stamp ht
      have hle : toLex t.stamp ≤ toLex (first, TICKS_PER_CYCLE + 1) := by
        rw [hstamp]
        exact stamp_le (.inr ⟨rfl, (htick tick hin).trans (Nat.le_succ _)⟩)
      rcases List.mem_cons.1 ht' with rfl | ht'
      · exact hle
      · exact hle.trans (hclosed _ _ _ t' ht')

/-! ## The whole battle -/

/-- Who dies in a turn is not named in a later one. -/
theorem Played.silence {last : BattleSim} {ts : List Turn} (h : Played localeCompare sim ts last) (hs : sim.Sound) :
    ts.Pairwise fun t t' => ∀ e ∈ t.kinds, ∀ id, e.dead = some id → ∀ e' ∈ t'.kinds, id ∉ e'.names := by
  refine Calls.pairwise_of_split fun before t after hsplit t' ht' e he id hdead e' he' hname => ?_
  obtain ⟨mid, rest, rfl⟩ := List.append_of_mem ht'
  rw [hsplit] at h
  have hafter : t.after.Sound := h.upto.sound hs
  have hages : Ages t.after t'.before := h.split.2.2.split.1.ages hafter
  have hbefore : t'.before.Sound := hages.sound hafter
  have hdies : ∀ u ∈ t.after.units, u.instanceId = id → u.alive = false := by
    rcases h.turn hs t (by simp) with ⟨unit, s, cycle, tick, rfl, hsound, hmem, -⟩ | ⟨cycle, kind, s, rfl, hkind⟩
    · exact unitAct_dead hsound.ok hmem he hdead
    · obtain rfl : e = kind := List.mem_singleton.1 he
      cases e <;> simp [EventKind.isAction, EventKind.dead] at hkind hdead
  rcases h.turn hs t' (by simp) with ⟨unit, s, cycle, tick, rfl, hsound, hmem, halive⟩ | ⟨cycle, kind, s, rfl, hkind⟩
  · obtain ⟨u', hu', hid, hlives⟩ := unitAct_names hsound.ok hmem halive e' he' id hname
    obtain ⟨u, hu, haged⟩ := hages.from hu'
    have hlived := haged.lived hlives
    rw [hdies u hu ((congrArg Actor.instanceId haged.actor).symm.trans hid)] at hlived
    cases hlived
  · obtain rfl : e' = kind := List.mem_singleton.1 he'
    cases e' <;> simp [EventKind.isAction, EventKind.names] at hkind hname

theorem dead_names {e : EventKind} {id : String} (h : e.dead = some id) : id ∈ e.names := by
  cases e <;> simp [EventKind.dead, EventKind.names] at h ⊢
  exact h.symm

/-- An action reports a death once. -/
theorem ActionGrammar.deaths {target : Option UnitInstance} {kinds : List EventKind}
    (h : ActionGrammar unit target kinds) :
    kinds.Pairwise fun e e' => ∀ id, e.dead = some id → ∀ id', e'.dead = some id' → id ≠ id' := by
  refine Calls.pairwise_of_split fun before e after hsplit e' he' id hdead id' hdead' hid => ?_
  subst hid
  cases e with
  | death cycle tick u =>
    obtain rfl : u.instanceId = id := by simpa [EventKind.dead] using hdead
    rcases h.epilogue before cycle tick u after hsplit e' he' (dead_names hdead') with ⟨_, rfl⟩ | ⟨-, rfl⟩
    · cases hdead'
    · cases hdead'
  | _ => cases hdead

theorem flatMap_pairwise {ts : List Turn} {R : EventKind → EventKind → Prop}
    (hturn : ∀ t ∈ ts, t.kinds.Pairwise R) (hpairs : ts.Pairwise fun t t' => ∀ e ∈ t.kinds, ∀ e' ∈ t'.kinds, R e e') :
    (ts.flatMap (·.kinds)).Pairwise R := List.pairwise_flatMap.2 ⟨hturn, hpairs⟩

/-- **The log of every battle is well formed**: in order of time, one death
at most for each unit, each with its cause beside it, and the dead not named
again but by the attack that killed them and the slow of the healer that
killed them, in the same action. -/
theorem runBattle_wellFormed (localeCompare : String → String → Int) (battle : Battle) :
    (runBattle localeCompare battle.toBattleState).map (·.kind) =
        (turns localeCompare battle.toBattleState).flatMap (·.kinds) ∧
      WellFormedLog localeCompare (turns localeCompare battle.toBattleState) := by
  obtain ⟨last, hplayed⟩ := @turns_played localeCompare battle.toBattleState
  have hsound := battle.sound
  have hturn := hplayed.turn hsound
  have hcycles : (List.range' 1 MAX_CYCLES).Pairwise (· < ·) := List.pairwise_lt_range'
  have hmax : ∀ c ∈ List.range' 1 MAX_CYCLES, c ≤ MAX_CYCLES := by
    intro c hc
    rw [List.mem_range'_1] at hc
    omega
  have hstamped : ∀ t ∈ turns localeCompare battle.toBattleState, ∀ e ∈ t.kinds, e.stamp = t.stamp := by
    intro t ht e he
    rcases hturn t ht with ⟨unit, s, cycle, tick, rfl, hs, -, -⟩ | ⟨cycle, kind, s, rfl, -⟩
    · exact unitAct_stamp hs.ok e he
    · rcases cycleTurns_stamp ht with ⟨hunit, -⟩ | ⟨-, -, hkinds⟩
      · exact absurd rfl hunit
      · exact (hkinds e he).2
  have hsilence := hplayed.silence hsound
  refine ⟨?_, ?_, ?_, ?_, ?_, hsilence⟩
  · rw [runBattle_turns, List.map_flatMap]
    exact List.flatMap_congr fun t _ => kinds_log t
  · have hchronological : (turns localeCompare battle.toBattleState).Pairwise
        fun t t' => toLex t.stamp ≤ toLex t'.stamp := cycleTurns_chronological hcycles hmax
    refine flatMap_pairwise (fun t ht => List.pairwise_of_forall_mem_list fun e he e' he' => ?_) ?_
    · rw [hstamped t ht e he, hstamped t ht e' he']
    · refine hchronological.imp_of_mem fun {t t'} ht ht' hle e he e' he' => ?_
      rwa [hstamped t ht e he, hstamped t' ht' e' he']
  · intro e he haction
    obtain ⟨t, ht, he⟩ := List.mem_flatMap.1 he
    rcases cycleTurns_stamp ht with ⟨-, -, htick⟩ | ⟨-, -, hkinds⟩
    · rwa [hstamped t ht e he]
    · rw [(hkinds e he).1] at haction
      cases haction
  · refine List.pairwise_filterMap.2 (flatMap_pairwise (fun t ht => ?_) ?_)
    · rcases hturn t ht with ⟨unit, s, cycle, tick, rfl, hs, hmem, -⟩ | ⟨cycle, kind, s, rfl, -⟩
      · exact (unitAct_grammar hs.ok hmem).deaths
      · exact List.pairwise_singleton _ _
    · refine hsilence.imp fun {t t'} hquiet e he e' he' id hdead id' hdead' hid => ?_
      subst hid
      exact hquiet e he id hdead e' he' (dead_names hdead')
  · intro t ht unit hunit
    rcases hturn t ht with ⟨actor, s, cycle, tick, rfl, hs, hmem, -⟩ | ⟨cycle, kind, s, rfl, -⟩
    · obtain rfl : actor = unit := Option.some.inj hunit
      exact unitAct_grammar hs.ok hmem
    · cases hunit

end

end AutoChess.Game
