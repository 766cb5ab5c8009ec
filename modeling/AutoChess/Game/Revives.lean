/-
The revive law. A hit on a 1★ or 2★ tank that has not revived is its revive,
and nothing else writes the flag; a pierce does not look at it. So the flag of
a unit is up exactly when its revive is in the log (`Marked`), a tank that has
not revived survives every attack, and only a pierce kills it first.
-/
import AutoChess.Game.Grammar

namespace AutoChess.Game

/-- The unit whose revive the event reports. -/
def EventKind.revived : EventKind → Option String
  | .revive _ _ unit _ => some unit.instanceId
  | _ => none

/-- The hit of `unit` on what it aims at is a revive of `u`. -/
def RevivedBy (localeCompare : String → String → Int) (unit : UnitInstance) (sim : BattleSim) (u : UnitInstance) :
    Prop :=
  pickTarget localeCompare unit sim = some u ∧ revives u (atkFor unit.unitId unit.star) = true

/-! ## One action -/

section
variable {localeCompare : String → String → Int} {sim : BattleSim} {cycle tick : Nat} {unit target : UnitInstance}

theorem revives_iff {u : UnitInstance} {dmg : Int} : revives u dmg = true ↔
    u.hp ≤ dmg ∧ u.unitId = .tank ∧ 1 ≤ u.star ∧ u.revivedThisRound ≠ some true := by
  simp [revives, and_assoc]

theorem damaged_revived (dmg : Int) (u : UnitInstance) :
    (damaged dmg u).revivedThisRound = if revives u dmg then some true else u.revivedThisRound := by
  unfold damaged
  split
  · rfl
  · split <;> rfl

theorem revived_unhurt : Unhurt UnitInstance.revivedThisRound := fun _ _ _ => rfl

/-- The hit on `target`, on boards whose slows may have been cleared. -/
theorem hit_views (dmg : Int) {f : UnitInstance → UnitInstance} (hok : sim.Ok) (ht : target ∈ sim.units)
    (hf : ∀ u, (f u).actor = u.actor ∧ (f u).revivedThisRound = u.revivedThisRound ∧ revives (f u) dmg = revives u dmg) :
    Views UnitInstance.revivedThisRound
      (fun u => if u = target ∧ revives u dmg = true then some true else u.revivedThisRound) sim
      ((sim.each f).update target.instanceId (damaged dmg)) := by
  refine ⟨fun u => if (f u).instanceId == target.instanceId then damaged dmg (f u) else f u, ?_, fun u hu => ?_⟩
  · simp only [BattleSim.update, BattleSim.each, List.map_map]
    rfl
  · obtain ⟨hactor, hflag, hrevives⟩ := hf u
    have hid : (f u).instanceId = u.instanceId := congrArg Actor.instanceId hactor
    dsimp only
    by_cases hself : u = target
    · subst hself
      rw [if_pos (by simpa using hid)]
      refine ⟨(damaged_actor dmg _).trans hactor, ?_⟩
      rw [damaged_revived, hrevives, hflag]
      simp
    · have hne : (f u).instanceId ≠ target.instanceId := fun heq => hself (hok.unique hu ht (hid.symm.trans heq))
      rw [if_neg (by simpa using hne), if_neg (fun h => hself h.1)]
      exact ⟨hactor, hflag⟩

/-- **An action raises the flag of the tank it revives** and no other. -/
theorem unitAct_views (hok : sim.Ok) : ∀ u' ∈ (unitAct localeCompare unit sim cycle tick).1.units,
    ∃ u ∈ sim.units, u'.instanceId = u.instanceId ∧ (u'.revivedThisRound = some true ↔
      u.revivedThisRound = some true ∨ RevivedBy localeCompare unit sim u) := by
  have hviews : Views UnitInstance.revivedThisRound
      (fun u => if pickTarget localeCompare unit sim = some u ∧ revives u (atkFor unit.unitId unit.star) = true
        then some true else u.revivedThisRound) sim (unitAct localeCompare unit sim cycle tick).1 := by
    cases ht : pickTarget localeCompare unit sim with
    | none =>
      have hsame : Stays UnitInstance.revivedThisRound sim (unitAct localeCompare unit sim cycle tick).1 := by
        unfold unitAct
        rw [ht]
        split
        · exact Stays.refl sim
        · exact Stays.refl sim
        · exact Stays.refl sim
        · exact applyHealerSupport_stays revived_unhurt
      simp only [reduceCtorEq, false_and, ↓reduceIte]
      exact hsame
    | some target =>
      have hmem := mem_units _ (pickTarget_mem ht).1
      have hit := hit_views (f := id) (atkFor unit.unitId unit.star) hok hmem fun u => ⟨rfl, rfl, rfl⟩
      have hcleared := hit_views (f := unslowed unit.instanceId) (atkFor unit.unitId unit.star) hok hmem
        fun u => by
          refine ⟨unslowed_actor _ u, ?_, ?_⟩ <;> unfold unslowed <;> split <;> rfl
      rw [show sim.each id = sim by simp [BattleSim.each]] at hit
      have hiff : ∀ u : UnitInstance, (some target = some u ∧ revives u (atkFor unit.unitId unit.star) = true) ↔
          (u = target ∧ revives u (atkFor unit.unitId unit.star) = true) := fun u => by
        rw [Option.some.injEq, eq_comm]
      simp only [hiff]
      unfold unitAct
      rw [ht]
      split
      · dsimp only
        split
        · exact hit.trans (applyLifesteal_stays revived_unhurt)
        · exact hit
      · exact hit
      · dsimp only
        split
        · exact hit.trans (applyPierce_stays revived_unhurt)
        · exact hit
      · dsimp only
        split
        · exact (hcleared.trans (applyHealerSupport_stays revived_unhurt)).trans (applySlow_stays cycle tick fun _ _ => rfl)
        · exact hcleared.trans (applyHealerSupport_stays revived_unhurt)
  obtain ⟨g, hg, hgu⟩ := hviews
  intro u' hu'
  rw [hg, units_each, List.mem_map] at hu'
  obtain ⟨u, hu, rfl⟩ := hu'
  obtain ⟨hactor, hflag⟩ := hgu u hu
  refine ⟨u, hu, congrArg Actor.instanceId hactor, ?_⟩
  dsimp only at hflag
  rw [hflag]
  unfold RevivedBy
  by_cases hrevived : pickTarget localeCompare unit sim = some u ∧ revives u (atkFor unit.unitId unit.star) = true
  · rw [if_pos hrevived]
    exact ⟨fun _ => .inr hrevived, fun _ => rfl⟩
  · rw [if_neg hrevived]
    exact (or_iff_left hrevived).symm

theorem Follows.revived {more : List EventKind} (h : Follows unit target sim cycle tick more) :
    ∀ e ∈ more, e.revived = none := by
  intro e he
  cases h with
  | aid h => rcases h e he with ⟨_, -, _, _, rfl⟩ | ⟨_, -, -, _, _, rfl⟩ | ⟨-, rfl⟩ <;> rfl
  | pierce _ _ _ _ hrest =>
    rcases List.mem_cons.1 he with rfl | he
    · rfl
    · rcases hrest with rfl | rfl
      · cases he
      · obtain rfl := List.mem_singleton.1 he
        rfl

/-- A revive is the first thing its action reports. -/
theorem unitAct_revive (hok : sim.Ok) {before after : List EventKind} {e : EventKind} {id : String}
    (hsplit : (unitAct localeCompare unit sim cycle tick).2 = before ++ e :: after) (hrevived : e.revived = some id) :
    before = [] ∧ ∃ u, RevivedBy localeCompare unit sim u ∧ u.instanceId = id ∧
      e = .revive cycle tick u.actor (reviveHp u.maxHp) ∧ Follows unit u sim cycle tick after := by
  rcases @unitAct_kinds localeCompare sim cycle tick unit hok with
    ⟨-, hheals⟩ | ⟨target, more, ht, hmore, hkinds⟩
  · obtain ⟨_, -, -, _, _, rfl⟩ := hheals e (by simp [hsplit])
    cases hrevived
  · rw [hkinds] at hsplit
    rcases split_append hsplit with ⟨mid, hhit, rfl⟩ | ⟨mid, rfl, rfl⟩
    · unfold damageEvents at hhit
      split at hhit
      · next hrev =>
        obtain ⟨rfl, rfl, rfl⟩ : before = [] ∧ e = _ ∧ mid = [] := by
          cases before with
          | nil => simpa [eq_comm] using hhit
          | cons => simp at hhit
        exact ⟨rfl, target, ⟨ht, hrev⟩, Option.some.inj hrevived, rfl, hmore⟩
      · split at hhit
        · have he : e ∈ before ++ e :: mid := by simp
          rw [← hhit] at he
          simp only [List.mem_cons, List.not_mem_nil, or_false] at he
          rcases he with rfl | rfl <;> cases hrevived
        · have he : e ∈ before ++ e :: mid := by simp
          rw [← hhit] at he
          obtain rfl := List.mem_singleton.1 he
          cases hrevived
    · rw [hmore.revived e (by simp)] at hrevived
      cases hrevived

theorem RevivedBy.reports (hok : sim.Ok) {u : UnitInstance} (h : RevivedBy localeCompare unit sim u)
    (cycle tick : Nat) :
    .revive cycle tick u.actor (reviveHp u.maxHp) ∈ (unitAct localeCompare unit sim cycle tick).2 := by
  rcases @unitAct_kinds localeCompare sim cycle tick unit hok with ⟨hnone, -⟩ | ⟨target, more, ht, -, hkinds⟩
  · rw [h.1] at hnone
    cases hnone
  · obtain rfl : u = target := Option.some.inj (h.1.symm.trans ht)
    rw [hkinds, damageEvents, if_pos h.2]
    simp

/-- How an action kills a 1★ or 2★ tank: by its hit when the tank's flag is up,
or by a pierce, which is the last thing it reports but the death. -/
theorem unitAct_kills (hok : sim.Ok) {before after : List EventKind} {c t : Nat} {u : Actor}
    (hsplit : (unitAct localeCompare unit sim cycle tick).2 = before ++ .death c t u :: after)
    (htank : u.unitId = .tank) (hstar : 1 ≤ u.star) :
    (∃ target ∈ sim.units, target.actor = u ∧ target.revivedThisRound = some true) ∨
      after = [] ∧ ∃ front dmg, before = front ++ [.pierce c t unit.actor u dmg] := by
  rcases @unitAct_kinds localeCompare sim cycle tick unit hok with
    ⟨-, hheals⟩ | ⟨target, more, ht, hmore, hkinds⟩
  · obtain ⟨_, -, -, _, _, he⟩ := hheals (.death c t u) (by simp [hsplit])
    cases he
  · rw [hkinds] at hsplit
    rcases split_append hsplit with ⟨mid, hhit, -⟩ | ⟨mid, rfl, hpierce⟩
    · left
      obtain ⟨-, -, -, rfl, -⟩ := damageEvents_split hhit
      refine ⟨target, mem_units _ (pickTarget_mem ht).1, rfl, ?_⟩
      by_contra hflag
      unfold damageEvents at hhit
      split at hhit
      · have he : EventKind.death c t target.actor ∈ before ++ .death c t target.actor :: mid := by simp
        rw [← hhit] at he
        cases List.mem_singleton.1 he
      · next hnot =>
        split at hhit
        · next hlethal => exact hnot (revives_iff.2 ⟨by omega, htank, hstar, hflag⟩)
        · have he : EventKind.death c t target.actor ∈ before ++ .death c t target.actor :: mid := by simp
          rw [← hhit] at he
          cases List.mem_singleton.1 he
    · obtain ⟨dmg, rfl, rfl⟩ := hmore.split hpierce
      exact .inr ⟨rfl, _, dmg, rfl⟩

/-! ## The board after a revive -/

/-- The events that follow leave a unit's snapshot alone when they name it in
slows only. -/
theorem replay_unnamed {kinds : List EventKind} {board : List UnitSnapshot} {id : String}
    (h : ∀ e ∈ kinds, id ∈ e.names → ∃ c t v w, e = .slow c t v w) :
    ∀ s ∈ replay kinds board, s.instanceId = id → s ∈ board := by
  induction kinds generalizing board with
  | nil => exact fun s hs _ => hs
  | cons e kinds ih =>
    rw [replay_cons]
    intro s hs hid
    have hs := ih (fun e' he' => h e' (List.mem_cons_of_mem e he')) s hs hid
    have hother : ∀ {tid} {f : UnitSnapshot → UnitSnapshot}, s ∈ onUnit tid f board →
        (∀ s, (f s).instanceId = s.instanceId) → tid ≠ id → s ∈ board := by
      intro tid f hmem hkeep hne
      obtain ⟨s₀, hs₀, rfl⟩ := List.mem_map.1 hmem
      by_cases hself : s₀.instanceId = tid
      · rw [if_pos (by simpa using hself), hkeep] at hid
        exact absurd (hself.symm.trans hid) hne
      · rwa [if_neg (by simpa using hself)]
    have hname := h e List.mem_cons_self
    have hne : ∀ {tid}, tid ∈ e.names → (∀ c t v w, e ≠ .slow c t v w) → tid ≠ id := by
      rintro tid hmem hnot rfl
      obtain ⟨c, t, v, w, heq⟩ := hname hmem
      exact hnot c t v w heq
    cases e with
    | slow | cycleEnd | battleEnd => exact hs
    | attack | revive | heal | lifesteal | pierce | death =>
      exact hother hs (fun _ => rfl) (hne (by simp [EventKind.names]) fun _ _ _ _ h => by cases h)

/-- After the action that revives a tank it stands at half its HP. -/
theorem RevivedBy.board (hok : sim.Ok) (hunit : unit ∈ unitsOf sim unit.side) {u : UnitInstance}
    (h : RevivedBy localeCompare unit sim u) (cycle tick : Nat) :
    ∀ s ∈ snapshotAllUnits (unitAct localeCompare unit sim cycle tick).1, s.instanceId = u.instanceId →
      s.hp = reviveHp u.maxHp ∧ s.alive = true := by
  intro s hs hid
  obtain ⟨htarget, halive⟩ := pickTarget_mem h.1
  obtain ⟨before, after, hsplit⟩ := List.append_of_mem (h.reports hok cycle tick)
  obtain ⟨rfl, v, hv, hvid, -, hmore⟩ := unitAct_revive hok hsplit rfl
  obtain rfl : u = v := Option.some.inj (h.1.symm.trans hv.1)
  rw [← replay_unitAct hok hunit, hsplit, List.nil_append, replay_cons] at hs
  have hslows : ∀ e ∈ after, u.instanceId ∈ e.names → ∃ c t v w, e = .slow c t v w := by
    intro e he hname
    obtain ⟨-, rfl⟩ := hmore.names hok hunit htarget e he hname
    exact ⟨_, _, _, _, rfl⟩
  have hs := replay_unnamed hslows s hs hid
  obtain ⟨s₀, hs₀, rfl⟩ := List.mem_map.1 hs
  obtain ⟨w, hw, rfl⟩ := List.mem_map.1 hs₀
  by_cases hself : w.instanceId = u.instanceId
  · obtain rfl : w = u := hok.unique hw (mem_units _ htarget) hself
    rw [if_pos (by simp [snapshotUnit, UnitInstance.actor])]
    exact ⟨rfl, halive⟩
  · rw [if_neg (by simpa [snapshotUnit, UnitInstance.actor] using hself)] at hid
    exact absurd hid hself

end

/-! ## The flag and the log -/

/-- The flag of a unit is up exactly when its revive is reported. -/
structure Marked (past : List Turn) (sim : BattleSim) : Prop where
  sound : sim.Sound
  flag : ∀ u ∈ sim.units, u.revivedThisRound = some true ↔
    ∃ e ∈ past.flatMap (·.kinds), e.revived = some u.instanceId

section
variable {localeCompare : String → String → Int} {sim last : BattleSim} {past ts : List Turn}
  {cycle tick : Nat} {unit : UnitInstance}

theorem Marked.act (h : Marked past sim) (hfind : sim.find unit.instanceId = some unit) (halive : unit.alive = true) :
    Marked (past ++ [actTurn localeCompare unit sim cycle tick]) (unitAct localeCompare unit sim cycle tick).1 := by
  refine ⟨(unitAct_keeps localeCompare unit sim cycle tick h.sound hfind halive).1, fun u' hu' => ?_⟩
  have hok := h.sound.ok
  obtain ⟨u, hu, hid, hflag⟩ := unitAct_views hok u' hu'
  rw [hflag, hid, h.flag u hu, List.flatMap_append]
  simp only [List.mem_append, or_and_right, exists_or]
  refine or_congr Iff.rfl ⟨fun hrevived => ?_, ?_⟩
  · exact ⟨_, by simpa [actTurn] using hrevived.reports hok cycle tick, rfl⟩
  · rintro ⟨e, he, hrevived⟩
    have he : e ∈ (unitAct localeCompare unit sim cycle tick).2 := by simpa [actTurn] using he
    obtain ⟨before, after, hsplit⟩ := List.append_of_mem he
    obtain ⟨-, v, hv, hvid, -⟩ := unitAct_revive hok hsplit hrevived
    exact hok.unique (mem_units _ (pickTarget_mem hv.1).1) hu hvid ▸ hv

theorem Marked.close {kind : EventKind} (h : Marked past sim) (hkind : kind.isAction = false) :
    Marked (past ++ [closeTurn cycle kind sim]) sim := by
  refine ⟨h.sound, fun u hu => ?_⟩
  have hnone : kind.revived = none := by cases kind <;> first | rfl | cases hkind
  rw [h.flag u hu, List.flatMap_append]
  simp [closeTurn, or_and_right, exists_or, hnone]

theorem Played.marked (h : Played localeCompare sim ts last) : Marked past sim → Marked (past ++ ts) last :=
  h.history (fun _ _ _ _ _ hmarked hfind halive => hmarked.act hfind halive)
    (fun _ _ _ _ hmarked hkind => hmarked.close hkind) past

theorem Battle.marked (battle : Battle) : Marked [] (cloneSim battle.toBattleState) := by
  refine ⟨battle.sound, fun u hu => ?_⟩
  obtain ⟨side, hu⟩ : ∃ side, u ∈ unitsOf (cloneSim battle.toBattleState) side := by
    rw [units_eq, List.mem_append] at hu
    exact hu.elim (⟨.p1, ·⟩) (⟨.p2, ·⟩)
  rw [unitsOf_cloneSim, List.mem_map] at hu
  obtain ⟨v, hv, rfl⟩ := hu
  have hdown : v.revivedThisRound ≠ some true := battle.unrevived side v hv
  have : (cloneUnit v).revivedThisRound ≠ some true := by
    cases hflag : v.revivedThisRound with
    | none => simp [cloneUnit, hflag]
    | some b => cases b <;> simp [cloneUnit, hflag] at hdown ⊢
  simp [this]

end

/-! ## The whole battle -/

theorem split_flatMap {α β : Type} {f : α → List β} {l : List α} {before after : List β} {x : β}
    (h : l.flatMap f = before ++ x :: after) : ∃ pre a post front back, l = pre ++ a :: post ∧
      f a = front ++ x :: back ∧ before = pre.flatMap f ++ front ∧ after = back ++ post.flatMap f := by
  induction l generalizing before with
  | nil => simp at h
  | cons a l ih =>
    rw [List.flatMap_cons] at h
    rcases split_append h with ⟨mid, ha, rfl⟩ | ⟨mid, rfl, hl⟩
    · exact ⟨[], a, l, before, mid, rfl, ha, rfl, rfl⟩
    · obtain ⟨pre, b, post, front, back, rfl, hb, rfl, rfl⟩ := ih hl
      exact ⟨a :: pre, b, post, front, back, rfl, hb, by simp, rfl⟩

/-- The revives and the deaths of tanks in the log of a battle that starts on
the board `initial`. -/
structure ReviveLaw (initial : List UnitSnapshot) (log : List CombatEvent) : Prop where
  /-- Tanks with a star revive, at half their HP, and were never dead. -/
  revives : ∀ pre e post, log = pre ++ e :: post → ∀ cycle tick u hp, e.kind = .revive cycle tick u hp →
    u.unitId = .tank ∧ 1 ≤ u.star ∧
      (∃ s ∈ initial, s.identity = (u, s.maxHp) ∧ hp = s.maxHp / 2) ∧ 1 ≤ hp ∧
      (∀ s ∈ e.unitStates, s.instanceId = u.instanceId → s.hp = hp) ∧
      ∀ board ∈ initial :: (pre ++ [e]).map (·.unitStates), ∀ s ∈ board, s.instanceId = u.instanceId → s.alive = true
  once : ∀ pre e post, log = pre ++ e :: post → ∀ id, e.kind.revived = some id →
    ∀ e' ∈ pre, e'.kind.revived ≠ some id
  /-- Such a tank dies after its revive or by the pierce reported before. -/
  deaths : ∀ pre e post, log = pre ++ e :: post → ∀ cycle tick u, e.kind = .death cycle tick u →
    u.unitId = .tank → 1 ≤ u.star → (∃ e' ∈ pre, e'.kind.revived = some u.instanceId) ∨
      ∃ front pierce, pre = front ++ [pierce] ∧ pierce.unitStates = e.unitStates ∧
        ∃ attacker dmg, pierce.kind = .pierce cycle tick attacker u dmg
  attacks : ∀ pre e next post, log = pre ++ e :: next :: post → ∀ cycle tick u, e.kind = .death cycle tick u →
    u.unitId = .tank → 1 ≤ u.star → ∀ cycle' tick' attacker dmg hp,
      next.kind = .attack cycle' tick' attacker u dmg hp → ∃ e' ∈ pre, e'.kind.revived = some u.instanceId

section
variable {localeCompare : String → String → Int} {sim last : BattleSim} {ts : List Turn}

theorem mem_kinds {e : EventKind} : e ∈ ts.flatMap (·.kinds) ↔ ∃ e' ∈ ts.flatMap (·.log), e'.kind = e := by
  have hkinds : ts.flatMap (·.kinds) = (ts.flatMap (·.log)).map (·.kind) := by
    rw [List.map_flatMap]
    exact congrArg (ts.flatMap ·) (funext fun t => (kinds_log t).symm)
  rw [hkinds, List.mem_map]

/-- An action's event, at its place in the log: the turns before it, and the
unit that acts. -/
theorem Played.scene (h : Played localeCompare sim ts last) (hmarked : Marked [] sim) {before after : List CombatEvent}
    {e : CombatEvent} (hsplit : ts.flatMap (·.log) = before ++ e :: after) (haction : e.kind.isAction = true) :
    ∃ pre post front back unit s cycle tick, ts = pre ++ actTurn localeCompare unit s cycle tick :: post ∧
      (unitAct localeCompare unit s cycle tick).2 = front ++ e.kind :: back ∧
      before = pre.flatMap (·.log) ++ front.map (attachSnapshot · (unitAct localeCompare unit s cycle tick).1) ∧
      after = back.map (attachSnapshot · (unitAct localeCompare unit s cycle tick).1) ++ post.flatMap (·.log) ∧
      e.unitStates = snapshotAllUnits (unitAct localeCompare unit s cycle tick).1 ∧
      Marked pre s ∧ unit ∈ unitsOf s unit.side := by
  obtain ⟨pre, t, post, front, back, rfl, hlog, rfl, rfl⟩ := split_flatMap hsplit
  obtain ⟨front, rest, hkinds, rfl, hrest⟩ := List.map_eq_append_iff.1 hlog
  obtain ⟨kind, back, rfl, rfl, rfl⟩ := List.map_eq_cons_iff.1 hrest
  have hpast : Marked pre t.before := h.split.1.marked hmarked
  rcases h.turn hmarked.sound t (by simp) with
    ⟨unit, s, cycle, tick, rfl, -, hmem, -⟩ | ⟨cycle, closing, s, rfl, hclosing⟩
  · exact ⟨pre, post, front, back, unit, s, cycle, tick, rfl, hkinds, rfl, rfl, rfl, hpast, hmem⟩
  · have hkind : kind ∈ (closeTurn cycle closing s).kinds := by rw [hkinds]; simp
    obtain rfl := List.mem_singleton.1 hkind
    rw [attachSnapshot] at haction
    rw [hclosing] at haction
    cases haction

theorem Marked.reported {pre : List Turn} (h : Marked pre sim) {u : UnitInstance} (hu : u ∈ sim.units)
    (hflag : u.revivedThisRound = some true) : ∃ e ∈ pre.flatMap (·.log), e.kind.revived = some u.instanceId := by
  obtain ⟨kind, hkind, hrevived⟩ := (h.flag u hu).1 hflag
  obtain ⟨e, he, rfl⟩ := mem_kinds.1 hkind
  exact ⟨e, he, hrevived⟩

end

/-- Who is alive on a snapshot was alive on every one before. -/
theorem SoundLog.lived {initial : List UnitSnapshot} {pre post : List CombatEvent} {e : CombatEvent} {id : String}
    (h : SoundLog initial (pre ++ e :: post)) (halive : ∀ s ∈ e.unitStates, s.instanceId = id → s.alive = true) :
    ∀ board ∈ initial :: (pre ++ [e]).map (·.unitStates), ∀ s ∈ board, s.instanceId = id → s.alive = true := by
  intro board hboard s hs hid
  rw [List.map_append, ← List.cons_append, List.mem_append] at hboard
  rcases hboard with hboard | hboard
  · by_contra hdead
    have hpairs : (initial :: pre.map (·.unitStates) ++ e.unitStates :: post.map (·.unitStates)).Pairwise StaysDead := by
      simpa using h.dead
    have hstays := (List.pairwise_append.1 hpairs).2.2 board hboard e.unitStates List.mem_cons_self
    have hsame : board.map (·.identity) = e.unitStates.map (·.identity) := by
      rw [h.same e (by simp)]
      rcases List.mem_cons.1 hboard with rfl | hboard
      · rfl
      · obtain ⟨e', he', rfl⟩ := List.mem_map.1 hboard
        exact h.same e' (List.mem_append_left _ he')
    have hident : s.identity ∈ e.unitStates.map (·.identity) := hsame ▸ List.mem_map_of_mem hs
    obtain ⟨s', hs', hident⟩ := List.mem_map.1 hident
    have hid' : s'.instanceId = s.instanceId := congrArg (·.1.instanceId) hident
    have hlives := halive s' hs' (hid'.trans hid)
    rw [hstays s hs (by simpa using hdead) s' hs' hid'] at hlives
    cases hlives
  · obtain rfl := List.mem_singleton.1 hboard
    exact halive s hs hid

section
variable {localeCompare : String → String → Int}

/-- A tank that is killed in an action by what is not a pierce has revived. -/
theorem Played.tank_dies {sim : BattleSim} {ts : List Turn} (h : Played localeCompare sim ts last)
    (hmarked : Marked [] sim) {before after : List CombatEvent} {e : CombatEvent}
    (hsplit : ts.flatMap (·.log) = before ++ e :: after) {cycle tick : Nat} {u : Actor}
    (hdeath : e.kind = .death cycle tick u) (htank : u.unitId = .tank) (hstar : 1 ≤ u.star) :
    (∃ e' ∈ before, e'.kind.revived = some u.instanceId) ∨
      ∃ front pierce, before = front ++ [pierce] ∧ pierce.unitStates = e.unitStates ∧
        (∃ attacker dmg, pierce.kind = .pierce cycle tick attacker u dmg) ∧
        ∃ pre t post, ts = pre ++ t :: post ∧ e.kind ∈ t.kinds ∧ after = post.flatMap (·.log) := by
  obtain ⟨pre, post, front, back, unit, s, c, k, hts, hkinds, rfl, rfl, hboard, hpast, -⟩ :=
    h.scene hmarked hsplit (by rw [hdeath]; rfl)
  have hkilled := hkinds
  rw [hdeath] at hkilled
  rcases unitAct_kills hpast.sound.ok hkilled htank hstar with
    ⟨target, hmem, rfl, hflag⟩ | ⟨rfl, front, dmg, rfl⟩
  · obtain ⟨e', he', hrevived⟩ := hpast.reported hmem hflag
    exact .inl ⟨e', List.mem_append_left _ he', hrevived⟩
  · refine .inr ⟨_, _, by rw [List.map_append, ← List.append_assoc]; rfl, hboard.symm, ⟨_, dmg, rfl⟩,
      pre, _, post, hts, ?_, rfl⟩
    show e.kind ∈ (unitAct localeCompare unit s c k).2
    rw [hkinds]
    simp

/-- **The revive law.** -/
theorem runBattle_reviveLaw (localeCompare : String → String → Int) (battle : Battle) :
    ReviveLaw (snapshotAllUnits battle.boards) (runBattle localeCompare battle.toBattleState) := by
  obtain ⟨last, hplayed⟩ := @turns_played localeCompare battle.toBattleState
  have hmarked := battle.marked
  have hsound := hplayed.soundLog battle.sound
  have hsilence := (hplayed.silence battle.sound)
  rw [snapshot_cloneSim] at hsound
  rw [runBattle_turns]
  refine ⟨fun pre e post hlog cycle tick u hp hkind => ?_, fun pre e post hlog id hrevived e' he' hagain => ?_,
    fun pre e post hlog cycle tick u hdeath htank hstar => ?_,
    fun pre e next post hlog cycle tick u hdeath htank hstar cycle' tick' attacker dmg hp hattack => ?_⟩
  · obtain ⟨turns₁, turns₂, front, back, unit, s, c, k, hts, hkinds, -, -, hboard, hpast, hunit⟩ :=
      hplayed.scene hmarked hlog (by rw [hkind]; rfl)
    obtain ⟨-, v, hv, -, hrevive, -⟩ := unitAct_revive hpast.sound.ok hkinds (by rw [hkind]; rfl)
    rw [hkind] at hrevive
    injection hrevive with _ _ hactor hhalf
    subst hactor hhalf
    obtain ⟨-, htank, hstar, -⟩ := revives_iff.1 hv.2
    have hmem := mem_units _ (pickTarget_mem hv.1).1
    have hafter := hv.board hpast.sound.ok hunit c k
    rw [← hboard] at hafter
    refine ⟨htank, hstar, ?_, ?_, fun s' hs' hid => (hafter s' hs' hid).1, ?_⟩
    · have hages : Ages (cloneSim battle.toBattleState) s := by
        rw [hts] at hplayed
        exact hplayed.split.1.ages battle.sound
      have hident : (snapshotUnit v).identity ∈ (snapshotAllUnits battle.boards).map (·.identity) := by
        rw [← snapshot_cloneSim, ← hages.identity]
        exact List.mem_map_of_mem (List.mem_map_of_mem hmem)
      obtain ⟨s₀, hs₀, hident⟩ := List.mem_map.1 hident
      have hmax : s₀.maxHp = v.maxHp := congrArg (·.2) hident
      exact ⟨s₀, hs₀, hident.trans (by rw [hmax]; rfl), by rw [hmax]; rfl⟩
    · have := (hpast.sound.healthy v hmem).maxHp
      unfold reviveHp
      omega
    · rw [hlog] at hsound
      exact hsound.lived fun s' hs' hid => (hafter s' hs' hid).2
  · obtain ⟨turns₁, turns₂, front, back, unit, s, c, k, hts, hkinds, rfl, -, -, hpast, -⟩ :=
      hplayed.scene hmarked hlog (by cases h : e.kind <;> simp [h, EventKind.revived, EventKind.isAction] at hrevived ⊢)
    obtain ⟨rfl, v, hv, hvid, -, -⟩ := unitAct_revive hpast.sound.ok hkinds hrevived
    have hdown := (revives_iff.1 hv.2).2.2.2
    refine hdown ((hpast.flag v (mem_units _ (pickTarget_mem hv.1).1)).2 ⟨e'.kind, mem_kinds.2 ⟨e', ?_, rfl⟩, ?_⟩)
    · simpa using he'
    · rw [hagain, hvid]
  · rcases hplayed.tank_dies hmarked hlog hdeath htank hstar with hbefore | ⟨front, pierce, hpre, hboard, hpierce, -⟩
    · exact .inl hbefore
    · exact .inr ⟨front, pierce, hpre, hboard, hpierce⟩
  · rcases hplayed.tank_dies hmarked hlog hdeath htank hstar with hbefore | ⟨-, -, -, -, -, turns₁, t, turns₂, hts, hmem, hpost⟩
    · exact hbefore
    · -- The dead are not named in a later turn.
      have hnext : next ∈ turns₂.flatMap (·.log) := by rw [← hpost]; simp
      obtain ⟨t', ht', hnext⟩ := List.mem_flatMap.1 hnext
      obtain ⟨kind, hkind, rfl⟩ := List.mem_map.1 hnext
      rw [hts] at hsilence
      have hunnamed := (List.pairwise_cons.1 (List.pairwise_append.1 hsilence).2.1).1 t' ht' e.kind hmem
        u.instanceId (by rw [hdeath]; rfl) kind hkind
      rw [show kind = .attack cycle' tick' attacker u dmg hp from hattack] at hunnamed
      exact absurd (by simp [EventKind.names]) hunnamed

end

end AutoChess.Game
