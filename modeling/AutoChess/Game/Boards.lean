/-
What an action can do to the boards: every mutation of the engine keeps the
units in place with their identity fields (`Spares`), and none of an
action's mutations touches the alive flag of the unit that acts, because
the units it hits are on the other side.
-/
import AutoChess.Game.Engine

namespace AutoChess.Game

/-- Each board holds its own side's units, and no two units of a battle
share an instanceId. -/
structure BattleSim.Ok (sim : BattleSim) : Prop where
  side : ∀ side, ∀ u ∈ unitsOf sim side, u.side = side
  ids : (sim.units.map (·.instanceId)).Nodup

/-- The unit `id` of `side` is alive. -/
def AliveOn (sim : BattleSim) (side : Side) (id : String) : Prop :=
  ∃ u ∈ unitsOf sim side, u.instanceId = id ∧ u.alive = true

/-- `sim'` holds the units of `sim` in the same places, and unit `id` is
not killed. -/
structure Spares (id : String) (sim sim' : BattleSim) : Prop where
  actors : ∀ side, (unitsOf sim' side).map (·.actor) = (unitsOf sim side).map (·.actor)
  alive : ∀ side, AliveOn sim side id → AliveOn sim' side id

theorem Spares.refl (id : String) (sim : BattleSim) : Spares id sim sim :=
  ⟨fun _ => rfl, fun _ h => h⟩

theorem Spares.trans {id : String} {sim₁ sim₂ sim₃ : BattleSim} (h₁ : Spares id sim₁ sim₂)
    (h₂ : Spares id sim₂ sim₃) : Spares id sim₁ sim₃ :=
  ⟨fun side => (h₂.actors side).trans (h₁.actors side), fun side h => h₂.alive side (h₁.alive side h)⟩

theorem units_eq (sim : BattleSim) : sim.units = unitsOf sim .p1 ++ unitsOf sim .p2 := rfl

theorem mem_units {sim : BattleSim} {u : UnitInstance} (side : Side) (h : u ∈ unitsOf sim side) :
    u ∈ sim.units := by
  rw [units_eq, List.mem_append]
  cases side with
  | p1 => exact .inl h
  | p2 => exact .inr h

/-- The identity fields determine whether the boards are well formed. -/
theorem BattleSim.Ok.of_actors {sim sim' : BattleSim} (hok : sim.Ok)
    (h : ∀ side, (unitsOf sim' side).map (·.actor) = (unitsOf sim side).map (·.actor)) : sim'.Ok := by
  refine ⟨fun side u hu => ?_, ?_⟩
  · have hmem : u.actor ∈ (unitsOf sim side).map (·.actor) := h side ▸ List.mem_map_of_mem hu
    obtain ⟨v, hv, heq⟩ := List.mem_map.1 hmem
    have hside : v.side = u.side := congrArg Actor.side heq
    exact hside ▸ hok.side side v hv
  · have hids : ∀ s : BattleSim, s.units.map (·.instanceId) =
        ((unitsOf s .p1).map (·.actor) ++ (unitsOf s .p2).map (·.actor)).map (·.instanceId) := by
      intro s
      simp only [units_eq, List.map_append, List.map_map]
      rfl
    rw [hids, h .p1, h .p2, ← hids]
    exact hok.ids

theorem Spares.ok {id : String} {sim sim' : BattleSim} (h : Spares id sim sim') (hok : sim.Ok) :
    sim'.Ok := hok.of_actors h.actors

theorem unitsOf_map (sim : BattleSim) (f : UnitInstance → UnitInstance) (side : Side) :
    unitsOf { p1Units := sim.p1Units.map f, p2Units := sim.p2Units.map f } side =
      (unitsOf sim side).map f := by cases side <;> rfl

/-- A pass over both boards that keeps identities, and unit `id` alive. -/
theorem spares_map {id : String} (sim : BattleSim) {f : UnitInstance → UnitInstance}
    (hactor : ∀ u, (f u).actor = u.actor)
    (halive : ∀ u, u.instanceId = id → u.alive = true → (f u).alive = true) :
    Spares id sim { p1Units := sim.p1Units.map f, p2Units := sim.p2Units.map f } := by
  refine ⟨fun side => ?_, fun side h => ?_⟩
  · rw [unitsOf_map, List.map_map]
    exact List.map_congr_left fun u _ => hactor u
  · obtain ⟨u, hu, hid, hal⟩ := h
    refine ⟨f u, ?_, ?_, halive u hid hal⟩
    · rw [unitsOf_map]; exact List.mem_map_of_mem hu
    · exact (congrArg Actor.instanceId (hactor u)).trans hid

theorem spares_update {id tid : String} (sim : BattleSim) {f : UnitInstance → UnitInstance}
    (hactor : ∀ u, (f u).actor = u.actor)
    (halive : tid = id → ∀ u, u.alive = true → (f u).alive = true) :
    Spares id sim (sim.update tid f) := by
  refine spares_map sim (fun u => ?_) fun u hid hal => ?_
  · split
    · exact hactor u
    · rfl
  · split
    · next heq =>
      have htid : u.instanceId = tid := by simpa using heq
      exact halive (htid.symm.trans hid) u hal
    · exact hal

@[simp] theorem damaged_actor (dmg : Int) (u : UnitInstance) : (damaged dmg u).actor = u.actor := by
  unfold damaged
  split
  · rfl
  · split <;> rfl

@[simp] theorem pierced_actor (dmg : Int) (u : UnitInstance) : (pierced dmg u).actor = u.actor := rfl

@[simp] theorem slowed_actor (h : String) (u : UnitInstance) : (slowed h u).actor = u.actor := rfl

@[simp] theorem unslowed_actor (h : String) (u : UnitInstance) : (unslowed h u).actor = u.actor := by
  unfold unslowed; split <;> rfl

@[simp] theorem unslowed_alive (h : String) (u : UnitInstance) : (unslowed h u).alive = u.alive := by
  unfold unslowed; split <;> rfl

/-! ## Where targets come from -/

theorem foldl_choose_mem {α : Type} {f : α → α → α} (hf : ∀ a b, f a b = a ∨ f a b = b) :
    ∀ (l : List α) (u : α), l.foldl f u ∈ u :: l
  | [], u => by simp
  | v :: l, u => by
    have h := foldl_choose_mem hf l (f u v)
    simp only [List.foldl_cons, List.mem_cons] at h ⊢
    rcases h with h | h
    · rcases hf u v with hu | hv
      · exact .inl (h.trans hu)
      · exact .inr (.inl (h.trans hv))
    · exact .inr (.inr h)

section
variable {localeCompare : String → String → Int}

theorem mem_byPositionThenId {units : List UnitInstance} {u : UnitInstance} :
    u ∈ byPositionThenId localeCompare units ↔ u ∈ units := by
  simp [byPositionThenId, sortBy]

theorem lowestHp_mem {units : List UnitInstance} {u : UnitInstance}
    (h : lowestHp localeCompare units = some u) : u ∈ units := by
  unfold lowestHp at h
  split at h
  · cases h
  · next v rest heq =>
    cases h
    refine mem_byPositionThenId.1 (heq ▸ ?_ : _ ∈ byPositionThenId localeCompare units)
    exact foldl_choose_mem (fun a b => by split <;> simp) rest v

theorem firstNonEmptyRow_subset {units : List UnitInstance} {u : UnitInstance}
    (h : u ∈ firstNonEmptyRow units) : u ∈ units := by
  unfold firstNonEmptyRow at h
  cases hf : ([0, 1, 2].map fun row => units.filter (·.row == row)).find? (!·.isEmpty) with
  | none =>
    rw [hf] at h
    cases h
  | some l =>
    rw [hf] at h
    obtain ⟨row, -, rfl⟩ := List.mem_map.1 (List.mem_of_find?_eq_some hf)
    exact List.mem_of_mem_filter h

theorem firstNonEmptyLane_subset {units : List UnitInstance} {u : UnitInstance}
    (h : u ∈ firstNonEmptyLane units) : u ∈ units := by
  unfold firstNonEmptyLane at h
  cases hf : ([0, 1, 2].map fun col =>
      firstNonEmptyRow (units.filter (·.col == col))).find? (!·.isEmpty) with
  | none =>
    rw [hf] at h
    cases h
  | some l =>
    rw [hf] at h
    obtain ⟨col, -, rfl⟩ := List.mem_map.1 (List.mem_of_find?_eq_some hf)
    exact List.mem_of_mem_filter (firstNonEmptyRow_subset h)

/-- A target is an alive unit of the other board. -/
theorem pickTarget_mem {attacker target : UnitInstance} {sim : BattleSim}
    (h : pickTarget localeCompare attacker sim = some target) :
    target ∈ unitsOf sim (enemySideOf attacker.side) ∧ target.alive = true := by
  suffices hmem : target ∈ (unitsOf sim (enemySideOf attacker.side)).filter (·.alive) from
    List.mem_filter.1 hmem
  simp only [pickTarget] at h
  split at h
  · cases h
  split at h
  · exact lowestHp_mem h
  split at h
  · next tank htank =>
    cases h
    split at htank
    · exact List.mem_of_find?_eq_some htank
    · cases htank
  · have hcand : ∀ u ∈ (if (firstNonEmptyRow (List.filter (·.col == attacker.col)
          ((unitsOf sim (enemySideOf attacker.side)).filter (·.alive)))).isEmpty then
          firstNonEmptyLane ((unitsOf sim (enemySideOf attacker.side)).filter (·.alive))
        else firstNonEmptyRow (List.filter (·.col == attacker.col)
          ((unitsOf sim (enemySideOf attacker.side)).filter (·.alive)))),
        u ∈ (unitsOf sim (enemySideOf attacker.side)).filter (·.alive) := by
      intro u hu
      split at hu
      · exact firstNonEmptyLane_subset hu
      · exact List.mem_of_mem_filter (firstNonEmptyRow_subset hu)
    split at h
    · exact hcand _ (lowestHp_mem h)
    · exact hcand _ (mem_byPositionThenId.1 (List.mem_of_mem_head? h))

theorem unitBehind_mem {ranger primary behind : UnitInstance} {sim : BattleSim}
    (h : unitBehind ranger primary sim = some behind) :
    behind ∈ unitsOf sim (enemySideOf ranger.side) := by
  simp only [unitBehind] at h
  split at h
  · cases h
  · exact List.mem_of_find?_eq_some h

/-! ## One action -/

/-- Units of different sides have different ids. -/
theorem BattleSim.Ok.ne_enemy {sim : BattleSim} (hok : sim.Ok) {side : Side} {u v : UnitInstance}
    (hu : u ∈ unitsOf sim side) (hv : v ∈ unitsOf sim (enemySideOf side)) :
    v.instanceId ≠ u.instanceId := by
  have hn := hok.ids
  rw [units_eq, List.map_append, List.nodup_append] at hn
  cases side with
  | p1 => exact (hn.2.2 _ (List.mem_map_of_mem hu) _ (List.mem_map_of_mem hv)).symm
  | p2 => exact hn.2.2 _ (List.mem_map_of_mem hv) _ (List.mem_map_of_mem hu)

theorem applyDamage_spares {id : String} {target source : UnitInstance} {dmg : Int} {cycle tick : Nat}
    (sim : BattleSim) (h : target.instanceId ≠ id) :
    Spares id sim (applyDamage target dmg source sim cycle tick).1 :=
  spares_update sim (damaged_actor dmg) fun he => absurd he h

theorem applyLifesteal_spares {id fighter : String} {dmg : Int} {cycle tick : Nat} (sim : BattleSim) :
    Spares id sim (applyLifesteal fighter dmg sim cycle tick).1 := by
  unfold applyLifesteal
  split
  · exact Spares.refl id sim
  · exact spares_update sim (fun _ => rfl) fun _ _ hal => hal

theorem applyPierce_spares {id : String} {ranger primary : UnitInstance} {dmg : Int} {cycle tick : Nat}
    (sim : BattleSim)
    (h : ∀ v ∈ unitsOf sim (enemySideOf ranger.side), v.instanceId ≠ id) :
    Spares id sim (applyPierce ranger primary dmg sim cycle tick).1 := by
  unfold applyPierce
  split
  · exact Spares.refl id sim
  · next behind hb =>
    exact spares_update sim (pierced_actor _) fun he => absurd he (h behind (unitBehind_mem hb))

theorem healIf_spares {id : String} {target : Option UnitInstance} {healer : UnitInstance}
    {cycle tick : Nat} (sim : BattleSim) : Spares id sim (healIf target healer sim cycle tick).1 := by
  unfold healIf
  split
  · exact Spares.refl id sim
  · simp only [healOne]
    split
    · exact Spares.refl id sim
    · exact spares_update sim (fun _ => rfl) fun _ _ hal => hal

theorem applyHealerSupport_spares {id : String} {healer : UnitInstance} {cycle tick : Nat}
    (sim : BattleSim) :
    Spares id sim (applyHealerSupport localeCompare healer sim cycle tick).1 := by
  simp only [applyHealerSupport]
  split
  · exact (healIf_spares sim).trans (healIf_spares _)
  · exact healIf_spares sim

theorem applySlow_spares {id : String} {healer target : UnitInstance} (sim : BattleSim)
    (cycle tick : Nat) : Spares id sim (applySlow healer target sim cycle tick).1 :=
  spares_update sim (slowed_actor _) fun _ _ hal => hal

theorem clearHealerSlows_spares {id : String} {healer : UnitInstance} (sim : BattleSim) :
    Spares id sim (clearHealerSlows healer sim) :=
  spares_map sim (unslowed_actor _) fun u _ hal => by simpa using hal

/-- **An action never kills the unit that acts**, and leaves every unit in
its place. -/
theorem unitAct_spares {unit : UnitInstance} {sim : BattleSim} {cycle tick : Nat} (hok : sim.Ok)
    (hu : unit ∈ unitsOf sim unit.side) :
    Spares unit.instanceId sim (unitAct localeCompare unit sim cycle tick).1 := by
  have hne : ∀ {target}, pickTarget localeCompare unit sim = some target →
      target.instanceId ≠ unit.instanceId := fun ht => hok.ne_enemy hu (pickTarget_mem ht).1
  have hit : ∀ {target} {dmg}, pickTarget localeCompare unit sim = some target →
      Spares unit.instanceId sim (applyDamage target dmg unit sim cycle tick).1 :=
    fun ht => applyDamage_spares sim (hne ht)
  unfold unitAct
  split
  · split
    · exact Spares.refl _ sim
    · next target ht =>
      simp only
      split
      · exact (hit ht).trans (applyLifesteal_spares _)
      · exact hit ht
  · split
    · exact Spares.refl _ sim
    · next target ht => exact hit ht
  · split
    · exact Spares.refl _ sim
    · next target ht =>
      simp only
      split
      · -- The unit behind is looked up after the hit, among the same enemies.
        refine (hit ht).trans (applyPierce_spares _ fun v hv heq => ?_)
        have hactor : v.actor ∈ (unitsOf sim (enemySideOf unit.side)).map (·.actor) := by
          rw [← (hit ht).actors]
          exact List.mem_map_of_mem hv
        obtain ⟨w, hw, hwv⟩ := List.mem_map.1 hactor
        exact hok.ne_enemy hu hw ((congrArg Actor.instanceId hwv).trans heq)
      · exact hit ht
  · split
    · exact applyHealerSupport_spares sim
    · next target ht =>
      have hhit : Spares unit.instanceId sim
          (applyDamage target (atkFor unit.unitId unit.star) unit (clearHealerSlows unit sim)
            cycle tick).1 :=
        (clearHealerSlows_spares sim).trans (applyDamage_spares _ (hne ht))
      simp only
      split
      · exact (hhit.trans (applyHealerSupport_spares _)).trans (applySlow_spares _ cycle tick)
      · exact hhit.trans (applyHealerSupport_spares _)

end

/-! ## Action events -/

/-- Events of an action, as opposed to the two that close a cycle. -/
def EventKind.isAction : EventKind → Bool
  | .cycleEnd _ | .battleEnd _ _ => false
  | _ => true

section
variable {localeCompare : String → String → Int}

theorem damageEvents_isAction {target source : UnitInstance} {dmg : Int} {cycle tick : Nat} :
    ∀ k ∈ damageEvents target dmg source cycle tick, k.isAction = true := by
  unfold damageEvents
  split
  · simp [EventKind.isAction]
  · split <;> simp [EventKind.isAction]

theorem applyLifesteal_isAction {fighter : String} {dmg : Int} {sim : BattleSim} {cycle tick : Nat} :
    ∀ k ∈ (applyLifesteal fighter dmg sim cycle tick).2, k.isAction = true := by
  unfold applyLifesteal
  split <;> simp [EventKind.isAction]

theorem applyPierce_isAction {ranger primary : UnitInstance} {dmg : Int} {sim : BattleSim}
    {cycle tick : Nat} :
    ∀ k ∈ (applyPierce ranger primary dmg sim cycle tick).2, k.isAction = true := by
  unfold applyPierce
  split
  · simp
  · simp only
    split <;> simp [EventKind.isAction]

theorem healIf_isAction {target : Option UnitInstance} {healer : UnitInstance} {sim : BattleSim}
    {cycle tick : Nat} : ∀ k ∈ (healIf target healer sim cycle tick).2, k.isAction = true := by
  unfold healIf
  split
  · simp
  · simp only [healOne]
    split <;> simp [EventKind.isAction]

theorem applyHealerSupport_isAction {healer : UnitInstance} {sim : BattleSim} {cycle tick : Nat} :
    ∀ k ∈ (applyHealerSupport localeCompare healer sim cycle tick).2, k.isAction = true := by
  simp only [applyHealerSupport]
  split
  · exact fun k hk => (List.mem_append.1 hk).elim (healIf_isAction k) (healIf_isAction k)
  · exact healIf_isAction

theorem applySlow_isAction {healer target : UnitInstance} {sim : BattleSim} {cycle tick : Nat} :
    ∀ k ∈ (applySlow healer target sim cycle tick).2, k.isAction = true := by
  simp [applySlow, EventKind.isAction]

theorem unitAct_isAction {unit : UnitInstance} {sim : BattleSim} {cycle tick : Nat} :
    ∀ k ∈ (unitAct localeCompare unit sim cycle tick).2, k.isAction = true := by
  have hboth : ∀ {l₁ l₂ : List EventKind}, (∀ k ∈ l₁, k.isAction = true) →
      (∀ k ∈ l₂, k.isAction = true) → ∀ k ∈ l₁ ++ l₂, k.isAction = true :=
    fun h₁ h₂ k hk => (List.mem_append.1 hk).elim (h₁ k) (h₂ k)
  unfold unitAct
  split
  · split
    · simp
    · simp only
      split
      · exact hboth damageEvents_isAction applyLifesteal_isAction
      · exact damageEvents_isAction
  · split
    · simp
    · exact damageEvents_isAction
  · split
    · simp
    · simp only
      split
      · exact hboth damageEvents_isAction applyPierce_isAction
      · exact damageEvents_isAction
  · split
    · exact applyHealerSupport_isAction
    · simp only
      split
      · exact hboth (hboth damageEvents_isAction applyHealerSupport_isAction) applySlow_isAction
      · exact hboth damageEvents_isAction applyHealerSupport_isAction

end

end AutoChess.Game
