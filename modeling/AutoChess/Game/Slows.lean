/-
The healers' slows over a whole battle. A unit has one owner field for the
slows of up to nine healers, and a healer clears hers before she attacks.
One field is enough because a healer does not leave a target while it lives
(`pickTarget_lasting`): what she clears on a living unit she puts back in the
same action. So an action either leaves a unit's slow as it is or slows it
(`SlowBooks.act_slow`), and the owner of a slow is always a healer whose
latest hit landed on the unit that carries it.
-/
import AutoChess.Game.Loyalty
import AutoChess.Game.Views

namespace AutoChess.Game

/-! ## What an action does to slows -/

/-- The fields that carry a slow. -/
def UnitInstance.slowState (u : UnitInstance) : Option Bool × Option String × Option Int :=
  (u.slowActive, u.slowUntilHealerAct, u.effectiveSpd)

/-- The unit with its slow as the action of `unit` on `target` leaves it. -/
def slowedBy (unit : UnitInstance) (target : Option UnitInstance) (u : UnitInstance) : UnitInstance :=
  if unit.unitId = .healer ∧ target.isSome then
    if 1 ≤ unit.star ∧ target.map (·.instanceId) = some u.instanceId then slowed unit.instanceId u
    else unslowed unit.instanceId u
  else u

/-- The boards keep their units, each with the slow `f` gives it. -/
def Slowing (f : UnitInstance → UnitInstance) (sim sim' : BattleSim) : Prop :=
  ∃ g, sim' = sim.each g ∧ ∀ u ∈ sim.units, (g u).actor = u.actor ∧ (g u).slowState = (f u).slowState

section
variable {localeCompare : String → String → Int} {sim : BattleSim} {cycle tick : Nat}

theorem Slowing.refl (sim : BattleSim) : Slowing id sim sim :=
  ⟨id, by simp [BattleSim.each], fun u _ => ⟨rfl, rfl⟩⟩

theorem Slowing.trans {f f' : UnitInstance → UnitInstance} {sim₁ sim₂ sim₃ : BattleSim}
    (h₁ : Slowing f sim₁ sim₂) (h₂ : Slowing f' sim₂ sim₃)
    (hf' : ∀ u v, v.actor = u.actor → v.slowState = u.slowState → (f' v).slowState = (f' u).slowState)
    (hf : ∀ u, (f u).actor = u.actor) : Slowing (f' ∘ f) sim₁ sim₃ := by
  obtain ⟨g, rfl, hg⟩ := h₁
  obtain ⟨g', rfl, hg'⟩ := h₂
  refine ⟨g' ∘ g, by simp [BattleSim.each], fun u hu => ?_⟩
  have hgu : g u ∈ (sim₁.each g).units := by
    rw [units_each]
    exact List.mem_map_of_mem hu
  obtain ⟨hactor, hslow⟩ := hg u hu
  obtain ⟨hactor', hslow'⟩ := hg' (g u) hgu
  exact ⟨hactor'.trans hactor, hslow'.trans (hf' _ _ (hactor.trans (hf u).symm) hslow)⟩

theorem slowState_unhurt : Unhurt UnitInstance.slowState := fun _ _ _ => rfl

@[simp] theorem damaged_slowState (dmg : Int) (u : UnitInstance) : (damaged dmg u).slowState = u.slowState := by
  unfold damaged
  split
  · rfl
  · split <;> rfl

theorem applyDamage_slowing {target source : UnitInstance} {dmg : Int} :
    Slowing id sim (applyDamage target dmg source sim cycle tick).1 :=
  stays_update (damaged_actor dmg) (damaged_slowState dmg)

/-- Only a healer that attacks touches slows: she clears hers, and with a
star she slows her target. -/
theorem unitAct_slowing {unit : UnitInstance} :
    Slowing (slowedBy unit (pickTarget localeCompare unit sim)) sim
      (unitAct localeCompare unit sim cycle tick).1 := by
  have hidle : ∀ {sim'}, Slowing id sim sim' → unit.unitId ≠ .healer ∨ pickTarget localeCompare unit sim = none →
      Slowing (slowedBy unit (pickTarget localeCompare unit sim)) sim sim' := by
    rintro sim' ⟨g, rfl, hg⟩ hnot
    refine ⟨g, rfl, fun u hu => ⟨(hg u hu).1, ?_⟩⟩
    rw [slowedBy, if_neg]
    · exact (hg u hu).2
    · rintro ⟨hkind, hsome⟩
      rcases hnot with hnot | hnot
      · exact hnot hkind
      · simp [hnot] at hsome
  unfold unitAct
  split
  · next hkind =>
    refine hidle ?_ (.inl (by simp [hkind]))
    split
    · exact Slowing.refl sim
    · dsimp only
      split
      · exact Stays.trans applyDamage_slowing (applyLifesteal_stays slowState_unhurt)
      · exact applyDamage_slowing
  · next hkind =>
    refine hidle ?_ (.inl (by simp [hkind]))
    split
    · exact Slowing.refl sim
    · exact applyDamage_slowing
  · next hkind =>
    refine hidle ?_ (.inl (by simp [hkind]))
    split
    · exact Slowing.refl sim
    · dsimp only
      split
      · exact Stays.trans applyDamage_slowing (applyPierce_stays slowState_unhurt)
      · exact applyDamage_slowing
  · next hkind =>
    split
    · next hnone => exact hidle (applyHealerSupport_stays slowState_unhurt) (.inr hnone)
    · next target ht =>
      have hcleared : Slowing (unslowed unit.instanceId) sim (clearHealerSlows unit sim) :=
        ⟨_, rfl, fun u _ => ⟨unslowed_actor _ u, rfl⟩⟩
      have hsupport : Slowing id (clearHealerSlows unit sim) (applyHealerSupport localeCompare unit
          (applyDamage target (atkFor unit.unitId unit.star) unit (clearHealerSlows unit sim) cycle tick).1
          cycle tick).1 := Stays.trans applyDamage_slowing (applyHealerSupport_stays slowState_unhurt)
      have hhit := hcleared.trans hsupport (fun _ _ _ h => h) (unslowed_actor _)
      dsimp only
      split
      · next hstar =>
        obtain ⟨g, hg, hgu⟩ := hhit
        refine ⟨fun u => if (g u).instanceId == target.instanceId then slowed unit.instanceId (g u) else g u,
          ?_, fun u hu => ?_⟩
        · simp only [applySlow] at hg ⊢
          rw [hg]
          simp only [BattleSim.update, BattleSim.each, List.map_map]
          rfl
        · obtain ⟨hactor, hslow⟩ := hgu u hu
          have hid : (g u).instanceId = u.instanceId := congrArg Actor.instanceId hactor
          have hunit : (g u).unitId = u.unitId := congrArg Actor.unitId hactor
          rw [slowedBy, if_pos ⟨hkind, by simp [ht]⟩]
          dsimp only
          by_cases hit : u.instanceId = target.instanceId
          · rw [if_pos (by simpa [hid] using hit), if_pos ⟨by simpa using hstar, by simp [ht, hit]⟩]
            refine ⟨hactor, ?_⟩
            simp only [slowed, UnitInstance.slowState, hunit]
          · rw [if_neg (by simpa [hid] using hit), if_neg]
            · exact ⟨hactor, hslow⟩
            · rintro ⟨-, hsame⟩
              rw [ht] at hsame
              exact hit (Option.some.inj hsame).symm
      · next hstar =>
        obtain ⟨g, hg, hgu⟩ := hhit
        refine ⟨g, hg, fun u hu => ⟨(hgu u hu).1, ?_⟩⟩
        rw [slowedBy, if_pos ⟨hkind, by simp [ht]⟩, if_neg (by rintro ⟨hone, -⟩; simp [hone] at hstar)]
        exact (hgu u hu).2

end

/-! ## Hits -/

/-- The unit an event hits: the target of an attack, or the tank revived in its place. -/
def EventKind.hit : EventKind → Option String
  | .attack _ _ _ target _ _ => some target.instanceId
  | .revive _ _ unit _ => some unit.instanceId
  | _ => none

/-- The unit a turn's attack hits. -/
def Turn.hit (t : Turn) : Option String := t.kinds.findSome? EventKind.hit

/-- The unit that `id` hit last. -/
def lastHit (past : List Turn) (id : String) : Option String :=
  past.reverse.findSome? fun t => if t.unit.map (·.instanceId) = some id then t.hit else none

/-- A healer with a star, of the other side and alive or dead, hit `u` with
her latest attack. -/
def UnderSlow (past : List Turn) (sim : BattleSim) (u : UnitInstance) : Prop :=
  ∃ h ∈ sim.units, h.unitId = .healer ∧ 1 ≤ h.star ∧ h.side = enemySideOf u.side ∧
    lastHit past h.instanceId = some u.instanceId

theorem lastHit_append (past : List Turn) (t : Turn) (id : String) :
    lastHit (past ++ [t]) id =
      (if t.unit.map (·.instanceId) = some id then t.hit else none).or (lastHit past id) := by
  unfold lastHit
  rw [List.reverse_append, List.reverse_singleton, List.singleton_append, List.findSome?_cons]
  cases (if t.unit.map (·.instanceId) = some id then t.hit else none) <;> rfl

section
variable {localeCompare : String → String → Int} {sim : BattleSim} {cycle tick : Nat}

theorem damageEvents_hit {target source : UnitInstance} {dmg : Int} :
    (damageEvents target dmg source cycle tick).findSome? EventKind.hit = some target.instanceId := by
  unfold damageEvents
  split
  · rfl
  · split <;> rfl

theorem healIf_hit {target : Option UnitInstance} {healer : UnitInstance} :
    (healIf target healer sim cycle tick).2.findSome? EventKind.hit = none := by
  unfold healIf healOne
  split
  · rfl
  · dsimp only
    split <;> rfl

theorem applyHealerSupport_hit {healer : UnitInstance} :
    (applyHealerSupport localeCompare healer sim cycle tick).2.findSome? EventKind.hit = none := by
  simp only [applyHealerSupport]
  split
  · rw [List.findSome?_append, healIf_hit, healIf_hit]
    rfl
  · exact healIf_hit

/-- An action hits its target, or nobody. -/
theorem unitAct_hit {unit : UnitInstance} :
    (unitAct localeCompare unit sim cycle tick).2.findSome? EventKind.hit =
      (pickTarget localeCompare unit sim).map (·.instanceId) := by
  unfold unitAct
  cases hkind : unit.unitId <;> cases ht : pickTarget localeCompare unit sim <;> dsimp only
  case healer.none => exact applyHealerSupport_hit
  case healer.some target =>
    split
    · rw [List.findSome?_append, List.findSome?_append]
      simp only [applyDamage]
      rw [damageEvents_hit]
      rfl
    · rw [List.findSome?_append]
      simp only [applyDamage]
      rw [damageEvents_hit]
      rfl
  case tank.some target => exact damageEvents_hit
  case fighter.some target =>
    split
    · rw [List.findSome?_append]
      simp only [applyDamage]
      rw [damageEvents_hit]
      rfl
    · exact damageEvents_hit
  case ranger.some target =>
    split
    · rw [List.findSome?_append]
      simp only [applyDamage]
      rw [damageEvents_hit]
      rfl
    · exact damageEvents_hit
  all_goals rfl

theorem lastHit_act {past : List Turn} {unit : UnitInstance} (id : String) :
    lastHit (past ++ [actTurn localeCompare unit sim cycle tick]) id =
      if unit.instanceId = id then
        ((pickTarget localeCompare unit sim).map (·.instanceId)).or (lastHit past id)
      else lastHit past id := by
  rw [lastHit_append]
  have hhit : (actTurn localeCompare unit sim cycle tick).hit =
      (pickTarget localeCompare unit sim).map (·.instanceId) := unitAct_hit
  rw [hhit]
  simp only [actTurn, Option.map_some, Option.some.injEq]
  split
  · rfl
  · rfl

theorem lastHit_close {past : List Turn} {kind : EventKind} (id : String) :
    lastHit (past ++ [closeTurn cycle kind sim]) id = lastHit past id := by
  rw [lastHit_append]
  rfl

end

/-! ## The owner field -/

section
variable {sim sim' : BattleSim}

theorem Ages.aged (h : Ages sim sim') (hok : sim.Ok) {u u' : UnitInstance} (hu : u ∈ sim.units)
    (hu' : u' ∈ sim'.units) (hid : u'.instanceId = u.instanceId) : Aged u u' := by
  obtain ⟨f, rfl, hf⟩ := h
  rw [units_each, List.mem_map] at hu'
  obtain ⟨v, hv, rfl⟩ := hu'
  have hfv : (f v).instanceId = v.instanceId := congrArg Actor.instanceId (hf v hv).actor
  obtain rfl : v = u := hok.unique hv hu (hfv.symm.trans hid)
  exact hf v hv

theorem Ages.from (h : Ages sim sim') {u' : UnitInstance} (hu' : u' ∈ sim'.units) :
    ∃ u ∈ sim.units, Aged u u' := by
  obtain ⟨f, rfl, hf⟩ := h
  rw [units_each, List.mem_map] at hu'
  obtain ⟨u, hu, rfl⟩ := hu'
  exact ⟨u, hu, hf u hu⟩

theorem Ages.to (h : Ages sim sim') {u : UnitInstance} (hu : u ∈ sim.units) : ∃ u' ∈ sim'.units, Aged u u' := by
  obtain ⟨f, rfl, hf⟩ := h
  refine ⟨f u, ?_, hf u hu⟩
  rw [units_each]
  exact List.mem_map_of_mem hu

theorem Aged.lived {u u' : UnitInstance} (h : Aged u u') (halive : u'.alive = true) : u.alive = true := by
  by_contra hdead
  rw [h.dead (by simpa using hdead)] at halive
  cases halive

/-- Who is under a slow depends on the identity of the units alone. -/
theorem underSlow_ages (h : Ages sim sim') {past : List Turn} {u u' : UnitInstance} (hactor : u'.actor = u.actor) :
    UnderSlow past sim' u' ↔ UnderSlow past sim u := by
  have hid : u'.instanceId = u.instanceId := congrArg Actor.instanceId hactor
  have hside : u'.side = u.side := congrArg Actor.side hactor
  unfold UnderSlow
  rw [hid, hside]
  constructor
  · rintro ⟨v', hv', hkind, hstar, henemy, hhit⟩
    obtain ⟨v, hv, haged⟩ := h.from hv'
    refine ⟨v, hv, (congrArg Actor.unitId haged.actor).symm.trans hkind, ?_, ?_, ?_⟩
    · rwa [← show v'.star = v.star from congrArg Actor.star haged.actor]
    · exact (congrArg Actor.side haged.actor).symm.trans henemy
    · rwa [← show v'.instanceId = v.instanceId from congrArg Actor.instanceId haged.actor]
  · rintro ⟨v, hv, hkind, hstar, henemy, hhit⟩
    obtain ⟨v', hv', haged⟩ := h.to hv
    refine ⟨v', hv', (congrArg Actor.unitId haged.actor).trans hkind, ?_, ?_, ?_⟩
    · rwa [show v'.star = v.star from congrArg Actor.star haged.actor]
    · exact (congrArg Actor.side haged.actor).trans henemy
    · rwa [show v'.instanceId = v.instanceId from congrArg Actor.instanceId haged.actor]

end

/-- The slows of a battle so far. Each healer still aims at her latest victim
while it lives; a living unit that is slowed is under the slow of its owner,
and one without an owner is under nobody's. -/
structure SlowBooks (localeCompare : String → String → Int) (past : List Turn) (sim : BattleSim) : Prop where
  sound : sim.Sound
  seated : Seated sim
  loyal : ∀ h ∈ sim.units, h.unitId = .healer → ∀ id, lastHit past h.instanceId = some id →
    ∀ u ∈ sim.units, u.instanceId = id → u.alive = true → pickTarget localeCompare h sim = some u
  owned : ∀ u ∈ sim.units, u.alive = true → ∀ id, u.slowUntilHealerAct = some id →
    u.slowState = (slowed id u).slowState ∧ ∃ h ∈ sim.units, h.instanceId = id ∧ h.unitId = .healer ∧
      1 ≤ h.star ∧ h.side = enemySideOf u.side ∧ lastHit past id = some u.instanceId
  free : ∀ u ∈ sim.units, u.alive = true → u.slowUntilHealerAct = none →
    u.slowActive ≠ some true ∧ u.effectiveSpd = some (spdFor u.unitId) ∧ ¬ UnderSlow past sim u

/-- `unit` acts and slows `u`. -/
def Slows (localeCompare : String → String → Int) (unit : UnitInstance) (sim : BattleSim) (u : UnitInstance) : Prop :=
  unit.unitId = .healer ∧ 1 ≤ unit.star ∧ pickTarget localeCompare unit sim = some u

instance (localeCompare : String → String → Int) (unit : UnitInstance) (sim : BattleSim) (u : UnitInstance) :
    Decidable (Slows localeCompare unit sim u) := inferInstanceAs (Decidable (_ ∧ _ ∧ _))

section
variable {localeCompare : String → String → Int} {past : List Turn} {sim : BattleSim} {unit : UnitInstance}
  {cycle tick : Nat}

/-- An action leaves the slow of a living unit as it is, or slows it. -/
theorem SlowBooks.act_slow (h : SlowBooks localeCompare past sim) (hunit : unit ∈ sim.units) {u : UnitInstance}
    (hu : u ∈ sim.units) (halive : u.alive = true) :
    (slowedBy unit (pickTarget localeCompare unit sim) u).slowState =
      if Slows localeCompare unit sim u then (slowed unit.instanceId u).slowState else u.slowState := by
  unfold slowedBy
  by_cases hattack : unit.unitId = .healer ∧ (pickTarget localeCompare unit sim).isSome
  · rw [if_pos hattack]
    obtain ⟨target, ht⟩ := Option.isSome_iff_exists.1 hattack.2
    by_cases hslow : 1 ≤ unit.star ∧ (pickTarget localeCompare unit sim).map (·.instanceId) = some u.instanceId
    · have hid : target.instanceId = u.instanceId := by simpa [ht] using hslow.2
      obtain rfl : target = u := h.sound.ok.unique (mem_units _ (pickTarget_mem ht).1) hu hid
      rw [if_pos hslow, if_pos ⟨hattack.1, hslow.1, ht⟩]
    · rw [if_neg hslow, if_neg (fun hs => hslow ⟨hs.2.1, by simp [hs.2.2]⟩)]
      unfold unslowed
      rw [if_neg]
      -- Her own slow would be on the unit she aims at still.
      intro howner
      obtain ⟨-, v, hv, hvid, -, hstar, -, hhit⟩ := h.owned u hu halive _ (by simpa using howner)
      obtain rfl : v = unit := h.sound.ok.unique hv hunit hvid
      have hloyal := h.loyal v hv hattack.1 _ hhit u hu rfl halive
      exact hslow ⟨hstar, by simp [hloyal]⟩
  · rw [if_neg hattack, if_neg (fun hs => hattack ⟨hs.1, by simp [hs.2.2]⟩)]

/-- The units after an action: each one older, and its slow as the action
leaves it. -/
theorem SlowBooks.act_unit (h : SlowBooks localeCompare past sim)
    (hfind : sim.find unit.instanceId = some unit) (halive : unit.alive = true) {u' : UnitInstance}
    (hu' : u' ∈ (unitAct localeCompare unit sim cycle tick).1.units) :
    ∃ u ∈ sim.units, Aged u u' ∧ (u'.alive = true → u'.slowState =
      if Slows localeCompare unit sim u then (slowed unit.instanceId u).slowState else u.slowState) := by
  have hmem := mem_of_find h.sound.ok hfind
  have hages : Ages sim (unitAct localeCompare unit sim cycle tick).1 := unitAct_ages h.sound.ok hmem halive
  obtain ⟨g, hg, hgu⟩ := @unitAct_slowing localeCompare sim cycle tick unit
  have hfrom := hu'
  rw [hg, units_each, List.mem_map] at hfrom
  obtain ⟨u, hu, rfl⟩ := hfrom
  obtain ⟨hactor, hslow⟩ := hgu u hu
  have haged := hages.aged h.sound.ok hu hu' (congrArg Actor.instanceId hactor)
  exact ⟨u, hu, haged, fun hlives => hslow.trans (h.act_slow (mem_units _ hmem) hu (haged.lived hlives))⟩

theorem SlowBooks.act (h : SlowBooks localeCompare past sim) (hfind : sim.find unit.instanceId = some unit)
    (halive : unit.alive = true) :
    SlowBooks localeCompare (past ++ [actTurn localeCompare unit sim cycle tick])
      (unitAct localeCompare unit sim cycle tick).1 := by
  have hunit := mem_units _ (mem_of_find h.sound.ok hfind)
  obtain ⟨hsound, hages⟩ := unitAct_keeps localeCompare unit sim cycle tick h.sound hfind halive
  have hact : ∀ u' ∈ (unitAct localeCompare unit sim cycle tick).1.units, u'.alive = true → ∃ u ∈ sim.units,
      Aged u u' ∧ u.alive = true ∧ u'.slowState =
        if Slows localeCompare unit sim u then (slowed unit.instanceId u).slowState else u.slowState := by
    intro u' hu' hlives
    obtain ⟨u, hu, haged, hslow⟩ := h.act_unit hfind halive hu'
    exact ⟨u, hu, haged, haged.lived hlives, hslow hlives⟩
  refine ⟨hsound, hages.seated h.seated, ?_, ?_, ?_⟩
  · intro v' hv' hkind id hhit u' hu' hid hlives
    obtain ⟨v, hv, hvaged⟩ := hages.from hv'
    obtain ⟨u, hu, huaged⟩ := hages.from hu'
    have hvid : v'.instanceId = v.instanceId := congrArg Actor.instanceId hvaged.actor
    have huid : u'.instanceId = u.instanceId := congrArg Actor.instanceId huaged.actor
    have hkind' : v.unitId = .healer := (congrArg Actor.unitId hvaged.actor).symm.trans hkind
    have hlived := huaged.lived hlives
    -- Whom `v` hit last she aimed at before this action already.
    have haim : pickTarget localeCompare v sim = some u := by
      rw [lastHit_act, hvid] at hhit
      by_cases hself : unit.instanceId = v.instanceId
      · obtain rfl : unit = v := h.sound.ok.unique hunit hv hself
        rw [if_pos rfl] at hhit
        cases ht : pickTarget localeCompare unit sim with
        | none =>
          rw [ht] at hhit
          have := h.loyal unit hv hkind' id hhit u hu (huid.symm.trans hid) hlived
          rw [ht] at this
          cases this
        | some target =>
          rw [ht] at hhit
          have htid : target.instanceId = u.instanceId := (Option.some.inj hhit).trans (hid.symm.trans huid)
          rw [h.sound.ok.unique (mem_units _ (pickTarget_mem ht).1) hu htid]
      · rw [if_neg hself] at hhit
        exact h.loyal v hv hkind' id hhit u hu (huid.symm.trans hid) hlived
    exact pickTarget_lasting h.sound.ok h.seated hages (by simp [hkind']) hvaged.actor haim hu' huid hlives
  · intro u' hu' hlives id howner
    obtain ⟨u, hu, haged, hlived, hslow⟩ := hact u' hu' hlives
    have hkind : u'.unitId = u.unitId := congrArg Actor.unitId haged.actor
    have hside : u'.side = u.side := congrArg Actor.side haged.actor
    have huid : u'.instanceId = u.instanceId := congrArg Actor.instanceId haged.actor
    have hslowed : (slowed id u').slowState = (slowed id u).slowState := by
      simp only [slowed, UnitInstance.slowState, hkind]
    rw [hslowed, hside, huid]
    have howner' : u'.slowState.2.1 = some id := howner
    rw [hslow] at howner' ⊢
    by_cases hslows : Slows localeCompare unit sim u
    · rw [if_pos hslows] at howner' ⊢
      obtain rfl : unit.instanceId = id := by simpa [slowed, UnitInstance.slowState] using howner'
      obtain ⟨v, hv, hvaged⟩ := hages.to hunit
      have hvid : v.instanceId = unit.instanceId := congrArg Actor.instanceId hvaged.actor
      refine ⟨rfl, v, hv, hvid, (congrArg Actor.unitId hvaged.actor).trans hslows.1, ?_, ?_, ?_⟩
      · rw [show v.star = unit.star from congrArg Actor.star hvaged.actor]
        exact hslows.2.1
      · have hues : u.side = enemySideOf unit.side := h.sound.ok.side _ u (pickTarget_mem hslows.2.2).1
        rw [show v.side = unit.side from congrArg Actor.side hvaged.actor, hues]
        cases unit.side <;> rfl
      · rw [lastHit_act, if_pos rfl, hslows.2.2]
        rfl
    · rw [if_neg hslows] at howner' ⊢
      obtain ⟨hstate, v, hv, hvid, hhealer, hstar, henemy, hhit⟩ := h.owned u hu hlived id howner'
      obtain ⟨v', hv', hvaged⟩ := hages.to hv
      refine ⟨hstate, v', hv', (congrArg Actor.instanceId hvaged.actor).trans hvid,
        (congrArg Actor.unitId hvaged.actor).trans hhealer, ?_,
        (congrArg Actor.side hvaged.actor).trans henemy, ?_⟩
      · rwa [show v'.star = v.star from congrArg Actor.star hvaged.actor]
      · rw [lastHit_act]
        split
        · next hself =>
          -- The owner acts herself: she hits the unit again.
          obtain rfl : unit = v := h.sound.ok.unique hunit hv (hself.trans hvid.symm)
          rw [h.loyal unit hv hhealer _ (hvid ▸ hhit) u hu rfl hlived]
          rfl
        · exact hhit
  · intro u' hu' hlives howner
    obtain ⟨u, hu, haged, hlived, hslow⟩ := hact u' hu' hlives
    have hkind : u'.unitId = u.unitId := congrArg Actor.unitId haged.actor
    have howner' : u'.slowState.2.1 = none := howner
    have hslows : ¬ Slows localeCompare unit sim u := by
      intro hslows
      rw [hslow, if_pos hslows] at howner'
      cases howner'
    rw [if_neg hslows] at hslow
    obtain ⟨hactive, hspd, hnot⟩ := h.free u hu hlived (by rw [hslow] at howner'; exact howner')
    have hsame : u'.slowActive = u.slowActive ∧ u'.effectiveSpd = u.effectiveSpd :=
      ⟨congrArg (·.1) hslow, congrArg (·.2.2) hslow⟩
    refine ⟨by rwa [hsame.1], by rw [hsame.2, hspd, hkind], ?_⟩
    rw [underSlow_ages hages haged.actor]
    rintro ⟨v, hv, hhealer, hstar, henemy, hhit⟩
    rw [lastHit_act] at hhit
    by_cases hself : unit.instanceId = v.instanceId
    · obtain rfl : unit = v := h.sound.ok.unique hunit hv hself
      rw [if_pos rfl] at hhit
      cases ht : pickTarget localeCompare unit sim with
      | none =>
        rw [ht] at hhit
        exact hnot ⟨unit, hv, hhealer, hstar, henemy, hhit⟩
      | some target =>
        rw [ht] at hhit
        have htid : target.instanceId = u.instanceId := Option.some.inj hhit
        obtain rfl : target = u := h.sound.ok.unique (mem_units _ (pickTarget_mem ht).1) hu htid
        exact hslows ⟨hhealer, hstar, ht⟩
    · rw [if_neg hself] at hhit
      exact hnot ⟨v, hv, hhealer, hstar, henemy, hhit⟩

theorem SlowBooks.close (h : SlowBooks localeCompare past sim) {kind : EventKind} :
    SlowBooks localeCompare (past ++ [closeTurn cycle kind sim]) sim where
  sound := h.sound
  seated := h.seated
  loyal := by simpa only [lastHit_close] using h.loyal
  owned := by simpa only [lastHit_close] using h.owned
  free := by simpa only [UnderSlow, lastHit_close] using h.free

end

/-! ## The whole battle -/

/-- A battle whose units all start at their base SPD. -/
structure FreshBattle extends Battle where
  spd : ∀ side, ∀ u ∈ unitsOf ⟨p1Units, p2Units⟩ side, currentSpd u = spdFor u.unitId

/-- Every action leaves each living unit slowed, at the slowed SPD, exactly
while a healer of the other side with a star, alive or dead, hit it last; and
at its base SPD otherwise. A unit once slowed is slowed as long as it lives. -/
structure SlowsKept (ts : List Turn) : Prop where
  speed : ∀ pre t post, ts = pre ++ t :: post → ∀ u ∈ t.after.units, u.alive = true →
    (u.slowActive = some true ∧ u.effectiveSpd = some (max 0 (slowedSpd (spdFor u.unitId))) ↔
      UnderSlow (pre ++ [t]) t.after u) ∧
    (¬ UnderSlow (pre ++ [t]) t.after u →
      u.slowActive ≠ some true ∧ u.effectiveSpd = some (spdFor u.unitId))
  lasting : ∀ pre t mid t' post, ts = pre ++ t :: mid ++ t' :: post → ∀ u ∈ t.after.units,
    u.alive = true → u.slowActive = some true → ∀ u' ∈ t'.after.units, u'.instanceId = u.instanceId →
      u'.alive = true →
        u'.slowActive = some true ∧ u'.effectiveSpd = some (max 0 (slowedSpd (spdFor u'.unitId)))

section
variable {localeCompare : String → String → Int} {past : List Turn} {sim : BattleSim}

theorem SlowBooks.underSlow_iff (h : SlowBooks localeCompare past sim) {u : UnitInstance} (hu : u ∈ sim.units)
    (halive : u.alive = true) : UnderSlow past sim u ↔ u.slowUntilHealerAct ≠ none := by
  constructor
  · intro hunder hnone
    exact (h.free u hu halive hnone).2.2 hunder
  · intro howner
    obtain ⟨id, hid⟩ := Option.ne_none_iff_exists'.1 howner
    obtain ⟨-, v, hv, rfl, hhealer, hstar, henemy, hhit⟩ := h.owned u hu halive id hid
    exact ⟨v, hv, hhealer, hstar, henemy, hhit⟩

theorem SlowBooks.speed (h : SlowBooks localeCompare past sim) {u : UnitInstance} (hu : u ∈ sim.units)
    (halive : u.alive = true) :
    (u.slowUntilHealerAct ≠ none →
      u.slowActive = some true ∧ u.effectiveSpd = some (max 0 (slowedSpd (spdFor u.unitId)))) ∧
    (u.slowUntilHealerAct = none → u.slowActive ≠ some true ∧ u.effectiveSpd = some (spdFor u.unitId)) := by
  refine ⟨fun howner => ?_, fun hnone => ?_⟩
  · obtain ⟨id, hid⟩ := Option.ne_none_iff_exists'.1 howner
    have hstate := (h.owned u hu halive id hid).1
    exact ⟨congrArg (·.1) hstate, congrArg (·.2.2) hstate⟩
  · obtain ⟨hactive, hspd, -⟩ := h.free u hu halive hnone
    exact ⟨hactive, hspd⟩

theorem FreshBattle.slowBooks (battle : FreshBattle) :
    SlowBooks localeCompare [] (cloneSim battle.toBattleState) := by
  have hunit : ∀ u ∈ (cloneSim battle.toBattleState).units,
      u.slowActive ≠ some true ∧ u.slowUntilHealerAct = none ∧ u.effectiveSpd = some (spdFor u.unitId) := by
    intro u hu
    obtain ⟨side, hu⟩ : ∃ side, u ∈ unitsOf (cloneSim battle.toBattleState) side := by
      rw [units_eq, List.mem_append] at hu
      exact hu.elim (⟨.p1, ·⟩) (⟨.p2, ·⟩)
    rw [unitsOf_cloneSim, List.mem_map] at hu
    obtain ⟨v, hv, rfl⟩ := hu
    obtain ⟨hactive, howner⟩ := battle.unslowed side v hv
    exact ⟨hactive, howner, congrArg some (battle.spd side v hv)⟩
  refine ⟨battle.sound, battle.seated, fun h _ _ id hhit => ?_, fun u hu _ id howner => ?_,
    fun u hu _ _ => ?_⟩
  · cases hhit
  · rw [(hunit u hu).2.1] at howner
    cases howner
  · refine ⟨(hunit u hu).1, (hunit u hu).2.2, ?_⟩
    rintro ⟨h, -, -, -, -, hhit⟩
    cases hhit

theorem Played.slowBooks {last : BattleSim} {ts : List Turn} (h : Played localeCompare sim ts last) :
    SlowBooks localeCompare past sim → SlowBooks localeCompare (past ++ ts) last :=
  h.history (fun _ _ _ _ _ hbooks hfind halive => hbooks.act hfind halive)
    (fun _ _ _ _ hbooks _ => hbooks.close) past

/-- A slow lasts as long as the unit. -/
theorem Played.slow_lasts {last : BattleSim} {ts : List Turn} (h : Played localeCompare sim ts last)
    (hbooks : SlowBooks localeCompare past sim) {u : UnitInstance} (hu : u ∈ sim.units)
    (howner : u.slowUntilHealerAct ≠ none) : ∀ u' ∈ last.units, u'.instanceId = u.instanceId → u'.alive = true →
      u'.slowUntilHealerAct ≠ none := by
  have hkept := h.history (I := fun past' s => SlowBooks localeCompare past' s ∧
      ∀ u' ∈ s.units, u'.instanceId = u.instanceId → u'.alive = true → u'.slowUntilHealerAct ≠ none)
    (fun past' unit s cycle tick hI hfind halive => by
      refine ⟨hI.1.act hfind halive, fun u' hu' hid hlives => ?_⟩
      obtain ⟨v, hv, haged, hslow⟩ := hI.1.act_unit hfind halive hu'
      have hvid : u'.instanceId = v.instanceId := congrArg Actor.instanceId haged.actor
      have hv' := hI.2 v hv (hvid.symm.trans hid) (haged.lived hlives)
      have howner' : u'.slowUntilHealerAct = u'.slowState.2.1 := rfl
      rw [howner', hslow hlives]
      split
      · simp [slowed, UnitInstance.slowState]
      · exact hv')
    (fun past' cycle kind s hI _ => ⟨hI.1.close, hI.2⟩) past
    ⟨hbooks, fun u' hu' hid _ => by rwa [hbooks.sound.ok.unique hu' hu hid]⟩
  exact hkept.2

/-- **Slows over a whole battle**: one owner field is enough for the slows of
all healers. -/
theorem runBattle_slows (localeCompare : String → String → Int) (battle : FreshBattle) :
    SlowsKept (turns localeCompare battle.toBattleState) := by
  obtain ⟨last, hplayed⟩ := @turns_played localeCompare battle.toBattleState
  constructor
  · intro pre t post hts u hu halive
    rw [hts] at hplayed
    have hbooks := hplayed.upto.slowBooks battle.slowBooks
    rw [List.nil_append] at hbooks
    obtain ⟨howned, hfree⟩ := hbooks.speed hu halive
    rw [hbooks.underSlow_iff hu halive]
    refine ⟨⟨fun hslow hnone => (hfree hnone).1 hslow.1, howned⟩, fun hnot => hfree (not_not.1 hnot)⟩
  · intro pre t mid t' post hts u hu halive hactive u' hu' hid hlives
    rw [hts, List.append_assoc, List.cons_append] at hplayed
    have hbooks := hplayed.upto.slowBooks battle.slowBooks
    have hmid := hplayed.split.2.2.upto
    have howner : u.slowUntilHealerAct ≠ none :=
      fun hnone => ((hbooks.speed hu halive).2 hnone).1 hactive
    exact ((hmid.slowBooks hbooks).speed hu' hlives).1 (hmid.slow_lasts hbooks hu howner u' hu' hid hlives)

end

end AutoChess.Game
