/-
Array order. Every choice of the engine but one depends only on who stands
where: sorts run over distinct slots, lowest-HP allies are told apart by
their ids, and what is searched for is unique. The one exception is the
steering to a 2★ tank, which takes the first one of the array, so battles
are independent of the order of the two arrays exactly as long as no steered
unit acts with two such tanks alive against it.
-/
import AutoChess.Game.Targets
import AutoChess.Game.TwoRuns
import AutoChess.Game.Snapshots

namespace AutoChess.Game

/-- The same teams, in any order. -/
def Shuffled (sim sim' : BattleSim) : Prop := ∀ side, (unitsOf sim side).Perm (unitsOf sim' side)

/-- Both arrays the other way round. -/
def backwards (sim : BattleSim) : BattleSim :=
  { p1Units := sim.p1Units.reverse, p2Units := sim.p2Units.reverse }

theorem backwards_shuffled (sim : BattleSim) : Shuffled sim (backwards sim) := by
  intro side
  cases side <;> exact (List.reverse_perm _).symm

/-- The logs agree but for the order of `unitStates`. -/
def SameLog : List CombatEvent → List CombatEvent → Prop :=
  List.Forall₂ fun e e' => e'.kind = e.kind ∧ e.unitStates.Perm e'.unitStates

/-- On these ids the host's collation is a strict order that tells them apart. -/
structure Collation (localeCompare : String → String → Int) (ids : List String) : Prop where
  apart : ∀ a ∈ ids, ∀ b ∈ ids, localeCompare a b = 0 → a = b
  swap : ∀ a ∈ ids, ∀ b ∈ ids, localeCompare a b < 0 ↔ 0 < localeCompare b a
  trans : ∀ a ∈ ids, ∀ b ∈ ids, ∀ c ∈ ids,
    localeCompare a b < 0 → localeCompare b c < 0 → localeCompare a c < 0

/-! ## Targets -/

section
variable {localeCompare : String → String → Int} {sim sim' : BattleSim} {attacker : UnitInstance}

theorem Shuffled.enemies (h : Shuffled sim sim') (attacker : UnitInstance) :
    (aliveEnemies attacker sim).Perm (aliveEnemies attacker sim') := (h _).filter _

theorem Placed.of_perm {units units' : List UnitInstance} (h : Placed units) (hp : units.Perm units') :
    Placed units' :=
  ⟨(hp.map _).nodup_iff.1 h.slots, fun u hu => h.slot_le u (hp.mem_iff.2 hu)⟩

/-- What is prescribed depends on the set of enemies only. -/
theorem Prescribed.of_mem {enemies enemies' : List UnitInstance} {u : UnitInstance}
    (hmem : ∀ v, v ∈ enemies ↔ v ∈ enemies') (h : Prescribed localeCompare attacker enemies u) :
    Prescribed localeCompare attacker enemies' u := by
  have hcandidate : ∀ v, Candidate attacker enemies v ↔ Candidate attacker enemies' v := by
    intro v
    simp only [Candidate, InFront, InLane, hmem]
  exact ⟨(hcandidate u).1 h.1, fun v hv => h.2 v ((hcandidate v).2 hv)⟩

theorem Uncrowded.shuffled (h : Uncrowded attacker sim) (hshuffled : Shuffled sim sim') :
    Uncrowded attacker sim' := by
  intro hsteered a ha b hb
  have hmem := fun v => (hshuffled.enemies attacker).mem_iff (a := v)
  exact h hsteered a ((hmem a).2 ha) b ((hmem b).2 hb)

/-- The target picked is the one prescribed, in every order of the array. -/
theorem pickTarget_iff (hplaced : Placed (unitsOf sim (enemySideOf attacker.side)))
    (huncrowded : Uncrowded attacker sim) (hshuffled : Shuffled sim sim') {u : UnitInstance} :
    pickTarget localeCompare attacker sim' = some u ↔
      Prescribed localeCompare attacker (aliveEnemies attacker sim) u := by
  have hplaced' : Placed (unitsOf sim' (enemySideOf attacker.side)) := hplaced.of_perm (hshuffled _)
  have hpicked : ∀ v, pickTarget localeCompare attacker sim' = some v →
      Prescribed localeCompare attacker (aliveEnemies attacker sim) v := fun v hv =>
    (pickTarget_prescribed hplaced' (huncrowded.shuffled hshuffled) hv).of_mem
      fun w => ((hshuffled.enemies attacker).mem_iff).symm
  refine ⟨hpicked u, fun hu => ?_⟩
  cases hv : pickTarget localeCompare attacker sim' with
  | none =>
    have hnil := (pickTarget_none hplaced').1 hv
    have hmem := (hshuffled.enemies attacker).mem_iff.1 hu.1.1
    simp [hnil] at hmem
  | some v =>
    have hsub : Placed (aliveEnemies attacker sim) := hplaced.sub List.filter_sublist
    rw [Prescribed.unique hsub hu (hpicked v hv)]

theorem pickTarget_shuffled (hplaced : Placed (unitsOf sim (enemySideOf attacker.side)))
    (huncrowded : Uncrowded attacker sim) (hshuffled : Shuffled sim sim') :
    pickTarget localeCompare attacker sim' = pickTarget localeCompare attacker sim := by
  refine Option.ext fun u => ?_
  rw [pickTarget_iff hplaced huncrowded hshuffled,
    pickTarget_iff hplaced huncrowded fun _ => List.Perm.refl _]

/-- A steered unit goes for the first 2★ tank of the array. -/
theorem pickTarget_steered {tank : UnitInstance} (hsteered : steered attacker = true)
    (htank : (aliveEnemies attacker sim).find? isTank2 = some tank) :
    pickTarget localeCompare attacker sim = some tank := by
  have hranger : (attacker.unitId == .ranger) = false := by
    simpa using steered_iff.1 hsteered
  have hne : ¬ (aliveEnemies attacker sim).isEmpty = true := by
    rw [List.isEmpty_iff]
    exact List.ne_nil_of_mem (List.mem_of_find?_eq_some htank)
  rw [pickTarget_eq]
  simp only [if_neg hne, hranger, Bool.false_and, Bool.false_eq_true, if_false, if_pos hsteered, htank,
    Option.some_or]

/-- The first and the last element that satisfy `p` are the same only when
there is one. -/
theorem find?_reverse_unique {α : Type} {p : α → Bool} {l : List α} (hnodup : l.Nodup)
    (h : l.reverse.find? p = l.find? p) {a b : α} (ha : a ∈ l) (hb : b ∈ l) (hpa : p a = true)
    (hpb : p b = true) : a = b := by
  rw [← List.head?_filter, ← List.head?_filter, List.filter_reverse, List.head?_reverse] at h
  have hnodup := hnodup.filter p
  have ha := List.mem_filter.2 ⟨ha, hpa⟩
  have hb := List.mem_filter.2 ⟨hb, hpb⟩
  generalize l.filter p = l' at h hnodup ha hb
  cases l' with
  | nil => cases ha
  | cons x rest =>
    have hrest : rest = [] := by
      by_contra hne
      rw [List.getLast?_cons, List.head?_cons, Option.some.injEq, List.getLast?_eq_some_getLast hne,
        Option.getD_some] at h
      exact (List.nodup_cons.1 hnodup).1 (h ▸ List.getLast_mem hne)
    subst hrest
    rw [List.mem_singleton.1 ha, List.mem_singleton.1 hb]

theorem aliveEnemies_backwards : aliveEnemies attacker (backwards sim) = (aliveEnemies attacker sim).reverse := by
  unfold aliveEnemies
  rw [← List.filter_reverse]
  cases attacker.side <;> rfl

/-- Two tanks that compete are picked by the order of the array. -/
theorem crowded_targets (hplaced : Placed (unitsOf sim (enemySideOf attacker.side)))
    (hcrowded : ¬ Uncrowded attacker sim) :
    ∃ a b, a ≠ b ∧ a ∈ aliveEnemies attacker sim ∧ b ∈ aliveEnemies attacker sim ∧
      pickTarget localeCompare attacker sim = some a ∧
      pickTarget localeCompare attacker (backwards sim) = some b := by
  unfold Uncrowded at hcrowded
  push Not at hcrowded
  obtain ⟨hsteered, a, ha, b, hb, hta, htb, hne⟩ := hcrowded
  have hnodup : (aliveEnemies attacker sim).Nodup := (List.Nodup.of_map _ hplaced.slots).filter _
  have hfound : ∀ l : List UnitInstance, a ∈ l → ∃ t, l.find? isTank2 = some t := by
    intro l hal
    cases h : l.find? isTank2 with
    | none => exact absurd hta (List.find?_eq_none.1 h a hal)
    | some t => exact ⟨t, rfl⟩
  obtain ⟨t, ht⟩ := hfound _ ha
  obtain ⟨t', ht'⟩ := hfound (aliveEnemies attacker sim).reverse (List.mem_reverse.2 ha)
  refine ⟨t, t', fun heq => hne ?_, List.mem_of_find?_eq_some ht,
    List.mem_reverse.1 (List.mem_of_find?_eq_some ht'), pickTarget_steered hsteered ht,
    pickTarget_steered hsteered (aliveEnemies_backwards ▸ ht')⟩
  exact find?_reverse_unique hnodup (ht'.trans (heq ▸ ht.symm)) ha hb hta htb

/-! ## Allies -/

/-- The order of `lowestHpAlly`. -/
def Weaker (localeCompare : String → String → Int) (u v : UnitInstance) : Prop :=
  u.hp < v.hp ∨ u.hp = v.hp ∧ localeCompare u.instanceId v.instanceId < 0

/-- A fold that keeps the lesser of two finds the least, whatever the order. -/
theorem foldl_least {α : Type} {lt : α → α → Prop} {choose : α → α → α} {S : α → Prop}
    (htrans : ∀ a b c, S a → S b → S c → lt a b → lt b c → lt a c)
    (hchoose : ∀ a b, S a → S b → choose a b = b ∧ (lt b a ∨ a = b) ∨ choose a b = a ∧ lt a b) :
    ∀ (l : List α) (a : α), (∀ v ∈ a :: l, S v) →
      l.foldl choose a ∈ a :: l ∧ ∀ v ∈ a :: l, v ≠ l.foldl choose a → lt (l.foldl choose a) v
  | [], a, _ => ⟨List.mem_cons_self .., fun v hv hne => absurd (List.mem_singleton.1 hv) hne⟩
  | b :: l, a, hS => by
    obtain ⟨ha, hb, hl⟩ : S a ∧ S b ∧ ∀ v ∈ l, S v := by simpa using hS
    rw [List.foldl_cons]
    rcases hchoose a b ha hb with ⟨hpick, hba⟩ | ⟨hpick, hab⟩
    · rw [hpick]
      obtain ⟨hmem, hleast⟩ := foldl_least htrans hchoose l b (List.forall_mem_cons.2 ⟨hb, hl⟩)
      have hSm := (List.forall_mem_cons.2 ⟨hb, hl⟩ : ∀ v ∈ b :: l, S v) _ hmem
      refine ⟨List.mem_cons_of_mem a hmem, fun v hv hne => ?_⟩
      rcases List.mem_cons.1 hv with rfl | hv
      · rcases hba with hba | rfl
        · by_cases hself : b = l.foldl choose b
          · rwa [← hself]
          · exact htrans _ _ _ hSm hb ha (hleast b (List.mem_cons_self ..) hself) hba
        · exact hleast v (List.mem_cons_self ..) hne
      · exact hleast v hv hne
    · rw [hpick]
      obtain ⟨hmem, hleast⟩ := foldl_least htrans hchoose l a (List.forall_mem_cons.2 ⟨ha, hl⟩)
      have hSm := (List.forall_mem_cons.2 ⟨ha, hl⟩ : ∀ v ∈ a :: l, S v) _ hmem
      refine ⟨List.mem_cons.2 ((List.mem_cons.1 hmem).imp_right (List.mem_cons_of_mem b)), fun v hv hne => ?_⟩
      rcases List.mem_cons.1 hv with rfl | hv
      · exact hleast v (List.mem_cons_self ..) hne
      rcases List.mem_cons.1 hv with rfl | hv
      · by_cases hself : a = l.foldl choose a
        · rwa [← hself]
        · exact htrans _ _ _ hSm ha hb (hleast a (List.mem_cons_self ..) hself) hab
      · exact hleast v (List.mem_cons_of_mem a hv) hne

/-- The units that `lowestHpAlly` chooses from. -/
def allyPool (allies : List UnitInstance) (exclude : Option UnitInstance) : List UnitInstance :=
  allies.filter fun u => u.alive && some u.instanceId != exclude.map (·.instanceId)

theorem lowestHpAlly_none {allies : List UnitInstance} {exclude : Option UnitInstance} :
    lowestHpAlly localeCompare allies exclude = none ↔ allyPool allies exclude = [] := by
  unfold lowestHpAlly allyPool
  cases allies.filter fun u => u.alive && some u.instanceId != exclude.map (·.instanceId) <;> simp

variable {ids : List String}

theorem lowestHpAlly_least (hcollation : Collation localeCompare ids) {allies : List UnitInstance}
    {exclude : Option UnitInstance} (hids : ∀ u ∈ allies, u.instanceId ∈ ids)
    (hunique : ∀ u ∈ allies, ∀ v ∈ allies, u.instanceId = v.instanceId → u = v) {u : UnitInstance}
    (h : lowestHpAlly localeCompare allies exclude = some u) :
    u ∈ allyPool allies exclude ∧ ∀ v ∈ allyPool allies exclude, v ≠ u → Weaker localeCompare u v := by
  have hmem : ∀ v ∈ allyPool allies exclude, v ∈ allies := fun v hv => List.mem_of_mem_filter hv
  unfold lowestHpAlly at h
  rw [show (allies.filter fun u => u.alive && some u.instanceId != exclude.map (·.instanceId)) =
    allyPool allies exclude from rfl] at h
  generalize allyPool allies exclude = pool at h hmem
  split at h
  · cases h
  next a rest =>
  cases h
  refine foldl_least (S := fun u => u ∈ allies) (fun a b c ha hb hc hab hbc => ?_) (fun a b ha hb => ?_) rest a hmem
  · unfold Weaker at hab hbc ⊢
    rcases hab with hab | ⟨hab, habid⟩
    · rcases hbc with hbc | ⟨hbc, -⟩ <;> exact .inl (by omega)
    · rcases hbc with hbc | ⟨hbc, hbcid⟩
      · exact .inl (by omega)
      · exact .inr ⟨by omega, hcollation.trans _ (hids a ha) _ (hids b hb) _ (hids c hc) habid hbcid⟩
  · unfold Weaker
    have hswap := hcollation.swap _ (hids a ha) _ (hids b hb)
    have happart := hcollation.apart _ (hids b hb) _ (hids a ha)
    by_cases hhp : b.hp = a.hp
    · rw [if_neg (by simp [hhp])]
      by_cases hid : localeCompare b.instanceId a.instanceId < 0
      · exact .inl ⟨if_pos hid, .inl (.inr ⟨hhp, hid⟩)⟩
      · rw [if_neg hid]
        by_cases hzero : localeCompare b.instanceId a.instanceId = 0
        · have heq := hunique b hb a ha (happart hzero)
          exact .inl ⟨heq.symm, .inr heq.symm⟩
        · exact .inr ⟨rfl, .inr ⟨hhp.symm, hswap.2 (by omega)⟩⟩
    · rw [if_pos (by simpa using hhp)]
      split
      · next hlt => exact .inl ⟨rfl, .inl (.inl hlt)⟩
      · exact .inr ⟨rfl, .inl (by omega)⟩

theorem lowestHpAlly_shuffled (hcollation : Collation localeCompare ids) {allies allies' : List UnitInstance}
    {exclude : Option UnitInstance} (hids : ∀ u ∈ allies, u.instanceId ∈ ids)
    (hunique : ∀ u ∈ allies, ∀ v ∈ allies, u.instanceId = v.instanceId → u = v) (hp : allies.Perm allies') :
    lowestHpAlly localeCompare allies' exclude = lowestHpAlly localeCompare allies exclude := by
  have hpool : (allyPool allies exclude).Perm (allyPool allies' exclude) := hp.filter _
  have hids' : ∀ u ∈ allies', u.instanceId ∈ ids := fun u hu => hids u (hp.mem_iff.2 hu)
  have hunique' : ∀ u ∈ allies', ∀ v ∈ allies', u.instanceId = v.instanceId → u = v :=
    fun u hu v hv => hunique u (hp.mem_iff.2 hu) v (hp.mem_iff.2 hv)
  cases h : lowestHpAlly localeCompare allies exclude with
  | none =>
    have hnil := lowestHpAlly_none.1 h
    rw [hnil] at hpool
    exact lowestHpAlly_none.2 hpool.nil_eq.symm
  | some u =>
    cases h' : lowestHpAlly localeCompare allies' exclude with
    | none =>
      have hnil := lowestHpAlly_none.1 h'
      have hmem := hpool.mem_iff.1 (lowestHpAlly_least hcollation hids hunique h).1
      simp [hnil] at hmem
    | some v =>
      obtain ⟨hu, hleast⟩ := lowestHpAlly_least hcollation hids hunique h
      obtain ⟨hv, hleast'⟩ := lowestHpAlly_least hcollation hids' hunique' h'
      by_contra hne
      have hne : v ≠ u := fun heq => hne (congrArg some heq)
      have huv := hleast v (hpool.mem_iff.2 hv) hne
      have hvu := hleast' u (hpool.mem_iff.1 hu) hne.symm
      have hswap := hcollation.swap _ (hids u (List.mem_of_mem_filter hu)) _
        (hids' v (List.mem_of_mem_filter hv))
      unfold Weaker at huv hvu
      rcases huv with huv | ⟨heq, huv⟩
      · rcases hvu with hvu | ⟨heq, -⟩ <;> omega
      · rcases hvu with hvu | ⟨-, hvu⟩
        · omega
        · have := hswap.1 huv
          omega

/-! ## Actions -/

/-- Boards on which the choices do not depend on the arrays. -/
structure Fit (ids : List String) (sim : BattleSim) : Prop where
  sound : sim.Sound
  seated : Seated sim
  ids : ∀ u ∈ sim.units, u.instanceId ∈ ids

theorem Ages.fit (h : Ages sim sim') (hfit : Fit ids sim) : Fit ids sim' := by
  refine ⟨h.sound hfit.sound, h.seated hfit.seated, fun u hu => ?_⟩
  obtain ⟨f, rfl, hf⟩ := h
  rw [units_each, List.mem_map] at hu
  obtain ⟨v, hv, rfl⟩ := hu
  have hid : (f v).instanceId = v.instanceId := congrArg Actor.instanceId (hf v hv).actor
  rw [hid]
  exact hfit.ids v hv

/-- The same events, and the same change to every unit. -/
structure Alike (sim sim' : BattleSim) (out out' : BattleSim × List EventKind) : Prop where
  boards : ∃ f, out.1 = sim.each f ∧ out'.1 = sim'.each f
  kinds : out'.2 = out.2

theorem Alike.refl (sim sim' : BattleSim) : Alike sim sim' (sim, []) (sim', []) :=
  ⟨⟨id, by simp [BattleSim.each], by simp [BattleSim.each]⟩, rfl⟩

theorem Alike.seq {a a' b b' : BattleSim × List EventKind} (ha : Alike sim sim' a a')
    (hb : Alike a.1 a'.1 b b') : Alike sim sim' (b.1, a.2 ++ b.2) (b'.1, a'.2 ++ b'.2) := by
  obtain ⟨f, hf, hf'⟩ := ha.boards
  obtain ⟨g, hg, hg'⟩ := hb.boards
  refine ⟨⟨g ∘ f, ?_, ?_⟩, by rw [ha.kinds, hb.kinds]⟩
  · rw [hg, hf]
    simp [BattleSim.each]
  · rw [hg', hf']
    simp [BattleSim.each]

theorem Shuffled.each (h : Shuffled sim sim') (f : UnitInstance → UnitInstance) :
    Shuffled (sim.each f) (sim'.each f) := by
  intro side
  rw [BattleSim.each, BattleSim.each, unitsOf_map, unitsOf_map]
  exact (h side).map f

theorem Alike.shuffled {out out' : BattleSim × List EventKind} (h : Alike sim sim' out out')
    (hshuffled : Shuffled sim sim') : Shuffled out.1 out'.1 := by
  obtain ⟨f, hf, hf'⟩ := h.boards
  rw [hf, hf']
  exact hshuffled.each f

theorem Shuffled.units (h : Shuffled sim sim') : sim.units.Perm sim'.units := (h .p1).append (h .p2)

theorem standing_shuffled (h : Shuffled sim sim') (side : Side) : standing sim' side = standing sim side :=
  ((h side).any_eq).symm

theorem find_shuffled (hok : sim.Ok) (h : Shuffled sim sim') (id : String) : sim'.find id = sim.find id := by
  refine (Sorting.find?_eq_of_perm h.units fun a ha b hb hida hidb => hok.unique ha hb ?_).symm
  simp only [beq_iff_eq] at hida hidb
  rw [hida, hidb]

theorem unitBehind_shuffled {ranger primary : UnitInstance} (hseated : Seated sim) (h : Shuffled sim sim') :
    unitBehind ranger primary sim' = unitBehind ranger primary sim := by
  unfold unitBehind
  dsimp only
  split
  · rfl
  · refine (Sorting.find?_eq_of_perm (h _) fun a ha b hb hpa hpb => ?_).symm
    simp only [Bool.and_eq_true, beq_iff_eq] at hpa hpb
    exact (hseated _).unique ha hb (hpa.1.2.trans hpb.1.2.symm) (hpa.2.trans hpb.2.symm)

variable {cycle tick : Nat}

theorem applyDamage_alike (target source : UnitInstance) (dmg : Int) :
    Alike sim sim' (applyDamage target dmg source sim cycle tick)
      (applyDamage target dmg source sim' cycle tick) :=
  ⟨⟨_, rfl, rfl⟩, rfl⟩

theorem applyLifesteal_alike (hok : sim.Ok) (h : Shuffled sim sim') (fighter : String) (dmg : Int) :
    Alike sim sim' (applyLifesteal fighter dmg sim cycle tick)
      (applyLifesteal fighter dmg sim' cycle tick) := by
  unfold applyLifesteal
  rw [find_shuffled hok h]
  cases sim.find fighter with
  | none => exact Alike.refl sim sim'
  | some u => exact ⟨⟨_, rfl, rfl⟩, rfl⟩

theorem applyPierce_alike (hseated : Seated sim) (h : Shuffled sim sim') (ranger primary : UnitInstance)
    (dmg : Int) : Alike sim sim' (applyPierce ranger primary dmg sim cycle tick)
      (applyPierce ranger primary dmg sim' cycle tick) := by
  unfold applyPierce
  rw [unitBehind_shuffled hseated h]
  cases unitBehind ranger primary sim with
  | none => exact Alike.refl sim sim'
  | some behind => exact ⟨⟨_, rfl, rfl⟩, rfl⟩

theorem healIf_alike (target : Option UnitInstance) (healer : UnitInstance) :
    Alike sim sim' (healIf target healer sim cycle tick) (healIf target healer sim' cycle tick) := by
  cases target with
  | none => exact Alike.refl sim sim'
  | some u =>
    simp only [healIf, healOne]
    by_cases h : healAmount u ≤ 0
    · rw [if_pos h, if_pos h]
      exact Alike.refl sim sim'
    · rw [if_neg h, if_neg h]
      exact ⟨⟨_, rfl, rfl⟩, rfl⟩

theorem allies_shuffled (hcollation : Collation localeCompare ids) (hfit : Fit ids sim)
    (h : Shuffled sim sim') (side : Side) (exclude : Option UnitInstance) :
    lowestHpAlly localeCompare (unitsOf sim' side) exclude =
      lowestHpAlly localeCompare (unitsOf sim side) exclude :=
  lowestHpAlly_shuffled hcollation (fun u hu => hfit.ids u (mem_units side hu))
    (fun _ hu _ hv heq => hfit.sound.ok.unique (mem_units side hu) (mem_units side hv) heq) (h side)

theorem applyHealerSupport_alike (hcollation : Collation localeCompare ids) (hfit : Fit ids sim)
    (h : Shuffled sim sim') (healer : UnitInstance) :
    Alike sim sim' (applyHealerSupport localeCompare healer sim cycle tick)
      (applyHealerSupport localeCompare healer sim' cycle tick) := by
  have hfirst : firstAlly localeCompare healer sim' = firstAlly localeCompare healer sim :=
    allies_shuffled hcollation hfit h healer.side none
  have hsecond : secondAlly localeCompare healer sim' = secondAlly localeCompare healer sim := by
    unfold secondAlly
    rw [hfirst, allies_shuffled hcollation hfit h]
  rw [applyHealerSupport_eq, applyHealerSupport_eq, hfirst, hsecond]
  exact (healIf_alike _ healer).seq (healIf_alike _ healer)

theorem clearHealerSlows_alike (healer : UnitInstance) :
    Alike sim sim' (clearHealerSlows healer sim, []) (clearHealerSlows healer sim', []) :=
  ⟨⟨_, rfl, rfl⟩, rfl⟩

theorem applySlow_alike (healer target : UnitInstance) :
    Alike sim sim' (applySlow healer target sim cycle tick) (applySlow healer target sim' cycle tick) :=
  ⟨⟨_, rfl, rfl⟩, rfl⟩

/-- **An action does not depend on the order of the arrays**, unless two
2★ tanks compete for it. -/
theorem unitAct_alike (hcollation : Collation localeCompare ids) (hfit : Fit ids sim)
    (h : Shuffled sim sim') {unit : UnitInstance} (huncrowded : Uncrowded unit sim) :
    Alike sim sim' (unitAct localeCompare unit sim cycle tick)
      (unitAct localeCompare unit sim' cycle tick) := by
  have hpick : pickTarget localeCompare unit sim' = pickTarget localeCompare unit sim :=
    pickTarget_shuffled (hfit.seated _) huncrowded h
  unfold unitAct
  rw [hpick]
  cases ht : pickTarget localeCompare unit sim with
  | none =>
    cases unit.unitId with
    | healer => exact applyHealerSupport_alike hcollation hfit h unit
    | _ => exact Alike.refl sim sim'
  | some target =>
    obtain ⟨hlives, hlivesCleared⟩ := pickTarget_lives hfit.sound.ok ht
    have hhit : ∀ dmg, Alike sim sim' (applyDamage target dmg unit sim cycle tick)
        (applyDamage target dmg unit sim' cycle tick) := applyDamage_alike target unit
    have hafter : ∀ star kind, Fit ids (applyDamage target (atkFor kind star) unit sim cycle tick).1 :=
      fun star kind => (applyDamage_ages hlives (atkFor_nonneg _ _)).fit hfit
    cases unit.unitId with
    | fighter =>
      dsimp only
      split
      · exact (hhit _).seq (applyLifesteal_alike (hafter _ _).sound.ok ((hhit _).shuffled h) _ _)
      · exact hhit _
    | tank => exact hhit _
    | ranger =>
      dsimp only
      split
      · exact (hhit _).seq (applyPierce_alike (hafter _ _).seated ((hhit _).shuffled h) _ _ _)
      · exact hhit _
    | healer =>
      have hcleared : Alike sim sim' (clearHealerSlows unit sim, []) (clearHealerSlows unit sim', []) :=
        clearHealerSlows_alike unit
      have hstruck := hcleared.seq
        (@applyDamage_alike _ _ cycle tick target unit (atkFor .healer unit.star))
      have hages : Ages sim (applyDamage target (atkFor .healer unit.star) unit (clearHealerSlows unit sim)
          cycle tick).1 := clearHealerSlows_ages.trans (applyDamage_ages hlivesCleared (atkFor_nonneg _ _))
      have hsupport := hstruck.seq (@applyHealerSupport_alike localeCompare _ _ ids cycle tick hcollation
        (hages.fit hfit) (hstruck.shuffled h) unit)
      dsimp only
      split
      · exact hsupport.seq (applySlow_alike unit target)
      · exact hsupport

/-! ## Two battles -/

/-- Two battles on boards related by `Q`. -/
structure Reordered (ids : List String) (Q : BattleSim → BattleSim → Prop) (sim sim' : BattleSim) : Prop where
  fit : Fit ids sim
  related : Q sim sim'

/-- Battles on reordered arrays run in step, as long as the reordering is
kept by what is done to every unit alike. -/
theorem reordered_simulates {Q : BattleSim → BattleSim → Prop} (hcollation : Collation localeCompare ids)
    (hQ : ∀ {sim sim'}, Q sim sim' → Shuffled sim sim')
    (heach : ∀ {sim sim'} f, Q sim sim' → Q (sim.each f) (sim'.each f)) (initSide : Side) :
    Simulates localeCompare id id (Reordered ids Q) Uncrowded initSide initSide where
  alive _ := rfl
  find := by
    intro sim sim' h id
    rw [find_shuffled h.fit.sound.ok (hQ h.related), Option.map_id]
    rfl
  acting := by
    intro sim sim' h tick
    have hok := h.fit.sound.ok
    refine congrArg _ (orderForTick_eq_of_perm hok h.fit.seated ?_ (fun u hu => ?_) ?_).symm
    · exact (List.Nodup.of_map _ hok.ids).filter _
    · exact List.mem_of_mem_filter hu
    · exact (hQ h.related).units.filter _
  act := by
    intro sim sim' unit h hfind halive hfine cycle tick
    obtain ⟨-, hages⟩ := unitAct_keeps localeCompare unit sim cycle tick h.fit.sound hfind halive
    have halike := @unitAct_alike localeCompare sim sim' ids cycle tick hcollation h.fit (hQ h.related)
      unit hfine
    obtain ⟨f, hf, hf'⟩ := halike.boards
    refine ⟨⟨hages.fit h.fit, ?_⟩, by rw [List.map_id]; exact halike.kinds⟩
    rw [hf, id, hf']
    exact heach f h.related
  wiped := by
    intro sim sim' h
    rw [standing_shuffled (hQ h.related), standing_shuffled (hQ h.related)]
  verdict := by
    intro sim sim' h _ cycle
    rw [standing_shuffled (hQ h.related), standing_shuffled (hQ h.related)]
    rfl
  cycleEnd _ := rfl
  draw _ := rfl

/-! ## Where battles part -/

/-- The unit a hit's event is about. -/
def EventKind.struck : EventKind → Option Actor
  | .attack _ _ _ target _ _ => some target
  | .death _ _ unit => some unit
  | .revive _ _ unit _ => some unit
  | _ => none

/-- The log of an action with a target begins with what happened to it. -/
theorem unitAct_strikes {unit target : UnitInstance} (ht : pickTarget localeCompare unit sim = some target) :
    ∃ kind rest, (unitAct localeCompare unit sim cycle tick).2 = kind :: rest ∧
      kind.struck = some target.actor := by
  have hit : ∀ dmg more, ∃ kind rest, damageEvents target dmg unit cycle tick ++ more = kind :: rest ∧
      kind.struck = some target.actor := by
    intro dmg more
    unfold damageEvents
    split
    · exact ⟨_, _, rfl, rfl⟩
    · split <;> exact ⟨_, _, rfl, rfl⟩
  have alone : ∀ dmg, ∃ kind rest, damageEvents target dmg unit cycle tick = kind :: rest ∧
      kind.struck = some target.actor := by
    intro dmg
    obtain ⟨kind, rest, h, hstruck⟩ := hit dmg []
    exact ⟨kind, rest, (List.append_nil _).symm.trans h, hstruck⟩
  unfold unitAct
  rw [ht]
  cases unit.unitId with
  | fighter =>
    dsimp only
    split
    · exact hit _ _
    · exact alone _
  | tank => exact alone _
  | ranger =>
    dsimp only
    split
    · exact hit _ _
    · exact alone _
  | healer =>
    dsimp only
    split
    · rw [List.append_assoc]
      exact hit _ _
    · exact hit _ _

/-- Two battles on reversed arrays that log the same never meet two tanks
that compete: the first action that did would strike another one. -/
theorem tracks_uncrowded {ts ts' : List Turn}
    (h : Tracks localeCompare id id (Reordered ids fun sim sim' => sim' = backwards sim) Uncrowded ts ts')
    (hkinds : ts.flatMap (·.kinds) = ts'.flatMap (·.kinds)) : ∀ t ∈ ts, t.Fine Uncrowded := by
  induction h with
  | nil => simp
  | step hturn _ ih =>
    rw [List.flatMap_cons, List.flatMap_cons, hturn.kinds, List.map_id] at hkinds
    exact List.forall_mem_cons.2 ⟨hturn.fine, ih (List.append_cancel_left hkinds)⟩
  | @stop unit sim _ rest rest' cycle tick hR hfind hbad =>
    obtain ⟨hfit, rfl⟩ := hR
    obtain ⟨a, b, hne, ha, hb, hpick, hpick'⟩ :=
      @crowded_targets localeCompare sim unit (hfit.seated _) hbad
    obtain ⟨kind, more, hlog, hstruck⟩ := @unitAct_strikes localeCompare sim cycle tick unit a hpick
    obtain ⟨kind', more', hlog', hstruck'⟩ :=
      @unitAct_strikes localeCompare (backwards sim) cycle tick unit b hpick'
    simp only [List.flatMap_cons, actTurn, id, hlog, hlog', List.cons_append, List.cons.injEq] at hkinds
    rw [hkinds.1, hstruck', Option.some.injEq] at hstruck
    have hid := congrArg Actor.instanceId hstruck
    exact absurd (hfit.sound.ok.unique (mem_units _ (List.mem_of_mem_filter ha))
      (mem_units _ (List.mem_of_mem_filter hb)) hid.symm) hne

end

/-! ## Whole battles -/

theorem Battle.fit (battle : Battle) :
    Fit (battle.boards.units.map (·.instanceId)) (cloneSim battle.toBattleState) := by
  refine ⟨battle.sound, battle.seated, fun u hu => ?_⟩
  have hunits : (cloneSim battle.toBattleState).units = battle.boards.units.map cloneUnit :=
    units_each battle.boards cloneUnit
  rw [hunits, List.mem_map] at hu
  obtain ⟨v, hv, rfl⟩ := hu
  exact List.mem_map_of_mem (f := (·.instanceId)) hv

theorem runBattle_kinds (localeCompare : String → String → Int) (state : BattleState) :
    (runBattle localeCompare state).map (·.kind) = (turns localeCompare state).flatMap (·.kinds) := by
  rw [runBattle_turns, List.map_flatMap]
  exact congrArg (fun f => List.flatMap f _) (funext kinds_log)

/-- **Targets and array order.** In every order of the array of its enemies
an attacker's target is the one prescribed, exactly when it is not steered
or at most one alive enemy is a 2★ tank; and every reordering of a battle's
arrays leaves its log as it is, but for the order of `unitStates`, exactly
when every unit that acts finds that so. -/
theorem runBattle_reordered (localeCompare : String → String → Int) (attacker : UnitInstance)
    (sim : BattleSim) (hplaced : Placed (unitsOf sim (enemySideOf attacker.side))) (battle : Battle)
    (hcollation : Collation localeCompare (battle.boards.units.map (·.instanceId))) :
    ((∀ sim', Shuffled sim sim' → ∀ u, pickTarget localeCompare attacker sim' = some u ↔
        Prescribed localeCompare attacker (aliveEnemies attacker sim) u) ↔ Uncrowded attacker sim) ∧
    ((∀ state : BattleState, Shuffled battle.boards state.boards →
        initSideOf state = initSideOf battle.toBattleState →
        SameLog (runBattle localeCompare battle.toBattleState) (runBattle localeCompare state)) ↔
      ∀ t ∈ turns localeCompare battle.toBattleState, ∀ unit, t.unit = some unit →
        Uncrowded unit t.before) := by
  refine ⟨⟨fun hall => ?_, fun huncrowded sim' hshuffled u => pickTarget_iff hplaced huncrowded hshuffled⟩,
    fun hall => ?_, fun hfine state hshuffled hinit => ?_⟩
  · by_contra hcrowded
    obtain ⟨a, b, hne, -, -, ha, hb⟩ := @crowded_targets localeCompare sim attacker hplaced hcrowded
    have hsub : Placed (aliveEnemies attacker sim) := hplaced.sub List.filter_sublist
    exact hne (Prescribed.unique hsub ((hall sim (fun _ => .refl _) a).1 ha)
      ((hall _ (backwards_shuffled sim) b).1 hb))
  · -- One reordering shows every competition: both arrays reversed.
    have hback := hall
      { battle.toBattleState with p1Units := battle.p1Units.reverse, p2Units := battle.p2Units.reverse }
      (backwards_shuffled battle.boards) rfl
    have hstart : Reordered (battle.boards.units.map (·.instanceId)) (fun sim sim' => sim' = backwards sim)
        (cloneSim battle.toBattleState) (cloneSim { battle.toBattleState with
          p1Units := battle.p1Units.reverse, p2Units := battle.p2Units.reverse }) := by
      refine ⟨battle.fit, ?_⟩
      simp only [cloneSim, backwards, List.map_reverse]
    have heach : ∀ {sim sim' : BattleSim} f, sim' = backwards sim → sim'.each f = backwards (sim.each f) := by
      rintro sim _ f rfl
      simp only [backwards, BattleSim.each, List.map_reverse]
    have hsimulates : Simulates localeCompare id id
        (Reordered (battle.boards.units.map (·.instanceId)) fun sim sim' => sim' = backwards sim) Uncrowded
        (initSideOf battle.toBattleState) (initSideOf battle.toBattleState) :=
      reordered_simulates hcollation (by rintro sim _ rfl; exact backwards_shuffled sim) heach _
    refine tracks_uncrowded (cycleTurns_tracks hsimulates (List.range' 1 MAX_CYCLES) hstart) ?_
    have hkinds : ∀ {log log' : List CombatEvent}, SameLog log log' →
        log.map (·.kind) = log'.map (·.kind) := by
      intro log log' h
      induction h with
      | nil => rfl
      | cons h _ ih => rw [List.map_cons, List.map_cons, ih, h.1]
    have hsame := hkinds hback
    rw [runBattle_kinds, runBattle_kinds] at hsame
    exact hsame
  · have hstart : Reordered (battle.boards.units.map (·.instanceId)) Shuffled
        (cloneSim battle.toBattleState) (cloneSim state) :=
      ⟨battle.fit, hshuffled.each cloneUnit⟩
    have hsimulates : Simulates localeCompare id id
        (Reordered (battle.boards.units.map (·.instanceId)) Shuffled) Uncrowded
        (initSideOf battle.toBattleState) (initSideOf state) := by
      rw [hinit]
      exact reordered_simulates hcollation (fun h => h) (fun f h => h.each f) _
    have hlog := matches_log
      ((cycleTurns_tracks hsimulates (List.range' 1 MAX_CYCLES) hstart).all hfine)
    rw [runBattle_turns, runBattle_turns]
    refine hlog.imp fun e e' h => ?_
    obtain ⟨hkind, sim, sim', hR, hboard, hboard'⟩ := h
    rw [hboard, hboard']
    exact ⟨hkind, hR.related.units.map snapshotUnit⟩

/-- A fighter against two 2★ tanks, the one on the lower col later in the
array. -/
def twoTanks : Battle where
  p1Units := [{ instanceId := "f", unitId := .fighter, star := 0, hp := 100, maxHp := 100,
                slot := 0, side := .p1, alive := true }]
  p2Units := [{ instanceId := "t1", unitId := .tank, star := 2, hp := 150, maxHp := 150,
                slot := 1, side := .p2, alive := true },
              { instanceId := "t0", unitId := .tank, star := 2, hp := 150, maxHp := 150,
                slot := 3, side := .p2, alive := true }]
  roundSeed := 7
  matchSeed := "m"
  side := by intro side; cases side <;> simp [unitsOf]
  slots := by intro side; cases side <;> simp [unitsOf]
  slot_le := by intro side; cases side <;> simp [unitsOf]
  ids := by simp
  hp := by intro side; cases side <;> simp [unitsOf]
  alive := by intro side; cases side <;> simp [unitsOf]
  unslowed := by intro side; cases side <;> simp [unitsOf]
  unrevived := by intro side; cases side <;> simp [unitsOf]

/-- The fighter goes for the tank on col 1, although one stands on col 0. -/
theorem pickTarget_not_prescribed : ∃ attacker ∈ twoTanks.p1Units, ∃ target ∈ twoTanks.p2Units,
    pickTarget (fun _ _ => 0) attacker twoTanks.boards = some target ∧
      ¬ Prescribed (fun _ _ => 0) attacker (aliveEnemies attacker twoTanks.boards) target := by
  refine ⟨_, List.mem_cons_self .., _, List.mem_cons_self .., by decide, fun h => ?_⟩
  refine absurd (h.2
    { instanceId := "t0", unitId := .tank, star := 2, hp := 150, maxHp := 150, slot := 3, side := .p2,
      alive := true } ⟨by decide, ?_⟩ (by decide)) ?_
  · rw [if_neg (by decide), if_pos (by decide)]
    rfl
  · simp [ComesFirst, UnitInstance.col]

/-- Code units in order. -/
theorem collation_codes : Collation (fun a b => if a < b then -1 else if a = b then 0 else 1) ["f", "h"] where
  apart := by decide
  swap := by decide
  trans := by decide

theorem runBattle_reordered_duel :
    (∀ state : BattleState, Shuffled duel.boards state.boards →
      initSideOf state = initSideOf duel.toBattleState →
      SameLog (runBattle (fun a b => if a < b then -1 else if a = b then 0 else 1) duel.toBattleState)
        (runBattle (fun a b => if a < b then -1 else if a = b then 0 else 1) state)) ↔
    ∀ t ∈ turns (fun a b => if a < b then -1 else if a = b then 0 else 1) duel.toBattleState,
      ∀ unit, t.unit = some unit → Uncrowded unit t.before :=
  (runBattle_reordered _
    { instanceId := "f", unitId := .fighter, star := 1, hp := 100, maxHp := 100, slot := 0, side := .p1,
      alive := true }
    duel.boards ⟨by decide, by decide⟩ duel collation_codes).2

end AutoChess.Game
