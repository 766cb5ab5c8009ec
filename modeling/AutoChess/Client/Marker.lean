/-
The slow marker. By the combat rules a slow lasts until the healer attacks
again. The player keeps one end for each unit, which each slow of each healer
overwrites, healer by healer, and looks at the first slow of the unit only. So
it shows the marker from the unit's first slow to one end, that of the last
slow of the healer that was the last to slow anyone for the first time.

That is the rule when no healer that slowed the unit attacks again, or when
every one does, the marker never goes out between two slows, and the end that
is kept is the last one. It is not when a healer slows the unit twice on its
own: between its attack and its new slow the rule has a gap.
-/
import AutoChess.Client.BattleVisual
import AutoChess.Lib.Groups
import AutoChess.Game.Grammar
import AutoChess.Runtime.Playback

namespace AutoChess.Client.Battle

open AutoChess.Game (Side)

/-! ## The rule -/

/-- What the rule reads of a log for one unit, event by event. -/
structure Timeline where
  /-- The healer that slows the unit. -/
  slow : Nat → Option String
  /-- The healer that slows some unit. -/
  cast : Nat → Option String
  attack : Nat → Option String

namespace Timeline

variable {t : Timeline}

/-- A healer has slowed the unit and not attacked since. -/
def Slowed (t : Timeline) (p : Nat) : Prop :=
  ∃ i, i ≤ p ∧ ∃ h, t.slow i = some h ∧ ∀ j, i < j → j ≤ p → t.attack j ≠ some h

/-- The healer of event `i` attacks again with event `j`. -/
def EndsAt (t : Timeline) (i : Nat) (h : String) (j : Nat) : Prop :=
  i < j ∧ t.attack j = some h ∧ ∀ k, i < k → k < j → t.attack k ≠ some h

/-- The last slow on the unit of the healer that began to slow after every
other one that slows it. -/
structure LastKept (t : Timeline) (i : Nat) (h : String) : Prop where
  slow : t.slow i = some h
  last : ∀ i', i < i' → t.slow i' ≠ some h
  newest : ∀ i' h', t.slow i' = some h' → h' ≠ h → ∃ f, t.cast f = some h' ∧ ∀ f', t.cast f' = some h → f < f'

/-- The slows on the unit all end, leave no gap, and end with the one that is
kept. -/
structure OneStretch (t : Timeline) : Prop where
  ended : ∀ i h, t.slow i = some h → ∃ j, t.EndsAt i h j
  renewed : ∀ i h i' h', t.slow i = some h → t.slow i' = some h' → i < i' → t.Slowed (i' - 1)
  kept : ∀ i h j, t.LastKept i h → t.EndsAt i h j → ∀ i' h' j', t.slow i' = some h' → t.EndsAt i' h' j' → j' ≤ j

/-- When one stretch from the first slow to one end is the rule. -/
def Plain (t : Timeline) : Prop := (∀ i h j, t.slow i = some h → ¬t.EndsAt i h j) ∨ t.OneStretch

theorem slowed_iff {p : Nat} : t.Slowed p ↔ ∃ i h, i ≤ p ∧ t.slow i = some h ∧ ∀ j, t.EndsAt i h j → p < j := by
  constructor
  · rintro ⟨i, hi, h, hslow, hlasts⟩
    refine ⟨i, h, hi, hslow, fun j hj => ?_⟩
    by_contra hle
    exact hlasts j hj.1 (Nat.not_lt.1 hle) hj.2.1
  · rintro ⟨i, h, hi, hslow, hlasts⟩
    refine ⟨i, hi, h, hslow, fun j hij hj hattack => ?_⟩
    -- The first attack after the slow is not after this one.
    have hex : ∃ k, i < k ∧ t.attack k = some h := ⟨j, hij, hattack⟩
    have hends : t.EndsAt i h (Nat.find hex) := by
      refine ⟨(Nat.find_spec hex).1, (Nat.find_spec hex).2, fun k hik hk hak => ?_⟩
      exact Nat.find_min hex hk ⟨hik, hak⟩
    have := hlasts _ hends
    have := Nat.find_min' hex ⟨hij, hattack⟩
    omega

/-! ## One end -/

/-- The end the player keeps: of some slow, if any ends, and when all end of
the one that is kept. -/
structure Expires (t : Timeline) (expiry : Option Nat) : Prop where
  never : expiry = none → ∀ i h j, t.slow i = some h → ¬t.EndsAt i h j
  ends : ∀ j, expiry = some j → ∃ i h, t.slow i = some h ∧ t.EndsAt i h j
  kept : (∀ i h, t.slow i = some h → ∃ j, t.EndsAt i h j) → ∀ i h, t.slow i = some h →
    ∃ i h j, t.LastKept i h ∧ t.EndsAt i h j ∧ expiry = some j

/-- From the first slow to the end. -/
def Shown (t : Timeline) (expiry : Option Nat) (p : Nat) : Prop :=
  (∃ i h, i ≤ p ∧ t.slow i = some h) ∧ ∀ j, expiry = some j → p < j

theorem LastKept.unique {i i' : Nat} {h h' : String} (hi : t.LastKept i h) (hi' : t.LastKept i' h') :
    i = i' ∧ h = h' := by
  have heq : h = h' := by
    by_contra hne
    obtain ⟨f, hf, hfirst⟩ := hi.newest i' h' hi'.slow (Ne.symm hne)
    obtain ⟨f', hf', hfirst'⟩ := hi'.newest i h hi.slow hne
    exact Nat.lt_asymm (hfirst f' hf') (hfirst' f hf)
  subst heq
  rcases Nat.lt_trichotomy i i' with hlt | rfl | hlt
  · exact absurd hi'.slow (hi.last i' hlt)
  · exact ⟨rfl, rfl⟩
  · exact absurd hi.slow (hi'.last i hlt)

theorem EndsAt.unique {i j j' : Nat} {h : String} (hj : t.EndsAt i h j) (hj' : t.EndsAt i h j') : j = j' := by
  rcases Nat.lt_trichotomy j j' with hlt | rfl | hlt
  · exact absurd hj.2.1 (hj'.2.2 j hj.1 hlt)
  · rfl
  · exact absurd hj'.2.1 (hj.2.2 j' hj'.1 hlt)

variable {expiry : Option Nat}

/-- In one stretch every event up to the end is under a slow. -/
theorem OneStretch.covers (h : t.OneStretch) {p e : Nat} (hfirst : ∃ i h, i ≤ p ∧ t.slow i = some h)
    (hend : ∃ i h, t.slow i = some h ∧ t.EndsAt i h e) (hp : p < e) : t.Slowed p := by
  classical
  by_contra hnot
  obtain ⟨i, hi, hslow, hends⟩ := hend
  have hlater : ∃ i, p < i ∧ ∃ h, t.slow i = some h := by
    refine ⟨i, ?_, hi, hslow⟩
    by_contra hle
    refine hnot (slowed_iff.2 ⟨i, hi, Nat.not_lt.1 hle, hslow, fun j hj => ?_⟩)
    rwa [hj.unique hends]
  -- The first slow after `p` renews one that was there at `p`.
  obtain ⟨hafter, h', hslow'⟩ := Nat.find_spec hlater
  obtain ⟨i₀, h₀, hi₀, hslow₀⟩ := hfirst
  have hrenewed := h.renewed i₀ h₀ _ h' hslow₀ hslow' (Nat.lt_of_le_of_lt hi₀ hafter)
  obtain ⟨k, hk, hk', hslowk, hlasts⟩ := slowed_iff.1 hrenewed
  have hkp : k ≤ p := by
    by_contra hlt
    have := Nat.find_min' hlater ⟨Nat.not_le.1 hlt, hk, hslowk⟩
    omega
  refine hnot (slowed_iff.2 ⟨k, hk, hkp, hslowk, fun j hj => ?_⟩)
  have := hlasts j hj
  omega

/-- **One end is the rule exactly on plain timelines.** -/
theorem shown_iff_slowed (hexpires : t.Expires expiry) :
    (∀ p, t.Shown expiry p ↔ t.Slowed p) ↔ t.Plain := by
  constructor
  · intro hrule
    cases hexpiry : expiry with
    | none => exact .inl (hexpires.never hexpiry)
    | some e =>
      right
      have hlasts : ∀ p, t.Slowed p → p < e := fun p hp => ((hrule p).2 hp).2 e hexpiry
      have hended : ∀ i h, t.slow i = some h → ∃ j, t.EndsAt i h j := by
        intro i h hslow
        by_contra hnever
        have hslowed : t.Slowed (max i e) := slowed_iff.2
          ⟨i, h, Nat.le_max_left i e, hslow, fun j hj => absurd ⟨j, hj⟩ hnever⟩
        have := hlasts _ hslowed
        omega
      refine ⟨hended, fun i h i' h' hslow hslow' hlt => ?_, fun i h j hkept hj i' h' j' hslow' hj' => ?_⟩
      · have hslowed : t.Slowed i' := slowed_iff.2 ⟨i', h', Nat.le_refl i', hslow', fun j hj => hj.1⟩
        have := hlasts i' hslowed
        refine (hrule (i' - 1)).1 ⟨⟨i, h, by omega, hslow⟩, fun j hj => ?_⟩
        cases hexpiry.symm.trans hj
        omega
      · obtain ⟨i₁, h₁, j₁, hkept₁, hj₁, hsome⟩ := hexpires.kept hended i h hkept.slow
        obtain ⟨rfl, rfl⟩ := hkept.unique hkept₁
        cases hexpiry.symm.trans hsome
        have heq : j = e := hj.unique hj₁
        have hbefore := hj'.1
        have hslowed : t.Slowed (j' - 1) := slowed_iff.2
          ⟨i', h', by omega, hslow', fun k hk => by rw [hk.unique hj']; omega⟩
        have := hlasts _ hslowed
        omega
  · rintro (hnever | hone) p
    · have hnone : expiry = none := by
        cases hexpiry : expiry with
        | none => rfl
        | some e =>
          obtain ⟨i, h, hslow, hends⟩ := hexpires.ends e hexpiry
          exact absurd hends (hnever i h e hslow)
      rw [slowed_iff]
      constructor
      · rintro ⟨⟨i, h, hi, hslow⟩, -⟩
        exact ⟨i, h, hi, hslow, fun j hj => absurd hj (hnever i h j hslow)⟩
      · rintro ⟨i, h, hi, hslow, -⟩
        refine ⟨⟨i, h, hi, hslow⟩, fun j hj => ?_⟩
        rw [hnone] at hj
        cases hj
    · constructor
      · rintro ⟨hfirst, hbefore⟩
        obtain ⟨i, h, -, hslow⟩ := id hfirst
        obtain ⟨i₁, h₁, e, hkept, hends, hexpiry⟩ := hexpires.kept hone.ended i h hslow
        exact hone.covers hfirst ⟨i₁, h₁, hkept.slow, hends⟩ (hbefore e hexpiry)
      · intro hslowed
        obtain ⟨i, h, hi, hslow, hlasts⟩ := slowed_iff.1 hslowed
        refine ⟨⟨i, h, hi, hslow⟩, fun e hexpiry => ?_⟩
        obtain ⟨i₁, h₁, e₁, hkept, hends, hsome⟩ := hexpires.kept hone.ended i h hslow
        cases hexpiry.symm.trans hsome
        obtain ⟨j, hj⟩ := hone.ended i h hslow
        exact Nat.lt_of_lt_of_le (hlasts j hj) (hone.kept i₁ h₁ e hkept hends i h j hslow hj)

end Timeline

/-! ## The end that is kept -/

/-- The healer whose slow on the unit an event is. -/
def slowOn (key : UnitKey) (e : CombatEvent) : Option String :=
  match e.kind with
  | .slow _ _ target healer => if target.key = some key then some healer.instanceId else none
  | _ => none

/-- The healer whose slow on some unit an event is. -/
def castBy (e : CombatEvent) : Option String :=
  match e.kind with
  | .slow _ _ target healer => target.key.map fun _ => healer.instanceId
  | _ => none

def attackBy (e : CombatEvent) : Option String :=
  match e.kind with
  | .attack _ _ attacker _ _ _ => some attacker.instanceId
  | _ => none

def timeline (events : List CombatEvent) (key : UnitKey) : Timeline where
  slow i := events[i]?.bind (slowOn key)
  cast i := events[i]?.bind castBy
  attack i := events[i]?.bind attackBy

section
variable {events : List CombatEvent} {key : UnitKey} {h : String} {i : Nat}

theorem isAttackOf_iff {e : CombatEvent} : isAttackOf h e = true ↔ attackBy e = some h := by
  obtain ⟨kind, states⟩ := e
  cases kind <;> simp [isAttackOf, attackBy]

theorem drop_zipIdx_get (k : Nat) : (events.zipIdx.drop (i + 1))[k]? = events[i + 1 + k]?.map (·, i + 1 + k) := by
  rw [List.getElem?_drop, List.getElem?_zipIdx, Nat.zero_add]

/-- What the scan for the next attack finds. -/
theorem nextAttack_some {j : Nat} (hnext : nextAttack events h i = some j) : (timeline events key).EndsAt i h j := by
  obtain ⟨l₁, ⟨e, k⟩, l₂, hl, hfound, hbefore⟩ := List.findSome?_eq_some_iff.1 hnext
  have hat : (events.zipIdx.drop (i + 1))[l₁.length]? = some (e, k) := by rw [hl]; simp
  rw [drop_zipIdx_get, Option.map_eq_some_iff] at hat
  obtain ⟨e', he, heq⟩ := hat
  cases heq
  dsimp only at hfound
  split at hfound
  · next hattack =>
    cases hfound
    refine ⟨by omega, ?_, fun m him hm hattacks => ?_⟩
    · exact (congrArg (Option.bind · attackBy) he).trans (isAttackOf_iff.1 hattack)
    · obtain ⟨e', he', hattack'⟩ := Option.bind_eq_some_iff.1 hattacks
      have hget : (events.zipIdx.drop (i + 1))[m - (i + 1)]? = some (e', m) := by
        rw [drop_zipIdx_get, show i + 1 + (m - (i + 1)) = m by omega, he']
        rfl
      have hin : (e', m) ∈ l₁ := by
        rw [hl, List.getElem?_append_left (by omega)] at hget
        exact List.mem_of_getElem? hget
      have hnone := hbefore _ hin
      dsimp only at hnone
      rw [if_pos (isAttackOf_iff.2 hattack')] at hnone
      cases hnone
  · cases hfound

theorem nextAttack_none (hnext : nextAttack events h i = none) (j : Nat) : ¬(timeline events key).EndsAt i h j := by
  rintro ⟨hij, hattack, -⟩
  obtain ⟨e, he, hattack⟩ := Option.bind_eq_some_iff.1 hattack
  have hget : (events.zipIdx.drop (i + 1))[j - (i + 1)]? = some (e, j) := by
    rw [drop_zipIdx_get, show i + 1 + (j - (i + 1)) = j by omega, he]
    rfl
  have hnone := List.findSome?_eq_none_iff.1 hnext _ (List.mem_of_getElem? hget)
  dsimp only at hnone
  rw [if_pos (isAttackOf_iff.2 hattack)] at hnone
  cases hnone

/-- The entry an event adds to `slowStart`. -/
def slowEntry : CombatEvent × Nat → Option (String × SlowEntry)
  | (⟨.slow _ _ target healer, _⟩, i) => target.key.map fun key => (healer.instanceId, ⟨key, i⟩)
  | _ => none

def slowEntries (events : List CombatEvent) : List (String × SlowEntry) := events.zipIdx.filterMap slowEntry

theorem slowStart_eq (events : List CombatEvent) :
    slowStart events = (slowEntries events).foldl (fun m p => Assoc.push m p.1 p.2) [] := by
  unfold slowStart slowEntries
  rw [List.foldl_filterMap]
  congr 1
  funext m p
  obtain ⟨⟨kind, states⟩, i⟩ := p
  cases kind with
  | slow cycle tick target healer =>
    simp only [addSlow, slowEntry]
    cases target.key <;> rfl
  | _ => rfl

theorem slowEntry_iff {e : CombatEvent} {s : SlowEntry} :
    slowEntry (e, i) = some (h, s) ↔ s.index = i ∧ slowOn s.key e = some h := by
  obtain ⟨kind, states⟩ := e
  obtain ⟨k, n⟩ := s
  cases kind with
  | slow cycle tick target healer =>
    simp only [slowEntry, slowOn]
    cases target.key with
    | none => simp
    | some key' =>
      simp only [Option.map_some, Option.some.injEq, Prod.mk.injEq, SlowEntry.mk.injEq]
      split
      · next heq => simp [heq, and_comm, eq_comm]
      · next hne => simp [hne]
  | _ => simp [slowEntry, slowOn]

theorem mem_slowEntries {s : SlowEntry} : (h, s) ∈ slowEntries events ↔ (timeline events s.key).slow s.index = some h := by
  unfold slowEntries timeline
  rw [List.mem_filterMap]
  dsimp only
  rw [Option.bind_eq_some_iff]
  constructor
  · rintro ⟨⟨e, i⟩, hmem, hentry⟩
    obtain ⟨rfl, hslow⟩ := slowEntry_iff.1 hentry
    exact ⟨e, List.mk_mem_zipIdx_iff_getElem?.1 hmem, hslow⟩
  · rintro ⟨e, he, hslow⟩
    exact ⟨(e, s.index), List.mk_mem_zipIdx_iff_getElem?.2 he, slowEntry_iff.2 ⟨rfl, hslow⟩⟩

theorem cast_iff : (timeline events key).cast i = some h ↔ ∃ s, (h, s) ∈ slowEntries events ∧ s.index = i := by
  have hcast : ∀ e : CombatEvent, castBy e = some h ↔ ∃ k, slowOn k e = some h := by
    rintro ⟨kind, states⟩
    cases kind with
    | slow cycle tick target healer =>
      unfold castBy slowOn
      cases target.key <;> simp
    | _ => simp [castBy, slowOn]
  change events[i]?.bind castBy = some h ↔ _
  rw [Option.bind_eq_some_iff]
  constructor
  · rintro ⟨e, he, hby⟩
    obtain ⟨k, hk⟩ := (hcast e).1 hby
    exact ⟨⟨k, i⟩, mem_slowEntries.2 (Option.bind_eq_some_iff.2 ⟨e, he, hk⟩), rfl⟩
  · rintro ⟨s, hs, rfl⟩
    obtain ⟨e, he, hk⟩ := Option.bind_eq_some_iff.1 (mem_slowEntries.1 hs)
    exact ⟨e, he, (hcast e).2 ⟨_, hk⟩⟩

theorem slowEntries_sorted (events : List CombatEvent) :
    (slowEntries events).Pairwise fun p q => p.2.index < q.2.index := by
  have hindices : events.zipIdx.Pairwise fun p q => p.2 < q.2 := by
    rw [← List.pairwise_map (f := Prod.snd) (R := (· < ·)), List.zipIdx_map_snd]
    exact List.pairwise_lt_range'
  unfold slowEntries
  rw [List.pairwise_filterMap]
  refine hindices.imp fun {p q} hlt p' hp q' hq => ?_
  rw [(slowEntry_iff.1 hp).1, (slowEntry_iff.1 hq).1]
  exact hlt

theorem slowStart_groups (events : List CombatEvent) :
    Assoc.Groups (fun s s' : SlowEntry => s.index < s'.index) (slowEntries events) (slowStart events) := by
  rw [slowStart_eq]
  exact Assoc.Groups.nil.foldl_push (slowEntries_sorted events)

/-- The slows as the loop over the healers meets them. -/
def slowsInTurn (events : List CombatEvent) : List (String × SlowEntry) :=
  (slowStart events).flatMap fun g => g.2.map (g.1, ·)

/-- Where the next attack after a slow on the unit is. -/
def endOf (events : List CombatEvent) (key : UnitKey) (p : String × SlowEntry) : Option Nat :=
  if p.2.key = key then nextAttack events p.1 p.2.index else none

/-- **The end that is kept** is that of the last slow with one. -/
theorem debuffExpiry_get (events : List CombatEvent) (key : UnitKey) :
    (debuffExpiry events).get key = (slowsInTurn events).reverse.findSome? (endOf events key) := by
  have hflat : debuffExpiry events = (slowsInTurn events).foldl
      (fun m p => Assoc.setSome m ((nextAttack events p.1 p.2.index).map (p.2.key, ·))) [] := by
    unfold debuffExpiry slowsInTurn
    rw [List.foldl_flatMap]
    congr 1
    funext m g
    rw [List.foldl_map]
    congr 1
    funext m s
    unfold expire
    cases nextAttack events g.1 s.index <;> rfl
  rw [hflat, Assoc.get_foldl_setSome]
  have hnone : Assoc.get ([] : Assoc UnitKey Nat) key = none := rfl
  rw [hnone, Option.or_none]
  congr 1
  funext p
  unfold endOf
  cases nextAttack events p.1 p.2.index <;> simp

theorem endOf_some {p : String × SlowEntry} (hp : p ∈ slowsInTurn events) {j : Nat} (hend : endOf events key p = some j) :
    (timeline events key).slow p.2.index = some p.1 ∧ (timeline events key).EndsAt p.2.index p.1 j := by
  unfold endOf at hend
  split at hend
  · next hkey =>
    subst hkey
    exact ⟨mem_slowEntries.1 (((slowStart_groups events).mem_flat p).1 hp), nextAttack_some hend⟩
  · cases hend

theorem endOf_of_slow (hslow : (timeline events key).slow i = some h) : (h, ⟨key, i⟩) ∈ slowsInTurn events ∧
    endOf events key (h, ⟨key, i⟩) = nextAttack events h i :=
  ⟨((slowStart_groups events).mem_flat _).2 (mem_slowEntries.2 hslow), if_pos rfl⟩

/-- The player's table of ends, for one unit. -/
theorem debuffExpiry_expires (events : List CombatEvent) (key : UnitKey) :
    (timeline events key).Expires ((debuffExpiry events).get key) := by
  rw [debuffExpiry_get]
  refine ⟨fun hnone i h j hslow => ?_, fun j hsome => ?_, fun hended i h hslow => ?_⟩
  · obtain ⟨hmem, hend⟩ := endOf_of_slow hslow
    exact nextAttack_none (hend.symm.trans (List.findSome?_eq_none_iff.1 hnone _ (List.mem_reverse.2 hmem))) j
  · obtain ⟨p, hp, hend⟩ := List.exists_of_findSome?_eq_some hsome
    exact ⟨p.2.index, p.1, endOf_some (List.mem_reverse.1 hp) hend⟩
  · obtain ⟨hmem, hend⟩ := endOf_of_slow hslow
    have hfinds : ∀ i h, (timeline events key).slow i = some h → (nextAttack events h i).isSome = true := by
      intro i h hslow
      obtain ⟨j, hj⟩ := hended i h hslow
      cases hnext : nextAttack events h i with
      | none => exact absurd hj (nextAttack_none hnext j)
      | some _ => rfl
    obtain ⟨j, hj⟩ := Option.isSome_iff_exists.1
      (List.findSome?_isSome_iff.2 ⟨_, List.mem_reverse.2 hmem, (congrArg Option.isSome hend).trans (hfinds i h hslow)⟩)
    obtain ⟨later, p, earlier, hsplit, hp, hlater⟩ := List.findSome?_eq_some_iff.1 hj
    have hin : p ∈ slowsInTurn events := by
      rw [← List.mem_reverse, hsplit]
      simp
    obtain ⟨hslowp, hends⟩ := endOf_some hin hp
    -- Every other slow on the unit comes earlier in the loop.
    have hturn : ∀ i' h', (timeline events key).slow i' = some h' → (h', i') ≠ (p.1, p.2.index) →
        h' = p.1 ∧ i' < p.2.index ∨
          ∃ s, (h', s) ∈ slowEntries events ∧ ∀ s', (p.1, s') ∈ slowEntries events → s.index < s'.index := by
      intro i' h' hslow' hne
      obtain ⟨hmem', hend'⟩ := endOf_of_slow hslow'
      have horder := (slowStart_groups events).flat
      change (slowsInTurn events).Pairwise _ at horder
      rw [← List.reverse_reverse (slowsInTurn events), hsplit] at horder hmem'
      rw [List.mem_reverse] at hmem'
      rcases List.mem_append.1 hmem' with hin' | hin'
      · have hnone := hlater _ hin'
        rw [hend'] at hnone
        have := hfinds i' h' hslow'
        rw [hnone] at this
        cases this
      · rcases List.mem_cons.1 hin' with heq | hin'
        · rw [← heq] at hne
          exact absurd rfl hne
        · rw [List.pairwise_reverse, List.pairwise_append, List.pairwise_cons] at horder
          exact horder.2.1.1 _ hin'
    refine ⟨p.2.index, p.1, j, ⟨hslowp, fun i' hlt hslow' => ?_, fun i' h' hslow' hne => ?_⟩, hends, hj⟩
    · rcases hturn i' p.1 hslow' (by simp; omega) with ⟨-, hlt'⟩ | ⟨s, hs, hfirst⟩
      · omega
      · exact Nat.lt_irrefl _ (hfirst s hs)
    · rcases hturn i' h' hslow' (fun heq => hne (congrArg Prod.fst heq)) with ⟨heq, -⟩ | ⟨s, hs, hfirst⟩
      · exact absurd heq hne
      · refine ⟨s.index, cast_iff.2 ⟨s, hs, rfl⟩, fun f' hf' => ?_⟩
        obtain ⟨s', hs', rfl⟩ := cast_iff.1 hf'
        exact hfirst s' hs'

end

/-! ## What is drawn -/

section
variable {events : List CombatEvent} {key : UnitKey} {p : Nat}

theorem isSlowOn_iff {e : CombatEvent} : isSlowOn key e = true ↔ ∃ h, slowOn key e = some h := by
  obtain ⟨kind, states⟩ := e
  obtain ⟨side, slot⟩ := key
  cases kind with
  | slow cycle tick target healer =>
    obtain ⟨id, side', slot', unitId, star⟩ := target
    cases side' <;> cases slot' <;> simp [isSlowOn, slowOn, Named.key]
  | _ => simp [isSlowOn, slowOn]

/-- Up to the playhead, or to the last event. -/
theorem slow_before {i : Nat} {h : String} (hslow : (timeline events key).slow i = some h) :
    i ≤ min p (events.length - 1) ↔ i ≤ p := by
  obtain ⟨e, he, -⟩ := Option.bind_eq_some_iff.1 hslow
  have := (List.getElem?_eq_some_iff.1 he).1
  omega

/-- **The debuff** is shown from the first slow to the end that is kept. -/
theorem debuffOf_iff : debuffOf events (min p (events.length - 1)) key = some slowDebuff ↔
    (timeline events key).Shown ((debuffExpiry events).get key) p := by
  have hfirst : ∀ i, i < min p (events.length - 1) + 1 → ∀ e, events[i]? = some e → isSlowOn key e = true →
      ∃ i h, i ≤ p ∧ (timeline events key).slow i = some h := by
    intro i hi e he hslow
    obtain ⟨h, hh⟩ := isSlowOn_iff.1 hslow
    have hat : (timeline events key).slow i = some h := Option.bind_eq_some_iff.2 ⟨e, he, hh⟩
    exact ⟨i, h, (slow_before hat).1 (by omega), hat⟩
  have hscan : (events.take (min p (events.length - 1) + 1)).any (isSlowOn key) = true ↔
      ∃ i h, i ≤ p ∧ (timeline events key).slow i = some h := by
    rw [List.any_eq_true]
    constructor
    · rintro ⟨e, he, hslow⟩
      obtain ⟨i, hi⟩ := List.mem_iff_getElem?.1 he
      rw [List.getElem?_take] at hi
      split at hi
      · next hlt => exact hfirst i hlt e hi hslow
      · cases hi
    · rintro ⟨i, h, hi, hslow⟩
      have hle := (slow_before (p := p) hslow).2 hi
      obtain ⟨e, he, hh⟩ := Option.bind_eq_some_iff.1 hslow
      refine ⟨e, List.mem_iff_getElem?.2 ⟨i, ?_⟩, isSlowOn_iff.2 ⟨h, hh⟩⟩
      rwa [List.getElem?_take, if_pos (by omega)]
  unfold debuffOf Timeline.Shown
  rw [← hscan]
  cases hexpiry : (debuffExpiry events).get key with
  | none => simp
  | some e =>
    -- The end is an attack of the batch.
    obtain ⟨_, _, -, -, hattack, -⟩ := (debuffExpiry_expires events key).ends e hexpiry
    obtain ⟨attack, hat, -⟩ := Option.bind_eq_some_iff.1 hattack
    have hlt := (List.getElem?_eq_some_iff.1 hat).1
    dsimp only
    cases hfound : (events.take (min p (events.length - 1) + 1)).findIdx? (isSlowOn key) with
    | none =>
      have hnone : (events.take (min p (events.length - 1) + 1)).any (isSlowOn key) = false := by
        rw [List.any_eq_false]
        exact fun x hx => by simpa using List.findIdx?_eq_none_iff.1 hfound x hx
      simp [hnone]
    | some i =>
      obtain ⟨hi, hslow, -⟩ := List.findIdx?_eq_some_iff_getElem.1 hfound
      have hany : (events.take (min p (events.length - 1) + 1)).any (isSlowOn key) = true :=
        List.any_eq_true.2 ⟨_, List.getElem_mem hi, hslow⟩
      rw [List.length_take] at hi
      rw [hany]
      simp only [Option.some.injEq, true_and, forall_eq']
      split
      · next hboth => exact iff_of_true rfl (by omega)
      · next hnot => exact iff_of_false nofun (by omega)

theorem mem_keys_addSnapshots (snapshots : List UnitSnapshot) (map : Units) : key ∈ (addSnapshots snapshots map).keys ↔
    key ∈ map.keys ∨ ∃ s ∈ snapshots, (⟨s.side, s.slot⟩ : UnitKey) = key := by
  unfold addSnapshots
  induction snapshots generalizing map with
  | nil => simp
  | cons s snapshots ih =>
    rw [List.foldl_cons, ih, Assoc.mem_keys_set, List.exists_mem_cons_iff]
    grind

theorem mem_keys_float {e : CombatEvent} {map : Units} (h : key ∈ map.keys) : key ∈ (float e map).keys := by
  have hset : ∀ target amount isHeal, key ∈ (setFloating target amount isHeal map).keys := by
    intro target amount isHeal
    unfold setFloating
    split
    · exact h
    · split
      · exact h
      · exact Assoc.mem_keys_set.2 (.inr h)
  unfold float
  split
  · exact hset _ _ _
  · exact hset _ _ _
  · exact hset _ _ _
  · exact hset _ _ _
  · exact h

/-- The unit is on the board of every event. -/
def OnBoard (events : List CombatEvent) (key : UnitKey) : Prop :=
  ∀ e ∈ events, ∃ snapshots, e.unitStates = some snapshots ∧ ∃ s ∈ snapshots, (⟨s.side, s.slot⟩ : UnitKey) = key

theorem mem_keys_boardAt (hon : OnBoard events key) (hne : events ≠ []) {shown : Nat} (hshown : 0 < shown)
    (view : View) : key ∈
      (boardAt events shown view.playerBoard view.opponentBoard view.mySide view.initialBoard).keys := by
  obtain ⟨e, rest, rfl⟩ := List.exists_cons_of_ne_nil hne
  obtain ⟨n, rfl⟩ := Nat.exists_eq_succ_of_ne_zero (Nat.pos_iff_ne_zero.1 hshown)
  unfold boardAt
  cases hfound : ((e :: rest).take (n + 1)).reverse.findSome? fun e => e.unitStates.filter (! ·.isEmpty) with
  | none =>
    obtain ⟨snapshots, hstates, s, hs, -⟩ := hon e (by simp)
    have hnone := List.findSome?_eq_none_iff.1 hfound e (by simp)
    rw [hstates, Option.filter_some] at hnone
    split at hnone
    · cases hnone
    · next hempty =>
      have hnil : snapshots = [] := by simpa using hempty
      rw [hnil] at hs
      cases hs
  | some snapshots =>
    obtain ⟨e', he', hstates⟩ := List.exists_of_findSome?_eq_some hfound
    obtain ⟨snapshots', hsome, hs⟩ := hon e' (List.mem_of_mem_take (List.mem_reverse.1 he'))
    rw [hsome, Option.filter_eq_some_iff] at hstates
    cases hstates.1
    exact (mem_keys_addSnapshots snapshots []).2 (.inr hs)

/-- The player shows the slow marker on the unit. -/
def Marked (events : List CombatEvent) (playheadIndex : Nat) (view : View) (key : UnitKey) : Prop :=
  ∃ state, (deriveUnitStates events playheadIndex view).get key = some state ∧ state.debuff = some slowDebuff

theorem marked_iff (hon : OnBoard events key) (view : View) :
    Marked events p view key ↔ (timeline events key).Shown ((debuffExpiry events).get key) p := by
  by_cases hne : events = []
  · subst hne
    constructor
    · rintro ⟨state, hget, -⟩
      cases hget
    · rintro ⟨⟨i, h, -, hslow⟩, -⟩
      cases hslow
  · rw [← debuffOf_iff]
    unfold Marked deriveUnitStates
    have hempty : events.isEmpty = false := by simpa using hne
    rw [hempty]
    simp only [Bool.false_eq_true, ↓reduceIte]
    generalize hlimit : min p (events.length - 1) = limit
    generalize hlanded : (if view.currentEventLanded = true then limit + 1 else limit) = landed
    have hshown : 0 < if landed = 0 then limit + 1 else landed := by split <;> omega
    have hboard := mem_keys_boardAt hon hne hshown view
    generalize boardAt events _ view.playerBoard view.opponentBoard view.mySide view.initialBoard = map at hboard
    have henriched : ∀ map : Units, key ∈ map.keys →
        ((∃ state, (map.get key).map (enrich events view limit landed key) = some state ∧
          state.debuff = some slowDebuff) ↔ debuffOf events limit key = some slowDebuff) := by
      intro map hkey
      obtain ⟨existing, hget⟩ := Assoc.get_of_mem_keys hkey
      rw [hget, Option.map_some]
      constructor
      · rintro ⟨state, hstate, hdebuff⟩
        cases hstate
        exact hdebuff
      · exact fun hdebuff => ⟨_, rfl, hdebuff⟩
    rw [Assoc.get_map]
    split
    · split
      · exact henriched _ (mem_keys_float hboard)
      · exact henriched _ hboard
    · exact henriched _ hboard

/-- The marker of a batch that has the unit on every board. -/
theorem marked_slowed (hon : OnBoard events key) :
    (∀ p view, Marked events p view key ↔ (timeline events key).Slowed p) ↔ (timeline events key).Plain := by
  rw [← (timeline events key).shown_iff_slowed (debuffExpiry_expires events key)]
  constructor
  · intro h p
    exact (marked_iff hon ⟨[], [], .p1, none, true⟩).symm.trans (h p _)
  · intro h p view
    exact (marked_iff hon view).trans (h p)

end

/-! ## Batches of the server -/

/-- The events the player plays of a battle. -/
def batch (localeCompare : String → String → Int) (battle : Game.Battle) : List CombatEvent :=
  loadBatch ((Game.runBattle localeCompare battle.toBattleState).map received)

/-- The slows on a unit in the log of the server, and who attacks. -/
def slowsOf (log : List Game.CombatEvent) (id : String) : Timeline where
  slow i := log[i]?.bind fun e =>
    match e.kind with
    | .slow _ _ target healer => if target.instanceId = id then some healer.instanceId else none
    | _ => none
  cast i := log[i]?.bind fun e =>
    match e.kind with
    | .slow _ _ _ healer => some healer.instanceId
    | _ => none
  attack i := log[i]?.bind fun e =>
    match e.kind with
    | .attack _ _ attacker _ _ _ => some attacker.instanceId
    | _ => none

theorem loadBatch_received (log : List Game.CombatEvent) :
    loadBatch (log.map received) = (Runtime.visible log).map received := by
  unfold loadBatch Runtime.visible
  rw [List.filter_map]
  congr 2
  funext e
  obtain ⟨kind, states⟩ := e
  cases kind <;> rfl

section
variable {localeCompare : String → String → Int} {sim : Game.BattleSim} {unit : Game.UnitInstance} {cycle tick : Nat}

/-- A healer slows a unit of the battle. -/
theorem unitAct_slows (hok : sim.Ok) {c k : Nat} {target healer : Game.Actor}
    (hslow : .slow c k target healer ∈ (Game.unitAct localeCompare unit sim cycle tick).2) :
    ∃ v ∈ sim.units, v.actor = target := by
  rcases @Game.unitAct_kinds localeCompare sim cycle tick unit hok with
    ⟨-, hheals⟩ | ⟨v, more, hpick, hfollows, heq⟩
  · obtain ⟨_, _, _, _, _, hheal⟩ := hheals _ hslow
    cases hheal
  · rw [heq, List.mem_append] at hslow
    rcases hslow with hslow | hslow
    · unfold Game.damageEvents at hslow
      split at hslow
      · simp at hslow
      · split at hslow <;> simp at hslow
    · cases hfollows with
      | aid hmore =>
        rcases hmore _ hslow with ⟨_, _, _, _, hsteal⟩ | ⟨_, _, _, _, _, hheal⟩ | ⟨-, hslows⟩
        · cases hsteal
        · cases hheal
        · cases hslows
          exact ⟨v, Game.mem_units _ (Game.pickTarget_mem hpick).1, rfl⟩
      | pierce dmg hbehind halive hne hmore =>
        rcases hmore with rfl | rfl <;> simp at hslow

/-- What the events of a log say of the units that began the battle. -/
structure Told (sim : Game.BattleSim) (e : Game.CombatEvent) : Prop where
  board : ∀ u ∈ sim.units, ∃ s ∈ e.unitStates, s.side = u.side ∧ s.slot = u.slot
  slows : ∀ c k target healer, e.kind = .slow c k target healer → ∃ v ∈ sim.units, v.actor = target

theorem played_told {last : Game.BattleSim} {ts : List Game.Turn} (h : Game.Played localeCompare sim ts last)
    (hs : sim.Sound) : ∀ e ∈ ts.flatMap (·.log), Told sim e := by
  have hboard : ∀ {sim'}, Game.Ages sim sim' → ∀ u ∈ sim.units, ∃ s ∈ Game.snapshotAllUnits sim',
      s.side = u.side ∧ s.slot = u.slot := by
    intro sim' hages u hu
    obtain ⟨u', hu', haged⟩ := hages.to hu
    exact ⟨_, List.mem_map_of_mem hu', congrArg Game.Actor.side haged.actor, congrArg Game.Actor.slot haged.actor⟩
  have hturns := h.induct (I := fun sim' => sim'.Sound ∧ Game.Ages sim sim') (P := fun t => ∀ e ∈ t.log, Told sim e)
    (fun unit sim' cycle tick ⟨hsound, hages⟩ hfind halive => by
      obtain ⟨hsound', hages'⟩ := Game.unitAct_keeps localeCompare unit sim' cycle tick hsound hfind halive
      refine ⟨fun e he => ?_, hsound', hages.trans hages'⟩
      obtain ⟨kind, hkind, rfl⟩ := List.mem_map.1 he
      refine ⟨hboard (hages.trans hages'), fun c k target healer hslow => ?_⟩
      change kind = _ at hslow
      subst hslow
      obtain ⟨v, hv, rfl⟩ := unitAct_slows hsound.ok hkind
      obtain ⟨u, hu, haged⟩ := hages.from hv
      exact ⟨u, hu, haged.actor.symm⟩)
    (fun cycle kind sim' ⟨_, hages⟩ hkind e he => by
      obtain ⟨kind', hmem, rfl⟩ := List.mem_map.1 he
      obtain rfl := List.mem_singleton.1 hmem
      refine ⟨hboard hages, fun c k target healer hslow => ?_⟩
      change kind' = _ at hslow
      subst hslow
      cases hkind)
    ⟨hs, Game.Ages.refl sim⟩
  intro e he
  obtain ⟨t, ht, he⟩ := List.mem_flatMap.1 he
  exact hturns.1 t ht e he

theorem runBattle_told (localeCompare : String → String → Int) (battle : Game.Battle) :
    ∀ e ∈ Game.runBattle localeCompare battle.toBattleState, Told battle.boards e := by
  obtain ⟨last, hplayed⟩ := @Game.turns_played localeCompare battle.toBattleState
  have hclones : (Game.cloneSim battle.toBattleState).units = battle.boards.units.map Game.cloneUnit := by
    simp [Game.cloneSim, Game.BattleSim.units, Game.BattleState.boards]
  rw [Game.runBattle_turns]
  intro e he
  obtain ⟨hboard, hslows⟩ := played_told hplayed battle.sound e he
  rw [hclones] at hboard hslows
  refine ⟨fun u hu => hboard (Game.cloneUnit u) (List.mem_map_of_mem hu), fun c k target healer hslow => ?_⟩
  obtain ⟨v, hv, rfl⟩ := hslows c k target healer hslow
  obtain ⟨u, hu, rfl⟩ := List.mem_map.1 hv
  exact ⟨u, hu, rfl⟩

end

section
variable {localeCompare : String → String → Int} {battle : Game.Battle} {u : Game.UnitInstance}

theorem batch_onBoard (hu : u ∈ battle.boards.units) : OnBoard (batch localeCompare battle) ⟨u.side, u.slot⟩ := by
  intro e he
  obtain ⟨e', he', rfl⟩ := List.mem_map.1 (List.mem_of_mem_filter he)
  obtain ⟨s, hs, hside, hslot⟩ := (runBattle_told localeCompare battle e' he').board u hu
  exact ⟨_, rfl, snapshot s, List.mem_map_of_mem hs, by rw [← hside, ← hslot]; rfl⟩

theorem mem_ownSide {sim : Game.BattleSim} (hok : sim.Ok) (hu : u ∈ sim.units) : u ∈ Game.unitsOf sim u.side := by
  rw [Game.units_eq, List.mem_append] at hu
  rcases hu with hu | hu
  · rwa [hok.side .p1 u hu]
  · rwa [hok.side .p2 u hu]

/-- No two units of a battle have a slot in common, nor an id. -/
theorem actor_key_iff {v : Game.UnitInstance} (hu : u ∈ battle.boards.units) (hv : v ∈ battle.boards.units) :
    (named v.actor).key = some ⟨u.side, u.slot⟩ ↔ v.instanceId = u.instanceId := by
  have hok : battle.boards.Ok := ⟨battle.side, battle.ids⟩
  constructor
  · intro hkey
    obtain ⟨hside, hslot⟩ : v.side = u.side ∧ v.slot = u.slot := by
      simpa [Named.key, named, Game.UnitInstance.actor] using hkey
    have hvs := mem_ownSide hok hv
    rw [hside] at hvs
    exact congrArg (·.instanceId) (List.inj_on_of_nodup_map (battle.slots u.side) hvs (mem_ownSide hok hu) hslot)
  · intro hid
    rw [hok.unique hv hu hid]
    rfl

theorem timeline_batch (hu : u ∈ battle.boards.units) : timeline (batch localeCompare battle) ⟨u.side, u.slot⟩ =
    slowsOf (Runtime.visible (Game.runBattle localeCompare battle.toBattleState)) u.instanceId := by
  have htold : ∀ e ∈ Runtime.visible (Game.runBattle localeCompare battle.toBattleState), Told battle.boards e :=
    fun e he => runBattle_told localeCompare battle e (List.mem_of_mem_filter he)
  unfold timeline slowsOf batch
  rw [loadBatch_received]
  congr 1
  · funext i
    rw [List.getElem?_map]
    cases hget : (Runtime.visible (Game.runBattle localeCompare battle.toBattleState))[i]? with
    | none => rfl
    | some e =>
      have hslows := (htold e (List.mem_of_getElem? hget)).slows
      obtain ⟨kind, states⟩ := e
      cases kind with
      | slow cycle tick target healer =>
        obtain ⟨v, hv, rfl⟩ := hslows cycle tick target healer rfl
        exact if_congr (actor_key_iff hu hv) rfl rfl
      | _ => rfl
  · funext i
    rw [List.getElem?_map]
    cases (Runtime.visible (Game.runBattle localeCompare battle.toBattleState))[i]? with
    | none => rfl
    | some e =>
      obtain ⟨kind, states⟩ := e
      cases kind <;> rfl
  · funext i
    rw [List.getElem?_map]
    cases (Runtime.visible (Game.runBattle localeCompare battle.toBattleState))[i]? with
    | none => rfl
    | some e =>
      obtain ⟨kind, states⟩ := e
      cases kind <;> rfl

/-- **The slow marker**: on a unit of the battle it follows the rule at every
playhead exactly when one stretch is the rule. -/
theorem batch_marked (localeCompare : String → String → Int) (battle : Game.Battle) (u : Game.UnitInstance)
    (hu : u ∈ battle.boards.units) :
    (∀ p view, Marked (batch localeCompare battle) p view ⟨u.side, u.slot⟩ ↔
      (slowsOf (Runtime.visible (Game.runBattle localeCompare battle.toBattleState)) u.instanceId).Slowed p) ↔
    (slowsOf (Runtime.visible (Game.runBattle localeCompare battle.toBattleState)) u.instanceId).Plain := by
  rw [← timeline_batch hu]
  exact marked_slowed (batch_onBoard hu)

end

/-- A 1★ healer, alone against a tank and a 2★ ranger. -/
def siege : Game.Battle where
  p1Units := [{ instanceId := "h", unitId := .healer, star := 1, hp := 70, maxHp := 70,
                slot := 0, side := .p1, alive := true }]
  p2Units := [{ instanceId := "t", unitId := .tank, star := 0, hp := 150, maxHp := 150,
                slot := 0, side := .p2, alive := true },
              { instanceId := "r", unitId := .ranger, star := 2, hp := 60, maxHp := 60,
                slot := 1, side := .p2, alive := true }]
  roundSeed := 7
  matchSeed := "m"
  side := by intro side; cases side <;> simp [Game.unitsOf]
  slots := by intro side; cases side <;> simp [Game.unitsOf]
  slot_le := by intro side; cases side <;> simp [Game.unitsOf]
  ids := by simp
  hp := by intro side; cases side <;> simp [Game.unitsOf]
  alive := by intro side; cases side <;> simp [Game.unitsOf]
  unslowed := by intro side; cases side <;> simp [Game.unitsOf]
  unrevived := by intro side; cases side <;> simp [Game.unitsOf]

theorem batch_marked_siege :
    (∀ p view, Marked (batch (fun _ _ => 0) siege) p view ⟨.p2, 0⟩ ↔
      (slowsOf (Runtime.visible (Game.runBattle (fun _ _ => 0) siege.toBattleState)) "t").Slowed p) ↔
    (slowsOf (Runtime.visible (Game.runBattle (fun _ _ => 0) siege.toBattleState)) "t").Plain :=
  batch_marked (fun _ _ => 0) siege
    { instanceId := "t", unitId := .tank, star := 0, hp := 150, maxHp := 150, slot := 0, side := .p2, alive := true }
    (by decide)

/-- The healer slows the tank twice and does not attack again: when the tank
attacks with event 9, the second slow is on it and the marker is not. -/
theorem siege_unmarked : ¬∀ p view, Marked (batch (fun _ _ => 0) siege) p view ⟨.p2, 0⟩ ↔
    (slowsOf (Runtime.visible (Game.runBattle (fun _ _ => 0) siege.toBattleState)) "t").Slowed p := by
  intro h
  have hslow : (slowsOf (Runtime.visible (Game.runBattle (fun _ _ => 0) siege.toBattleState)) "t").slow 8 =
      some "h" := by decide +kernel
  have hattack : (slowsOf (Runtime.visible (Game.runBattle (fun _ _ => 0) siege.toBattleState)) "t").attack 9 =
      some "t" := by decide +kernel
  have hshown : ((deriveUnitStates (batch (fun _ _ => 0) siege) 9 ⟨[], [], .p1, none, true⟩).get ⟨.p2, 0⟩).map
      (·.debuff) = some none := by decide +kernel
  obtain ⟨state, hstate, hdebuff⟩ := (h 9 ⟨[], [], .p1, none, true⟩).2
    ⟨8, by decide, "h", hslow, fun j hj hj' => by
      obtain rfl : j = 9 := by omega
      rw [hattack]
      decide⟩
  rw [hstate, Option.map_some, hdebuff] at hshown
  cases hshown

end AutoChess.Client.Battle
