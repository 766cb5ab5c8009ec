/-
Where the gold goes. Every action on a roster moves units between slots,
turns gold into units or units into gold, and nothing else: a player's gold
and the gold invested in their units add up to what they were given
(`Ledger`), whatever they do.
-/
import AutoChess.Runtime.Resolution
import AutoChess.Shop.Roster
import Mathlib.Algebra.BigOperators.Group.List.Basic

namespace AutoChess.Shop

open AutoChess.Game AutoChess.Runtime

/-! ## The units of a roster -/

/-- The units in a row of slots. -/
def held (slots : Slots) : List RuntimeUnitState := slots.filterMap id

def units (p : RuntimePlayerState) : List RuntimeUnitState := held p.board ++ held p.bench

theorem held_set_none {slots : Slots} {i : Nat} {u : RuntimeUnitState}
    (h : slots[i]? = some (some u)) : (u :: held (slots.set i none)).Perm (held slots) := by
  induction slots generalizing i with
  | nil => simp at h
  | cons x xs ih =>
    cases i with
    | zero =>
      obtain rfl : x = some u := by simpa using h
      exact .refl _
    | succ i =>
      have ih := ih (by simpa using h)
      cases x with
      | none => exact ih
      | some v => exact (List.Perm.swap v u _).trans (ih.cons v)

theorem held_set_some {slots : Slots} {i : Nat} {u : RuntimeUnitState} (h : slots[i]? = some none) :
    (held (slots.set i (some u))).Perm (u :: held slots) := by
  induction slots generalizing i with
  | nil => simp at h
  | cons x xs ih =>
    cases i with
    | zero =>
      obtain rfl : x = none := by simpa using h
      exact .refl _
    | succ i =>
      have ih := ih (by simpa using h)
      cases x with
      | none => exact ih
      | some v => exact (ih.cons v).trans (List.Perm.swap u v _)

section
variable {p : RuntimePlayerState} {source target : Place} {slot slot' : Nat}
  {u v : RuntimeUnitState}

theorem slotsAt_setSlot (x : Option RuntimeUnitState) :
    slotsAt (setSlot p source slot x) source = (slotsAt p source).set slot x := by
  cases source <;> rfl

theorem slotsAt_setSlot_other (x : Option RuntimeUnitState) (h : source ≠ target) :
    slotsAt (setSlot p source slot x) target = slotsAt p target := by
  cases source <;> cases target <;> first | rfl | exact absurd rfl h

/-- Another slot keeps what it holds. -/
theorem getElem?_setSlot (x : Option RuntimeUnitState) (h : source ≠ target ∨ slot ≠ slot') :
    (slotsAt (setSlot p source slot x) target)[slot']? = (slotsAt p target)[slot']? := by
  by_cases hp : source = target
  · subst hp
    rw [slotsAt_setSlot, List.getElem?_set_ne (h.resolve_left (· rfl))]
  · rw [slotsAt_setSlot_other x hp]

/-- Taking a unit out of its slot takes it out of the roster. -/
theorem units_take (h : (slotsAt p source)[slot]? = some (some u)) :
    (u :: units (setSlot p source slot none)).Perm (units p) := by
  cases source with
  | board => exact (held_set_none h).append_right _
  | bench => exact List.perm_middle.symm.trans ((held_set_none h).append_left _)

/-- Putting a unit into a free slot adds it to the roster. -/
theorem units_put (h : (slotsAt p source)[slot]? = some none) :
    (units (setSlot p source slot (some u))).Perm (u :: units p) := by
  cases source with
  | board => exact (held_set_some h).append_right _
  | bench => exact ((held_set_some h).append_left _).trans List.perm_middle

theorem slot_lt (h : (slotsAt p source)[slot]? = some (some u)) :
    slot < (slotsAt p source).length := (List.getElem?_eq_some_iff.1 h).1

/-- A slot just emptied is free. -/
theorem slot_free (h : (slotsAt p source)[slot]? = some (some u)) :
    (slotsAt (setSlot p source slot none) source)[slot]? = some none := by
  rw [slotsAt_setSlot, List.getElem?_set_self (slot_lt h)]

theorem setSlot_setSlot (x y : Option RuntimeUnitState) :
    setSlot (setSlot p source slot x) source slot y = setSlot p source slot y := by
  cases source <;> simp [setSlot, List.set_set]

end

/-! ## Entries -/

theorem mem_entriesOf {source : Place} {k : Nat} {slots : Slots} {e : RosterEntry}
    (h : e ∈ entriesOf source k slots) :
    e.source = source ∧ k ≤ e.slot ∧ slots[e.slot - k]? = some (some e.unit) := by
  induction slots generalizing k with
  | nil => simp [entriesOf] at h
  | cons x xs ih =>
    have hnext : e ∈ entriesOf source (k + 1) xs →
        e.source = source ∧ k ≤ e.slot ∧ (x :: xs)[e.slot - k]? = some (some e.unit) := by
      intro he
      obtain ⟨hsource, hk, hget⟩ := ih he
      have hslot : e.slot - k = e.slot - (k + 1) + 1 := by omega
      exact ⟨hsource, by omega, by rw [hslot, List.getElem?_cons_succ, hget]⟩
    cases x with
    | none => exact hnext h
    | some u =>
      rcases List.mem_cons.1 h with rfl | h
      · simp
      · exact hnext h

/-- An entry says where its unit is. -/
theorem mem_rosterEntries {p : RuntimePlayerState} {e : RosterEntry} (h : e ∈ rosterEntries p) :
    (slotsAt p e.source)[e.slot]? = some (some e.unit) := by
  rcases List.mem_append.1 h with h | h
  · obtain ⟨hsource, -, hget⟩ := mem_entriesOf h
    rw [hsource]
    exact hget
  · obtain ⟨hsource, -, hget⟩ := mem_entriesOf h
    rw [hsource]
    exact hget

/-- Two entries at one place are one entry. -/
theorem rosterEntries_inj {p : RuntimePlayerState} {e e' : RosterEntry} (h : e ∈ rosterEntries p)
    (h' : e' ∈ rosterEntries p) (hne : e ≠ e') : e.source ≠ e'.source ∨ e.slot ≠ e'.slot := by
  by_contra hsame
  simp only [ne_eq, not_or, not_not] at hsame
  have hget := mem_rosterEntries h
  rw [hsame.1, hsame.2, mem_rosterEntries h'] at hget
  obtain ⟨source, slot, unit⟩ := e
  obtain ⟨source', slot', unit'⟩ := e'
  obtain ⟨rfl, rfl⟩ := hsame
  cases hget
  exact hne rfl

theorem findRosterUnit_mem {p : RuntimePlayerState} {id : String} {e : RosterEntry}
    (h : findRosterUnit p id = some e) : e ∈ rosterEntries p ∧ e.unit.instanceId = id :=
  ⟨List.mem_of_find?_eq_some h, by simpa using List.find?_some h⟩

/-! ## The ledger -/

/-- A unit as it was bought or fused: worth what was paid for its copies. -/
structure Standard (u : RuntimeUnitState) : Prop where
  star : u.star ≤ 2
  invested : investedGold u = UNIT_COST u.unitId * 2 ^ u.star
  hp : u.hp = (UNIT_BASE_STATS u.unitId).hp
  maxHp : u.maxHp = (UNIT_BASE_STATS u.unitId).hp

/-- The gold in a player's units. -/
def invested (p : RuntimePlayerState) : Int := ((units p).map investedGold).sum

/-- A player's books after `given` rounds of gold: nothing was lost or made,
and the units are told apart by ids that are `known`. -/
structure Ledger (given : Nat) (known : String → Prop) (p : RuntimePlayerState) : Prop where
  balance : p.gold + invested p = 5 + 5 * given
  gold : 0 ≤ p.gold
  hp : 0 ≤ p.hp
  standard : ∀ u ∈ units p, Standard u
  ids : ((units p).map (·.instanceId)).Nodup
  known : ∀ u ∈ units p, known u.instanceId
  board : p.board.length = 9
  bench : p.bench.length = 8

section
variable {given : Nat} {known known' : String → Prop} {p p' : RuntimePlayerState}
  {u : RuntimeUnitState}

theorem Ledger.mono (h : Ledger given known p) (hk : ∀ id, known id → known' id) :
    Ledger given known' p :=
  { h with known := fun u hu => hk _ (h.known u hu) }

theorem UNIT_COST_pos (unitId : UnitId) : 0 < UNIT_COST unitId := by cases unitId <;> decide

theorem Standard.invested_nonneg (h : Standard u) : 0 ≤ investedGold u := by
  rw [h.invested]
  exact mul_nonneg (UNIT_COST_pos _).le (pow_nonneg (by decide) _)

theorem invested_perm {us vs : List RuntimeUnitState} (h : us.Perm vs) :
    (us.map investedGold).sum = (vs.map investedGold).sum := (h.map _).sum_eq

@[simp] theorem setSlot_gold (source : Place) (slot : Nat) (x : Option RuntimeUnitState) :
    (setSlot p source slot x).gold = p.gold := by cases source <;> rfl

@[simp] theorem setSlot_hp (source : Place) (slot : Nat) (x : Option RuntimeUnitState) :
    (setSlot p source slot x).hp = p.hp := by cases source <;> rfl

@[simp] theorem setSlot_board (source : Place) (slot : Nat) (x : Option RuntimeUnitState) :
    (setSlot p source slot x).board.length = p.board.length := by
  cases source <;> simp [setSlot]

@[simp] theorem setSlot_bench (source : Place) (slot : Nat) (x : Option RuntimeUnitState) :
    (setSlot p source slot x).bench.length = p.bench.length := by
  cases source <;> simp [setSlot]

/-! ## Actions -/

theorem Standard.new (unitId : UnitId) (id : String) :
    Standard (newUnit unitId (UNIT_COST unitId) id) where
  star := by simp [newUnit]
  invested := by simp [newUnit, investedGold, (UNIT_COST_pos unitId).le]
  hp := rfl
  maxHp := rfl

/-- Buying turns gold into a unit. -/
theorem Ledger.buy (h : Ledger given known p) {shop : StoredShop} {index : Nat} {offer : ShopOffer}
    {id : String} {after : Holdings} (hoffer : offerToBuy ⟨p, shop⟩ index = .ok offer)
    (hbuy : buyOffer ⟨p, shop⟩ index offer id = .ok after) (hfresh : ¬ known id) :
    Ledger given (fun id' => known id' ∨ id' = id) after.state := by
  have hgold : UNIT_COST offer.unitId ≤ p.gold := by
    unfold offerToBuy at hoffer
    split at hoffer
    · cases hoffer
    · split at hoffer
      · cases hoffer
      · next hle =>
        cases hoffer
        exact not_lt.1 hle
  unfold buyOffer at hbuy
  split at hbuy
  · cases hbuy
  next slot hslot =>
  cases hbuy
  obtain ⟨hlt, hnone, -⟩ := List.findIdx?_eq_some_iff_getElem.1 hslot
  have hfree : (slotsAt p .bench)[slot]? = some none :=
    (List.getElem?_eq_getElem hlt).trans (congrArg some (Option.isNone_iff_eq_none.1 hnone))
  have hperm := units_put (u := newUnit offer.unitId (UNIT_COST offer.unitId) id) hfree
  have hunits : (units (setSlot { p with gold := p.gold - UNIT_COST offer.unitId } .bench slot
      (some (newUnit offer.unitId (UNIT_COST offer.unitId) id)))).Perm
      (newUnit offer.unitId (UNIT_COST offer.unitId) id :: units p) := hperm
  have hnew : ∀ u ∈ units p, u.instanceId ≠ id := fun u hu heq => hfresh (heq ▸ h.known u hu)
  refine ⟨?_, ?_, ?_, ?_, ?_, ?_, ?_, ?_⟩
  · have hbalance := h.balance
    have hcost : investedGold (newUnit offer.unitId (UNIT_COST offer.unitId) id) =
        UNIT_COST offer.unitId := by simp [newUnit, investedGold, (UNIT_COST_pos offer.unitId).le]
    unfold invested at hbalance ⊢
    rw [invested_perm hunits, List.map_cons, List.sum_cons, hcost, setSlot_gold]
    simp only
    omega
  · simpa using hgold
  · simpa using h.hp
  · intro u hu
    rcases List.mem_cons.1 (hunits.subset hu) with rfl | hu
    · exact .new _ _
    · exact h.standard u hu
  · rw [(hunits.map _).nodup_iff, List.map_cons, List.nodup_cons]
    refine ⟨?_, h.ids⟩
    simpa [newUnit] using hnew
  · intro u hu
    rcases List.mem_cons.1 (hunits.subset hu) with rfl | hu
    · exact .inr rfl
    · exact .inl (h.known u hu)
  · simpa using h.board
  · simpa using h.bench

/-- Selling turns a unit back into the gold invested in it. -/
theorem Ledger.sell (h : Ledger given known p) {shop : StoredShop} {source : Place} {slot : Nat}
    {after : Holdings} (hsell : sellUnit ⟨p, shop⟩ source slot = .ok after) :
    Ledger given known after.state := by
  unfold sellUnit at hsell
  split at hsell
  · cases hsell
  · cases hsell
  next u hget =>
  cases hsell
  have hunits : (u :: units (setSlot { p with gold := p.gold + investedGold u } source slot none)).Perm
      (units p) := by
    have := units_take hget
    cases source <;> exact this
  have hmem : u ∈ units p := hunits.subset (List.mem_cons_self ..)
  have hrest : ∀ v ∈ units (setSlot { p with gold := p.gold + investedGold u } source slot none),
      v ∈ units p := fun v hv => hunits.subset (List.mem_cons_of_mem _ hv)
  refine ⟨?_, ?_, ?_, fun v hv => h.standard v (hrest v hv), ?_, fun v hv => h.known v (hrest v hv),
    ?_, ?_⟩
  · have hbalance := h.balance
    unfold invested at hbalance ⊢
    rw [← invested_perm hunits, List.map_cons, List.sum_cons] at hbalance
    rw [setSlot_gold]
    simp only
    omega
  · have := (h.standard u hmem).invested_nonneg
    have := h.gold
    simp only [setSlot_gold]
    omega
  · simpa using h.hp
  · exact (List.nodup_cons.1 ((hunits.map _).nodup_iff.2 h.ids)).2
  · simpa using h.board
  · simpa using h.bench

/-- What is moved about without gold changing hands. -/
theorem Ledger.rearrange (h : Ledger given known p) (hgold : p'.gold = p.gold) (hhp : p'.hp = p.hp)
    (hboard : p'.board.length = p.board.length) (hbench : p'.bench.length = p.bench.length)
    {out new rest : List RuntimeUnitState} (hold : (units p).Perm (out ++ rest))
    (hunits : (units p').Perm (new ++ rest))
    (hworth : (new.map investedGold).sum = (out.map investedGold).sum)
    (hstandard : ∀ u ∈ new, Standard u)
    (hids : (new.map (·.instanceId)).Sublist (out.map (·.instanceId))) :
    Ledger given known p' := by
  have hsub : ((new ++ rest).map (·.instanceId)).Sublist ((out ++ rest).map (·.instanceId)) := by
    rw [List.map_append, List.map_append]
    exact hids.append_right _
  refine ⟨?_, hgold ▸ h.gold, hhp ▸ h.hp, ?_, ?_, ?_, hboard ▸ h.board, hbench ▸ h.bench⟩
  · have hbalance := h.balance
    unfold invested at hbalance ⊢
    rw [invested_perm hold, List.map_append, List.sum_append] at hbalance
    rw [invested_perm hunits, List.map_append, List.sum_append, hworth, hgold]
    exact hbalance
  · intro u hu
    rcases List.mem_append.1 (hunits.subset hu) with hu | hu
    · exact hstandard u hu
    · exact h.standard u (hold.symm.subset (List.mem_append_right _ hu))
  · rw [(hunits.map _).nodup_iff]
    exact hsub.nodup ((hold.map _).nodup_iff.1 h.ids)
  · intro u hu
    have hmem := hsub.subset (List.mem_map_of_mem (hunits.subset hu))
    obtain ⟨v, hv, heq⟩ := List.mem_map.1 ((hold.symm.map _).subset hmem)
    exact heq ▸ h.known v hv

/-- The pairs that fuse: two entries of one type and star. -/
structure Fuses (p : RuntimePlayerState) (target source : RosterEntry) : Prop where
  targetMem : target ∈ rosterEntries p
  sourceMem : source ∈ rosterEntries p
  ne : target ≠ source
  unitId : source.unit.unitId = target.unit.unitId
  star : source.unit.star = target.unit.star
  below : target.unit.star < 2

theorem draggedPair_fuses {unitId : UnitId} {sourceId targetId : String}
    {target source : RosterEntry}
    (h : draggedPair p unitId sourceId targetId = .ok (target, source)) : Fuses p target source := by
  unfold draggedPair at h
  split at h
  · cases h
  next hids =>
  split at h
  · next source' target' hsource htarget =>
    split at h
    · cases h
    next hcond =>
    cases h
    simp only [Bool.or_eq_true, bne_iff_ne, ne_eq, decide_eq_true_eq, not_or, not_not, not_le] at hcond
    obtain ⟨⟨⟨hs, ht⟩, hstar⟩, hlt⟩ := hcond
    refine ⟨(findRosterUnit_mem htarget).1, (findRosterUnit_mem hsource).1, ?_, hs.trans ht.symm,
      hstar, hlt⟩
    rintro rfl
    have hs := (findRosterUnit_mem hsource).2
    have ht := (findRosterUnit_mem htarget).2
    exact hids (by rw [← hs, ← ht, beq_self_eq_true])
  · cases h

theorem firstPaired_mem {entries : List RosterEntry} {e : RosterEntry}
    (h : firstPaired entries = some e) : e ∈ entries := by
  induction entries with
  | nil => cases h
  | cons x xs ih =>
    unfold firstPaired at h
    split at h
    · cases h
      exact List.mem_cons_self ..
    · exact List.mem_cons_of_mem _ (ih h)

theorem mem_fuseCandidates {unitId : UnitId} {e : RosterEntry} (h : e ∈ fuseCandidates p unitId) :
    e ∈ rosterEntries p ∧ e.unit.unitId = unitId ∧ e.unit.star < 2 := by
  have h := (List.mem_insertionSort _).1 h
  simpa [and_assoc] using h

theorem compatiblePair_fuses {unitId : UnitId} {target source : RosterEntry}
    (h : compatiblePair p unitId = .ok (target, source)) : Fuses p target source := by
  unfold compatiblePair at h
  dsimp only at h
  split at h
  · cases h
  next pair hpair =>
  split at h
  · cases h
  next second hsecond =>
  cases h
  obtain ⟨htarget, hid, hlt⟩ := mem_fuseCandidates (firstPaired_mem hpair)
  obtain ⟨hsource, hid', -⟩ := mem_fuseCandidates (List.mem_of_find?_eq_some hsecond)
  have hcond := List.find?_some hsecond
  simp only [Bool.and_eq_true, bne_iff_ne, ne_eq, beq_iff_eq] at hcond
  exact ⟨htarget, hsource, fun heq => hcond.1 heq.symm, hid'.trans hid.symm, hcond.2, hlt⟩

/-- A fused unit is worth its two copies. -/
theorem Standard.merge {v : RuntimeUnitState} (hu : Standard u) (hv : Standard v)
    (hid : v.unitId = u.unitId) (hstar : v.star = u.star) (hlt : u.star < 2) :
    Standard (mergeUnits u v) ∧ investedGold (mergeUnits u v) = investedGold u + investedGold v := by
  have hworth : investedGold (mergeUnits u v) = investedGold u + investedGold v := by
    have := hu.invested_nonneg
    have := hv.invested_nonneg
    simp only [mergeUnits, investedGold] at *
    exact if_pos (by omega)
  refine ⟨⟨?_, ?_, hu.maxHp, hu.maxHp⟩, hworth⟩
  · show u.star + 1 ≤ 2
    omega
  · rw [hworth, hu.invested, hv.invested, hid, hstar]
    simp only [mergeUnits, pow_succ]
    rw [← mul_assoc, mul_two]

theorem fuseInto_units {target source : RosterEntry} (hf : Fuses p target source) : ∃ rest,
    (units p).Perm ([target.unit, source.unit] ++ rest) ∧
      (units (Shop.fuseInto p target source)).Perm ([mergeUnits target.unit source.unit] ++ rest) := by
  have htarget := mem_rosterEntries hf.targetMem
  have hsource := mem_rosterEntries hf.sourceMem
  have hplace := rosterEntries_inj hf.targetMem hf.sourceMem hf.ne
  have htake := units_take htarget
  have hleft : (slotsAt (setSlot p target.source target.slot none) source.source)[source.slot]? =
      some (some source.unit) := (getElem?_setSlot none hplace).trans hsource
  have htake' := units_take hleft
  have hput := units_put (u := mergeUnits target.unit source.unit) (slot_free htarget)
  rw [setSlot_setSlot] at hput
  have hleft' : (slotsAt (setSlot p target.source target.slot (some (mergeUnits target.unit source.unit)))
      source.source)[source.slot]? = some (some source.unit) :=
    (getElem?_setSlot _ hplace).trans hsource
  refine ⟨units (setSlot (setSlot p target.source target.slot none) source.source source.slot none),
    htake.symm.trans (htake'.symm.cons _), ?_⟩
  refine List.Perm.cons_inv (a := source.unit) ?_
  refine (units_take hleft').trans (hput.trans ?_)
  exact (htake'.symm.cons _).trans (List.Perm.swap _ _ _)

/-- Fusing puts one unit in the place of two, worth as much. -/
theorem Ledger.fuseInto (h : Ledger given known p) {target source : RosterEntry}
    (hf : Fuses p target source) : Ledger given known (fuseInto p target source) := by
  obtain ⟨rest, hold, hunits⟩ := fuseInto_units hf
  have hmem : ∀ e ∈ rosterEntries p, e.unit ∈ units p := fun e he =>
    (units_take (mem_rosterEntries he)).subset (List.mem_cons_self ..)
  obtain ⟨hstandard, hworth⟩ := (h.standard _ (hmem _ hf.targetMem)).merge
    (h.standard _ (hmem _ hf.sourceMem)) hf.unitId hf.star hf.below
  refine h.rearrange (by simp [Shop.fuseInto]) (by simp [Shop.fuseInto]) (by simp [Shop.fuseInto])
    (by simp [Shop.fuseInto]) hold hunits (by simp [hworth]) (by simpa using hstandard) ?_
  exact (List.Sublist.refl [target.unit.instanceId]).trans
    (List.sublist_append_left [target.unit.instanceId] [source.unit.instanceId])

theorem fuseUnits_fuses {shop : StoredShop} {unitId : UnitId} {sourceId targetId : Option String}
    {after : Holdings} (hfuse : fuseUnits ⟨p, shop⟩ unitId sourceId targetId = .ok after) :
    ∃ target source, Fuses p target source ∧ after.state = Shop.fuseInto p target source := by
  unfold fuseUnits at hfuse
  by_cases hid : (sourceId.isNone != targetId.isNone) = true
  · rw [if_pos hid] at hfuse
    cases hfuse
  rw [if_neg hid] at hfuse
  split at hfuse
  · next s t hs ht =>
    cases hd : draggedPair p unitId s t with
    | error r => rw [hd] at hfuse; cases hfuse
    | ok pair =>
      rw [hd] at hfuse
      cases hfuse
      exact ⟨pair.1, pair.2, draggedPair_fuses hd, rfl⟩
  · cases hd : compatiblePair p unitId with
    | error r => rw [hd] at hfuse; cases hfuse
    | ok pair =>
      rw [hd] at hfuse
      cases hfuse
      exact ⟨pair.1, pair.2, compatiblePair_fuses hd, rfl⟩

theorem Ledger.fuse (h : Ledger given known p) {shop : StoredShop} {unitId : UnitId}
    {sourceId targetId : Option String} {after : Holdings}
    (hfuse : fuseUnits ⟨p, shop⟩ unitId sourceId targetId = .ok after) :
    Ledger given known after.state := by
  obtain ⟨target, source, hf, heq⟩ := fuseUnits_fuses hfuse
  exact heq ▸ h.fuseInto hf

/-- An id is in one slot. -/
theorem slot_of_id (hids : ((units p).map (·.instanceId)).Nodup) {source target : Place} {i j : Nat}
    {v : RuntimeUnitState} (hu : (slotsAt p source)[i]? = some (some u)) (hv : (slotsAt p target)[j]? = some (some v))
    (hid : u.instanceId = v.instanceId) : source = target ∧ i = j := by
  by_contra hne
  have hne : source ≠ target ∨ i ≠ j := by
    by_cases hplace : source = target
    · exact .inr fun hslot => hne ⟨hplace, hslot⟩
    · exact .inl hplace
  have hkept := (getElem?_setSlot none hne).trans hv
  have hids := ((units_take hu).map (·.instanceId)).nodup_iff.2 hids
  rw [List.map_cons, List.nodup_cons] at hids
  exact hids.1 (List.mem_map.2 ⟨v, (units_take hkept).subset (List.mem_cons_self ..), hid.symm⟩)

/-- Placing moves a unit, or leaves it in its own slot. The target slot is
free: a unit in it with the id of the one that moves would be the same unit. -/
theorem placeUnit_moves (hids : ((units p).map (·.instanceId)).Nodup) {id : String} {target : Place} {slot : Nat}
    (hplace : placeUnit p id target slot = .ok p') : ∃ source ∈ rosterEntries p, source.unit.instanceId = id ∧
      ((source.source = target ∧ source.slot = slot) ∧ p' = p ∨
        (source.source ≠ target ∨ source.slot ≠ slot) ∧ (slotsAt p target)[slot]? = some none ∧
          p' = setSlot (setSlot p source.source source.slot none) target slot (some source.unit)) := by
  unfold placeUnit at hplace
  split at hplace
  · cases hplace
  next occupied hoccupied =>
  split at hplace
  · cases hplace
  next source hsource =>
  obtain ⟨hmem, hid⟩ := findRosterUnit_mem hsource
  refine ⟨source, hmem, hid, ?_⟩
  split at hplace
  · cases hplace
  next hcond =>
  split at hplace
  · next hmoves =>
    cases hplace
    have hne : source.source ≠ target ∨ source.slot ≠ slot := by simpa using hmoves
    have hfree : occupied = none := by
      cases occupied with
      | none => rfl
      | some v =>
        have hv : v.instanceId = id := by simpa using hcond
        obtain ⟨hplace, hslot⟩ := slot_of_id hids (mem_rosterEntries hmem) hoccupied (hid.trans hv.symm)
        exact absurd hne (by simp [hplace, hslot])
    exact .inr ⟨hne, hfree ▸ hoccupied, rfl⟩
  · next hstays =>
    cases hplace
    exact .inl ⟨by simpa using hstays, rfl⟩

theorem setSlot_units {source target : Place} {i slot : Nat} (hget : (slotsAt p source)[i]? = some (some u))
    (hne : source ≠ target ∨ i ≠ slot) (hfree : (slotsAt p target)[slot]? = some none) :
    (units (setSlot (setSlot p source i none) target slot (some u))).Perm (units p) :=
  (units_put ((getElem?_setSlot none hne).trans hfree)).trans (units_take hget)

theorem Ledger.place (h : Ledger given known p) {id : String} {target : Place} {slot : Nat}
    (hplace : placeUnit p id target slot = .ok p') : Ledger given known p' := by
  obtain ⟨source, hmem, -, ⟨-, rfl⟩ | ⟨hne, hfree, rfl⟩⟩ := placeUnit_moves h.ids hplace
  · exact h
  have hold : (units p).Perm ([] ++ units p) := .refl _
  have hunits := setSlot_units (mem_rosterEntries hmem) hne hfree
  exact h.rearrange (by simp) (by simp) (by simp) (by simp) hold (hunits.trans hold) rfl (by simp) (.refl _)

/-! ## Rounds -/

theorem units_empty {p : RuntimePlayerState} (hboard : ∀ x ∈ p.board, x = none)
    (hbench : ∀ x ∈ p.bench, x = none) : units p = [] := by
  have hheld : ∀ {slots : Slots}, (∀ x ∈ slots, x = none) → held slots = [] := fun hs =>
    List.filterMap_eq_nil_iff.2 fun x hx => hs x hx
  rw [units, hheld hboard, hheld hbench, List.append_nil]

/-- The books of a new player. -/
theorem Ledger.new (hgold : p.gold = 5) (hhp : 0 ≤ p.hp) (hunits : units p = [])
    (hboard : p.board.length = 9) (hbench : p.bench.length = 8) : Ledger 0 known p where
  balance := by simp [hgold, invested, hunits]
  gold := by omega
  hp := hhp
  standard := by simp [hunits]
  ids := by simp [hunits]
  known := by simp [hunits]
  board := hboard
  bench := hbench

/-- Damage costs no gold. -/
theorem Ledger.hit (h : Ledger given known p) (damage : Nat) : Ledger given known (hit p damage) :=
  { h with hp := le_max_left _ _ }

/-- A round survived is worth five gold. -/
theorem Ledger.rewarded (h : Ledger given known p) : Ledger (given + 1) known (rewarded p) where
  balance := by
    have hbalance := h.balance
    change p.gold + ROUND_GOLD + invested p = _
    simp only [ROUND_GOLD]
    push_cast
    omega
  gold := by
    have := h.gold
    change 0 ≤ p.gold + ROUND_GOLD
    simp only [ROUND_GOLD]
    omega
  hp := h.hp
  standard := h.standard
  ids := h.ids
  known := h.known
  board := h.board
  bench := h.bench

/-- What is stored of a player with books reads back as it is. -/
theorem Ledger.normalize (h : Ledger given known p) : normalizePlayerState p = p := by
  have hslots : ∀ {slots : Slots} {n : Nat}, slots.length = n → normalizeSlots slots n = slots := by
    rintro slots _ rfl
    refine List.ext_getElem (by simp [normalizeSlots]) fun i h₁ h₂ => ?_
    simp [normalizeSlots, h₂]
  have := h.gold
  have := h.hp
  obtain ⟨hp, gold, ready, board, bench⟩ := p
  simp only [normalizePlayerState, hslots h.board, hslots h.bench, finiteNonNegative]
  rw [if_pos (by assumption), if_pos (by assumption)]

end

end AutoChess.Shop
