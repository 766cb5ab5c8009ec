/-
What each action does to the slots of a roster. The rules of a ledger
(`Shop.Ledger`) say what an action keeps; these say which slots it changes,
which units it moves, makes or removes, and which offer it takes.
-/
import AutoChess.Shop.Ledger
import AutoChess.Shop.Service

namespace AutoChess.Shop

open AutoChess.Game AutoChess.Runtime

/-- Only these slots may differ. -/
def SlotsKept (changed : List (Place × Nat)) (before after : RuntimePlayerState) : Prop :=
  ∀ place i, (place, i) ∉ changed → (slotsAt after place)[i]? = (slotsAt before place)[i]?

/-- A unit is moved to a slot, from `entry`'s. -/
structure Moves (instanceId : String) (target : Place) (slot : Nat) (before after : RuntimePlayerState)
    (entry : RosterEntry) : Prop where
  owned : entry ∈ rosterEntries before
  named : entry.unit.instanceId = instanceId
  free : (entry.source, entry.slot) ≠ (target, slot) → (slotsAt before target)[slot]? = some none
  placed : (slotsAt after target)[slot]? = some (some entry.unit)
  left : (entry.source, entry.slot) ≠ (target, slot) → (slotsAt after entry.source)[entry.slot]? = some none
  others : SlotsKept [(entry.source, entry.slot), (target, slot)] before after
  units : (units after).Perm (units before)

/-- An offer is turned into a unit that was not there, on the bench. -/
structure Buys (taken : String → Prop) (index : Nat) (before after : Holdings) (offer : ShopOffer)
    (unit : RuntimeUnitState) (slot : Nat) : Prop where
  offered : before.shop.offers[index]? = some (some offer)
  consumed : after.shop = { before.shop with offers := before.shop.offers.set index none }
  unitId : unit.unitId = offer.unitId
  star : unit.star = 0
  fresh : ¬ taken unit.instanceId
  free : (slotsAt before.state .bench)[slot]? = some none
  benched : (slotsAt after.state .bench)[slot]? = some (some unit)
  others : SlotsKept [(.bench, slot)] before.state after.state
  units : (units after.state).Perm (unit :: units before.state)

/-- A slot is emptied of its unit. -/
structure Sells (source : Place) (slot : Nat) (before after : Holdings) (unit : RuntimeUnitState) : Prop where
  sold : (slotsAt before.state source)[slot]? = some (some unit)
  emptied : (slotsAt after.state source)[slot]? = some none
  others : SlotsKept [(source, slot)] before.state after.state
  units : (units before.state).Perm (unit :: units after.state)
  shop : after.shop = before.shop

/-- The offers are rolled again, once. -/
structure Refreshes (before after : Holdings) : Prop where
  state : after.state = before.state
  first : before.shop.refreshUsed = false
  used : after.shop.refreshUsed = true
  round : after.shop.round = before.shop.round

/-- One of two units of a type and star is removed, the other raised. Where
the client names the two, they are the ones it names. -/
structure Merges (wanted : UnitId) (sourceId targetId : Option String) (before after : Holdings)
    (target source : RosterEntry) (merged : RuntimeUnitState) : Prop extends Fuses before.state target source where
  type : target.unit.unitId = wanted
  named : ∀ s t, given sourceId = some s → given targetId = some t →
    source.unit.instanceId = s ∧ target.unit.instanceId = t
  mergedId : merged.instanceId = target.unit.instanceId
  mergedType : merged.unitId = target.unit.unitId
  mergedStar : merged.star = target.unit.star + 1
  raised : (slotsAt after.state target.source)[target.slot]? = some (some merged)
  removed : (slotsAt after.state source.source)[source.slot]? = some none
  others : SlotsKept [(target.source, target.slot), (source.source, source.slot)] before.state after.state
  units : ∃ rest, (units before.state).Perm ([target.unit, source.unit] ++ rest) ∧
    (units after.state).Perm ([merged] ++ rest)
  shop : after.shop = before.shop

/-- What a shop action does, on a roster whose ids, and others, are `taken`. -/
def Trades (taken : String → Prop) (before after : Holdings) : ShopAction → Prop
  | .buy index => ∃ offer unit slot, Buys taken index before after offer unit slot
  | .sell source slot => ∃ unit, Sells source slot before after unit
  | .refresh => Refreshes before after
  | .fuse unitId sourceId targetId => ∃ target source merged,
      Merges unitId sourceId targetId before after target source merged

section
variable {p p' : RuntimePlayerState} {shop : StoredShop} {after : Holdings} {taken : String → Prop}
  {source target : Place} {slot : Nat} {u : RuntimeUnitState}

theorem SlotsKept.refl (changed : List (Place × Nat)) (p : RuntimePlayerState) : SlotsKept changed p p :=
  fun _ _ _ => rfl

theorem setSlot_kept (source : Place) (slot : Nat) (x : Option RuntimeUnitState) :
    SlotsKept [(source, slot)] p (setSlot p source slot x) := by
  intro place i hother
  refine getElem?_setSlot x ?_
  by_contra hsame
  simp only [not_or, ne_eq, not_not] at hsame
  exact hother (by simp [hsame])

theorem setSlot_setSlot_kept (source target : Place) (i j : Nat) (x y : Option RuntimeUnitState) :
    SlotsKept [(source, i), (target, j)] p (setSlot (setSlot p source i x) target j y) := by
  intro place k hother
  rw [setSlot_kept target j y place k fun h => hother (by simp_all),
    setSlot_kept source i x place k fun h => hother (by simp_all)]

theorem getElem?_setSlot_self (x : Option RuntimeUnitState) (h : (slotsAt p source)[slot]? ≠ none) :
    (slotsAt (setSlot p source slot x) source)[slot]? = some x := by
  rw [slotsAt_setSlot, List.getElem?_set_self (by simpa using h)]

/-! ## Placing -/

theorem placeUnit_spec (hids : ((units p).map (·.instanceId)).Nodup) {id : String}
    (hplace : placeUnit p id target slot = .ok p') : ∃ entry, Moves id target slot p p' entry := by
  obtain ⟨entry, hmem, hid, ⟨⟨rfl, rfl⟩, rfl⟩ | ⟨hne, hfree, rfl⟩⟩ := placeUnit_moves hids hplace
  · exact ⟨entry, hmem, hid, fun h => absurd rfl h, mem_rosterEntries hmem, fun h => absurd rfl h, .refl _ _, .refl _⟩
  have hget := mem_rosterEntries hmem
  have hkept := (getElem?_setSlot (p := p) none hne).trans hfree
  refine ⟨entry, hmem, hid, fun _ => hfree, getElem?_setSlot_self _ (by simp [hkept]), fun _ => ?_,
    setSlot_setSlot_kept _ _ _ _ _ _, setSlot_units hget hne hfree⟩
  rw [getElem?_setSlot _ (hne.imp Ne.symm Ne.symm)]
  exact slot_free hget

/-! ## The shop -/

theorem buyOffer_spec {index : Nat} {offer : ShopOffer} {id : String}
    (hoffer : offerToBuy ⟨p, shop⟩ index = .ok offer) (hbuy : buyOffer ⟨p, shop⟩ index offer id = .ok after)
    (hfresh : ¬ taken id) : Trades taken ⟨p, shop⟩ after (.buy index) := by
  have hoffered : shop.offers[index]? = some (some offer) := by
    unfold offerToBuy at hoffer
    split at hoffer
    · cases hoffer
    next hjoin =>
    split at hoffer
    · cases hoffer
    · cases hoffer
      exact Option.join_eq_some_iff.1 hjoin
  unfold buyOffer at hbuy
  split at hbuy
  · cases hbuy
  next slot hslot =>
  cases hbuy
  obtain ⟨hlt, hnone, -⟩ := List.findIdx?_eq_some_iff_getElem.1 hslot
  have hfree : (slotsAt p .bench)[slot]? = some none :=
    (List.getElem?_eq_getElem hlt).trans (congrArg some (Option.isNone_iff_eq_none.1 hnone))
  have hself := getElem?_setSlot_self (some (newUnit offer.unitId (UNIT_COST offer.unitId) id))
    (by simp [hfree] : (slotsAt p .bench)[slot]? ≠ none)
  exact ⟨offer, _, slot, hoffered, rfl, rfl, rfl, hfresh, hfree, hself,
    setSlot_kept (p := p) .bench slot _, units_put hfree⟩

theorem sellUnit_spec (hsell : sellUnit ⟨p, shop⟩ source slot = .ok after) :
    Trades taken ⟨p, shop⟩ after (.sell source slot) := by
  unfold sellUnit at hsell
  split at hsell
  · cases hsell
  · cases hsell
  next unit hget =>
  cases hsell
  have hkept := setSlot_kept (p := p) source slot none
  have hunits := (units_take hget).symm
  refine ⟨unit, hget, ?_, ?_, ?_, rfl⟩
  · cases source <;> exact slot_free hget
  · cases source <;> exact hkept
  · cases source <;> exact hunits

theorem refreshOffers_spec {digests : Digests} {seed userId : String} {round : Nat}
    (hrefresh : refreshOffers digests seed round userId ⟨p, shop⟩ = .ok after) :
    Trades taken ⟨p, shop⟩ after .refresh := by
  unfold refreshOffers at hrefresh
  split at hrefresh
  · cases hrefresh
  next hfirst =>
  cases hrefresh
  exact ⟨rfl, by simpa using hfirst, rfl, rfl⟩

theorem draggedPair_named {unitId : UnitId} {sourceId targetId : String} {target source : RosterEntry}
    (h : draggedPair p unitId sourceId targetId = .ok (target, source)) :
    target.unit.unitId = unitId ∧ source.unit.instanceId = sourceId ∧ target.unit.instanceId = targetId := by
  unfold draggedPair at h
  split at h
  · cases h
  split at h
  · next hsource htarget =>
    split at h
    · cases h
    next hcond =>
    cases h
    simp only [Bool.or_eq_true, bne_iff_ne, ne_eq, not_or, not_not] at hcond
    exact ⟨hcond.1.1.2, (findRosterUnit_mem hsource).2, (findRosterUnit_mem htarget).2⟩
  · cases h

theorem compatiblePair_type {unitId : UnitId} {target source : RosterEntry}
    (h : compatiblePair p unitId = .ok (target, source)) : target.unit.unitId = unitId := by
  unfold compatiblePair at h
  dsimp only at h
  split at h
  · cases h
  next pair hpair =>
  split at h
  · cases h
  cases h
  exact (mem_fuseCandidates (firstPaired_mem hpair)).2.1

/-- The pair a fuse takes: the named one, or one of the type. -/
theorem fuseUnits_pair {unitId : UnitId} {sourceId targetId : Option String}
    (hfuse : fuseUnits ⟨p, shop⟩ unitId sourceId targetId = .ok after) : ∃ target source,
      Fuses p target source ∧ target.unit.unitId = unitId ∧
        (∀ s t, given sourceId = some s → given targetId = some t →
          source.unit.instanceId = s ∧ target.unit.instanceId = t) ∧
        after = ⟨fuseInto p target source, shop⟩ := by
  unfold fuseUnits at hfuse
  by_cases hid : (sourceId.isNone != targetId.isNone) = true
  · rw [if_pos hid] at hfuse
    cases hfuse
  rw [if_neg hid] at hfuse
  split at hfuse
  · next s t hs ht =>
    cases hd : draggedPair p unitId s t with
    | error r => rw [hd] at hfuse; cases hfuse
    | ok pair =>
      rw [hd] at hfuse
      cases hfuse
      obtain ⟨htype, hsource, htarget⟩ := draggedPair_named hd
      refine ⟨pair.1, pair.2, draggedPair_fuses hd, htype, fun s' t' hs' ht' => ?_, rfl⟩
      rw [hs] at hs'
      rw [ht] at ht'
      exact ⟨hsource.trans (Option.some.inj hs'), htarget.trans (Option.some.inj ht')⟩
  · next hnot =>
    cases hd : compatiblePair p unitId with
    | error r => rw [hd] at hfuse; cases hfuse
    | ok pair =>
      rw [hd] at hfuse
      cases hfuse
      exact ⟨pair.1, pair.2, compatiblePair_fuses hd, compatiblePair_type hd,
        fun s t hs ht => absurd ht (hnot s t hs), rfl⟩

theorem fuseUnits_spec {unitId : UnitId} {sourceId targetId : Option String}
    (hfuse : fuseUnits ⟨p, shop⟩ unitId sourceId targetId = .ok after) :
    Trades taken ⟨p, shop⟩ after (.fuse unitId sourceId targetId) := by
  obtain ⟨target, source, hf, htype, hnamed, rfl⟩ := fuseUnits_pair hfuse
  have htarget := mem_rosterEntries hf.targetMem
  have hsource := mem_rosterEntries hf.sourceMem
  have hplace := rosterEntries_inj hf.targetMem hf.sourceMem hf.ne
  have hleft := (getElem?_setSlot (some (mergeUnits target.unit source.unit)) hplace).trans hsource
  refine ⟨target, source, mergeUnits target.unit source.unit, hf, htype, hnamed, rfl, rfl, rfl, ?_,
    slot_free hleft, setSlot_setSlot_kept _ _ _ _ _ _, fuseInto_units hf, rfl⟩
  refine (getElem?_setSlot none (hplace.imp Ne.symm Ne.symm)).trans ?_
  exact getElem?_setSlot_self _ (by simp [htarget])

end

end AutoChess.Shop
