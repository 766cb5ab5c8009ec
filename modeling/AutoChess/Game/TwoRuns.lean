/-
Two battles side by side. Given a relation between boards that the actions
of one battle and the renamed actions of the other keep (`Simulates`), their
turns match one by one up to the first action that is not `fine`, where the
two battles may part.
-/
import AutoChess.Game.Health

namespace AutoChess.Game

section
variable (localeCompare : String → String → Int) (f : UnitInstance → UnitInstance)
  (g : EventKind → EventKind) (R : BattleSim → BattleSim → Prop) (fine : UnitInstance → BattleSim → Prop)

/-- What the loops of `runBattle` need of two related battles: `f` renames
the units of one to those of the other, and `g` the events. -/
structure Simulates (initSide initSide' : Side) : Prop where
  alive : ∀ u, (f u).alive = u.alive
  find : ∀ {sim sim'}, R sim sim' → ∀ id, sim'.find id = (sim.find id).map f
  acting : ∀ {sim sim'}, R sim sim' → ∀ tick,
    (acting localeCompare initSide' tick sim').map (·.instanceId) =
      (acting localeCompare initSide tick sim).map (·.instanceId)
  act : ∀ {sim sim' unit}, R sim sim' → sim.find unit.instanceId = some unit → unit.alive = true →
    fine unit sim → ∀ cycle tick,
      R (unitAct localeCompare unit sim cycle tick).1 (unitAct localeCompare (f unit) sim' cycle tick).1 ∧
      (unitAct localeCompare (f unit) sim' cycle tick).2 =
        (unitAct localeCompare unit sim cycle tick).2.map g
  wiped : ∀ {sim sim'}, R sim sim' →
    (!standing sim' .p1 || !standing sim' .p2) = (!standing sim .p1 || !standing sim .p2)
  verdict : ∀ {sim sim'}, R sim sim' → (!standing sim .p1 || !standing sim .p2) = true → ∀ cycle,
    .battleEnd cycle (winnerOf (standing sim' .p1) (standing sim' .p2)) =
      g (.battleEnd cycle (winnerOf (standing sim .p1) (standing sim .p2)))
  cycleEnd : ∀ cycle, g (.cycleEnd cycle) = .cycleEnd cycle
  draw : ∀ cycle, g (.battleEnd cycle none) = .battleEnd cycle none

/-- The turn's action, if it is one, is fine. -/
def Turn.Fine (t : Turn) : Prop := ∀ unit, t.unit = some unit → fine unit t.before

/-- Two turns that match. -/
structure Matches (t t' : Turn) : Prop where
  fine : t.Fine fine
  unit : t'.unit = t.unit.map f
  kinds : t'.kinds = t.kinds.map g
  after : R t.after t'.after

/-- The turns match until an action that is not fine. -/
inductive Tracks : List Turn → List Turn → Prop where
  | nil : Tracks [] []
  | step {t t' : Turn} {rest rest' : List Turn} (hturn : Matches f g R fine t t')
      (hrest : Tracks rest rest') : Tracks (t :: rest) (t' :: rest')
  | stop {unit : UnitInstance} {sim sim' : BattleSim} {rest rest' : List Turn} (cycle tick : Nat)
      (hR : R sim sim') (hfind : sim.find unit.instanceId = some unit) (hbad : ¬ fine unit sim) :
      Tracks (actTurn localeCompare unit sim cycle tick :: rest)
        (actTurn localeCompare (f unit) sim' cycle tick :: rest')

end

section
variable {localeCompare : String → String → Int} {f : UnitInstance → UnitInstance}
  {g : EventKind → EventKind} {R : BattleSim → BattleSim → Prop} {fine : UnitInstance → BattleSim → Prop}

theorem Tracks.append {a a' b b' : List Turn} (ha : Tracks localeCompare f g R fine a a')
    (hb : (∀ t ∈ a, t.Fine fine) → Tracks localeCompare f g R fine b b') :
    Tracks localeCompare f g R fine (a ++ b) (a' ++ b') := by
  induction ha with
  | nil => exact hb (by simp)
  | step hturn _ ih =>
    exact .step hturn (ih fun hrest => hb (List.forall_mem_cons.2 ⟨hturn.fine, hrest⟩))
  | stop cycle tick hR hfind hbad => exact .stop cycle tick hR hfind hbad

/-- Turns that are all fine match to the end. -/
theorem Tracks.all {ts ts' : List Turn} (h : Tracks localeCompare f g R fine ts ts')
    (hfine : ∀ t ∈ ts, t.Fine fine) : List.Forall₂ (Matches f g R fine) ts ts' := by
  induction h with
  | nil => exact .nil
  | step hturn _ ih => exact .cons hturn (ih (List.forall_mem_cons.1 hfine).2)
  | stop cycle tick _ _ hbad => exact absurd ((List.forall_mem_cons.1 hfine).1 _ rfl) hbad

/-- The events of matching turns. -/
theorem matches_log {ts ts' : List Turn} (h : List.Forall₂ (Matches f g R fine) ts ts') :
    List.Forall₂ (fun e e' : CombatEvent => e'.kind = g e.kind ∧ ∃ sim sim', R sim sim' ∧
        e.unitStates = snapshotAllUnits sim ∧ e'.unitStates = snapshotAllUnits sim')
      (ts.flatMap (·.log)) (ts'.flatMap (·.log)) := by
  induction h with
  | nil => exact .nil
  | cons hturn _ ih =>
    rw [List.flatMap_cons, List.flatMap_cons]
    refine List.rel_append ?_ ih
    rw [Turn.log, Turn.log, hturn.kinds, List.map_map, List.forall₂_map_left_iff,
      List.forall₂_map_right_iff, List.forall₂_same]
    exact fun kind _ => ⟨rfl, _, _, hturn.after, rfl, rfl⟩

/-! ## The loops -/

section
variable {initSide initSide' : Side} (h : Simulates localeCompare f g R fine initSide initSide')
include h

theorem actTurns_tracks (cycle tick : Nat) : ∀ (ids : List String) {sim sim' : BattleSim}, R sim sim' →
    Tracks localeCompare f g R fine (actTurns localeCompare cycle tick ids sim)
        (actTurns localeCompare cycle tick ids sim') ∧
      ((∀ t ∈ actTurns localeCompare cycle tick ids sim, t.Fine fine) →
        R (actAll localeCompare cycle tick ids sim).1 (actAll localeCompare cycle tick ids sim').1)
  | [], _, _, hR => ⟨.nil, fun _ => hR⟩
  | id :: ids, sim, sim', hR => by
    have hfind' := h.find hR id
    cases hfind : sim.find id with
    | none =>
      rw [hfind] at hfind'
      simp only [actTurns, actAll, hfind, hfind', Option.map_none]
      exact actTurns_tracks cycle tick ids hR
    | some unit =>
      rw [hfind] at hfind'
      by_cases halive : unit.alive = true
      · have halive' : (f unit).alive = true := (h.alive unit).trans halive
        simp only [actTurns, actAll, hfind, hfind', Option.map_some, if_pos halive, if_pos halive']
        obtain rfl := find_id hfind
        by_cases hfine : fine unit sim
        · obtain ⟨hact, hkinds⟩ := h.act hR hfind halive hfine cycle tick
          obtain ⟨hrest, hend⟩ := actTurns_tracks cycle tick ids hact
          refine ⟨.step ⟨?_, rfl, hkinds, hact⟩ hrest, fun hall => hend (List.forall_mem_cons.1 hall).2⟩
          rintro u ⟨⟩
          exact hfine
        · exact ⟨.stop cycle tick hR hfind hfine,
            fun hall => absurd ((List.forall_mem_cons.1 hall).1 _ rfl) hfine⟩
      · have halive' : ¬ (f unit).alive = true := fun ha => halive ((h.alive unit).symm.trans ha)
        simp only [actTurns, actAll, hfind, hfind', Option.map_some, if_neg halive, if_neg halive']
        exact actTurns_tracks cycle tick ids hR

theorem tickTurns_tracks (cycle : Nat) : ∀ (ticks : List Nat) {sim sim' : BattleSim}, R sim sim' →
    Tracks localeCompare f g R fine (tickTurns localeCompare initSide cycle ticks sim)
        (tickTurns localeCompare initSide' cycle ticks sim') ∧
      ((∀ t ∈ tickTurns localeCompare initSide cycle ticks sim, t.Fine fine) →
        R (runTicks localeCompare initSide cycle ticks sim).1
          (runTicks localeCompare initSide' cycle ticks sim').1)
  | [], _, _, hR => ⟨.nil, fun _ => hR⟩
  | tick :: ticks, sim, sim', hR => by
    unfold tickTurns runTicks
    rw [Simulates.acting h hR tick]
    obtain ⟨hnow, hmid⟩ :=
      actTurns_tracks h cycle tick ((acting localeCompare initSide tick sim).map (·.instanceId)) hR
    refine ⟨hnow.append fun hfine => (tickTurns_tracks cycle ticks (hmid hfine)).1, fun hall => ?_⟩
    have hfirst := hmid fun t ht => hall t (List.mem_append_left _ ht)
    exact (tickTurns_tracks cycle ticks hfirst).2 fun t ht => hall t (List.mem_append_right _ ht)

omit h in
theorem closeTurn_matches {cycle : Nat} {kind : EventKind} {sim sim' : BattleSim} (hR : R sim sim')
    {kind' : EventKind} (hkind : kind' = g kind) :
    Matches f g R fine (closeTurn cycle kind sim) (closeTurn cycle kind' sim') := by
  refine ⟨by simp [Turn.Fine, closeTurn], rfl, ?_, hR⟩
  rw [hkind]
  rfl

/-- **Battles that start related run in step** until an action that is not
fine. By induction on the cycles still to come. -/
theorem cycleTurns_tracks : ∀ (cycles : List Nat) {sim sim' : BattleSim}, R sim sim' →
    Tracks localeCompare f g R fine (cycleTurns localeCompare initSide cycles sim)
      (cycleTurns localeCompare initSide' cycles sim')
  | [], _, _, hR => .step (closeTurn_matches hR (h.draw _).symm) .nil
  | cycle :: cycles, sim, sim', hR => by
    unfold cycleTurns
    generalize List.range' 1 TICKS_PER_CYCLE = ticks
    obtain ⟨hticks, hplayed⟩ := tickTurns_tracks h cycle ticks hR
    refine hticks.append fun hfine => ?_
    have hend := hplayed hfine
    refine .step (closeTurn_matches hend (h.cycleEnd cycle).symm) ?_
    rw [h.wiped hend]
    split
    · next hwiped => exact .step (closeTurn_matches hend (h.verdict hend hwiped cycle)) .nil
    · exact cycleTurns_tracks cycles hend

end

end

end AutoChess.Game
