/-
The log of a battle, turn by turn. A turn is the action of one unit, or an
event that closes a cycle or the battle, together with the boards it finds
and leaves; `turns` runs the loops of `runBattle` and keeps them apart.

`Played` is what the loops amount to: a chain of actions by alive units and
closing events. A property of whole battles is an induction over it, with
one lemma about `unitAct`.
-/
import AutoChess.Game.BattleEnd

namespace AutoChess.Game

structure Turn where
  cycle : Nat
  tick : Nat
  /-- The unit that acts; `none` when a cycle or the battle is closed. -/
  unit : Option UnitInstance
  before : BattleSim
  kinds : List EventKind
  after : BattleSim

/-- The turn's part of the log. -/
def Turn.log (t : Turn) : List CombatEvent := t.kinds.map (attachSnapshot · t.after)

variable (localeCompare : String → String → Int)

def actTurn (unit : UnitInstance) (sim : BattleSim) (cycle tick : Nat) : Turn :=
  let act := unitAct localeCompare unit sim cycle tick
  { cycle := cycle, tick := tick, unit := some unit, before := sim, kinds := act.2, after := act.1 }

def closeTurn (cycle : Nat) (kind : EventKind) (sim : BattleSim) : Turn :=
  { cycle := cycle, tick := TICKS_PER_CYCLE, unit := none, before := sim, kinds := [kind], after := sim }

/-! ## The loops -/

/-- The turns of `actAll`. -/
def actTurns (cycle tick : Nat) : List String → BattleSim → List Turn
  | [], _ => []
  | id :: rest, sim =>
    match sim.find id with
    | none => actTurns cycle tick rest sim
    | some unit =>
      if unit.alive then
        actTurn localeCompare unit sim cycle tick ::
          actTurns cycle tick rest (unitAct localeCompare unit sim cycle tick).1
      else actTurns cycle tick rest sim

/-- The turns of `runTicks`. -/
def tickTurns (initSide : Side) (cycle : Nat) : List Nat → BattleSim → List Turn
  | [], _ => []
  | tick :: ticks, sim =>
    let ids := (acting localeCompare initSide tick sim).map (·.instanceId)
    actTurns localeCompare cycle tick ids sim ++
      tickTurns initSide cycle ticks (actAll localeCompare cycle tick ids sim).1

/-- The turns of `runCycles`. -/
def cycleTurns (initSide : Side) : List Nat → BattleSim → List Turn
  | [], sim => [closeTurn MAX_CYCLES (.battleEnd MAX_CYCLES none) sim]
  | cycle :: cycles, sim =>
    let ticks := List.range' 1 TICKS_PER_CYCLE
    let played := (runTicks localeCompare initSide cycle ticks sim).1
    let p1Alive := standing played .p1
    let p2Alive := standing played .p2
    tickTurns localeCompare initSide cycle ticks sim ++
      closeTurn cycle (.cycleEnd cycle) played ::
        (if !p1Alive || !p2Alive then
          [closeTurn cycle (.battleEnd cycle (winnerOf p1Alive p2Alive)) played]
        else cycleTurns initSide cycles played)

/-- The turns of `runBattle`. -/
def turns (state : BattleState) : List Turn :=
  cycleTurns localeCompare (initSideOf state) (List.range' 1 MAX_CYCLES) (cloneSim state)

theorem actAll_turns (cycle tick : Nat) : ∀ (ids : List String) (sim : BattleSim),
    (actAll localeCompare cycle tick ids sim).2 =
      (actTurns localeCompare cycle tick ids sim).flatMap Turn.log
  | [], _ => rfl
  | id :: ids, sim => by
    cases hfind : sim.find id with
    | none =>
      simp only [actAll, actTurns, hfind]
      exact actAll_turns cycle tick ids sim
    | some unit =>
      by_cases halive : unit.alive = true
      · simp only [actAll, actTurns, hfind, if_pos halive, List.flatMap_cons]
        rw [← actAll_turns]
        rfl
      · simp only [actAll, actTurns, hfind, if_neg halive]
        exact actAll_turns cycle tick ids sim

theorem runTicks_turns (initSide : Side) (cycle : Nat) : ∀ (ticks : List Nat) (sim : BattleSim),
    (runTicks localeCompare initSide cycle ticks sim).2 =
      (tickTurns localeCompare initSide cycle ticks sim).flatMap Turn.log
  | [], _ => rfl
  | tick :: ticks, sim => by
    unfold runTicks tickTurns
    rw [List.flatMap_append, ← actAll_turns, ← runTicks_turns]

theorem runCycles_turns (initSide : Side) : ∀ (cycles : List Nat) (sim : BattleSim),
    runCycles localeCompare initSide cycles sim =
      (cycleTurns localeCompare initSide cycles sim).flatMap Turn.log
  | [], _ => rfl
  | cycle :: cycles, sim => by
    unfold runCycles cycleTurns
    generalize List.range' 1 TICKS_PER_CYCLE = ticks
    rw [List.flatMap_append, ← runTicks_turns, List.flatMap_cons]
    dsimp only
    split
    · rfl
    · rw [runCycles_turns]
      rfl

/-- **The log of a battle is the logs of its turns**, one after the other. -/
theorem runBattle_turns (state : BattleState) :
    runBattle localeCompare state = (turns localeCompare state).flatMap Turn.log :=
  runCycles_turns localeCompare _ _ _

/-! ## Chains of turns -/

/-- The turns lead from one pair of boards to another: each is the action of
an alive unit on the boards before it, or closes a cycle or the battle. -/
inductive Played : BattleSim → List Turn → BattleSim → Prop where
  | nil (sim : BattleSim) : Played sim [] sim
  | act {sim last : BattleSim} {rest : List Turn} {unit : UnitInstance} (cycle tick : Nat)
      (hfind : sim.find unit.instanceId = some unit) (halive : unit.alive = true)
      (hrest : Played (unitAct localeCompare unit sim cycle tick).1 rest last) :
      Played sim (actTurn localeCompare unit sim cycle tick :: rest) last
  | close {sim last : BattleSim} {rest : List Turn} (cycle : Nat) {kind : EventKind}
      (hkind : kind.isAction = false) (hrest : Played sim rest last) :
      Played sim (closeTurn cycle kind sim :: rest) last

section
variable {localeCompare : String → String → Int}

theorem Played.append {sim mid last : BattleSim} {a b : List Turn} (ha : Played localeCompare sim a mid)
    (hb : Played localeCompare mid b last) : Played localeCompare sim (a ++ b) last := by
  induction ha with
  | nil sim => exact hb
  | act cycle tick hfind halive _ ih => exact .act cycle tick hfind halive (ih hb)
  | close cycle hkind _ ih => exact .close cycle hkind (ih hb)

theorem find_id {sim : BattleSim} {id : String} {u : UnitInstance} (h : sim.find id = some u) :
    u.instanceId = id := by
  have := List.find?_some h
  simpa using this

theorem actTurns_played (cycle tick : Nat) : ∀ (ids : List String) (sim : BattleSim),
    Played localeCompare sim (actTurns localeCompare cycle tick ids sim)
      (actAll localeCompare cycle tick ids sim).1
  | [], sim => .nil sim
  | id :: ids, sim => by
    cases hfind : sim.find id with
    | none =>
      simp only [actAll, actTurns, hfind]
      exact actTurns_played cycle tick ids sim
    | some unit =>
      by_cases halive : unit.alive = true
      · simp only [actAll, actTurns, hfind, if_pos halive]
        obtain rfl := find_id hfind
        exact .act cycle tick hfind halive (actTurns_played cycle tick ids _)
      · simp only [actAll, actTurns, hfind, if_neg halive]
        exact actTurns_played cycle tick ids sim

theorem tickTurns_played (initSide : Side) (cycle : Nat) : ∀ (ticks : List Nat) (sim : BattleSim),
    Played localeCompare sim (tickTurns localeCompare initSide cycle ticks sim)
      (runTicks localeCompare initSide cycle ticks sim).1
  | [], sim => .nil sim
  | tick :: ticks, sim => by
    unfold tickTurns runTicks
    exact (actTurns_played cycle tick _ sim).append (tickTurns_played initSide cycle ticks _)

theorem cycleTurns_played (initSide : Side) : ∀ (cycles : List Nat) (sim : BattleSim),
    ∃ last, Played localeCompare sim (cycleTurns localeCompare initSide cycles sim) last
  | [], sim => ⟨sim, .close _ rfl (.nil sim)⟩
  | cycle :: cycles, sim => by
    unfold cycleTurns
    generalize List.range' 1 TICKS_PER_CYCLE = ticks
    have hticks : Played localeCompare sim _ _ := tickTurns_played initSide cycle ticks sim
    dsimp only
    split
    · exact ⟨_, hticks.append (.close cycle rfl (.close cycle rfl (.nil _)))⟩
    · obtain ⟨last, hlast⟩ := cycleTurns_played initSide cycles
        (runTicks localeCompare initSide cycle ticks sim).1
      exact ⟨last, hticks.append (.close cycle rfl hlast)⟩

theorem turns_played (state : BattleState) :
    ∃ last, Played localeCompare (cloneSim state) (turns localeCompare state) last :=
  cycleTurns_played _ _ _

/-- **What every turn keeps, and shows, the whole battle does.** -/
theorem Played.induct {I : BattleSim → Prop} {P : Turn → Prop}
    (hact : ∀ unit sim cycle tick, I sim → sim.find unit.instanceId = some unit → unit.alive = true →
      P (actTurn localeCompare unit sim cycle tick) ∧ I (unitAct localeCompare unit sim cycle tick).1)
    (hclose : ∀ cycle kind sim, I sim → kind.isAction = false → P (closeTurn cycle kind sim))
    {sim last : BattleSim} {ts : List Turn} (h : Played localeCompare sim ts last) (hsim : I sim) :
    (∀ t ∈ ts, P t) ∧ I last := by
  induction h with
  | nil sim => exact ⟨by simp, hsim⟩
  | act cycle tick hfind halive _ ih =>
    have hturn := hact _ _ cycle tick hsim hfind halive
    have hrest := ih hturn.2
    exact ⟨List.forall_mem_cons.2 ⟨hturn.1, hrest.1⟩, hrest.2⟩
  | close cycle hkind _ ih =>
    have hrest := ih hsim
    exact ⟨List.forall_mem_cons.2 ⟨hclose cycle _ _ hsim hkind, hrest.1⟩, hrest.2⟩

/-- A relation that every action extends holds between the boards of any two
turns, in their order. -/
theorem Played.related {I : BattleSim → Prop} {r : BattleSim → BattleSim → Prop} (hrefl : ∀ sim, r sim sim)
    (htrans : ∀ sim₁ sim₂ sim₃, r sim₁ sim₂ → r sim₂ sim₃ → r sim₁ sim₃)
    (hact : ∀ unit sim cycle tick, I sim → sim.find unit.instanceId = some unit → unit.alive = true →
      I (unitAct localeCompare unit sim cycle tick).1 ∧ r sim (unitAct localeCompare unit sim cycle tick).1)
    {sim last : BattleSim} {ts : List Turn} (h : Played localeCompare sim ts last) (hsim : I sim) :
    (∀ t ∈ ts, I t.after ∧ r sim t.after) ∧ ts.Pairwise fun t t' => r t.after t'.after := by
  induction h with
  | nil sim => exact ⟨by simp, .nil⟩
  | act cycle tick hfind halive _ ih =>
    obtain ⟨hI, hr⟩ := hact _ _ cycle tick hsim hfind halive
    obtain ⟨hrest, hpairs⟩ := ih hI
    refine ⟨List.forall_mem_cons.2 ⟨⟨hI, hr⟩, fun t ht => ⟨(hrest t ht).1, ?_⟩⟩,
      .cons (fun t ht => (hrest t ht).2) hpairs⟩
    exact htrans _ _ _ hr (hrest t ht).2
  | close cycle _ _ ih =>
    obtain ⟨hrest, hpairs⟩ := ih hsim
    exact ⟨List.forall_mem_cons.2 ⟨⟨hsim, hrefl _⟩, hrest⟩, .cons (fun t ht => (hrest t ht).2) hpairs⟩

/-- A chain can be cut at any turn. -/
theorem Played.split {pre post : List Turn} {t : Turn} {sim last : BattleSim}
    (h : Played localeCompare sim (pre ++ t :: post) last) :
    Played localeCompare sim pre t.before ∧ Played localeCompare t.before [t] t.after ∧
      Played localeCompare t.after post last := by
  induction pre generalizing sim with
  | nil =>
    cases h with
    | act cycle tick hfind halive hrest => exact ⟨.nil _, .act cycle tick hfind halive (.nil _), hrest⟩
    | close cycle hkind hrest => exact ⟨.nil _, .close cycle hkind (.nil _), hrest⟩
  | cons first pre ih =>
    cases h with
    | act cycle tick hfind halive hrest =>
      obtain ⟨h₁, h₂⟩ := ih hrest
      exact ⟨.act cycle tick hfind halive h₁, h₂⟩
    | close cycle hkind hrest =>
      obtain ⟨h₁, h₂⟩ := ih hrest
      exact ⟨.close cycle hkind h₁, h₂⟩

/-- What every turn adds to the past, the whole chain does. -/
theorem Played.history {I : List Turn → BattleSim → Prop}
    (hact : ∀ past unit sim cycle tick, I past sim → sim.find unit.instanceId = some unit → unit.alive = true →
      I (past ++ [actTurn localeCompare unit sim cycle tick]) (unitAct localeCompare unit sim cycle tick).1)
    (hclose : ∀ past cycle kind sim, I past sim → kind.isAction = false → I (past ++ [closeTurn cycle kind sim]) sim)
    {sim last : BattleSim} {ts : List Turn} (h : Played localeCompare sim ts last) :
    ∀ past, I past sim → I (past ++ ts) last := by
  induction h with
  | nil sim =>
    intro past hpast
    rwa [List.append_nil]
  | act cycle tick hfind halive _ ih =>
    intro past hpast
    have hrest := ih _ (hact past _ _ cycle tick hpast hfind halive)
    rwa [List.append_assoc] at hrest
  | close cycle hkind _ ih =>
    intro past hpast
    have hrest := ih _ (hclose past cycle _ _ hpast hkind)
    rwa [List.append_assoc] at hrest

/-- The chain up to and with one of its turns. -/
theorem Played.upto {pre post : List Turn} {t : Turn} {sim last : BattleSim}
    (h : Played localeCompare sim (pre ++ t :: post) last) : Played localeCompare sim (pre ++ [t]) t.after :=
  h.split.1.append h.split.2.1

end

end AutoChess.Game
