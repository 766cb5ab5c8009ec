/-
What the combat player draws: the events of a batch as the mobile client
parses them, the events `loadBatch` keeps, and `deriveUnitStates`, the state
of each unit on the board at a playhead.

A loop `for (var i = 0; i <= last; i++)` reads the events up to `last` with
their indices, so `landed` below counts the events whose outcome is on the
board, where the code keeps the last of them (`landedLimit`). A `Map` keeps its
keys in the order of their first insertion, as an `Assoc` does.
-/
import AutoChess.Client.Models
import AutoChess.Game.Turns
import AutoChess.Lib.Assoc

namespace AutoChess.Client.Battle

open AutoChess.Game (Side UnitId)

/-! ## Events -/

structure UnitSnapshot where
  instanceId : String
  unitId : UnitId
  star : Nat
  hp : Int
  maxHp : Int
  slot : Nat
  side : Side
  alive : Bool
  deriving DecidableEq, Repr

/-- A unit an event names: the fields `target`, `targetSide`, `targetSlot`,
`targetUnitId` and `targetStar`, and those of the other names. Only the id is
always there. -/
structure Named where
  instanceId : String
  side : Option Side
  slot : Option Nat
  unitId : Option UnitId
  star : Option Nat
  deriving DecidableEq, Repr

inductive EventKind where
  | attack (cycle tick : Nat) (attacker target : Named) (damage targetHpAfter : Int)
  | death (cycle tick : Nat) (unit : Named)
  | revive (cycle tick : Nat) (unit : Named) (hpAfter : Int)
  | heal (cycle tick : Nat) (target healer : Named) (amount targetHpAfter : Int)
  | lifesteal (cycle tick : Nat) (unit : Named) (amount hpAfter : Int)
  | pierce (cycle tick : Nat) (attacker target : Named) (damage : Int)
  | slow (cycle tick : Nat) (target healer : Named)
  | cycleEnd (cycle : Nat)
  | battleEnd (cycle : Nat) (winner : Option Side)
  | unknown (type : String) (cycle tick : Nat)
  deriving DecidableEq, Repr

structure CombatEvent where
  kind : EventKind
  unitStates : Option (List UnitSnapshot)
  deriving DecidableEq, Repr

structure CombatUnit where
  instanceId : String
  unitId : UnitId
  star : Nat
  hp : Int
  maxHp : Int
  deriving DecidableEq, Repr

structure CombatBoardState where
  p1 : List (Option CombatUnit)
  p2 : List (Option CombatUnit)
  deriving DecidableEq, Repr

/-- The events `loadBatch` keeps. -/
def loadBatch (events : List CombatEvent) : List CombatEvent :=
  events.filter fun e =>
    match e.kind with
    | .cycleEnd _ | .battleEnd _ _ | .death _ _ _ => false
    | _ => true

/-! ## Units on the board -/

structure UnitKey where
  side : Side
  slot : Nat
  deriving DecidableEq, Repr

structure UnitDebuff where
  type : String
  color : Nat
  deriving DecidableEq, Repr

def slowDebuff : UnitDebuff := ⟨"slow", 0xFF42A5F5⟩

inductive HitEffectKind where
  | slash | tankImpact | projectile
  deriving DecidableEq, Repr

structure UnitVisualState where
  unitId : UnitId
  star : Nat
  hp : Int
  maxHp : Int
  alive : Bool
  floatingDamage : Option Int := none
  floatingIsHeal : Bool := false
  healEventIndex : Option Nat := none
  isHealerHeal : Bool := false
  lastDamageEventIndex : Option Nat := none
  hitEffectKind : Option HitEffectKind := none
  recoilEventIndex : Option Nat := none
  recoilDx : Int := 0
  recoilDy : Int := 0
  isMeleeAttacking : Bool := false
  debuff : Option UnitDebuff := none
  deriving DecidableEq, Repr

abbrev Units := Assoc UnitKey UnitVisualState

/-- The board slot of a named unit, if the event has it. -/
def Named.key (n : Named) : Option UnitKey :=
  match n.side, n.slot with
  | some side, some slot => some ⟨side, slot⟩
  | _, _ => none

def UnitSnapshot.visual (snap : UnitSnapshot) : UnitVisualState :=
  { unitId := snap.unitId, star := snap.star, hp := snap.hp, maxHp := snap.maxHp, alive := snap.alive }

def addSnapshots (snapshots : List UnitSnapshot) (map : Units) : Units :=
  snapshots.foldl (fun map snap => map.set ⟨snap.side, snap.slot⟩ snap.visual) map

/-- The units of a board, under their slots. -/
def addBoard (side : Side) (board : List (Option UnitVisualState)) (map : Units) : Units :=
  board.zipIdx.foldl
    (fun map (unit, slot) =>
      match unit with
      | some state => map.set ⟨side, slot⟩ state
      | none => map)
    map

def CombatUnit.visual (unit : CombatUnit) : UnitVisualState :=
  { unitId := unit.unitId, star := unit.star, hp := unit.hp, maxHp := unit.maxHp, alive := decide (0 < unit.hp) }

def rosterVisual (unit : Unit) : UnitVisualState :=
  { unitId := unit.unitId, star := unit.star, hp := unit.hp, maxHp := unit.maxHp, alive := decide (0 < unit.hp) }

/-- `_addCombatBoard`. -/
def addCombatBoard (map : Units) (board : List (Option CombatUnit)) (side : Side) : Units :=
  addBoard side (board.map (·.map CombatUnit.visual)) map

/-- `_addRosterBoard`. -/
def addRosterBoard (map : Units) (board : List (Option Unit)) (side : Side) : Units :=
  addBoard side (board.map (·.map rosterVisual)) map

/-- The board before any trigger: the latest snapshot up to `shown` events, or
the board of the batch, or the rosters the match state has. -/
def boardAt (events : List CombatEvent) (shown : Nat) (playerBoard opponentBoard : List (Option Unit)) (mySide : Side)
    (initialBoard : Option CombatBoardState) : Units :=
  match (events.take shown).reverse.findSome? fun e => e.unitStates.filter (! ·.isEmpty) with
  | some snapshots => addSnapshots snapshots []
  | none =>
    match initialBoard with
    | some board => addCombatBoard (addCombatBoard [] board.p1 .p1) board.p2 .p2
    | none =>
      addRosterBoard (addRosterBoard [] playerBoard mySide) opponentBoard (Game.enemySideOf mySide)

/-! ## Slows -/

structure SlowEntry where
  key : UnitKey
  index : Nat
  deriving DecidableEq, Repr

/-- `slowStart.putIfAbsent(by, () => []).add(entry)`, for a slow with a
slot. -/
def addSlow (slowStart : Assoc String (List SlowEntry)) : CombatEvent × Nat → Assoc String (List SlowEntry)
  | (⟨.slow _ _ target healer, _⟩, i) =>
    match target.key with
    | some key => slowStart.set healer.instanceId ((slowStart.get healer.instanceId).getD [] ++ [⟨key, i⟩])
    | none => slowStart
  | _ => slowStart

def slowStart (events : List CombatEvent) : Assoc String (List SlowEntry) := events.zipIdx.foldl addSlow []

/-- The event is an attack of the unit. -/
def isAttackOf (unit : String) (e : CombatEvent) : Bool :=
  match e.kind with
  | .attack _ _ attacker _ _ _ => attacker.instanceId = unit
  | _ => false

/-- The first attack of the healer after an event. -/
def nextAttack (events : List CombatEvent) (healer : String) (index : Nat) : Option Nat :=
  (events.zipIdx.drop (index + 1)).findSome? fun (e, i) => if isAttackOf healer e then some i else none

/-- `debuffExpiry[slow.key] = i`, if the healer attacks again. -/
def expire (events : List CombatEvent) (healer : String) (expiry : Assoc UnitKey Nat) (slow : SlowEntry) :
    Assoc UnitKey Nat :=
  match nextAttack events healer slow.index with
  | some i => expiry.set slow.key i
  | none => expiry

def debuffExpiry (events : List CombatEvent) : Assoc UnitKey Nat :=
  (slowStart events).foldl (fun expiry entry => entry.2.foldl (expire events entry.1) expiry) []

/-- The event slows the unit at the slot. -/
def isSlowOn (key : UnitKey) (e : CombatEvent) : Bool :=
  match e.kind with
  | .slow _ _ target _ => target.side = some key.side ∧ target.slot = some key.slot
  | _ => false

/-- The debuff of a unit: both scans stop at its first slow. -/
def debuffOf (events : List CombatEvent) (limit : Nat) (key : UnitKey) : Option UnitDebuff :=
  match (debuffExpiry events).get key with
  | some expiryIdx =>
    match (events.take (limit + 1)).findIdx? (isSlowOn key) with
    | some i => if i < expiryIdx ∧ limit < expiryIdx then some slowDebuff else none
    | none => none
  | none => if (events.take (limit + 1)).any (isSlowOn key) then some slowDebuff else none

/-! ## Triggers -/

/-- The last event that has a value for each slot. -/
def lastOf {α : Type} (events : List CombatEvent) (f : CombatEvent → Option (UnitKey × α)) : Assoc UnitKey (Nat × α) :=
  events.zipIdx.foldl
    (fun map (e, i) =>
      match f e with
      | some (key, a) => map.set key (i, a)
      | none => map)
    []

/-- Whom an event heals, and whether a healer does. -/
def healed (e : CombatEvent) : Option (UnitKey × Bool) :=
  match e.kind with
  | .heal _ _ target _ _ _ => target.key.map (·, true)
  | .lifesteal _ _ unit _ _ => unit.key.map (·, false)
  | _ => none

def healerHealed (e : CombatEvent) : Option (UnitKey × Bool) := (healed e).filter (·.2)

def hitEffect : Option UnitId → Option HitEffectKind
  | some .fighter => some .slash
  | some .tank => some .tankImpact
  | some .ranger | some .healer => some .projectile
  | none => none

/-- Whom an event damages, and how it looks. -/
def damaged (e : CombatEvent) : Option (UnitKey × Option HitEffectKind) :=
  match e.kind with
  | .attack _ _ attacker target _ _ => target.key.map (·, hitEffect attacker.unitId)
  | .pierce _ _ _ target _ => target.key.map (·, some .projectile)
  | _ => none

/-- An attack of a known look: an unknown one keeps the look before it. -/
def hitEffectOf (e : CombatEvent) : Option (UnitKey × HitEffectKind) :=
  match damaged e with
  | some (key, some kind) => some (key, kind)
  | _ => none

/-- The step of the recoil from column to column, one at most. -/
def columnStep (attackerSlot targetSlot : Nat) : Int :=
  let dCol : Int := (targetSlot % 3 : Nat) - (attackerSlot % 3 : Nat)
  if 1 < dCol.natAbs then if 0 < dCol then 1 else -1 else dCol

/-- The recoil of a melee attacker: toward the target's column, up for the
viewer's own units and down for the opponent's. -/
def recoiling (mySide : Side) (e : CombatEvent) : Option (UnitKey × Int × Int) :=
  match e.kind with
  | .attack _ _ attacker target _ _ =>
    match attacker.side, attacker.slot, attacker.unitId, target.slot with
    | some side, some slot, some unitId, some targetSlot =>
      if unitId = .fighter ∨ unitId = .tank then
        some (⟨side, slot⟩, columnStep slot targetSlot, if side = mySide then -1 else 1)
      else none
    | _, _, _, _ => none
  | _ => none

/-- `_setFloating`. -/
def setFloating (target : Named) (amount : Int) (isHeal : Bool) (map : Units) : Units :=
  match target.key with
  | none => map
  | some key =>
    match map.get key with
    | none => map
    | some existing =>
      map.set key
        { unitId := existing.unitId, star := existing.star, hp := existing.hp, maxHp := existing.maxHp,
          alive := existing.alive, floatingDamage := some amount, floatingIsHeal := isHeal }

/-- The number that floats over the unit the current event hits or heals. -/
def float (e : CombatEvent) (map : Units) : Units :=
  match e.kind with
  | .attack _ _ _ target damage _ => setFloating target damage false map
  | .heal _ _ target _ amount _ => setFloating target amount true map
  | .lifesteal _ _ unit amount _ => setFloating unit amount true map
  | .pierce _ _ _ target damage => setFloating target damage false map
  | _ => map

/-! ## The states -/

/-- What `deriveUnitStates` is given besides the events and the playhead. -/
structure View where
  playerBoard : List (Option Unit)
  opponentBoard : List (Option Unit)
  mySide : Side
  initialBoard : Option CombatBoardState
  currentEventLanded : Bool

/-- The state of a unit with its triggers and its debuff. -/
def enrich (events : List CombatEvent) (view : View) (limit landed : Nat) (key : UnitKey) (existing : UnitVisualState) :
    UnitVisualState :=
  let shown := events.take landed
  let healEventIndex := ((lastOf shown healed).get key).map (·.1)
  let recoil := (lastOf (events.take (limit + 1)) (recoiling view.mySide)).get key
  { existing with
    healEventIndex := healEventIndex
    isHealerHeal := healEventIndex.isSome ∧ ((lastOf shown healerHealed).get key).map (·.1) = healEventIndex
    lastDamageEventIndex := ((lastOf shown damaged).get key).map (·.1)
    hitEffectKind := ((lastOf shown hitEffectOf).get key).map (·.2)
    recoilEventIndex := recoil.map (·.1)
    recoilDx := (recoil.map (·.2.1)).getD 0
    recoilDy := (recoil.map (·.2.2)).getD 0
    isMeleeAttacking := recoil.map (·.1) = some limit
    debuff := debuffOf events limit key }

def deriveUnitStates (events : List CombatEvent) (playheadIndex : Nat) (view : View) : Units :=
  if events.isEmpty then []
  else
    let limit := min playheadIndex (events.length - 1)
    let landed := if view.currentEventLanded then limit + 1 else limit
    -- Where nothing has landed yet, the snapshot of the event itself is taken.
    let map := boardAt events (if landed = 0 then limit + 1 else landed) view.playerBoard view.opponentBoard view.mySide
      view.initialBoard
    let map :=
      match events[limit]? with
      | some current => if view.currentEventLanded then float current map else map
      | none => map
    map.map fun (key, existing) => (key, enrich events view limit landed key existing)

/-! ## From the server's events -/

/-- `CombatEvent.fromJson` on the fields the server sends of a unit. -/
def named (actor : Game.Actor) : Named :=
  ⟨actor.instanceId, some actor.side, some actor.slot, some actor.unitId, some actor.star⟩

def snapshot (s : Game.UnitSnapshot) : UnitSnapshot :=
  ⟨s.instanceId, s.unitId, s.star, s.hp, s.maxHp, s.slot, s.side, s.alive⟩

/-- `CombatEvent.fromJson`, on an event of the server. -/
def received (e : Game.CombatEvent) : CombatEvent where
  kind :=
    match e.kind with
    | .attack cycle tick attacker target damage hp => .attack cycle tick (named attacker) (named target) damage hp
    | .death cycle tick unit => .death cycle tick (named unit)
    | .revive cycle tick unit hp => .revive cycle tick (named unit) hp
    | .heal cycle tick target healer amount hp => .heal cycle tick (named target) (named healer) amount hp
    | .lifesteal cycle tick unit amount hp => .lifesteal cycle tick (named unit) amount hp
    | .pierce cycle tick attacker target damage => .pierce cycle tick (named attacker) (named target) damage
    | .slow cycle tick target healer => .slow cycle tick (named target) (named healer)
    | .cycleEnd cycle => .cycleEnd cycle
    | .battleEnd cycle winner => .battleEnd cycle winner
  unitStates := some (e.unitStates.map snapshot)

end AutoChess.Client.Battle
