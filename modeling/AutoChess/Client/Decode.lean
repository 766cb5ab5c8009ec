/-
The messages of a match on the wire: the objects the server publishes, field
by field, and what the mobile client makes of them.

`JSON.stringify` leaves out a field that is `undefined` and `JSON.parse` gives
back the value that was written, so an object here is the record of its fields.
A cast that throws in the client, as of a number to `String?`, is `none`. Where
the client's model has a natural number, a negative one is read as zero; the
server sends none.
-/
import AutoChess.Client.BattleVisual
import AutoChess.Runtime.Writes

namespace AutoChess.Messages

open AutoChess.Game (Side UnitId Actor)
open AutoChess.Runtime (Slots sideName MatchPhase MatchEndReason)
open AutoChess.Codec (unitText unitValue entryValue summaryValue boardSummary)
open Json

/-! ## The server's objects -/

def nat (n : Nat) : Value := .num (ofNat n)

def int (n : Int) : Value := .num (ofInt n)

def nullable {α : Type} (f : α → Value) (x : Option α) : Value := (x.map f).getD .null

/-- The fields an event has of a unit beside its id. -/
def actorFields (role : String) (actor : Actor) : Record :=
  [(role ++ "Side", .str (sideName actor.side)), (role ++ "Slot", nat actor.slot),
    (role ++ "UnitId", .str (unitText actor.unitId)), (role ++ "Star", nat actor.star)]

def snapshotFields (s : Game.UnitSnapshot) : Record :=
  [("instanceId", .str s.instanceId), ("unitId", .str (unitText s.unitId)), ("star", nat s.star),
    ("hp", int s.hp), ("maxHp", int s.maxHp), ("slot", nat s.slot), ("side", .str (sideName s.side)),
    ("alive", .bool s.alive)]

def kindFields : Game.EventKind → Record
  | .attack cycle tick attacker target damage targetHpAfter =>
    [("type", .str "attack"), ("cycle", nat cycle), ("tick", nat tick), ("attacker", .str attacker.instanceId),
      ("target", .str target.instanceId), ("damage", int damage), ("targetHpAfter", int targetHpAfter)] ++
      actorFields "attacker" attacker ++ actorFields "target" target
  | .death cycle tick unit =>
    [("type", .str "death"), ("cycle", nat cycle), ("tick", nat tick), ("unit", .str unit.instanceId)] ++
      actorFields "unit" unit
  | .revive cycle tick unit hpAfter =>
    [("type", .str "revive"), ("cycle", nat cycle), ("tick", nat tick), ("unit", .str unit.instanceId),
      ("hpAfter", int hpAfter)] ++ actorFields "unit" unit
  | .heal cycle tick target healer amount targetHpAfter =>
    [("type", .str "heal"), ("cycle", nat cycle), ("tick", nat tick), ("target", .str target.instanceId),
      ("by", .str healer.instanceId), ("amount", int amount), ("targetHpAfter", int targetHpAfter)] ++
      actorFields "target" target ++ actorFields "by" healer
  | .lifesteal cycle tick unit amount hpAfter =>
    [("type", .str "lifesteal"), ("cycle", nat cycle), ("tick", nat tick), ("unit", .str unit.instanceId),
      ("amount", int amount), ("hpAfter", int hpAfter)] ++ actorFields "unit" unit
  | .pierce cycle tick attacker target damage =>
    [("type", .str "pierce"), ("cycle", nat cycle), ("tick", nat tick), ("attacker", .str attacker.instanceId),
      ("target", .str target.instanceId), ("damage", int damage)] ++
      actorFields "attacker" attacker ++ actorFields "target" target
  | .slow cycle tick target healer =>
    [("type", .str "slow"), ("cycle", nat cycle), ("tick", nat tick), ("target", .str target.instanceId),
      ("by", .str healer.instanceId)] ++ actorFields "target" target ++ actorFields "by" healer
  | .cycleEnd cycle => [("type", .str "cycle_end"), ("cycle", nat cycle)]
  | .battleEnd cycle winner =>
    [("type", .str "battle_end"), ("cycle", nat cycle), ("winner", nullable (fun side => .str (sideName side)) winner)]

def eventFields (e : Game.CombatEvent) : Record :=
  kindFields e.kind ++ [("unitStates", .arr (e.unitStates.map fun s => .obj (snapshotFields s)))]

/-! ## Reading in the client -/

/-- `value as String?`. -/
def asString? : Option Value → Option (Option String)
  | none | some .null => some none
  | some (.str s) => some (some s)
  | some _ => none

/-- `value as num?`. -/
def asNum? : Option Value → Option (Option Number)
  | none | some .null => some none
  | some (.num x) => some (some x)
  | some _ => none

/-- `value as bool?`. -/
def asBool? : Option Value → Option (Option Bool)
  | none | some .null => some none
  | some (.bool b) => some (some b)
  | some _ => none

/-- `num.toInt()`, which throws on what is not finite. -/
def toInt : Number → Option Int
  | .finite q => some (q.num.tdiv q.den)
  | _ => none

variable (j : Record)

def string? (k : String) : Option (Option String) := asString? (Assoc.get j k)

/-- `j[k] as String? ?? ''`. -/
def string (k : String) : Option String := (string? j k).map (·.getD "")

/-- `(j[k] as num?)?.toInt()`. -/
def int? (k : String) : Option (Option Int) := do
  match ← asNum? (Assoc.get j k) with
  | some x => return some (← toInt x)
  | none => return none

/-- `(j[k] as num?)?.toInt() ?? 0`. -/
def readInt (k : String) : Option Int := (int? j k).map (·.getD 0)

def readNat (k : String) : Option Nat := (readInt j k).map Int.toNat

/-- `UnitId.fromJson`. -/
def unitIdOf : Option String → UnitId
  | some "healer" => .healer
  | some "ranger" => .ranger
  | some "tank" => .tank
  | _ => .fighter

/-- `MatchSide.fromJson`. -/
def sideOf (raw : Option String) : Side := if raw = some "p2" then .p2 else .p1

def UnitSnapshot.fromJson : Option Client.Battle.UnitSnapshot := do
  return {
    instanceId := ← string j "instanceId"
    unitId := unitIdOf (← string? j "unitId")
    star := ← readNat j "star"
    hp := ← readInt j "hp"
    maxHp := ← readInt j "maxHp"
    slot := ← readNat j "slot"
    side := sideOf (← string? j "side")
    alive := (← asBool? (Assoc.get j "alive")).getD false }

/-- `whereType<Map<String, dynamic>>()`. -/
def maps (raw : List Value) : List Record :=
  raw.filterMap fun value =>
    match value with
    | .obj fields => some fields
    | _ => none

def snapshots : Option (Option (List Client.Battle.UnitSnapshot)) :=
  match Assoc.get j "unitStates" with
  | some (.arr raw) => ((maps raw).mapM UnitSnapshot.fromJson).map some
  | _ => some none

/-- `side(k)`. -/
def side? (k : String) : Option (Option Side) := do
  let v ← string? j k
  return if v = some "p1" then some .p1 else if v = some "p2" then some .p2 else none

/-- `iOpt(k)`. -/
def intOpt (k : String) : Option (Option Int) :=
  match Assoc.get j k with
  | some (.num x) => (toInt x).map some
  | _ => some none

/-- `starOpt(k)`. -/
def starOpt (k : String) : Option (Option Nat) := do
  let v ← intOpt j k
  return (v.filter fun v => v = 0 ∨ v = 1 ∨ v = 2).map Int.toNat

/-- The unit an event names under a role. -/
def named (role : String) : Option Client.Battle.Named := do
  return {
    instanceId := ← string j role
    side := ← side? j (role ++ "Side")
    slot := (← intOpt j (role ++ "Slot")).map Int.toNat
    unitId := (← string? j (role ++ "UnitId")).map fun v => unitIdOf (some v)
    star := ← starOpt j (role ++ "Star") }

/-- `j['winner']`. -/
def winnerOf : Option Value → Option Side
  | some (.str "p1") => some .p1
  | some (.str "p2") => some .p2
  | _ => none

def kindOf (type : String) : Option Client.Battle.EventKind := do
  if type = "attack" then
    return .attack (← readNat j "cycle") (← readNat j "tick") (← named j "attacker") (← named j "target")
      (← readInt j "damage") (← readInt j "targetHpAfter")
  else if type = "death" then
    return .death (← readNat j "cycle") (← readNat j "tick") (← named j "unit")
  else if type = "revive" then
    return .revive (← readNat j "cycle") (← readNat j "tick") (← named j "unit") (← readInt j "hpAfter")
  else if type = "heal" then
    return .heal (← readNat j "cycle") (← readNat j "tick") (← named j "target") (← named j "by")
      (← readInt j "amount") (← readInt j "targetHpAfter")
  else if type = "lifesteal" then
    return .lifesteal (← readNat j "cycle") (← readNat j "tick") (← named j "unit") (← readInt j "amount")
      (← readInt j "hpAfter")
  else if type = "pierce" then
    return .pierce (← readNat j "cycle") (← readNat j "tick") (← named j "attacker") (← named j "target")
      (← readInt j "damage")
  else if type = "slow" then
    return .slow (← readNat j "cycle") (← readNat j "tick") (← named j "target") (← named j "by")
  else if type = "cycle_end" then return .cycleEnd (← readNat j "cycle")
  else if type = "battle_end" then return .battleEnd (← readNat j "cycle") (winnerOf (Assoc.get j "winner"))
  else return .unknown type (← readNat j "cycle") (← readNat j "tick")

def CombatEvent.fromJson : Option Client.Battle.CombatEvent := do
  let kind ← kindOf j (← string j "type")
  return ⟨kind, ← snapshots j⟩

/-! ## Round trips -/

theorem toInt_ofInt (n : Int) : toInt (ofInt n) = some n := by
  simp [toInt, ofInt]

theorem toInt_ofNat (n : Nat) : toInt (ofNat n) = some (n : Int) := by
  simp [toInt, ofNat]

theorem unitIdOf_unitText (u : UnitId) : unitIdOf (some (unitText u)) = u := by
  cases u <;> rfl

theorem sideOf_name (side : Side) : sideOf (some (sideName side)) = side := by
  cases side <;> rfl

section

variable {j}

theorem string_str {k s : String} (h : Assoc.get j k = some (.str s)) : string j k = some s := by
  simp [string, string?, h, asString?]

theorem string?_str {k s : String} (h : Assoc.get j k = some (.str s)) : string? j k = some (some s) := by
  simp [string?, h, asString?]

theorem readInt_int {k : String} {n : Int} (h : Assoc.get j k = some (int n)) : readInt j k = some n := by
  simp [readInt, int?, h, int, asNum?, toInt_ofInt]

theorem readNat_nat {k : String} {n : Nat} (h : Assoc.get j k = some (nat n)) : readNat j k = some n := by
  simp [readNat, readInt, int?, h, nat, asNum?, toInt_ofNat]

theorem starOpt_star {k : String} {s : Game.Star} (h : Assoc.get j k = some (nat s)) :
    starOpt j k = some (some (s : Nat)) := by
  have hstar : ((s : Nat) : Int) = 0 ∨ ((s : Nat) : Int) = 1 ∨ ((s : Nat) : Int) = 2 := by omega
  simp only [starOpt, intOpt, h, nat, toInt_ofNat, Option.map_some, Option.bind_eq_bind, Option.bind_some,
    Option.filter_some, hstar, decide_true, if_true, Int.toNat_natCast, pure]

/-- The fields of a unit are read back. -/
theorem named_actor {role : String} (actor : Actor) (hid : Assoc.get j role = some (.str actor.instanceId))
    (hside : Assoc.get j (role ++ "Side") = some (.str (sideName actor.side)))
    (hslot : Assoc.get j (role ++ "Slot") = some (nat actor.slot))
    (hunit : Assoc.get j (role ++ "UnitId") = some (.str (unitText actor.unitId)))
    (hstar : Assoc.get j (role ++ "Star") = some (nat actor.star)) :
    named j role = some (Client.Battle.named actor) := by
  unfold named side? intOpt
  rw [string_str hid, string?_str hside, hslot, string?_str hunit, starOpt_star hstar]
  cases hs : actor.side <;> simp [nat, toInt_ofNat, sideName, Client.Battle.named, unitIdOf_unitText, hs]

theorem bool_bool {k : String} {b : Bool} (h : Assoc.get j k = some (.bool b)) :
    asBool? (Assoc.get j k) = some (some b) := by
  rw [h, asBool?]

theorem snapshot_read (s : Game.UnitSnapshot) :
    UnitSnapshot.fromJson (snapshotFields s) = some (Client.Battle.snapshot s) := by
  unfold UnitSnapshot.fromJson
  rw [string_str (s := s.instanceId) (by rfl), string?_str (s := unitText s.unitId) (by rfl),
    readNat_nat (n := s.star) (by rfl), readInt_int (n := s.hp) (by rfl), readInt_int (n := s.maxHp) (by rfl),
    readNat_nat (n := s.slot) (by rfl), string?_str (s := sideName s.side) (by rfl), bool_bool (b := s.alive) (by rfl)]
  simp [unitIdOf_unitText, sideOf_name, Client.Battle.snapshot]

theorem snapshots_read (board : List Game.UnitSnapshot)
    (h : Assoc.get j "unitStates" = some (.arr (board.map fun s => .obj (snapshotFields s)))) :
    snapshots j = some (some (board.map Client.Battle.snapshot)) := by
  have hmaps : maps (board.map fun s => .obj (snapshotFields s)) = board.map snapshotFields := by
    unfold maps
    rw [List.filterMap_map, ← List.filterMap_eq_map]
    rfl
  have hread : (board.map snapshotFields).mapM UnitSnapshot.fromJson = some (board.map Client.Battle.snapshot) := by
    rw [List.mapM_map]
    exact Codec.mapM_of_forall fun s _ => snapshot_read s
  unfold snapshots
  rw [h]
  dsimp only
  rw [hmaps, hread, Option.map_some]

/-- An event is read when its kind is. -/
theorem fromJson_kind (type : String) {board : List Game.UnitSnapshot} {kind : Client.Battle.EventKind}
    (htype : Assoc.get j "type" = some (.str type))
    (hstates : Assoc.get j "unitStates" = some (.arr (board.map fun s => .obj (snapshotFields s))))
    (hkind : kindOf j type = some kind) :
    CombatEvent.fromJson j = some ⟨kind, some (board.map Client.Battle.snapshot)⟩ := by
  unfold CombatEvent.fromJson
  rw [string_str htype, snapshots_read board hstates, Option.bind_eq_bind, Option.bind_some, hkind]
  rfl

/-- The cycle and the tick, which most events have before the fields of their own. -/
theorem times_read {cycle tick : Nat} (hcycle : Assoc.get j "cycle" = some (nat cycle))
    (htick : Assoc.get j "tick" = some (nat tick)) {α : Type} (read : Nat → Nat → Option α) :
    ((readNat j "cycle").bind fun c => (readNat j "tick").bind (read c)) = read cycle tick := by
  rw [readNat_nat hcycle, readNat_nat htick]
  rfl

/-- **The client reads the event the server wrote.** -/
theorem event_read (e : Game.CombatEvent) : CombatEvent.fromJson (eventFields e) = some (Client.Battle.received e) := by
  obtain ⟨kind, board⟩ := e
  cases kind with
  | attack cycle tick attacker target damage hp =>
    refine fromJson_kind "attack" (by rfl) (by rfl) ?_
    simp only [Option.bind_eq_bind, kindOf, String.reduceEq, if_true, if_false]
    rw [times_read (by rfl) (by rfl),
      named_actor attacker (by rfl) (by rfl) (by rfl) (by rfl) (by rfl),
      named_actor target (by rfl) (by rfl) (by rfl) (by rfl) (by rfl), readInt_int (n := damage) (by rfl),
      readInt_int (n := hp) (by rfl)]
    rfl
  | death cycle tick unit =>
    refine fromJson_kind "death" (by rfl) (by rfl) ?_
    simp only [Option.bind_eq_bind, kindOf, String.reduceEq, if_true, if_false]
    rw [times_read (by rfl) (by rfl),
      named_actor unit (by rfl) (by rfl) (by rfl) (by rfl) (by rfl)]
    rfl
  | revive cycle tick unit hp =>
    refine fromJson_kind "revive" (by rfl) (by rfl) ?_
    simp only [Option.bind_eq_bind, kindOf, String.reduceEq, if_true, if_false]
    rw [times_read (by rfl) (by rfl),
      named_actor unit (by rfl) (by rfl) (by rfl) (by rfl) (by rfl), readInt_int (n := hp) (by rfl)]
    rfl
  | heal cycle tick target healer amount hp =>
    refine fromJson_kind "heal" (by rfl) (by rfl) ?_
    simp only [Option.bind_eq_bind, kindOf, String.reduceEq, if_true, if_false]
    rw [times_read (by rfl) (by rfl),
      named_actor target (by rfl) (by rfl) (by rfl) (by rfl) (by rfl),
      named_actor healer (by rfl) (by rfl) (by rfl) (by rfl) (by rfl), readInt_int (n := amount) (by rfl),
      readInt_int (n := hp) (by rfl)]
    rfl
  | lifesteal cycle tick unit amount hp =>
    refine fromJson_kind "lifesteal" (by rfl) (by rfl) ?_
    simp only [Option.bind_eq_bind, kindOf, String.reduceEq, if_true, if_false]
    rw [times_read (by rfl) (by rfl),
      named_actor unit (by rfl) (by rfl) (by rfl) (by rfl) (by rfl), readInt_int (n := amount) (by rfl),
      readInt_int (n := hp) (by rfl)]
    rfl
  | pierce cycle tick attacker target damage =>
    refine fromJson_kind "pierce" (by rfl) (by rfl) ?_
    simp only [Option.bind_eq_bind, kindOf, String.reduceEq, if_true, if_false]
    rw [times_read (by rfl) (by rfl),
      named_actor attacker (by rfl) (by rfl) (by rfl) (by rfl) (by rfl),
      named_actor target (by rfl) (by rfl) (by rfl) (by rfl) (by rfl), readInt_int (n := damage) (by rfl)]
    rfl
  | slow cycle tick target healer =>
    refine fromJson_kind "slow" (by rfl) (by rfl) ?_
    simp only [Option.bind_eq_bind, kindOf, String.reduceEq, if_true, if_false]
    rw [times_read (by rfl) (by rfl),
      named_actor target (by rfl) (by rfl) (by rfl) (by rfl) (by rfl),
      named_actor healer (by rfl) (by rfl) (by rfl) (by rfl) (by rfl)]
    rfl
  | cycleEnd cycle =>
    refine fromJson_kind "cycle_end" (by rfl) (by rfl) ?_
    simp only [Option.bind_eq_bind, kindOf, String.reduceEq, if_true, if_false]
    rw [readNat_nat (n := cycle) (by rfl)]
    rfl
  | battleEnd cycle winner =>
    refine fromJson_kind "battle_end" (by rfl) (by rfl) ?_
    simp only [Option.bind_eq_bind, kindOf, String.reduceEq, if_true, if_false]
    rw [readNat_nat (n := cycle) (by rfl)]
    obtain _ | side := winner
    · rfl
    · cases side <;> rfl

end

end AutoChess.Messages
