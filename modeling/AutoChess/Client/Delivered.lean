/-
From a publication of the runtime to the screens: what a socket of a user is
sent of it, and what the client there reads.
-/
import AutoChess.Client.Messages
import AutoChess.Ws.Delivery

namespace AutoChess.Messages

open AutoChess.Runtime (Payload Publication)
open AutoChess.Sockets (Event Envelope Replica Connected userOf after listens parts copies namedBy)
open Json

/-! ## Publications -/

/-- The channel of a match. -/
def channel (m : String) : String := "match:" ++ m ++ ":events"

/-- What `publish` and `publishToUser` put on the channel. -/
def envelope (endedAt : Int) (publication : Publication) : Envelope where
  type := (encode endedAt publication.payload).1
  payload := .obj (encode endedAt publication.payload).2
  targetUserId := publication.targetUserId
  targetUserIds := none

/-- The users a publication names as players. -/
def players : Payload → List String
  | .phase payload => payload.players.map (·.id)
  | _ => []

/-- What the client at the socket reads of a message. -/
def received (history : List Event) (channel : String) (envelope : Envelope) (s : String) : List (Option Message) :=
  (((after history).handleMessage channel (some envelope)).2.filter (·.socketId = s)).map fun d =>
    match d.payload with
    | .obj fields => decode d.type fields
    | _ => none

theorem parts_channel {m : String} (hm : ':' ∉ m.toList) : parts (channel m) = ["match", m, "events"] := by
  have hsplit : (channel m).toList = [':'].intercalate ["match".toList, m.toList, "events".toList] := by
    simp [channel, List.intercalate]
  unfold parts
  rw [hsplit, List.splitOn_intercalate]
  · simp
  · intro l hl
    simp only [List.mem_cons, List.not_mem_nil, or_false] at hl
    rcases hl with rfl | rfl | rfl
    · decide
    · exact hm
    · decide
  · simp

theorem encode_type (endedAt : Int) (payload : Payload) : (encode endedAt payload).1 ≠ "" := by
  cases payload <;> simp [encode]

theorem playerIdsFromPhase_phase (payload : Runtime.PhasePayload) :
    Sockets.playerIdsFromPhase (.obj (phaseFields payload)) = payload.players.map (·.id) := by
  have hplayers : Assoc.get (phaseFields payload) "players" = some (.arr (payload.players.map fun p =>
      .obj [("id", .str p.id), ("username", .str p.username), ("hp", int p.hp), ("gold", int p.gold),
        ("ready", .bool p.ready)])) := rfl
  unfold Sockets.playerIdsFromPhase
  dsimp only
  rw [hplayers]
  dsimp only
  rw [List.flatMap_map, ← List.flatMap_pure_eq_map]
  rfl

theorem namedBy_publication {m : String} (hm : ':' ∉ m.toList) (endedAt : Int) (publication : Publication) :
    namedBy m (.message (channel m) (some (envelope endedAt publication))) = players publication.payload := by
  rw [namedBy, parts_channel hm]
  obtain ⟨target, payload⟩ := publication
  cases payload with
  | phase payload => exact (if_pos ⟨rfl, rfl⟩).trans (playerIdsFromPhase_phase payload)
  | state | offers | damage | combatEvents | matchEnd => exact if_neg fun h => absurd h.2 (by simp [envelope, encode])

/-- A socket listens once a message has come if it did, or the message names its
user. -/
theorem listens_publication {history : List Event} {m : String} (hm : ':' ∉ m.toList) (endedAt : Int)
    (publication : Publication) {s u : String} (hs : Connected (after history) s)
    (hu : userOf (after history) s = some u) :
    listens m s (.message (channel m) (some (envelope endedAt publication)) :: history) = true ↔
      u ∈ players publication.payload ∨ listens m s history = true := by
  simp only [listens, hs, Sockets.joins, Sockets.leaves, namedBy_publication hm, hu, true_and, Bool.false_eq_true,
    not_false_iff, and_true, decide_eq_true_eq, List.any_eq_true, Option.some.injEq, exists_eq_right']

/-- **What a publication shows.** A player's open socket gets it once if it
listens to the match or the publication names the player, and it is for all or
for the player; and its client reads what was published, in the fields its
classes declare. -/
theorem publication_received {history : List Event} {m : String} (hm : ':' ∉ m.toList) (endedAt : Int)
    (publication : Publication) {s u : String} (hs : Connected (after history) s)
    (hu : userOf (after history) s = some u) :
    received history (channel m) (envelope endedAt publication) s = List.replicate
      (if (publication.targetUserId = none ∨ publication.targetUserId = some "" ∨ publication.targetUserId = some u) ∧
        (u ∈ players publication.payload ∨ listens m s history = true) then 1 else 0)
      (some (message endedAt publication.payload)) := by
  have hfor : Replica.isFor (envelope endedAt publication) (some u) = true ↔
      publication.targetUserId = none ∨ publication.targetUserId = some "" ∨ publication.targetUserId = some u := by
    unfold Replica.isFor envelope
    cases publication.targetUserId with
    | none => simp
    | some target =>
      simp only [decide_eq_true_eq, reduceCtorEq, false_or, Option.some.injEq]
      exact or_congr_right eq_comm
  have hcopies : copies history (channel m) (envelope endedAt publication) s u =
      if (publication.targetUserId = none ∨ publication.targetUserId = some "" ∨ publication.targetUserId = some u) ∧
        (u ∈ players publication.payload ∨ listens m s history = true) then 1 else 0 := by
    unfold copies
    rw [parts_channel hm]
    dsimp only
    rw [if_neg (by simp [envelope, encode_type]), if_neg (by decide)]
    simp only [true_and, hfor, listens_publication hm endedAt publication hs hu]
  unfold received
  rw [Sockets.run_delivers history (channel m) _ hs hu, hcopies, List.map_replicate]
  exact congrArg _ (payload_read endedAt publication.payload)

/-- The first shop of a player, once the first phase event has come. -/
def annsShop : Publication := ⟨some "ann", .offers "m1" 1 [some ⟨"o1", .tank, 0⟩, none]⟩

theorem firstPhase_received : received Sockets.firstPhase (channel "m1") (envelope 0 annsShop) "s1" =
    List.replicate (if (annsShop.targetUserId = none ∨ annsShop.targetUserId = some "" ∨
        annsShop.targetUserId = some "ann") ∧
      ("ann" ∈ players annsShop.payload ∨ listens "m1" "s1" Sockets.firstPhase = true) then 1 else 0)
      (some (message 0 annsShop.payload)) :=
  publication_received (by decide) 0 annsShop ⟨⟨some "ann", true, false⟩, by decide, rfl⟩ (by decide)

end AutoChess.Messages
