/-
Which commands the programs of the lobby can make. Besides the free ones
they are an insert, a record and publications, but for the claims of the
triggers and the writes of an opening.
-/
import AutoChess.Lobby.Guards

namespace AutoChess.Lobby

open AutoChess.Runtime Calls

variable {host : Host} {A : Cmd → Prop}

/-- `A` allows what a program makes that opens no room and claims no handoff. -/
structure Allows (A : Cmd → Prop) : Prop where
  free : ∀ c, Free c → A c
  create : ∀ player1Id player2Id seed p1 p2, A (.createMatch player1Id player2Id seed p1 p2)
  record : ∀ roomId code matchId ownerId guestId, A (.roomMatchDone roomId code matchId ownerId guestId)
  publish : ∀ publication, A (.publishToRoom publication)

theorem Allows.of_free (hA : Allows A) {α : Type} {p : M α} (hp : p.Issues Free) : p.Issues A :=
  hp.mono hA.free

/-- A free call, then the rest. -/
theorem Allows.call (hA : Allows A) {α : Type} {c : Cmd} {f : Resp c → M α} (hc : Free c)
    (hf : ∀ r, (f r).Issues A) : ((call c).bind f).Issues A :=
  Prog.Issues.perform_bind (hA.free c hc) hf

theorem createMatch_issues (hA : Allows A) (player1Id player2Id : String) :
    (createMatch player1Id player2Id).Issues A :=
  hA.call (by trivial) fun _ => Prog.Issues.perform (hA.create ..) _

theorem finishRoomMatch_issues (hA : Allows A) (view : RoomView) (matchId : String) :
    (finishRoomMatch view matchId).Issues A :=
  Prog.Issues.perform_bind (hA.record ..) fun _ => Prog.Issues.perform_bind (hA.publish _) fun _ => trivial

theorem createRoomMatch_issues (hA : Allows A) (roomId ownerId guestId token : String)
    (view : Option RoomView) : (createRoomMatch host roomId ownerId guestId token view).Issues A := by
  refine Prog.Issues.bind ?_ fun matchId => ?_
  · refine (hA.of_free (findOrphan_free ownerId guestId)).bind fun orphan => ?_
    cases orphan with
    | some row => trivial
    | none =>
      refine Prog.Issues.bind (Prog.Issues.attempt ?_) fun created => ?_
      · refine (createMatch_issues hA ownerId guestId).bind fun row => ?_
        exact (hA.of_free (initializeMatch_free row)).bind fun _ => trivial
      · cases created with
        | ok created => trivial
        | error e => exact hA.call (by trivial) fun _ => trivial
  · cases view with
    | some view => exact finishRoomMatch_issues hA _ matchId
    | none => exact hA.call (by trivial) fun now => finishRoomMatch_issues hA _ matchId

/-- A trigger may claim, too. -/
theorem startRoomMatch_issues (hA : Allows A) (hclaim : ∀ roomId token, A (.roomStartMatch roomId token))
    (roomId : String) : (startRoomMatch host roomId).Issues A := by
  refine (hA.of_free (loadRoomIfExists_free _)).bind fun view => hA.call (by trivial) fun token => ?_
  refine Prog.Issues.perform_bind (hclaim ..) fun claim => ?_
  split
  · exact createRoomMatch_issues hA ..
  · trivial
  · cases view with
    | none => trivial
    | some view =>
      dsimp only
      split
      · exact finishRoomMatch_issues hA view _
      · split <;> trivial

theorem startRoomForOwner_issues (hA : Allows A)
    (hclaim : ∀ roomId token, A (.roomStartMatch roomId token)) (ownerId : String) :
    (startRoomForOwner host ownerId).Issues A := by
  refine hA.call (by trivial) fun roomId => ?_
  refine (hA.of_free (loadRoomIfExists_free roomId)).bind fun room => ?_
  cases room with
  | none => trivial
  | some room =>
    dsimp only
    split
    · trivial
    · split
      · trivial
      · exact startRoomMatch_issues hA hclaim room.roomId

theorem leaveQueue_issues (hA : Allows A) (userId : String) : (leaveQueue userId).Issues A :=
  hA.call (by trivial) fun _ => trivial

theorem tryPair_issues (hA : Allows A) (swapped : Bool) : (tryPair host swapped).Issues A := by
  refine hA.call (by trivial) fun players => ?_
  split
  · next player1Id player2Id _ =>
    refine (hA.of_free (findBoth_free player1Id player2Id swapped)).bind fun active => ?_
    split
    · exact (hA.of_free (requeueAfterFailure_free _)).bind fun _ => trivial
    · refine (createMatch_issues hA player1Id player2Id).attempt.bind fun created => ?_
      cases created with
      | error e => exact (hA.of_free (requeueAfterFailure_free _)).bind fun _ => trivial
      | ok row => exact (hA.of_free (initializeMatch_free row)).bind fun _ => trivial
  · trivial

theorem joinRoom_issues (hA : Allows A) (userId code : String) : (joinRoom userId code).Issues A := by
  unfold joinRoom
  split
  · trivial
  · refine hA.call (by trivial) fun value => ?_
    split
    · trivial
    · refine hA.call (by trivial) fun own => ?_
      split
      · refine (hA.of_free (loadRoomIfExists_free _)).bind fun existing => ?_
        cases existing with
        | none => trivial
        | some existing =>
          dsimp only
          split <;> trivial
      · refine hA.call (by trivial) fun active => ?_
        split
        · trivial
        · refine hA.call (by trivial) fun queued => ?_
          split
          · trivial
          · refine hA.call (by trivial) fun reply => ?_
            cases reply with
            | ok =>
              refine (hA.of_free (loadRoomIfExists_free _)).bind fun room => ?_
              cases room with
              | none => trivial
              | some room => exact Prog.Issues.perform_bind (hA.publish _) fun _ => trivial
            | _ => trivial

theorem leaveRoom_issues (hA : Allows A) (userId : String) : (leaveRoom userId).Issues A := by
  refine hA.call (by trivial) fun value => ?_
  split
  · trivial
  · refine hA.call (by trivial) fun before => hA.call (by trivial) fun reply => ?_
    cases reply with
    | missing => exact hA.of_free ((free_call (by trivial)).attempt.bind fun _ => trivial)
    | owner =>
      refine Prog.Issues.bind ?_ fun _ => trivial
      unfold announceClosed
      split
      · trivial
      · exact Prog.Issues.perform (hA.publish _) _
    | guest =>
      refine (hA.of_free (loadRoom_free _)).bind fun room => ?_
      exact Prog.Issues.perform_bind (hA.publish _) fun _ => trivial

/-- Every request but that of a new room. -/
theorem program_issues (hA : Allows A) (hclaim : ∀ roomId token, A (.roomStartMatch roomId token))
    (hfinalize : ∀ matchId status, A (.finalize matchId status)) (q : Request)
    (hq : ∀ ownerId, q ≠ .createRoom ownerId) : (program host q).Issues A := by
  cases q with
  | joinQueue userId joinedAtMs => exact (hA.of_free (joinQueue_free userId joinedAtMs)).bind fun _ => trivial
  | leaveQueue userId => exact (leaveQueue_issues hA userId).bind fun _ => trivial
  | tryPair swapped => exact (tryPair_issues hA swapped).bind fun _ => trivial
  | createRoom ownerId => exact absurd rfl (hq ownerId)
  | getMyRoom userId => exact (hA.of_free (getMyRoom_free userId)).bind fun _ => trivial
  | joinRoom userId code => exact (joinRoom_issues hA userId code).bind fun _ => trivial
  | leaveRoom userId => exact (leaveRoom_issues hA userId).bind fun _ => trivial
  | startRoom ownerId => exact (startRoomForOwner_issues hA hclaim ownerId).bind fun _ => trivial
  | startRoomMatch roomId => exact (startRoomMatch_issues hA hclaim roomId).bind fun _ => trivial
  | finalize matchId status => exact Prog.Issues.perform (hfinalize matchId status) _

end AutoChess.Lobby
