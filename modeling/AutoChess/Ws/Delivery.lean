/-
Who a message reaches. Every entry of a replica's tables is under the user of
its socket, so a message for one user is sent to that user's sockets alone; a
match's bucket holds players of the match, if the phase events on its channel
name no others and a socket resumes the match of its own user. And a player's
socket that was there for one phase event gets every later message of the
match, once, until it closes.
-/
import AutoChess.Ws.Cleanup

namespace AutoChess.Sockets

/-! ## The tables are the users' own -/

/-- Every entry is under its socket's user, and every socket but `fresh` is
listed under its own. -/
structure OwnedBut (fresh : String → Prop) (r : Replica) : Prop where
  named : ∀ s, Connected r s → userOf r s ≠ none
  sockets : ∀ u s, r.localUserSockets.Holds u s → Connected r s ∧ userOf r s = some u
  listed : ∀ u s, ¬fresh s → Connected r s → userOf r s = some u → r.localUserSockets.Holds u s
  known : ∀ m s v, (s, v) ∈ r.localSubscribers.bucket m → r.clients.get s ≠ none ∧ v = userOf r s
  distinct : ∀ m, (r.localSubscribers.bucket m).keys.Nodup
  once : ∀ u, (r.localUserSockets.bucket u).keys.Nodup

abbrev Owned (r : Replica) : Prop := OwnedBut (fun _ => False) r

/-- No subscriber and no user's socket is added or moved. -/
structure Shrinks (r r' : Replica) : Prop where
  subscribers : ∀ m, (r'.localSubscribers.bucket m).Sublist (r.localSubscribers.bucket m)
  sockets : ∀ u, (r'.localUserSockets.bucket u).Sublist (r.localUserSockets.bucket u)

theorem Shrinks.refl (r : Replica) : Shrinks r r := ⟨fun _ => .refl _, fun _ => .refl _⟩

theorem Shrinks.trans {r r₁ r₂ : Replica} (h₁ : Shrinks r r₁) (h₂ : Shrinks r₁ r₂) : Shrinks r r₂ :=
  ⟨fun m => (h₂.subscribers m).trans (h₁.subscribers m), fun u => (h₂.sockets u).trans (h₁.sockets u)⟩

theorem unsubscribe_shrinks (r : Replica) (matchId socketId : String) : Shrinks r (r.unsubscribe matchId socketId) :=
  ⟨fun _ => Index.bucket_remove_sublist, fun _ => .refl _⟩

theorem foldl_unsubscribe_shrinks (s : String) (ms : List String) (r : Replica) :
    Shrinks r (ms.foldl (fun r m => r.unsubscribe m s) r) := by
  induction ms generalizing r with
  | nil => exact .refl r
  | cons m ms ih => exact (unsubscribe_shrinks r m s).trans (ih _)

theorem handleDisconnect_shrinks (r : Replica) (id : String) : Shrinks r (r.handleDisconnect id) := by
  unfold Replica.handleDisconnect
  split
  · next sub connected superseded hc =>
    dsimp only [Replica.unregisterUserSocket]
    have hremoved : Shrinks r { r with connectedSockets := r.connectedSockets.remove sub id
                                       localUserSockets := r.localUserSockets.remove sub id } :=
      ⟨fun _ => .refl _, fun _ => Index.bucket_remove_sublist⟩
    cases hmatched : r.socketMatches.get id with
    | none =>
      dsimp only
      split <;> exact ⟨hremoved.subscribers, hremoved.sockets⟩
    | some matched =>
      dsimp only
      have hfold := hremoved.trans (foldl_unsubscribe_shrinks id matched.keys _)
      split <;> exact ⟨hfold.subscribers, hfold.sockets⟩
  · exact .refl r

theorem disconnect_shrinks (r : Replica) (id : String) : Shrinks r (r.disconnect id) := by
  unfold Replica.disconnect
  split
  · next c hc =>
    split
    · have hclosed := handleDisconnect_shrinks { r with clients := r.clients.set id { c with connected := false } } id
      exact ⟨hclosed.subscribers, hclosed.sockets⟩
    · exact .refl r
  · exact .refl r

theorem supersede_shrinks (r : Replica) (id : String) : Shrinks r (r.supersede id) := by
  unfold Replica.supersede
  split <;> exact ⟨fun _ => .refl _, fun _ => .refl _⟩

theorem dedupe_shrinks (r : Replica) (userId current : String) :
    Shrinks r (r.dedupePreviousSockets userId current) := by
  unfold Replica.dedupePreviousSockets
  generalize (r.connectedSockets.bucket userId).keys = olds
  induction olds generalizing r with
  | nil => exact .refl r
  | cons old olds ih =>
    rw [List.foldl_cons]
    split
    · exact ih r
    · exact ((supersede_shrinks r old).trans (disconnect_shrinks _ old)).trans (ih _)

/-- Closing sockets leaves the tables the users' own. -/
theorem OwnedBut.closing {fresh gone : String → Prop} {r r' : Replica} (h : OwnedBut fresh r) (hc : Closing r r' gone)
    (hshrinks : Shrinks r r') : OwnedBut fresh r' where
  named s hs := by
    rw [hc.user]
    exact h.named s ((hc.connected s).1 hs).1
  sockets u s hs := by
    rw [hc.user, hc.connected]
    obtain ⟨hs, hkept⟩ := (hc.sockets u s).1 hs
    obtain ⟨hopen, huser⟩ := h.sockets u s hs
    exact ⟨⟨hopen, fun hgone => hkept ⟨hgone, huser⟩⟩, huser⟩
  listed u s hfresh hs huser := by
    rw [hc.user] at huser
    obtain ⟨hopen, hkept⟩ := (hc.connected s).1 hs
    exact (hc.sockets u s).2 ⟨h.listed u s hfresh hopen huser, fun hgone => hkept hgone.1⟩
  known m s v hs := by
    obtain ⟨hknown, hvalue⟩ := h.known m s v ((hshrinks.subscribers m).subset hs)
    exact ⟨fun hnone => hknown ((hc.known s).1 hnone), by rw [hc.user]; exact hvalue⟩
  distinct m := (h.distinct m).sublist ((hshrinks.subscribers m).map _)
  once u := (h.once u).sublist ((hshrinks.sockets u).map _)

theorem OwnedBut.subscribe {fresh : String → Prop} {r : Replica} (h : OwnedBut fresh r) {s : String}
    (hs : r.clients.get s ≠ none) (matchId : String) : OwnedBut fresh (r.subscribe matchId s (userOf r s)) where
  named := h.named
  sockets := h.sockets
  listed := h.listed
  known m t v ht := by
    change (t, v) ∈ Index.bucket (Index.add r.localSubscribers matchId s (userOf r s)) m at ht
    rw [Index.bucket_add] at ht
    split at ht
    · next hm =>
      subst hm
      rcases Assoc.mem_set ht with ⟨rfl, rfl⟩ | ht
      · exact ⟨hs, rfl⟩
      · exact h.known m t v ht
    · exact h.known m t v ht
  distinct m := by
    change (Assoc.keys (Index.bucket (Index.add r.localSubscribers matchId s (userOf r s)) m)).Nodup
    rw [Index.bucket_add]
    split
    · exact Assoc.keys_set_nodup (h.distinct _) _ _
    · exact h.distinct m
  once := h.once

theorem OwnedBut.subscribeToMatch {fresh : String → Prop} {r : Replica} (h : OwnedBut fresh r) {s : String}
    (hs : r.clients.get s ≠ none) (matchId : String) : OwnedBut fresh (r.subscribeToMatch s matchId) :=
  have hone := h.subscribe hs matchId
  ⟨hone.named, hone.sockets, hone.listed, hone.known, hone.distinct, hone.once⟩

theorem OwnedBut.unsubscribeFromMatch {fresh : String → Prop} {r : Replica} (h : OwnedBut fresh r)
    (s matchId : String) : OwnedBut fresh (r.unsubscribeFromMatch s matchId) where
  named := h.named
  sockets := h.sockets
  listed := h.listed
  known m t v ht := h.known m t v (((unsubscribe_shrinks r matchId s).subscribers m).subset ht)
  distinct m := (h.distinct m).sublist (((unsubscribe_shrinks r matchId s).subscribers m).map _)
  once := h.once

theorem OwnedBut.subscribePlayer {fresh : String → Prop} {r : Replica} (h : OwnedBut fresh r)
    (hknown : ∀ s, (userOf r s).isSome → r.clients.get s ≠ none) (matchId userId : String) :
    OwnedBut fresh (r.subscribePlayer matchId userId) := by
  unfold Replica.subscribePlayer
  have huser : ∀ s ∈ Assoc.keys (Index.bucket r.localUserSockets userId), userOf r s = some userId :=
    fun s hs => (h.sockets userId s hs).2
  generalize Assoc.keys (Index.bucket r.localUserSockets userId) = sockets at huser
  induction sockets generalizing r with
  | nil => exact h
  | cons s sockets ih =>
    have hs : userOf r s = some userId := huser s (.head _)
    have hone := h.subscribe (hknown s (by rw [hs]; rfl)) matchId
    rw [hs] at hone
    exact ih hone hknown fun t ht => huser t (.tail _ ht)

theorem userOf_known {r : Replica} {s : String} (h : (userOf r s).isSome) : r.clients.get s ≠ none := by
  intro hnone
  rw [userOf, hnone] at h
  cases h

theorem OwnedBut.handleMessage {fresh : String → Prop} {r : Replica} (h : OwnedBut fresh r) (channel : String)
    (envelope : Option Envelope) : OwnedBut fresh (r.handleMessage channel envelope).1 := by
  unfold Replica.handleMessage
  split
  · split
    · exact h
    · split
      · exact h
      · split
        · exact h
        · dsimp only
          split
          · next id _ _ _ _ _ _ _ _ _ =>
            generalize playerIdsFromPhase _ = players
            induction players generalizing r with
            | nil => exact h
            | cons u players ih => exact ih (h.subscribePlayer (fun _ => userOf_known) _ u)
          · exact h
  · exact h

/-- A new socket is the only one not yet listed. -/
theorem OwnedBut.client {r : Replica} (h : Owned r) {id : String} (hnew : r.clients.get id = none) {c : Socket}
    (hnamed : c.connected = true → c.user ≠ none) :
    OwnedBut (· = id) { r with clients := r.clients.set id c } := by
  have hother : ∀ {s}, s ≠ id → Assoc.get (Assoc.set r.clients id c) s = r.clients.get s :=
    fun hne => Assoc.get_set_of_ne hne
  have huser : ∀ {s}, s ≠ id → userOf { r with clients := r.clients.set id c } s = userOf r s := fun hne => by
    unfold userOf
    rw [hother hne]
  have hold : ∀ {s}, r.clients.get s ≠ none → s ≠ id := fun hs heq => hs (heq ▸ hnew)
  refine ⟨fun s hs => ?_, fun u s hs => ?_, fun u s hfresh hs hu => ?_, fun m s v hs => ?_, h.distinct, h.once⟩
  · rw [connected_set rfl] at hs
    by_cases heq : s = id
    · rw [if_pos heq] at hs
      rw [heq, userOf, Assoc.get_set_self]
      exact hnamed hs
    · rw [if_neg heq] at hs
      rw [huser heq]
      exact h.named s hs
  · obtain ⟨hopen, hu⟩ := h.sockets u s hs
    have hne : s ≠ id := hold (userOf_known (by rw [hu]; rfl))
    rw [connected_set rfl, if_neg hne, huser hne]
    exact ⟨hopen, hu⟩
  · rw [connected_set rfl, if_neg hfresh] at hs
    rw [huser hfresh] at hu
    exact h.listed u s not_false hs hu
  · obtain ⟨hknown, hv⟩ := h.known m s v hs
    rw [huser (hold hknown)]
    exact ⟨by rw [hother (hold hknown)]; exact hknown, hv⟩

theorem Owned.opened {r : Replica} (h : Owned r) {id : String} (hnew : r.clients.get id = none) (userId : String) :
    OwnedBut (· = id) (r.opened id (some userId)) := OwnedBut.client h hnew fun _ => Option.some_ne_none userId

/-- Registered, no socket is fresh. -/
theorem OwnedBut.registerUserSocket {r : Replica} {id : String} (h : OwnedBut (· = id) r) {userId : String}
    (hopen : Connected r id) (huser : userOf r id = some userId) : Owned (r.registerUserSocket userId id) where
  named := h.named
  sockets u s hs := by
    rcases Index.holds_add.1 hs with ⟨rfl, rfl⟩ | hs
    · exact ⟨hopen, huser⟩
    · exact h.sockets u s hs
  listed u s _ hs hu := by
    refine Index.holds_add.2 ?_
    by_cases heq : s = id
    · subst heq
      exact .inl ⟨Option.some.inj (hu.symm.trans huser), rfl⟩
    · exact .inr (h.listed u s heq hs hu)
  known := h.known
  distinct := h.distinct
  once u := by
    change (Assoc.keys (Index.bucket (Index.add r.localUserSockets userId id ()) u)).Nodup
    rw [Index.bucket_add]
    split
    · exact Assoc.keys_set_nodup (h.once _) _ _
    · exact h.once u

theorem Owned.handleConnection {r : Replica} (h : Owned r) {id : String} {token : Option JwtPayload}
    (hnew : r.clients.get id = none) : Owned (r.handleConnection id (authenticate token)) := by
  unfold Replica.handleConnection
  cases authenticate token with
  | none =>
    dsimp only
    rw [opened_disconnect]
    have hclosed := OwnedBut.client h hnew (c := ⟨none, false, false⟩) fun hopen => by cases hopen
    refine ⟨hclosed.named, hclosed.sockets, fun u s _ hs hu => ?_, hclosed.known, hclosed.distinct, hclosed.once⟩
    refine hclosed.listed u s (fun heq => ?_) hs hu
    rw [connected_set rfl, if_pos heq] at hs
    cases hs
  | some userId =>
    dsimp only
    have hopened : OwnedBut (· = id) (r.opened id (some userId)) := Owned.opened h hnew userId
    have hclosing := dedupe_closing hopened.named userId id
    have hdeduped := hopened.closing hclosing (dedupe_shrinks _ userId id)
    have huser : userOf ((r.opened id (some userId)).dedupePreviousSockets userId id) id = some userId := by
      rw [hclosing.user, userOf, Replica.opened, Assoc.get_set_self, Option.bind_some]
    have hconnected : OwnedBut (· = id) { (r.opened id (some userId)).dedupePreviousSockets userId id with
        connectedSockets := ((r.opened id (some userId)).dedupePreviousSockets userId id).connectedSockets.add
          userId id () } := ⟨hdeduped.named, hdeduped.sockets, hdeduped.listed, hdeduped.known, hdeduped.distinct,
          hdeduped.once⟩
    have hopen : Connected ((r.opened id (some userId)).dedupePreviousSockets userId id) id :=
      (hclosing.connected id).2 ⟨(connected_set rfl id).2 (by rw [if_pos rfl]), fun hgone => hgone.1.2 rfl⟩
    exact hconnected.registerUserSocket hopen huser

/-- **A step leaves the tables the users' own.** -/
theorem Owned.step {r : Replica} (h : Owned r) (e : Event) : Owned (step r e) := by
  cases e with
  | connect id token =>
    unfold Sockets.step
    dsimp only
    split
    · next hnew => exact h.handleConnection hnew
    · exact h
  | resumed id found =>
    unfold Sockets.step
    dsimp only
    split
    · exact h
    · next c hc =>
      unfold Replica.resumeActiveMatch
      split
      · split
        · exact OwnedBut.subscribeToMatch h (by rw [hc]; exact Option.some_ne_none c) _
        · exact h
      · exact h
  | message channel envelope => exact OwnedBut.handleMessage h channel envelope
  | subscribe id matchId =>
    unfold Sockets.step
    dsimp only
    split
    · exact h
    · next c hc => exact OwnedBut.subscribeToMatch h (by rw [hc]; exact Option.some_ne_none c) matchId
  | unsubscribe id matchId =>
    unfold Sockets.step
    dsimp only
    split
    · exact h
    · exact OwnedBut.unsubscribeFromMatch h id matchId
  | disconnect id => exact OwnedBut.closing h (disconnect_closing h.named id) (disconnect_shrinks r id)

theorem initial_owned : Owned .initial where
  named _ hs := by
    obtain ⟨c, hc, -⟩ := hs
    cases hc
  sockets _ _ hs := by cases hs
  listed _ s _ hs := by
    obtain ⟨c, hc, -⟩ := hs
    cases hc
  known _ _ _ hs := by cases hs
  distinct _ := .nil
  once _ := .nil

theorem after_owned : ∀ history, Owned (after history)
  | [] => initial_owned
  | e :: older => (after_owned older).step e

/-! ## Who listens -/

instance (r : Replica) (s : String) : Decidable (Connected r s) :=
  decidable_of_iff ((r.clients.get s).any (·.connected)) (by
    unfold Connected
    cases r.clients.get s <;> simp)

/-- The users a phase event on the match's channel names. -/
def namedBy (m : String) : Event → List String
  | .message channel (some envelope) =>
    if parts channel = ["match", m, "events"] ∧ envelope.type = "game:match:phase" then
      playerIdsFromPhase envelope.payload
    else []
  | _ => []

/-- The event subscribes the socket to the match. -/
def joins (r : Replica) (m s : String) : Event → Bool
  | .resumed id found => id = s ∧ found = some m
  | .subscribe id matchId => id = s ∧ matchId = m
  | .message channel envelope => (namedBy m (.message channel envelope)).any fun u => userOf r s = some u
  | _ => false

def leaves (m s : String) : Event → Bool
  | .unsubscribe id matchId => id = s ∧ matchId = m
  | _ => false

/-- The socket has joined the match and not left it, open all the while. -/
def listens (m s : String) : List Event → Bool
  | [] => false
  | e :: older => Connected (after older) s ∧ (joins (after older) m s e ∨ listens m s older ∧ ¬leaves m s e)

theorem subscribePlayer_holds (r : Replica) (m id u s : String) :
    (r.subscribePlayer id u).localSubscribers.Holds m s ↔
      m = id ∧ r.localUserSockets.Holds u s ∨ r.localSubscribers.Holds m s := by
  have hfold : ∀ (sockets : List String) (r : Replica),
      Index.Holds (sockets.foldl (fun r s => r.subscribe id s (some u)) r).localSubscribers m s ↔
        m = id ∧ s ∈ sockets ∨ Index.Holds r.localSubscribers m s := by
    intro sockets
    induction sockets with
    | nil => simp
    | cons t sockets ih =>
      intro r
      rw [List.foldl_cons, ih, List.mem_cons, Replica.subscribe, Index.holds_add]
      grind
  exact hfold _ r

theorem subscribePlayers_holds (m id s : String) (players : List String) (r : Replica) :
    (players.foldl (Replica.subscribePlayer id) r).localSubscribers.Holds m s ↔
      m = id ∧ (∃ u ∈ players, r.localUserSockets.Holds u s) ∨ r.localSubscribers.Holds m s := by
  induction players generalizing r with
  | nil => simp
  | cons u players ih =>
    have hsame : (r.subscribePlayer id u).localUserSockets = r.localUserSockets := by
      unfold Replica.subscribePlayer
      generalize Assoc.keys (Index.bucket r.localUserSockets u) = sockets
      induction sockets generalizing r with
      | nil => rfl
      | cons t sockets hind => exact hind (r.subscribe id t (some u))
    rw [List.foldl_cons, ih, hsame, subscribePlayer_holds]
    simp only [List.mem_cons, exists_eq_or_imp]
    grind

/-- A message subscribes the sockets of the users it names. -/
theorem handleMessage_holds (r : Replica) (m s channel : String) (envelope : Option Envelope) :
    (r.handleMessage channel envelope).1.localSubscribers.Holds m s ↔
      (∃ u ∈ namedBy m (.message channel envelope), r.localUserSockets.Holds u s) ∨
        r.localSubscribers.Holds m s := by
  cases envelope with
  | none =>
    unfold Replica.handleMessage namedBy
    split <;> simp_all
  | some envelope =>
    rw [namedBy]
    unfold Replica.handleMessage
    split
    · next kind id suffix sent hparts hsent =>
      cases hsent
      rw [hparts]
      by_cases hskip : suffix ≠ "events" ∨ envelope.type = ""
      · rw [if_pos hskip, if_neg (by rintro ⟨heq, htype⟩; simp_all)]
        simp
      rw [if_neg hskip]
      by_cases hroom : kind = "room"
      · rw [if_pos hroom, if_neg (by rintro ⟨heq, -⟩; simp_all)]
        simp
      rw [if_neg hroom]
      by_cases hmatch : kind ≠ "match"
      · rw [if_pos hmatch, if_neg (by rintro ⟨heq, -⟩; simp_all)]
        simp
      rw [if_neg hmatch]
      dsimp only
      have hkind : kind = "match" := not_not.1 hmatch
      have hsuffix : suffix = "events" := not_not.1 fun h => hskip (.inl h)
      by_cases hphase : envelope.type = "game:match:phase"
      · rw [if_pos hphase, subscribePlayers_holds]
        by_cases hid : m = id
        · rw [if_pos ⟨by rw [hkind, hsuffix, hid], hphase⟩]
          simp [hid]
        · rw [if_neg fun h => hid (by simpa using (List.cons.inj (List.cons.inj h.1).2).1.symm)]
          simp [hid]
      · rw [if_neg hphase, if_neg fun h => hphase h.2]
        simp
    · next hother =>
      rw [if_neg]
      · simp
      · intro hboth
        exact hother _ _ _ _ hboth.1 rfl

/-- A closed socket is in nobody's bucket, an open one in its user's. -/
theorem OwnedBut.holds_iff {r : Replica} (h : Owned r) (u s : String) :
    r.localUserSockets.Holds u s ↔ Connected r s ∧ userOf r s = some u :=
  ⟨h.sockets u s, fun hopen => h.listed u s not_false hopen.1 hopen.2⟩

theorem OwnedBut.holds_known {fresh : String → Prop} {r : Replica} (h : OwnedBut fresh r) {m s : String}
    (hs : r.localSubscribers.Holds m s) : r.clients.get s ≠ none := by
  obtain ⟨⟨t, v⟩, hmem, rfl⟩ := List.mem_map.1 hs
  exact (h.known m t v hmem).1

theorem subscribeToMatch_holds (r : Replica) (id matchId m s : String) :
    (r.subscribeToMatch id matchId).localSubscribers.Holds m s ↔
      m = matchId ∧ s = id ∨ r.localSubscribers.Holds m s := Index.holds_add

theorem eq_and_eq {a b c d : String} : a = b ∧ c = d ↔ d = c ∧ b = a :=
  and_comm.trans (and_congr eq_comm eq_comm)

theorem iff_kept {joined held opened : Prop} (hopened : opened) (hnot : ¬joined) : held ↔ opened ∧ (joined ∨ held) :=
  ⟨fun hheld => ⟨hopened, .inr hheld⟩, fun hheld => hheld.2.resolve_left hnot⟩

/-- **What a step does to the buckets an open socket is in.** -/
theorem Owned.step_holds {r : Replica} (h : Owned r) (e : Event) (m : String) {s : String}
    (hs : Connected (Sockets.step r e) s) : (Sockets.step r e).localSubscribers.Holds m s ↔
      Connected r s ∧ (joins r m s e ∨ r.localSubscribers.Holds m s ∧ ¬leaves m s e) := by
  cases e with
  | connect id token =>
    unfold Sockets.step at hs ⊢
    dsimp only at hs ⊢
    simp only [joins, leaves, Bool.false_eq_true, false_or, not_false_iff, and_true]
    split at hs
    · next hnew =>
      have hfresh : ¬r.localSubscribers.Holds m id := fun hheld => h.holds_known hheld hnew
      unfold Replica.handleConnection at hs ⊢
      cases hauth : authenticate token with
      | none =>
        rw [hauth] at hs
        dsimp only at hs ⊢
        rw [opened_disconnect] at hs ⊢
        rw [connected_set rfl] at hs
        split at hs
        · cases hs
        · exact ⟨fun hheld => ⟨hs, hheld⟩, fun hheld => hheld.2⟩
      | some userId =>
        rw [hauth] at hs
        have hopened : OwnedBut (· = id) (r.opened id (some userId)) := Owned.opened h hnew userId
        have hclosing := dedupe_closing hopened.named userId id
        obtain ⟨hopen, hkept⟩ := (hclosing.connected s).1 hs
        have hsame := hclosing.subscribers m s
        dsimp only
        rw [connected_set (show (r.opened id (some userId)).clients = _ from rfl)] at hopen
        split at hopen
        · next heq =>
          subst heq
          exact ⟨fun hheld => (hfresh (hsame.1 hheld).1).elim, fun hheld => (hfresh hheld.2).elim⟩
        · exact ⟨fun hheld => ⟨hopen, (hsame.1 hheld).1⟩,
            fun hheld => hsame.2 ⟨hheld.2, fun hgone => hkept hgone.1⟩⟩
    · exact ⟨fun hheld => ⟨hs, hheld⟩, fun hheld => hheld.2⟩
  | resumed id found =>
    unfold Sockets.step at hs ⊢
    dsimp only at hs ⊢
    simp only [joins, leaves, Bool.false_eq_true, not_false_iff, and_true, decide_eq_true_eq]
    split at hs
    · next hnew =>
      refine iff_kept hs fun hboth => ?_
      obtain ⟨heq, -⟩ := hboth
      subst heq
      obtain ⟨c, hc, -⟩ := hs
      cases hnew.symm.trans hc
    · next c hc =>
      unfold Replica.resumeActiveMatch at hs ⊢
      cases found with
      | none => exact iff_kept hs fun hnone => by cases hnone.2
      | some matchId =>
        dsimp only at hs ⊢
        by_cases hconnected : c.connected = true
        · rw [if_pos hconnected] at hs ⊢
          rw [subscribeToMatch_holds]
          have hopen : Connected r s := hs
          simp only [hopen, true_and, Option.some.injEq]
          exact or_congr_left eq_and_eq
        · rw [if_neg hconnected] at hs ⊢
          refine iff_kept hs fun hboth => ?_
          obtain ⟨heq, -⟩ := hboth
          subst heq
          obtain ⟨c', hc', hopen⟩ := hs
          rw [hc, Option.some.injEq] at hc'
          exact hconnected (hc' ▸ hopen)
  | message channel envelope =>
    have hopen : Connected r s := by
      obtain ⟨c, hc, hconnected⟩ := hs
      exact ⟨c, by rw [← handleMessage_clients r channel envelope]; exact hc, hconnected⟩
    unfold Sockets.step
    rw [handleMessage_holds]
    simp only [joins, leaves, Bool.false_eq_true, not_false_iff, and_true, List.any_eq_true, decide_eq_true_eq,
      h.holds_iff, hopen, true_and]
  | subscribe id matchId =>
    unfold Sockets.step at hs ⊢
    dsimp only at hs ⊢
    simp only [joins, leaves, Bool.false_eq_true, not_false_iff, and_true, decide_eq_true_eq]
    split at hs
    · next hnew =>
      refine iff_kept hs fun hboth => ?_
      obtain ⟨heq, -⟩ := hboth
      subst heq
      obtain ⟨c, hc, -⟩ := hs
      cases hnew.symm.trans hc
    · rw [subscribeToMatch_holds]
      have hopen : Connected r s := hs
      simp only [hopen, true_and]
      exact or_congr_left eq_and_eq
  | unsubscribe id matchId =>
    unfold Sockets.step at hs ⊢
    dsimp only at hs ⊢
    simp only [joins, leaves, Bool.false_eq_true, false_or, decide_eq_true_eq]
    split at hs
    · next hnew =>
      refine ⟨fun hheld => ⟨hs, hheld, fun hleft => h.holds_known hheld (hleft.1 ▸ hnew)⟩, fun hheld => hheld.2.1⟩
    · have hopen : Connected r s := hs
      refine (@Index.holds_remove _ _ _ _ _ r.localSubscribers matchId _ id _).trans ?_
      simp only [hopen, true_and]
      exact and_congr_right fun _ => not_congr eq_and_eq
  | disconnect id =>
    have hclosing := disconnect_closing h.named id
    obtain ⟨hopen, hkept⟩ := (hclosing.connected s).1 hs
    simp only [joins, leaves, Bool.false_eq_true, false_or, not_false_iff, and_true]
    exact (hclosing.subscribers m s).trans
      ⟨fun hheld => ⟨hopen, hheld.1⟩, fun hheld => ⟨hheld.2, fun hgone => hkept hgone.1⟩⟩

theorem after_listens (m : String) {s : String} : ∀ {history : List Event}, Connected (after history) s →
    ((after history).localSubscribers.Holds m s ↔ listens m s history)
  | [], hs => by
    obtain ⟨c, hc, -⟩ := hs
    cases hc
  | e :: older, hs => by
    rw [after, (after_owned older).step_holds e m hs, listens]
    by_cases hopen : Connected (after older) s
    · rw [after_listens m hopen]
      simp [hopen]
    · simp [hopen]

/-! ## What a message delivers -/

/-- How often a message goes to a socket of the user. -/
def copies (history : List Event) (channel : String) (envelope : Envelope) (s u : String) : Nat :=
  match parts channel with
  | [kind, id, suffix] =>
    if suffix ≠ "events" ∨ envelope.type = "" then 0
    else if kind = "room" then (envelope.targetUserIds.getD []).count u
    else if kind = "match" ∧ Replica.isFor envelope (some u) ∧
        listens id s (.message channel (some envelope) :: history) then 1
    else 0
  | _ => 0

/-- Of deliveries to sockets that differ, one at most is the socket's. -/
theorem filter_deliveries {α : Type} {key : α → String} {g : α → Option Delivery}
    (hg : ∀ a d, g a = some d → d.socketId = key a) (s : String) :
    ∀ {l : List α}, (l.map key).Nodup →
      (l.filterMap g).filter (·.socketId = s) = ((l.find? (key · = s)).bind g).toList
  | [], _ => rfl
  | a :: l, h => by
    obtain ⟨hfresh, hnodup⟩ := List.nodup_cons.1 h
    have ih := filter_deliveries hg s hnodup
    by_cases heq : key a = s
    · have hnone : l.find? (key · = s) = none := by
        rw [List.find?_eq_none]
        intro b hb hkey
        exact hfresh (heq ▸ of_decide_eq_true hkey ▸ List.mem_map_of_mem hb)
      rw [hnone] at ih
      rw [List.find?_cons_of_pos (by simpa using heq), List.filterMap_cons]
      cases hga : g a with
      | none =>
        dsimp only
        rw [ih, Option.bind_some, hga]
        rfl
      | some d =>
        dsimp only
        rw [List.filter_cons_of_pos (by simpa using (hg a d hga).trans heq), ih, Option.bind_some, hga]
        rfl
    · rw [List.find?_cons_of_neg (by simpa using heq), List.filterMap_cons, ← ih]
      cases hga : g a with
      | none => rfl
      | some d => exact List.filter_cons_of_neg (by simpa using fun hd => heq ((hg a d hga).symm.trans hd))

theorem Owned.deliverToUsers {r : Replica} (h : Owned r) (envelope : Envelope) {s u : String} (hs : Connected r s)
    (hu : userOf r s = some u) : (r.deliverToUsers envelope).filter (·.socketId = s) =
      List.replicate ((envelope.targetUserIds.getD []).count u) ⟨s, envelope.type, envelope.payload⟩ := by
  unfold Replica.deliverToUsers
  induction envelope.targetUserIds.getD [] with
  | nil => rfl
  | cons t targets ih =>
    rw [List.flatMap_cons, List.filter_append, ih, List.count_cons, Nat.add_comm, List.replicate_add]
    congr 1
    have hmem : s ∈ Assoc.keys (Index.bucket r.localUserSockets t) ↔ t = u :=
      (h.holds_iff t s).trans
        ⟨fun hheld => Option.some.inj (hheld.2.symm.trans hu), fun heq => ⟨hs, heq ▸ hu⟩⟩
    rw [← List.filterMap_eq_map, @filter_deliveries _ id _ ?_ s _ (by simpa using h.once t)]
    · cases hfind : List.find? (fun a => decide (id a = s)) (Index.bucket r.localUserSockets t).keys with
      | none =>
        have hne : t ≠ u := fun heq => by
          have := List.find?_eq_none.1 hfind s (hmem.2 heq)
          simp at this
        simp [hne]
      | some a =>
        have hkey : a = s := by simpa using List.find?_some hfind
        have heq : t = u := hmem.1 (hkey ▸ List.mem_of_find?_eq_some hfind)
        simp [hkey, heq]
    · intro a d hd
      cases hd
      rfl

theorem Owned.deliverToMatch {r : Replica} (h : Owned r) (envelope : Envelope) (m : String) {s u : String}
    (hu : userOf r s = some u) : (r.deliverToMatch m envelope).filter (·.socketId = s) =
      List.replicate (if Replica.isFor envelope (some u) ∧ r.localSubscribers.Holds m s then 1 else 0)
        ⟨s, envelope.type, envelope.payload⟩ := by
  unfold Replica.deliverToMatch
  rw [@filter_deliveries _ Prod.fst _ ?_ s _ (h.distinct m)]
  · cases hfind : List.find? (fun a => decide (a.1 = s)) (r.localSubscribers.bucket m) with
    | none =>
      have hnot : ¬r.localSubscribers.Holds m s := fun hheld => by
        obtain ⟨a, ha, hkey⟩ := List.mem_map.1 hheld
        have := List.find?_eq_none.1 hfind a ha
        simp [hkey] at this
      simp [hnot]
    | some a =>
      obtain ⟨t, v⟩ := a
      have hkey : t = s := by simpa using List.find?_some hfind
      subst hkey
      have ha := List.mem_of_find?_eq_some hfind
      have hheld : r.localSubscribers.Holds m t := List.mem_map.2 ⟨_, ha, rfl⟩
      have hv : v = some u := (h.known m t v ha).2.trans hu
      subst hv
      by_cases hfor : Replica.isFor envelope (some u) <;> simp [hfor, hheld]
  · intro a d hd
    dsimp only at hd
    split at hd
    · cases hd
      rfl
    · cases hd

/-- **Each open socket gets what it listens to.** -/
theorem run_delivers (history : List Event) (channel : String) (envelope : Envelope) {s u : String}
    (hs : Connected (after history) s) (hu : userOf (after history) s = some u) :
    ((after history).handleMessage channel (some envelope)).2.filter (·.socketId = s) =
      List.replicate (copies history channel envelope s u) ⟨s, envelope.type, envelope.payload⟩ := by
  have howned := after_owned history
  have hclients := handleMessage_clients (after history) channel (some envelope)
  have hlistens : ∀ m, ((after history).handleMessage channel (some envelope)).1.localSubscribers.Holds m s ↔
      listens m s (.message channel (some envelope) :: history) := fun m => by
    refine @after_listens m s (.message channel (some envelope) :: history) ?_
    obtain ⟨c, hc, hopen⟩ := hs
    exact ⟨c, hclients ▸ hc, hopen⟩
  have hmatch : ∀ m, ((after history).handleMessage channel (some envelope)).2 =
      ((after history).handleMessage channel (some envelope)).1.deliverToMatch m envelope →
      ((after history).handleMessage channel (some envelope)).2.filter (·.socketId = s) =
        List.replicate (if Replica.isFor envelope (some u) ∧ listens m s (.message channel (some envelope) :: history)
          then 1 else 0) ⟨s, envelope.type, envelope.payload⟩ := fun m hsent => by
    have hu' : userOf ((after history).handleMessage channel (some envelope)).1 s = some u := by
      rw [userOf, hclients]
      exact hu
    rw [hsent, Owned.deliverToMatch (howned.handleMessage channel (some envelope)) envelope m hu']
    simp only [hlistens]
  unfold copies
  split
  · next kind id suffix hparts =>
    by_cases hskip : suffix ≠ "events" ∨ envelope.type = ""
    · unfold Replica.handleMessage
      rw [hparts]
      dsimp only
      rw [if_pos hskip, if_pos hskip]
      rfl
    rw [if_neg hskip]
    by_cases hroom : kind = "room"
    · unfold Replica.handleMessage
      rw [hparts]
      dsimp only
      rw [if_neg hskip, if_pos hroom, if_pos hroom]
      exact Owned.deliverToUsers howned envelope hs hu
    rw [if_neg hroom]
    by_cases hkind : kind = "match"
    · simp only [hkind, true_and]
      refine hmatch id ?_
      unfold Replica.handleMessage
      rw [hparts]
      dsimp only
      rw [if_neg hskip, if_neg hroom, if_neg (not_not.2 hkind)]
    · unfold Replica.handleMessage
      rw [hparts]
      dsimp only
      rw [if_neg hskip, if_neg hroom, if_pos hkind, if_neg fun h => hkind h.1]
      rfl
  · next hother =>
    have hnone : ((after history).handleMessage channel (some envelope)).2 = [] := by
      unfold Replica.handleMessage
      split
      · next kind id suffix _ hparts _ => exact (hother kind id suffix hparts).elim
      · rfl
    rw [hnone]
    rfl

/-! ## Who a match is kept from -/

section

variable (players : String → List String)

/-- The phase events on the channel of a match name players of it, and a socket
resumes a match its user plays. -/
def Honest (r : Replica) (e : Event) : Prop :=
  (∀ m, ∀ u ∈ namedBy m e, u ∈ players m) ∧
    ∀ s m, e = .resumed s (some m) ∨ e = .subscribe s m → ∃ u ∈ players m, userOf r s = some u

variable {players}

theorem joins_player {r : Replica} {e : Event} (h : Honest players r e) {m s : String} (hjoins : joins r m s e = true) :
    ∃ u ∈ players m, userOf r s = some u := by
  cases e with
  | resumed id found =>
    obtain ⟨rfl, rfl⟩ : id = s ∧ found = some m := by simpa [joins] using hjoins
    exact h.2 id m (.inl rfl)
  | subscribe id matchId =>
    obtain ⟨rfl, rfl⟩ : id = s ∧ matchId = m := by simpa [joins] using hjoins
    exact h.2 id matchId (.inr rfl)
  | message channel envelope =>
    obtain ⟨u, hu, huser⟩ := List.any_eq_true.1 hjoins
    exact ⟨u, h.1 m u hu, of_decide_eq_true huser⟩
  | connect | unsubscribe | disconnect => cases hjoins

/-- A socket stays its user's. -/
theorem Owned.step_user {r : Replica} (h : Owned r) (e : Event) {s : String} (hs : r.clients.get s ≠ none) :
    userOf (Sockets.step r e) s = userOf r s := by
  cases e with
  | connect id token =>
    unfold Sockets.step
    dsimp only
    split
    · next hnew =>
      have hne : s ≠ id := fun heq => hs (heq ▸ hnew)
      unfold Replica.handleConnection
      cases authenticate token with
      | none =>
        dsimp only
        rw [opened_disconnect]
        unfold userOf
        dsimp only
        rw [Assoc.get_set_of_ne hne]
      | some userId =>
        have hopened : OwnedBut (· = id) (r.opened id (some userId)) := Owned.opened h hnew userId
        refine ((dedupe_closing hopened.named userId id).user s).trans ?_
        unfold userOf Replica.opened
        dsimp only
        rw [Assoc.get_set_of_ne hne]
    · rfl
  | resumed id found =>
    unfold Sockets.step
    dsimp only
    split
    · rfl
    · unfold Replica.resumeActiveMatch
      split
      · split <;> rfl
      · rfl
  | message channel envelope =>
    unfold Sockets.step userOf
    rw [handleMessage_clients]
  | subscribe | unsubscribe =>
    unfold Sockets.step
    dsimp only
    split <;> rfl
  | disconnect id => exact (disconnect_closing h.named id).user s

theorem listens_player {m s : String} : ∀ {history : List Event},
    (∀ e older, e :: older <:+ history → Honest players (after older) e) → listens m s history →
      ∃ u ∈ players m, userOf (after history) s = some u
  | [], _, hs => by cases hs
  | e :: older, hhonest, hs => by
    obtain ⟨hopen, hs⟩ := of_decide_eq_true hs
    have hknown : (after older).clients.get s ≠ none := by
      obtain ⟨c, hc, -⟩ := hopen
      rw [hc]
      exact Option.some_ne_none c
    rw [after, (after_owned older).step_user e hknown]
    rcases hs with hjoins | ⟨hs, -⟩
    · exact joins_player (hhonest e older (List.suffix_refl _)) hjoins
    · exact listens_player (fun e' o' ho => hhonest e' o' (ho.trans (List.suffix_cons e older))) hs

/-- **No message of a match reaches anyone but its players**, and none that is
for one of them reaches the other. -/
theorem run_private {history : List Event}
    (hhonest : ∀ e older, e :: older <:+ history → Honest players (after older) e) {channel m : String}
    (hchannel : parts channel = ["match", m, "events"]) {envelope : Envelope}
    (hmessage : Honest players (after history) (.message channel (some envelope))) {d : Delivery}
    (hd : d ∈ ((after history).handleMessage channel (some envelope)).2) (hopen : Connected (after history) d.socketId) :
    ∃ u ∈ players m, userOf (after history) d.socketId = some u ∧
      (envelope.targetUserId = none ∨ envelope.targetUserId = some "" ∨ envelope.targetUserId = some u) := by
  obtain ⟨u, hu⟩ := Option.ne_none_iff_exists'.1 ((after_owned history).named _ hopen)
  have hsent := run_delivers history channel envelope hopen hu
  have hcopies : copies history channel envelope d.socketId u ≠ 0 := fun hnone => by
    rw [hnone, List.replicate_zero, List.filter_eq_nil_iff] at hsent
    exact hsent d hd (by simp)
  unfold copies at hcopies
  rw [hchannel] at hcopies
  dsimp only at hcopies
  split at hcopies
  · exact (hcopies rfl).elim
  rw [if_neg (by decide)] at hcopies
  split at hcopies
  · next hlistens =>
    obtain ⟨-, hfor, hlistens⟩ := hlistens
    obtain ⟨v, hv, huser⟩ := @listens_player _ m d.socketId (.message channel (some envelope) :: history)
      (fun e older ho => (List.suffix_cons_iff.1 ho).elim (fun heq => by cases heq; exact hmessage) (hhonest e older))
      hlistens
    have hsame : userOf (after (.message channel (some envelope) :: history)) d.socketId =
        userOf (after history) d.socketId :=
      (after_owned history).step_user (.message channel (some envelope)) (userOf_known (by rw [hu]; rfl))
    obtain rfl : u = v := Option.some.inj (hu.symm.trans (hsame.symm.trans huser))
    refine ⟨u, hv, hu, ?_⟩
    unfold Replica.isFor at hfor
    cases htarget : envelope.targetUserId with
    | none => exact .inl rfl
    | some target =>
      rw [htarget] at hfor
      rcases of_decide_eq_true hfor with rfl | heq
      · exact .inr (.inl rfl)
      · exact .inr (.inr heq.symm)
  · exact (hcopies rfl).elim

end

/-- Two players and a third are there when the match's first phase event comes. -/
def firstPhase : List Event :=
  [.message "match:m1:events" (some ⟨"game:match:phase",
      .obj [("players", .arr [.obj [("id", .str "ann")], .obj [("id", .str "bob")]])], none, none⟩),
    .connect "s3" (some ⟨"eve", "access"⟩), .connect "s2" (some ⟨"bob", "access"⟩),
    .connect "s1" (some ⟨"ann", "access"⟩)]

def annsOffer : Envelope := ⟨"game:shop:offer", .obj [], some "ann", none⟩

def duel (m : String) : List String := if m = "m1" then ["ann", "bob"] else []

theorem honest_connect {r : Replica} (id : String) (token : Option JwtPayload) : Honest duel r (.connect id token) := by
  refine ⟨fun m u hu => (by cases hu), fun s m h => ?_⟩
  rcases h with h | h <;> cases h

theorem firstPhase_honest (e : Event) (older : List Event) (h : e :: older <:+ firstPhase) :
    Honest duel (after older) e := by
  have hparts : parts "match:m1:events" = ["match", "m1", "events"] := by decide
  simp only [firstPhase, List.suffix_cons_iff, List.cons.injEq, List.suffix_nil, reduceCtorEq, or_false] at h
  rcases h with ⟨rfl, rfl⟩ | ⟨rfl, rfl⟩ | ⟨rfl, rfl⟩ | ⟨rfl, rfl⟩
  · refine ⟨fun m u hu => ?_, fun s m h => by rcases h with h | h <;> cases h⟩
    rw [namedBy, hparts] at hu
    split at hu
    · next hm =>
      obtain rfl : "m1" = m := by simpa using hm.1
      exact hu
    · cases hu
  · exact honest_connect _ _
  · exact honest_connect _ _
  · exact honest_connect _ _

theorem firstPhase_private : ∃ u ∈ duel "m1", userOf (after firstPhase) "s1" = some u ∧
    (annsOffer.targetUserId = none ∨ annsOffer.targetUserId = some "" ∨ annsOffer.targetUserId = some u) := by
  have hmessage : Honest duel (after firstPhase) (.message "match:m1:events" (some annsOffer)) := by
    refine ⟨fun m u hu => ?_, fun s m h => by rcases h with h | h <;> cases h⟩
    rw [namedBy, if_neg fun h => absurd h.2 (by decide)] at hu
    cases hu
  have hsent : (⟨"s1", "game:shop:offer", .obj []⟩ : Delivery) ∈
      ((after firstPhase).handleMessage "match:m1:events" (some annsOffer)).2 := .head _
  exact run_private firstPhase_honest (by decide) hmessage hsent ⟨⟨some "ann", true, false⟩, by decide, rfl⟩

end AutoChess.Sockets
