/-
One connection a user. A connection that is let in closes the user's older one
and takes its place, so the gateway's table, the bridge's and the open sockets
say the same thing: a user's only socket is the last that was let in, until it
closes. Disconnect handling starts when that socket goes, once each time, and
never for one that was superseded.
-/
import AutoChess.Ws.Delivery

namespace AutoChess.Sockets

/-! ## The connections of a user -/

/-- No connection has the id yet. -/
def fresh (id : String) (history : List Event) : Bool :=
  history.all fun e =>
    match e with
    | .connect other _ => other ≠ id
    | _ => true

/-- The user's last connection, if it is open. -/
def current (u : String) : List Event → Option String
  | [] => none
  | .connect id token :: older => if fresh id older ∧ authenticate token = some u then some id else current u older
  | .disconnect id :: older => if current u older = some id then none else current u older
  | _ :: older => current u older

/-- How often the user's connection went with no newer one. -/
def drops (u : String) : List Event → Nat
  | [] => 0
  | .disconnect id :: older => drops u older + if current u older = some id then 1 else 0
  | _ :: older => drops u older

/-! ## Closing a socket -/

theorem handleDisconnect_departed {r : Replica} {id sub : String} {connected superseded : Bool}
    (hc : r.clients.get id = some ⟨some sub, connected, superseded⟩) :
    (r.handleDisconnect id).departed = if superseded then r.departed else sub :: r.departed := by
  unfold Replica.handleDisconnect
  rw [hc]
  dsimp only [Replica.unregisterUserSocket]
  cases r.socketMatches.get id with
  | none => split <;> rfl
  | some matched =>
    dsimp only
    rw [foldl_unsubscribe]
    split <;> rfl

/-- A connected socket closes: its user's entry goes, and its disconnect is
handled if it was not superseded. -/
theorem disconnect_tables {r : Replica} {id sub : String} {superseded : Bool}
    (hc : r.clients.get id = some ⟨some sub, true, superseded⟩) :
    (r.disconnect id).clients = r.clients.set id ⟨some sub, false, superseded⟩ ∧
      (r.disconnect id).connectedSockets = r.connectedSockets.remove sub id ∧
      (r.disconnect id).departed = if superseded then r.departed else sub :: r.departed := by
  unfold Replica.disconnect
  rw [hc]
  dsimp only
  rw [if_pos rfl]
  have hget : (r.clients.set id ⟨some sub, false, superseded⟩).get id = some ⟨some sub, false, superseded⟩ :=
    Assoc.get_set_self _ _ _
  obtain ⟨hclients, -, -, htable, -⟩ :=
    handleDisconnect_tables (r := { r with clients := r.clients.set id ⟨some sub, false, superseded⟩ }) hget
  exact ⟨hclients, htable,
    handleDisconnect_departed (r := { r with clients := r.clients.set id ⟨some sub, false, superseded⟩ }) hget⟩

theorem disconnect_of_closed {r : Replica} {id : String} (h : ¬Connected r id) : r.disconnect id = r := by
  unfold Replica.disconnect
  split
  · next c hc => rw [if_neg fun hopen => h ⟨c, hc, hopen⟩]
  · rfl

/-- What superseding some sockets does to the gateway's table and to those that
stay. -/
structure Superseding (r r' : Replica) (gone : String → Prop) : Prop where
  departed : r'.departed = r.departed
  held : ∀ u s, r'.connectedSockets.Holds u s ↔ r.connectedSockets.Holds u s ∧ ¬(gone s ∧ userOf r s = some u)
  kept : ∀ s, Connected r' s → r'.clients.get s = r.clients.get s

theorem supersede_table (r : Replica) (old : String) : (r.supersede old).connectedSockets = r.connectedSockets ∧
    (r.supersede old).departed = r.departed := by
  unfold Replica.supersede
  split <;> exact ⟨rfl, rfl⟩

theorem superseding_one {r : Replica} (hnamed : ∀ s, Connected r s → userOf r s ≠ none) (old : String) :
    Superseding r ((r.supersede old).disconnect old) fun s => s = old ∧ Connected r s := by
  have hmark := supersede_closing r old
  obtain ⟨htable, hdeparted⟩ := supersede_table r old
  by_cases hopen : Connected r old
  · obtain ⟨⟨user, connected, superseded⟩, hc, hconnected⟩ := id hopen
    cases hconnected
    obtain ⟨sub, hsub⟩ := Option.ne_none_iff_exists'.1 (hnamed old hopen)
    rw [userOf, hc, Option.bind_some] at hsub
    cases hsub
    have hclients : (r.supersede old).clients = r.clients.set old ⟨some sub, true, true⟩ := by
      unfold Replica.supersede
      rw [hc]
    obtain ⟨hset, hremove, hnone⟩ := @disconnect_tables (r.supersede old) old sub true
      (by rw [hclients, Assoc.get_set_self])
    refine ⟨hnone.trans hdeparted, fun u s => ?_, fun s hs => ?_⟩
    · rw [hremove, htable, Index.holds_remove]
      have hown : userOf r old = some sub := by rw [userOf, hc, Option.bind_some]
      grind
    · rw [connected_set hset] at hs
      split at hs
      · cases hs
      · next hne => rw [hset, Assoc.get_set_of_ne hne, hclients, Assoc.get_set_of_ne hne]
  · have hclosed : ¬Connected (r.supersede old) old := fun hs => hopen ((hmark.connected old).1 hs).1
    rw [disconnect_of_closed hclosed]
    refine ⟨hdeparted, fun u s => ?_, fun s hs => ?_⟩
    · rw [htable]
      exact ⟨fun hheld => ⟨hheld, fun hgone => hopen (hgone.1.1 ▸ hgone.1.2)⟩, And.left⟩
    · have hne : s ≠ old := fun heq => hclosed (heq ▸ hs)
      unfold Replica.supersede
      split
      · exact Assoc.get_set_of_ne hne
      · rfl

theorem superseding_foldl (current : String) (olds : List String) {r : Replica}
    (hnamed : ∀ s, Connected r s → userOf r s ≠ none) :
    Superseding r (olds.foldl (fun r old => if old = current then r else (r.supersede old).disconnect old) r)
      fun s => (s ∈ olds ∧ s ≠ current) ∧ Connected r s := by
  induction olds generalizing r with
  | nil => exact ⟨rfl, by simp, fun _ _ => rfl⟩
  | cons old olds ih =>
    rw [List.foldl_cons]
    split
    · next heq =>
      obtain ⟨hdeparted, hheld, hkept⟩ := ih hnamed
      refine ⟨hdeparted, fun u s => (hheld u s).trans ?_, hkept⟩
      simp only [List.mem_cons]
      grind
    · next hne =>
      have hone := superseding_one hnamed old
      have hclosing : Closing r ((r.supersede old).disconnect old) fun s => s = old ∧ Connected r s := by
        have := closing_foldl current [old] hnamed
        rw [List.foldl_cons, if_neg hne] at this
        exact this.congr fun s => by simp; grind
      have hrest := ih fun s hs => by
        rw [hclosing.user]
        exact hnamed s ((hclosing.connected s).1 hs).1
      have hall := closing_foldl current olds fun s hs => by
        rw [hclosing.user]
        exact hnamed s ((hclosing.connected s).1 hs).1
      refine ⟨hrest.departed.trans hone.departed, fun u s => ?_, fun s hs => ?_⟩
      · rw [hrest.held, hone.held, hclosing.connected, hclosing.user]
        simp only [List.mem_cons]
        grind
      · exact (hrest.kept s hs).trans (hone.kept s ((hall.connected s).1 hs).1)

/-! ## The invariant -/

/-- The tables say who is connected. -/
structure Serves (r : Replica) (now : String → Option String) : Prop where
  connected : ∀ u s, Connected r s ∧ userOf r s = some u ↔ now u = some s
  held : ∀ u s, r.connectedSockets.Holds u s ↔ now u = some s
  live : ∀ s c, r.clients.get s = some c → c.connected = true → c.superseded = false

theorem Serves.same {r r' : Replica} {now : String → Option String} (h : Serves r now) (hclients : r'.clients = r.clients)
    (htable : r'.connectedSockets = r.connectedSockets) : Serves r' now where
  connected u s := by
    unfold Connected userOf
    rw [hclients]
    exact h.connected u s
  held u s := by
    rw [htable]
    exact h.held u s
  live s c hc := by
    rw [hclients] at hc
    exact h.live s c hc

theorem handleMessage_tables (r : Replica) (channel : String) (envelope : Option Envelope) :
    (r.handleMessage channel envelope).1.connectedSockets = r.connectedSockets ∧
      (r.handleMessage channel envelope).1.departed = r.departed := by
  have hplayers : ∀ (id : String) (players : List String) (r : Replica),
      (players.foldl (Replica.subscribePlayer id) r).connectedSockets = r.connectedSockets ∧
        (players.foldl (Replica.subscribePlayer id) r).departed = r.departed := by
    intro id players
    induction players with
    | nil => exact fun _ => ⟨rfl, rfl⟩
    | cons u players ih =>
      intro r
      have hone : ∀ (sockets : List String) (r : Replica),
          (sockets.foldl (fun r s => r.subscribe id s (some u)) r).connectedSockets = r.connectedSockets ∧
            (sockets.foldl (fun r s => r.subscribe id s (some u)) r).departed = r.departed := by
        intro sockets
        induction sockets with
        | nil => exact fun _ => ⟨rfl, rfl⟩
        | cons s sockets hsockets => exact fun r => hsockets (r.subscribe id s (some u))
      obtain ⟨htable, hdeparted⟩ := ih (r.subscribePlayer id u)
      obtain ⟨htable', hdeparted'⟩ := hone (r.localUserSockets.bucket u).keys r
      exact ⟨htable.trans htable', hdeparted.trans hdeparted'⟩
  unfold Replica.handleMessage
  split
  · split
    · exact ⟨rfl, rfl⟩
    · split
      · exact ⟨rfl, rfl⟩
      · split
        · exact ⟨rfl, rfl⟩
        · dsimp only
          split
          · exact hplayers _ _ r
          · exact ⟨rfl, rfl⟩
  · exact ⟨rfl, rfl⟩

/-- An event that is no connection and no disconnect leaves the connections. -/
theorem step_quiet (r : Replica) {e : Event} (hconnect : ∀ id token, e ≠ .connect id token)
    (hdisconnect : ∀ id, e ≠ .disconnect id) : (step r e).clients = r.clients ∧
      (step r e).connectedSockets = r.connectedSockets ∧ (step r e).departed = r.departed := by
  cases e with
  | connect id token => exact (hconnect id token rfl).elim
  | disconnect id => exact (hdisconnect id rfl).elim
  | message channel envelope =>
    exact ⟨handleMessage_clients r channel envelope, handleMessage_tables r channel envelope⟩
  | resumed id found =>
    unfold step
    dsimp only
    split
    · exact ⟨rfl, rfl, rfl⟩
    · unfold Replica.resumeActiveMatch
      split
      · split <;> exact ⟨rfl, rfl, rfl⟩
      · exact ⟨rfl, rfl, rfl⟩
  | subscribe | unsubscribe =>
    unfold step
    dsimp only
    split <;> exact ⟨rfl, rfl, rfl⟩

/-- A socket goes: its user has none, and one disconnect is handled. -/
theorem Serves.disconnect {r : Replica} {now : String → Option String} (h : Serves r now)
    (hnamed : ∀ s, Connected r s → userOf r s ≠ none) (id : String) :
    Serves (r.disconnect id) (fun u => if now u = some id then none else now u) ∧
      ∀ u, (r.disconnect id).departed.count u = r.departed.count u + if now u = some id then 1 else 0 := by
  by_cases hopen : Connected r id
  · have hthere := hopen
    obtain ⟨⟨user, connected, superseded⟩, hc, hconnected⟩ := hthere
    cases hconnected
    obtain ⟨sub, hsub⟩ := Option.ne_none_iff_exists'.1 (hnamed id hopen)
    have hnow : ∀ u, now u = some id ↔ u = sub := fun u =>
      (h.connected u id).symm.trans
        ⟨fun hu => Option.some.inj (hu.2.symm.trans hsub), fun heq => ⟨hopen, heq ▸ hsub⟩⟩
    have hlive := h.live id _ hc rfl
    rw [userOf, hc, Option.bind_some] at hsub
    cases hsub
    cases hlive
    obtain ⟨hset, hremove, hdeparted⟩ := disconnect_tables hc
    obtain ⟨-, huser⟩ := clients_set_same hc hset rfl
    have hgone : ∀ {u s}, (if now u = some id then none else now u) = some s ↔ now u = some s ∧ s ≠ id := by
      intro u s
      split
      · next hid =>
        rw [hid]
        simp
        exact fun heq => heq.symm
      · next hid => exact ⟨fun hs => ⟨hs, fun heq => hid (heq ▸ hs)⟩, And.left⟩
    refine ⟨⟨fun u s => ?_, fun u s => ?_, fun s c hget hconnected => ?_⟩, fun u => ?_⟩
    · rw [hgone, connected_set hset, huser, ← h.connected]
      split
      · next heq => simp [heq]
      · next hne => simp [hne]
    · rw [hgone, hremove, Index.holds_remove, h.held]
      refine and_congr_right fun hs => not_congr ⟨And.right, fun heq => ⟨(hnow u).1 (heq ▸ hs), heq⟩⟩
    · rw [hset] at hget
      by_cases heq : s = id
      · rw [heq, Assoc.get_set_self] at hget
        cases hget
        cases hconnected
      · rw [Assoc.get_set_of_ne heq] at hget
        exact h.live s c hget hconnected
    · rw [hdeparted]
      simp only [Bool.false_eq_true, if_false, List.count_cons, hnow, beq_iff_eq]
      simp only [eq_comm]
  · have hnone : ∀ u, now u ≠ some id := fun u hu => hopen ((h.connected u id).2 hu).1
    rw [disconnect_of_closed hopen]
    simp only [hnone, if_false, Nat.add_zero]
    exact ⟨h, fun _ => trivial⟩

/-- A new socket is let in: it is its user's, and no disconnect is handled. -/
theorem Serves.handleConnection {r : Replica} {now : String → Option String} (h : Serves r now) (howned : Owned r)
    {id : String} (hnew : r.clients.get id = none) (userId : String) :
    Serves (r.handleConnection id (some userId)) (fun u => if u = userId then some id else now u) ∧
      (r.handleConnection id (some userId)).departed = r.departed := by
  have hopened : OwnedBut (· = id) (r.opened id (some userId)) := Owned.opened howned hnew userId
  have hclosing := dedupe_closing hopened.named userId id
  have htables : Superseding (r.opened id (some userId)) ((r.opened id (some userId)).dedupePreviousSockets userId id)
      fun s => ((r.opened id (some userId)).connectedSockets.Holds userId s ∧ s ≠ id) ∧
        Connected (r.opened id (some userId)) s :=
    superseding_foldl id ((r.opened id (some userId)).connectedSockets.bucket userId).keys hopened.named
  have hother : ∀ {s}, s ≠ id → (r.opened id (some userId)).clients.get s = r.clients.get s :=
    fun hne => Assoc.get_set_of_ne hne
  have huser : ∀ {s}, s ≠ id → userOf (r.opened id (some userId)) s = userOf r s := fun hne => by
    rw [userOf, hother hne, userOf]
  have hself : userOf (r.opened id (some userId)) id = some userId := by
    rw [userOf, Replica.opened, Assoc.get_set_self, Option.bind_some]
  have hopen : ∀ s, Connected (r.opened id (some userId)) s ↔ s = id ∨ Connected r s := fun s => by
    rw [connected_set (show (r.opened id (some userId)).clients = _ from rfl)]
    split
    · next heq => simp [heq]
    · next hne => simp [hne]
  have hfresh : ∀ u, now u ≠ some id := fun u hu => by
    obtain ⟨⟨c, hc, -⟩, -⟩ := (h.connected u id).2 hu
    cases hnew.symm.trans hc
  have holds : ∀ u s, (r.opened id (some userId)).connectedSockets.Holds u s ↔ now u = some s := h.held
  -- the sockets that close are the one the user had
  have hgone : ∀ s, ((r.opened id (some userId)).connectedSockets.Holds userId s ∧ s ≠ id) ∧
      Connected (r.opened id (some userId)) s ↔ now userId = some s := fun s => by
    rw [holds]
    refine ⟨fun hs => hs.1.1, fun hs => ⟨⟨hs, fun heq => hfresh userId (heq ▸ hs)⟩, (hopen s).2 (.inr ?_)⟩⟩
    exact ((h.connected userId s).2 hs).1
  have hnow : ∀ {u s}, now u = some s → Connected r s ∧ userOf (r.opened id (some userId)) s = some u := fun hs => by
    obtain ⟨hs', hu⟩ := (h.connected _ _).2 hs
    exact ⟨hs', (huser fun heq => hfresh _ (heq ▸ hs)).trans hu⟩
  -- one socket a user, before and after
  have hone : ∀ u s, (u = userId ∧ s = id ∨ now u = some s ∧ now userId ≠ some s) ↔
      (if u = userId then some id else now u) = some s := fun u s => by
    by_cases hu : u = userId
    · subst hu
      simp only [if_true, true_and, Option.some.injEq]
      exact ⟨fun hs => hs.elim Eq.symm fun hs => (hs.2 hs.1).elim, fun hs => .inl hs.symm⟩
    · simp only [hu, false_and, if_false, false_or]
      exact ⟨And.left, fun hs => ⟨hs, fun hs' => hu (Option.some.inj ((hnow hs).2.symm.trans (hnow hs').2))⟩⟩
  refine ⟨⟨fun u s => ?_, fun u s => ?_, fun s c hc hopen' => ?_⟩, htables.departed⟩
  · rw [← hone]
    refine (and_congr (hclosing.connected s) (Eq.congr_left (hclosing.user s))).trans ?_
    rw [hgone, hopen]
    by_cases heq : s = id
    · subst heq
      simp only [hself, true_or, hfresh, not_false_iff, and_true, true_and, Option.some.injEq, false_and, or_false]
      exact eq_comm
    · rw [huser heq, ← h.connected u s]
      simp only [heq, and_false, false_or]
      exact ⟨fun hs => ⟨⟨hs.1.1, hs.2⟩, hs.1.2⟩, fun hs => ⟨⟨hs.1.1, hs.2⟩, hs.1.2⟩⟩
  · rw [← hone]
    refine Index.holds_add.trans (or_congr_right ((htables.held u s).trans ?_))
    rw [holds, hgone]
    refine and_congr_right fun hs => not_congr ⟨And.left, fun hs' => ⟨hs', (hnow hs).2⟩⟩
  · have hkept := htables.kept s ⟨c, hc, hopen'⟩
    have hget : (r.opened id (some userId)).clients.get s = some c := hkept.symm.trans hc
    by_cases heq : s = id
    · rw [heq, Replica.opened, Assoc.get_set_self] at hget
      cases hget
      rfl
    · exact h.live s c ((hother heq).symm.trans hget) hopen'

theorem Serves.refused {r : Replica} {now : String → Option String} (h : Serves r now) {id : String}
    (hnew : r.clients.get id = none) :
    Serves (r.handleConnection id none) now ∧ (r.handleConnection id none).departed = r.departed := by
  unfold Replica.handleConnection
  dsimp only
  rw [opened_disconnect]
  have hfresh : ∀ u, now u ≠ some id := fun u hu => by
    obtain ⟨⟨c, hc, -⟩, -⟩ := (h.connected u id).2 hu
    cases hnew.symm.trans hc
  refine ⟨⟨fun u s => ?_, h.held, fun s c hc hopen => ?_⟩, rfl⟩
  · rw [connected_set rfl]
    split
    · next heq =>
      subst heq
      simp [hfresh]
    · next hne =>
      rw [← h.connected]
      unfold userOf
      dsimp only
      rw [Assoc.get_set_of_ne hne]
  · by_cases heq : s = id
    · rw [heq, Assoc.get_set_self] at hc
      cases hc
      cases hopen
    · rw [Assoc.get_set_of_ne heq] at hc
      exact h.live s c hc hopen

/-! ## Runs -/

/-- An id no connection has had is unknown, and no other is. -/
theorem after_known (id : String) : ∀ history, (after history).clients.get id = none ↔ fresh id history = true
  | [] => by simp [fresh, after, Replica.initial, Assoc.get]
  | e :: older => by
    have ih := after_known id older
    have howned := after_owned older
    rw [after]
    cases he : e with
    | connect other token =>
      have hcons : fresh id (.connect other token :: older) = true ↔ other ≠ id ∧ fresh id older = true := by
        simp [fresh]
      rw [hcons, ← ih]
      unfold step
      dsimp only
      split
      · next hnew =>
        have hset : ∀ c : Socket, Assoc.get (Assoc.set (after older).clients other c) id = none ↔
            other ≠ id ∧ (after older).clients.get id = none := fun c => by
          by_cases heq : id = other
          · subst heq
            simp
          · rw [Assoc.get_set_of_ne heq]
            simp [Ne.symm heq]
        unfold Replica.handleConnection
        cases authenticate token with
        | none =>
          dsimp only
          rw [opened_disconnect]
          exact hset _
        | some userId =>
          have hopened : OwnedBut (· = other) ((after older).opened other (some userId)) :=
            Owned.opened howned hnew userId
          exact ((dedupe_closing hopened.named userId other).known id).trans (hset _)
      · next c hc =>
        refine ⟨fun hnone => ⟨fun heq => ?_, hnone⟩, And.right⟩
        rw [heq, hnone] at hc
        cases hc
    | disconnect other => exact ((disconnect_closing howned.named other).known id).trans ih
    | resumed | message | subscribe | unsubscribe =>
      rw [← he, (step_quiet (after older) (by simp [he]) (by simp [he])).1, ih, he]
      simp [fresh]

/-- What the replica knows of a user: its socket is the current one, in both
tables, and every drop was handled. -/
structure Presence (history : List Event) (u : String) : Prop where
  connected : ∀ s, Connected (after history) s ∧ userOf (after history) s = some u ↔ current u history = some s
  gateway : ∀ s, (after history).connectedSockets.Holds u s ↔ current u history = some s
  bridge : ∀ s, (after history).localUserSockets.Holds u s ↔ current u history = some s
  departed : (after history).departed.count u = drops u history

theorem after_serves : ∀ history, Serves (after history) (fun u => current u history) ∧
    ∀ u, (after history).departed.count u = drops u history
  | [] => by
    have hnone : ∀ s, ¬Connected (after []) s := by
      intro s hopen
      obtain ⟨c, hc, -⟩ := hopen
      cases hc
    refine ⟨⟨fun u s => iff_of_false (fun h => hnone s h.1) fun h => ?_,
      fun u s => iff_of_false (fun h => ?_) fun h => ?_, fun s c hc => ?_⟩, fun u => rfl⟩
    · cases h
    · cases h
    · cases h
    · cases hc
  | e :: older => by
    obtain ⟨h, hdeparted⟩ := after_serves older
    have howned := after_owned older
    rw [after]
    cases he : e with
    | connect id token =>
      unfold step
      dsimp only
      by_cases hnew : (after older).clients.get id = none
      · rw [hnew]
        dsimp only
        have hfresh := (after_known id older).1 hnew
        cases hauth : authenticate token with
        | none =>
          have hnow : (fun u => current u (.connect id token :: older)) = fun u => current u older := by
            funext u
            simp [current, hauth]
          rw [hnow]
          obtain ⟨hserves, hsame⟩ := h.refused hnew
          exact ⟨hserves, fun u => by rw [hsame]; exact hdeparted u⟩
        | some userId =>
          obtain ⟨hserves, hsame⟩ := h.handleConnection howned hnew userId
          refine ⟨?_, fun u => by rw [hsame]; exact hdeparted u⟩
          have hnow : (fun u => current u (.connect id token :: older)) =
              fun u => if u = userId then some id else current u older := by
            funext u
            simp only [current, hfresh, hauth, true_and, Option.some.injEq, eq_comm]
          rw [hnow]
          exact hserves
      · obtain ⟨c, hc⟩ := Option.ne_none_iff_exists'.1 hnew
        rw [hc]
        have hstale : ¬fresh id older = true := fun hfresh => hnew ((after_known id older).2 hfresh)
        have hnow : (fun u => current u (.connect id token :: older)) = fun u => current u older := by
          funext u
          simp [current, hstale]
        rw [hnow]
        exact ⟨h, hdeparted⟩
    | disconnect id =>
      obtain ⟨hserves, hcount⟩ := h.disconnect howned.named id
      exact ⟨hserves, fun u => by rw [step, hcount, hdeparted]; rfl⟩
    | resumed | message | subscribe | unsubscribe =>
      obtain ⟨hclients, htable, hsame⟩ := step_quiet (after older) (e := e) (by simp [he]) (by simp [he])
      rw [he] at hclients htable hsame
      exact ⟨h.same hclients htable, fun u => by rw [hsame]; exact hdeparted u⟩

/-- **A user is connected through the last socket that was let in alone**, and
its going is handled once. -/
theorem run_presence (history : List Event) (u : String) : Presence history u := by
  obtain ⟨h, hdeparted⟩ := after_serves history
  refine ⟨h.connected u, h.held u, fun s => ?_, hdeparted u⟩
  rw [(after_owned history).holds_iff]
  exact h.connected u s

end AutoChess.Sockets
