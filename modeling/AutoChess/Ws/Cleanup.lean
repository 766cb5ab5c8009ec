/-
What a closed socket leaves behind. A socket gets into a bucket of
`localSubscribers` by `subscribeToMatch`, which also notes the match in
`socketMatches`, or by a phase event that names its user, which does not; and
`handleDisconnect` unsubscribes from the noted matches only. So the player of a
new match who closes the socket stays in the bucket of that match, and nothing
ever takes the entry out.

The tables are clean as long as every socket that closes is noted for each
bucket it is in, and `subscribeToMatch` is not called with a closed socket
(`resumeActiveMatch` looks first).
-/
import AutoChess.Ws.Sockets

namespace AutoChess.Sockets

/-! ## Sockets -/

def Connected (r : Replica) (s : String) : Prop := ∃ c, r.clients.get s = some c ∧ c.connected = true

/-- The socket was connected once, or turned away. -/
def Closed (r : Replica) (s : String) : Prop := ∃ c, r.clients.get s = some c ∧ c.connected = false

def userOf (r : Replica) (s : String) : Option String := (r.clients.get s).bind (·.user)

theorem Connected.not_closed {r : Replica} {s : String} (h : Connected r s) : ¬Closed r s := by
  rintro ⟨c, hc, hclosed⟩
  obtain ⟨c', hc', hconnected⟩ := h
  rw [hc] at hc'
  cases hc'
  rw [hclosed] at hconnected
  cases hconnected

theorem connected_or_closed {r : Replica} {s : String} {c : Socket} (h : r.clients.get s = some c) :
    Connected r s ∨ Closed r s := by
  cases hc : c.connected with
  | true => exact .inl ⟨c, h, hc⟩
  | false => exact .inr ⟨c, h, hc⟩

/-! ## Closing sockets -/

/-- What closing some connected sockets does: each leaves the sockets of its
user, the matches noted for it go, and with them its entries in the buckets of
these matches. -/
structure Closing (r r' : Replica) (gone : String → Prop) : Prop where
  connected : ∀ s, Connected r' s ↔ Connected r s ∧ ¬gone s
  known : ∀ s, r'.clients.get s = none ↔ r.clients.get s = none
  user : ∀ s, userOf r' s = userOf r s
  sockets : ∀ u s, r'.localUserSockets.Holds u s ↔ r.localUserSockets.Holds u s ∧ ¬(gone s ∧ userOf r s = some u)
  subscribers : ∀ m s, r'.localSubscribers.Holds m s ↔
    r.localSubscribers.Holds m s ∧ ¬(gone s ∧ r.socketMatches.Holds s m)
  noted : ∀ s m, r'.socketMatches.Holds s m ↔ r.socketMatches.Holds s m ∧ ¬gone s
  keys : ∀ s, s ∈ r'.socketMatches.keys ↔ s ∈ r.socketMatches.keys ∧ ¬gone s

theorem Closing.refl (r : Replica) : Closing r r fun _ => False := by
  constructor <;> simp

theorem Closing.trans {r r₁ r₂ : Replica} {gone₁ gone₂ : String → Prop} (h₁ : Closing r r₁ gone₁)
    (h₂ : Closing r₁ r₂ gone₂) : Closing r r₂ fun s => gone₁ s ∨ gone₂ s where
  connected s := by
    rw [h₂.connected, h₁.connected, not_or, and_assoc]
  known s := (h₂.known s).trans (h₁.known s)
  user s := (h₂.user s).trans (h₁.user s)
  sockets u s := by
    rw [h₂.sockets, h₁.sockets, h₁.user]
    grind
  subscribers m s := by
    rw [h₂.subscribers, h₁.subscribers, h₁.noted]
    grind
  noted s m := by
    rw [h₂.noted, h₁.noted, not_or, and_assoc]
  keys s := by
    rw [h₂.keys, h₁.keys, not_or, and_assoc]

theorem Closing.congr {r r' : Replica} {gone gone' : String → Prop} (h : Closing r r' gone)
    (heq : ∀ s, gone s ↔ gone' s) : Closing r r' gone' := (funext fun s => propext (heq s) : gone = gone') ▸ h

theorem clients_set_same {r r' : Replica} {id : String} {c c' : Socket} (hc : r.clients.get id = some c)
    (hclients : r'.clients = r.clients.set id c') (huser : c'.user = c.user) :
    (∀ s, r'.clients.get s = none ↔ r.clients.get s = none) ∧ (∀ s, userOf r' s = userOf r s) := by
  refine ⟨fun s => ?_, fun s => ?_⟩
  · rw [hclients]
    by_cases hs : s = id
    · subst hs
      simp [hc]
    · rw [Assoc.get_set_of_ne hs]
  · unfold userOf
    rw [hclients]
    by_cases hs : s = id
    · subst hs
      simp [hc, huser]
    · rw [Assoc.get_set_of_ne hs]

theorem connected_set {r r' : Replica} {id : String} {c : Socket} (hclients : r'.clients = r.clients.set id c)
    (s : String) : Connected r' s ↔ if s = id then c.connected = true else Connected r s := by
  unfold Connected
  rw [hclients]
  split
  · next hs =>
    subst hs
    simp
  · next hs => rw [Assoc.get_set_of_ne hs]

theorem supersede_closing (r : Replica) (id : String) : Closing r (r.supersede id) fun _ => False := by
  unfold Replica.supersede
  split
  · next c hc =>
    have hclients : ({ r with clients := r.clients.set id { c with superseded := true } } : Replica).clients =
        r.clients.set id { c with superseded := true } := rfl
    obtain ⟨hknown, huser⟩ := clients_set_same hc hclients rfl
    refine ⟨fun s => ?_, hknown, huser, by simp, by simp, by simp, by simp⟩
    rw [connected_set rfl]
    split
    · next hs =>
      subst hs
      simp [Connected, hc]
    · simp
  · exact .refl r

theorem foldl_unsubscribe (s : String) (ms : List String) (r : Replica) :
    ms.foldl (fun r m => r.unsubscribe m s) r =
      { r with localSubscribers := ms.foldl (fun ix m => ix.remove m s) r.localSubscribers } := by
  induction ms generalizing r with
  | nil => rfl
  | cons m ms ih =>
    rw [List.foldl_cons, List.foldl_cons, ih]
    rfl

/-- What `handleDisconnect` does to the tables. -/
theorem handleDisconnect_tables {r : Replica} {id sub : String} {connected superseded : Bool}
    (hc : r.clients.get id = some ⟨some sub, connected, superseded⟩) :
    (r.handleDisconnect id).clients = r.clients ∧
      (r.handleDisconnect id).localUserSockets = r.localUserSockets.remove sub id ∧
      (∀ m s, (r.handleDisconnect id).localSubscribers.Holds m s ↔
        r.localSubscribers.Holds m s ∧ ¬(s = id ∧ r.socketMatches.Holds s m)) ∧
      (r.handleDisconnect id).connectedSockets = r.connectedSockets.remove sub id ∧
      (∀ s m, (r.handleDisconnect id).socketMatches.Holds s m ↔ r.socketMatches.Holds s m ∧ s ≠ id) ∧
      ∀ s, s ∈ (r.handleDisconnect id).socketMatches.keys ↔ s ∈ r.socketMatches.keys ∧ s ≠ id := by
  unfold Replica.handleDisconnect
  rw [hc]
  dsimp only [Replica.unregisterUserSocket]
  cases hmatches : r.socketMatches.get id with
  | none =>
    have hnone : ∀ m, ¬r.socketMatches.Holds id m := fun m => Index.not_holds_of_get hmatches
    have hkey : id ∉ r.socketMatches.keys := Assoc.not_mem_keys hmatches
    have hkeys : ∀ s, s ∈ r.socketMatches.keys ↔ s ∈ r.socketMatches.keys ∧ s ≠ id := fun s =>
      ⟨fun h => ⟨h, fun heq => hkey (heq ▸ h)⟩, And.left⟩
    have hheld : ∀ s m, r.socketMatches.Holds s m ↔ r.socketMatches.Holds s m ∧ s ≠ id := fun s m =>
      ⟨fun h => ⟨h, fun heq => hnone m (heq ▸ h)⟩, And.left⟩
    have hsubscribers : ∀ m s, r.localSubscribers.Holds m s ↔
        r.localSubscribers.Holds m s ∧ ¬(s = id ∧ r.socketMatches.Holds s m) := fun m s =>
      ⟨fun h => ⟨h, fun ⟨heq, hm⟩ => hnone m (heq ▸ hm)⟩, And.left⟩
    split <;> exact ⟨rfl, rfl, hsubscribers, rfl, hheld, hkeys⟩
  | some matched =>
    have hbucket : ∀ m, r.socketMatches.Holds id m ↔ m ∈ matched.keys := fun m => by
      rw [Index.Holds, Index.bucket, hmatches, Option.getD_some]
    have hsubscribers : ∀ m s, Index.Holds (matched.keys.foldl (fun ix m => ix.remove m id) r.localSubscribers) m s ↔
        r.localSubscribers.Holds m s ∧ ¬(s = id ∧ r.socketMatches.Holds s m) := fun m s => by
      rw [Index.holds_foldl_remove, ← hbucket]
      grind
    have hheld : ∀ s m, Index.Holds (Assoc.delete r.socketMatches id) s m ↔ r.socketMatches.Holds s m ∧ s ≠ id :=
      fun s m => by rw [Index.holds_delete, and_comm]
    have hkeys : ∀ s, s ∈ Assoc.keys (Assoc.delete r.socketMatches id) ↔ s ∈ r.socketMatches.keys ∧ s ≠ id :=
      fun s => by rw [Assoc.mem_keys_delete, and_comm]
    dsimp only
    rw [foldl_unsubscribe]
    split <;> exact ⟨rfl, rfl, hsubscribers, rfl, hheld, hkeys⟩

/-- **A socket closes**: one that is connected, and so has a user. -/
theorem disconnect_closing {r : Replica} (hnamed : ∀ s, Connected r s → userOf r s ≠ none) (id : String) :
    Closing r (r.disconnect id) fun s => s = id ∧ Connected r s := by
  unfold Replica.disconnect
  split
  case h_2 hnone =>
    refine (Closing.refl r).congr fun s => iff_of_false not_false ?_
    rintro ⟨rfl, c, hc, -⟩
    rw [hnone] at hc
    cases hc
  next c hc =>
  split
  case isFalse hclosed =>
    refine (Closing.refl r).congr fun s => iff_of_false not_false ?_
    rintro ⟨rfl, c', hc', hconnected⟩
    rw [hc] at hc'
    cases hc'
    exact hclosed hconnected
  next hconnected =>
  have hopen : Connected r id := ⟨c, hc, hconnected⟩
  obtain ⟨sub, hsub⟩ : ∃ sub, c.user = some sub := by
    have := hnamed id hopen
    rwa [userOf, hc, Option.bind_some, ← Option.isSome_iff_ne_none, Option.isSome_iff_exists] at this
  have hgone : ∀ s, s = id ↔ s = id ∧ Connected r s := fun s => ⟨fun h => ⟨h, h ▸ hopen⟩, And.left⟩
  refine Closing.congr ?_ hgone
  obtain ⟨user, connected, superseded⟩ := c
  cases hsub
  cases hconnected
  have hget : (r.clients.set id ⟨some sub, false, superseded⟩).get id = some ⟨some sub, false, superseded⟩ :=
    Assoc.get_set_self _ _ _
  obtain ⟨hclients, hsockets, hsubscribers, -, hheld, hkeys⟩ :=
    handleDisconnect_tables (r := { r with clients := r.clients.set id ⟨some sub, false, superseded⟩ }) hget
  obtain ⟨hknown, huser⟩ := clients_set_same hc hclients rfl
  refine ⟨fun s => ?_, hknown, huser, fun u s => ?_, hsubscribers, hheld, hkeys⟩
  · rw [connected_set hclients]
    split
    · next hs => simp [hs]
    · next hs => simp [hs]
  · rw [hsockets, Index.holds_remove]
    have hown : userOf r id = some sub := by rw [userOf, hc, Option.bind_some]
    grind

/-- The older sockets of a user close one after the other. -/
theorem closing_foldl (current : String) (olds : List String) {r : Replica}
    (hnamed : ∀ s, Connected r s → userOf r s ≠ none) :
    Closing r (olds.foldl (fun r old => if old = current then r else (r.supersede old).disconnect old) r)
      fun s => (s ∈ olds ∧ s ≠ current) ∧ Connected r s := by
  induction olds generalizing r with
  | nil => exact (Closing.refl r).congr fun s => by simp
  | cons old olds ih =>
    rw [List.foldl_cons]
    split
    · next h =>
      refine (ih hnamed).congr fun s => ?_
      subst h
      simp only [List.mem_cons]
      grind
    · next h =>
      have hmark := supersede_closing r old
      have hnamed' : ∀ s, Connected (r.supersede old) s → userOf (r.supersede old) s ≠ none := fun s hs => by
        rw [hmark.user]
        exact hnamed s ((hmark.connected s).1 hs).1
      have hone := hmark.trans (disconnect_closing hnamed' old)
      have hall := hone.trans (ih fun s hs => by
        rw [hone.user]
        exact hnamed s ((hone.connected s).1 hs).1)
      refine hall.congr fun s => ?_
      rw [hone.connected, hmark.connected]
      simp only [List.mem_cons]
      grind

theorem dedupe_closing {r : Replica} (hnamed : ∀ s, Connected r s → userOf r s ≠ none) (userId current : String) :
    Closing r (r.dedupePreviousSockets userId current)
      fun s => (r.connectedSockets.Holds userId s ∧ s ≠ current) ∧ Connected r s :=
  closing_foldl current _ hnamed

/-! ## The invariant -/

/-- Whatever is registered is connected, and under its own user. -/
structure Tidy (r : Replica) : Prop where
  named : ∀ s, Connected r s → userOf r s ≠ none
  sockets : ∀ u s, r.localUserSockets.Holds u s → Connected r s ∧ userOf r s = some u
  subscribers : ∀ m s, r.localSubscribers.Holds m s → Connected r s
  noted : ∀ s, s ∈ r.socketMatches.keys → Connected r s

/-- The sockets that close are noted for the buckets they are in. -/
theorem Tidy.closing {r r' : Replica} {gone : String → Prop} (h : Tidy r) (hc : Closing r r' gone)
    (hnoted : ∀ s, gone s → ∀ m, r.localSubscribers.Holds m s → r.socketMatches.Holds s m) : Tidy r' where
  named s hs := by
    rw [hc.user]
    exact h.named s ((hc.connected s).1 hs).1
  sockets u s hs := by
    obtain ⟨hheld, hkept⟩ := (hc.sockets u s).1 hs
    obtain ⟨hopen, huser⟩ := h.sockets u s hheld
    rw [hc.connected, hc.user]
    exact ⟨⟨hopen, fun hgone => hkept ⟨hgone, huser⟩⟩, huser⟩
  subscribers m s hs := by
    obtain ⟨hheld, hkept⟩ := (hc.subscribers m s).1 hs
    rw [hc.connected]
    exact ⟨h.subscribers m s hheld, fun hgone => hkept ⟨hgone, hnoted s hgone m hheld⟩⟩
  noted s hs := by
    obtain ⟨hkey, hkept⟩ := (hc.keys s).1 hs
    rw [hc.connected]
    exact ⟨h.noted s hkey, hkept⟩

theorem Tidy.subscribe {r : Replica} (h : Tidy r) {s : String} (hs : Connected r s) (matchId : String)
    (userId : Option String) : Tidy (r.subscribe matchId s userId) where
  named := h.named
  sockets := h.sockets
  subscribers m t ht := by
    rcases Index.holds_add.1 ht with ⟨-, rfl⟩ | ht
    · exact hs
    · exact h.subscribers m t ht
  noted := h.noted

theorem Tidy.subscribeToMatch {r : Replica} (h : Tidy r) {s : String} (hs : Connected r s) (matchId : String) :
    Tidy (r.subscribeToMatch s matchId) where
  named := h.named
  sockets := h.sockets
  subscribers := (h.subscribe hs matchId _).subscribers
  noted t ht := by
    rcases Index.mem_keys_add.1 ht with rfl | ht
    · exact hs
    · exact h.noted t ht

theorem Tidy.unsubscribeFromMatch {r : Replica} (h : Tidy r) (s matchId : String) :
    Tidy (r.unsubscribeFromMatch s matchId) where
  named := h.named
  sockets := h.sockets
  subscribers m t ht := h.subscribers m t (Index.holds_remove.1 ht).1
  noted t ht := h.noted t (Index.mem_keys_discard.1 ht)

theorem Tidy.subscribePlayer {r : Replica} (h : Tidy r) (matchId userId : String) :
    Tidy (r.subscribePlayer matchId userId) := by
  have hall : ∀ s ∈ (r.localUserSockets.bucket userId).keys, Connected r s := fun s hs => (h.sockets userId s hs).1
  unfold Replica.subscribePlayer
  generalize (r.localUserSockets.bucket userId).keys = sockets at hall
  induction sockets generalizing r with
  | nil => exact h
  | cons s sockets ih =>
    exact ih (h.subscribe (hall s (by simp)) matchId _) fun t ht => hall t (List.mem_cons_of_mem s ht)

/-- A phase event subscribes live sockets. -/
theorem Tidy.handleMessage {r : Replica} (h : Tidy r) (channel : String) (envelope : Option Envelope) :
    Tidy (r.handleMessage channel envelope).1 := by
  have hplayers : ∀ (matchId : String) (players : List String) {r : Replica}, Tidy r →
      Tidy (players.foldl (Replica.subscribePlayer matchId) r) := fun matchId players => by
    induction players with
    | nil => exact id
    | cons userId players ih => exact fun h => ih (h.subscribePlayer matchId userId)
  unfold Replica.handleMessage
  split
  · split
    · exact h
    · split
      · exact h
      · split
        · exact h
        · dsimp only
          split
          · exact hplayers _ _ h
          · exact h
  · exact h

/-- A socket that was never there before. -/
theorem Tidy.client {r : Replica} (h : Tidy r) {id : String} (hnew : r.clients.get id = none) {c : Socket}
    (huser : c.connected = true → c.user ≠ none) : Tidy { r with clients := r.clients.set id c } := by
  have hother : ∀ {s}, Connected r s → s ≠ id := fun {s} ⟨c', hc', _⟩ heq => by
    rw [heq, hnew] at hc'
    cases hc'
  have hopen : ∀ {s}, Connected r s → Connected { r with clients := r.clients.set id c } s := fun hs =>
    (connected_set rfl _).2 (by rwa [if_neg (hother hs)])
  have hsame : ∀ {s}, s ≠ id → userOf { r with clients := r.clients.set id c } s = userOf r s := fun hs => by
    unfold userOf
    rw [Assoc.get_set_of_ne hs]
  refine ⟨fun s hs => ?_, fun u s hs => ?_, fun m s hs => hopen (h.subscribers m s hs), fun s hs => hopen (h.noted s hs)⟩
  · rw [connected_set rfl] at hs
    split at hs
    · next heq =>
      subst heq
      rw [userOf, Assoc.get_set_self]
      exact huser hs
    · next hne =>
      rw [hsame hne]
      exact h.named s hs
  · obtain ⟨hlive, hown⟩ := h.sockets u s hs
    exact ⟨hopen hlive, (hsame (hother hlive)).trans hown⟩

theorem opened_disconnect (r : Replica) (id : String) :
    (r.opened id none).disconnect id = { r with clients := r.clients.set id ⟨none, false, false⟩ } := by
  simp [Replica.disconnect, Replica.opened, Replica.handleDisconnect, Assoc.set_set]

theorem foldl_clients {α : Type} {f : Replica → α → Replica} (hf : ∀ r a, (f r a).clients = r.clients) :
    ∀ (as : List α) (r : Replica), (as.foldl f r).clients = r.clients
  | [], _ => rfl
  | a :: as, r => (foldl_clients hf as (f r a)).trans (hf r a)

theorem handleMessage_clients (r : Replica) (channel : String) (envelope : Option Envelope) :
    (r.handleMessage channel envelope).1.clients = r.clients := by
  unfold Replica.handleMessage
  split
  · split
    · rfl
    · split
      · rfl
      · split
        · rfl
        · dsimp only
          split
          · refine foldl_clients (fun r userId => ?_) _ r
            unfold Replica.subscribePlayer
            exact foldl_clients (f := fun r socketId => r.subscribe _ socketId (some userId)) (fun _ _ => rfl) _ r
          · rfl
  · rfl

/-! ## Steps -/

/-- The sockets an event closes, if they are connected. -/
def Closes (r : Replica) : Event → String → Prop
  | .connect id token, s => r.clients.get id = none ∧
      ∃ userId, authenticate token = some userId ∧ r.connectedSockets.Holds userId s
  | .disconnect id, s => s = id
  | _, _ => False

/-- A socket that closes is noted for every bucket it is in, and the gateway
subscribes no closed socket. -/
structure Noted (r : Replica) (e : Event) : Prop where
  closes : ∀ s, Closes r e s → Connected r s → ∀ m, r.localSubscribers.Holds m s → r.socketMatches.Holds s m
  connected : ∀ s m, e = .subscribe s m → ¬Closed r s

/-- A new socket closes the older ones of its user. -/
theorem opened_closing {r : Replica} (h : Tidy r) {id : String} (hnew : r.clients.get id = none) (userId : String) :
    Tidy (r.opened id (some userId)) ∧
      Closing (r.opened id (some userId)) ((r.opened id (some userId)).dedupePreviousSockets userId id)
        fun s => r.connectedSockets.Holds userId s ∧ Connected r s := by
  have hopened : Tidy (r.opened id (some userId)) := h.client hnew fun _ => nofun
  refine ⟨hopened, (dedupe_closing hopened.named userId id).congr fun s => ?_⟩
  rw [connected_set (show (r.opened id (some userId)).clients = _ from rfl)]
  constructor
  · rintro ⟨⟨hheld, hne⟩, hs⟩
    rw [if_neg hne] at hs
    exact ⟨hheld, hs⟩
  · rintro ⟨hheld, hs⟩
    have hne : s ≠ id := by
      rintro rfl
      obtain ⟨c, hc, -⟩ := hs
      cases hnew.symm.trans hc
    exact ⟨⟨hheld, hne⟩, by rwa [if_neg hne]⟩

theorem Tidy.handleConnection {r : Replica} (h : Tidy r) {id : String} {token : Option JwtPayload}
    (hnew : r.clients.get id = none) (hnoted : Noted r (.connect id token)) :
    Tidy (r.handleConnection id (authenticate token)) := by
  unfold Replica.handleConnection
  cases hauth : authenticate token with
  | none =>
    dsimp only
    rw [opened_disconnect]
    exact h.client hnew nofun
  | some userId =>
    obtain ⟨hopened, hclosing⟩ := opened_closing h hnew userId
    have hdeduped := hopened.closing hclosing fun s ⟨hheld, hs⟩ m hm =>
      hnoted.closes s ⟨hnew, userId, hauth, hheld⟩ hs m hm
    have hid : ¬Connected r id := fun ⟨c, hc, _⟩ => by cases hnew.symm.trans hc
    have hopen : Connected ((r.opened id (some userId)).dedupePreviousSockets userId id) id :=
      (hclosing.connected id).2 ⟨(connected_set rfl id).2 (by rw [if_pos rfl]), fun hgone => hid hgone.2⟩
    have hown : userOf ((r.opened id (some userId)).dedupePreviousSockets userId id) id = some userId := by
      rw [hclosing.user, userOf, Replica.opened, Assoc.get_set_self, Option.bind_some]
    refine ⟨hdeduped.named, fun u s hs => ?_, hdeduped.subscribers, hdeduped.noted⟩
    rcases Index.holds_add.1 hs with ⟨rfl, rfl⟩ | hs
    · exact ⟨hopen, hown⟩
    · exact hdeduped.sockets u s hs

/-- **A step keeps the tables tidy.** -/
theorem Tidy.step {r : Replica} (h : Tidy r) {e : Event} (hnoted : Noted r e) : Tidy (step r e) := by
  cases e with
  | connect id token =>
    unfold Sockets.step
    dsimp only
    split
    · next hnew => exact h.handleConnection hnew hnoted
    · exact h
  | resumed id found =>
    unfold Sockets.step
    dsimp only
    split
    · exact h
    · next c hc =>
      unfold Replica.resumeActiveMatch
      split
      · split
        · next hopen => exact h.subscribeToMatch ⟨c, hc, hopen⟩ _
        · exact h
      · exact h
  | message channel envelope => exact h.handleMessage channel envelope
  | subscribe id matchId =>
    unfold Sockets.step
    dsimp only
    split
    · exact h
    · next c hc =>
      exact h.subscribeToMatch ((connected_or_closed hc).resolve_right (hnoted.connected id matchId rfl)) matchId
  | unsubscribe id matchId =>
    unfold Sockets.step
    dsimp only
    split
    · exact h
    · exact h.unsubscribeFromMatch id matchId
  | disconnect id =>
    refine h.closing (disconnect_closing h.named id) ?_
    rintro s ⟨hs, hopen⟩ m hm
    exact hnoted.closes s hs hopen m hm

/-- **Only a noted step leaves no closed socket in a bucket.** -/
theorem Tidy.noted_of_step {r : Replica} (h : Tidy r) {e : Event}
    (hlive : ∀ m s, (Sockets.step r e).localSubscribers.Holds m s → Connected (Sockets.step r e) s) : Noted r e where
  closes s hcloses hs m hm := by
    by_contra hunnoted
    cases e with
    | connect id token =>
      obtain ⟨hnew, userId, hauth, hheld⟩ := hcloses
      obtain ⟨-, hclosing⟩ := opened_closing h hnew userId
      have hstep : Sockets.step r (.connect id token) = r.handleConnection id (some userId) := by
        unfold Sockets.step
        dsimp only
        rw [hnew, hauth]
      rw [hstep] at hlive
      have hkept := (hclosing.subscribers m s).2 ⟨hm, fun hgone => hunnoted hgone.2⟩
      exact ((hclosing.connected s).1 (hlive m s hkept)).2 ⟨hheld, hs⟩
    | disconnect id =>
      have hclosing := disconnect_closing h.named id
      have hkept := (hclosing.subscribers m s).2 ⟨hm, fun hgone => hunnoted hgone.2⟩
      exact ((hclosing.connected s).1 (hlive m s hkept)).2 ⟨hcloses, hs⟩
    | resumed | message | subscribe | unsubscribe => exact hcloses
  connected s m he hclosed := by
    subst he
    obtain ⟨c, hc, hopen⟩ := hclosed
    have hstep : Sockets.step r (.subscribe s m) = r.subscribeToMatch s m := by
      unfold Sockets.step
      dsimp only
      rw [hc]
    rw [hstep] at hlive
    exact Connected.not_closed (hlive m s (Index.holds_add.2 (.inl ⟨rfl, rfl⟩))) ⟨c, hc, hopen⟩

/-- No socket is connected again. -/
theorem step_closed {r : Replica} (h : Tidy r) (e : Event) {s : String} (hs : Closed r s) :
    Closed (Sockets.step r e) s := by
  obtain ⟨c, hc, hclosed⟩ := hs
  have hid : ∀ {id}, r.clients.get id = none → s ≠ id := fun hnew heq => by
    rw [heq, hnew] at hc
    cases hc
  have hclosing : ∀ {r₀ r' gone}, Closing r₀ r' gone → Closed r₀ s → Closed r' s := fun hclosing hs₀ => by
    obtain ⟨c₀, hc₀, -⟩ := id hs₀
    cases hget : Assoc.get _ s with
    | none =>
      cases ((hclosing.known s).1 hget).symm.trans hc₀
    | some c' =>
      refine (connected_or_closed hget).resolve_left fun hopen => ?_
      exact ((hclosing.connected s).1 hopen).1.not_closed hs₀
  have hsame : Closed r s := ⟨c, hc, hclosed⟩
  cases e with
  | connect id token =>
    unfold Sockets.step
    dsimp only
    split
    · next hnew =>
      unfold Replica.handleConnection
      cases hauth : authenticate token with
      | none =>
        dsimp only
        rw [opened_disconnect]
        exact ⟨c, (Assoc.get_set_of_ne (hid hnew)).trans hc, hclosed⟩
      | some userId =>
        have hopened : Closed (r.opened id (some userId)) s := ⟨c, (Assoc.get_set_of_ne (hid hnew)).trans hc, hclosed⟩
        obtain ⟨c', hc', hclosed'⟩ := hclosing (opened_closing h hnew userId).2 hopened
        exact ⟨c', hc', hclosed'⟩
    · exact hsame
  | resumed id found =>
    unfold Sockets.step
    dsimp only
    split
    · exact hsame
    · unfold Replica.resumeActiveMatch
      split
      · split <;> exact hsame
      · exact hsame
  | message channel envelope => exact ⟨c, (handleMessage_clients r channel envelope).symm ▸ hc, hclosed⟩
  | subscribe id matchId | unsubscribe id matchId =>
    unfold Sockets.step
    dsimp only
    split <;> exact hsame
  | disconnect id => exact hclosing (disconnect_closing h.named id) hsame

/-! ## Runs -/

/-- The event registers the socket itself. -/
def Registers (s : String) : Event → Prop
  | .connect id _ | .subscribe id _ => id = s
  | _ => False

/-- `handleDisconnect` has run for the socket, and no event has registered it
since. -/
def Gone (s : String) : List Event → Prop
  | [] => False
  | e :: older => Closed (after (e :: older)) s ∧ ¬Closed (after older) s ∨ Gone s older ∧ ¬Registers s e

structure Unregistered (r : Replica) (s : String) : Prop where
  sockets : ∀ u, ¬r.localUserSockets.Holds u s
  subscribers : ∀ m, ¬r.localSubscribers.Holds m s
  noted : s ∉ r.socketMatches.keys

/-- Nothing of a closed socket is left, and only connected sockets are in the
buckets. -/
structure Clean (history : List Event) : Prop where
  gone : ∀ s, Gone s history → Unregistered (after history) s
  live : ∀ m s, (after history).localSubscribers.Holds m s → Connected (after history) s

theorem initial_tidy : Tidy .initial := by
  refine ⟨?_, nofun, nofun, nofun⟩
  rintro s ⟨c, hc, -⟩
  cases hc

theorem after_tidy : ∀ {history : List Event}, (∀ e older, e :: older <:+ history → Noted (after older) e) →
    Tidy (after history)
  | [], _ => initial_tidy
  | e :: older, h => (after_tidy fun e' o' ho => h e' o' (ho.trans (List.suffix_cons e older))).step
      (h e older (List.suffix_refl _))

theorem Gone.closed {s : String} : ∀ {history : List Event},
    (∀ e older, e :: older <:+ history → Noted (after older) e) → Gone s history → Closed (after history) s
  | [], _, hgone => hgone.elim
  | e :: older, h, hgone => by
    have hnoted : ∀ e' o', e' :: o' <:+ older → Noted (after o') e' := fun e' o' ho =>
      h e' o' (ho.trans (List.suffix_cons e older))
    rcases hgone with hgone | ⟨hgone, -⟩
    · exact hgone.1
    · exact step_closed (after_tidy hnoted) e (Gone.closed hnoted hgone)

theorem Tidy.clean {history : List Event} (h : Tidy (after history))
    (hclosed : ∀ s, Gone s history → Closed (after history) s) : Clean history where
  gone s hs :=
    have hopen : ¬Connected (after history) s := fun hopen => hopen.not_closed (hclosed s hs)
    ⟨fun u hu => hopen (h.sockets u s hu).1, fun m hm => hopen (h.subscribers m s hm), fun hk => hopen (h.noted s hk)⟩
  live := h.subscribers

/-- **Closed sockets**: the tables are clean throughout exactly when every
event is a noted one. -/
theorem run_clean (history : List Event) : (∀ older, older <:+ history → Clean older) ↔
    ∀ e older, e :: older <:+ history → Noted (after older) e := by
  constructor
  · intro h
    induction history with
    | nil => exact fun e older ho => by simp at ho
    | cons e history ih =>
      have hbefore := ih fun older ho => h older (ho.trans (List.suffix_cons e history))
      intro e' older ho
      rcases List.suffix_cons_iff.1 ho with heq | ho
      · cases heq
        exact (after_tidy hbefore).noted_of_step (h _ (List.suffix_refl _)).live
      · exact hbefore e' older ho
  · intro h older ho
    have hnoted : ∀ e o, e :: o <:+ older → Noted (after o) e := fun e o hsuffix => h e o (hsuffix.trans ho)
    exact (after_tidy hnoted).clean fun s => Gone.closed hnoted

/-- A player connects, is paired, and closes the socket. -/
def leavesEarly : List Event :=
  [.disconnect "s1",
    .message "match:m1:events"
      (some ⟨"game:match:phase", .obj [("players", .arr [.obj [("id", .str "ann")]])], none, none⟩),
    .resumed "s1" none,
    .connect "s1" (some ⟨"ann", "access"⟩)]

/-- The socket is closed and still in the bucket of the match. -/
theorem leavesEarly_unclean : ¬∀ older, older <:+ leavesEarly → Clean older := by
  intro h
  have hstays : (after leavesEarly).localSubscribers.Holds "m1" "s1" := by decide
  have hgone : Gone "s1" leavesEarly := by
    refine .inl ⟨⟨⟨some "ann", false, false⟩, by decide, rfl⟩, fun hclosed => ?_⟩
    exact Connected.not_closed ⟨⟨some "ann", true, false⟩, by decide, rfl⟩ hclosed
  exact ((h leavesEarly (List.suffix_refl _)).gone "s1" hgone).subscribers "m1" hstays

end AutoChess.Sockets
