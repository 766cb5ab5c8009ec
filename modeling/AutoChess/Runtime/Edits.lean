/-
What a roster action does when it is served alone (`program_edits`): the
match stays alike, or one player's stored state becomes what a function of
the shop makes of the state the action read. It makes few commands
(`program_roster`).
-/
import AutoChess.Runtime.Alone
import AutoChess.Runtime.Ready

namespace AutoChess.Runtime

open AutoChess.Game AutoChess.Shop Calls Expiring

/-- What one roster action makes of a player's state, after `drawn` UUIDs. -/
inductive Edited (host : Host) (drawn : Nat) (state : RuntimePlayerState) : RuntimePlayerState → Prop where
  | place {instanceId : String} {target : Place} {slot : Nat} {after : RuntimePlayerState}
      (h : placeUnit state instanceId target slot = .ok after) : Edited host drawn state after
  | buy {shop : StoredShop} {index : Nat} {offer : ShopOffer} {after : Holdings}
      (hoffer : offerToBuy ⟨state, shop⟩ index = .ok offer)
      (h : buyOffer ⟨state, shop⟩ index offer (host.uuid drawn) = .ok after) :
      Edited host drawn state after.state
  | sell {shop : StoredShop} {source : Place} {slot : Nat} {after : Holdings}
      (h : sellUnit ⟨state, shop⟩ source slot = .ok after) : Edited host drawn state after.state
  | refresh : Edited host drawn state state
  | fuse {shop : StoredShop} {unitId : UnitId} {sourceId targetId : Option String} {after : Holdings}
      (h : fuseUnits ⟨state, shop⟩ unitId sourceId targetId = .ok after) :
      Edited host drawn state after.state

/-- What a roster action leaves of the match it found. -/
inductive Edits (matchId : String) (host : Host) (s s' : Store) : Prop where
  | none (h : Alike s s')
  | one {runtime : MatchRuntimeState} {side : Side} {drawn : Nat} {state : RuntimePlayerState}
      (hread : ReadAs matchId s.hash runtime) (hphase : runtime.phase = .shop_place)
      (hstate : Edited host drawn (sideState runtime side) state)
      (hold : s.drawn ≤ drawn) (hnew : drawn < s'.drawn)
      (h : Alike (s.hset [stateField side state]) s')

/-- What a shop action makes of a player's holdings, after `drawn` UUIDs. -/
def dealt (host : Host) (matchSeed : String) (round : Nat) (userId : String) (drawn : Nat) (held : Holdings) :
    ShopAction → Except Rejection Holdings
  | .buy offerIndex =>
    (offerToBuy held offerIndex).bind fun offer => buyOffer held offerIndex offer (host.uuid drawn)
  | .sell source slot => sellUnit held source slot
  | .refresh => refreshOffers host.digests matchSeed round userId held
  | .fuse unitId sourceInstanceId targetInstanceId => fuseUnits held unitId sourceInstanceId targetInstanceId

/-- The same match, with the same shops and the same log of actions. -/
structure Level (s s' : Store) : Prop extends Alike s s' where
  shops : s'.shops = s.shops
  actionLog : s'.actionLog = s.actionLog

/-- What the script of a roster action writes. -/
def Store.commit (s : Store) (userId id : String) (field : FieldWrite) (shop : Option (StoredShop × Nat)) :
    Store :=
  { s.hset [field] with
    actionLog := put s.actionLog userId (Key.setEx s.now 120000 (id :: logged s userId))
    shops := match shop with
      | none => s.shops
      | some (shop, ttlSeconds) => put s.shops userId (Key.setEx s.now (ttlSeconds * 1000) shop) }

/-- What a roster action makes of the store it is served on: the match stays
level, or the action is logged, and the player's stored state, and with a
shop action the stored shop, become what the shop makes of them. -/
inductive Deals (matchId : String) (host : Host) (s s' : Store) : Request → Prop where
  | still {q : Request} (h : Level s s') : Deals matchId host s s' q
  | shop {userId id : String} {round : Nat} {action : ShopAction} {runtime : MatchRuntimeState} {side : Side}
      {drawn : Nat} {shop : StoredShop} {after : Holdings} (hread : ReadAs matchId s.hash runtime)
      (hround : runtime.round = round) (hphase : runtime.phase = .shop_place) (hside : playerId runtime side = userId)
      (hshop : (s.shops userId).get s.now = some shop) (hof : shop.round = round)
      (hfresh : id ∉ logged s userId) (hold : s.drawn ≤ drawn) (hnew : drawn < s'.drawn)
      (hdeal : dealt host runtime.matchSeed round userId drawn ⟨sideState runtime side, shop⟩ action = .ok after)
      (h : Level (s.commit userId id (stateField side after.state) (some (after.shop, SHOP_TTL_SECONDS))) s') :
      Deals matchId host s s' (.action userId round (.shop action id))
  | place {userId id instanceId : String} {round slot : Nat} {target : Place} {runtime : MatchRuntimeState} {side : Side}
      {after : RuntimePlayerState} (hread : ReadAs matchId s.hash runtime)
      (hround : runtime.round = round) (hphase : runtime.phase = .shop_place) (hside : playerId runtime side = userId)
      (hfresh : id ∉ logged s userId) (hnew : s.drawn < s'.drawn)
      (hplace : placeUnit (sideState runtime side) instanceId target slot = .ok after)
      (h : Level (s.commit userId id (stateField side after) none) s') :
      Deals matchId host s s' (.action userId round (.place instanceId target slot id))

/-- The commands of a roster action that leave rosters and shops alone. -/
def Beside : Cmd → Prop
  | .hgetall | .usernamesForPlayers _ _ | .findActiveByUserId _ | .hexistsActionLog _ _ | .getShop _
  | .randomUUID | .sleep _ | .updateState _ _ | .publish ⟨_, .state _⟩
  | .publish ⟨_, .offers _ _ _⟩ => True
  | .hset fields => ∃ a b, fields = [.player1Name a, .player2Name b]
  | .setLock lock _ _ | .releaseOwnedLock lock _ => lock ≠ .combat
  | _ => False

section
variable {matchId : String} {host : Host} {s₀ s s' : Store} {runtime : MatchRuntimeState} {side : Side}
  {state : RuntimePlayerState}

/-! ## Commands beside the script -/

theorem Level.refl (s : Store) : Level s s := ⟨.refl s, rfl, rfl⟩

theorem Level.trans {s₁ s₂ s₃ : Store} (h₁ : Level s₁ s₂) (h₂ : Level s₂ s₃) : Level s₁ s₃ :=
  ⟨h₁.toAlike.trans h₂.toAlike, h₂.shops.trans h₁.shops, h₂.actionLog.trans h₁.actionLog⟩

theorem Level.logged (h : Level s s') (userId : String) : logged s' userId = logged s userId := by
  simp only [Runtime.logged, h.actionLog, h.now]

theorem Level.commit (h : Level s s') (userId id : String) (field : FieldWrite)
    (shop : Option (StoredShop × Nat)) :
    Level (s.commit userId id field shop) (s'.commit userId id field shop) := by
  have hset := h.toAlike.hset [field]
  refine ⟨⟨hset.hash, hset.now, hset.drawn, hset.combatResult⟩, ?_, ?_⟩
  · cases shop <;> simp only [Store.commit, h.shops, h.now]
  · simp only [Store.commit, h.logged, h.actionLog, h.now]

/-- A look at the match, or a quiet command. -/
theorem Beside.quiet {c : Cmd} (hc : Beside c) : c = .hgetall ∨ Quiet c := by
  unfold Beside at hc
  split at hc <;> first | exact .inl rfl | exact .inr hc | exact .inr True.intro | exact hc.elim

theorem Beside.level {c : Cmd} (hc : Beside c) (host : Host) (s : Store) : Level s (act host c s).2 := by
  have hframe := act_frame host c s
  have halike : Alike s (act host c s).2 := by
    rcases hc.quiet with rfl | hquiet
    · exact .refl s
    · exact hquiet.alike host s
  refine ⟨halike, hframe.shops ?_, hframe.actionLog ?_⟩ <;> cases c <;> first | rfl | cases hc

theorem beside_wp {α : Type} {p : M α} (hp : p.Issues Beside) : p.wp (act host) (fun _ s' => Level s s') s :=
  Prog.Issues.wp hp (fun _ _ hc hs => hs.trans (hc.level host _)) (.refl s)

/-- Commands beside the script, then the rest. -/
theorem wp_beside {α β : Type} {p : M α} {f : α → M β} {Q : Except Err β → Store → Prop} (hp : p.Issues Beside)
    (hok : ∀ a s', Level s s' → (f a).wp (act host) Q s')
    (herr : ∀ e s', Level s s' → Q (.error e) s') : (p.bind f).wp (act host) Q s := by
  refine Prog.wp_bind.2 (Prog.wp_mono (beside_wp hp) fun o s' hs => ?_)
  cases o with
  | ok a => exact hok a s' hs
  | error e => exact herr e s' hs

theorem beside_then {α : Type} {c : Cmd} {f : Resp c → M α} (hc : Beside c)
    (hf : ∀ r, (f r).Issues Beside) : ((call c).bind f).Issues Beside := Prog.Issues.perform_bind hc hf

theorem orReject_beside {α : Type} (o : Except Rejection α) : (orReject o).Issues Beside := by
  cases o <;> trivial

theorem resolveMatch_beside (userId : String) : (resolveMatch userId).Issues Beside :=
  beside_then (by trivial) fun found => by cases found <;> trivial

theorem requireActionPhase_beside {round : Nat} {phase : MatchPhase} :
    (requireActionPhase matchId round phase).Issues Beside := by
  refine Prog.Issues.bind (Prog.Issues.bind ?_ fun found => by cases found <;> trivial) fun runtime => ?_
  · refine beside_then (by trivial) fun hash => ?_
    split
    · trivial
    · split
      · exact beside_then (by trivial) fun _ => beside_then ⟨_, _, rfl⟩ fun _ => trivial
      · trivial
  · split
    · trivial
    · split <;> trivial

theorem sideFor_beside (runtime : MatchRuntimeState) (userId : String) :
    (sideFor runtime userId).Issues Beside := (sideFor_silent runtime userId).mono fun _ => False.elim

theorem shopSide_beside (runtime : MatchRuntimeState) (userId : String) :
    (shopSide runtime userId).Issues Beside := by
  unfold shopSide
  split
  · trivial
  · split <;> trivial

theorem publishState_beside (runtime : MatchRuntimeState) (side : Side) (state : RuntimePlayerState) :
    (publishState runtime side state).Issues Beside :=
  (Prog.Issues.perform (by trivial) _).both (Prog.Issues.perform (by trivial) _)

theorem acquireLock_beside {lock : Lock} (hlock : lock ≠ .combat) (owner : String) (busy : Rejection) :
    ∀ attempts, (acquireLock lock owner busy attempts).Issues Beside
  | 0 => trivial
  | attempts + 1 => by
    refine beside_then hlock fun acquired => ?_
    split
    · trivial
    · exact beside_then (by trivial) fun _ => acquireLock_beside hlock owner busy attempts

theorem mutate_beside {userId : String} {round : Nat} {held : Holdings} {action : ShopAction} :
    (mutate host userId round runtime held action).Issues Beside := by
  cases action with
  | buy offerIndex =>
    exact (orReject_beside _).bind fun _ => beside_then (by trivial) fun _ => orReject_beside _
  | _ => exact orReject_beside _

theorem mirror_beside (runtime : MatchRuntimeState) (side : Side) (state : RuntimePlayerState) (b : Bool) :
    (do
      call (.updateState side state)
      publishState runtime side state
      return b : M Bool).Issues Beside :=
  beside_then (by trivial) fun _ => (publishState_beside _ _ _).bind fun _ => trivial

/-! ## The script -/

theorem Deals.trans {q : Request} (h : Deals matchId host s₀ s q) (hs : Level s s') : Deals matchId host s₀ s' q := by
  cases h with
  | still h => exact .still (h.trans hs)
  | shop hread hround hphase hside hshop hof hfresh hold hnew hdeal h =>
    exact .shop hread hround hphase hside hshop hof hfresh hold (hnew.trans_le hs.drawn) hdeal (h.trans hs)
  | place hread hround hphase hside hfresh hnew hplace h =>
    exact .place hread hround hphase hside hfresh (hnew.trans_le hs.drawn) hplace (h.trans hs)

theorem Deals.after {α : Type} {q : Request} {p : M α} (h : Deals matchId host s₀ s q) (hp : p.Issues Beside) :
    p.wp (act host) (fun _ s' => Deals matchId host s₀ s' q) s :=
  Prog.wp_mono (beside_wp hp) fun _ _ hs => h.trans hs

/-- The script writes what it is given, or nothing. -/
theorem actionLog_level (userId id : String) (field : FieldWrite) (shop : Option (StoredShop × Nat))
    (expectedPhase : MatchPhase) (round : Nat) :
    Level s (act host (.actionLog userId id field shop expectedPhase round) s).2 ∨
      id ∉ logged s userId ∧
        Level (s.commit userId id field shop) (act host (.actionLog userId id field shop expectedPhase round) s).2 := by
  show Level s (evalActionLog userId id field shop expectedPhase round s).2 ∨ id ∉ logged s userId ∧
    Level (s.commit userId id field shop) (evalActionLog userId id field shop expectedPhase round s).2
  unfold evalActionLog
  dsimp only
  split
  · exact .inl (.refl s)
  next hfresh =>
  split
  · exact .inl (.refl s)
  split
  · exact .inl (.refl s)
  cases shop <;> exact .inr ⟨hfresh, ⟨⟨_, _, rfl⟩, rfl, le_rfl, rfl⟩, rfl, rfl⟩

/-! ## Moving a unit -/

theorem ReadAs.alike (h : ReadAs matchId s.hash runtime) (hs : Alike s₀ s) :
    ReadAs matchId s₀.hash runtime := by
  obtain ⟨⟨a, b, hhash⟩, -, -, -⟩ := hs
  obtain ⟨a', b', h⟩ := h
  simp only [ReadAs, parseRuntimeHash, hhash, Option.bind_eq_bind, Option.bind_eq_some_iff,
    Option.pure_def, Option.some.injEq] at h ⊢
  obtain ⟨phase, hphase, round, hround, heq⟩ := h
  exact ⟨orDefault s₀.hash.player1Name "ผู้เล่น 1", orDefault s₀.hash.player2Name "ผู้เล่น 2", phase, hphase,
    round, hround, congrArg (fun runtime => { runtime with
      player1Name := orDefault s₀.hash.player1Name "ผู้เล่น 1"
      player2Name := orDefault s₀.hash.player2Name "ผู้เล่น 2" }) heq⟩

/-- The match is read as it is stored. -/
theorem requireActionPhase_level {Q : Except Err MatchRuntimeState → Store → Prop} {round : Nat}
    {phase : MatchPhase} (herr : ∀ e s', Level s s' → Q (.error e) s')
    (hok : ∀ runtime s', Level s s' → ReadAs matchId s.hash runtime → runtime.round = round →
      runtime.phase = phase → Q (.ok runtime) s') :
    (requireActionPhase matchId round phase).wp (act host) Q s := by
  have hreads : (requireActionPhase matchId round phase).wp (act host) (fun o _ => ∀ runtime, o = .ok runtime →
      ReadAs matchId s.hash runtime ∧ runtime.round = round ∧ runtime.phase = phase) s :=
    requireActionPhase_reads (fun _ _ _ _ heq => by cases heq) fun runtime _ _ hread hround hphase runtime' heq => by
      cases heq
      exact ⟨hread, hround, hphase⟩
  refine Prog.wp_mono (Prog.wp_and hreads (beside_wp requireActionPhase_beside)) ?_
  rintro o s' ⟨hread, hs⟩
  cases o with
  | error e => exact herr e s' hs
  | ok runtime =>
    obtain ⟨hread, hround, hphase⟩ := hread runtime rfl
    exact hok runtime s' hs hread hround hphase

/-- The side is the one the user plays. -/
theorem sideFor_level {Q : Except Err Side → Store → Prop} {userId : String} (herr : ∀ e, Q (.error e) s)
    (hok : ∀ side, playerId runtime side = userId → Q (.ok side) s) :
    (sideFor runtime userId).wp (act host) Q s := by
  unfold sideFor
  split
  · next h => exact hok .p1 h
  · split
    · next h => exact hok .p2 h
    · exact herr _

theorem shopSide_level {Q : Except Err Side → Store → Prop} {userId : String} (herr : ∀ e, Q (.error e) s)
    (hok : ∀ side, playerId runtime side = userId → Q (.ok side) s) :
    (shopSide runtime userId).wp (act host) Q s := by
  unfold shopSide
  split
  · next h => exact hok .p1 h
  · split
    · next h => exact hok .p2 h
    · exact herr _

theorem placeLocked_deals {userId instanceId id : String} {round slot : Nat} {target : Place}
    (hs : Level s₀ s) (hnew : s₀.drawn < s.drawn) :
    (placeLocked matchId userId round instanceId target slot id).wp (act host)
      (fun _ s' => Deals matchId host s₀ s' (.action userId round (.place instanceId target slot id))) s := by
  refine wp_beside (Prog.Issues.perform (by trivial) _) (fun logged s₁ hs₁ => ?_) fun _ _ h => .still (hs.trans h)
  replace hnew := hnew.trans_le hs₁.drawn
  replace hs₁ := hs.trans hs₁
  show Prog.wp (act host) _ (if logged = true then _ else _) s₁
  split
  · exact .still hs₁
  refine Prog.wp_bind.2 (requireActionPhase_level (fun _ _ h => .still (hs₁.trans h)) ?_)
  intro runtime s₂ hs₂ hread hround hphase
  replace hread := hread.alike hs₁.toAlike
  replace hnew := hnew.trans_le hs₂.drawn
  replace hs₂ := hs₁.trans hs₂
  refine Prog.wp_bind.2 (sideFor_level (fun _ => Deals.still hs₂) fun side hside => ?_)
  show Prog.wp (act host) _ ((orReject (placeUnit (sideState runtime side) instanceId target slot)).bind _) s₂
  cases hplace : placeUnit (sideState runtime side) instanceId target slot with
  | error r => exact Deals.still hs₂
  | ok after =>
    show Prog.wp (act host) _
      ((commitRuntimeAction runtime userId (stateField side after) id .shop_place).bind _) s₂
    refine Prog.wp_bind.2 (wp_call.2 ?_)
    have hlog := @actionLog_level host s₂ userId id (stateField side after) none .shop_place runtime.round
    have hdrawn := (act_frame host (.actionLog userId id (stateField side after) none .shop_place runtime.round)
      s₂).drawn
    generalize act host (.actionLog userId id (stateField side after) none .shop_place runtime.round) s₂
      = result at hlog hdrawn ⊢
    have hdeals : Deals matchId host s₀ result.2 (.action userId round (.place instanceId target slot id)) := by
      rcases hlog with h | ⟨hfresh, h⟩
      · exact .still (hs₂.trans h)
      · rw [hs₂.logged] at hfresh
        exact .place hread hround hphase hside hfresh (hnew.trans_le hdrawn) hplace ((hs₂.commit _ _ _ _).trans h)
    obtain ⟨reply, s₃⟩ := result
    cases reply with
    | recorded => exact hdeals.after (mirror_beside _ _ _ _)
    | _ => exact hdeals

theorem place_deals {userId instanceId id : String} {round slot : Nat} {target : Place} (hs : Level s₀ s) :
    (place matchId userId round instanceId target slot id).wp (act host)
      (fun _ s' => Deals matchId host s₀ s' (.action userId round (.place instanceId target slot id))) s := by
  refine wp_call.2 ?_
  have hs₁ : Level s₀ { s with drawn := s.drawn + 1 } :=
    hs.trans (Beside.level (c := .randomUUID) trivial host s)
  refine wp_beside (acquireLock_beside (by rintro ⟨⟩) _ _ _) (fun _ s₂ hs₂ => ?_) fun _ _ h => .still (hs₁.trans h)
  refine Prog.wp_ensuring (Prog.wp_mono (placeLocked_deals (hs₁.trans hs₂) ?_) fun _ _ h =>
    h.after (Prog.Issues.perform (by rintro ⟨⟩) _))
  exact (Nat.lt_succ_of_le hs.drawn).trans_le hs₂.drawn

/-! ## The shop -/

/-- What the action makes of the holdings it is given. -/
theorem mutate_deals {userId : String} {round : Nat} {held : Holdings} {action : ShopAction}
    (hs : Level s₀ s) (hnew : s₀.drawn < s.drawn) :
    (mutate host userId round runtime held action).wp (act host) (fun o s' => Level s₀ s' ∧
      s₀.drawn < s'.drawn ∧ ∀ after, o = .ok after → ∃ drawn, s₀.drawn ≤ drawn ∧ drawn < s'.drawn ∧
        dealt host runtime.matchSeed round userId drawn held action = .ok after) s := by
  have hreject : ∀ {o : Except Rejection Holdings}, (∀ drawn, dealt host runtime.matchSeed round userId drawn held action = o) →
      (orReject o).wp (act host) (fun o s' => Level s₀ s' ∧ s₀.drawn < s'.drawn ∧ ∀ after, o = .ok after →
        ∃ drawn, s₀.drawn ≤ drawn ∧ drawn < s'.drawn ∧
          dealt host runtime.matchSeed round userId drawn held action = .ok after) s := by
    intro o ho
    cases o with
    | error r => exact ⟨hs, hnew, by rintro _ ⟨⟩⟩
    | ok after =>
      refine ⟨hs, hnew, ?_⟩
      rintro _ ⟨⟩
      exact ⟨s₀.drawn, le_rfl, hnew, ho _⟩
  cases action with
  | buy offerIndex =>
    show Prog.wp (act host) _ ((orReject (offerToBuy held offerIndex)).bind _) s
    cases hoffer : offerToBuy held offerIndex with
    | error r => exact ⟨hs, hnew, by rintro _ ⟨⟩⟩
    | ok offer =>
      have hs₁ : Level s₀ { s with drawn := s.drawn + 1 } :=
        hs.trans (Beside.level (c := .randomUUID) trivial host s)
      show Prog.wp (act host) _ (orReject (buyOffer held offerIndex offer (host.uuid s.drawn)))
        { s with drawn := s.drawn + 1 }
      cases hbuy : buyOffer held offerIndex offer (host.uuid s.drawn) with
      | error r => exact ⟨hs₁, hnew.trans (Nat.lt_succ_self _), by rintro _ ⟨⟩⟩
      | ok after =>
        refine ⟨hs₁, hnew.trans (Nat.lt_succ_self _), ?_⟩
        rintro _ ⟨⟩
        refine ⟨s.drawn, hs.drawn, Nat.lt_succ_self _, ?_⟩
        simp only [dealt, hoffer]
        exact hbuy
  | sell source slot => exact hreject fun _ => rfl
  | refresh => exact hreject fun _ => rfl
  | fuse unitId sourceId targetId => exact hreject fun _ => rfl

/-- The context holds what is stored. -/
theorem actionContext_reads {userId : String} {round : Nat} (hs : Level s₀ s) :
    (actionContext matchId userId round).wp (act host) (fun o s' => Level s₀ s' ∧ s.drawn ≤ s'.drawn ∧
      ∀ context, o = .ok context → ReadAs matchId s₀.hash context.runtime ∧ context.runtime.round = round ∧
        context.runtime.phase = .shop_place ∧ playerId context.runtime context.side = userId ∧
        context.held.state = sideState context.runtime context.side ∧
        (s₀.shops userId).get s₀.now = some context.held.shop ∧ context.held.shop.round = round) s := by
  refine wp_call.2 ?_
  rw [hgetall_reply]
  split
  · exact ⟨hs, le_rfl, by rintro _ ⟨⟩⟩
  next runtime hparse =>
  have hread : ReadAs matchId s.hash runtime := ⟨runtime.player1Name, runtime.player2Name, hparse⟩
  split
  · exact ⟨hs, le_rfl, by rintro _ ⟨⟩⟩
  next hround =>
  split
  · exact ⟨hs, le_rfl, by rintro _ ⟨⟩⟩
  next hphase =>
  refine Prog.wp_bind.2 (shopSide_level (fun _ => ⟨hs, le_rfl, by rintro _ ⟨⟩⟩) fun side hside => ?_)
  have hshop : (act host (.getShop userId) (act host .hgetall s).2).1 = (s₀.shops userId).get s₀.now := by
    rw [← hs.shops, ← hs.now]
    rfl
  refine wp_call.2 ?_
  generalize (act host (.getShop userId) (act host .hgetall s).2).1 = found at hshop ⊢
  subst hshop
  cases hfound : (s₀.shops userId).get s₀.now with
  | none => exact ⟨hs, le_rfl, by rintro _ ⟨⟩⟩
  | some shop =>
    show Prog.wp (act host) _ (if shop.round ≠ round then _ else _) s
    split
    · exact ⟨hs, le_rfl, by rintro _ ⟨⟩⟩
    · next hof =>
      refine ⟨hs, le_rfl, ?_⟩
      rintro _ ⟨⟩
      exact ⟨hread.alike hs.toAlike, not_not.1 hround, not_not.1 hphase, hside, rfl, hfound ▸ rfl, not_not.1 hof⟩

theorem performAction_deals {userId id : String} {round : Nat} {action : ShopAction} (hs : Level s₀ s)
    (hnew : s₀.drawn < s.drawn) : (performAction matchId host userId round id action).wp (act host)
      (fun _ s' => Deals matchId host s₀ s' (.action userId round (.shop action id))) s := by
  refine wp_beside (Prog.Issues.perform (by trivial) _) (fun logged s₁ hs₁ => ?_) fun _ _ h => .still (hs.trans h)
  replace hnew := hnew.trans_le hs₁.drawn
  replace hs₁ := hs.trans hs₁
  show Prog.wp (act host) _ (if logged = true then _ else _) s₁
  split
  · exact .still hs₁
  refine Prog.wp_bind.2 (Prog.wp_mono (actionContext_reads hs₁) ?_)
  rintro o s₂ ⟨hs₂, hdrawn, hcontext⟩
  rcases o with e | context
  · exact .still hs₂
  obtain ⟨hread, hround, hphase, hside, hstate, hshop, hof⟩ := hcontext _ rfl
  refine Prog.wp_bind.2 (Prog.wp_mono (mutate_deals hs₂ (hnew.trans_le hdrawn)) ?_)
  rintro o s₃ ⟨hs₃, -, hafter⟩
  rcases o with e | after
  · exact .still hs₃
  obtain ⟨drawn, hold, hnew₃, hdeal⟩ := hafter _ rfl
  have hheld : context.held = ⟨sideState context.runtime context.side, context.held.shop⟩ := by
    rw [← hstate]
  rw [hheld] at hdeal
  refine Prog.wp_bind.2 ?_
  refine wp_call.2 ?_
  have hlog := @actionLog_level host s₃ (playerId context.runtime context.side) id (stateField context.side after.state)
    (some (after.shop, SHOP_TTL_SECONDS)) .shop_place context.runtime.round
  have hdrawn₃ := (act_frame host (.actionLog (playerId context.runtime context.side) id
    (stateField context.side after.state) (some (after.shop, SHOP_TTL_SECONDS)) .shop_place context.runtime.round)
    s₃).drawn
  generalize act host (.actionLog (playerId context.runtime context.side) id (stateField context.side after.state)
    (some (after.shop, SHOP_TTL_SECONDS)) .shop_place context.runtime.round) s₃ = result at hlog hdrawn₃ ⊢
  have hdeals : Deals matchId host s₀ result.2 (.action userId round (.shop action id)) := by
    rcases hlog with h | ⟨hfresh, h⟩
    · exact .still (hs₃.trans h)
    · rw [hside] at h hfresh
      rw [hs₃.logged] at hfresh
      exact .shop hread hround hphase hside hshop hof hfresh hold (hnew₃.trans_le hdrawn₃) hdeal
        ((hs₃.commit _ _ _ _).trans h)
  obtain ⟨reply, s₄⟩ := result
  cases reply with
  | recorded =>
    refine Prog.wp_mono (hdeals.after (mirror_beside _ _ _ _)) fun o s₅ h₅ => ?_
    rcases o with e | recorded
    · exact h₅
    show Prog.wp (act host) _ (if (!recorded) = true then _ else _) s₅
    split
    · exact h₅
    split
    · exact h₅.after (Prog.Issues.bind (Prog.Issues.perform (by trivial) _) fun _ => trivial)
    · exact h₅
  | _ => exact hdeals

theorem withAction_deals {userId id : String} {round : Nat} {action : ShopAction} (hs : Level s₀ s) :
    (withAction matchId host userId round id action).wp (act host)
      (fun _ s' => Deals matchId host s₀ s' (.action userId round (.shop action id))) s := by
  refine wp_beside (Prog.Issues.perform (by trivial) _) (fun logged s₁ hs₁ => ?_) fun _ _ h => .still (hs.trans h)
  replace hs₁ := hs.trans hs₁
  show Prog.wp (act host) _ (if logged = true then _ else _) s₁
  split
  · exact .still hs₁
  refine wp_call.2 ?_
  have hs₂ : Level s₀ { s₁ with drawn := s₁.drawn + 1 } :=
    hs₁.trans (Beside.level (c := .randomUUID) trivial host s₁)
  refine wp_beside (acquireLock_beside (by rintro ⟨⟩) _ _ _) (fun _ s₃ hs₃ => ?_) fun _ _ h => .still (hs₂.trans h)
  refine Prog.wp_ensuring (Prog.wp_mono (performAction_deals (hs₂.trans hs₃) ?_) fun _ _ h =>
    h.after (Prog.Issues.perform (by rintro ⟨⟩) _))
  exact (Nat.lt_succ_of_le hs₁.drawn).trans_le hs₃.drawn

/-- What a roster action does, served alone. -/
theorem program_deals {q : Request} (hedits : q.edits = true) :
    (program matchId host q).wp (act host) (fun _ s' => Deals matchId host s s' q) s := by
  unfold Request.edits at hedits
  split at hedits
  · refine wp_beside (resolveMatch_beside _) (fun _ s₁ hs₁ => ?_) fun _ _ h => .still h
    exact wp_drop (withAction_deals hs₁)
  · refine wp_beside (resolveMatch_beside _) (fun _ s₁ hs₁ => ?_) fun _ _ h => .still h
    exact wp_drop (place_deals hs₁)
  · cases hedits

/-- A deal edits the player's state. -/
theorem deal_edited {action : ShopAction} {seed userId : String} {round drawn : Nat} {shop : StoredShop}
    {after : Holdings} (h : dealt host seed round userId drawn ⟨state, shop⟩ action = .ok after) :
    Edited host drawn state after.state := by
  cases action with
  | buy offerIndex =>
    cases hoffer : offerToBuy ⟨state, shop⟩ offerIndex with
    | error r => simp [dealt, hoffer, Except.bind] at h
    | ok offer =>
      simp only [dealt, hoffer, Except.bind] at h
      exact .buy hoffer h
  | sell source slot => exact .sell h
  | refresh =>
    simp only [dealt, refreshOffers] at h
    split at h
    · cases h
    · cases h
      exact .refresh
  | fuse unitId sourceId targetId => exact .fuse h

theorem Deals.edits {q : Request} (h : Deals matchId host s s' q) : Edits matchId host s s' := by
  cases h with
  | still h => exact .none h.toAlike
  | shop hread _ hphase _ _ _ _ hold hnew hdeal h =>
    exact .one hread hphase (deal_edited hdeal) hold hnew ⟨h.hash, h.now, h.drawn, h.combatResult⟩
  | place hread _ hphase _ _ hnew hplace h =>
    exact .one hread hphase (.place hplace) le_rfl hnew ⟨h.hash, h.now, h.drawn, h.combatResult⟩

/-- **A roster action changes one player's state at most**, to what the shop
makes of it. -/
theorem program_edits {q : Request} (hedits : q.edits = true) :
    (program matchId host q).wp (act host) (fun _ s' => Edits matchId host s s') s :=
  Prog.wp_mono (program_deals hedits) fun _ _ h => h.edits

/-! ## The commands of a roster action -/

/-- The commands that roster actions are made of. -/
def OfRoster : Cmd → Prop
  | .hgetall | .usernamesForPlayers _ _ | .findActiveByUserId _ | .hexistsActionLog _ _ | .getShop _
  | .randomUUID | .sleep _ | .updateState _ _ | .publish ⟨_, .state _⟩
  | .publish ⟨_, .offers _ _ _⟩ => True
  | .hset fields => ∃ a b, fields = [.player1Name a, .player2Name b]
  | .actionLog _ _ field _ phase _ => phase = .shop_place ∧ ∃ side state, field = stateField side state
  | .setLock lock _ _ | .releaseOwnedLock lock _ => lock ≠ .combat
  | _ => False

theorem Beside.roster {c : Cmd} (hc : Beside c) : OfRoster c := by
  unfold Beside at hc
  split at hc <;> first | exact hc | exact hc.elim

theorem roster_beside {α β : Type} {p : M α} {f : α → M β} (hp : p.Issues Beside)
    (hf : ∀ a, (f a).Issues OfRoster) : (p.bind f).Issues OfRoster := (hp.mono fun _ => Beside.roster).bind hf

theorem roster_then {α : Type} {c : Cmd} {f : Resp c → M α} (hc : OfRoster c)
    (hf : ∀ r, (f r).Issues OfRoster) : ((call c).bind f).Issues OfRoster := Prog.Issues.perform_bind hc hf

/-- A body under the player's lock. -/
theorem ensuring_roster {α : Type} {p : M α} (hp : p.Issues OfRoster) (userId owner : String) :
    (p.ensuring (call (.releaseOwnedLock (.shop userId) owner))).Issues OfRoster := by
  have hrelease : (call (.releaseOwnedLock (.shop userId) owner)).Issues OfRoster :=
    Prog.Issues.perform (by rintro ⟨⟩) _
  refine Prog.Issues.bind hp.attempt fun outcome => Prog.Issues.bind hrelease fun _ => ?_
  cases outcome <;> trivial

theorem place_roster {userId instanceId id : String} {round slot : Nat} {target : Place} :
    (place matchId userId round instanceId target slot id).Issues OfRoster := by
  refine roster_beside (Prog.Issues.perform (by trivial) _) fun owner => ?_
  refine roster_beside (acquireLock_beside (by rintro ⟨⟩) _ _ _) fun _ => ensuring_roster ?_ _ _
  refine roster_then (by trivial) fun logged => ?_
  split
  · trivial
  refine roster_beside requireActionPhase_beside fun runtime => ?_
  refine roster_beside (sideFor_beside _ _) fun side => ?_
  refine roster_beside (orReject_beside _) fun state => ?_
  refine Prog.Issues.bind ?_ fun stored => ?_
  · refine roster_then ⟨rfl, _, _, rfl⟩ fun reply => ?_
    cases reply <;> trivial
  split
  · trivial
  · exact (mirror_beside _ _ _ _).mono fun _ => Beside.roster

theorem withAction_roster {userId id : String} {round : Nat} {action : ShopAction} :
    (withAction matchId host userId round id action).Issues OfRoster := by
  refine roster_then (by trivial) fun logged => ?_
  split
  · trivial
  refine roster_beside (Prog.Issues.perform (by trivial) _) fun owner => ?_
  refine roster_beside (acquireLock_beside (by rintro ⟨⟩) _ _ _) fun _ => ensuring_roster ?_ _ _
  refine roster_then (by trivial) fun logged => ?_
  split
  · trivial
  refine Prog.Issues.bind ?_ fun context => ?_
  · refine roster_then (by trivial) fun hash => ?_
    split
    · trivial
    split
    · trivial
    split
    · trivial
    refine roster_beside (shopSide_beside _ _) fun side => roster_then (by trivial) fun found => ?_
    split
    · trivial
    · split <;> trivial
  refine roster_beside mutate_beside fun after => Prog.Issues.bind ?_ fun stored => ?_
  · refine roster_then ⟨rfl, _, _, rfl⟩ fun reply => ?_
    cases reply with
    | recorded =>
      exact (mirror_beside _ _ _ _).mono fun _ => Beside.roster
    | _ => trivial
  split
  · trivial
  split
  · exact Prog.Issues.bind (Prog.Issues.perform (by trivial) _) fun _ => trivial
  · trivial

/-- A roster action makes no other commands. -/
theorem program_roster {q : Request} (hedits : q.edits = true) : (program matchId host q).Issues OfRoster := by
  unfold Request.edits at hedits
  split at hedits
  · exact roster_beside (resolveMatch_beside _) fun _ => withAction_roster.bind fun _ => trivial
  · exact roster_beside (resolveMatch_beside _) fun _ => place_roster.bind fun _ => trivial
  · cases hedits

end

end AutoChess.Runtime
