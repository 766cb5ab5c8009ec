/-
The rosters of a whole match. Requests are served one at a time: an action on
a roster does to the slots what `Shop.Trades` says and is logged, or changes
nothing; no other request touches a slot. So two units never share an id,
no unit is lost, and the two boards can always be fought (`Whole`).
-/
import AutoChess.Runtime.Fielding
import AutoChess.Runtime.Ledger
import AutoChess.Shop.Trades

namespace AutoChess.Runtime

open AutoChess.Game AutoChess.Shop Calls Expiring

/-- The same units in the same slots. -/
def SameRoster (p p' : RuntimePlayerState) : Prop := p'.board = p.board ∧ p'.bench = p.bench

/-- An id on one of the rosters. -/
def OnRoster (runtime : MatchRuntimeState) (id : String) : Prop :=
  ∃ side, ∃ u ∈ units (sideState runtime side), u.instanceId = id

/-- Rosters that can be fought: nine slots and eight, no id twice, and two
boards that make a battle of units at full health. -/
structure Whole (host : Host) (runtime : MatchRuntimeState) : Prop where
  board : ∀ side, (sideState runtime side).board.length = 9
  bench : ∀ side, (sideState runtime side).bench.length = 8
  ids : ((units runtime.p1State ++ units runtime.p2State).map (·.instanceId)).Nodup
  fights : ∃ battle : FreshBattle, battleOf host runtime = .ok battle.toBattleState ∧
    ∀ side, ∀ u ∈ unitsOf battle.boards side, 0 < u.hp ∧ u.hp ≤ u.maxHp

/-- What one request makes of the rosters and shops that were read before it:
an action on a roster is logged and does what it says to its player's, or it
does nothing; the other requests leave every slot alone. -/
inductive RosterStep (s s' : Store) (runtime runtime' : MatchRuntimeState) : Request → Prop where
  | kept {q : Request} (h : ∀ side, SameRoster (sideState runtime side) (sideState runtime' side))
      (hquiet : q.edits = true → s'.shops = s.shops ∧ s'.actionLog = s.actionLog) :
      RosterStep s s' runtime runtime' q
  | shop {userId id : String} {action : ShopAction} {side : Side} {shop shop' : StoredShop}
      (hphase : runtime.phase = .shop_place) (hside : playerId runtime side = userId)
      (hshop : (s.shops userId).get s.now = some shop) (hround : shop.round = runtime.round)
      (hfresh : id ∉ logged s userId) (hlogged : id ∈ logged s' userId)
      (hafter : (s'.shops userId).get s'.now = some shop')
      (hother : ∀ side', side' ≠ side → sideState runtime' side' = sideState runtime side')
      (h : Trades (OnRoster runtime) ⟨sideState runtime side, shop⟩ ⟨sideState runtime' side, shop'⟩ action) :
      RosterStep s s' runtime runtime' (.action userId runtime.round (.shop action id))
  | place {userId id instanceId : String} {target : Place} {slot : Nat} {side : Side}
      (hphase : runtime.phase = .shop_place) (hside : playerId runtime side = userId)
      (hfresh : id ∉ logged s userId) (hlogged : id ∈ logged s' userId)
      (hother : ∀ side', side' ≠ side → sideState runtime' side' = sideState runtime side')
      (h : ∃ entry, Moves instanceId target slot (sideState runtime side) (sideState runtime' side) entry) :
      RosterStep s s' runtime runtime' (.action userId runtime.round (.place instanceId target slot id))

/-- No id is on both rosters, while the match is stored. -/
def Apart (s : Store) : Prop :=
  s.hash.phase ≠ none → ∀ u ∈ units s.hash.p1State, ∀ v ∈ units s.hash.p2State, u.instanceId ≠ v.instanceId

section
variable {matchId : String} {host : Host} {given : Nat} {s s' : Store} {runtime runtime' : MatchRuntimeState}
  {side : Side} {p p' : RuntimePlayerState}

/-! ## Rosters that keep -/

theorem SameRoster.refl (p : RuntimePlayerState) : SameRoster p p := ⟨rfl, rfl⟩

theorem SameRoster.trans {p'' : RuntimePlayerState} (h : SameRoster p p') (h' : SameRoster p' p'') :
    SameRoster p p'' := ⟨h'.1.trans h.1, h'.2.trans h.2⟩

theorem SameRoster.units (h : SameRoster p p') : units p' = units p := by
  rw [Shop.units, h.1, h.2, Shop.units]

theorem Resolves.rosters (h : Resolves matchId host s s') (hb : Books host given s) (side : Side) :
    SameRoster (stored s.hash side) (stored s'.hash side) := by
  cases h with
  | none hs =>
    rw [hs.stored]
    exact .refl _
  | @round s₁ round events hs hdue heq =>
    rw [← hs.toAlike.stored, heq]
    refine Prog.wp_iff.1 (applyDamageAndAdvance_wp (Q := fun _ s' =>
      SameRoster (stored s₁.hash side) (stored s'.hash side)) (fun _ o s' hs => ?_) ?_)
    · rw [hs.stored]
      exact .refl _
    intro runtime events resolution hdue hread hres o s' hs'
    obtain ⟨d₁, d₂, hp1, hp2⟩ := resolveRound_players hres
    have hreads := (hb.alike hs.toAlike).reads hread side
    rw [hs'.stored, hash_hset, ← hreads]
    unfold Resolution.fields
    cases resolution.winnerId <;> cases side <;> simp only [hp1, hp2] <;> exact ⟨rfl, rfl⟩

/-! ## Ids -/

theorem Apart.of_rosters (h : Apart s) (halive : s'.hash.phase ≠ none → s.hash.phase ≠ none)
    (hsame : ∀ side, SameRoster (stored s.hash side) (stored s'.hash side)) : Apart s' := by
  intro hphase u hu v hv
  have hu' : u ∈ units (stored s.hash .p1) := (hsame .p1).units ▸ hu
  have hv' : v ∈ units (stored s.hash .p2) := (hsame .p2).units ▸ hv
  exact h (halive hphase) u hu' v hv'

theorem Apart.alike (h : Apart s) (hs : Alike s s') : Apart s' :=
  h.of_rosters (hs.phase ▸ id) fun side => by rw [hs.stored]; exact .refl _

/-- Ids of the two rosters, from either side. -/
theorem Apart.other (h : Apart s) (hphase : s.hash.phase ≠ none) (side : Side) :
    ∀ u ∈ units (stored s.hash side), ∀ v ∈ units (stored s.hash (enemySideOf side)),
      u.instanceId ≠ v.instanceId := by
  cases side with
  | p1 => exact h hphase
  | p2 => exact fun u hu v hv heq => h hphase v hv u hu heq.symm

/-- An action draws a new id, or uses those of its own roster. -/
theorem Edits.apart (h : Edits matchId host s s') (hb : Books host given s) (ha : Apart s) : Apart s' := by
  cases h with
  | none hs => exact ha.alike hs
  | @one runtime side drawn state hread _ hstate hold hnew hs =>
    have hbooks : Ledger given (fun id => Issued host s.drawn id ∧
        ∀ v ∈ units (stored s.hash (enemySideOf side)), id ≠ v.instanceId) (sideState runtime side) :=
      { hb.read hread side with
        known := fun u hu => ⟨(hb.read hread side).known u hu, ha.other hread.live side u (hb.reads hread side ▸ hu)⟩ }
    have hafter := (hstate.books (fun h => uuid_fresh hold h.1) hbooks).known
    have hnext : ∀ u ∈ units state, ∀ v ∈ units (stored s.hash (enemySideOf side)),
        u.instanceId ≠ v.instanceId := by
      intro u hu v hv
      rcases hafter u hu with hid | hid
      · exact hid.2 v hv
      · rw [hid]
        exact fun heq => uuid_fresh hold (heq ▸ (hb hread.live _).known v hv)
    refine Apart.alike ?_ hs
    intro _ u hu v hv
    rw [hash_hset] at hu hv
    cases side with
    | p1 => exact hnext u hu v hv
    | p2 => exact fun heq => hnext v hv u hu heq.symm

/-- What a match keeps of its rosters. -/
structure Rosters (host : Host) (given : Nat) (s : Store) : Prop where
  books : Books host given s
  apart : Apart s

/-- The other requests touch no slot. -/
theorem program_rosters {q : Request} (hb : Books host given s) (hedits : q.edits = false) :
    (program matchId host q).wp (act host) (fun _ s' => (s'.hash.phase ≠ none → s.hash.phase ≠ none) ∧
      ∀ side, SameRoster (stored s.hash side) (stored s'.hash side)) s := by
  by_cases hresolves : q.resolves = true
  · refine Prog.wp_mono (program_resolves hresolves) fun _ s' h => ⟨?_, h.rosters hb⟩
    intro hphase hgone
    cases h with
    | none hs => exact hphase (hs.phase.trans hgone)
    | round hs hdue heq =>
      have := hdue.inBattle
      rw [hs.phase, hgone] at this
      cases this
  · refine Prog.wp_mono (program_calm hedits (by simpa using hresolves)) fun _ s' ⟨hcalm, _⟩ => ?_
    refine ⟨hcalm.alive, fun side => ?_⟩
    rw [hcalm.players]
    exact .refl _

theorem Rosters.elapse (h : Rosters host given s) (ms : Nat) : Rosters host given (elapse ms s) := by
  refine ⟨h.books.elapse ms, fun hphase => ?_⟩
  rcases hash_elapse ms s with heq | heq
  · rw [Runtime.elapse, heq] at hphase ⊢
    exact h.apart hphase
  · rw [Runtime.elapse, heq] at hphase
    exact absurd rfl hphase

theorem serve_rosters (h : Rosters host given s) (send : Nat × Request) :
    Rosters host (given + gained (elapse send.1 s) (serve matchId host s send)) (serve matchId host s send) := by
  have hwaited := h.elapse send.1
  refine ⟨serve_books matchId h.books send, ?_⟩
  by_cases hedits : send.2.edits = true
  · exact (Prog.wp_iff.1 (program_edits hedits)).apart hwaited.books hwaited.apart
  · obtain ⟨halive, hsame⟩ := Prog.wp_iff.1 (program_rosters hwaited.books (by simpa using hedits))
    exact hwaited.apart.of_rosters halive hsame

theorem rosters_of_served (matchId : String) (h : Rosters host given s) (sends : List (Nat × Request)) :
    ∃ given', Rosters host given' (sends.foldl (serve matchId host) s) := by
  induction sends generalizing given s with
  | nil => exact ⟨given, h⟩
  | cons send sends ih => exact ih (serve_rosters h send)

/-! ## Rosters that can be fought -/

theorem Rosters.reads (h : Rosters host given s) (hread : ReadAs matchId s.hash runtime) :
    Whole host runtime := by
  have hbooks := h.books.read hread
  have hids : ((units runtime.p1State ++ units runtime.p2State).map (·.instanceId)).Nodup := by
    rw [List.map_append, List.nodup_append]
    refine ⟨(hbooks .p1).ids, (hbooks .p2).ids, fun a ha b hb heq => ?_⟩
    obtain ⟨u, hu, rfl⟩ := List.mem_map.1 ha
    obtain ⟨v, hv, rfl⟩ := List.mem_map.1 hb
    have hu' : u ∈ units (stored s.hash .p1) := h.books.reads hread .p1 ▸ hu
    have hv' : v ∈ units (stored s.hash .p2) := h.books.reads hread .p2 ▸ hv
    exact h.apart hread.live u hu' v hv' heq
  refine ⟨fun side => (hbooks side).board, fun side => (hbooks side).bench, hids,
    battleOf_fresh (fun side u hu => (hbooks side).standard u (List.mem_append_left _ hu))
      (fun side => (hbooks side).board) ?_⟩
  refine List.Nodup.sublist ((List.Sublist.append ?_ ?_).map _) hids
  · exact List.sublist_append_left _ _
  · exact List.sublist_append_left _ _

/-! ## Steps -/

theorem ReadAs.parsed {hash : RuntimeHash} (h : ReadAs matchId hash runtime)
    (hparse : parseRuntimeHash matchId hash = some runtime') : runtime'.phase = runtime.phase ∧
      runtime'.round = runtime.round ∧ runtime'.matchSeed = runtime.matchSeed ∧
      (∀ side, sideState runtime' side = sideState runtime side) ∧
      ∀ side, playerId runtime' side = playerId runtime side := by
  obtain ⟨a, b, h⟩ := h
  rw [hparse] at h
  cases h
  exact ⟨rfl, rfl, rfl, fun side => by cases side <;> rfl, fun side => by cases side <;> rfl⟩

theorem ReadAs.of_parse {hash : RuntimeHash} (h : parseRuntimeHash matchId hash = some runtime) :
    ReadAs matchId hash runtime := ⟨runtime.player1Name, runtime.player2Name, h⟩

theorem dealt_trades {action : ShopAction} {seed userId : String} {round drawn : Nat} {shop : StoredShop}
    {after : Holdings} {taken : String → Prop} (hfresh : ¬ taken (host.uuid drawn))
    (h : dealt host seed round userId drawn ⟨p, shop⟩ action = .ok after) : Trades taken ⟨p, shop⟩ after action := by
  cases action with
  | buy index =>
    cases hoffer : offerToBuy ⟨p, shop⟩ index with
    | error r => simp [dealt, hoffer, Except.bind] at h
    | ok offer =>
      simp only [dealt, hoffer, Except.bind] at h
      exact buyOffer_spec hoffer h hfresh
  | sell source slot => exact sellUnit_spec h
  | refresh => exact refreshOffers_spec h
  | fuse unitId sourceId targetId => exact fuseUnits_spec h

/-- The script writes the state of the side that acts, and no other. -/
theorem commit_states {given' : Nat} {userId id : String} {shop : Option (StoredShop × Nat)}
    (hr : Books host given s) (hr' : Books host given' s') (hread : ReadAs matchId s.hash runtime)
    (hread' : ReadAs matchId s'.hash runtime') (h : Level (s.commit userId id (stateField side p) shop) s')
    (side' : Side) : sideState runtime' side' = if side' = side then p else sideState runtime side' := by
  rw [hr'.reads hread', h.stored, show (s.commit userId id (stateField side p) shop).hash =
    (s.hset [stateField side p]).hash from rfl, hash_hset, stored_stateField, hr.reads hread]

theorem commit_logged {userId id : String} {field : FieldWrite} {shop : Option (StoredShop × Nat)}
    (h : Level (s.commit userId id field shop) s') : id ∈ logged s' userId := by
  rw [h.logged]
  simp [logged, Store.commit, Store.hset, put]

theorem commit_shop {userId id : String} {field : FieldWrite} {shop : StoredShop} {ttlSeconds : Nat}
    (h : Level (s.commit userId id field (some (shop, ttlSeconds))) s') :
    (s'.shops userId).get s'.now = some shop := by
  rw [h.shops, h.now]
  simp [Store.commit, Store.hset, put]

theorem Rosters.fresh (hr : Rosters host given s) (hread : ReadAs matchId s.hash runtime) {drawn : Nat}
    (hold : s.drawn ≤ drawn) : ¬ OnRoster runtime (host.uuid drawn) := by
  rintro ⟨side, u, hu, hid⟩
  exact uuid_fresh hold (hid ▸ (hr.books.read hread side).known u hu)

theorem Deals.step {given' : Nat} {q : Request} (h : Deals matchId host s s' q) (hr : Rosters host given s)
    (hr' : Books host given' s') (hparse : parseRuntimeHash matchId s.hash = some runtime)
    (hparse' : parseRuntimeHash matchId s'.hash = some runtime') : RosterStep s s' runtime runtime' q := by
  have hread := ReadAs.of_parse hparse
  have hread' := ReadAs.of_parse hparse'
  cases h with
  | still h =>
    refine .kept (fun side => ?_) fun _ => ⟨h.shops, h.actionLog⟩
    rw [hr'.reads hread', h.stored, hr.books.reads hread]
    exact .refl _
  | @shop userId id round action runtime₀ side drawn shop after hread₀ hround hphase hside hshop hof hfresh hold
      hnew hdeal h =>
    obtain ⟨hphase', hround', hseed, hstates, hids⟩ := hread₀.parsed hparse
    have hafter := commit_states hr.books hr' hread hread' h
    obtain rfl : runtime.round = round := hround'.trans hround
    refine .shop (hphase'.trans hphase) ((hids side).trans hside) hshop hof hfresh (commit_logged h)
      (commit_shop h) (fun side' hne => by rw [hafter, if_neg hne]) ?_
    rw [hafter, if_pos rfl, hstates]
    exact dealt_trades (hr.fresh hread hold) hdeal
  | @place userId id instanceId round slot target runtime₀ side after hread₀ hround hphase hside hfresh hnew hplace h =>
    obtain ⟨hphase', hround', hseed, hstates, hids⟩ := hread₀.parsed hparse
    have hafter := commit_states hr.books hr' hread hread' h
    obtain rfl : runtime.round = round := hround'.trans hround
    refine .place (hphase'.trans hphase) ((hids side).trans hside) hfresh (commit_logged h)
      (fun side' hne => by rw [hafter, if_neg hne]) ?_
    rw [hafter, if_pos rfl, hstates]
    exact placeUnit_spec (hr.books.read hread₀ side).ids hplace

theorem serve_step (hr : Rosters host given s) (send : Nat × Request)
    (hparse : parseRuntimeHash matchId (elapse send.1 s).hash = some runtime)
    (hparse' : parseRuntimeHash matchId (serve matchId host s send).hash = some runtime') :
    RosterStep (elapse send.1 s) (serve matchId host s send) runtime runtime' send.2 := by
  have hwaited := hr.elapse send.1
  have hserved := serve_books matchId hr.books send
  by_cases hedits : send.2.edits = true
  · exact (Prog.wp_iff.1 (program_deals hedits)).step hwaited hserved hparse hparse'
  · obtain ⟨-, hsame⟩ := Prog.wp_iff.1 (program_rosters hwaited.books (by simpa using hedits))
    refine .kept (fun side => ?_) fun h => absurd h hedits
    rw [hserved.reads (.of_parse hparse'), hwaited.books.reads (.of_parse hparse)]
    exact hsame side

theorem freshStore_rosters {m : Match} (names : PlayerNames) (users : String → Option User)
    (h1 : NewPlayer m.p1State) (h2 : NewPlayer m.p2State) : Rosters host 0 (freshStore m names users) := by
  refine ⟨freshStore_books names users h1 h2, fun _ u hu => ?_⟩
  have hnone : units { normalizePlayerState m.p1State with ready := false } = [] :=
    units_empty (normalizeSlots_empty h1.board) (normalizeSlots_empty h1.bench)
  have hu : u ∈ units { normalizePlayerState m.p1State with ready := false } := hu
  rw [hnone] at hu
  cases hu

/-- **The rosters stay whole.** From a fresh match, whatever requests are
served in whatever order: what is read of the rosters can always be fought,
and every request does to the slots what it says, or nothing. -/
theorem rosters_whole {m : Match} (names : PlayerNames) (users : String → Option User)
    (h1 : NewPlayer m.p1State) (h2 : NewPlayer m.p2State) (sends : List (Nat × Request)) :
    (∀ runtime, parseRuntimeHash m.id (sends.foldl (serve m.id host) (freshStore m names users)).hash = some runtime →
      Whole host runtime) ∧
    ∀ before send after, sends = before ++ send :: after → ∀ s,
      s = before.foldl (serve m.id host) (freshStore m names users) → ∀ runtime runtime',
        parseRuntimeHash m.id (elapse send.1 s).hash = some runtime →
        parseRuntimeHash m.id (serve m.id host s send).hash = some runtime' →
        RosterStep (elapse send.1 s) (serve m.id host s send) runtime runtime' send.2 := by
  have hfresh : Rosters host 0 (freshStore m names users) := freshStore_rosters names users h1 h2
  refine ⟨fun runtime hparse => ?_, ?_⟩
  · obtain ⟨given, hr⟩ := rosters_of_served m.id hfresh sends
    exact hr.reads (.of_parse hparse)
  · rintro before send after - s rfl runtime runtime' hparse hparse'
    obtain ⟨given, hr⟩ := rosters_of_served m.id hfresh before
    exact serve_step hr send hparse hparse'

end

/-- A healer bought, and placed on the board. -/
def firstMoves : List (Nat × Request) :=
  [(0, .announce friendly ⟨"one", "two"⟩), (10, .action "u1" 1 (.shop (.buy 4) "a")),
   (10, .action "u1" 1 (.place "u" .board 0 "b"))]

set_option maxRecDepth 100000 in
theorem rosters_whole_firstMoves : ∃ runtime,
    parseRuntimeHash friendly.id (firstMoves.foldl (serve friendly.id plainHost)
      (freshStore friendly ⟨"one", "two"⟩ fun _ => none)).hash = some runtime ∧
    ((runtime.p1State.board[0]?).join.map (·.unitId)) = some .healer ∧ Whole plainHost runtime := by
  have hplayer : NewPlayer freshPlayer := ⟨rfl, by simp [freshPlayer], by simp [freshPlayer]⟩
  have hrun : ((parseRuntimeHash friendly.id (firstMoves.foldl (serve friendly.id plainHost)
      (freshStore friendly ⟨"one", "two"⟩ fun _ => none)).hash).map fun runtime =>
        (runtime.p1State.board[0]?).join.map (·.unitId)) = some (some .healer) := by decide
  obtain ⟨runtime, hread, hboard⟩ := Option.map_eq_some_iff.1 hrun
  exact ⟨runtime, hread, hboard, (rosters_whole _ _ hplayer hplayer firstMoves).1 runtime hread⟩

end AutoChess.Runtime
