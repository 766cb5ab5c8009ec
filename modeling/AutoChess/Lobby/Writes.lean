/-
What each command of the lobby may write, one part of the store at a time,
and what every run keeps of the table of matches and of the UUIDs drawn.
-/
import AutoChess.Lobby.Guards

namespace AutoChess.Lobby

open AutoChess.Runtime Calls Expiring

abbrev LobbyEvent := Event Store Request Cmd Resp

/-- What is known of the log and store of a run of the lobby. -/
abbrev Run (host : Host) (init : Store) (log : List LobbyEvent) (s : Store) : Prop :=
  Chronicle (pool host) (fun _ => Guard) init log s

/-- The call took effect, whether or not its reply arrived. -/
def Took (host : Host) (e : LobbyEvent) : Prop := e.after = (act host e.cmd e.before).2

variable {host : Host} {init s : Store} {log : List LobbyEvent} {e : LobbyEvent}

theorem run_of_moves (host : Host) (init : Store) (moves : List (Move Request Nat)) :
    Run host init ((pool host).run ⟨init, [], []⟩ moves).log
      ((pool host).run ⟨init, [], []⟩ moves).store :=
  (pool host).run_chronicle program_guarded moves

/-- A call took effect or left the store as it was. -/
theorem took_or_kept (hdo : (pool host).Does e) : Took host e ∨ e.after = e.before :=
  hdo.after_eq.symm

theorem took_of_reply (hdo : (pool host).Does e) (h : e.reply.isSome = true) : Took host e := by
  obtain ⟨r, hr⟩ := Option.isSome_iff_exists.1 h
  exact (hdo.of_reply hr).2

/-! ## What a command leaves alone -/

/-- The commands that write a room's hash. -/
def Cmd.writesRooms : Cmd → Bool
  | .hsetRoom _ _ | .expireRoom _ | .roomJoin _ _ | .roomLeave _ _ | .roomMatchDone _ _ _ _ _ => true
  | _ => false

/-- The commands that write the table of matches. -/
def Cmd.writesMatches : Cmd → Bool
  | .createMatch _ _ _ _ _ | .finalize _ _ => true
  | _ => false

/-- The Lua scripts. -/
def Cmd.isScript : Cmd → Bool
  | .roomJoin _ _ | .roomLeave _ _ | .roomStartMatch _ _ | .roomMatchDone _ _ _ _ _
  | .roomMatchAbort _ _ | .matchPair => true
  | _ => false

/-- The scripts write keys of rooms and the queue. -/
theorem act_script (host : Host) {c : Cmd} (h : c.isScript = true) (s : Store) :
    ∃ rooms codes userRooms handoffs queue, (act host c s).2 =
      { s with rooms := rooms, codes := codes, userRooms := userRooms, handoffs := handoffs,
               queue := queue } := by
  cases c with
  | roomJoin roomId guestId =>
    simp only [act, evalRoomJoin]
    repeat' split
    all_goals exact ⟨_, _, _, _, _, rfl⟩
  | roomLeave roomId userId =>
    simp only [act, evalRoomLeave]
    repeat' split
    all_goals exact ⟨_, _, _, _, _, rfl⟩
  | roomStartMatch roomId token =>
    simp only [act, evalRoomStartMatch]
    repeat' split
    all_goals exact ⟨_, _, _, _, _, rfl⟩
  | roomMatchDone roomId code matchId ownerId guestId =>
    simp only [act, evalRoomMatchDone]
    split <;> exact ⟨_, _, _, _, _, rfl⟩
  | roomMatchAbort roomId token =>
    simp only [act, evalRoomMatchAbort]
    split <;> exact ⟨_, _, _, _, _, rfl⟩
  | matchPair =>
    simp only [act, evalMatchPair]
    split <;> exact ⟨_, _, _, _, _, rfl⟩
  | _ => cases h

@[simp] theorem act_now (host : Host) (c : Cmd) (s : Store) : (act host c s).2.now = s.now := by
  by_cases h : c.isScript = true
  · obtain ⟨rooms, codes, userRooms, handoffs, queue, heq⟩ := act_script host h s
    rw [heq]
  · cases c <;> first | rfl | exact absurd rfl h

theorem act_matchRows (host : Host) {c : Cmd} (hc : c.writesMatches = false) (s : Store) :
    (act host c s).2.matchRows = s.matchRows := by
  by_cases h : c.isScript = true
  · obtain ⟨rooms, codes, userRooms, handoffs, queue, heq⟩ := act_script host h s
    rw [heq]
  · cases c <;> first | rfl | exact absurd rfl h | cases hc

theorem act_rooms (host : Host) {c : Cmd} (h : c.writesRooms = false) (s : Store) :
    (act host c s).2.rooms = s.rooms := by
  cases c with
  | roomStartMatch roomId token =>
    simp only [act, evalRoomStartMatch]
    repeat' split
    all_goals rfl
  | roomMatchAbort roomId token =>
    simp only [act, evalRoomMatchAbort]
    split <;> rfl
  | matchPair =>
    simp only [act, evalMatchPair]
    split <;> rfl
  | _ => first | rfl | cases h

/-! ## The table of matches -/

/-- A row as it may be later: of the same match, perhaps over. -/
structure Ages (x y : MatchRow) : Prop where
  id : y.id = x.id
  player1 : y.player1Id = x.player1Id
  player2 : y.player2Id = x.player2Id
  live : live y = true → live x = true

/-- A table as it may be later: no row is lost, and new rows come last. -/
def Aged (rows rows' : List MatchRow) : Prop :=
  ∀ (i : Nat) (x : MatchRow), rows[i]? = some x → ∃ y, rows'[i]? = some y ∧ Ages x y

theorem Ages.refl (x : MatchRow) : Ages x x := ⟨rfl, rfl, rfl, fun h => h⟩

theorem Ages.trans {x y z : MatchRow} (h : Ages x y) (h' : Ages y z) : Ages x z :=
  ⟨h'.id.trans h.id, h'.player1.trans h.player1, h'.player2.trans h.player2, fun hz => h.live (h'.live hz)⟩

theorem Ages.isPlayer {x y : MatchRow} (h : Ages x y) (userId : String) :
    isPlayer y userId = isPlayer x userId := by
  simp only [Runtime.isPlayer, h.player1, h.player2]

theorem Aged.refl (rows : List MatchRow) : Aged rows rows := fun _ x hx => ⟨x, hx, .refl x⟩

theorem Aged.trans {a b c : List MatchRow} (h : Aged a b) (h' : Aged b c) : Aged a c := by
  intro i x hx
  obtain ⟨y, hy, hxy⟩ := h i x hx
  obtain ⟨z, hz, hyz⟩ := h' i y hy
  exact ⟨z, hz, hxy.trans hyz⟩

theorem Aged.mem {rows rows' : List MatchRow} (h : Aged rows rows') {x : MatchRow} (hx : x ∈ rows) :
    ∃ y ∈ rows', Ages x y := by
  obtain ⟨i, hi⟩ := List.getElem?_of_mem hx
  obtain ⟨y, hy, hxy⟩ := h i x hi
  exact ⟨y, List.mem_of_getElem? hy, hxy⟩

theorem closeMatch_ages (matchId : String) (status : MatchStatus) (row : MatchRow) :
    Ages row (closeMatch matchId status row) := by
  unfold closeMatch
  split
  · next h =>
    rw [Bool.and_eq_true] at h
    exact ⟨rfl, rfl, rfl, fun _ => h.2⟩
  · exact .refl row

/-- **No command loses a row**, revives one or changes its players. -/
theorem act_aged (host : Host) (c : Cmd) (s : Store) : Aged s.matchRows (act host c s).2.matchRows := by
  by_cases h : c.writesMatches = false
  · rw [act_matchRows host h]
    exact .refl _
  · cases c with
    | createMatch player1Id player2Id seed p1 p2 =>
      intro i x hx
      refine ⟨x, ?_, .refl x⟩
      obtain ⟨hlt, -⟩ := List.getElem?_eq_some_iff.1 hx
      simpa [act, List.getElem?_append_left hlt] using hx
    | finalize matchId status =>
      intro i x hx
      exact ⟨closeMatch matchId status x, by simp [act, hx], closeMatch_ages matchId status x⟩
    | _ => exact absurd rfl h

theorem event_aged (hdo : (pool host).Does e) : Aged e.before.matchRows e.after.matchRows := by
  rcases hdo.after_eq with h | h
  · rw [h]
    exact .refl _
  · rw [h]
    exact act_aged host e.cmd e.before

/-- The table since a call. -/
theorem aged_since {newer older : List LobbyEvent} (hrun : Run host init (newer ++ e :: older) s) :
    Aged e.after.matchRows s.matchRows := by
  refine hrun.rel_since (r := fun a b => Aged a.matchRows b.matchRows) (fun a => .refl _)
    (fun _ _ _ => .trans) (fun _ a => .refl _) fun newer' e' older' heq => ?_
  subst heq
  rw [List.append_assoc, List.cons_append] at hrun
  exact event_aged hrun.of_split.2.2

/-- What a lookup found is in the table. -/
theorem findActive_mem {userId : String} {row : MatchRow} {s : Store}
    (h : findActive userId s = some row) :
    row ∈ s.matchRows ∧ isPlayer row userId = true ∧ live row = true := by
  have hp := List.find?_some h
  rw [Bool.and_eq_true] at hp
  exact ⟨List.mem_of_find?_eq_some h, hp.1, hp.2⟩

/-- The row a creator was answered is in the table ever since. -/
theorem created_row {newer older : List LobbyEvent} {player1Id player2Id seed : String}
    {p1 p2 : RuntimePlayerState} {row : MatchRow}
    (hrun : Run host init (newer ++ e :: older) s)
    (hcall : e.toCall = ⟨.createMatch player1Id player2Id seed p1 p2, some row⟩) :
    row = newRow (host.uuid e.before.drawn) player1Id player2Id seed p1 p2 ∧
      ∃ row' ∈ s.matchRows, Ages row row' := by
  obtain ⟨hrow, hafter⟩ := hrun.of_split.2.2.of_call hcall
  refine ⟨hrow, (aged_since hrun).mem ?_⟩
  have hrows : e.after.matchRows = e.before.matchRows ++ [row] := by
    rw [hafter, hrow]
    rfl
  rw [hrows]
  exact List.mem_append_right _ (List.mem_singleton_self row)

/-- The row a lookup was answered is in the table ever since. -/
theorem found_row {newer older : List LobbyEvent} {userId : String} {row : MatchRow}
    (hrun : Run host init (newer ++ e :: older) s)
    (hcall : e.toCall = ⟨.findActiveByUserId userId, some (some row)⟩) :
    findActive userId e.before = some row ∧ ∃ row' ∈ s.matchRows, Ages row row' := by
  obtain ⟨hrow, hafter⟩ := hrun.of_split.2.2.of_call hcall
  have hrow : some row = findActive userId e.before := hrow
  have hafter : e.after = e.before := hafter
  exact ⟨hrow.symm, (aged_since hrun).mem (hafter ▸ (findActive_mem hrow.symm).1)⟩

/-! ## UUIDs -/

/-- The ids of the table are drawn UUIDs, each row's its own. -/
structure Registered (host : Host) (s : Store) : Prop where
  nodup : (s.matchRows.map (·.id)).Nodup
  drawn : ∀ row ∈ s.matchRows, ∃ n < s.drawn, row.id = host.uuid n

theorem act_drawn (host : Host) (c : Cmd) (s : Store) : s.drawn ≤ (act host c s).2.drawn := by
  by_cases h : c.isScript = true
  · obtain ⟨rooms, codes, userRooms, handoffs, queue, heq⟩ := act_script host h s
    rw [heq]
  · cases c <;> first | exact absurd rfl h | exact le_rfl | exact Nat.le_succ _

theorem act_registered (c : Cmd) {s : Store} (h : Registered host s) :
    Registered host (act host c s).2 := by
  have hle := act_drawn host c s
  by_cases hwrites : c.writesMatches = false
  · have hrows := act_matchRows host hwrites s
    refine ⟨hrows ▸ h.nodup, fun row hrow => ?_⟩
    obtain ⟨n, hn, hid⟩ := h.drawn row (hrows ▸ hrow)
    exact ⟨n, by omega, hid⟩
  · cases c with
    | createMatch player1Id player2Id seed p1 p2 =>
      have hnew : ∀ row ∈ s.matchRows, row.id ≠ host.uuid s.drawn := by
        intro row hrow heq
        obtain ⟨n, hn, hid⟩ := h.drawn row hrow
        have := host.uuid_injective (hid.symm.trans heq)
        omega
      constructor
      · simp only [act, List.map_append, List.map_cons, List.map_nil]
        refine List.nodup_append.2 ⟨h.nodup, by simp, ?_⟩
        intro a ha b hb
        obtain ⟨row, hrow, rfl⟩ := List.mem_map.1 ha
        rw [List.mem_singleton] at hb
        exact hb ▸ hnew row hrow
      · intro row hrow
        rcases List.mem_append.1 hrow with hrow | hrow
        · obtain ⟨n, hn, hid⟩ := h.drawn row hrow
          exact ⟨n, Nat.lt_succ_of_lt hn, hid⟩
        · rw [List.mem_singleton] at hrow
          exact ⟨s.drawn, Nat.lt_succ_self _, hrow ▸ rfl⟩
    | finalize matchId status =>
      have hid : ∀ row, (closeMatch matchId status row).id = row.id :=
        fun row => (closeMatch_ages matchId status row).id
      constructor
      · simp only [act, List.map_map]
        exact (List.map_congr_left fun row _ => hid row) ▸ h.nodup
      · intro row hrow
        obtain ⟨row', hrow', rfl⟩ := List.mem_map.1 hrow
        rw [hid row']
        exact h.drawn row' hrow'
    | _ => exact absurd rfl hwrites

theorem registered (hinit : Registered host init) (hrun : Run host init log s) :
    Registered host s := by
  induction hrun with
  | start => exact hinit
  | time ms _ ih => exact ⟨ih.nodup, ih.drawn⟩
  | call _ _ hdo ih =>
    rcases hdo.after_eq with h | h
    · rw [h]
      exact ih
    · rw [h]
      exact act_registered _ ih

/-- The row of an id, once it is in the table. -/
theorem Registered.unique (h : Registered host s) {x y : MatchRow} (hx : x ∈ s.matchRows)
    (hy : y ∈ s.matchRows) (hid : x.id = y.id) : x = y :=
  List.inj_on_of_nodup_map h.nodup hx hy hid

theorem drawn_since {newer older : List LobbyEvent} (hrun : Run host init (newer ++ e :: older) s) :
    e.after.drawn ≤ s.drawn := by
  refine hrun.rel_since (r := fun a b => a.drawn ≤ b.drawn) (fun _ => le_rfl)
    (fun _ _ _ => le_trans) (fun _ _ => le_rfl) fun newer' e' older' heq => ?_
  subst heq
  rw [List.append_assoc, List.cons_append] at hrun
  rcases hrun.of_split.2.2.after_eq with h | h
  · rw [h]
  · rw [h]
    exact act_drawn host e'.cmd e'.before

end AutoChess.Lobby
