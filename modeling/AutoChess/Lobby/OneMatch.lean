/-
One live match a user. The two creators of matches look both players up and
insert later, with nothing in between to keep others out: the table keeps at
most one live match a user exactly while no other insert comes in that gap.
-/
import AutoChess.Lobby.Writes

namespace AutoChess.Lobby

open AutoChess.Runtime Calls

/-- A user plays in both. -/
def Shares (x y : MatchRow) : Prop := ∃ userId, isPlayer x userId = true ∧ isPlayer y userId = true

/-- No two live matches share a player. -/
def OneMatch (rows : List MatchRow) : Prop :=
  rows.Pairwise fun x y => live x = true → live y = true → ¬ Shares x y

/-- For an insert that takes effect: no match of its players that was inserted
after its own lookup of that player is still live. -/
def Unraced (host : Host) (log : List LobbyEvent) (e : LobbyEvent) : Prop :=
  ∀ player1Id player2Id seed p1 p2, e.cmd = .createMatch player1Id player2Id seed p1 p2 → Took host e →
    ∀ userId, (userId = player1Id ∨ userId = player2Id) → ∀ newer lookup older,
      log = newer ++ lookup :: older → lookup.pid = e.pid → lookup.cmd = .findActiveByUserId userId →
      ∀ row ∈ e.before.matchRows.drop lookup.before.matchRows.length,
        isPlayer row userId = true → live row = false

variable {host : Host} {init s : Store} {log : List LobbyEvent} {e : LobbyEvent}

theorem shares_iff {x y : MatchRow} :
    Shares x y ↔ isPlayer y x.player1Id = true ∨ isPlayer y x.player2Id = true := by
  constructor
  · rintro ⟨userId, hx, hy⟩
    simp only [isPlayer, Bool.or_eq_true, decide_eq_true_eq] at hx
    rcases hx with rfl | rfl
    · exact .inl hy
    · exact .inr hy
  · rintro (h | h)
    · exact ⟨x.player1Id, by simp [isPlayer], h⟩
    · exact ⟨x.player2Id, by simp [isPlayer], h⟩

instance (x y : MatchRow) : Decidable (Shares x y) := decidable_of_iff' _ shares_iff

instance (rows : List MatchRow) : Decidable (OneMatch rows) :=
  inferInstanceAs (Decidable (List.Pairwise _ rows))

theorem findActive_none {userId : String} {s : Store} (h : findActive userId s = none) {row : MatchRow}
    (hrow : row ∈ s.matchRows) (hplayer : isPlayer row userId = true) : live row = false := by
  rw [findActive, List.find?_eq_none] at h
  have := h row hrow
  simpa [hplayer] using this

/-- A player with no live match at the lookup and none inserted since has
none. -/
theorem free_of_lookup {before rows : List MatchRow} {userId : String} (haged : Aged before rows)
    (hbefore : ∀ row ∈ before, isPlayer row userId = true → live row = false)
    (hnew : ∀ row ∈ rows.drop before.length, isPlayer row userId = true → live row = false) :
    ∀ row ∈ rows, isPlayer row userId = true → live row = false := by
  intro row hrow hplayer
  obtain ⟨i, hi⟩ := List.getElem?_of_mem hrow
  by_cases hlt : i < before.length
  · have hget : before[i]? = some before[i] := List.getElem?_eq_getElem hlt
    obtain ⟨y, hy, hages⟩ := haged i _ hget
    rw [hi, Option.some.injEq] at hy
    subst hy
    have hx := hbefore _ (List.getElem_mem hlt) (hages.isPlayer userId ▸ hplayer)
    cases hlive : live row with
    | false => rfl
    | true => exact absurd (hages.live hlive) (by simp [hx])
  · refine hnew row (List.mem_of_getElem? (i := i - before.length) ?_) hplayer
    rw [List.getElem?_drop]
    rw [show before.length + (i - before.length) = i by omega]
    exact hi

/-- The creator saw that the player has no match. -/
theorem lookup_of_sawNone {userId : String} {pid : Nat} (hrun : Run host init log s)
    (hsaw : SawNone (own pid log) userId) : ∃ newer lookup older,
      log = newer ++ lookup :: older ∧ lookup.pid = pid ∧ lookup.cmd = .findActiveByUserId userId ∧
      findActive userId lookup.before = none ∧ Aged lookup.before.matchRows s.matchRows := by
  obtain ⟨lookup, hmem, hpid, hcall⟩ := mem_own.1 hsaw
  obtain ⟨newer, older, rfl⟩ := List.append_of_mem hmem
  obtain ⟨hreply, hafter⟩ := hrun.of_split.2.2.of_call hcall
  have hsame : lookup.after = lookup.before := hafter
  exact ⟨newer, lookup, older, rfl, hpid, congrArg Call.cmd hcall, hreply.symm, hsame ▸ aged_since hrun⟩

/-- An insert adds one live match of its players. -/
theorem oneMatch_insert {rows : List MatchRow} {row : MatchRow} (hlive : live row = true) :
    OneMatch (rows ++ [row]) ↔ OneMatch rows ∧
      ∀ x ∈ rows, isPlayer x row.player1Id = true ∨ isPlayer x row.player2Id = true → live x = false := by
  rw [OneMatch, List.pairwise_append]
  refine and_congr_right fun _ => ?_
  simp only [List.pairwise_singleton, List.mem_singleton, true_and, forall_eq, hlive,
    forall_const]
  refine forall₂_congr fun x _ => ?_
  have hcomm : Shares x row ↔ Shares row x :=
    exists_congr fun _ => and_comm
  rw [hcomm, shares_iff]
  cases live x <;> simp

theorem oneMatch_closed {rows : List MatchRow} (h : OneMatch rows) (matchId : String)
    (status : MatchStatus) : OneMatch (rows.map (closeMatch matchId status)) := by
  refine List.Pairwise.map _ (fun x y hxy hx hy hshare => ?_) h
  have hax := closeMatch_ages matchId status x
  have hay := closeMatch_ages matchId status y
  obtain ⟨userId, hpx, hpy⟩ := hshare
  exact hxy (hax.live hx) (hay.live hy)
    ⟨userId, hax.isPlayer userId ▸ hpx, hay.isPlayer userId ▸ hpy⟩

/-- A step keeps the property exactly when it is no raced insert. -/
theorem oneMatch_step (hrun : Run host init log e.before) (hguard : Guard (own e.pid log) e.cmd)
    (hdo : (pool host).Does e) (h : OneMatch e.before.matchRows) :
    OneMatch e.after.matchRows ↔ Unraced host log e := by
  rcases took_or_kept hdo with htook | hkept
  · by_cases hwrites : e.cmd.writesMatches = false
    · rw [htook, act_matchRows host hwrites]
      refine ⟨fun _ player1Id player2Id seed p1 p2 hcmd => ?_, fun _ => h⟩
      rw [hcmd] at hwrites
      cases hwrites
    · obtain ⟨⟨cmd, reply⟩, pid, request, before, after⟩ := e
      cases cmd with
      | createMatch player1Id player2Id seed p1 p2 =>
        have hlive : live (newRow (host.uuid before.drawn) player1Id player2Id seed p1 p2) = true := rfl
        have hrows : after.matchRows =
            before.matchRows ++ [newRow (host.uuid before.drawn) player1Id player2Id seed p1 p2] := by
          rw [show after = _ from htook]
          rfl
        dsimp only
        rw [hrows, oneMatch_insert hlive]
        constructor
        · rintro ⟨-, hfree⟩ _ _ _ _ _ ⟨⟩ - userId huser newer lookup older - - - row hrow hplayer
          refine hfree row (List.mem_of_mem_drop hrow) ?_
          rcases huser with rfl | rfl
          · exact .inl hplayer
          · exact .inr hplayer
        · intro hunraced
          have hfree : ∀ userId, (userId = player1Id ∨ userId = player2Id) →
              ∀ x ∈ before.matchRows, isPlayer x userId = true → live x = false := by
            intro userId huser
            have hsaw : SawNone (own pid log) userId := by
              rcases huser with rfl | rfl
              · exact hguard.player1
              · exact hguard.player2
            obtain ⟨newer, lookup, older, hlog, hpid, hcmd, hnone, haged⟩ := lookup_of_sawNone hrun hsaw
            refine free_of_lookup haged (fun x hx => findActive_none hnone hx) ?_
            exact hunraced _ _ _ _ _ rfl htook userId huser newer lookup older hlog hpid hcmd
          refine ⟨h, fun x hx hplayer => ?_⟩
          rcases hplayer with hplayer | hplayer
          · exact hfree _ (.inl rfl) x hx hplayer
          · exact hfree _ (.inr rfl) x hx hplayer
      | finalize matchId status =>
        have hrows : after.matchRows = before.matchRows.map (closeMatch matchId status) := by
          rw [show after = _ from htook]
          rfl
        dsimp only
        rw [hrows]
        exact ⟨fun _ _ _ _ _ _ hcmd => by simp at hcmd, fun _ => oneMatch_closed h matchId status⟩
      | _ => exact absurd rfl hwrites
  · rw [hkept]
    refine ⟨fun _ player1Id player2Id seed p1 p2 hcmd htook => ?_, fun _ => h⟩
    rw [Took, hkept, hcmd] at htook
    have := congrArg (fun s => s.matchRows.length) htook
    simp [act] at this

/-- **One live match a user, exactly while no insert is raced.** In every run
of the lobby from a table that has the property, the table every step finds
and the one it ends with have it if and only if no match of a user is
inserted between a creator's lookup of that user and its own insert and
still live then. -/
theorem one_match (host : Host) (init : Store) (hinit : OneMatch init.matchRows) (moves : List (Move Request Nat)) :
    (OneMatch ((pool host).run ⟨init, [], []⟩ moves).store.matchRows ∧
      ∀ e ∈ ((pool host).run ⟨init, [], []⟩ moves).log, OneMatch e.before.matchRows) ↔
    Meets (Unraced host) ((pool host).run ⟨init, [], []⟩ moves).log := by
  have hrun := run_of_moves host init moves
  generalize ((pool host).run ⟨init, [], []⟩ moves).log = log at hrun
  generalize ((pool host).run ⟨init, [], []⟩ moves).store = s at hrun
  induction hrun with
  | start => simp [Meets, hinit]
  | time ms _ ih => exact ih
  | @call log e hrun hguard hdo ih =>
    constructor
    · rintro ⟨hafter, hall⟩
      obtain ⟨hbefore, hold⟩ := List.forall_mem_cons.1 hall
      exact ⟨(oneMatch_step hrun hguard hdo hbefore).1 hafter, ih.1 ⟨hbefore, hold⟩⟩
    · rintro ⟨hunraced, hmeets⟩
      obtain ⟨hbefore, hold⟩ := ih.2 hmeets
      exact ⟨(oneMatch_step hrun hguard hdo hbefore).2 hunraced, List.forall_mem_cons.2 ⟨hbefore, hold⟩⟩

/-! ## A raced insert -/

/-- Two players join the queue and are paired. -/
def paired : List (Move Request Nat) :=
  [.start (.joinQueue "ann" (some 1)), .start (.joinQueue "bob" (some 2))] ++ answers 0 2 ++ answers 1 2 ++
    [.start (.tryPair false)] ++ answers 2 5

/-- Two players wait. The first pairing pops them and finds both free; one of
them joins again and is paired with a third before the first match is
inserted. -/
def rejoining : List (Move Request Nat) :=
  [.start (.joinQueue "ann" (some 1)), .start (.joinQueue "bob" (some 2))] ++ answers 0 2 ++ answers 1 2 ++
    [.start (.tryPair false)] ++ answers 2 4 ++
    [.start (.joinQueue "ann" (some 3)), .start (.joinQueue "cid" (some 4))] ++ answers 3 2 ++ answers 4 2 ++
    [.start (.tryPair false)] ++ answers 5 5 ++ answers 2 1

set_option maxRecDepth 100000 in
/-- Both inserts take effect: one player is in two live matches. -/
theorem one_match_raced : ¬ OneMatch (lobby {} rejoining).store.matchRows := by decide

set_option maxRecDepth 100000 in
/-- Without the second pairing no insert is raced. -/
theorem one_match_paired : OneMatch (lobby {} paired).store.matchRows ∧
    Meets (Unraced plainHost) (lobby {} paired).log := by
  have hstates : OneMatch (lobby {} paired).store.matchRows ∧
      ∀ e ∈ (lobby {} paired).log, OneMatch e.before.matchRows := by decide
  have hempty : OneMatch ({} : Store).matchRows := List.Pairwise.nil
  exact ⟨hstates.1, (one_match plainHost {} hempty paired).1 hstates⟩

end AutoChess.Lobby
