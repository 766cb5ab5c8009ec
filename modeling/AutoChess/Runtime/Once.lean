/-
Actions are committed once and on time. The commit of an action is the script
that records its id; every copy of the request, on whatever replica and
however delayed, finds the id there while its log entry lasts.
-/
import AutoChess.Runtime.Commits

namespace AutoChess.Runtime

open AutoChess.Game AutoChess.Shop Calls Expiring

/-- The call commits the user's action of this id. -/
def Commits (userId id : String) (e : RuntimeEvent) : Prop :=
  ∃ field shop phase round, e.cmd = .actionLog userId id field shop phase round ∧
    (evalActionLog userId id field shop phase round e.before).1 = .recorded ∧
    e.after = (evalActionLog userId id field shop phase round e.before).2

/-- Nothing of the match is stored or told, but for a missing name of a
player. -/
structure Untouched (s s' : Store) : Prop where
  hash : ∃ a b, s'.hash = { s.hash with player1Name := a, player2Name := b }
  shops : s'.shops = s.shops
  actionLog : s'.actionLog = s.actionLog
  row : s'.row = s.row
  jobs : s'.jobs = s.jobs
  published : s'.published = s.published

structure ActionsOnce (log : List RuntimeEvent) : Prop where
  /-- What a round's action changes is committed in that round's planning
  phase. -/
  onTime : ∀ e ∈ log, ∀ userId id, Commits userId id e → ∃ round,
    e.request.sent = some (userId, id, round) ∧ e.before.hash.phase = some .shop_place ∧
      e.before.hash.round = some round
  /-- The log entry lasts for two minutes. -/
  kept : ∀ newer e₂ mid e₁ older, log = newer ++ e₂ :: (mid ++ e₁ :: older) → ∀ userId id,
    Commits userId id e₁ → e₂.before.now ≤ e₁.before.now + 120000 → id ∈ logged e₂.before userId
  /-- While it lasts the action is not committed again. -/
  once : ∀ newer e₂ mid e₁ older, log = newer ++ e₂ :: (mid ++ e₁ :: older) → ∀ userId id,
    Commits userId id e₁ → (∀ e ∈ e₂ :: mid, id ∈ logged e.before userId) → ¬ Commits userId id e₂
  /-- While it lasts no other copy of the request changes anything. -/
  copies : ∀ newer e₂ mid e₁ older, log = newer ++ e₂ :: (mid ++ e₁ :: older) → ∀ userId id round,
    Commits userId id e₁ → (∀ e ∈ e₂ :: mid, id ∈ logged e.before userId) →
    e₂.request.sent = some (userId, id, round) →
    (∀ e ∈ e₁ :: older, e.pid = e₂.pid → ¬ Commits userId id e) → Untouched e₂.before e₂.after

section
variable {matchId : String} {host : Host} {init s : Store} {log newer older : List RuntimeEvent}
  {e : RuntimeEvent} {userId id : String}

/-- A run in which requests commit their actions by the script. -/
abbrev CommitRun (matchId : String) (host : Host) (init : Store) (log : List RuntimeEvent) (s : Store) : Prop :=
  Chronicle (pool matchId host) CommitGuard init log s

theorem Untouched.refl (s : Store) : Untouched s s := ⟨⟨_, _, rfl⟩, rfl, rfl, rfl, rfl, rfl⟩

theorem Peripheral.untouched {c : Cmd} (hc : Peripheral c) (host : Host) (s : Store) : Untouched s (act host c s).2 := by
  have hframe := act_frame host c s
  have hhash := act_hash host c s
  cases c with
  | hset fields =>
    obtain ⟨a, b, rfl⟩ := hc
    exact ⟨⟨a, b, hhash⟩, rfl, rfl, rfl, rfl, rfl⟩
  | setLock lock owner ttlMs =>
    simp only [act, setLock]
    split <;> exact ⟨⟨_, _, rfl⟩, rfl, rfl, rfl, rfl, rfl⟩
  | releaseOwnedLock lock owner =>
    simp only [act, releaseOwnedLock]
    split <;> exact ⟨⟨_, _, rfl⟩, rfl, rfl, rfl, rfl, rfl⟩
  | hgetall => exact .refl s
  | usernamesForPlayers player1Id player2Id => exact .refl s
  | findActiveByUserId userId => exact .refl s
  | hexistsActionLog userId id => exact .refl s
  | getShop userId => exact .refl s
  | randomUUID => exact ⟨⟨_, _, rfl⟩, rfl, rfl, rfl, rfl, rfl⟩
  | sleep ms => exact .refl s
  | _ => cases hc

/-! ## The script -/

theorem evalActionLog_stores {field : FieldWrite} {shop : Option (StoredShop × Nat)} {phase : MatchPhase}
    {round : Nat} (h : (evalActionLog userId id field shop phase round s).1 = .recorded) :
    id ∉ logged s userId ∧ (evalActionLog userId id field shop phase round s).2.actionLog =
      put s.actionLog userId (Key.setEx s.now 120000 (id :: logged s userId)) ∧
      (evalActionLog userId id field shop phase round s).2.now = s.now := by
  unfold evalActionLog at h ⊢
  dsimp only at h ⊢
  split at h
  · cases h
  next hid =>
  split at h
  · cases h
  next hround =>
  split at h
  · cases h
  next hphase =>
  rw [if_neg hid, if_neg hround, if_neg hphase]
  cases shop <;> exact ⟨hid, rfl, rfl⟩

theorem Commits.fresh (hc : Commits userId id e) : id ∉ logged e.before userId := by
  obtain ⟨field, shop, phase, round, -, hrec, -⟩ := hc
  exact (evalActionLog_stores hrec).1

theorem isCommit_iff {c : Cmd} : c.isCommit = true ↔
    ∃ userId id field shop phase round, c = .actionLog userId id field shop phase round := by
  constructor
  · intro hc
    cases c with
    | actionLog userId id field shop phase round => exact ⟨_, _, _, _, _, _, rfl⟩
    | _ => cases hc
  · rintro ⟨userId, id, field, shop, phase, round, rfl⟩
    rfl

/-- A script that is called commits or changes nothing. -/
theorem commits_or_same {field : FieldWrite} {shop : Option (StoredShop × Nat)} {phase : MatchPhase}
    {round : Nat} (hdo : (pool matchId host).Does e) (hcmd : e.cmd = .actionLog userId id field shop phase round) :
    Commits userId id e ∨ e.after = e.before := by
  rcases hdo.after_eq with hsame | hafter
  · exact .inr hsame
  have hafter : e.after = (evalActionLog userId id field shop phase round e.before).2 := by
    rw [hafter, hcmd]
    rfl
  by_cases hrec : (evalActionLog userId id field shop phase round e.before).1 = .recorded
  · exact .inl ⟨field, shop, phase, round, hcmd, hrec, hafter⟩
  · exact .inr (hafter.trans (evalActionLog_refused hrec))

theorem ToldRecorded.commits (h : CommitRun matchId host init log s) {pid : Nat} (hrec : ToldRecorded (own pid log)) :
    ∃ userId id, ∃ e ∈ log, e.pid = pid ∧ Commits userId id e := by
  obtain ⟨userId, id, field, shop, phase, round, hmem⟩ := hrec
  obtain ⟨e, hmem, hpid, hcall⟩ := mem_own.1 hmem
  obtain ⟨l₁, l₂, rfl⟩ := List.append_of_mem hmem
  obtain ⟨hreply, hafter⟩ := h.of_split.2.2.of_call hcall
  exact ⟨userId, id, e, hmem, hpid, field, shop, phase, round, congrArg Call.cmd hcall, hreply.symm, hafter⟩

theorem CommitRun.commit_sent (h : CommitRun matchId host init (newer ++ e :: older) s)
    (hc : Commits userId id e) : ∃ round, e.request.sent = some (userId, id, round) ∧
      e.before.hash.phase = some .shop_place ∧ e.before.hash.round = some round := by
  obtain ⟨field, shop, phase, round, hcmd, hrec, -⟩ := hc
  have hguard : CommitGuard e.request (own e.pid older) e.cmd := h.of_split.2.1
  rw [hcmd] at hguard
  obtain ⟨hsent, rfl⟩ := hguard
  exact ⟨round, hsent, (evalActionLog_recorded hrec).1, (evalActionLog_recorded hrec).2.1⟩

/-! ## The log entry -/

/-- The entry is there until its two minutes are over. -/
def Remembered (userId id : String) (since : Nat) (s : Store) : Prop :=
  since ≤ s.now ∧ (s.now ≤ since + 120000 → ∃ t ids, since ≤ t ∧
    s.actionLog userId = Key.setEx t 120000 ids ∧ id ∈ ids)

theorem Remembered.logged {since : Nat} (hk : Remembered userId id since s) (hle : s.now ≤ since + 120000) :
    id ∈ logged s userId := by
  obtain ⟨t, ids, ht, hkey, hmem⟩ := hk.2 hle
  have hget : (Key.setEx t 120000 ids).get s.now = some ids := by
    rw [Key.get_setEx_later, if_pos (by omega)]
  rw [Runtime.logged, hkey, hget]
  exact hmem

theorem Remembered.commit {since : Nat} (hk : Remembered userId id since e.before) {userId' id' : String}
    (hc : Commits userId' id' e) : Remembered userId id since e.after := by
  obtain ⟨field, shop, phase, round, -, hrec, hafter⟩ := hc
  obtain ⟨-, hlog, hnow⟩ := evalActionLog_stores hrec
  rw [← hafter] at hlog hnow
  refine ⟨hnow ▸ hk.1, fun hle => ?_⟩
  rw [hnow] at hle
  by_cases huser : userId = userId'
  · subst huser
    refine ⟨e.before.now, id' :: Runtime.logged e.before userId, hk.1, ?_, List.mem_cons_of_mem _ (hk.logged hle)⟩
    rw [hlog]
    exact if_pos rfl
  · rw [hlog]
    obtain ⟨t, ids, ht, hkey, hmem⟩ := hk.2 hle
    exact ⟨t, ids, ht, (if_neg huser).trans hkey, hmem⟩

/-- A call that commits nothing keeps the clock and the action log. -/
theorem uncommitted_log (hdo : (pool matchId host).Does e) (hnone : ∀ userId id, ¬ Commits userId id e) :
    e.after.now = e.before.now ∧ e.after.actionLog = e.before.actionLog := by
  rcases hdo.after_eq with hsame | hafter
  · rw [hsame]
    exact ⟨rfl, rfl⟩
  by_cases hcommit : e.cmd.isCommit = true
  · obtain ⟨userId, id, field, shop, phase, round, hcmd⟩ := isCommit_iff.1 hcommit
    rw [(commits_or_same hdo hcmd).resolve_left (hnone userId id)]
    exact ⟨rfl, rfl⟩
  · have hframe := act_frame host e.cmd e.before
    rw [hafter]
    exact ⟨hframe.now, hframe.actionLog (by simpa using hcommit)⟩

theorem Remembered.call {since : Nat} (hk : Remembered userId id since e.before) (hdo : (pool matchId host).Does e) :
    Remembered userId id since e.after := by
  by_cases hcommit : ∃ userId' id', Commits userId' id' e
  · obtain ⟨userId', id', hc⟩ := hcommit
    exact hk.commit hc
  · have hsame := uncommitted_log hdo fun userId' id' hc => hcommit ⟨userId', id', hc⟩
    rw [Remembered, hsame.1, hsame.2]
    exact hk

theorem CommitRun.remembered (h : CommitRun matchId host init (newer ++ e :: older) s) (hc : Commits userId id e) :
    Remembered userId id e.before.now s := by
  refine h.since_induction (motive := fun _ s => Remembered userId id e.before.now s) ?_ ?_ ?_
  · obtain ⟨field, shop, phase, round, -, hrec, hafter⟩ := hc
    obtain ⟨-, hlog, hnow⟩ := evalActionLog_stores hrec
    rw [← hafter] at hlog hnow
    refine ⟨hnow.ge, fun _ => ⟨e.before.now, id :: logged e.before userId, le_rfl, ?_, List.mem_cons_self ..⟩⟩
    rw [hlog]
    exact if_pos rfl
  · intro _ s ms hk
    exact ⟨hk.1.trans (Nat.le_add_right ..), fun hle => hk.2 ((Nat.le_add_right ..).trans hle)⟩
  · exact fun _ _ _ _ hdo hk => hk.call hdo

/-- A request that has committed nothing of its own leaves everything alone. -/
theorem CommitRun.untouched (h : CommitRun matchId host init (newer ++ e :: older) s)
    (hsent : e.request.sent ≠ none) (hown : ∀ c ∈ e :: older, c.pid = e.pid → ∀ userId id, ¬ Commits userId id c) :
    Untouched e.before e.after := by
  obtain ⟨hbefore, hguard, hdo⟩ := h.of_split
  by_cases hcommit : e.cmd.isCommit = true
  · obtain ⟨userId, id, field, shop, phase, round, hcmd⟩ := isCommit_iff.1 hcommit
    rcases commits_or_same hdo hcmd with hc | hsame
    · exact absurd hc (hown e (List.mem_cons_self ..) rfl userId id)
    · rw [hsame]
      exact .refl _
  · have hidle : Peripheral e.cmd := by
      have hcases : e.request.sent = none ∨ Peripheral e.cmd ∨ ToldRecorded (own e.pid older) := by
        generalize e.cmd = c at hguard hcommit
        cases c <;> first | exact hguard | exact absurd rfl hcommit
      rcases hcases with hnone | hidle | hrec
      · exact absurd hnone hsent
      · exact hidle
      · obtain ⟨userId, id, c, hmem, hpid, hc⟩ := ToldRecorded.commits hbefore hrec
        exact absurd hc (hown c (List.mem_cons_of_mem _ hmem) hpid userId id)
    rcases hdo.after_eq with hsame | hafter
    · rw [hsame]
      exact .refl _
    · rw [hafter]
      exact hidle.untouched host e.before

end

/-- **Actions are committed once and on time**, in every interleaving of
requests, whatever calls fail. -/
theorem actions_once (matchId : String) (host : Host) (init : Store) (moves : List (Move Request Nat)) :
    ActionsOnce ((pool matchId host).run ⟨init, [], []⟩ moves).log := by
  have hrun : CommitRun matchId host init ((pool matchId host).run ⟨init, [], []⟩ moves).log
      ((pool matchId host).run ⟨init, [], []⟩ moves).store := Pool.run_chronicle program_commits moves
  refine ⟨fun e hmem userId id hc => ?_, fun newer e₂ mid e₁ older hlog userId id hc hle => ?_,
    fun newer e₂ mid e₁ older hlog userId id hc hlogged hagain => ?_,
    fun newer e₂ mid e₁ older hlog userId id round hc hlogged hsent hothers => ?_⟩
  · obtain ⟨l₁, l₂, hlog⟩ := List.append_of_mem hmem
    rw [hlog] at hrun
    exact hrun.commit_sent hc
  · rw [hlog] at hrun
    exact (CommitRun.remembered hrun.of_split.1 hc).logged hle
  · exact hagain.fresh (hlogged e₂ (List.mem_cons_self ..))
  · have hsame : ∀ e ∈ mid ++ e₁ :: older, e.pid = e₂.pid → e.request = e₂.request := fun e hmem hpid =>
      (pool matchId host).same_request init moves (hlog ▸ List.mem_append_right _ (List.mem_cons_self ..))
        (hlog ▸ List.mem_append_right _ (List.mem_cons_of_mem _ hmem)) hpid
    rw [hlog] at hrun
    refine hrun.untouched (by simp [hsent]) fun c hmem hpid userId' id' hc' => ?_
    -- A commit of the same request is one of the same id.
    have hsame' : userId' = userId ∧ id' = id := by
      obtain ⟨l₁, l₂, hsplit⟩ := List.append_of_mem hmem
      rw [hsplit, ← List.append_assoc] at hrun
      obtain ⟨round', hsent', -⟩ := hrun.commit_sent hc'
      rcases List.mem_cons.1 hmem with rfl | hmem
      · rw [hsent] at hsent'
        cases hsent'
        exact ⟨rfl, rfl⟩
      · rw [hsame c hmem hpid, hsent] at hsent'
        cases hsent'
        exact ⟨rfl, rfl⟩
    obtain ⟨rfl, rfl⟩ := hsame'
    rcases List.mem_cons.1 hmem with rfl | hmem
    · exact hc'.fresh (hlogged c (List.mem_cons_self ..))
    rcases List.mem_append.1 hmem with hmem | hmem
    · exact hc'.fresh (hlogged c (List.mem_cons_of_mem _ hmem))
    · exact hothers c hmem hpid hc'

end AutoChess.Runtime
