/-
What a roster action leaves behind that ends with an error, at whatever call.
-/
import AutoChess.Runtime.Ledger
import AutoChess.Runtime.Once

namespace AutoChess.Runtime

open AutoChess.Game AutoChess.Shop Calls Expiring

/-- The request alone on the match, its calls answered, refused or lost. -/
def attempted (matchId : String) (host : Host) (s : Store) (q : Request) (outcomes : List Outcome) :
    World Store Request Cmd Resp Err :=
  (pool matchId host).run ⟨s, [], []⟩ (.start q :: outcomes.map (.run 0))

/-- The error a request ended with. -/
def errorOf (t : Thread Request Cmd Resp Err) : Option Err :=
  match t.rest with
  | .throw err => some err
  | _ => none

/-- The request ended with an error. -/
def Failed (w : World Store Request Cmd Resp Err) : Prop := ∃ t ∈ w.threads, errorOf t ≠ none

instance (w : World Store Request Cmd Resp Err) : Decidable (Failed w) :=
  inferInstanceAs (Decidable (∃ _ ∈ _, _))

/-- The players' states, the shops and the action log are as before. -/
structure Unchanged (s s' : Store) : Prop where
  states : ∀ side, stored s'.hash side = stored s.hash side
  shops : s'.shops = s.shops
  actionLog : s'.actionLog = s.actionLog

/-- The call that fails is made after the action was committed, or commits it
and loses the reply. -/
def FailsLate (log : List RuntimeEvent) : Prop :=
  ∃ newer e older, log = newer ++ e :: older ∧ e.reply = none ∧
    ∃ c ∈ e :: older, ∃ userId id, Commits userId id c

section
variable {matchId : String} {host : Host} {s : Store} {q : Request} {outcomes : List Outcome}

theorem Untouched.trans {s₁ s₂ s₃ : Store} (h₁ : Untouched s₁ s₂) (h₂ : Untouched s₂ s₃) : Untouched s₁ s₃ := by
  obtain ⟨a, b, hhash₁⟩ := h₁.hash
  obtain ⟨a', b', hhash₂⟩ := h₂.hash
  exact ⟨⟨a', b', by rw [hhash₂, hhash₁]⟩, h₂.shops.trans h₁.shops, h₂.actionLog.trans h₁.actionLog,
    h₂.row.trans h₁.row, h₂.jobs.trans h₁.jobs, h₂.published.trans h₁.published⟩

theorem Untouched.unchanged {s' : Store} (h : Untouched s s') : Unchanged s s' := by
  obtain ⟨a, b, hhash⟩ := h.hash
  exact ⟨fun side => by rw [hhash]; cases side <;> rfl, h.shops, h.actionLog⟩

theorem errorOf_ne_none {t : Thread Request Cmd Resp Err} (h : errorOf t ≠ none) : ∃ err, t.rest = .throw err := by
  unfold errorOf at h
  split at h
  · next err heq => exact ⟨err, heq⟩
  · exact absurd rfl h

theorem attempted_moves : ∀ m ∈ (.start q :: outcomes.map (.run 0) : List (Move Request Nat)), ∀ e, m ≠ .env e := by
  intro m hm e
  rcases List.mem_cons.1 hm with rfl | hm
  · simp
  · obtain ⟨outcome, -, rfl⟩ := List.mem_map.1 hm
    simp

theorem attempted_requests : (∀ t ∈ (attempted matchId host s q outcomes).threads, t.request = q) ∧
    ∀ e ∈ (attempted matchId host s q outcomes).log, e.request = q := by
  refine (pool matchId host).run_requests (p := fun q' => q' = q) s _ fun q' hq' => ?_
  rcases List.mem_cons.1 hq' with heq | hmem
  · exact Move.start.inj heq
  · obtain ⟨outcome, -, heq⟩ := List.mem_map.1 hmem
    simp at heq

theorem attempted_single : (attempted matchId host s q outcomes).threads.length = 1 := by
  have hkeep : ∀ (outcomes : List Outcome) (w : World Store Request Cmd Resp Err),
      ((pool matchId host).run w (outcomes.map (.run 0))).threads.length = w.threads.length := by
    intro outcomes
    induction outcomes with
    | nil => exact fun w => rfl
    | cons outcome outcomes ih =>
      intro w
      refine (ih _).trans ?_
      cases hstep : (pool matchId host).step w (.run 0 outcome) with
      | none => simp only [hstep, Option.getD_none]
      | some w' =>
        simp only [hstep, Option.getD_some]
        simp only [Pool.step] at hstep
        split at hstep
        · cases hstep
          exact List.length_set
        · cases hstep
  exact hkeep outcomes ⟨s, [⟨q, program matchId host q⟩], []⟩

theorem attempted_run : CommitRun matchId host s (attempted matchId host s q outcomes).log
    (attempted matchId host s q outcomes).store := Pool.run_chronicle program_commits _

theorem attempted_now : (attempted matchId host s q outcomes).store.now = s.now := by
  refine (pool matchId host).run_rel (r := fun s s' => s'.now = s.now) (fun _ => rfl)
    (fun _ _ _ h₁ h₂ => h₂.trans h₁) attempted_moves fun e he => ?_
  obtain ⟨l₁, l₂, hlog⟩ := List.append_of_mem he
  have hrun := @attempted_run matchId host s q outcomes
  rw [attempted, hlog] at hrun
  rcases hrun.of_split.2.2.after_eq with hsame | hafter
  · rw [hsame]
  · rw [hafter]
    exact (act_frame host e.cmd e.before).now

/-- An error after the commit is that of a call that failed. -/
theorem failed_late (hedits : q.edits = true) (hfail : Failed (attempted matchId host s q outcomes))
    (hcommit : ∃ c ∈ (attempted matchId host s q outcomes).log, ∃ userId id, Commits userId id c) :
    FailsLate (attempted matchId host s q outcomes).log := by
  obtain ⟨c, hmem, userId, id, hc⟩ := hcommit
  obtain ⟨newer, older, hlog⟩ := List.append_of_mem hmem
  have hrun := @attempted_run matchId host s q outcomes
  cases hreply : c.reply with
  | none => exact ⟨newer, c, older, hlog, hreply, c, List.mem_cons_self .., userId, id, hc⟩
  | some r =>
    -- The request was told, so it ended with this error after a fault.
    have hobeys : ((pool matchId host).run ⟨s, [], []⟩ (.start q :: outcomes.map (.run 0))).Obeys CommitGuard
        (fun q o h => q.edits = true → Ends o h) := by
      refine Pool.run_obeys (fun q => ?_) _
      by_cases hq : q.edits = true
      · exact (roster_obeys hq).mono fun _ _ _ hends _ => hends
      · exact (program_commits q).mono fun _ _ _ _ hq' => absurd hq' hq
    obtain ⟨t, ht, herr⟩ := hfail
    obtain ⟨err, hrest⟩ := errorOf_ne_none herr
    obtain ⟨pid, hpid⟩ := List.getElem?_of_mem ht
    have hends := hobeys.threads pid t hpid
    rw [hrest] at hends
    have hone := @attempted_single matchId host s q outcomes
    have hlt : pid < 1 := hone ▸ (List.getElem?_eq_some_iff.1 hpid).1
    have hmine : c.pid < 1 := hone ▸ hobeys.pids c hmem
    have hrec : ToldRecorded (own pid (attempted matchId host s q outcomes).log) := by
      obtain ⟨field, shop, phase, round, hcmd, hrec, -⟩ := hc
      rw [hlog] at hrun
      have hr := (hrun.of_split.2.2.of_reply hreply).1
      refine ⟨userId, id, field, shop, phase, round, mem_own.2 ⟨c, hmem, by omega, ?_⟩⟩
      obtain ⟨⟨cmd, reply⟩, pid', request, before, after⟩ := c
      cases hcmd
      have hreply : reply = some r := hreply
      have hr : r = (evalActionLog userId id field shop phase round before).1 := hr
      rw [hreply, hr, hrec]
    obtain ⟨newerC, e, olderC, hown, hnone, hrecC⟩ := hends (attempted_requests.1 t ht ▸ hedits) err rfl hrec
    obtain ⟨l₁, e', l₂, hlog', hpid', hcall, howned, -⟩ := own_split hown
    have hlog' : (attempted matchId host s q outcomes).log = l₁ ++ e' :: l₂ := hlog'
    have hprior : CommitRun matchId host s l₂ e'.before := by
      have hrun := @attempted_run matchId host s q outcomes
      rw [hlog'] at hrun
      exact hrun.of_split.1
    obtain ⟨userId', id', c', hmem', -, hc'⟩ := ToldRecorded.commits hprior (howned ▸ hrecC)
    exact ⟨l₁, e', l₂, hlog', hcall ▸ hnone, c', List.mem_cons_of_mem _ hmem', userId', id', hc'⟩

theorem attempted_untouched (hedits : q.edits = true)
    (hcommit : ¬ ∃ c ∈ (attempted matchId host s q outcomes).log, ∃ userId id, Commits userId id c) :
    Untouched s (attempted matchId host s q outcomes).store := by
  refine (pool matchId host).run_rel Untouched.refl (fun _ _ _ => Untouched.trans) attempted_moves fun e he => ?_
  obtain ⟨l₁, l₂, hlog⟩ := List.append_of_mem he
  have hrun := @attempted_run matchId host s q outcomes
  have hreq := attempted_requests.2 e he
  have hnone : ∀ c ∈ e :: l₂, c.pid = e.pid → ∀ userId id, ¬ Commits userId id c := fun c hc _ userId id hcommits =>
    hcommit ⟨c, hlog ▸ List.mem_append_right _ hc, userId, id, hcommits⟩
  rw [attempted, hlog] at hrun
  refine hrun.untouched ?_ hnone
  rw [hreq]
  unfold Request.edits at hedits
  split at hedits
  · simp [Request.sent]
  · simp [Request.sent]
  · cases hedits

/-- A commit shows in the action log. -/
theorem attempted_changed (hcommit : ∃ c ∈ (attempted matchId host s q outcomes).log, ∃ userId id,
    Commits userId id c) : (attempted matchId host s q outcomes).store.actionLog ≠ s.actionLog := by
  obtain ⟨newer, c, older, hlog, ⟨userId, id, hc⟩, hfirst⟩ := exists_oldest hcommit
  have hrun := @attempted_run matchId host s q outcomes
  have hnow := @attempted_now matchId host s q outcomes
  rw [hlog] at hrun
  have hbefore : s.now ≤ c.before.now ∧ c.before.actionLog = s.actionLog := by
    refine Chronicle.rel_init (r := fun a b : Store => a.now ≤ b.now ∧ b.actionLog = a.actionLog)
      (fun _ => ⟨le_rfl, rfl⟩) ?_ (fun ms _ => ⟨Nat.le_add_right _ ms, rfl⟩) hrun.of_split.1
      fun l₁ e l₂ hsplit => ?_
    · rintro s₁ s₂ s₃ ⟨hnow₁, hlog₁⟩ ⟨hnow₂, hlog₂⟩
      exact ⟨hnow₁.trans hnow₂, hlog₂.trans hlog₁⟩
    have hdo : (pool matchId host).Does e := by
      rw [hsplit, ← List.cons_append, ← List.append_assoc] at hrun
      exact hrun.of_split.2.2
    have hsame := uncommitted_log hdo fun userId' id' hc' =>
      hfirst e (hsplit ▸ List.mem_append_right _ (List.mem_cons_self ..)) ⟨userId', id', hc'⟩
    exact ⟨hsame.1.ge, hsame.2⟩
  intro hsame
  have hkept : Remembered userId id c.before.now (attempted matchId host s q outcomes).store := hrun.remembered hc
  have hle := hkept.1
  have hthen : c.before.now = s.now := by omega
  have hfound := hkept.logged (by omega)
  refine hc.fresh ?_
  rwa [logged, hbefore.2, hthen, ← hnow, ← hsame]

theorem failed_untouched (hedits : q.edits = true) (hfail : Failed (attempted matchId host s q outcomes))
    (hlate : ¬ FailsLate (attempted matchId host s q outcomes).log) :
    Untouched s (attempted matchId host s q outcomes).store :=
  attempted_untouched hedits fun hcommit => hlate (failed_late hedits hfail hcommit)

/-- After an error before the commit, the action log takes a retry as it would
have taken a first attempt. A lock whose release failed stays until it expires,
and stops a retry as it stops any other action. -/
theorem retry_taken (hedits : q.edits = true) (hfail : Failed (attempted matchId host s q outcomes))
    (hlate : ¬ FailsLate (attempted matchId host s q outcomes).log) (userId id : String) (field : FieldWrite)
    (shop : Option (StoredShop × Nat)) (phase : MatchPhase) (round : Nat) :
    (evalActionLog userId id field shop phase round (attempted matchId host s q outcomes).store).1 =
      (evalActionLog userId id field shop phase round s).1 := by
  obtain ⟨⟨a, b, hhash⟩, -, hlog, -, -, -⟩ := failed_untouched hedits hfail hlate
  unfold evalActionLog
  rw [hlog, attempted_now, hhash]
  dsimp only
  split
  · rfl
  split
  · rfl
  split
  · rfl
  cases shop <;> rfl

end

/-- **A roster action that ends with an error has changed nothing exactly when
no call failed after its commit**: from every store, whatever calls fail. -/
theorem rejected_unchanged (matchId : String) (host : Host) (s : Store) (q : Request) (outcomes : List Outcome)
    (hedits : q.edits = true) (hfail : Failed (attempted matchId host s q outcomes)) :
    Unchanged s (attempted matchId host s q outcomes).store ↔
      ¬ FailsLate (attempted matchId host s q outcomes).log := by
  constructor
  · rintro hsame ⟨newer, e, older, hlog, -, c, hc, hcommit⟩
    exact attempted_changed ⟨c, hlog ▸ List.mem_append_right _ hc, hcommit⟩ hsame.actionLog
  · intro hlate
    exact (failed_untouched hedits hfail hlate).unchanged

/-- The match as it is announced. -/
def announced : Store := (play (.start (.announce friendly ⟨"one", "two"⟩) :: answers 0 9)).store

def purchase : Request := .action "u1" 1 (.shop (.buy 4) "a")

/-- A placement of a unit that the player does not own. -/
def misplacement : Request := .action "u1" 1 (.place "x" .board 0 "a")

set_option maxRecDepth 100000 in
theorem rejected_unchanged_misplacement :
    Unchanged announced (attempted "m" plainHost announced misplacement (List.replicate 9 .answered)).store ↔
      ¬ FailsLate (attempted "m" plainHost announced misplacement (List.replicate 9 .answered)).log :=
  rejected_unchanged "m" plainHost announced misplacement _ rfl (by decide)

/-- The calls of a purchase, of which the mirror in PostgreSQL fails. -/
def unmirrored : List Outcome := List.replicate 9 .answered ++ [.refused, .answered]

set_option maxRecDepth 100000 in
/-- A unit whose purchase is reported as an error is bought. -/
theorem failed_purchase : Failed (attempted "m" plainHost announced purchase unmirrored) ∧
    ¬ Unchanged announced (attempted "m" plainHost announced purchase unmirrored).store := by
  refine ⟨by decide, fun hsame => ?_⟩
  have hgold : (stored (attempted "m" plainHost announced purchase unmirrored).store.hash .p1).gold ≠
      (stored announced.hash .p1).gold := by decide
  exact hgold (congrArg RuntimePlayerState.gold (hsame.states .p1))

end AutoChess.Runtime
