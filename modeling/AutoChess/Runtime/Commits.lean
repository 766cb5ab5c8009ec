/-
Actions that carry a `clientActionId`: shop actions, placements and readiness.
What such a request changes it changes by the script that records its id
(`CommitGuard`), and after that. The script records an id once, and only in
the planning phase of the round that the request names.
-/
import AutoChess.Runtime.Edits
import AutoChess.Runtime.Ready

namespace AutoChess.Runtime

open AutoChess.Game AutoChess.Shop Calls Expiring

/-- The user, the `clientActionId` and the round of a logged action. -/
def Request.sent : Request → Option (String × String × Nat)
  | .action userId round (.shop _ id) => some (userId, id, round)
  | .action userId round (.place _ _ _ id) => some (userId, id, round)
  | .action userId round (.ready _ id) => some (userId, id, round)
  | _ => none

/-- Commands that leave the match alone. -/
def Peripheral : Cmd → Prop
  | .hgetall | .usernamesForPlayers _ _ | .findActiveByUserId _ | .hexistsActionLog _ _ | .getShop _
  | .randomUUID | .sleep _ | .setLock _ _ _ | .releaseOwnedLock _ _ => True
  | .hset fields => ∃ a b, fields = [.player1Name a, .player2Name b]
  | _ => False

/-- The request was told that its action is recorded. -/
def ToldRecorded (h : History) : Prop := ∃ userId id field shop phase round,
  (⟨.actionLog userId id field shop phase round, some .recorded⟩ : Call Cmd Resp) ∈ h

def CommitGuard (q : Request) (h : History) : Cmd → Prop
  | .actionLog userId id _ _ phase round => q.sent = some (userId, id, round) ∧ phase = .shop_place
  | c => q.sent = none ∨ Peripheral c ∨ ToldRecorded h

/-- A call failed after the action was recorded. -/
def LateFault (h : History) : Prop :=
  ∃ newer c older, h = newer ++ c :: older ∧ c.reply = none ∧ ToldRecorded older

/-- A request that was told its action is recorded ends with an error only
after a later call failed. -/
def Ends {α : Type} (o : Except Err α) (h : History) : Prop :=
  ∀ err, o = .error err → ToldRecorded h → LateFault h

section
variable {matchId : String} {host : Host} {q : Request} {h : History} {α β : Type}

theorem ToldRecorded.later {h' : History} (hrec : ToldRecorded h) (hsuf : h <:+ h') : ToldRecorded h' := by
  obtain ⟨userId, id, field, shop, phase, round, hmem⟩ := hrec
  exact ⟨userId, id, field, shop, phase, round, hsuf.subset hmem⟩

theorem LateFault.later {h' : History} (hlate : LateFault h) (hsuf : h <:+ h') : LateFault h' := by
  obtain ⟨newer, c, older, rfl, hnone, hrec⟩ := hlate
  obtain ⟨new, rfl⟩ := hsuf
  exact ⟨new ++ newer, c, older, by simp, hnone, hrec⟩

theorem unrecorded_cons {c : Call Cmd Resp} (hc : c.cmd.isCommit = false) (hh : ¬ ToldRecorded h) :
    ¬ ToldRecorded (c :: h) := by
  rintro ⟨userId, id, field, shop, phase, round, hmem⟩
  rcases List.mem_cons.1 hmem with rfl | hmem
  · cases hc
  · exact hh ⟨userId, id, field, shop, phase, round, hmem⟩

theorem Peripheral.no_commit {c : Cmd} (hc : Peripheral c) : c.isCommit = false := by
  cases c <;> first | rfl | cases hc

theorem Peripheral.guard {c : Cmd} (hc : Peripheral c) : CommitGuard q h c := by
  cases c <;> first | exact .inr (.inl hc) | cases hc

theorem ToldRecorded.guard {c : Cmd} (hc : c.isCommit = false) (hrec : ToldRecorded h) : CommitGuard q h c := by
  cases c <;> first | exact .inr (.inr hrec) | cases hc

/-- Before the record only idle commands are made. -/
theorem idle_obeys {p : M α} (hp : p.Issues Peripheral) (hh : ¬ ToldRecorded h) :
    p.Obeys (CommitGuard q) (fun _ h' => ¬ ToldRecorded h') h := by
  induction p generalizing h with
  | pure a => exact hh
  | throw e => exact hh
  | call c k ih => exact ⟨hp.1.guard, fun r => ih r (hp.2 r) (unrecorded_cons hp.1.no_commit hh)⟩

theorem commits_idle {p : M α} {f : α → M β} (hp : p.Issues Peripheral) (hh : ¬ ToldRecorded h)
    (hf : ∀ a h', ¬ ToldRecorded h' → (f a).Obeys (CommitGuard q) Ends h') :
    (p.bind f).Obeys (CommitGuard q) Ends h := by
  refine Prog.Obeys.bind ((idle_obeys hp hh).mono fun o h' _ hh' => ?_)
  cases o with
  | ok a => exact hf a h' hh'
  | error e => exact fun _ _ hrec => absurd hrec hh'

/-- After it, a program that throws has seen a call fail. -/
theorem steady_obeys {p : M α} (hp : p.Steady) (hi : p.Issues fun c => c.isCommit = false)
    (hrec : ToldRecorded h) : p.Obeys (CommitGuard q)
      (fun o h' => h <:+ h' ∧ ∀ err, o = .error err → LateFault h') h := by
  have key : ∀ {p : M α} {h' : History}, p.Issues (fun c => c.isCommit = false) → h <:+ h' →
      (p.Steady ∨ LateFault h') → p.Obeys (CommitGuard q)
        (fun o h' => h <:+ h' ∧ ∀ err, o = .error err → LateFault h') h' := by
    intro p
    induction p with
    | pure a => exact fun _ hsuf _ => ⟨hsuf, by simp⟩
    | throw e => exact fun _ hsuf hlate => ⟨hsuf, fun _ _ => hlate.resolve_left id⟩
    | call c k ih =>
      intro h' hi hsuf hp
      refine ⟨(hrec.later hsuf).guard hi.1, fun r => ih r (hi.2 r) (hsuf.trans (List.suffix_cons ..)) ?_⟩
      rcases hp with hp | hlate
      · cases r with
        | none => exact .inr ⟨[], _, h', rfl, rfl, hrec.later hsuf⟩
        | some r => exact .inl (hp r)
      · exact .inr (hlate.later (List.suffix_cons ..))
  exact key hi (List.suffix_refl h) (.inl hp)

theorem Ends.cons {o : Except Err α} {c : Call Cmd Resp} (hc : c.cmd.isCommit = false) (hends : Ends o h) :
    Ends o (c :: h) := fun err heq hrec =>
  (hends err heq (by_contra fun hh => unrecorded_cons hc hh hrec)).later (List.suffix_cons ..)

theorem ends_fault {o : Except Err α} {c : Cmd} (hc : c.isCommit = false) : Ends o (⟨c, none⟩ :: h) :=
  fun _ _ hrec => ⟨[], _, h, rfl, rfl, by_contra fun hh => unrecorded_cons hc hh hrec⟩

theorem ends_ok {a : α} : Ends (.ok a) h := fun _ heq => by cases heq

/-- A body under a lock, which is released whatever happens. -/
theorem ensuring_commits {p : M α} {lock : Lock} {owner : String} (hp : p.Obeys (CommitGuard q) Ends h) :
    (p.ensuring (call (.releaseOwnedLock lock owner))).Obeys (CommitGuard q) Ends h := by
  refine Prog.Obeys.bind (Prog.Obeys.attempt (hp.mono fun o h' _ hends => ?_))
  refine Prog.Obeys.perform_bind (Peripheral.guard trivial) (fun r => ?_) (ends_fault rfl)
  cases o with
  | ok a => exact ends_ok
  | error e => exact hends.cons rfl

/-! ## Shop actions and placements -/

theorem acquireLock_idle (lock : Lock) (owner : String) (busy : Rejection) :
    ∀ attempts, (acquireLock lock owner busy attempts).Issues Peripheral
  | 0 => trivial
  | attempts + 1 => by
    refine Prog.Issues.perform_bind trivial fun acquired => ?_
    split
    · trivial
    · exact Prog.Issues.perform_bind trivial fun _ => acquireLock_idle lock owner busy attempts

theorem resolveMatch_idle (userId : String) : (resolveMatch userId).Issues Peripheral := by
  refine Prog.Issues.perform_bind trivial fun found => ?_
  cases found <;> trivial

theorem findRuntime_idle : (findRuntime matchId).Issues Peripheral := by
  refine Prog.Issues.perform_bind trivial fun hash => ?_
  split
  · trivial
  · split
    · exact Prog.Issues.perform_bind trivial fun _ => Prog.Issues.perform_bind ⟨_, _, rfl⟩ fun _ => trivial
    · trivial

theorem requireActionPhase_idle {round : Nat} {phase : MatchPhase} :
    (requireActionPhase matchId round phase).Issues Peripheral := by
  refine (findRuntime_idle.bind fun found => ?_).bind fun runtime => ?_
  · cases found <;> trivial
  · split
    · trivial
    · split <;> trivial

theorem mutate_idle {userId : String} {round : Nat} {runtime : MatchRuntimeState} {held : Holdings}
    {action : ShopAction} : (mutate host userId round runtime held action).Issues Peripheral := by
  have hreject : ∀ {γ : Type} (o : Except Rejection γ), (orReject o).Issues Peripheral := fun o => by
    cases o <;> trivial
  cases action with
  | buy offerIndex => exact (hreject _).bind fun _ => Prog.Issues.perform_bind trivial fun _ => hreject _
  | _ => exact hreject _

theorem publishState_steady (runtime : MatchRuntimeState) (side : Side) (state : RuntimePlayerState) :
    (publishState runtime side state).Steady := Prog.Steady.both (Prog.Steady.perform _ _) (Prog.Steady.perform _ _)

theorem publishState_uncommitted (runtime : MatchRuntimeState) (side : Side) (state : RuntimePlayerState) :
    (publishState runtime side state).Issues fun c => c.isCommit = false :=
  Prog.Issues.both (Prog.Issues.perform (by rfl) _) (Prog.Issues.perform (by rfl) _)

/-- The mirror and the announcement of a recorded action. -/
theorem mirror_obeys {runtime : MatchRuntimeState} {side : Side} {state : RuntimePlayerState} {b : Bool}
    (hrec : ToldRecorded h) : (do
      call (.updateState side state)
      publishState runtime side state
      return b : M Bool).Obeys (CommitGuard q) (fun o h' => h <:+ h' ∧ ∀ err, o = .error err → LateFault h') h :=
  steady_obeys (Prog.Steady.perform_bind fun _ => (publishState_steady _ _ _).bind fun _ => trivial)
    (Prog.Issues.perform_bind rfl fun _ => (publishState_uncommitted _ _ _).bind fun _ => trivial) hrec

theorem recorded_cons {userId id : String} {field : FieldWrite} {shop : Option (StoredShop × Nat)}
    {phase : MatchPhase} {round : Nat} :
    ToldRecorded ((⟨.actionLog userId id field shop phase round, some .recorded⟩ : Call Cmd Resp) :: h) :=
  ⟨_, _, _, _, _, _, List.mem_cons_self ..⟩

/-- A script that did not record leaves nothing recorded. -/
theorem unrecorded_reply {userId id : String} {field : FieldWrite} {shop : Option (StoredShop × Nat)}
    {phase : MatchPhase} {round : Nat} {reply : Option ActionLogReply} (hreply : reply ≠ some .recorded)
    (hh : ¬ ToldRecorded h) :
    ¬ ToldRecorded ((⟨.actionLog userId id field shop phase round, reply⟩ : Call Cmd Resp) :: h) := by
  rintro ⟨userId', id', field', shop', phase', round', hmem⟩
  rcases List.mem_cons.1 hmem with heq | hmem
  · cases heq
    exact hreply rfl
  · exact hh ⟨userId', id', field', shop', phase', round', hmem⟩

/-- What the script's caller makes of its reply. -/
theorem commitRuntimeAction_obeys {runtime : MatchRuntimeState} {userId id : String} {field : FieldWrite}
    (hq : q.sent = some (userId, id, runtime.round)) (hh : ¬ ToldRecorded h) :
    (commitRuntimeAction runtime userId field id .shop_place).Obeys (CommitGuard q) (fun o h' =>
      (o = .ok true → ToldRecorded h') ∧ (o ≠ .ok true → ¬ ToldRecorded h')) h := by
  refine Prog.Obeys.perform_bind ⟨hq, rfl⟩ (fun reply => ?_) ⟨by simp, fun _ => unrecorded_reply (by simp) hh⟩
  cases reply with
  | recorded => exact ⟨fun _ => recorded_cons, fun hne => absurd rfl hne⟩
  | duplicate => exact ⟨fun heq => (by simp at heq), fun _ => unrecorded_reply (by simp) hh⟩
  | phaseMismatch => exact ⟨fun heq => (by simp at heq), fun _ => unrecorded_reply (by simp) hh⟩
  | roundMismatch => exact ⟨fun heq => (by simp at heq), fun _ => unrecorded_reply (by simp) hh⟩

theorem commit_of_reads (h : History) {c : Cmd} (hc : Reads c) : CommitGuard q h c := by
  refine Peripheral.guard ?_
  cases c with
  | hset fields => exact hc
  | hgetall => trivial
  | usernamesForPlayers player1Id player2Id => trivial
  | _ => cases hc

theorem requireActionPhase_commits {round : Nat} {phase : MatchPhase} (hh : ¬ ToldRecorded h) :
    (requireActionPhase matchId round phase).Obeys (CommitGuard q) (fun o h' =>
      (∀ runtime, o = .ok runtime → runtime.round = round) ∧ ¬ ToldRecorded h') h :=
  ((requireActionPhase_fresh fun h' _ => commit_of_reads h').mono fun _ _ _ hread runtime heq =>
    (hread runtime heq).2.1).and (idle_obeys requireActionPhase_idle hh)

theorem sideFor_idle (runtime : MatchRuntimeState) (userId : String) :
    (sideFor runtime userId).Issues Peripheral := (sideFor_silent runtime userId).mono fun _ => False.elim

theorem placeLocked_obeys {userId instanceId id : String} {round slot : Nat} {target : Place}
    (hq : q.sent = some (userId, id, round)) (hh : ¬ ToldRecorded h) :
    (placeLocked matchId userId round instanceId target slot id).Obeys (CommitGuard q) Ends h := by
  refine commits_idle (Prog.Issues.perform (by trivial) _) hh fun logged h₁ hh₁ => ?_
  split
  · exact ends_ok
  refine Prog.Obeys.bind ((requireActionPhase_commits hh₁).mono fun o h₂ _ hread => ?_)
  obtain ⟨hround, hh₂⟩ := hread
  rcases o with e | runtime
  · exact fun _ _ hrec => absurd hrec hh₂
  obtain rfl := hround runtime rfl
  refine commits_idle (sideFor_idle _ _) hh₂ fun side h₃ hh₃ => ?_
  refine commits_idle (p := orReject _) (by cases placeUnit (sideState runtime side) instanceId target slot <;> trivial)
    hh₃ fun state h₄ hh₄ => ?_
  refine Prog.Obeys.bind ((commitRuntimeAction_obeys hq hh₄).mono fun o h₅ _ hstored => ?_)
  rcases o with e | _ | _
  · exact fun _ _ hrec => absurd hrec (hstored.2 (by simp))
  · exact ends_ok
  · exact (mirror_obeys (hstored.1 rfl)).mono fun o h₆ _ hlate err heq _ => hlate.2 err heq

theorem place_obeys {userId instanceId id : String} {round slot : Nat} {target : Place}
    (hq : q.sent = some (userId, id, round)) (hh : ¬ ToldRecorded h) :
    (place matchId userId round instanceId target slot id).Obeys (CommitGuard q) Ends h := by
  refine commits_idle (Prog.Issues.perform (by trivial) _) hh fun owner h₁ hh₁ => ?_
  refine commits_idle (acquireLock_idle _ _ _ _) hh₁ fun _ h₂ hh₂ => ?_
  exact ensuring_commits (placeLocked_obeys hq hh₂)

/-- The context of a shop action is the user's, of the round asked for. -/
theorem actionContext_obeys {userId : String} {round : Nat} (hh : ¬ ToldRecorded h) :
    (actionContext matchId userId round).Obeys (CommitGuard q) (fun o h' => ¬ ToldRecorded h' ∧
      ∀ context, o = .ok context → context.runtime.round = round ∧
        playerId context.runtime context.side = userId) h := by
  have hfail : ∀ {h' : History} (err : Err), ¬ ToldRecorded h' → ¬ ToldRecorded h' ∧
      ∀ context, (Except.error err : Except Err ActionContext) = .ok context →
        context.runtime.round = round ∧ playerId context.runtime context.side = userId :=
    fun err hh' => ⟨hh', fun _ heq => by cases heq⟩
  refine Prog.Obeys.perform_bind (Peripheral.guard trivial) (fun hash => ?_) (hfail _ (unrecorded_cons rfl hh))
  have hh₁ : ¬ ToldRecorded ((⟨.hgetall, some hash⟩ : Call Cmd Resp) :: h) := unrecorded_cons rfl hh
  split
  · exact hfail _ hh₁
  next runtime hparse =>
  split
  · exact hfail _ hh₁
  next hround =>
  split
  · exact hfail _ hh₁
  refine Prog.Obeys.bind (Prog.Obeys.mono (Q := fun o h' => ¬ ToldRecorded h' ∧
    ∀ side, o = .ok side → playerId runtime side = userId) ?_ fun o h₂ _ hside => ?_)
  · unfold shopSide
    split
    · next hp => exact ⟨hh₁, fun side heq => by cases heq; exact hp⟩
    · split
      · next hp => exact ⟨hh₁, fun side heq => by cases heq; exact hp⟩
      · exact ⟨hh₁, fun side heq => by cases heq⟩
  obtain ⟨hh₂, hside⟩ := hside
  rcases o with e | side
  · exact hfail _ hh₂
  refine Prog.Obeys.perform_bind (Peripheral.guard trivial) (fun found => ?_) (hfail _ (unrecorded_cons rfl hh₂))
  have hh₃ : ¬ ToldRecorded ((⟨.getShop userId, some found⟩ : Call Cmd Resp) :: h₂) := unrecorded_cons rfl hh₂
  split
  · exact hfail _ hh₃
  split
  · exact hfail _ hh₃
  · refine ⟨hh₃, fun context heq => ?_⟩
    cases heq
    exact ⟨not_not.1 hround, hside side rfl⟩

theorem persistAction_obeys {context : ActionContext} {after : Holdings} {id : String}
    (hq : q.sent = some (playerId context.runtime context.side, id, context.runtime.round)) (hh : ¬ ToldRecorded h) :
    (persistAction context after id).Obeys (CommitGuard q) (fun o h' =>
      Ends o h' ∧ (o = .ok true → ToldRecorded h')) h := by
  refine Prog.Obeys.perform_bind ⟨hq, rfl⟩ (fun reply => ?_) ⟨?_, by simp⟩
  · have hnone : reply ≠ .recorded → ¬ ToldRecorded ((⟨.actionLog (playerId context.runtime context.side) id
        (stateField context.side after.state) (some (after.shop, SHOP_TTL_SECONDS)) .shop_place
        context.runtime.round, some reply⟩ : Call Cmd Resp) :: h) :=
      fun hne => unrecorded_reply (fun heq => hne (Option.some.inj heq)) hh
    cases reply with
    | recorded =>
      refine (mirror_obeys recorded_cons).mono fun o h' hsuf hlate => ⟨fun err heq _ => hlate.2 err heq, fun _ => ?_⟩
      exact recorded_cons.later hsuf
    | duplicate => exact ⟨ends_ok, fun heq => by simp at heq⟩
    | phaseMismatch => exact ⟨fun _ _ hrec => absurd hrec (hnone (by simp)), fun heq => by simp at heq⟩
    | roundMismatch => exact ⟨fun _ _ hrec => absurd hrec (hnone (by simp)), fun heq => by simp at heq⟩
  · exact fun _ _ hrec => absurd hrec (unrecorded_reply (by simp) hh)

theorem performAction_obeys {userId id : String} {round : Nat} {action : ShopAction}
    (hq : q.sent = some (userId, id, round)) (hh : ¬ ToldRecorded h) :
    (performAction matchId host userId round id action).Obeys (CommitGuard q) Ends h := by
  refine commits_idle (Prog.Issues.perform (by trivial) _) hh fun logged h₁ hh₁ => ?_
  split
  · exact ends_ok
  refine Prog.Obeys.bind ((actionContext_obeys hh₁).mono fun o h₂ _ hcontext => ?_)
  obtain ⟨hh₂, hcontext⟩ := hcontext
  rcases o with e | context
  · exact fun _ _ hrec => absurd hrec hh₂
  obtain ⟨rfl, rfl⟩ := hcontext context rfl
  refine commits_idle mutate_idle hh₂ fun after h₃ hh₃ => ?_
  refine Prog.Obeys.bind ((persistAction_obeys hq hh₃).mono fun o h₄ _ hstored => ?_)
  rcases o with e | stored
  · exact hstored.1
  dsimp only
  split
  · exact ends_ok
  next hrec =>
  obtain rfl : stored = true := by simpa using hrec
  split
  · refine Prog.Obeys.perform_bind (ToldRecorded.guard rfl (hstored.2 rfl)) (fun _ => ends_ok) (ends_fault rfl)
  · exact ends_ok

theorem withAction_obeys {userId id : String} {round : Nat} {action : ShopAction}
    (hq : q.sent = some (userId, id, round)) (hh : ¬ ToldRecorded h) :
    (withAction matchId host userId round id action).Obeys (CommitGuard q) Ends h := by
  refine commits_idle (Prog.Issues.perform (by trivial) _) hh fun logged h₁ hh₁ => ?_
  split
  · exact ends_ok
  refine commits_idle (Prog.Issues.perform (by trivial) _) hh₁ fun owner h₂ hh₂ => ?_
  refine commits_idle (acquireLock_idle _ _ _ _) hh₂ fun _ h₃ hh₃ => ?_
  exact ensuring_commits (performAction_obeys hq hh₃)

/-- **A roster action changes nothing before its record**, and after it fails
only where a later call does. -/
theorem roster_obeys {q : Request} (hedits : q.edits = true) :
    (program matchId host q).Obeys (CommitGuard q) Ends [] := by
  have hh : ¬ ToldRecorded [] := by simp [ToldRecorded]
  have hdrop : ∀ {p : M Bool} {h' : History}, p.Obeys (CommitGuard q) Ends h' →
      (p.bind fun _ => (pure () : M Unit)).Obeys (CommitGuard q) Ends h' := fun hp => by
    refine Prog.Obeys.bind (hp.mono fun o h' _ hends => ?_)
    cases o with
    | ok a => exact ends_ok
    | error e => exact fun err heq => hends err (by cases heq; rfl)
  unfold Request.edits at hedits
  split at hedits
  · exact commits_idle (resolveMatch_idle _) hh fun _ h' hh' => hdrop (withAction_obeys rfl hh')
  · exact commits_idle (resolveMatch_idle _) hh fun _ h' hh' => hdrop (place_obeys rfl hh')
  · cases hedits

/-! ## Readiness -/

/-- Once its action is recorded a request may do anything but record. -/
theorem recorded_obeys {p : M α} (hp : p.Issues fun c => c.isCommit = false) (hrec : ToldRecorded h) :
    p.Obeys (CommitGuard q) (fun _ _ => True) h := by
  induction p generalizing h with
  | pure a => trivial
  | throw e => trivial
  | call c k ih => exact ⟨hrec.guard hp.1, fun r => ih r (hp.2 r) (hrec.later (List.suffix_cons ..))⟩

theorem fightRound_uncommitted (round : Nat) :
    (fightRound matchId host round).Issues fun c => c.isCommit = false := by
  refine Prog.Issues.perform_bind rfl fun hash => ?_
  split
  · trivial
  split
  · trivial
  refine Prog.Issues.perform_bind rfl fun _ => ?_
  split
  · trivial
  refine Prog.Issues.perform_bind rfl fun events => Prog.Issues.perform_bind rfl fun hash' => ?_
  split
  · trivial
  split
  · trivial
  refine Prog.Issues.perform_bind rfl fun _ => Prog.Issues.perform_bind rfl fun _ =>
    Prog.Issues.perform_bind rfl fun _ => ?_
  exact Prog.Issues.perform_bind rfl fun _ => Prog.Issues.perform_bind rfl fun _ => trivial

theorem tryStartCombat_uncommitted (round : Nat) :
    (tryStartCombat matchId host round).Issues fun c => c.isCommit = false := by
  refine (findRuntime_idle.mono fun _ => Peripheral.no_commit).bind fun found => ?_
  rcases found with _ | runtime
  · trivial
  dsimp only
  split
  · trivial
  refine Prog.Issues.perform_bind rfl fun flipped => ?_
  split
  · trivial
  refine Prog.Issues.perform_bind rfl fun _ => (publishState_uncommitted _ _ _).bind fun _ => ?_
  refine Prog.Issues.bind ?_ fun ran => ?_
  · refine Prog.Issues.perform_bind rfl fun owner => Prog.Issues.perform_bind rfl fun acquired => ?_
    split
    · refine (fightRound_uncommitted round).attempt.bind fun outcome => Prog.Issues.perform_bind rfl fun _ => ?_
      cases outcome <;> trivial
    · trivial
  · split
    · refine Prog.Issues.bind (Prog.Issues.perform_bind rfl fun found => ?_) fun _ => trivial
      split
      · trivial
      · split
        · trivial
        · exact Prog.Issues.perform (by rfl) _
    · trivial

theorem markReadyAction_obeys {userId id : String} {round : Nat} {ready : Bool}
    (hq : q.sent = some (userId, id, round)) (hh : ¬ ToldRecorded h) :
    (markReadyAction matchId host userId round ready id).Obeys (CommitGuard q) (fun _ _ => True) h := by
  refine Prog.Obeys.bind ((requireActionPhase_commits hh).mono fun o h₁ _ hphase => ?_)
  obtain ⟨hround, hh₁⟩ := hphase
  rcases o with e | runtime
  · trivial
  obtain rfl := hround runtime rfl
  refine Prog.Obeys.bind ((idle_obeys (sideFor_idle _ _) hh₁).mono fun o h₂ _ hh₂ => ?_)
  rcases o with e | side
  · trivial
  refine Prog.Obeys.bind ((commitRuntimeAction_obeys hq hh₂).mono fun o h₃ _ hstored => ?_)
  have hidle : (getRuntime matchId).Issues Peripheral := findRuntime_idle.bind fun found => by cases found <;> trivial
  rcases o with e | _ | _
  · trivial
  · refine Prog.Obeys.bind ((idle_obeys hidle (hstored.2 (by simp))).mono fun o h₄ _ hh₄ => ?_)
    rcases o with e | updated <;> trivial
  · refine recorded_obeys ((hidle.mono fun _ => Peripheral.no_commit).bind fun updated => ?_) (hstored.1 rfl)
    refine (publishState_uncommitted _ _ _).bind fun _ => ?_
    split
    · exact (tryStartCombat_uncommitted _).bind fun _ => trivial
    · trivial

/-- Only actions with an id are recorded. -/
theorem Guard.commits {c : Cmd} (hg : Guard matchId q h c) (hq : q.sent = none) : CommitGuard q h c := by
  cases c with
  | actionLog userId id field shop phase round =>
    cases (show LogGuard q field phase from hg) with
    | state hedits =>
      unfold Request.edits at hedits
      split at hedits
      · cases hq
      · cases hq
      · cases hedits
    | ready hready => rw [hready] at hq; cases hq
  | _ => exact .inl hq

/-- **Every request changes the match by its record and after it**, if it is
one that is recorded. -/
theorem program_commits (q : Request) :
    (program matchId host q).Obeys (CommitGuard q) (fun _ _ => True) [] := by
  have hh : ¬ ToldRecorded [] := by simp [ToldRecorded]
  cases hsent : q.sent with
  | none => exact (program_guarded q).weaken fun _ _ hg => hg.commits hsent
  | some sent =>
    by_cases hedits : q.edits = true
    · exact (roster_obeys hedits).mono fun _ _ _ _ => trivial
    · unfold Request.sent at hsent
      split at hsent
      · exact absurd rfl hedits
      · exact absurd rfl hedits
      · next userId round ready id =>
        refine Prog.Obeys.bind ((idle_obeys (resolveMatch_idle _) hh).mono fun o h' _ hh' => ?_)
        rcases o with e | _
        · trivial
        · exact Prog.Obeys.andThen (markReadyAction_obeys rfl hh') (fun _ _ => trivial) fun _ _ => trivial
      · cases hsent

end

end AutoChess.Runtime
