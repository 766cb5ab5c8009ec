/-
The order of the phase events. A request announces a phase some calls after
it won the transition, or read the runtime, and another request can move the
match on and announce that first (`overtaken`). In runs where no request is
overtaken so, the events never go back, and the grace period is only
announced for the resolved phase that was acknowledged (`phases_in_order`).
-/
import AutoChess.Runtime.Battles
import AutoChess.Runtime.Ready
import AutoChess.Runtime.Tells

namespace AutoChess.Runtime

open AutoChess.Game AutoChess.Shop Calls Expiring

/-! ## The property -/

/-- The phase event a call published. -/
def announces (e : RuntimeEvent) : Option PhasePayload :=
  match e.cmd with
  | .publish ⟨_, .phase payload⟩ =>
    if e.after.published.length = e.before.published.length + 1 then some payload else none
  | _ => none

/-- A phase event's place in the match: by round, then by phase. -/
def PhasePayload.stage (payload : PhasePayload) : WithTop Nat :=
  Runtime.stage { phase := some payload.phase, round := some payload.round }

/-- The log of a match whose phase events come in order. -/
structure PhasesInOrder (log : List RuntimeEvent) : Prop where
  /-- Newest first, none goes back. -/
  order : (log.filterMap announces).Pairwise fun newer older => older.stage ≤ newer.stage
  grace : ∀ e ∈ log, ∀ payload ∈ announces e, payload.timer = ROUND_READY_GRACE_SECONDS →
    ∃ userId round, e.request = .action userId round .roundReady ∧ payload.phase = .resolved ∧
      payload.round = round

/-! ## The condition -/

/-- The request has stored a flag. -/
def flagged (h : History) : Bool := h.any fun c => c.cmd.setsReady

/-- The round a summary ack is for. -/
def Request.acknowledges : Request → Option Nat
  | .action _ round .roundReady => some round
  | _ => none

def Cmd.readsRuntime : Cmd → Bool
  | .hgetall => true
  | _ => false

/-- The condition: when a request announces a phase, no call has taken the
match past it, short of the match's end; and when a summary ack reads the
runtime again, with its flag stored, it finds the phase it acknowledges, or
both flags. -/
structure Undisturbed (log : List RuntimeEvent) (e : RuntimeEvent) : Prop where
  current : ∀ payload ∈ announces e, ∀ e' ∈ log,
    stage e'.after.hash ≤ payload.stage ∨ stage e'.after.hash = ⊤
  reread : e.cmd.readsRuntime = true → flagged (own e.pid log) = true →
    ¬ (e.before.hash.readyP1 = true ∧ e.before.hash.readyP2 = true) →
    ∀ round ∈ e.request.acknowledges,
      e.before.hash.phase = some .resolved ∧ e.before.hash.round = some round

instance (log : List RuntimeEvent) (e : RuntimeEvent) : Decidable (Undisturbed log e) :=
  decidable_of_iff (_ ∧ _) ⟨fun ⟨h₁, h₂⟩ => ⟨h₁, h₂⟩, fun h => ⟨h.1, h.2⟩⟩

section
variable {matchId : String} {host : Host} {init : Store} {log newer older : List RuntimeEvent}
  {e : RuntimeEvent} {s : Store} {payload : PhasePayload}

theorem announces_told (h : announces e = some payload) {hist : History} {q : Request}
    (ht : Tells matchId q hist e.cmd) : PhaseTold matchId q hist payload := by
  unfold announces at h
  split at h
  · next target payload' hcmd =>
    split at h
    · cases h
      rw [hcmd] at ht
      exact ht
    · cases h
  · cases h

theorem enters_shop_stage {round : Nat} (he : Enters .resolved .shop_place round e)
    (hs : PhaseStep e.before.hash e.after.hash) : stage e.after.hash = .some (3 * (round + 1)) := by
  cases hs with
  | same hp _ => rw [he.2.2, he.1] at hp; cases hp
  | start hw _ => rw [he.1] at hw; cases hw.1
  | resolve hw _ => rw [he.1] at hw; cases hw.1
  | advance hw hn =>
    have hr := Option.some.inj (hw.2.symm.trans he.2.1)
    exact stage_shop (hr ▸ hn)
  | finish hp _ => rw [he.2.2] at hp; cases hp

/-- **A phase that is announced was reached**, and a grace period is that of
the phase acknowledged. -/
theorem Run.announced (h : Run matchId host init (newer ++ e :: older) s)
    (hinit : stage init.hash = .some (3 * 1)) (hok : Meets Undisturbed (e :: older))
    (hsame : ∀ e' ∈ older, e'.pid = e.pid → e'.request = e.request)
    (ht : Tells matchId e.request (own e.pid older) e.cmd) (ha : announces e = some payload) :
    payload.stage ≠ ⊤ ∧
      (payload.stage = stage init.hash ∨ ∃ e' ∈ older, stage e'.after.hash = payload.stage) ∧
      (payload.timer = ROUND_READY_GRACE_SECONDS → ∃ userId round,
        e.request = .action userId round .roundReady ∧ payload.phase = .resolved ∧ payload.round = round) := by
  have hrun : Run matchId host init older e.before := h.of_split.1
  have hreached : ∀ {r : Nat} {phase : MatchPhase} {n : Nat}, payload.phase = phase → payload.round = r →
      stage { phase := some phase, round := some r : RuntimeHash } = .some n →
      payload.stage = .some n := fun hp hr hn => by rw [PhasePayload.stage, hp, hr, hn]
  cases announces_told ha ht with
  | announced hq hphase hround htimer =>
    have hstage := hreached hphase hround (stage_shop ⟨rfl, rfl⟩)
    refine ⟨by rw [hstage]; exact WithTop.coe_ne_top, .inl (hstage.trans hinit.symm), fun hgrace => ?_⟩
    rw [htimer] at hgrace
    cases hgrace
  | started hwon hphase htimer =>
    have hstage := hreached hphase rfl (stage_battle ⟨rfl, rfl⟩)
    obtain ⟨w, hmem, -, hen⟩ := won_enters hrun hwon
    obtain ⟨l₁, l₂, rfl⟩ := List.append_of_mem hmem
    refine ⟨by rw [hstage]; exact WithTop.coe_ne_top,
      .inr ⟨w, hmem, (enters_battle_stage hen hrun.phaseStep).2.trans hstage.symm⟩, fun hgrace => ?_⟩
    rw [htimer] at hgrace
    cases hgrace
  | resolved hwon hphase htimer =>
    have hstage := hreached hphase rfl (stage_resolved ⟨rfl, rfl⟩)
    obtain ⟨w, hmem, -, hen⟩ := won_enters hrun hwon
    obtain ⟨l₁, l₂, rfl⟩ := List.append_of_mem hmem
    refine ⟨by rw [hstage]; exact WithTop.coe_ne_top,
      .inr ⟨w, hmem, (enters_resolved_stage hen hrun.phaseStep).2.trans hstage.symm⟩, fun hgrace => ?_⟩
    rw [htimer] at hgrace
    cases hgrace
  | @advanced round hwon hphase hround htimer =>
    have hstage := hreached hphase hround (stage_shop ⟨rfl, rfl⟩)
    obtain ⟨w, hmem, -, hen⟩ := won_enters hrun hwon
    obtain ⟨l₁, l₂, rfl⟩ := List.append_of_mem hmem
    refine ⟨by rw [hstage]; exact WithTop.coe_ne_top,
      .inr ⟨w, hmem, (enters_shop_stage hen hrun.phaseStep).trans hstage.symm⟩, fun hgrace => ?_⟩
    rw [htimer] at hgrace
    cases hgrace
  | @grace userId round side hash runtime newer' older' hq hh hnewer hflag hread hcount hphase hround htimer =>
    -- The read whose runtime is announced came after the flag was stored.
    obtain ⟨l₁, read, l₂, rfl, hpid, hcall, hown, -⟩ := own_split hh
    have hmem : read ∈ l₁ ++ read :: l₂ := List.mem_append_right _ (List.mem_cons_self ..)
    have hreq := hsame read hmem hpid
    have hdo := hrun.of_split.2.2
    have hundisturbed : Undisturbed l₂ read := (Meets.of_append hok.2).1
    obtain ⟨⟨cmd, reply⟩, pid, request, before, after⟩ := read
    cases hcall
    obtain ⟨hreply, hafter⟩ := hdo.of_reply rfl
    obtain rfl : hash = before.hash := hreply
    obtain rfl : after = before := hafter
    have hflagged : flagged (own pid l₂) = true := by
      obtain ⟨c, hc, hcmd⟩ := hflag
      have hlater : own pid l₂ = older' := by rw [← hown, ← hpid]
      refine List.any_eq_true.2 ⟨c, hlater ▸ hc, ?_⟩
      rw [hcmd]
      cases side <;> rfl
    have hflags : ¬ (after.hash.readyP1 = true ∧ after.hash.readyP2 = true) := by
      rw [hread.flags.1, hread.flags.2]
      rintro ⟨h1, h2⟩
      simp [readyCount, h1, h2] at hcount
    obtain ⟨hwas, hat⟩ := hundisturbed.reread rfl hflagged hflags round
      (congrArg Request.acknowledges (hreq.trans hq))
    obtain ⟨hp, hr, -⟩ := hread.fields
    have hphase' : payload.phase = .resolved := hphase.trans (Option.some.inj (hp.symm.trans hwas))
    have hround' : payload.round = round := hround.trans (Option.some.inj (hr.symm.trans hat))
    have hstage := hreached hphase' hround' (stage_resolved ⟨rfl, rfl⟩)
    exact ⟨by rw [hstage]; exact WithTop.coe_ne_top,
      .inr ⟨_, hmem, (stage_resolved ⟨hwas, hat⟩).trans hstage.symm⟩,
      fun _ => ⟨userId, round, hq, hphase', hround'⟩⟩

/-- Events come in the order of the phases reached. -/
theorem Run.in_order (h : Run matchId host init log s) (hinit : stage init.hash = .some (3 * 1))
    (ht : Chronicle (pool matchId host) (Tells matchId) init log s) (hok : Meets Undisturbed log)
    (hsame : ∀ e ∈ log, ∀ e' ∈ log, e'.pid = e.pid → e'.request = e.request) : PhasesInOrder log := by
  induction log generalizing s with
  | nil => exact ⟨.nil, by simp⟩
  | cons e log ih =>
    have h : Run matchId host init ([] ++ e :: log) s := h
    have ht : Chronicle (pool matchId host) (Tells matchId) init ([] ++ e :: log) s := ht
    have hrest := ih h.of_split.1 ht.of_split.1 hok.2 fun e₁ h₁ e₂ h₂ =>
      hsame e₁ (List.mem_cons_of_mem _ h₁) e₂ (List.mem_cons_of_mem _ h₂)
    cases ha : announces e with
    | none =>
      refine ⟨by rw [List.filterMap_cons_none ha]; exact hrest.order, fun e' he' payload hp => ?_⟩
      rcases List.mem_cons.1 he' with rfl | he'
      · rw [ha] at hp
        cases hp
      · exact hrest.grace e' he' payload hp
    | some payload =>
      have hsame' : ∀ e' ∈ log, e'.pid = e.pid → e'.request = e.request := fun e' he' =>
        hsame e (List.mem_cons_self ..) e' (List.mem_cons_of_mem _ he')
      obtain ⟨hlive, hreached, hgrace⟩ := h.announced hinit hok hsame' ht.of_split.2.1 ha
      refine ⟨?_, fun e' he' payload' hp => ?_⟩
      · rw [List.filterMap_cons_some ha]
        refine List.pairwise_cons.2 ⟨fun payload' hp => ?_, hrest.order⟩
        obtain ⟨e', he', ha'⟩ := List.mem_filterMap.1 hp
        obtain ⟨l₁, l₂, rfl⟩ := List.append_of_mem he'
        have hsame'' : ∀ e'' ∈ l₂, e''.pid = e'.pid → e''.request = e'.request := fun e'' he'' =>
          hsame e' (List.mem_cons_of_mem _ he') e''
            (List.mem_cons_of_mem _ (List.mem_append_right _ (List.mem_cons_of_mem _ he'')))
        have hrun' : Run matchId host init (l₁ ++ e' :: l₂) e.before := h.of_split.1
        have htold' : Chronicle (pool matchId host) (Tells matchId) init (l₁ ++ e' :: l₂) e.before := ht.of_split.1
        obtain ⟨hlive', hreached', -⟩ :=
          hrun'.announced hinit (Meets.of_append hok.2) hsame'' htold'.of_split.2.1 ha'
        rcases hreached' with hfirst | ⟨e'', he'', hstage⟩
        -- The phase announced before is the first.
        · rw [hfirst]
          rcases hreached with heq | ⟨w, hw, hstage⟩
          · exact heq.ge
          · obtain ⟨m₁, m₂, hsplit⟩ := List.append_of_mem hw
            rw [hsplit] at hrun'
            rw [← hstage]
            exact (Run.stage_first hrun'.of_split.1).trans hrun'.phaseStep.stage_le
        -- Some call reached it, and no call has gone past the one announced now.
        · have hmem : e'' ∈ l₁ ++ e' :: l₂ := List.mem_append_right _ (List.mem_cons_of_mem _ he'')
          rw [← hstage]
          exact (hok.1.current payload ha e'' hmem).resolve_right fun hover => hlive' (hstage.symm.trans hover)
      · rcases List.mem_cons.1 he' with rfl | he'
        · rw [ha] at hp
          cases hp
          exact hgrace
        · exact hrest.grace e' he' payload' hp

end

/-- **When no request is overtaken, phases are announced in order.** -/
theorem phases_in_order (matchId : String) (host : Host) (m : Match) (names : PlayerNames)
    (users : String → Option User) (moves : List (Move Request Nat))
    (hok : Meets Undisturbed ((pool matchId host).run ⟨freshStore m names users, [], []⟩ moves).log) :
    PhasesInOrder ((pool matchId host).run ⟨freshStore m names users, [], []⟩ moves).log := by
  have hstage : stage (freshStore m names users).hash = .some (3 * 1) := stage_shop ⟨rfl, rfl⟩
  refine Run.in_order (Pool.run_chronicle program_guarded moves) hstage
    (Pool.run_chronicle program_tells moves) hok fun e he e' he' hpid => ?_
  exact Pool.same_request _ _ moves he he' hpid

/-! ## Three runs -/

/-- Round 1 is resolved. -/
def resolvedOnce : List (Move Request Nat) :=
  .start (.phaseTimer 1) :: answers 0 25 ++
  .start (.action "u1" 1 .combatDone) :: answers 1 25 ++
  .start (.action "u2" 1 .combatDone) :: answers 2 25

/-- Both players acknowledge the summary, one after the other. -/
def acknowledged : List (Move Request Nat) :=
  resolvedOnce ++
  .start (.action "u1" 1 .roundReady) :: answers 3 25 ++
  .start (.action "u2" 1 .roundReady) :: answers 4 25

set_option maxRecDepth 100000 in
theorem phases_in_order_acknowledged : PhasesInOrder (play acknowledged).log :=
  phases_in_order "m" plainHost friendly ⟨"one", "two"⟩ (fun _ => none) acknowledged (by decide)

/-- The second player's ack starts round 2 while the first's has counted one
flag and not yet announced the grace period. -/
def overtaken : List (Move Request Nat) :=
  resolvedOnce ++
  .start (.action "u1" 1 .roundReady) :: answers 3 3 ++
  .start (.action "u2" 1 .roundReady) :: answers 4 25 ++ answers 3 5

/-- The grace period ends while the first player's ack has stored its flag and
not yet read the runtime again. -/
def shortened : List (Move Request Nat) :=
  resolvedOnce ++
  .start (.action "u2" 1 .roundReady) :: answers 3 25 ++
  .start (.action "u1" 1 .roundReady) :: answers 4 2 ++
  .start (.roundReadyTimeout 1) :: answers 5 25 ++ answers 4 5

set_option maxRecDepth 100000 in
/-- The resolved phase is announced after the planning phase that follows it,
and a planning phase is announced with the grace period's timer. -/
theorem phases_overtaken :
    ¬ PhasesInOrder (play overtaken).log ∧ ¬ PhasesInOrder (play shortened).log := by
  refine ⟨fun h => absurd h.order (by decide), fun h => ?_⟩
  have hshort : ((play shortened).log.filterMap announces).any (fun payload =>
    payload.timer = ROUND_READY_GRACE_SECONDS && payload.phase != .resolved) = true := by decide
  obtain ⟨payload, hmem, hpayload⟩ := List.any_eq_true.1 hshort
  obtain ⟨e, he, ha⟩ := List.mem_filterMap.1 hmem
  simp only [Bool.and_eq_true, decide_eq_true_eq, bne_iff_ne, ne_eq] at hpayload
  obtain ⟨userId, round, -, hphase, -⟩ := h.grace e he payload ha hpayload.1
  exact hpayload.2 hphase

end AutoChess.Runtime
