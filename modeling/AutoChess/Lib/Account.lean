/-
Accounts of a pool's runs. A quantity that only calls change is at any time
what it was at the start and what the calls of the log added; a state that
is left once, and for good, is left by one call of the log at most.
-/
import AutoChess.Lib.Pool
import Mathlib.Algebra.BigOperators.Group.List.Basic

namespace Calls

variable {σ Req Env C : Type} {R : C → Type} {ε : Type} {pool : Pool σ Req Env C R ε}
  {S : Req → List (Call C R) → C → Prop} {init s : σ} {log : List (Event σ Req C R)}

/-- An invariant of every step. -/
theorem Chronicle.invariant {I : σ → Prop} (h : Chronicle pool S init log s) (start : I init)
    (henv : ∀ t s, I s → I (pool.env t s)) (hstep : ∀ e : Event σ Req C R, pool.Does e → I e.before → I e.after) :
    I s := by
  induction h with
  | start => exact start
  | time t _ ih => exact henv t _ ih
  | call _ _ hdoes ih => exact hstep _ hdoes ih

/-- The quantity is what it was and what the calls added. -/
theorem Chronicle.account {M : Type} [AddCommMonoid M] (amount : σ → M) {gain : Event σ Req C R → M}
    (h : Chronicle pool S init log s) (henv : ∀ t s, amount (pool.env t s) = amount s)
    (hstep : ∀ older e, Chronicle pool S init older e.before → pool.Does e →
      amount e.after = amount e.before + gain e) :
    amount s = amount init + (log.map gain).sum := by
  induction h with
  | start => simp
  | time t _ ih => rw [henv, ih]
  | @call log e hc _ hdoes ih =>
    rw [hstep log e hc hdoes, ih, List.map_cons, List.sum_cons, add_assoc, add_comm (gain e)]

/-- What was true at an event and is never undone is true at the end. -/
theorem Chronicle.lasting (closed : σ → Prop) (h : Chronicle pool S init log s)
    (henv : ∀ t s, closed s → closed (pool.env t s))
    (hstep : ∀ e : Event σ Req C R, pool.Does e → closed e.before → closed e.after) {e : Event σ Req C R}
    (hmem : e ∈ log) (hclosed : closed e.after) : closed s := by
  induction h with
  | start => simp at hmem
  | time t _ ih => exact henv t _ (ih hmem)
  | @call log e' _ _ hdoes ih =>
    rcases List.mem_cons.1 hmem with rfl | hmem
    · exact hclosed
    · exact hstep _ hdoes (ih hmem)

/-- A reply among a program's own calls is what the services answered. -/
theorem Chronicle.answered (h : Chronicle pool S init log s) {pid : Nat} {c : C} {r : R c}
    (hmem : ⟨c, some r⟩ ∈ own pid log) : ∃ newer e older, log = newer ++ e :: older ∧ e.pid = pid ∧
      e.toCall = ⟨c, some r⟩ ∧ r = (pool.act c e.before).1 ∧ e.after = (pool.act c e.before).2 := by
  obtain ⟨e, he, hpid, hcall⟩ := mem_own.1 hmem
  obtain ⟨newer, older, rfl⟩ := List.append_of_mem he
  obtain ⟨hreply, hafter⟩ := h.of_split.2.2.of_call hcall
  exact ⟨newer, e, older, rfl, hpid, hcall, hreply, hafter⟩

/-- A door that stays closed is closed by one call. -/
theorem Chronicle.once (closed : σ → Prop) (h : Chronicle pool S init log s)
    (henv : ∀ t s, closed s → closed (pool.env t s))
    (hstep : ∀ e : Event σ Req C R, pool.Does e → closed e.before → closed e.after) :
    log.Pairwise fun newer older => ¬ (closed older.after ∧ ¬ closed newer.before) := by
  induction h with
  | start => exact .nil
  | time t _ ih => exact ih
  | @call log e hc _ _ ih =>
    refine .cons (fun older hmem => ?_) ih
    intro hboth
    exact hboth.2 (hc.lasting closed henv hstep hmem hboth.1)

/-- What is true at the end and was not at the start, a call brought about. -/
theorem Chronicle.cause {closed : σ → Prop} (h : Chronicle pool S init log s)
    (henv : ∀ t s, closed (pool.env t s) → closed s) (hopen : ¬ closed init) (hclosed : closed s) :
    ∃ e ∈ log, ¬ closed e.before ∧ closed e.after := by
  induction h with
  | start => exact absurd hclosed hopen
  | time t _ ih => exact ih (henv t _ hclosed)
  | @call log e _ _ _ ih =>
    by_cases hbefore : closed e.before
    · obtain ⟨e', hmem, he'⟩ := ih hbefore
      exact ⟨e', List.mem_cons_of_mem _ hmem, he'⟩
    · exact ⟨e, List.mem_cons_self .., hbefore, hclosed⟩

/-- What calls and the environment keep, a run from any world keeps. -/
theorem Pool.run_keeps {I : σ → Prop} (henv : ∀ t s, I s → I (pool.env t s))
    (hstep : ∀ e : Event σ Req C R, pool.Does e → I e.before → I e.after) (moves : List (Move Req Env))
    {w : World σ Req C R ε} (hw : I w.store) : I (pool.run w moves).store := by
  induction moves generalizing w with
  | nil => exact hw
  | cons m moves ih =>
    rw [Pool.run, List.foldl_cons]
    refine ih ?_
    cases hm : pool.step w m with
    | none => exact hw
    | some w' =>
      cases m with
      | start q =>
        cases hm
        exact hw
      | env t =>
        cases hm
        exact henv t _ hw
      | run pid outcome =>
        simp only [Pool.step] at hm
        split at hm
        · next q c k hi =>
          cases hm
          exact hstep (pool.event pid q c w.store outcome) ⟨outcome, rfl⟩ hw
        · cases hm

end Calls
