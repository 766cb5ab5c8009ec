/-
A pool of programs over one store: any number of requests in progress, each
call of each of them an atomic step, in any order. A call is answered, or it
throws, before or after it took effect. Between steps the environment may
change the store (time passes).

The log of a world holds every call made, newest first, with the store it
found and left. `Chronicle` is what is known of the log of a run: what each
program's own calls guarantee (`Prog.Obeys`) and what each call did. The
invariants of all runs are inductions over it.
-/
import AutoChess.Lib.Prog

namespace Calls

/-- The services, the environment and the program of each request. -/
structure Pool (σ Req Env C : Type) (R : C → Type) (ε : Type) where
  act : (c : C) → σ → R c × σ
  env : Env → σ → σ
  program : Req → Prog C R ε Unit

/-- A call of request `request`, running as number `pid`. -/
structure Event (σ Req C : Type) (R : C → Type) extends Call C R where
  pid : Nat
  request : Req
  before : σ
  after : σ

structure Thread (Req C : Type) (R : C → Type) (ε : Type) where
  request : Req
  rest : Prog C R ε Unit

structure World (σ Req C : Type) (R : C → Type) (ε : Type) where
  store : σ
  threads : List (Thread Req C R ε) := []
  log : List (Event σ Req C R) := []

/-- How a call ends: answered, refused without effect, or done with its
answer lost. -/
inductive Outcome where
  | answered | refused | lost
  deriving DecidableEq, Repr

inductive Move (Req Env : Type) where
  | start (request : Req)
  | run (pid : Nat) (outcome : Outcome)
  | env (e : Env)

variable {σ Req Env C : Type} {R : C → Type} {ε : Type}

/-- The calls `pid` made, newest first. -/
def own (pid : Nat) (log : List (Event σ Req C R)) : List (Call C R) :=
  (log.filter (·.pid == pid)).map (·.toCall)

namespace Pool

variable (pool : Pool σ Req Env C R ε)

/-- What a call with this outcome replies and leaves. -/
def perform (c : C) (s : σ) : Outcome → Option (R c) × σ
  | .answered => (some (pool.act c s).1, (pool.act c s).2)
  | .refused => (none, s)
  | .lost => (none, (pool.act c s).2)

/-- The call `c` made by `pid`. -/
def event (pid : Nat) (request : Req) (c : C) (s : σ) (outcome : Outcome) : Event σ Req C R :=
  { cmd := c, reply := (pool.perform c s outcome).1, pid := pid, request := request,
    before := s, after := (pool.perform c s outcome).2 }

/-- One step; `none` when the move is not possible. -/
def step (w : World σ Req C R ε) : Move Req Env → Option (World σ Req C R ε)
  | .start request =>
    some { w with threads := w.threads ++ [⟨request, pool.program request⟩] }
  | .env e => some { w with store := pool.env e w.store }
  | .run pid outcome =>
    match w.threads[pid]? with
    | some ⟨request, .call c k⟩ =>
      let e := pool.event pid request c w.store outcome
      some { store := e.after
             threads := w.threads.set pid ⟨request, k e.reply⟩
             log := e :: w.log }
    | _ => none

/-- A run; moves that are not possible are skipped. -/
def run (w : World σ Req C R ε) (moves : List (Move Req Env)) : World σ Req C R ε :=
  moves.foldl (fun w m => (pool.step w m).getD w) w

/-- The event is a call that the services answer this way. -/
def Does (e : Event σ Req C R) : Prop :=
  ∃ outcome, (e.reply, e.after) = pool.perform e.cmd e.before outcome

theorem Does.of_reply {pool : Pool σ Req Env C R ε} {e : Event σ Req C R} {r : R e.cmd}
    (h : pool.Does e) (hr : e.reply = some r) :
    r = (pool.act e.cmd e.before).1 ∧ e.after = (pool.act e.cmd e.before).2 := by
  obtain ⟨outcome, h⟩ := h
  rw [Prod.mk.injEq, hr] at h
  cases outcome with
  | answered => exact ⟨Option.some.inj h.1, h.2⟩
  | refused => cases h.1
  | lost => cases h.1

theorem Does.of_call {pool : Pool σ Req Env C R ε} {e : Event σ Req C R} {c : C} {r : R c}
    (h : pool.Does e) (hcall : e.toCall = ⟨c, some r⟩) :
    r = (pool.act c e.before).1 ∧ e.after = (pool.act c e.before).2 := by
  obtain ⟨call, pid, q, before, after⟩ := e
  subst hcall
  exact h.of_reply rfl

/-- A call leaves the store alone or does what the command does. -/
theorem Does.after_eq {pool : Pool σ Req Env C R ε} {e : Event σ Req C R} (h : pool.Does e) :
    e.after = e.before ∨ e.after = (pool.act e.cmd e.before).2 := by
  obtain ⟨outcome, h⟩ := h
  rw [Prod.mk.injEq] at h
  cases outcome with
  | answered => exact .inr h.2
  | refused => exact .inl h.2
  | lost => exact .inr h.2

end Pool

/-- Every event of the log met `ok`, given the log before it. -/
def Meets (ok : List (Event σ Req C R) → Event σ Req C R → Prop) : List (Event σ Req C R) → Prop
  | [] => True
  | e :: log => ok log e ∧ Meets ok log

instance {ok : List (Event σ Req C R) → Event σ Req C R → Prop} [∀ log e, Decidable (ok log e)] :
    ∀ log, Decidable (Meets ok log)
  | [] => inferInstanceAs (Decidable True)
  | e :: log =>
    have : Decidable (Meets ok log) := instDecidableMeets log
    inferInstanceAs (Decidable (ok log e ∧ Meets ok log))

theorem Meets.of_append {ok : List (Event σ Req C R) → Event σ Req C R → Prop} :
    ∀ {newer older : List (Event σ Req C R)}, Meets ok (newer ++ older) → Meets ok older
  | [], _, h => h
  | _ :: _, _, h => Meets.of_append h.2

theorem Meets.imp {ok ok' : List (Event σ Req C R) → Event σ Req C R → Prop} (h : ∀ log e, ok log e → ok' log e) :
    ∀ {log : List (Event σ Req C R)}, Meets ok log → Meets ok' log
  | [], _ => trivial
  | e :: log, hm => ⟨h log e hm.1, Meets.imp h hm.2⟩

theorem Meets.of_mem {ok : List (Event σ Req C R) → Event σ Req C R → Prop} {log : List (Event σ Req C R)}
    (h : ∀ older, ∀ e ∈ log, ok older e) : Meets ok log := by
  induction log with
  | nil => trivial
  | cons e log ih =>
    exact ⟨h log e (List.mem_cons_self ..), ih fun older e' hmem => h older e' (List.mem_cons_of_mem _ hmem)⟩

@[simp] theorem own_nil (pid : Nat) : own pid ([] : List (Event σ Req C R)) = [] := rfl

theorem own_cons_self {pid : Nat} {e : Event σ Req C R} {log : List (Event σ Req C R)}
    (h : e.pid = pid) : own pid (e :: log) = e.toCall :: own pid log := by
  simp [own, h]

theorem own_cons_other {pid : Nat} {e : Event σ Req C R} {log : List (Event σ Req C R)}
    (h : e.pid ≠ pid) : own pid (e :: log) = own pid log := by
  simp [own, h]

theorem own_eq_nil {pid : Nat} {log : List (Event σ Req C R)} (h : ∀ e ∈ log, e.pid < pid) :
    own pid log = [] := by
  rw [own, List.map_eq_nil_iff, List.filter_eq_nil_iff]
  intro e he heq
  have := h e he
  simp only [beq_iff_eq] at heq
  omega

theorem mem_own {pid : Nat} {log : List (Event σ Req C R)} {c : Call C R} :
    c ∈ own pid log ↔ ∃ e ∈ log, e.pid = pid ∧ e.toCall = c := by
  simp [own, and_assoc]

theorem own_append (pid : Nat) (l₁ l₂ : List (Event σ Req C R)) :
    own pid (l₁ ++ l₂) = own pid l₁ ++ own pid l₂ := by
  simp [own]

/-- Programs in progress still obey, after the calls they have made. -/
structure World.Obeys (S : Req → List (Call C R) → C → Prop)
    (Q : Req → Except ε Unit → List (Call C R) → Prop) (w : World σ Req C R ε) : Prop where
  pids : ∀ e ∈ w.log, e.pid < w.threads.length
  threads : ∀ (pid : Nat) (t : Thread Req C R ε), w.threads[pid]? = some t →
    t.rest.Obeys (S t.request) (Q t.request) (own pid w.log)

namespace Pool

variable {pool : Pool σ Req Env C R ε} {S : Req → List (Call C R) → C → Prop}
  {Q : Req → Except ε Unit → List (Call C R) → Prop}

theorem step_obeys {w w' : World σ Req C R ε} {m : Move Req Env}
    (hprog : ∀ q, (pool.program q).Obeys (S q) (Q q) []) (hw : w.Obeys S Q)
    (h : pool.step w m = some w') : w'.Obeys S Q := by
  cases m with
  | env e => cases h; exact ⟨hw.pids, hw.threads⟩
  | start q =>
    cases h
    refine ⟨fun e he => ?_, fun pid t ht => ?_⟩
    · have := hw.pids e he
      simp only [List.length_append, List.length_singleton]
      omega
    · rcases Nat.lt_trichotomy pid w.threads.length with hlt | heq | hgt
      · rw [List.getElem?_append_left hlt] at ht
        exact hw.threads pid t ht
      · subst heq
        simp only [List.getElem?_append_right le_rfl, Nat.sub_self, List.getElem?_cons_zero,
          Option.some.injEq] at ht
        subst ht
        rw [own_eq_nil hw.pids]
        exact hprog q
      · rw [List.getElem?_eq_none (by simp; omega)] at ht
        cases ht
  | run i outcome =>
    simp only [step] at h
    split at h
    · next q c k hi =>
      cases h
      have hlt : i < w.threads.length := (List.getElem?_eq_some_iff.1 hi).1
      have hobeys := hw.threads i _ hi
      refine ⟨fun e he => ?_, fun pid t ht => ?_⟩
      · rw [List.length_set]
        rcases List.mem_cons.1 he with rfl | he
        · exact hlt
        · exact hw.pids e he
      · by_cases hpid : i = pid
        · subst hpid
          rw [List.getElem?_set_self hlt] at ht
          cases ht
          have hown : own i (pool.event i q c w.store outcome :: w.log) =
              ⟨c, (pool.event i q c w.store outcome).reply⟩ :: own i w.log := own_cons_self rfl
          exact hown ▸ hobeys.2 _
        · rw [List.getElem?_set_ne hpid] at ht
          have hown : own pid (pool.event i q c w.store outcome :: w.log) = own pid w.log :=
            own_cons_other hpid
          exact hown ▸ hw.threads pid t ht
    · cases h

/-- What the programs obey holds of all calls of a run. -/
theorem run_obeys {init : σ} (hprog : ∀ q, (pool.program q).Obeys (S q) (Q q) [])
    (moves : List (Move Req Env)) : (pool.run ⟨init, [], []⟩ moves).Obeys S Q := by
  suffices h : ∀ (moves : List (Move Req Env)) (w : World σ Req C R ε), w.Obeys S Q →
      (pool.run w moves).Obeys S Q from h moves _ ⟨by simp, by simp⟩
  intro moves
  induction moves with
  | nil => exact fun w hw => hw
  | cons m moves ih =>
    intro w hw
    rw [run, List.foldl_cons]
    cases hm : pool.step w m with
    | none => exact ih w hw
    | some w' => exact ih w' (step_obeys hprog hw hm)

end Pool

/-- A call of a run is one of the request its number runs. -/
theorem Pool.run_thread (pool : Pool σ Req Env C R ε) (init : σ) (moves : List (Move Req Env)) :
    ∀ e ∈ (pool.run ⟨init, [], []⟩ moves).log, ∃ t,
      (pool.run ⟨init, [], []⟩ moves).threads[e.pid]? = some t ∧ t.request = e.request := by
  suffices h : ∀ (moves : List (Move Req Env)) (w : World σ Req C R ε),
      (∀ e ∈ w.log, ∃ t, w.threads[e.pid]? = some t ∧ t.request = e.request) →
      ∀ e ∈ (pool.run w moves).log, ∃ t, (pool.run w moves).threads[e.pid]? = some t ∧
        t.request = e.request from h moves ⟨init, [], []⟩ (by simp)
  intro moves
  induction moves with
  | nil => exact fun w hw => hw
  | cons m moves ih =>
    intro w hw
    rw [run, List.foldl_cons]
    cases hm : pool.step w m with
    | none => exact ih w hw
    | some w' =>
      refine ih w' ?_
      cases m with
      | env e => cases hm; exact hw
      | start q =>
        cases hm
        intro e he
        obtain ⟨t, ht, hreq⟩ := hw e he
        have hlt : e.pid < w.threads.length := (List.getElem?_eq_some_iff.1 ht).1
        exact ⟨t, (List.getElem?_append_left hlt).trans ht, hreq⟩
      | run i outcome =>
        simp only [step] at hm
        split at hm
        · next q c k hi =>
          cases hm
          have hlt : i < w.threads.length := (List.getElem?_eq_some_iff.1 hi).1
          intro e he
          by_cases hpid : i = e.pid
          · subst hpid
            refine ⟨_, List.getElem?_set_self hlt, ?_⟩
            rcases List.mem_cons.1 he with heq | he
            · rw [heq]
              rfl
            · obtain ⟨t, ht, hreq⟩ := hw e he
              rw [hi] at ht
              cases ht
              exact hreq
          · rcases List.mem_cons.1 he with rfl | he
            · exact absurd rfl hpid
            · obtain ⟨t, ht, hreq⟩ := hw e he
              exact ⟨t, (List.getElem?_set_ne hpid).trans ht, hreq⟩
        · cases hm

theorem Pool.run_request (pool : Pool σ Req Env C R ε) (init : σ) (moves : List (Move Req Env)) :
    ∀ e ∈ (pool.run ⟨init, [], []⟩ moves).log, ∀ t,
      (pool.run ⟨init, [], []⟩ moves).threads[e.pid]? = some t → t.request = e.request := by
  intro e he t ht
  obtain ⟨t', ht', hreq⟩ := pool.run_thread init moves e he
  rw [ht] at ht'
  cases ht'
  exact hreq

/-- Two calls of one number are of one request. -/
theorem Pool.same_request (pool : Pool σ Req Env C R ε) (init : σ) (moves : List (Move Req Env))
    {e e' : Event σ Req C R} (he : e ∈ (pool.run ⟨init, [], []⟩ moves).log)
    (he' : e' ∈ (pool.run ⟨init, [], []⟩ moves).log) (hpid : e'.pid = e.pid) : e'.request = e.request := by
  obtain ⟨t, ht, hreq⟩ := pool.run_thread init moves e he
  exact (pool.run_request init moves e' he' t (hpid ▸ ht)).symm.trans hreq

/-- Requests started only with `p` are all there are. -/
theorem Pool.run_requests (pool : Pool σ Req Env C R ε) {p : Req → Prop} (init : σ)
    (moves : List (Move Req Env)) (h : ∀ q, .start q ∈ moves → p q) :
    (∀ t ∈ (pool.run ⟨init, [], []⟩ moves).threads, p t.request) ∧
      ∀ e ∈ (pool.run ⟨init, [], []⟩ moves).log, p e.request := by
  suffices hall : ∀ (moves : List (Move Req Env)) (w : World σ Req C R ε),
      (∀ q, .start q ∈ moves → p q) → (∀ t ∈ w.threads, p t.request) → (∀ e ∈ w.log, p e.request) →
      (∀ t ∈ (pool.run w moves).threads, p t.request) ∧ ∀ e ∈ (pool.run w moves).log, p e.request from
    hall moves _ h (by simp) (by simp)
  intro moves
  induction moves with
  | nil => exact fun w _ ht he => ⟨ht, he⟩
  | cons m moves ih =>
    intro w hstart ht he
    have hrest : ∀ q, .start q ∈ moves → p q := fun q hq => hstart q (List.mem_cons_of_mem _ hq)
    rw [run, List.foldl_cons]
    cases hm : pool.step w m with
    | none => exact ih w hrest ht he
    | some w' =>
      cases m with
      | env e => cases hm; exact ih _ hrest ht he
      | start q =>
        cases hm
        refine ih _ hrest (fun t hmem => ?_) he
        rcases List.mem_append.1 hmem with hmem | hmem
        · exact ht t hmem
        · rw [List.mem_singleton.1 hmem]
          exact hstart q (List.mem_cons_self ..)
      | run i outcome =>
        simp only [step] at hm
        split at hm
        · next q c k hi =>
          cases hm
          have hq : p q := ht _ (List.mem_of_getElem? hi)
          refine ih _ hrest (fun t hmem => ?_) (List.forall_mem_cons.2 ⟨hq, he⟩)
          rcases List.mem_or_eq_of_mem_set hmem with hmem | rfl
          · exact ht t hmem
          · exact hq
        · cases hm

/-- What every call of a run without time relates, its start and end are
related by. -/
theorem Pool.run_rel (pool : Pool σ Req Env C R ε) {r : σ → σ → Prop} (hrefl : ∀ s, r s s)
    (htrans : ∀ s₁ s₂ s₃, r s₁ s₂ → r s₂ s₃ → r s₁ s₃) {init : σ} {moves : List (Move Req Env)}
    (hmoves : ∀ m ∈ moves, ∀ e, m ≠ .env e)
    (h : ∀ e ∈ (pool.run ⟨init, [], []⟩ moves).log, r e.before e.after) :
    r init (pool.run ⟨init, [], []⟩ moves).store := by
  suffices hall : ∀ (moves : List (Move Req Env)) (w : World σ Req C R ε), (∀ m ∈ moves, ∀ e, m ≠ .env e) →
      ∃ new, (pool.run w moves).log = new ++ w.log ∧
        ((∀ e ∈ new, r e.before e.after) → r w.store (pool.run w moves).store) by
    obtain ⟨new, hlog, hrel⟩ := hall moves ⟨init, [], []⟩ hmoves
    exact hrel fun e he => h e (hlog ▸ List.mem_append_left _ he)
  intro moves
  induction moves with
  | nil => exact fun w _ => ⟨[], rfl, fun _ => hrefl _⟩
  | cons m moves ih =>
    intro w hmoves
    obtain ⟨hm, hrest⟩ := List.forall_mem_cons.1 hmoves
    rw [run, List.foldl_cons]
    cases hstep : pool.step w m with
    | none => exact ih w hrest
    | some w' =>
      obtain ⟨new, hlog, hrel⟩ := ih w' hrest
      cases m with
      | env e => exact absurd rfl (hm e)
      | start q => cases hstep; exact ⟨new, hlog, hrel⟩
      | run i outcome =>
        simp only [step] at hstep
        split at hstep
        · next q c k hi =>
          cases hstep
          refine ⟨new ++ [pool.event i q c w.store outcome], hlog.trans (by simp), fun hnew => ?_⟩
          have hfirst := hnew _ (List.mem_append_right _ (List.mem_singleton_self _))
          exact htrans _ _ _ hfirst (hrel fun e he => hnew e (List.mem_append_left _ he))
        · cases hstep

/-! ## One request after the other -/

/-- The program of the thread has ended. -/
def Thread.ended (t : Thread Req C R ε) : Bool :=
  match t.rest with
  | .call _ _ => false
  | _ => true

/-- The move starts no request before the others are over. -/
def World.awaits (w : World σ Req C R ε) : Move Req Env → Bool
  | .start _ => w.threads.all (·.ended)
  | _ => true

/-- The moves start a request only when the ones before are over. -/
def Pool.inTurn (pool : Pool σ Req Env C R ε) (w : World σ Req C R ε) : List (Move Req Env) → Bool
  | [] => true
  | m :: moves => w.awaits m && pool.inTurn ((pool.step w m).getD w) moves

/-- What requests that take turns leave: calls in the order of the requests,
all of which but the last are over. -/
structure World.Turned (w : World σ Req C R ε) : Prop where
  pids : ∀ e ∈ w.log, e.pid < w.threads.length
  order : w.log.Pairwise fun newer older => older.pid ≤ newer.pid
  ended : ∀ (pid : Nat) (t : Thread Req C R ε), w.threads[pid]? = some t → pid + 1 < w.threads.length →
    t.ended = true

theorem Pool.run_turned (pool : Pool σ Req Env C R ε) {init : σ} {moves : List (Move Req Env)}
    (h : pool.inTurn ⟨init, [], []⟩ moves = true) : (pool.run ⟨init, [], []⟩ moves).Turned := by
  suffices hall : ∀ (moves : List (Move Req Env)) (w : World σ Req C R ε), pool.inTurn w moves = true →
      w.Turned → (pool.run w moves).Turned from hall moves _ h ⟨by simp, .nil, by simp⟩
  intro moves
  induction moves with
  | nil => exact fun w _ hw => hw
  | cons m moves ih =>
    intro w hturn hw
    rw [inTurn, Bool.and_eq_true] at hturn
    rw [run, List.foldl_cons]
    refine ih _ hturn.2 ?_
    cases hm : pool.step w m with
    | none => exact hw
    | some w' =>
      cases m with
      | env e => cases hm; exact ⟨hw.pids, hw.order, hw.ended⟩
      | start q =>
        cases hm
        refine ⟨fun e he => ?_, hw.order, fun pid t ht hlt => ?_⟩
        · have := hw.pids e he
          simp only [Option.getD_some, List.length_append, List.length_singleton]
          omega
        · simp only [Option.getD_some, List.length_append, List.length_singleton] at ht hlt
          rw [List.getElem?_append_left (by omega)] at ht
          exact List.all_eq_true.1 hturn.1 t (List.mem_of_getElem? ht)
      | run i outcome =>
        simp only [step] at hm
        split at hm
        · next q c k hi =>
          cases hm
          have hlt : i < w.threads.length := (List.getElem?_eq_some_iff.1 hi).1
          -- A request that still calls is the last one.
          have hlast : w.threads.length ≤ i + 1 := by
            by_contra hearly
            have hover := hw.ended i _ hi (by omega)
            cases hover
          refine ⟨fun e he => ?_, ?_, fun pid t ht hpid => ?_⟩
          · simp only [Option.getD_some, List.length_set]
            rcases List.mem_cons.1 he with rfl | he
            · exact hlt
            · exact hw.pids e he
          · refine .cons (fun e he => ?_) hw.order
            have hpid := hw.pids e he
            have hi : (pool.event i q c w.store outcome).pid = i := rfl
            omega
          · simp only [Option.getD_some, List.length_set] at ht hpid
            rw [List.getElem?_set_ne (by omega)] at ht
            exact hw.ended pid t ht hpid
        · cases hm

/-- A request's calls are all made before a later one's. -/
theorem World.Turned.own_eq {w : World σ Req C R ε} (h : w.Turned) {newer older : List (Event σ Req C R)}
    {e : Event σ Req C R} (hlog : w.log = newer ++ e :: older) {pid : Nat} (hpid : pid < e.pid) :
    own pid w.log = own pid older := by
  have horder := h.order
  rw [hlog] at horder ⊢
  rw [own_append, own_cons_other (by omega)]
  have hnone : own pid newer = [] := by
    rw [own, List.map_eq_nil_iff, List.filter_eq_nil_iff]
    intro e' hmem heq
    have hle := (List.pairwise_append.1 horder).2.2 e' hmem e (List.mem_cons_self ..)
    simp only [beq_iff_eq] at heq
    omega
  rw [hnone, List.nil_append]

/-! ## Chronicles -/

/-- The logs and stores of runs from `init` whose calls are guarded by `S`:
every call was made by a program whose own calls before it satisfy `S`, and
found the store the rest of the log left. -/
inductive Chronicle (pool : Pool σ Req Env C R ε) (S : Req → List (Call C R) → C → Prop) (init : σ) :
    List (Event σ Req C R) → σ → Prop where
  | start : Chronicle pool S init [] init
  | time {log : List (Event σ Req C R)} {s : σ} (e : Env) :
      Chronicle pool S init log s → Chronicle pool S init log (pool.env e s)
  | call {log : List (Event σ Req C R)} {e : Event σ Req C R} :
      Chronicle pool S init log e.before → S e.request (own e.pid log) e.cmd → pool.Does e →
      Chronicle pool S init (e :: log) e.after

section
variable {pool : Pool σ Req Env C R ε} {S : Req → List (Call C R) → C → Prop} {init : σ}

/-- **Every run leaves a chronicle**, if every program obeys `S`. -/
theorem Pool.run_chronicle (hprog : ∀ q, (pool.program q).Obeys (S q) (fun _ _ => True) [])
    (moves : List (Move Req Env)) :
    Chronicle pool S init (pool.run ⟨init, [], []⟩ moves).log (pool.run ⟨init, [], []⟩ moves).store := by
  suffices h : ∀ (moves : List (Move Req Env)) (w : World σ Req C R ε),
      w.Obeys S (fun _ _ _ => True) → Chronicle pool S init w.log w.store →
      Chronicle pool S init (pool.run w moves).log (pool.run w moves).store from
    h moves _ ⟨by simp, by simp⟩ .start
  intro moves
  induction moves with
  | nil => exact fun w _ h => h
  | cons m moves ih =>
    intro w hw h
    rw [run, List.foldl_cons]
    cases hm : pool.step w m with
    | none => exact ih w hw h
    | some w' =>
      refine ih w' (Pool.step_obeys hprog hw hm) ?_
      cases m with
      | start q => cases hm; exact h
      | env e => cases hm; exact h.time e
      | run i outcome =>
        simp only [Pool.step] at hm
        split at hm
        · next q c k hi =>
          cases hm
          exact h.call (hw.threads i _ hi).1 ⟨outcome, rfl⟩
        · cases hm

/-- Another guard, which the first implies. -/
theorem Chronicle.weaken {S' : Req → List (Call C R) → C → Prop} {log : List (Event σ Req C R)} {s : σ}
    (h : Chronicle pool S init log s) (hS : ∀ q h' c, S q h' c → S' q h' c) :
    Chronicle pool S' init log s := by
  induction h with
  | start => exact .start
  | time e _ ih => exact ih.time e
  | call _ hguard hdo ih => exact ih.call (hS _ _ _ hguard) hdo

/-- The chronicle up to an event of the log. -/
theorem Chronicle.of_split {newer older : List (Event σ Req C R)} {e : Event σ Req C R} {s : σ}
    (h : Chronicle pool S init (newer ++ e :: older) s) :
    Chronicle pool S init older e.before ∧ S e.request (own e.pid older) e.cmd ∧ pool.Does e := by
  generalize hlog : newer ++ e :: older = log at h
  induction h generalizing newer with
  | start => cases newer <;> cases hlog
  | time _ _ ih => exact ih hlog
  | call hc hS hdo ih =>
    cases newer with
    | nil => cases hlog; exact ⟨hc, hS, hdo⟩
    | cons e' newer => cases hlog; exact ih rfl

/-- What every step keeps relates the start to the end of a run. -/
theorem Chronicle.rel_init {r : σ → σ → Prop} (hrefl : ∀ s, r s s)
    (htrans : ∀ s₁ s₂ s₃, r s₁ s₂ → r s₂ s₃ → r s₁ s₃) (henv : ∀ e s, r s (pool.env e s))
    {log : List (Event σ Req C R)} {s : σ} (h : Chronicle pool S init log s)
    (hstep : ∀ newer e older, log = newer ++ e :: older → r e.before e.after) : r init s := by
  induction h with
  | start => exact hrefl init
  | time e _ ih => exact htrans _ _ _ (ih hstep) (henv e _)
  | @call log e' _ _ _ ih =>
    refine htrans _ _ _ (ih fun newer e older heq => ?_) (hstep [] _ _ rfl)
    exact hstep (e' :: newer) e older (congrArg (e' :: ·) heq)

/-- Induction over what came after an event. -/
theorem Chronicle.since_induction {motive : List (Event σ Req C R) → σ → Prop}
    {newer older : List (Event σ Req C R)} {e : Event σ Req C R} {s : σ}
    (h : Chronicle pool S init (newer ++ e :: older) s) (start : motive [] e.after)
    (time : ∀ newer s t, motive newer s → motive newer (pool.env t s))
    (call : ∀ newer e', Chronicle pool S init (newer ++ e :: older) e'.before →
      S e'.request (own e'.pid (newer ++ e :: older)) e'.cmd → pool.Does e' →
      motive newer e'.before → motive (e' :: newer) e'.after) : motive newer s := by
  generalize hlog : newer ++ e :: older = log at h
  induction h generalizing newer with
  | start => cases newer <;> cases hlog
  | time t _ ih => exact time _ _ _ (ih hlog)
  | @call log₁ e₁ hc hS hdo ih =>
    cases newer with
    | nil => cases hlog; exact start
    | cons e' newer =>
      cases hlog
      exact call newer e₁ hc hS hdo (ih rfl)

/-- What every step keeps relates an event to the end of a run. -/
theorem Chronicle.rel_since {r : σ → σ → Prop} (hrefl : ∀ s, r s s)
    (htrans : ∀ s₁ s₂ s₃, r s₁ s₂ → r s₂ s₃ → r s₁ s₃) (henv : ∀ e s, r s (pool.env e s))
    {newer older : List (Event σ Req C R)} {e : Event σ Req C R} {s : σ}
    (h : Chronicle pool S init (newer ++ e :: older) s)
    (hstep : ∀ newer' e' older', newer = newer' ++ e' :: older' → r e'.before e'.after) :
    r e.after s := by
  refine h.since_induction (motive := fun newer s =>
      (∀ (newer' : List (Event σ Req C R)) (e' : Event σ Req C R) (older' : List (Event σ Req C R)),
        newer = newer' ++ e' :: older' → r e'.before e'.after) → r e.after s)
    (fun _ => hrefl _) (fun newer s t ih hstep => htrans _ _ _ (ih hstep) (henv t s))
    (fun newer e' _ _ _ ih hstep => ?_) hstep
  refine htrans _ _ _ (ih fun newer' e'' older' heq => ?_) (hstep [] e' newer rfl)
  exact hstep (e' :: newer') e'' older' (congrArg (e' :: ·) heq)

/-- Induction in which every earlier event's state is known too. -/
theorem Chronicle.history_induction {motive : List (Event σ Req C R) → σ → Prop}
    {log : List (Event σ Req C R)} {s : σ} (h : Chronicle pool S init log s) (start : motive [] init)
    (time : ∀ log s t, motive log s → motive log (pool.env t s))
    (call : ∀ log e, Chronicle pool S init log e.before → S e.request (own e.pid log) e.cmd →
      pool.Does e → (∀ newer e' older, log = newer ++ e' :: older → motive older e'.before) →
      motive log e.before → motive (e :: log) e.after) : motive log s := by
  suffices hall : (∀ newer e' older, log = newer ++ e' :: older → motive older e'.before) ∧
      motive log s from hall.2
  induction h with
  | start => exact ⟨by simp, start⟩
  | time t _ ih => exact ⟨ih.1, time _ _ _ ih.2⟩
  | @call log e hc hS hdo ih =>
    refine ⟨fun newer e' older heq => ?_, call log e hc hS hdo ih.1 ih.2⟩
    cases newer with
    | nil =>
      cases heq
      exact ih.2
    | cons e'' newer =>
      cases heq
      exact ih.1 newer e' older rfl

/-- Of two events of a log one is the other, or the older. -/
theorem split_cases {α : Type} {l₁ l₂ m₁ m₂ : List α} {a b : α}
    (h : l₁ ++ a :: l₂ = m₁ ++ b :: m₂) : (l₁ = m₁ ∧ a = b ∧ l₂ = m₂) ∨
      (∃ mid, l₂ = mid ++ b :: m₂ ∧ m₁ = l₁ ++ a :: mid) ∨
      ∃ mid, m₂ = mid ++ a :: l₂ ∧ l₁ = m₁ ++ b :: mid := by
  rcases List.append_eq_append_iff.1 h with ⟨mid, rfl, hmid⟩ | ⟨mid, rfl, hmid⟩
  · cases mid with
    | nil =>
      cases hmid
      exact .inl ⟨(List.append_nil l₁).symm, rfl, rfl⟩
    | cons c mid =>
      cases hmid
      exact .inr (.inl ⟨mid, rfl, rfl⟩)
  · cases mid with
    | nil =>
      cases hmid
      exact .inl ⟨List.append_nil m₁, rfl, rfl⟩
    | cons c mid =>
      cases hmid
      exact .inr (.inr ⟨mid, rfl, rfl⟩)

/-- The oldest member with a property. -/
theorem exists_oldest {α : Type} {p : α → Prop} {l : List α} (h : ∃ a ∈ l, p a) :
    ∃ newer a older, l = newer ++ a :: older ∧ p a ∧ ∀ b ∈ older, ¬ p b := by
  induction l with
  | nil => simp at h
  | cons a l ih =>
    by_cases hl : ∃ b ∈ l, p b
    · obtain ⟨newer, b, older, rfl, hb, hold⟩ := ih hl
      exact ⟨a :: newer, b, older, rfl, hb, hold⟩
    · obtain ⟨b, hmem, hb⟩ := h
      rcases List.mem_cons.1 hmem with rfl | hmem
      · exact ⟨[], b, l, rfl, hb, fun c hc hpc => hl ⟨c, hc, hpc⟩⟩
      · exact absurd ⟨b, hmem, hb⟩ hl

/-- A call of a thread's own history is an event of the log. -/
theorem own_split {pid : Nat} {log : List (Event σ Req C R)} {newer older : List (Call C R)}
    {c : Call C R} (h : own pid log = newer ++ c :: older) :
    ∃ log₁ e log₂, log = log₁ ++ e :: log₂ ∧ e.pid = pid ∧ e.toCall = c ∧ own pid log₂ = older ∧
      own pid log₁ = newer := by
  induction log generalizing newer with
  | nil => cases newer <;> cases h
  | cons e log ih =>
    by_cases hpid : e.pid = pid
    · rw [own_cons_self hpid] at h
      cases newer with
      | nil =>
        cases h
        exact ⟨[], e, log, rfl, hpid, rfl, rfl, rfl⟩
      | cons c' newer =>
        rw [List.cons_append, List.cons.injEq] at h
        obtain ⟨log₁, e', log₂, rfl, hp, hc, ho, hn⟩ := ih h.2
        exact ⟨e :: log₁, e', log₂, rfl, hp, hc, ho, by rw [own_cons_self hpid, h.1, hn]⟩
    · rw [own_cons_other hpid] at h
      obtain ⟨log₁, e', log₂, rfl, hp, hc, ho, hn⟩ := ih h
      exact ⟨e :: log₁, e', log₂, rfl, hp, hc, ho, by rw [own_cons_other hpid, hn]⟩

/-- The last of a thread's own calls. -/
theorem own_last {pid : Nat} {log : List (Event σ Req C R)} {older : List (Call C R)}
    {c : Call C R} (h : own pid log = c :: older) :
    ∃ log₁ e log₂, log = log₁ ++ e :: log₂ ∧ e.pid = pid ∧ e.toCall = c ∧ own pid log₂ = older := by
  have h : own pid log = [] ++ c :: older := h
  obtain ⟨log₁, e, log₂, hlog, hpid, hcall, hown, -⟩ := own_split h
  exact ⟨log₁, e, log₂, hlog, hpid, hcall, hown⟩

/-- A list none of whose members is followed by another with `p` has one at
most. -/
theorem countP_le_one {α : Type} {p : α → Bool} {l : List α}
    (h : ∀ newer a older, l = newer ++ a :: older → p a = true → ∀ b ∈ older, p b = false) :
    l.countP p ≤ 1 := by
  induction l with
  | nil => simp
  | cons a l ih =>
    rw [List.countP_cons]
    cases ha : p a with
    | false =>
      have hl := ih fun newer b older heq => h (a :: newer) b older (congrArg (a :: ·) heq)
      simpa using hl
    | true =>
      have hl : l.countP p = 0 := by
        rw [List.countP_eq_zero]
        intro b hb
        simp [h [] a l rfl ha b hb]
      simp [hl]

/-- A relation between every member and those after it. -/
theorem pairwise_of_split {α : Type} {Rel : α → α → Prop} {l : List α}
    (h : ∀ newer a older, l = newer ++ a :: older → ∀ b ∈ older, Rel a b) : l.Pairwise Rel := by
  induction l with
  | nil => exact .nil
  | cons a l ih =>
    exact .cons (h [] a l rfl)
      (ih fun newer b older heq => h (a :: newer) b older (congrArg (a :: ·) heq))

end

end Calls
