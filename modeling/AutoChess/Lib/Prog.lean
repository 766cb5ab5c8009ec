/-
Programs that call shared services. A program is the tree of the calls it
makes and what it does with each reply; `none` for a reply means that the
call threw. What other programs do between two calls is not its business,
so the tree is all there is to say about one program.

Two logics over it: `Obeys` says what a program's own earlier calls
guarantee whenever it makes a call, for every reply; `wp` says what the
program does to the services when it runs alone.
-/
import Mathlib.Data.List.Infix

namespace Calls

/-- A program over commands `C` with replies `R`. -/
inductive Prog (C : Type) (R : C → Type) (ε α : Type) where
  | pure (a : α)
  | throw (e : ε)
  | call (c : C) (k : Option (R c) → Prog C R ε α)

/-- A call made, with its reply. -/
structure Call (C : Type) (R : C → Type) where
  cmd : C
  reply : Option (R cmd)

namespace Prog

variable {C : Type} {R : C → Type} {ε α β : Type}

def bind : Prog C R ε α → (α → Prog C R ε β) → Prog C R ε β
  | pure a, f => f a
  | throw e, _ => throw e
  | call c k, f => call c fun r => (k r).bind f

instance : Monad (Prog C R ε) where
  pure := pure
  bind := bind

/-- Makes the call `c`; a fault is rethrown as `fault`. -/
def perform (fault : ε) (c : C) : Prog C R ε (R c) :=
  call c fun
    | some r => pure r
    | none => throw fault

/-- Runs the program and hands its outcome on instead of throwing. -/
def attempt : Prog C R ε α → Prog C R ε (Except ε α)
  | pure a => pure (.ok a)
  | throw e => pure (.error e)
  | call c k => call c fun r => (k r).attempt

/-- The program over services that include its own. -/
def embed {C' : Type} {R' : C' → Type} {ε' : Type} (f : C → C') (reply : ∀ c, R' (f c) → R c)
    (fault : ε → ε') : Prog C R ε α → Prog C' R' ε' α
  | pure a => pure a
  | throw e => throw (fault e)
  | call c k => call (f c) fun r => (k (r.map (reply c))).embed f reply fault

def ofExcept : Except ε α → Prog C R ε α
  | .ok a => pure a
  | .error e => throw e

/-- `try p finally cleanup`. -/
def ensuring (p : Prog C R ε α) (cleanup : Prog C R ε Unit) : Prog C R ε α := do
  let outcome ← p.attempt
  cleanup
  ofExcept outcome

/-- Two programs awaited together, their calls taking turns. The first fault
of either is thrown once both have stopped. -/
def both : Prog C R ε Unit → Prog C R ε Unit → Prog C R ε Unit
  | pure _, q => q
  | throw e, q => q.attempt.bind fun _ => throw e
  | call c k, call d l => call c fun r => call d fun s => (k r).both (l s)
  | call c k, pure _ => call c k
  | call c k, throw e => (call c k).bind fun _ => throw e

@[simp] theorem pure_bind (a : α) (f : α → Prog C R ε β) : (Pure.pure a : Prog C R ε α) >>= f = f a :=
  rfl

@[simp] theorem bind_eq (p : Prog C R ε α) (f : α → Prog C R ε β) : p >>= f = p.bind f := rfl

theorem bind_assoc {γ : Type} (p : Prog C R ε α) (f : α → Prog C R ε β) (g : β → Prog C R ε γ) :
    (p.bind f).bind g = p.bind fun a => (f a).bind g := by
  induction p with
  | pure a => rfl
  | throw e => rfl
  | call c k ih => simp only [bind, ih]

/-! ## Which commands a program makes -/

/-- Every command the program can make is in `A`. -/
def Issues (A : C → Prop) : Prog C R ε α → Prop
  | pure _ => True
  | throw _ => True
  | call c k => A c ∧ ∀ r, (k r).Issues A

theorem Issues.bind {A : C → Prop} {p : Prog C R ε α} {f : α → Prog C R ε β} (hp : p.Issues A)
    (hf : ∀ a, (f a).Issues A) : (p.bind f).Issues A := by
  induction p with
  | pure a => exact hf a
  | throw e => trivial
  | call c k ih => exact ⟨hp.1, fun r => ih r (hp.2 r)⟩

theorem Issues.mono {A B : C → Prop} {p : Prog C R ε α} (h : ∀ c, A c → B c) (hp : p.Issues A) :
    p.Issues B := by
  induction p with
  | pure a => trivial
  | throw e => trivial
  | call c k ih => exact ⟨h c hp.1, fun r => ih r (hp.2 r)⟩

theorem Issues.perform {A : C → Prop} {c : C} (h : A c) (fault : ε) :
    (Prog.perform (R := R) fault c).Issues A := by
  refine ⟨h, fun r => ?_⟩
  cases r <;> trivial

/-- A call, then the rest. -/
theorem Issues.perform_bind {A : C → Prop} {c : C} {fault : ε} {f : R c → Prog C R ε α} (h : A c)
    (hf : ∀ r, (f r).Issues A) : ((Prog.perform fault c).bind f).Issues A :=
  (Issues.perform h fault).bind hf

theorem Issues.attempt {A : C → Prop} {p : Prog C R ε α} (hp : p.Issues A) : p.attempt.Issues A := by
  induction p with
  | pure a => trivial
  | throw e => trivial
  | call c k ih => exact ⟨hp.1, fun r => ih r (hp.2 r)⟩

theorem Issues.embed {C' : Type} {R' : C' → Type} {ε' : Type} {A : C' → Prop} {p : Prog C R ε α}
    (f : C → C') (reply : ∀ c, R' (f c) → R c) (fault : ε → ε') (h : ∀ c, A (f c)) :
    (p.embed f reply fault).Issues A := by
  induction p with
  | pure a => trivial
  | throw e => trivial
  | call c k ih => exact ⟨h c, fun r => ih _⟩

theorem Issues.both {A : C → Prop} {p q : Prog C R ε Unit} (hp : p.Issues A) (hq : q.Issues A) :
    (p.both q).Issues A := by
  induction p generalizing q with
  | pure a => cases q <;> exact hq
  | throw e =>
    have h : (q.attempt.bind fun _ => (throw e : Prog C R ε Unit)).Issues A :=
      hq.attempt.bind fun _ => trivial
    cases q <;> exact h
  | call c k ih =>
    cases q with
    | pure b => exact hp
    | throw e => exact hp.bind fun _ => trivial
    | call d l => exact ⟨hp.1, fun r => ⟨hq.1, fun s => ih r (hp.2 r) (hq.2 s)⟩⟩

/-! ## Programs that throw only after a failed call -/

/-- Whatever is replied, the program does not throw unless one of its calls
did. -/
def Steady : Prog C R ε α → Prop
  | pure _ => True
  | throw _ => False
  | call _ k => ∀ r, (k (some r)).Steady

theorem Steady.bind {p : Prog C R ε α} {f : α → Prog C R ε β} (hp : p.Steady)
    (hf : ∀ a, (f a).Steady) : (p.bind f).Steady := by
  induction p with
  | pure a => exact hf a
  | throw e => exact hp.elim
  | call c k ih => exact fun r => ih (some r) (hp r)

theorem Steady.perform (fault : ε) (c : C) : (Prog.perform (R := R) fault c).Steady := fun _ => trivial

/-- A call, then the rest. -/
theorem Steady.perform_bind {c : C} {fault : ε} {f : R c → Prog C R ε α} (hf : ∀ r, (f r).Steady) :
    ((Prog.perform fault c).bind f).Steady := fun r => hf r

/-- A steady program never hands a fault on. -/
theorem Steady.attempt_bind {p : Prog C R ε α} {f : Except ε α → Prog C R ε β} (hp : p.Steady)
    (hf : ∀ a, (f (.ok a)).Steady) : (p.attempt.bind f).Steady := by
  induction p with
  | pure a => exact hf a
  | throw e => exact hp.elim
  | call c k ih => exact fun r => ih (some r) (hp r)

theorem Steady.embed {C' : Type} {R' : C' → Type} {ε' : Type} {p : Prog C R ε α} (f : C → C')
    (reply : ∀ c, R' (f c) → R c) (fault : ε → ε') (hp : p.Steady) : (p.embed f reply fault).Steady := by
  induction p with
  | pure a => trivial
  | throw e => exact hp.elim
  | call c k ih => exact fun r => ih (some (reply c r)) (hp (reply c r))

theorem Steady.both {p q : Prog C R ε Unit} (hp : p.Steady) (hq : q.Steady) : (p.both q).Steady := by
  induction p generalizing q with
  | pure a => cases q <;> exact hq
  | throw e => exact hp.elim
  | call c k ih =>
    cases q with
    | pure b => exact hp
    | throw e => exact hq.elim
    | call d l => exact fun r s => ih (some r) (hp r) (hq s)

/-! ## What a program's own calls guarantee -/

/-- Started after its own calls `h` (newest first), the program makes each
call `c` only with `S h' c` for its calls `h'` so far, and ends with `Q`,
whatever is replied. -/
def Obeys (S : List (Call C R) → C → Prop) (Q : Except ε α → List (Call C R) → Prop)
    (h : List (Call C R)) : Prog C R ε α → Prop
  | pure a => Q (.ok a) h
  | throw e => Q (.error e) h
  | call c k => S h c ∧ ∀ r, (k r).Obeys S Q (⟨c, r⟩ :: h)

section
variable {S : List (Call C R) → C → Prop} {h : List (Call C R)}

theorem Obeys.mono {Q Q' : Except ε α → List (Call C R) → Prop} {p : Prog C R ε α}
    (hp : p.Obeys S Q h) (hQ : ∀ o h', h <:+ h' → Q o h' → Q' o h') : p.Obeys S Q' h := by
  induction p generalizing h with
  | pure a => exact hQ _ h (List.suffix_refl h) hp
  | throw e => exact hQ _ h (List.suffix_refl h) hp
  | call c k ih =>
    refine ⟨hp.1, fun r => ih r (hp.2 r) fun o h' hsuf => hQ o h' ?_⟩
    exact (List.suffix_cons _ h).trans hsuf

/-- Another guard, which the first implies. -/
theorem Obeys.weaken {S' : List (Call C R) → C → Prop} {Q : Except ε α → List (Call C R) → Prop}
    {p : Prog C R ε α} (hp : p.Obeys S Q h) (hS : ∀ h' c, S h' c → S' h' c) : p.Obeys S' Q h := by
  induction p generalizing h with
  | pure a => exact hp
  | throw e => exact hp
  | call c k ih => exact ⟨hS h c hp.1, fun r => ih r (hp.2 r)⟩

/-- Two guards at once. -/
theorem Obeys.guards {S' : List (Call C R) → C → Prop} {Q : Except ε α → List (Call C R) → Prop}
    {p : Prog C R ε α} (hp : p.Obeys S Q h) (hp' : p.Obeys S' (fun _ _ => True) h) :
    p.Obeys (fun h' c => S h' c ∧ S' h' c) Q h := by
  induction p generalizing h with
  | pure a => exact hp
  | throw e => exact hp
  | call c k ih => exact ⟨⟨hp.1, hp'.1⟩, fun r => ih r (hp.2 r) (hp'.2 r)⟩

theorem Obeys.any (p : Prog C R ε α) : p.Obeys (fun _ _ => True) (fun _ _ => True) h := by
  induction p generalizing h with
  | pure a => trivial
  | throw e => trivial
  | call c k ih => exact ⟨trivial, fun r => ih r⟩

theorem Obeys.and {Q Q' : Except ε α → List (Call C R) → Prop} {p : Prog C R ε α}
    (hp : p.Obeys S Q h) (hp' : p.Obeys S Q' h) : p.Obeys S (fun o h' => Q o h' ∧ Q' o h') h := by
  induction p generalizing h with
  | pure a => exact ⟨hp, hp'⟩
  | throw e => exact ⟨hp, hp'⟩
  | call c k ih => exact ⟨hp.1, fun r => ih r (hp.2 r) (hp'.2 r)⟩

theorem Obeys.bind {Q : Except ε β → List (Call C R) → Prop}
    {p : Prog C R ε α} {f : α → Prog C R ε β}
    (hp : p.Obeys S (fun o h' => match o with
      | .ok a => (f a).Obeys S Q h'
      | .error e => Q (.error e) h') h) : (p.bind f).Obeys S Q h := by
  induction p generalizing h with
  | pure a => exact hp
  | throw e => exact hp
  | call c k ih => exact ⟨hp.1, fun r => ih r (hp.2 r)⟩

theorem Obeys.attempt {Q : Except ε (Except ε α) → List (Call C R) → Prop} {p : Prog C R ε α}
    (hp : p.Obeys S (fun o h' => Q (.ok o) h') h) : p.attempt.Obeys S Q h := by
  induction p generalizing h with
  | pure a => exact hp
  | throw e => exact hp
  | call c k ih => exact ⟨hp.1, fun r => ih r (hp.2 r)⟩

theorem Obeys.perform {c : C} {Q : Except ε (R c) → List (Call C R) → Prop} {fault : ε} (hS : S h c)
    (hok : ∀ r, Q (.ok r) (⟨c, some r⟩ :: h)) (hfault : Q (.error fault) (⟨c, none⟩ :: h)) :
    (Prog.perform fault c).Obeys S Q h := by
  refine ⟨hS, fun r => ?_⟩
  cases r with
  | none => exact hfault
  | some r => exact hok r

/-- A call, then the rest. -/
theorem Obeys.perform_bind {c : C} {Q : Except ε β → List (Call C R) → Prop} {fault : ε}
    {f : R c → Prog C R ε β} (hS : S h c) (hok : ∀ r, (f r).Obeys S Q (⟨c, some r⟩ :: h))
    (hfault : Q (.error fault) (⟨c, none⟩ :: h)) : ((Prog.perform fault c).bind f).Obeys S Q h :=
  Obeys.bind (Obeys.perform hS hok hfault)

/-- One call, whatever form its program has. -/
theorem Obeys.step {c : C} {Q : Except ε α → List (Call C R) → Prop} {k : Option (R c) → Prog C R ε α}
    (hS : S h c) (hk : ∀ r, (k r).Obeys S Q (⟨c, r⟩ :: h)) : (Prog.call c k).Obeys S Q h := ⟨hS, hk⟩

/-- A sequence whose second part is safe after any first part. -/
theorem Obeys.andThen {Q : Except ε β → List (Call C R) → Prop} {p : Prog C R ε α}
    {f : α → Prog C R ε β} (hp : p.Obeys S (fun _ _ => True) h) (hf : ∀ a h', (f a).Obeys S Q h')
    (hQ : ∀ e h', Q (.error e) h') : (p.bind f).Obeys S Q h := by
  refine Obeys.bind (hp.mono fun o h' _ _ => ?_)
  cases o with
  | ok a => exact hf a h'
  | error e => exact hQ e h'

/-- A program all of whose commands are free to make. -/
theorem Issues.obeys {A : C → Prop} {p : Prog C R ε α} (hp : p.Issues A)
    (hA : ∀ h' c, A c → S h' c) :
    p.Obeys S (fun _ h' => ∃ new, h' = new ++ h ∧ ∀ e ∈ new, A e.cmd) h := by
  induction p generalizing h with
  | pure a => exact ⟨[], rfl, by simp⟩
  | throw e => exact ⟨[], rfl, by simp⟩
  | call c k ih =>
    refine ⟨hA h c hp.1, fun r => (ih r (hp.2 r)).mono ?_⟩
    rintro o h' - ⟨new, rfl, hnew⟩
    refine ⟨new ++ [⟨c, r⟩], by simp, fun e he => ?_⟩
    rcases List.mem_append.1 he with he | he
    · exact hnew e he
    · exact List.mem_singleton.1 he ▸ hp.1

/-- All the commands of a program, and of its calls before, are in `A`. -/
theorem Issues.obeys_all {A : C → Prop} {p : Prog C R ε α} (hp : p.Issues A) (hh : ∀ e ∈ h, A e.cmd) :
    p.Obeys (fun h' c => A c ∧ ∀ e ∈ h', A e.cmd) (fun _ _ => True) h := by
  induction p generalizing h with
  | pure a => trivial
  | throw e => trivial
  | call c k ih => exact ⟨⟨hp.1, hh⟩, fun r => ih r (hp.2 r) (List.forall_mem_cons.2 ⟨hp.1, hh⟩)⟩

/-- A steady program that throws has seen a call fail. -/
theorem Steady.obeys {p : Prog C R ε α} (hp : p.Steady) : p.Obeys (fun _ _ => True)
    (fun o h' => h <:+ h' ∧ ∀ e, o = .error e → ∃ c ∈ h', c.reply = none) h := by
  have key : ∀ {p : Prog C R ε α} {h h' : List (Call C R)}, h <:+ h' →
      (p.Steady ∨ ∃ c ∈ h', c.reply = none) → p.Obeys (fun _ _ => True)
        (fun o h' => h <:+ h' ∧ ∀ e, o = .error e → ∃ c ∈ h', c.reply = none) h' := by
    intro p
    induction p with
    | pure a => exact fun hsuf _ => ⟨hsuf, by simp⟩
    | throw e => exact fun hsuf hfail => ⟨hsuf, fun _ _ => hfail.resolve_left id⟩
    | call c k ih =>
      intro h h' hsuf hp
      refine ⟨trivial, fun r => ih r (hsuf.trans (List.suffix_cons ..)) ?_⟩
      rcases hp with hp | ⟨c', hmem, hnone⟩
      · cases r with
        | none => exact .inr ⟨_, List.mem_cons_self .., rfl⟩
        | some r => exact .inl (hp r)
      · exact .inr ⟨c', List.mem_cons_of_mem _ hmem, hnone⟩
  exact key (List.suffix_refl h) (.inl hp)

/-- What a cleanup is made of is free to make, so only the body counts. -/
theorem Obeys.ensuring {A : C → Prop} {Q : Except ε α → List (Call C R) → Prop}
    {p : Prog C R ε α} {cleanup : Prog C R ε Unit} (hc : cleanup.Issues A)
    (hA : ∀ h' c, A c → S h' c)
    (hp : p.Obeys S (fun o h' => ∀ new, (∀ e ∈ new, A e.cmd) →
      Q o (new ++ h') ∧ ∀ e, Q (.error e) (new ++ h')) h) :
    (p.ensuring cleanup).Obeys S Q h := by
  refine Obeys.bind (Obeys.attempt (hp.mono fun o h' _ hQ => ?_))
  refine Obeys.bind ((hc.obeys hA).mono fun o' h'' _ hnew => ?_)
  obtain ⟨new, rfl, hnew⟩ := hnew
  cases o' with
  | error e => exact (hQ new hnew).2 e
  | ok _ => cases o <;> exact (hQ new hnew).1

end

/-- A call as the embedding makes it; `back` gives its reply the other type. -/
def embedCall {C' : Type} {R' : C' → Type} (f : C → C') (back : ∀ c, R c → R' (f c)) (e : Call C R) :
    Call C' R' := ⟨f e.cmd, e.reply.map (back e.cmd)⟩

/-- An embedded program obeys what it obeys over its own services. -/
theorem Obeys.embed {C' : Type} {R' : C' → Type} {ε' : Type} {S : List (Call C' R') → C' → Prop}
    {Q : Except ε' α → List (Call C' R') → Prop} (f : C → C') (reply : ∀ c, R' (f c) → R c)
    (fault : ε → ε') (back : ∀ c, R c → R' (f c)) (hback : ∀ c r, back c (reply c r) = r)
    {p : Prog C R ε α} {h : List (Call C R)} {h' : List (Call C' R')}
    (hp : p.Obeys (fun h c => S (h.map (embedCall f back) ++ h') (f c))
      (fun o h => Q (o.mapError fault) (h.map (embedCall f back) ++ h')) h) :
    (p.embed f reply fault).Obeys S Q (h.map (embedCall f back) ++ h') := by
  induction p generalizing h with
  | pure a => exact hp
  | throw e => exact hp
  | call c k ih =>
    refine ⟨hp.1, fun r => ?_⟩
    have hcall : embedCall f back ⟨c, r.map (reply c)⟩ = ⟨f c, r⟩ := by
      cases r <;> simp [embedCall, hback]
    have hrest := ih (r.map (reply c)) (hp.2 (r.map (reply c)))
    rw [List.map_cons, hcall] at hrest
    exact hrest

/-! ## Running alone -/

section
variable {σ : Type} (act : (c : C) → σ → R c × σ)

/-- Runs the program with no one else at the services and no fault. -/
def alone : Prog C R ε α → σ → Except ε α × σ
  | pure a, s => (.ok a, s)
  | throw e, s => (.error e, s)
  | call c k, s => (k (some (act c s).1)).alone (act c s).2

/-- From here the program, run alone, ends in `Q`. -/
def wp (Q : Except ε α → σ → Prop) : Prog C R ε α → σ → Prop
  | pure a, s => Q (.ok a) s
  | throw e, s => Q (.error e) s
  | call c k, s => (k (some (act c s).1)).wp Q (act c s).2

variable {act}

theorem wp_iff {Q : Except ε α → σ → Prop} {p : Prog C R ε α} {s : σ} :
    p.wp act Q s ↔ Q (p.alone act s).1 (p.alone act s).2 := by
  induction p generalizing s with
  | pure a => rfl
  | throw e => rfl
  | call c k ih => exact ih _

theorem wp_bind {Q : Except ε β → σ → Prop} {p : Prog C R ε α} {f : α → Prog C R ε β} {s : σ} :
    (p.bind f).wp act Q s ↔ p.wp act (fun o s' => match o with
      | .ok a => (f a).wp act Q s'
      | .error e => Q (.error e) s') s := by
  induction p generalizing s with
  | pure a => rfl
  | throw e => rfl
  | call c k ih => exact ih _

theorem wp_mono {Q Q' : Except ε α → σ → Prop} {p : Prog C R ε α} {s : σ}
    (hp : p.wp act Q s) (hQ : ∀ o s', Q o s' → Q' o s') : p.wp act Q' s := by
  rw [wp_iff] at hp ⊢
  exact hQ _ _ hp

theorem wp_and {Q Q' : Except ε α → σ → Prop} {p : Prog C R ε α} {s : σ} (hp : p.wp act Q s)
    (hp' : p.wp act Q' s) : p.wp act (fun o s' => Q o s' ∧ Q' o s') s :=
  wp_iff.2 ⟨wp_iff.1 hp, wp_iff.1 hp'⟩

theorem wp_attempt {Q : Except ε (Except ε α) → σ → Prop} {p : Prog C R ε α} {s : σ} :
    p.attempt.wp act Q s ↔ p.wp act (fun o s' => Q (.ok o) s') s := by
  induction p generalizing s with
  | pure a => rfl
  | throw e => rfl
  | call c k ih => exact ih _

/-- A cleanup runs whatever the body's outcome, and its own fault wins. -/
theorem wp_ensuring {Q : Except ε α → σ → Prop} {p : Prog C R ε α} {cleanup : Prog C R ε Unit}
    {s : σ} (hp : p.wp act (fun o s' => cleanup.wp act (fun o' s'' => Q (o'.bind fun _ => o) s'') s') s) :
    (p.ensuring cleanup).wp act Q s := by
  refine wp_bind.2 (wp_attempt.2 (wp_mono hp fun o s' hc => ?_))
  refine wp_bind.2 (wp_mono hc fun o' s'' hQ => ?_)
  cases o' with
  | error e => exact hQ
  | ok _ => cases o <;> exact hQ

/-- What is kept along with what the program's calls guarantee. -/
theorem Obeys.wp {S : List (Call C R) → C → Prop} {J : List (Call C R) → σ → Prop}
    {p : Prog C R ε α} {h : List (Call C R)} {s : σ} (hp : p.Obeys S (fun _ _ => True) h)
    (hstep : ∀ h c s, S h c → J h s → J (⟨c, some (act c s).1⟩ :: h) (act c s).2) (hs : J h s) :
    p.wp act (fun _ s' => ∃ h', J h' s') s := by
  induction p generalizing h s with
  | pure a => exact ⟨h, hs⟩
  | throw e => exact ⟨h, hs⟩
  | call c k ih => exact ih _ (hp.2 _) (hstep h c s hp.1 hs)

/-- What every command of a program keeps, the program keeps. -/
theorem Issues.wp {A : C → Prop} {I : σ → Prop} {p : Prog C R ε α} {s : σ} (hp : p.Issues A)
    (hA : ∀ c s, A c → I s → I (act c s).2) (hs : I s) : p.wp act (fun _ s' => I s') s := by
  induction p generalizing s with
  | pure a => exact hs
  | throw e => exact hs
  | call c k ih => exact ih _ (hp.2 _) (hA c s hp.1 hs)

end

end Prog

end Calls
