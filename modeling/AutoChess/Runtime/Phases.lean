/-
How the stored phase and round move. The only writers of `phase` and `round`
are the four transitions of `phase_flip.lua` that a request may ask for and
the knockout; all of them move a match forward (`stage`), and a lapsed key
never comes back with a phase to flip.
-/
import AutoChess.Runtime.Guards
import Mathlib.Order.WithBot

namespace AutoChess.Runtime

open AutoChess.Game AutoChess.Shop Calls Expiring

abbrev RuntimeEvent := Event Store Request Cmd Resp

/-- What is known of the log and store of a run of the match. -/
abbrev Run (matchId : String) (host : Host) (init : Store) (log : List RuntimeEvent) (s : Store) : Prop :=
  Chronicle (pool matchId host) (Guard matchId) init log s

/-! ## What a command writes to the hash -/

@[simp] theorem hash_hset (s : Store) (fields : List FieldWrite) :
    (s.hset fields).hash = s.hash.hset fields := by
  simp [Store.hset, Store.hash]

@[simp] theorem hset_nil (h : RuntimeHash) : h.hset [] = h := rfl

theorem hset_cons (h : RuntimeHash) (f : FieldWrite) (fields : List FieldWrite) :
    h.hset (f :: fields) = (h.write f).hset fields := rfl

section
variable (h : RuntimeHash) (f : FieldWrite)

@[simp] theorem write_phase : (h.write f).phase = match f with | .phase v => some v | _ => h.phase := by
  cases f <;> rfl

@[simp] theorem write_round : (h.write f).round = match f with | .round v => some v | _ => h.round := by
  cases f <;> rfl

@[simp] theorem write_p1State :
    (h.write f).p1State = match f with | .p1State v => v | _ => h.p1State := by cases f <;> rfl

@[simp] theorem write_p2State :
    (h.write f).p2State = match f with | .p2State v => v | _ => h.p2State := by cases f <;> rfl

@[simp] theorem write_readyP1 :
    (h.write f).readyP1 = match f with | .readyP1 v => v | _ => h.readyP1 := by cases f <;> rfl

@[simp] theorem write_readyP2 :
    (h.write f).readyP2 = match f with | .readyP2 v => v | _ => h.readyP2 := by cases f <;> rfl

@[simp] theorem write_wipeIndexP1 :
    (h.write f).wipeIndexP1 = match f with | .wipeIndexP1 v => v | _ => h.wipeIndexP1 := by
  cases f <;> rfl

@[simp] theorem write_wipeIndexP2 :
    (h.write f).wipeIndexP2 = match f with | .wipeIndexP2 v => v | _ => h.wipeIndexP2 := by
  cases f <;> rfl

@[simp] theorem write_combatRound :
    (h.write f).combatRound = match f with | .combatRound v => v | _ => h.combatRound := by
  cases f <;> rfl

end

/-- The fields of the runtime hash a command writes. -/
def written : Cmd → Store → List FieldWrite
  | .hset fields, _ => fields
  | .phaseFlip expectedPhase newPhase round next, s =>
    if (evalPhaseFlip expectedPhase newPhase round next s).1 then flipFields newPhase next else []
  | .actionLog userId id field shop phase round, s =>
    if (evalActionLog userId id field shop phase round s).1 = .recorded then [field] else []
  | _, _ => []

theorem evalPhaseFlip_iff {expectedPhase newPhase : MatchPhase} {round : Nat} {next : Option Nat}
    {s : Store} : (evalPhaseFlip expectedPhase newPhase round next s).1 = true ↔
      s.hash.phase = some expectedPhase ∧ s.hash.round = some round := by
  unfold evalPhaseFlip
  split
  · next h => simp [h]
  · next h =>
    split
    · next h' => simp [h']
    · next h' => simp [not_not.1 h, not_not.1 h']

theorem evalActionLog_recorded {userId id : String} {field : FieldWrite}
    {shop : Option (StoredShop × Nat)} {phase : MatchPhase} {round : Nat} {s : Store}
    (h : (evalActionLog userId id field shop phase round s).1 = .recorded) :
    s.hash.phase = some phase ∧ s.hash.round = some round ∧
      (evalActionLog userId id field shop phase round s).2.hash = s.hash.hset [field] := by
  simp only [evalActionLog] at h ⊢
  split at h
  · cases h
  next hid =>
  split at h
  · cases h
  next hround =>
  split at h
  · cases h
  next hphase =>
  refine ⟨not_not.1 hphase, not_not.1 hround, ?_⟩
  rw [if_neg hid, if_neg hround, if_neg hphase]
  cases shop <;> exact hash_hset _ _

theorem evalActionLog_refused {userId id : String} {field : FieldWrite}
    {shop : Option (StoredShop × Nat)} {phase : MatchPhase} {round : Nat} {s : Store}
    (h : (evalActionLog userId id field shop phase round s).1 ≠ .recorded) :
    (evalActionLog userId id field shop phase round s).2 = s := by
  simp only [evalActionLog] at h ⊢
  split
  · rfl
  next hid =>
  split
  · rfl
  next hround =>
  split
  · rfl
  next hphase =>
  rw [if_neg hid, if_neg hround, if_neg hphase] at h
  cases shop <;> exact absurd rfl h

/-- **Every command writes its `written` fields to the hash, and no other.** -/
theorem act_hash (host : Host) (c : Cmd) (s : Store) :
    (act host c s).2.hash = s.hash.hset (written c s) := by
  cases c with
  | hset fields => exact hash_hset s fields
  | phaseFlip expectedPhase newPhase round next =>
    simp only [act, written, evalPhaseFlip]
    split
    · rfl
    · split
      · rfl
      · exact hash_hset _ _
  | actionLog userId id field shop phase round =>
    simp only [act, written]
    split
    · next h => exact (evalActionLog_recorded h).2.2
    · next h => rw [evalActionLog_refused h]; rfl
  | expireRuntime seconds => simp [act, written, Store.hash]
  | setLock lock owner ttlMs =>
    simp only [act, setLock, written]
    split <;> rfl
  | releaseOwnedLock lock owner =>
    simp only [act, releaseOwnedLock, written]
    split <;> rfl
  | combatDone userId =>
    simp only [act, evalCombatDone, written]
    split <;> rfl
  | schedule job delayMs =>
    simp only [act, schedule, written]
    split <;> rfl
  | updateState side state => cases side <;> rfl
  | finalizeRow winnerId reason =>
    simp only [act, finalizeRow, written]
    split
    · rfl
    · split
      · rfl
      · split
        · rfl
        · split <;> rfl
  | _ => rfl

/-- A command on the combat result or the ack hash, other than a read or an
ack. -/
def Cmd.onCombatKeys : Cmd → Bool
  | .delCombatKeys | .writeCombatResult _ _ => true
  | _ => false

/-- An ack, or the reset of the acks. -/
def Cmd.onAcks : Cmd → Bool
  | .combatDone _ | .delCombatKeys => true
  | _ => false

def Cmd.isCommit : Cmd → Bool
  | .actionLog _ _ _ _ _ _ => true
  | _ => false

def Cmd.onShops : Cmd → Bool
  | .actionLog _ _ _ _ _ _ | .setShop _ _ _ => true
  | _ => false

/-- What a command leaves alone, besides the hash: no command stops the clock
or takes a UUID back, and each other key is changed by the commands on it
only. -/
structure Frame (c : Cmd) (s s' : Store) : Prop where
  now : s'.now = s.now
  drawn : s.drawn ≤ s'.drawn
  combatResult : c.onCombatKeys = false → s'.combatResult = s.combatResult
  combatDone : c.onAcks = false → s'.combatDone = s.combatDone
  actionLog : c.isCommit = false → s'.actionLog = s.actionLog
  shops : c.onShops = false → s'.shops = s.shops

theorem Frame.of_eq {c : Cmd} {s s' : Store} (h1 : s'.now = s.now) (h2 : s'.drawn = s.drawn)
    (h3 : s'.combatResult = s.combatResult) (h4 : s'.combatDone = s.combatDone)
    (h5 : s'.actionLog = s.actionLog) (h6 : s'.shops = s.shops) : Frame c s s' :=
  ⟨h1, h2.ge, fun _ => h3, fun _ => h4, fun _ => h5, fun _ => h6⟩

theorem Frame.refl (c : Cmd) (s : Store) : Frame c s s := .of_eq rfl rfl rfl rfl rfl rfl

theorem act_frame (host : Host) (c : Cmd) (s : Store) : Frame c s (act host c s).2 := by
  cases c with
  | phaseFlip expectedPhase newPhase round next =>
    simp only [act, evalPhaseFlip]
    split
    · exact .refl _ _
    · split <;> exact .of_eq rfl rfl rfl rfl rfl rfl
  | actionLog userId id field shop phase round =>
    rcases Classical.em ((evalActionLog userId id field shop phase round s).1 = .recorded) with h | h
    · simp only [act, evalActionLog] at h ⊢
      split at h
      · cases h
      next hid =>
      split at h
      · cases h
      next hround =>
      split at h
      · cases h
      next hphase =>
      rw [if_neg hid, if_neg hround, if_neg hphase]
      cases shop <;> exact ⟨rfl, le_rfl, fun _ => rfl, fun _ => rfl, nofun, nofun⟩
    · exact (evalActionLog_refused h).symm ▸ .refl _ _
  | setLock lock owner ttlMs =>
    simp only [act, setLock]
    split <;> exact .of_eq rfl rfl rfl rfl rfl rfl
  | releaseOwnedLock lock owner =>
    simp only [act, releaseOwnedLock]
    split <;> exact .of_eq rfl rfl rfl rfl rfl rfl
  | combatDone userId =>
    simp only [act, evalCombatDone]
    split
    · exact .refl _ _
    · exact ⟨rfl, le_rfl, fun _ => rfl, nofun, fun _ => rfl, fun _ => rfl⟩
  | schedule job delayMs =>
    simp only [act, schedule]
    split <;> exact .of_eq rfl rfl rfl rfl rfl rfl
  | updateState side state => cases side <;> exact .of_eq rfl rfl rfl rfl rfl rfl
  | finalizeRow winnerId reason =>
    simp only [act, finalizeRow]
    split
    · exact .refl _ _
    · split
      · exact .of_eq rfl rfl rfl rfl rfl rfl
      · split
        · exact .refl _ _
        · split
          · exact .of_eq rfl rfl rfl rfl rfl rfl
          · exact .refl _ _
  | randomUUID => exact ⟨rfl, Nat.le_succ _, fun _ => rfl, fun _ => rfl, fun _ => rfl, fun _ => rfl⟩
  | delCombatKeys => exact ⟨rfl, le_rfl, nofun, nofun, fun _ => rfl, fun _ => rfl⟩
  | writeCombatResult events ttl => exact ⟨rfl, le_rfl, nofun, fun _ => rfl, fun _ => rfl, fun _ => rfl⟩
  | setShop userId shop ttl => exact ⟨rfl, le_rfl, fun _ => rfl, fun _ => rfl, fun _ => rfl, nofun⟩
  | _ => exact .of_eq rfl rfl rfl rfl rfl rfl

/-- Time leaves the hash or takes it away. -/
theorem hash_elapse (ms : Nat) (s : Store) :
    ({ s with now := s.now + ms } : Store).hash = s.hash ∨
      ({ s with now := s.now + ms } : Store).hash = {} := by
  rcases Key.get_later (Nat.le_add_right s.now ms) s.runtime with h | h
  · exact .inl (by simp only [Store.hash, h])
  · exact .inr (by simp only [Store.hash, h]; rfl)

section
variable {matchId : String} {host : Host}

theorem does_hash {e : RuntimeEvent} (h : (pool matchId host).Does e) :
    e.after.hash = e.before.hash ∨ e.after.hash = e.before.hash.hset (written e.cmd e.before) := by
  rcases h.after_eq with h | h
  · exact .inl (by rw [h])
  · exact .inr (by rw [h]; exact act_hash host _ _)

/-! ## Steps of the phase -/

/-- How one call moves the stored phase and round. -/
inductive PhaseStep (h h' : RuntimeHash) : Prop where
  | same (phase : h'.phase = h.phase) (round : h'.round = h.round)
  | start {r : Nat} (was : h.phase = some .shop_place ∧ h.round = some r)
      (now : h'.phase = some .battle ∧ h'.round = some r)
  | resolve {r : Nat} (was : h.phase = some .battle ∧ h.round = some r)
      (now : h'.phase = some .resolved ∧ h'.round = some r)
  | advance {r : Nat} (was : h.phase = some .resolved ∧ h.round = some r)
      (now : h'.phase = some .shop_place ∧ h'.round = some (r + 1))
  | finish (phase : h'.phase = some .finished) (round : h'.round = h.round)

theorem stateField_keeps (h : RuntimeHash) (side : Side) (state : RuntimePlayerState) :
    (h.hset [stateField side state]).phase = h.phase ∧
      (h.hset [stateField side state]).round = h.round := by
  cases side <;> exact ⟨rfl, rfl⟩

theorem readyField_keeps (h : RuntimeHash) (side : Side) (ready : Bool) :
    (h.hset [readyField side ready]).phase = h.phase ∧
      (h.hset [readyField side ready]).round = h.round := by
  cases side <;> exact ⟨rfl, rfl⟩

theorem resultFields_keeps (h : RuntimeHash) (round : Nat) (damage : Damage)
    (p1 p2 : RuntimePlayerState) :
    (h.hset (resultFields round damage p1 p2)).phase = h.phase ∧
      (h.hset (resultFields round damage p1 p2)).round = h.round := by
  simp [resultFields, hset_cons]

theorem knockoutFields_keeps (h : RuntimeHash) (damage : Damage) (p1 p2 : RuntimePlayerState) :
    (h.hset (knockoutFields damage p1 p2)).phase = some .finished ∧
      (h.hset (knockoutFields damage p1 p2)).round = h.round := by
  simp [knockoutFields, hset_cons]

theorem FlipGuard.phaseStep {q : Request} {h : History} {expectedPhase newPhase : MatchPhase}
    {round : Nat} {next : Option Nat} (hg : FlipGuard matchId q h expectedPhase newPhase round next)
    {hash : RuntimeHash} (hat : hash.phase = some expectedPhase ∧ hash.round = some round) :
    PhaseStep hash (hash.hset (flipFields newPhase next)) := by
  cases hg with
  | start _ => exact .start hat ⟨rfl, hat.2⟩
  | resolve _ _ _ _ _ _ => exact .resolve hat ⟨rfl, hat.2⟩
  | advance _ _ _ => exact .advance hat ⟨rfl, rfl⟩
  | finish _ => exact .finish rfl rfl

theorem WriteGuard.phaseStep {q : Request} {h : History} {fields : List FieldWrite}
    (hg : WriteGuard matchId q h fields) (hash : RuntimeHash) :
    PhaseStep hash (hash.hset fields) := by
  cases hg with
  | roundReady _ _ _ _ => exact .same (readyField_keeps ..).1 (readyField_keeps ..).2
  | markReady _ => exact .same (readyField_keeps ..).1 (readyField_keeps ..).2
  | result _ _ _ _ => exact .same (resultFields_keeps ..).1 (resultFields_keeps ..).2
  | knockout _ _ _ _ => exact .finish (knockoutFields_keeps ..).1 (knockoutFields_keeps ..).2
  | names => exact .same rfl rfl
  | fought _ _ _ => exact .same rfl rfl
  | reset _ _ => exact .same rfl rfl

theorem LogGuard.phaseStep {q : Request} {field : FieldWrite} {phase : MatchPhase}
    (hg : LogGuard q field phase) (hash : RuntimeHash) : PhaseStep hash (hash.hset [field]) := by
  cases hg with
  | state _ => exact .same (stateField_keeps ..).1 (stateField_keeps ..).2
  | ready _ => exact .same (readyField_keeps ..).1 (readyField_keeps ..).2

theorem Guard.phaseStep {q : Request} {h : History} {c : Cmd} (hg : Guard matchId q h c) (s : Store) :
    PhaseStep s.hash (s.hash.hset (written c s)) := by
  cases c with
  | hset fields => exact WriteGuard.phaseStep hg _
  | phaseFlip expectedPhase newPhase round next =>
    simp only [written]
    split
    · next hflip => exact FlipGuard.phaseStep hg (evalPhaseFlip_iff.1 hflip)
    · exact .same rfl rfl
  | actionLog userId id field shop phase round =>
    simp only [written]
    split
    · exact LogGuard.phaseStep hg _
    · exact .same rfl rfl
  | _ => exact .same rfl rfl

/-- **A guarded call moves the phase along one of the transitions, if at all.** -/
theorem guarded_phaseStep {e : RuntimeEvent} {h : History} (hg : Guard matchId e.request h e.cmd)
    (hdo : (pool matchId host).Does e) : PhaseStep e.before.hash e.after.hash := by
  rcases does_hash hdo with heq | heq
  · exact .same (by rw [heq]) (by rw [heq])
  · rw [heq]
    exact Guard.phaseStep hg e.before

/-! ## Stages -/

/-- How far a match is: its round and phase, or over. -/
def stage (h : RuntimeHash) : WithTop Nat :=
  match h.phase, h.round with
  | some .shop_place, some r => .some (3 * r)
  | some .battle, some r => .some (3 * r + 1)
  | some .resolved, some r => .some (3 * r + 2)
  | _, _ => ⊤

theorem stage_of_phase {h h' : RuntimeHash} (hp : h'.phase = h.phase) (hr : h'.round = h.round) :
    stage h' = stage h := by
  rw [stage, stage, hp, hr]

theorem stage_shop {h : RuntimeHash} {r : Nat} (hat : h.phase = some .shop_place ∧ h.round = some r) :
    stage h = .some (3 * r) := by rw [stage, hat.1, hat.2]

theorem stage_battle {h : RuntimeHash} {r : Nat} (hat : h.phase = some .battle ∧ h.round = some r) :
    stage h = .some (3 * r + 1) := by rw [stage, hat.1, hat.2]

theorem stage_resolved {h : RuntimeHash} {r : Nat}
    (hat : h.phase = some .resolved ∧ h.round = some r) : stage h = .some (3 * r + 2) := by
  rw [stage, hat.1, hat.2]

theorem stage_finished {h : RuntimeHash} (hp : h.phase = some .finished) : stage h = ⊤ := by
  rw [stage, hp]

theorem PhaseStep.stage_le {h h' : RuntimeHash} (hs : PhaseStep h h') : stage h ≤ stage h' := by
  cases hs with
  | same hp hr => rw [stage_of_phase hp hr]
  | start ha ht => rw [stage_shop ha, stage_battle ht]; exact WithTop.coe_le_coe.2 (by omega)
  | resolve ha ht => rw [stage_battle ha, stage_resolved ht]; exact WithTop.coe_le_coe.2 (by omega)
  | advance ha ht => rw [stage_resolved ha, stage_shop ht]; exact WithTop.coe_le_coe.2 (by omega)
  | finish hp _ => rw [stage_finished hp]; exact le_top

/-- The stage tells phase and round, short of the end. -/
theorem stage_eq_coe {h : RuntimeHash} {n : Nat} (hs : stage h = .some n) :
    ∃ p r, h.phase = some p ∧ h.round = some r := by
  unfold stage at hs
  cases hp : h.phase <;> cases hr : h.round <;> simp_all

/-- An event's effect is to take the match from one phase to another. -/
def Enters (old new : MatchPhase) (round : Nat) (e : RuntimeEvent) : Prop :=
  e.before.hash.phase = some old ∧ e.before.hash.round = some round ∧ e.after.hash.phase = some new

instance (old new : MatchPhase) (round : Nat) (e : RuntimeEvent) :
    Decidable (Enters old new round e) :=
  inferInstanceAs (Decidable (_ ∧ _ ∧ _))

variable {init : Store} {log newer older : List RuntimeEvent} {e : RuntimeEvent} {s : Store}

theorem stage_elapse (ms : Nat) (s : Store) :
    stage s.hash ≤ stage ((pool matchId host).env ms s).hash := by
  rcases hash_elapse ms s with h | h
  · exact le_of_eq (congrArg stage h.symm)
  · exact le_of_le_of_eq le_top (congrArg stage h).symm

/-- Every call of a run keeps the phase moving forward. -/
theorem Run.phaseStep (h : Run matchId host init (newer ++ e :: older) s) :
    PhaseStep e.before.hash e.after.hash :=
  guarded_phaseStep h.of_split.2.1 h.of_split.2.2

theorem Run.stage_since (h : Run matchId host init (newer ++ e :: older) s) :
    stage e.after.hash ≤ stage s.hash := by
  refine Chronicle.rel_since (r := fun s s' => stage s.hash ≤ stage s'.hash) (fun _ => le_rfl)
    (fun _ _ _ => le_trans) stage_elapse h fun newer' e' older' heq => ?_
  subst heq
  rw [List.append_assoc, List.cons_append] at h
  exact h.phaseStep.stage_le

theorem Run.stage_first (h : Run matchId host init log s) : stage init.hash ≤ stage s.hash := by
  refine Chronicle.rel_init (r := fun s s' => stage s.hash ≤ stage s'.hash) (fun _ => le_rfl)
    (fun _ _ _ => le_trans) stage_elapse h fun newer' e' older' heq => ?_
  subst heq
  exact h.phaseStep.stage_le

/-- Between two events of the log the match only moves forward. -/
theorem Run.stage_between (h : Run matchId host init (newer ++ e :: older) s) {e' : RuntimeEvent}
    (he' : e' ∈ older) : stage e'.after.hash ≤ stage e.before.hash := by
  obtain ⟨l₁, l₂, rfl⟩ := List.append_of_mem he'
  exact Run.stage_since h.of_split.1

/-- Two events that leave the same stage for a later one are one event. -/
theorem Run.enters_unique (h : Run matchId host init log s) {n : Nat} {e₁ e₂ : RuntimeEvent}
    (h₁ : e₁ ∈ log) (h₂ : e₂ ∈ log) (hb₁ : stage e₁.before.hash = .some n)
    (ha₁ : WithTop.some n < stage e₁.after.hash) (hb₂ : stage e₂.before.hash = .some n)
    (ha₂ : WithTop.some n < stage e₂.after.hash) : e₁ = e₂ := by
  obtain ⟨l₁, l₂, rfl⟩ := List.append_of_mem h₁
  rcases List.mem_append.1 h₂ with hmem | hmem
  · obtain ⟨l₃, l₄, rfl⟩ := List.append_of_mem hmem
    rw [List.append_assoc, List.cons_append] at h
    have := h.stage_between (List.mem_append_right l₄ (List.mem_cons_self ..) : e₁ ∈ _)
    exact absurd (lt_of_lt_of_le ha₁ this) (by rw [hb₂]; exact lt_irrefl _)
  · rcases List.mem_cons.1 hmem with rfl | hmem
    · rfl
    · have := h.stage_between hmem
      exact absurd (lt_of_lt_of_le ha₂ this) (by rw [hb₁]; exact lt_irrefl _)

theorem suffix_split : older <:+ newer ++ e :: older :=
  (List.suffix_cons _ _).trans (List.suffix_append _ _)

/-! ## Stages passed -/

theorem stage_battle_iff {h : RuntimeHash} {r : Nat} :
    stage h = .some (3 * r + 1) ↔ h.phase = some .battle ∧ h.round = some r := by
  refine ⟨fun hs => ?_, stage_battle⟩
  obtain ⟨p, r', hp, hr⟩ := stage_eq_coe hs
  rw [stage, hp, hr] at hs
  cases p with
  | finished => cases hs
  | shop_place => have := WithTop.coe_eq_coe.1 hs; omega
  | battle =>
    have := WithTop.coe_eq_coe.1 hs
    obtain rfl : r' = r := by omega
    exact ⟨hp, hr⟩
  | resolved => have := WithTop.coe_eq_coe.1 hs; omega

theorem stage_resolved_iff {h : RuntimeHash} {r : Nat} :
    stage h = .some (3 * r + 2) ↔ h.phase = some .resolved ∧ h.round = some r := by
  refine ⟨fun hs => ?_, stage_resolved⟩
  obtain ⟨p, r', hp, hr⟩ := stage_eq_coe hs
  rw [stage, hp, hr] at hs
  cases p with
  | finished => cases hs
  | shop_place => have := WithTop.coe_eq_coe.1 hs; omega
  | battle => have := WithTop.coe_eq_coe.1 hs; omega
  | resolved =>
    have := WithTop.coe_eq_coe.1 hs
    obtain rfl : r' = r := by omega
    exact ⟨hp, hr⟩

theorem stage_shop_iff {h : RuntimeHash} {r : Nat} :
    stage h = .some (3 * r) ↔ h.phase = some .shop_place ∧ h.round = some r := by
  refine ⟨fun hs => ?_, stage_shop⟩
  obtain ⟨p, r', hp, hr⟩ := stage_eq_coe hs
  rw [stage, hp, hr] at hs
  cases p with
  | finished => cases hs
  | battle => have := WithTop.coe_eq_coe.1 hs; omega
  | resolved => have := WithTop.coe_eq_coe.1 hs; omega
  | shop_place =>
    have := WithTop.coe_eq_coe.1 hs
    obtain rfl : r' = r := by omega
    exact ⟨hp, hr⟩

/-- A transition moves the stage by one, or ends the match. -/
theorem PhaseStep.stage_step {h h' : RuntimeHash} (hs : PhaseStep h h') :
    stage h' = stage h ∨ (∃ n : Nat, stage h = .some n ∧ stage h' = .some (n + 1)) ∨ stage h' = ⊤ := by
  cases hs with
  | same hp hr => exact .inl (stage_of_phase hp hr)
  | @start r hw hn => exact .inr (.inl ⟨3 * r, stage_shop hw, stage_battle hn⟩)
  | @resolve r hw hn => exact .inr (.inl ⟨3 * r + 1, stage_battle hw, stage_resolved hn⟩)
  | @advance r hw hn => exact .inr (.inl ⟨3 * r + 2, stage_resolved hw, stage_shop hn⟩)
  | finish hp _ => exact .inr (.inr (stage_finished hp))

/-- A match that is at a stage has passed every stage since its first. -/
theorem Run.passed (h : Run matchId host init log s) {first k n : Nat}
    (hinit : stage init.hash = .some first) (hs : stage s.hash = .some n) (hk : first ≤ k)
    (hkn : k < n) :
    ∃ e ∈ log, stage e.before.hash = .some k ∧ stage e.after.hash = .some (k + 1) := by
  induction h generalizing n with
  | start =>
    rw [hinit] at hs
    have := WithTop.coe_eq_coe.1 hs
    omega
  | @time log s ms hrun ih =>
    rcases hash_elapse ms s with heq | heq
    · exact ih ((congrArg stage heq).symm.trans hs) hkn
    · exact absurd ((congrArg stage heq).symm.trans hs) (WithTop.coe_ne_top.symm ·)
  | @call log e hrun hg hdo ih =>
    rcases (guarded_phaseStep hg hdo).stage_step with heq | ⟨m, hb, ha⟩ | htop
    · obtain ⟨e', he', h'⟩ := ih (heq ▸ hs) hkn
      exact ⟨e', List.mem_cons_of_mem _ he', h'⟩
    · have hm : m + 1 = n := WithTop.coe_eq_coe.1 (ha.symm.trans hs)
      rcases Nat.lt_or_ge k m with hlt | hge
      · obtain ⟨e', he', h'⟩ := ih hb hlt
        exact ⟨e', List.mem_cons_of_mem _ he', h'⟩
      · obtain rfl : k = m := by omega
        exact ⟨e, List.mem_cons_self .., hb, ha⟩
    · exact absurd (htop.symm.trans hs) (WithTop.coe_ne_top.symm ·)

end

end AutoChess.Runtime
