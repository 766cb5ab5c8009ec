/-
Who has acknowledged a battle when it is resolved. The stored acks are one
hash for the whole match, emptied when a battle starts, so an ack that is
stored late may be taken for one of a later battle.
-/
import AutoChess.Runtime.Battles
import AutoChess.Runtime.Bridge
import AutoChess.Runtime.Deeds
import AutoChess.Runtime.Results

namespace AutoChess.Runtime

open AutoChess.Game AutoChess.Shop Calls Expiring

/-- The player's `combat_done` of the round was received. -/
def Acknowledged (userId : String) (round : Nat) (log : List RuntimeEvent) : Prop :=
  ∃ e ∈ log, e.request = .action userId round .combatDone

/-- A battle is resolved by its timeout, or after both players acknowledged it. -/
def ResolvedWhenAcked (m : Match) (log : List RuntimeEvent) : Prop :=
  ∀ newer e older, log = newer ++ e :: older → ∀ round, Enters .battle .resolved round e →
    e.request ≠ .combatDoneTimeout round →
    Acknowledged m.player1Id round older ∧ Acknowledged m.player2Id round older

/-- The player `combat_done.lua` is called for. -/
def Cmd.acker : Cmd → Option String
  | .combatDone userId => some userId
  | _ => none

/-- An ack stored during a battle names it, and comes after the reset that the
battle starts with unless there is nothing to reset. -/
def AcksItsBattle (e : RuntimeEvent) : Prop :=
  ∀ userId ∈ e.cmd.acker, ∀ round ∈ e.before.hash.round, e.before.hash.phase = some .battle →
    e.request = .action userId round .combatDone ∧
      (e.before.combatDone.get e.before.now = none ∨ e.before.hash.combatRound = some round)

instance (e : RuntimeEvent) : Decidable (AcksItsBattle e) := inferInstanceAs (Decidable (∀ _ ∈ _, _))

/-- The players whose acks are stored. -/
def ackers (s : Store) : List String := (s.combatDone.get s.now).getD []

section
variable {matchId : String} {host : Host} {init s : Store} {log newer older : List RuntimeEvent}
  {e : RuntimeEvent}

/-! ## The stored acks -/

theorem ackers_elapse (ms : Nat) (s : Store) :
    ackers ((pool matchId host).env ms s) = ackers s ∨ ackers ((pool matchId host).env ms s) = [] := by
  rcases Key.get_later (Nat.le_add_right s.now ms) s.combatDone with heq | hgone
  · exact .inl (congrArg (Option.getD · []) heq)
  · exact .inr (congrArg (Option.getD · []) hgone)

theorem evalCombatDone_ackers (userId : String) (s : Store) :
    ackers (evalCombatDone userId s).2 = (if userId ∈ ackers s then ackers s else userId :: ackers s) ∧
      (evalCombatDone userId s).1 = (ackers (evalCombatDone userId s).2).length := by
  by_cases hmem : userId ∈ ackers s
  · have hsame : evalCombatDone userId s = ((ackers s).length, s) := if_pos hmem
    rw [hsame, if_pos hmem]
    exact ⟨rfl, rfl⟩
  · have hnew : evalCombatDone userId s = ((ackers s).length + 1,
        { s with combatDone := Key.setEx s.now 90000 (userId :: ackers s) }) := if_neg hmem
    rw [hnew, if_neg hmem]
    simp [ackers]

/-- A call stores at most the ack it is. -/
theorem does_ackers (hdo : (pool matchId host).Does e) : ackers e.after = ackers e.before ∨
    ackers e.after = [] ∨ ∃ userId, e.cmd = .combatDone userId ∧ userId ∉ ackers e.before ∧
      ackers e.after = userId :: ackers e.before := by
  rcases hdo.after_eq with hafter | hafter
  · exact .inl (congrArg ackers hafter)
  have hact : e.after = (act host e.cmd e.before).2 := hafter
  rw [hact]
  have hframe := act_frame host e.cmd e.before
  generalize e.cmd = c at hframe ⊢
  cases hc : c.onAcks with
  | false =>
    refine .inl ?_
    rw [ackers, hframe.now, hframe.combatDone hc]
    rfl
  | true =>
    cases c with
    | delCombatKeys => exact .inr (.inl rfl)
    | combatDone userId =>
      have hstored : ackers (act host (.combatDone userId) e.before).2 = _ := (evalCombatDone_ackers userId e.before).1
      by_cases hmem : userId ∈ ackers e.before
      · exact .inl (hstored.trans (if_pos hmem))
      · exact .inr (.inr ⟨userId, rfl, hmem, hstored.trans (if_neg hmem)⟩)
    | _ => cases hc

/-- Every ack stored after a reset was made after it. -/
theorem DeedRun.acks_since (h : DeedRun matchId host init (newer ++ e :: older) s) (hreset : ackers e.after = []) :
    (ackers s).Nodup ∧ ∀ userId ∈ ackers s, ∃ c ∈ newer, c.cmd = .combatDone userId := by
  refine h.since_induction (motive := fun newer s =>
    (ackers s).Nodup ∧ ∀ userId ∈ ackers s, ∃ c ∈ newer, c.cmd = .combatDone userId) ?_ ?_ ?_
  · simp [hreset]
  · rintro newer s ms ⟨hnodup, hmade⟩
    rcases @ackers_elapse matchId host ms s with heq | hnone
    · rw [heq]
      exact ⟨hnodup, hmade⟩
    · simp [hnone]
  · rintro newer e' - - hdo ⟨hnodup, hmade⟩
    have hold : ∀ userId ∈ ackers e'.before, ∃ c ∈ e' :: newer, c.cmd = .combatDone userId := fun userId hmem => by
      obtain ⟨c, hc, hcmd⟩ := hmade userId hmem
      exact ⟨c, List.mem_cons_of_mem _ hc, hcmd⟩
    rcases does_ackers hdo with heq | hnone | ⟨userId, hcmd, hnew, heq⟩
    · rw [heq]
      exact ⟨hnodup, hold⟩
    · simp [hnone]
    · rw [heq]
      refine ⟨hnodup.cons hnew, fun other hmem => ?_⟩
      rcases List.mem_cons.1 hmem with rfl | hmem
      · exact ⟨e', List.mem_cons_self .., hcmd⟩
      · exact hold other hmem

/-! ## The players -/

/-- While the match is on its players are the ones it started with. -/
theorem Run.players_known (h : Run matchId host init log s) (hs : stage s.hash ≠ ⊤) (side : Side) :
    s.hash.player side = init.hash.player side := by
  induction h with
  | start => rfl
  | @time log s ms _ ih =>
    have hb : stage s.hash ≠ ⊤ := fun htop => hs (top_le_iff.1 (htop ▸ stage_elapse ms s))
    rcases hash_elapse ms s with heq | hnone
    · exact (congrArg (RuntimeHash.player · side) heq).trans (ih hb)
    · exact absurd (congrArg stage hnone) hs
  | @call log e hrun hg hdo ih =>
    have hwhole : Run matchId host init ([] ++ e :: log) e.after := .call hrun hg hdo
    have hb : stage e.before.hash ≠ ⊤ := fun htop => hs (top_le_iff.1 (htop ▸ hwhole.phaseStep.stage_le))
    refine Eq.trans ?_ (ih hb)
    rcases does_hash hdo with heq | heq
    · rw [heq]
    · rw [heq, hset_player]

/-- An ack is a player's, sent during the battle that it names. -/
theorem DeedRun.ack_sent (h : DeedRun matchId host init (newer ++ e :: older) s) {userId : String}
    (hcmd : e.cmd = .combatDone userId) : ∃ round, e.request = .action userId round .combatDone ∧
      WithTop.some (3 * round + 1) ≤ stage e.before.hash ∧ ∃ side, userId = init.hash.player side := by
  have hdeed : Deeds matchId host e.request (own e.pid older) e.cmd := h.of_split.2.1.2
  rw [hcmd] at hdeed
  obtain ⟨round, runtime, hq, hsaw, hphase, hround, hplayer⟩ := hdeed
  have hrun : Run matchId host init older e.before := h.run.of_split.1
  obtain ⟨l₁, read, l₂, rfl, -, hread⟩ := hrun.saw_read hsaw
  have hbattle : stage read.before.hash = .some (3 * round + 1) :=
    stage_battle ⟨hphase ▸ hread.fields.1, hround ▸ hread.fields.2.1⟩
  refine ⟨round, hq, ?_, ?_⟩
  · rw [← hbattle]
    exact hrun.phaseStep.stage_le.trans hrun.stage_since
  · have hknown := fun side => Run.players_known hrun.of_split.1 (by rw [hbattle]; exact WithTop.coe_ne_top) side
    rcases hplayer with hp | hp
    · exact ⟨.p1, hp.symm.trans ((hread.ids .p1).trans (hknown .p1))⟩
    · exact ⟨.p2, hp.symm.trans ((hread.ids .p2).trans (hknown .p2))⟩

/-! ## Resolutions -/

/-- Where a battle is found fought, its reset of the acks came before. -/
theorem DeedRun.reset_of_fought (h : DeedRun matchId host init log s) (hinit : init.hash.combatRound = none)
    {round : Nat} (hr : s.hash.combatRound = some round) : ∃ newer e older, log = newer ++ e :: older ∧
      ackers e.after = [] ∧ WithTop.some (3 * round + 1) ≤ stage e.before.hash := by
  obtain ⟨f, hmem, hf⟩ := h.run.combatRound_fought hinit hr
  obtain ⟨l₁, l₂, rfl⟩ := List.append_of_mem hmem
  have hdeed : Deeds matchId host f.request (own f.pid l₂) f.cmd := h.of_split.2.1.2
  rw [hf] at hdeed
  obtain ⟨newerC, olderC, hown, hwon⟩ := hdeed round rfl
  obtain ⟨m₁, d, m₂, rfl, hpid, hcall, hcalls, -⟩ := own_split hown
  have hrun : Run matchId host init ((l₁ ++ f :: m₁) ++ d :: m₂) s := by simpa using h.run
  refine ⟨l₁ ++ f :: m₁, d, m₂, by simp, ?_, ?_⟩
  · rw [(hrun.of_split.2.2.of_call hcall).2]
    rfl
  · exact (Run.started_stage hrun.of_split.1 (show Won (own d.pid m₂) _ _ _ _ from hpid ▸ hcalls ▸ hwon)).2

theorem other_mem {α : Type} {l : List α} (hl : l.Nodup) (hlen : 2 ≤ l.length) (a : α) : ∃ b ∈ l, b ≠ a := by
  rcases l with _ | ⟨x, _ | ⟨y, l⟩⟩
  · simp at hlen
  · simp at hlen
  · by_cases hx : x = a
    · subst hx
      refine ⟨y, by simp, fun hyx => ?_⟩
      simp [hyx] at hl
    · exact ⟨x, by simp, hx⟩

/-- Two acks of one battle, of which the second found the first. -/
theorem DeedRun.both_acked (h : DeedRun matchId host init (newer ++ e :: older) s)
    (hinit : init.hash.combatRound = none) (hok : ∀ e' ∈ e :: older, AcksItsBattle e') {userId : String}
    {round : Nat} {count : Nat} (hcall : e.toCall = ⟨.combatDone userId, some count⟩) (hcount : 2 ≤ count)
    (hstage : stage e.before.hash = .some (3 * round + 1)) :
    ∃ c ∈ older, ∃ other, other ≠ userId ∧ c.request = .action other round .combatDone ∧
      ∃ side, other = init.hash.player side := by
  have hcmd : e.cmd = .combatDone userId := congrArg Call.cmd hcall
  obtain ⟨hphase, hround⟩ := stage_battle_iff.1 hstage
  have hmine := hok e (List.mem_cons_self ..) userId (by simp [hcmd, Cmd.acker]) round hround hphase
  obtain ⟨hreply, hafter⟩ := h.of_split.2.2.of_call hcall
  obtain ⟨hstored, hlength⟩ := evalCombatDone_ackers userId e.before
  have hreply : count = (evalCombatDone userId e.before).1 := hreply
  rw [hlength, hstored] at hreply
  -- Without a reset there would be this ack only.
  have hfought : e.before.hash.combatRound = some round := by
    refine hmine.2.resolve_left fun hnone => ?_
    have hempty : ackers e.before = [] := congrArg (Option.getD · []) hnone
    rw [hempty] at hreply
    simp at hreply
    omega
  have hrun : DeedRun matchId host init older e.before := h.prior
  obtain ⟨l₁, d, l₂, rfl, hreset, hd⟩ := hrun.reset_of_fought hinit hfought
  obtain ⟨hnodup, hmade⟩ := hrun.acks_since hreset
  have hother : ∃ other ∈ ackers e.before, other ≠ userId := by
    by_cases hmem : userId ∈ ackers e.before
    · rw [if_pos hmem] at hreply
      exact other_mem hnodup (hreply ▸ hcount) userId
    · rw [if_neg hmem, List.length_cons] at hreply
      obtain ⟨other, hmem'⟩ := List.exists_mem_of_length_pos (l := ackers e.before) (by omega)
      exact ⟨other, hmem', fun heq => hmem (heq ▸ hmem')⟩
  obtain ⟨other, hmem, hne⟩ := hother
  obtain ⟨c, hc, hcmd'⟩ := hmade other hmem
  obtain ⟨k₁, k₂, rfl⟩ := List.append_of_mem hc
  have hrun' : DeedRun matchId host init (k₁ ++ c :: (k₂ ++ d :: l₂)) e.before := by simpa using hrun
  -- The other ack came between the reset and this one, so during the battle.
  have hbattle : stage c.before.hash = .some (3 * round + 1) := by
    refine le_antisymm ?_ ?_
    · exact hstage ▸ hrun'.run.phaseStep.stage_le.trans hrun'.run.stage_since
    · have hback : Run matchId host init (k₂ ++ d :: l₂) c.before := hrun'.prior.run
      exact hd.trans (hback.phaseStep.stage_le.trans hback.stage_since)
  obtain ⟨hphase', hround'⟩ := stage_battle_iff.1 hbattle
  have hnamed := hok c (by simp) other (by simp [hcmd', Cmd.acker]) round hround' hphase'
  obtain ⟨-, -, -, side, hside⟩ := hrun'.ack_sent hcmd'
  exact ⟨c, by simp, other, hne, hnamed.1, side, hside⟩

/-- The acks that let a battle be resolved early. -/
theorem DeedRun.resolved_acked (h : DeedRun matchId host init (newer ++ e :: older) s)
    (hinit : init.hash.combatRound = none)
    (hsame : ∀ e₁ ∈ e :: older, ∀ e₂ ∈ e :: older, e₁.pid = e₂.pid → e₁.request = e₂.request)
    (hok : ∀ e' ∈ e :: older, AcksItsBattle e') {round : Nat} (hen : Enters .battle .resolved round e)
    (htimeout : e.request ≠ .combatDoneTimeout round) (side : Side) :
    Acknowledged (init.hash.player side) round older := by
  obtain ⟨next, hcmd, -⟩ := h.run.flip_of_enters hen (by decide) (by decide)
  have hdeed : Deeds matchId host e.request (own e.pid older) e.cmd := h.of_split.2.1.2
  rw [hcmd] at hdeed
  obtain ⟨userId, count, hq, hcount, hmem⟩ := hdeed.resolve_left htimeout
  obtain ⟨ack, hmem, hpid, hcall⟩ := mem_own.1 hmem
  have hreq : ack.request = .action userId round .combatDone :=
    (hsame ack (List.mem_cons_of_mem _ hmem) e (List.mem_cons_self ..) hpid).trans hq
  obtain ⟨l₁, l₂, rfl⟩ := List.append_of_mem hmem
  have hrun : DeedRun matchId host init (l₁ ++ ack :: l₂) e.before := h.prior
  obtain ⟨round', hq', hsent, side₁, hside₁⟩ := hrun.ack_sent (congrArg Call.cmd hcall)
  obtain rfl : round = round' := by
    rw [hreq] at hq'
    exact (Request.action.inj hq').2.1
  -- The ack read the battle that is resolved after it.
  have hstage : stage ack.before.hash = .some (3 * round + 1) := by
    refine le_antisymm ?_ hsent
    rw [← stage_battle ⟨hen.1, hen.2.1⟩]
    exact hrun.run.phaseStep.stage_le.trans hrun.run.stage_since
  obtain ⟨c, hc, other, hne, hother, side₂, hside₂⟩ :=
    hrun.both_acked hinit (fun e' he' => hok e' (List.mem_cons_of_mem _ (List.mem_append_right _ he'))) hcall
      hcount hstage
  have hmine : Acknowledged (init.hash.player side₁) round (l₁ ++ ack :: l₂) :=
    ⟨ack, by simp, hside₁ ▸ hreq⟩
  have htheirs : Acknowledged (init.hash.player side₂) round (l₁ ++ ack :: l₂) :=
    ⟨c, by simp [hc], hside₂ ▸ hother⟩
  cases side <;> cases side₁ <;> cases side₂ <;> first
    | exact hmine
    | exact htheirs
    | exact absurd (hside₂.trans hside₁.symm) hne

end

/-- Both acks of round 1, then both of round 2. -/
def prompt : List (Move Request Nat) :=
  orderly ++ .start (.phaseTimer 2) :: answers 5 25 ++
  .start (.action "u1" 2 .combatDone) :: answers 6 25 ++
  .start (.action "u2" 2 .combatDone) :: answers 7 25

/-- The first player's ack of round 1 is stored when the battle of round 2 is
on, after the timeout of round 1. -/
def belated : List (Move Request Nat) :=
  .start (.phaseTimer 1) :: answers 0 25 ++
  .start (.action "u1" 1 .combatDone) :: answers 1 1 ++
  .start (.combatDoneTimeout 1) :: answers 2 25 ++
  .start (.action "u1" 1 .roundReady) :: answers 3 25 ++
  .start (.action "u2" 1 .roundReady) :: answers 4 25 ++
  .start (.phaseTimer 2) :: answers 5 25 ++
  answers 1 25 ++
  .start (.action "u2" 2 .combatDone) :: answers 6 25

end AutoChess.Runtime
