/-
The rate limit on websocket messages: `ws_rate_limit.lua`, run by
`WsThrottleGuard` before each message. The script keeps the user's hits of
the last second in a sorted set, one member a hit, scored with Redis `TIME`
rounded down to a millisecond, and replies how many there are.

Both keys live two seconds from the last hit. When they expire no hit is left
in the window, so a set built on nothing holds what a set never expired would
(`Tracks`), and a sequence that starts again meets no member of before.
-/
import AutoChess.Lib.Expiring
import AutoChess.Lib.SortedSet
import Mathlib.Data.String.Basic
import Mathlib.Data.List.Basic
import Mathlib.Logic.Function.Basic
import Std.Data.String.ToNat

namespace AutoChess.Throttle

open Expiring

/-! ## The script -/

/-- The keys of the limiter: sorted sets of hits and sequences. -/
structure Rates where
  hits : String → Key (SortedSet String) := fun _ => ⟨none⟩
  seqs : String → Key Nat := fun _ => ⟨none⟩

/-- `(tonumber(time[1]) * 1000) + math.floor(tonumber(time[2]) / 1000)`, from a
clock in microseconds. -/
def scriptNow (micros : Nat) : Nat := micros / 1000000 * 1000 + micros % 1000000 / 1000

/-- `ZREMRANGEBYSCORE key -inf cutoff`; a set left empty is no key. -/
def zremrangebyscore (now : Nat) (cutoff : Int) (k : Key (SortedSet String)) : Key (SortedSet String) :=
  ⟨(k.current now).bind fun e =>
    let kept := e.value.retain fun score => cutoff < score
    if kept.entries.isEmpty then none else some ⟨kept, e.expireAt⟩⟩

/-- `tostring(now) .. ':' .. tostring(sequence)`. -/
def member (now sequence : Nat) : String := now.repr ++ ":" ++ sequence.repr

def wsRateLimit (hitsKey seqKey : String) (window micros : Nat) (s : Rates) : Nat × Rates :=
  let now := scriptNow micros
  let cutoff : Int := now - window
  let pruned := zremrangebyscore now cutoff (s.hits hitsKey)
  let seq := (s.seqs seqKey).modify now 0 (· + 1)
  let sequence := (seq.get now).getD 0
  let hits := (pruned.modify now SortedSet.empty (·.add (member now sequence) now)).expire now (window + 1000)
  (((hits.get now).map (·.card)).getD 0,
    { hits := Function.update s.hits hitsKey hits
      seqs := Function.update s.seqs seqKey (seq.expire now (window + 1000)) })

/-! ## The guard -/

inductive ContextType where
  | http | rpc | ws
  deriving DecidableEq, Repr

/-- What the guard reads of an execution context: `client.data.user.sub` and
`client.id`. -/
structure ExecutionContext where
  type : ContextType
  sub : Option String
  clientId : String
  deriving DecidableEq, Repr

structure WsException where
  code : String
  message : String
  deriving DecidableEq, Repr

def windowMs : Nat := 1000

def positiveInt (number : String → Option Int) (raw : Option String) (fallback : Nat) : Nat :=
  match raw.bind number with
  | some parsed => if 0 < parsed then parsed.toNat else fallback
  | none => fallback

/-- `positiveInt(process.env.WS_MSG_PER_SEC, 30)`. -/
def limitFrom (number : String → Option Int) (env : String → Option String) : Nat :=
  positiveInt number (env "WS_MSG_PER_SEC") 30

def ExecutionContext.userId (context : ExecutionContext) : String := context.sub.getD context.clientId

def hitsKey (userId : String) : String := "rate:ws:\x7b" ++ userId ++ "\x7d:hits"

def seqKey (userId : String) : String := "rate:ws:\x7b" ++ userId ++ "\x7d:seq"

def canActivate (limit : Nat) (context : ExecutionContext) (micros : Nat) (s : Rates) :
    Except WsException Bool × Rates :=
  if context.type = .ws then
    let recent := wsRateLimit (hitsKey context.userId) (seqKey context.userId) windowMs micros s
    if limit < recent.1 then (.error ⟨"rate.limited", "slow down"⟩, recent.2) else (.ok true, recent.2)
  else (.ok true, s)

/-! ## Messages -/

/-- A message of a socket, at a time of the Redis clock. -/
structure Message where
  sub : Option String
  clientId : String
  micros : Nat
  deriving DecidableEq, Repr

def Message.context (m : Message) : ExecutionContext := ⟨.ws, m.sub, m.clientId⟩

def Message.userId (m : Message) : String := m.context.userId

/-- The millisecond the script gives it. -/
def Message.ms (m : Message) : Nat := scriptNow m.micros

/-- A message and whether it was admitted. -/
structure Verdict extends Message where
  admitted : Bool
  deriving DecidableEq, Repr

def arrive (limit : Nat) (w : List Verdict × Rates) (m : Message) : List Verdict × Rates :=
  let out := canActivate limit m.context m.micros w.2
  (⟨m, out.1.isOk⟩ :: w.1, out.2)

/-- The messages in the order the script saw them, whatever the replica and
the socket; newest first. -/
def served (limit : Nat) (messages : List Message) : List Verdict × Rates := messages.foldl (arrive limit) ([], {})

/-! ## Members and keys -/

theorem scriptNow_eq (micros : Nat) : scriptNow micros = micros / 1000 := by
  unfold scriptNow
  omega

theorem member_injective {now now' sequence sequence' : Nat} (h : member now sequence = member now' sequence') :
    sequence = sequence' := by
  have hdigits : ∀ n : Nat, ':' ∉ n.repr.toList := by
    intro n hmem
    rw [Nat.toList_repr] at hmem
    have := Nat.isDigit_of_mem_toDigits (by decide) (by decide) hmem
    simp at this
  have hlist := congrArg String.toList h
  have hcolon : ":".toList = [':'] := rfl
  simp only [member, String.toList_append, List.append_assoc, hcolon, List.singleton_append] at hlist
  have hsplit := (List.append_cons_inj_of_notMem (hdigits now) (hdigits sequence)).1 hlist
  exact Nat.repr_injective (String.toList_injective hsplit.2.2)

theorem hitsKey_injective : Function.Injective hitsKey := by
  intro a b h
  exact (String.append_right_inj _).1 ((String.append_left_inj _).1 h)

theorem seqKey_injective : Function.Injective seqKey := by
  intro a b h
  exact (String.append_right_inj _).1 ((String.append_left_inj _).1 h)

/-! ## One call -/

/-- The keys of a user whose hits, newest first, came at `times`: the set has
those of the last second before the latest one, and both keys expire two
seconds after it. -/
def Tracks (s : Rates) (userId : String) : List Nat → Prop
  | [] => s.hits (hitsKey userId) = ⟨none⟩ ∧ s.seqs (seqKey userId) = ⟨none⟩
  | last :: times => (∀ t ∈ times, t ≤ last) ∧ ∃ set sequence,
      s.hits (hitsKey userId) = Key.setEx last (windowMs + 1000) set ∧
      s.seqs (seqKey userId) = Key.setEx last (windowMs + 1000) sequence ∧
      (set.entries.map (·.2)).Perm ((last :: times).filter (last < · + windowMs)) ∧
      ∀ e ∈ set.entries, ∃ now, ∃ k ≤ sequence, e.1 = member now k

section
variable {s : Rates} {userId : String} {times : List Nat} {now : Nat}

theorem zremrangebyscore_entries (now : Nat) (cutoff : Int) (k : Key (SortedSet String)) :
    (((zremrangebyscore now cutoff k).get now).getD SortedSet.empty).entries =
      ((k.get now).getD SortedSet.empty).entries.filter fun e => cutoff < e.2 := by
  cases h : k.current now with
  | none =>
    have hget : k.get now = none := by simp [Key.get, h]
    rw [hget, zremrangebyscore, h, Option.bind_none, Key.get_absent]
    rfl
  | some e =>
    have hget : k.get now = some e.value := by simp [Key.get, h]
    have hlive : e.live now = true := Key.current_live h
    rw [hget, zremrangebyscore, h, Option.bind_some]
    dsimp only
    split
    · next hempty =>
      rw [Key.get_absent]
      exact (List.isEmpty_iff.1 hempty).symm
    · rw [Key.get_of_live (e := ⟨e.value.retain _, e.expireAt⟩) hlive]
      rfl

/-- The hits the script finds: those of the last second, and no member with a
sequence yet to come. -/
structure Found (times : List Nat) (now sequence : Nat) (set : SortedSet String) : Prop where
  scores : (set.entries.map (·.2)).Perm (times.filter (now < · + windowMs))
  members : ∀ e ∈ set.entries, ∃ time, ∃ k ≤ sequence, e.1 = member time k

theorem Tracks.found (h : Tracks s userId times) (hnow : ∀ t ∈ times, t ≤ now) :
    Found times now (((s.seqs (seqKey userId)).get now).getD 0)
      (((zremrangebyscore now ((now : Int) - windowMs) (s.hits (hitsKey userId))).get now).getD
        SortedSet.empty) := by
  have hentries := zremrangebyscore_entries now ((now : Int) - windowMs) (s.hits (hitsKey userId))
  have hgone : (s.hits (hitsKey userId)).get now = none → (∀ t ∈ times, t + windowMs ≤ now) →
      Found times now (((s.seqs (seqKey userId)).get now).getD 0)
        (((zremrangebyscore now ((now : Int) - windowMs) (s.hits (hitsKey userId))).get now).getD
          SortedSet.empty) := by
    intro hget hold
    rw [hget] at hentries
    have hnil : times.filter (now < · + windowMs) = [] := by
      rw [List.filter_eq_nil_iff]
      intro t ht
      have := hold t ht
      simp only [decide_eq_true_eq]
      omega
    refine ⟨?_, ?_⟩
    · rw [hentries, hnil]
      exact List.Perm.nil
    · rw [hentries]
      intro e he
      cases he
  cases times with
  | nil => exact hgone (by rw [h.1]; rfl) (fun t ht => by cases ht)
  | cons last times =>
    obtain ⟨hlast, set, sequence, hhits, hseqs, hscores, hmembers⟩ := h
    by_cases hlive : now ≤ last + (windowMs + 1000)
    · have hset : (s.hits (hitsKey userId)).get now = some set := by
        rw [hhits, Key.get_setEx_later, if_pos hlive]
      have hseq : (s.seqs (seqKey userId)).get now = some sequence := by
        rw [hseqs, Key.get_setEx_later, if_pos hlive]
      rw [hset] at hentries
      rw [hseq]
      have hle : last ≤ now := hnow last List.mem_cons_self
      refine ⟨?_, ?_⟩
      · rw [hentries]
        have hpruned := hscores.filter fun t : Nat => decide ((now : Int) - windowMs < (t : Int))
        rw [List.filter_map, List.filter_filter] at hpruned
        refine hpruned.trans (List.Perm.of_eq (List.filter_congr fun t _ => ?_))
        rw [Bool.eq_iff_iff]
        simp only [Bool.and_eq_true, decide_eq_true_eq]
        omega
      · rw [hentries]
        intro e he
        exact hmembers e (List.mem_filter.1 he).1
    · refine hgone ?_ fun t ht => ?_
      · rw [hhits, Key.get_setEx_later, if_neg hlive]
      · have : t ≤ last := by
          rcases List.mem_cons.1 ht with rfl | ht
          · exact le_rfl
          · exact hlast t ht
        omega

/-- **One call of the script** counts the user's hits of the last second, its
own among them. -/
theorem Tracks.call {micros : Nat} (h : Tracks s userId times) (hnow : ∀ t ∈ times, t ≤ scriptNow micros) :
    (wsRateLimit (hitsKey userId) (seqKey userId) windowMs micros s).1 =
        (scriptNow micros :: times).countP (scriptNow micros < · + windowMs) ∧
      Tracks (wsRateLimit (hitsKey userId) (seqKey userId) windowMs micros s).2 userId
        (scriptNow micros :: times) := by
  obtain ⟨hscores, hmembers⟩ := h.found hnow
  generalize hset : ((zremrangebyscore (scriptNow micros) ((scriptNow micros : Int) - windowMs)
    (s.hits (hitsKey userId))).get (scriptNow micros)).getD SortedSet.empty = set at hscores hmembers
  generalize hseq : ((s.seqs (seqKey userId)).get (scriptNow micros)).getD 0 = sequence at hmembers
  have hfresh : member (scriptNow micros) (sequence + 1) ∉ set.entries.map (·.1) := by
    intro hin
    obtain ⟨e, he, heq⟩ := List.mem_map.1 hin
    obtain ⟨time, k, hk, hmember⟩ := hmembers e he
    have := member_injective (hmember.symm.trans heq)
    omega
  have hsequence : (((s.seqs (seqKey userId)).modify (scriptNow micros) 0 (· + 1)).get (scriptNow micros)).getD 0 =
      sequence + 1 := by
    rw [Key.get_modify, hseq]
    rfl
  have hnew : (set.add (member (scriptNow micros) (sequence + 1)) (scriptNow micros)).entries.map (·.2) |>.Perm
      ((scriptNow micros :: times).filter (scriptNow micros < · + windowMs)) := by
    rw [SortedSet.entries_add hfresh, List.map_cons, List.filter_cons,
      if_pos (by simp [windowMs])]
    exact hscores.cons _
  simp only [wsRateLimit, Key.expire_modify, hsequence, hset, hseq, Key.get_setEx, Option.map_some,
    Option.getD_some]
  refine ⟨?_, hnow, _, _, Function.update_self .., Function.update_self .., hnew, fun e he => ?_⟩
  · rw [SortedSet.card, List.countP_eq_length_filter, ← hnew.length_eq, List.length_map]
  · rw [SortedSet.entries_add hfresh] at he
    rcases List.mem_cons.1 he with rfl | he
    · exact ⟨_, _, le_rfl, rfl⟩
    · obtain ⟨time, k, hk, hmember⟩ := hmembers e he
      exact ⟨time, k, Nat.le_succ_of_le hk, hmember⟩

/-- A call for another user leaves the keys alone. -/
theorem Tracks.other {other : String} {micros : Nat} (h : Tracks s userId times) (hne : other ≠ userId) :
    Tracks (wsRateLimit (hitsKey other) (seqKey other) windowMs micros s).2 userId times := by
  have hhits : (wsRateLimit (hitsKey other) (seqKey other) windowMs micros s).2.hits (hitsKey userId) =
      s.hits (hitsKey userId) := Function.update_of_ne (fun heq => hne (hitsKey_injective heq).symm) ..
  have hseqs : (wsRateLimit (hitsKey other) (seqKey other) windowMs micros s).2.seqs (seqKey userId) =
      s.seqs (seqKey userId) := Function.update_of_ne (fun heq => hne (seqKey_injective heq).symm) ..
  cases times with
  | nil => exact ⟨hhits.trans h.1, hseqs.trans h.2⟩
  | cons last times =>
    obtain ⟨hlast, set, sequence, hh, hs, hrest⟩ := h
    exact ⟨hlast, set, sequence, hhits.trans hh, hseqs.trans hs, hrest⟩

end

/-! ## Every sequence of messages -/

/-- The messages of a user. -/
def of (userId : String) (v : Verdict) : Bool := v.userId == userId

/-- `earlier` came in the `width` up to and with `now`. -/
def within (width now earlier : Nat) : Bool := now < earlier + width && earlier ≤ now

/-- What the script counts when `v` arrives: the user's messages so far whose
millisecond is in the window. -/
def recent (v : Verdict) (older : List Verdict) : Nat :=
  (v :: older).countP fun w => of v.userId w && decide (v.ms < w.ms + windowMs)

/-- The log of the limiter, newest first: in order of time, each verdict by
its count, and the keys of every user in step with it. -/
structure Limits (limit : Nat) (w : List Verdict × Rates) : Prop where
  chronological : w.1.Pairwise fun later earlier => earlier.micros ≤ later.micros
  verdicts : ∀ newer v older, w.1 = newer ++ v :: older → (v.admitted = true ↔ recent v older ≤ limit)
  keys : ∀ userId, Tracks w.2 userId ((w.1.filter (of userId)).map (·.ms))

section
variable {limit : Nat} {w : List Verdict × Rates}

theorem ms_mono {m m' : Message} (h : m.micros ≤ m'.micros) : m.ms ≤ m'.ms := by
  unfold Message.ms
  rw [scriptNow_eq, scriptNow_eq]
  omega

theorem canActivate_message (limit : Nat) (m : Message) (s : Rates) :
    canActivate limit m.context m.micros s =
      (if limit < (wsRateLimit (hitsKey m.userId) (seqKey m.userId) windowMs m.micros s).1
        then .error ⟨"rate.limited", "slow down"⟩ else .ok true,
        (wsRateLimit (hitsKey m.userId) (seqKey m.userId) windowMs m.micros s).2) := by
  unfold canActivate
  rw [if_pos (show m.context.type = .ws from rfl), show m.context.userId = m.userId from rfl]
  dsimp only
  split
  · rfl
  · rfl

theorem Limits.arrive {m : Message} (h : Limits limit w) (hlater : ∀ v ∈ w.1, v.micros ≤ m.micros) :
    Limits limit (arrive limit w m) := by
  have hnow : ∀ t ∈ (w.1.filter (of m.userId)).map (·.ms), t ≤ scriptNow m.micros := by
    intro t ht
    obtain ⟨v, hv, rfl⟩ := List.mem_map.1 ht
    exact ms_mono (hlater v (List.mem_filter.1 hv).1)
  obtain ⟨hcount, hkeys⟩ := (h.keys m.userId).call hnow
  have hstore : (Throttle.arrive limit w m).2 =
      (wsRateLimit (hitsKey m.userId) (seqKey m.userId) windowMs m.micros w.2).2 := by
    rw [Throttle.arrive, canActivate_message]
  obtain ⟨admitted, hadmitted, hverdict⟩ : ∃ admitted : Bool,
      (admitted = true ↔ (wsRateLimit (hitsKey m.userId) (seqKey m.userId) windowMs m.micros w.2).1 ≤ limit) ∧
        (Throttle.arrive limit w m).1 = ⟨m, admitted⟩ :: w.1 := by
    refine ⟨_, ?_, rfl⟩
    rw [canActivate_message]
    dsimp only
    split
    · next hover => simp [Except.isOk, Except.toBool, hover]
    · next hunder => simp [Except.isOk, Except.toBool, Nat.le_of_not_lt hunder]
  refine ⟨?_, ?_, ?_⟩
  · rw [hverdict]
    exact List.pairwise_cons.2 ⟨hlater, h.chronological⟩
  · rw [hverdict]
    intro newer v older hsplit
    cases newer with
    | nil =>
      obtain ⟨rfl, rfl⟩ := List.cons.inj hsplit
      rw [hadmitted, hcount]
      refine Eq.to_iff (congrArg (· ≤ limit) ?_)
      have hself : of m.userId ⟨m, admitted⟩ = true := by simp [of]
      rw [recent, List.countP_cons, List.countP_cons, List.countP_map, List.countP_filter, hself]
      refine congrArg (· + _) (List.countP_congr fun v _ => ?_)
      rw [Bool.and_comm]
      rfl
    | cons _ newer => exact h.verdicts newer v older (List.cons.inj hsplit).2
  · rw [hverdict, hstore]
    intro userId
    rw [List.filter_cons]
    by_cases hself : m.userId = userId
    · subst hself
      rw [if_pos (by simp [of, Message.userId])]
      exact hkeys
    · rw [if_neg (by simpa [of] using hself)]
      exact (h.keys userId).other hself

theorem limits_foldl {messages : List Message} (h : Limits limit w)
    (hclock : messages.Pairwise (·.micros ≤ ·.micros))
    (hlater : ∀ m ∈ messages, ∀ v ∈ w.1, v.micros ≤ m.micros) :
    Limits limit (messages.foldl (Throttle.arrive limit) w) := by
  induction messages generalizing w with
  | nil => exact h
  | cons m messages ih =>
    obtain ⟨hfirst, hrest⟩ := List.pairwise_cons.1 hclock
    refine ih (h.arrive (hlater m List.mem_cons_self)) hrest fun m' hm' v hv => ?_
    rcases List.mem_cons.1 hv with rfl | hv
    · exact hfirst m' hm'
    · exact hlater m' (List.mem_cons_of_mem m hm') v hv

theorem served_limits {messages : List Message} (hclock : messages.Pairwise (·.micros ≤ ·.micros)) :
    Limits limit (served limit messages) := by
  refine limits_foldl ⟨.nil, ?_, fun _ => ⟨rfl, rfl⟩⟩ hclock fun _ _ v hv => ?_
  · intro newer v older hsplit
    cases newer <;> cases hsplit
  · cases hv

theorem served_messages (limit : Nat) (messages : List Message) :
    (served limit messages).1.map (·.toMessage) = messages.reverse := by
  have hfold : ∀ w : List Verdict × Rates, (messages.foldl (Throttle.arrive limit) w).1.map (·.toMessage) =
      messages.reverse ++ w.1.map (·.toMessage) := by
    induction messages with
    | nil => exact fun w => rfl
    | cons m messages ih =>
      intro w
      rw [List.foldl_cons, ih, List.reverse_cons, List.append_assoc]
      rfl
  rw [served, hfold]
  simp

/-- Where every earlier admitted message counts against the later ones, no
more than the limit are admitted. -/
theorem Limits.admitted_le (h : Limits limit w) {userId : String} {p : Verdict → Bool}
    (hp : ∀ v e : Verdict, p v = true → p e = true → e.micros ≤ v.micros → v.ms < e.ms + windowMs) :
    w.1.countP (fun v => of userId v && v.admitted && p v) ≤ limit := by
  rw [List.countP_eq_length_filter]
  cases hfilter : w.1.filter (fun v => of userId v && v.admitted && p v) with
  | nil => exact Nat.zero_le _
  | cons v rest =>
    obtain ⟨newer, older, hsplit, -, hv, hrest⟩ := List.filter_eq_cons_iff.1 hfilter
    simp only [Bool.and_eq_true] at hv
    have huser : v.userId = userId := by simpa [of] using hv.1.1
    have hle := (h.verdicts newer v older hsplit).1 hv.1.2
    have hchrono := h.chronological
    rw [hsplit] at hchrono
    have holder := (List.pairwise_cons.1 (List.pairwise_append.1 hchrono).2.1).1
    refine le_trans ?_ hle
    rw [recent, List.countP_cons_of_pos (by simp [of, windowMs]), List.length_cons, ← hrest,
      ← List.countP_eq_length_filter, huser]
    refine Nat.succ_le_succ (List.countP_mono_left fun e he hcounted => ?_)
    simp only [Bool.and_eq_true, decide_eq_true_eq] at hcounted ⊢
    exact ⟨hcounted.1.1, hp v e hv.2 hcounted.2 (holder e he)⟩

end

/-- What the limiter did with the messages of its log, newest first. -/
structure Limited (limit : Nat) (log : List Verdict) : Prop where
  /-- A message is admitted exactly when at most `limit` messages of its user
  came in the window that ends with it, on the script's clock. -/
  decides : ∀ newer v older, log = newer ++ v :: older → (v.admitted = true ↔ recent v older ≤ limit)
  /-- In a window of the script's clock at most `limit` are admitted. -/
  admits : ∀ userId now, log.countP (fun v => of userId v && v.admitted && within windowMs now v.ms) ≤ limit
  /-- And so in 999 ms of the microsecond clock. -/
  admits_micros : ∀ userId now, log.countP (fun v => of userId v && v.admitted && within 999000 now v.micros) ≤ limit
  /-- A message is rejected only after more than `limit`, itself included, in
  1000 ms of the microsecond clock. -/
  rejects : ∀ newer v older, log = newer ++ v :: older → v.admitted = false →
    limit < (v :: older).countP fun w => of v.userId w && within 1000000 v.micros w.micros

/-- **The rate limit.** -/
theorem served_limited (limit : Nat) {messages : List Message} (hclock : messages.Pairwise (·.micros ≤ ·.micros)) :
    (served limit messages).1.map (·.toMessage) = messages.reverse ∧ Limited limit (served limit messages).1 := by
  have h : Limits limit (served limit messages) := served_limits hclock
  refine ⟨served_messages limit messages, h.verdicts, fun userId now => ?_, fun userId now => ?_, ?_⟩
  · refine h.admitted_le fun v e hv hin hle => ?_
    simp only [within, Bool.and_eq_true, decide_eq_true_eq] at hv hin
    omega
  · refine h.admitted_le fun v e hv hin hle => ?_
    simp only [within, Bool.and_eq_true, decide_eq_true_eq] at hv hin
    simp only [Message.ms, scriptNow_eq, windowMs]
    omega
  · intro newer v older hsplit hrejected
    have hover : limit < recent v older := by
      rw [← Nat.not_le, ← h.verdicts newer v older hsplit, hrejected]
      exact Bool.false_ne_true
    have hchrono := h.chronological
    rw [hsplit] at hchrono
    have holder := (List.pairwise_cons.1 (List.pairwise_append.1 hchrono).2.1).1
    refine hover.trans_le (List.countP_mono_left fun w hw hcounted => ?_)
    have hle : w.micros ≤ v.micros := by
      rcases List.mem_cons.1 hw with rfl | hw
      · exact le_rfl
      · exact holder w hw
    simp only [Message.ms, scriptNow_eq, windowMs, within, Bool.and_eq_true, decide_eq_true_eq] at hcounted ⊢
    exact ⟨hcounted.1, by omega, hle⟩

/-! ## Two messages -/

/-- Messages of a user with a fresh second between them but for the rounding:
the first in the last microsecond of its millisecond. -/
def apart : List Message := [⟨some "u", "s1", 1789000000000999⟩, ⟨some "u", "s2", 1789000001000500⟩]

theorem apart_limited : (served 1 apart).1.map (·.toMessage) = apart.reverse ∧ Limited 1 (served 1 apart).1 :=
  served_limited 1 (by decide)

/-- Both are admitted under a limit of one, 999.501 ms apart. -/
theorem apart_admitted : ¬ ∀ v ∈ (served 1 apart).1, (served 1 apart).1.countP
    (fun w => of v.userId w && w.admitted && within 1000000 v.micros w.micros) ≤ 1 := by
  decide

end AutoChess.Throttle
