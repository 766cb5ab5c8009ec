/-
Who a request is admitted as. A token is signed for a user who has just
registered or logged in, or against a refresh token; nobody makes tokens
without the secret. So behind whatever is done in a user's name stands an
unbroken chain of tokens, each used within its time, that begins with the
user's own registration or a login with the password of it.
-/
import AutoChess.Auth.Users

namespace AutoChess.Auth

open Calls

/-! ## The libraries -/

/-- The key bcrypt makes of a password: its bytes and a zero, again and again. -/
def significant (password : String) : List UInt8 :=
  (List.replicate 72 (password.toUTF8.data.toList ++ [0])).flatten.take 72

/-- What the JWT library and bcrypt do: a token has its payload until it
expires, and a password is compared with the one that was hashed. -/
structure Libraries.Lawful (lib : Libraries) : Prop where
  verify_sign : ∀ payload expiresIn now now', lib.verify (lib.sign payload expiresIn now) now' =
    if now' < now + expiresIn then some payload else none
  compare_hash : ∀ salt given password,
    lib.compare given (lib.hash salt password) = true ↔ significant given = significant password

def issued : Call Cmd Resp → Option String
  | ⟨.sign _ _, reply⟩ => reply
  | _ => none

/-- The token of a call that finds it valid. -/
def presented : Call Cmd Resp → Option String
  | ⟨.verify token, some (some _)⟩ => some token
  | _ => none

/-- No token is valid that was not issued before. -/
def Unforged (log : List AuthEvent) : Prop :=
  Meets (fun older e => ∀ token ∈ presented e.toCall, token ∈ older.filterMap (issued ·.toCall)) log

instance (log : List AuthEvent) : Decidable (Unforged log) := by
  unfold Unforged
  infer_instance

theorem issued_eq {c : Call Cmd Resp} {token : String} (h : issued c = some token) :
    ∃ payload expiresIn, c = ⟨.sign payload expiresIn, some token⟩ := by
  obtain ⟨cmd, reply⟩ := c
  cases cmd with
  | sign payload expiresIn =>
    obtain rfl : reply = some token := h
    exact ⟨payload, expiresIn, rfl⟩
  | hash | insertUser | findByEmail | findById | updateUsername | verify | attach | respond | reject => cases h

theorem Unforged.issued {newer older : List AuthEvent} {v : AuthEvent} {token : String} {payload : JwtPayload}
    (h : Unforged (newer ++ v :: older)) (hv : v.toCall = ⟨.verify token, some (some payload)⟩) :
    token ∈ older.filterMap (Auth.issued ·.toCall) := by
  have hmeets := Meets.of_append h
  exact hmeets.1 token (by rw [hv]; rfl)

theorem Unforged.of_append {newer older : List AuthEvent} (h : Unforged (newer ++ older)) : Unforged older :=
  Meets.of_append h

/-! ## Sessions -/

variable (lib : Libraries) (userId : String)

/-- The token was signed by `c` for the user and was checked by `pid`, in
`mid`, while it was valid. -/
structure Uses (type : TokenType) (token : String) (pid : Nat) (mid : List AuthEvent) (c : AuthEvent) : Prop where
  signed : c.toCall = ⟨.sign ⟨userId, type⟩ (lib.ttl type), some token⟩
  checked : ∃ v ∈ mid, v.pid = pid ∧ v.cmd = .verify token ∧ v.before.now < c.before.now + lib.ttl type

/-- The call is part of the user's registration, or of a login with its email
and its password. -/
def SignsIn (older : List AuthEvent) (e : AuthEvent) : Prop :=
  ∃ r ∈ older, ∃ dto user, Registers lib r dto user ∧ user.id = userId ∧
    (r.pid = e.pid ∨ ∃ dto', e.request = .login dto' ∧ lib.toLowerCase dto'.email = lib.toLowerCase dto.email ∧
      significant dto'.password = significant dto.password)

/-- The last call signs a token for the user, by right. -/
inductive Session : List AuthEvent → Prop where
  | opened {e : AuthEvent} {older : List AuthEvent} {type : TokenType}
      (hcmd : e.cmd = .sign ⟨userId, type⟩ (lib.ttl type)) (hsigns : SignsIn lib userId older e) :
      Session (e :: older)
  | renewed {e c : AuthEvent} {mid older : List AuthEvent} {type : TokenType} {token : String}
      (hcmd : e.cmd = .sign ⟨userId, type⟩ (lib.ttl type)) (hrequest : e.request = .refresh token)
      (huses : Uses lib userId .refresh token e.pid mid c) (hsession : Session (c :: older)) :
      Session (e :: (mid ++ c :: older))

/-- The user is admitted with an access token of a session. -/
def Admitted (older : List AuthEvent) (e : AuthEvent) : Prop :=
  ∃ mid c rest token, older = mid ++ c :: rest ∧ e.request.token = some token ∧
    Uses lib userId .access token e.pid mid c ∧ Session lib userId (c :: rest)

/-! ## Tokens in a run -/

variable {lib} {userId : String} {log : List AuthEvent} {s : Store}

/-- A valid token was signed before, with what it says, and has not expired. -/
theorem Story.used (h : Story lib log s) (hlaw : lib.Lawful) (hunforged : Unforged log) {pid : Nat} {token : String}
    {payload : JwtPayload} (hmem : ⟨.verify token, some (some payload)⟩ ∈ own pid log) :
    ∃ mid c rest, log = mid ++ c :: rest ∧ Uses lib payload.sub payload.type token pid mid c := by
  obtain ⟨newer, v, older, rfl, hpid, hcall, hreply, -⟩ := h.answered hmem
  obtain ⟨c, hc, hissued⟩ := List.mem_filterMap.1 (hunforged.issued hcall)
  obtain ⟨payload', expiresIn, hsign⟩ := issued_eq hissued
  obtain ⟨mid, rest, rfl⟩ := List.append_of_mem hc
  have hrest : Story lib (mid ++ c :: rest) v.before := h.of_split.1
  obtain ⟨-, hguard, hdoes⟩ := hrest.of_split
  have htoken : token = lib.sign payload' expiresIn c.before.now := (hdoes.of_call hsign).1
  have hverify : lib.verify token v.before.now = some payload := hreply.symm
  rw [htoken, hlaw.verify_sign] at hverify
  split at hverify
  · next htime =>
    obtain rfl : payload' = payload := Option.some.inj hverify
    have hcmd : c.cmd = .sign payload' expiresIn := congrArg Call.cmd hsign
    rw [hcmd] at hguard
    obtain ⟨rfl, -⟩ := hguard
    refine ⟨newer ++ v :: mid, c, rest, by simp, hsign, v, by simp, hpid, congrArg Call.cmd hcall, htime⟩
  · cases hverify

/-- The user a login finds is one who registered with the email. -/
theorem Story.signsIn (h : Story lib log s) (hlaw : lib.Lawful) {e : AuthEvent} {dto : LoginDto} {user : User}
    (hq : e.request = .login dto)
    (hmem : ⟨.findByEmail (lib.toLowerCase dto.email), some (some user)⟩ ∈ own e.pid log)
    (hcompare : lib.compare dto.password user.passwordHash = true) : SignsIn lib user.id log e := by
  obtain ⟨newer, f, older, rfl, -, -, hfound, -⟩ := h.answered hmem
  have hfound : f.before.users.find? (·.email == lib.toLowerCase dto.email) = some user := hfound.symm
  have hemail : user.email = lib.toLowerCase dto.email := by simpa using List.find?_some hfound
  have holder : Story lib older f.before := h.of_split.1
  obtain ⟨r, hr, dto', hregisters⟩ := holder.sound.registered user (List.mem_of_find?_eq_some hfound)
  obtain ⟨salt, hhash⟩ := hregisters.hashed
  refine ⟨r, by simp [hr], dto', user, hregisters, rfl, .inr ⟨dto, hq, hemail.symm.trans hregisters.email, ?_⟩⟩
  rw [hhash] at hcompare
  exact (hlaw.compare_hash salt _ _).1 hcompare

/-- The user a registration adds. -/
theorem Story.registersIn (h : Story lib log s) {e : AuthEvent} {email username passwordHash : String} {user : User}
    (hmem : ⟨.insertUser email username passwordHash, some (.ok user)⟩ ∈ own e.pid log) : SignsIn lib user.id log e := by
  obtain ⟨newer, r, older, rfl, hpid, hcall, hreply, hafter⟩ := h.answered hmem
  obtain ⟨holder, hguard, -⟩ := h.of_split
  have hcmd : r.cmd = .insertUser email username passwordHash := congrArg Call.cmd hcall
  have hreply : (r.before.insertUser lib email username passwordHash).1 = .ok user := hreply.symm
  have hafter : r.after = (r.before.insertUser lib email username passwordHash).2 := hafter
  rcases @insertUser_cases lib email username passwordHash r.before with
    ⟨violation, herror⟩ | ⟨added, hfresh, rfl, rfl, rfl, hok, husers⟩
  · rw [herror] at hreply
    cases hreply
  · obtain rfl : added = user := by simpa [hok] using hreply
    rw [hcmd] at hguard
    obtain ⟨dto, hregisters, -⟩ := Story.registers holder hfresh (by rw [hafter, husers]) hguard
    exact ⟨r, by simp, dto, added, hregisters, rfl, .inl hpid⟩

/-- The user of a refresh token is the user of the new tokens. -/
theorem Story.found_id (h : Story lib log s) {pid : Nat} {id : String} {user : User}
    (hmem : ⟨.findById id, some (some user)⟩ ∈ own pid log) : user.id = id := by
  obtain ⟨newer, f, older, rfl, -, -, hfound, -⟩ := h.answered hmem
  have hfound : f.before.users.find? (·.id == id) = some user := hfound.symm
  simpa using List.find?_some hfound

/-- **Every token is signed in a session** of its user. The induction is on the
calls before: a refresh token was signed earlier. -/
theorem Story.session (h : Story lib log s) (hlaw : lib.Lawful) (hunforged : Unforged log) :
    ∀ {newer older : List AuthEvent} {e : AuthEvent}, log = newer ++ e :: older →
      ∀ {payload : JwtPayload} {expiresIn : Nat}, e.cmd = .sign payload expiresIn →
        Session lib payload.sub (e :: older) := by
  intro newer older
  induction hlength : older.length using Nat.strong_induction_on generalizing newer older with
  | _ n ih =>
    intro e hlog payload expiresIn hcmd
    have hstory := h
    rw [hlog] at hstory
    obtain ⟨holder, hguard, -⟩ := hstory.of_split
    have hunforged' : Unforged older := by
      rw [hlog] at hunforged
      exact hunforged.of_append.2
    rw [hcmd] at hguard
    obtain ⟨rfl, hgrounds⟩ := hguard
    generalize hsub : payload.sub = userId at hgrounds
    have hcmd : e.cmd = .sign ⟨userId, payload.type⟩ (lib.ttl payload.type) := by rw [hcmd, ← hsub]
    cases hgrounds with
    | registered hid hmem => exact .opened hcmd (hid ▸ Story.registersIn holder hmem)
    | signedIn hid hq hmem hcompare => exact .opened hcmd (hid ▸ Story.signsIn holder hlaw hq hmem hcompare)
    | @refreshed token sub user hid hq hverified hmem =>
      obtain ⟨mid, c, rest, rfl, huses⟩ := Story.used holder hlaw hunforged' hverified
      obtain rfl : sub = userId := (Story.found_id holder hmem).symm.trans hid
      refine .renewed hcmd hq huses ?_
      have hshorter : rest.length < n := by
        simp only [List.length_append, List.length_cons] at hlength
        omega
      exact @ih rest.length hshorter (newer ++ e :: mid) rest rfl c (by simp [hlog]) ⟨sub, .refresh⟩ _
        (congrArg Call.cmd huses.signed)

/-- A session's user has a row from then on. -/
theorem Session.kept (h : Session lib userId log) : ∃ r ∈ log, ∃ user ∈ r.after.users, user.id = userId := by
  induction h with
  | opened hcmd hsigns =>
    obtain ⟨r, hr, dto, user, hregisters, hid, -⟩ := hsigns
    obtain ⟨added, hadded, hsame⟩ := hregisters.after
    exact ⟨r, List.mem_cons_of_mem _ hr, added, hadded, hsame.trans hid⟩
  | @renewed e c mid older type token hcmd hrequest huses hsession ih =>
    obtain ⟨r, hr, user, huser, hid⟩ := ih
    exact ⟨r, List.mem_cons_of_mem _ (List.mem_append_right _ hr), user, huser, hid⟩

/-- The user of a valid token has a row. -/
theorem Story.known (h : Story lib log s) (hlaw : lib.Lawful) (hunforged : Unforged log) {pid : Nat} {token : String}
    {payload : JwtPayload} (hmem : ⟨.verify token, some (some payload)⟩ ∈ own pid log) :
    ∃ user ∈ s.users, user.id = payload.sub := by
  obtain ⟨mid, c, rest, rfl, huses⟩ := Story.used h hlaw hunforged hmem
  have hsession := Story.session h hlaw hunforged rfl (congrArg Call.cmd huses.signed)
  obtain ⟨r, hr, user, huser, hid⟩ := hsession.kept
  obtain ⟨kept, hkept, hsame, -⟩ := Story.kept h (List.mem_append_right mid hr) ⟨user, huser, rfl, rfl, rfl⟩
  exact ⟨kept, hkept, hsame.trans hid⟩

/-! ## Every run -/

/-- Whatever is done for a user is done for a request with a token of the
user's session. -/
structure Traced (lib : Libraries) (log : List AuthEvent) : Prop where
  admitted : ∀ newer e older payload, log = newer ++ e :: older → e.cmd = .attach payload →
    payload.type = .access ∧ Admitted lib payload.sub older e
  shown : ∀ newer e older id email username rating, log = newer ++ e :: older →
    e.cmd = .respond (.profile id email username rating) →
      ∃ a ∈ older, a.pid = e.pid ∧ a.cmd = .attach ⟨id, .access⟩
  given : ∀ newer e older response, log = newer ++ e :: older → e.cmd = .respond (.auth response) →
    ∀ type, ∃ mid c rest, older = mid ++ c :: rest ∧ c.pid = e.pid ∧
      c.toCall = ⟨.sign ⟨response.userId, type⟩ (lib.ttl type),
        some (if type = .access then response.accessToken else response.refreshToken)⟩ ∧
      Session lib response.userId (c :: rest)

/-- **Every run admits users by their own sessions.** -/
theorem run_sessions (hlaw : lib.Lawful) (moves : List (Move Request Nat))
    (hunforged : Unforged (world lib moves).log) : Traced lib (world lib moves).log := by
  have hstory := @world_story lib moves
  generalize (world lib moves).log = log at hstory hunforged
  refine ⟨?_, ?_, ?_⟩
  · intro newer e older payload hlog hcmd
    subst hlog
    obtain ⟨holder, hguard, -⟩ := hstory.of_split
    rw [hcmd] at hguard
    obtain ⟨htype, token, hq, hverified⟩ := hguard
    obtain ⟨mid, c, rest, rfl, huses⟩ := Story.used holder hlaw hunforged.of_append.2 hverified
    refine ⟨htype, mid, c, rest, token, rfl, hq, htype ▸ huses, ?_⟩
    have hsplit : newer ++ e :: (mid ++ c :: rest) = (newer ++ e :: mid) ++ c :: rest := by simp
    exact Story.session hstory hlaw hunforged hsplit (congrArg Call.cmd huses.signed)
  · intro newer e older id email username rating hlog hcmd
    subst hlog
    obtain ⟨holder, hguard, -⟩ := hstory.of_split
    rw [hcmd] at hguard
    obtain ⟨sub, user, hattached, hfound, hprofile⟩ := hguard
    have hid : user.id = id := by
      unfold profile at hprofile
      injection hprofile
    obtain ⟨a, ha, hpid, hcall⟩ := mem_own.1 hattached
    obtain rfl : sub = id := (Story.found_id holder hfound).symm.trans hid
    exact ⟨a, ha, hpid, congrArg Call.cmd hcall⟩
  · intro newer e older response hlog hcmd type
    subst hlog
    obtain ⟨holder, hguard, -⟩ := hstory.of_split
    rw [hcmd] at hguard
    have hsigned : ⟨.sign ⟨response.userId, type⟩ (lib.ttl type),
        some (if type = .access then response.accessToken else response.refreshToken)⟩ ∈ own e.pid older := by
      cases type with
      | access => exact hguard.1
      | refresh => exact hguard.2
    obtain ⟨c, hc, hpid, hcall⟩ := mem_own.1 hsigned
    obtain ⟨mid, rest, rfl⟩ := List.append_of_mem hc
    refine ⟨mid, c, rest, rfl, hpid, hcall, ?_⟩
    have hsplit : newer ++ e :: (mid ++ c :: rest) = (newer ++ e :: mid) ++ c :: rest := by simp
    exact Story.session hstory hlaw hunforged hsplit (congrArg Call.cmd hcall)

/-- What refusals tell: no account of a valid token is missing, and invalid
credentials are those of nobody. -/
structure Refusals (lib : Libraries) (w : World Store Request Cmd Resp Err) : Prop where
  known : ∀ (pid : Nat) t e, w.threads[pid]? = some t → t.rest = .throw e → e.missing = false
  wrong : ∀ (pid : Nat) t dto, w.threads[pid]? = some t → t.request = .login dto →
    t.rest = .throw (.unauthorized "invalid credentials") →
      ∃ f ∈ w.log, f.pid = pid ∧ f.cmd = .findByEmail (lib.toLowerCase dto.email) ∧
        ∀ user ∈ f.before.users, user.email = lib.toLowerCase dto.email →
          ∀ salt password, user.passwordHash = lib.hash salt password →
            significant dto.password ≠ significant password

/-- **Every run refuses only strangers.** -/
theorem run_refusals (hlaw : lib.Lawful) (moves : List (Move Request Nat))
    (hunforged : Unforged (world lib moves).log) : Refusals lib (world lib moves) := by
  have hstory := @world_story lib moves
  have hobeys : (world lib moves).Obeys (Guards lib) (Ends lib) := Pool.run_obeys program_guarded moves
  have hrefused : ∀ {pid : Nat} {t : Thread Request Cmd Resp Err} {e : Err}, (world lib moves).threads[pid]? = some t →
      t.rest = .throw e → Refused lib t.request (own pid (world lib moves).log) e := by
    intro pid t e ht hrest
    have hends := hobeys.threads pid t ht
    rw [hrest] at hends
    exact hends
  refine ⟨?_, ?_⟩
  · intro pid t e ht hrest
    by_contra hmissing
    rw [Bool.not_eq_false] at hmissing
    obtain ⟨token, payload, call, older, hown, hverified, hcall⟩ := (hrefused ht hrest).missing hmissing
    obtain ⟨newer, f, rest, hlog, -, rfl, rfl⟩ := own_last hown
    rw [hlog] at hstory hunforged
    obtain ⟨holder, -, hdoes⟩ := hstory.of_split
    obtain ⟨user, huser, hid⟩ := Story.known holder hlaw hunforged.of_append.2 hverified
    rcases hcall with hcall | ⟨username, hcall⟩
    · have hnone : f.before.users.find? (·.id == payload.sub) = none := (hdoes.of_call hcall).1.symm
      rw [List.find?_eq_none] at hnone
      exact hnone user huser (by simpa using hid)
    · have hfalse : (f.before.updateUsername payload.sub username).1 = .ok false := (hdoes.of_call hcall).1.symm
      have hany : f.before.users.any (·.id == payload.sub) = true := by
        rw [List.any_eq_true]
        exact ⟨user, huser, by simpa using hid⟩
      rw [Store.updateUsername, if_pos hany] at hfalse
      split at hfalse <;> simp at hfalse
  · intro pid t dto ht hq hrest
    obtain ⟨found, hmem, hcompare⟩ := (hrefused ht hrest).invalid dto hq rfl
    obtain ⟨newer, f, older, hlog, hpid, hcall, hfound, -⟩ := hstory.answered hmem
    refine ⟨f, by simp [hlog], hpid, congrArg Call.cmd hcall, ?_⟩
    intro user huser hemail salt password hhash
    rw [hlog] at hstory
    have holder : Story lib older f.before := hstory.of_split.1
    have hfound : f.before.users.find? (·.email == lib.toLowerCase dto.email) = found := hfound.symm
    cases found with
    | none =>
      rw [List.find?_eq_none] at hfound
      exact absurd hemail (by simpa using hfound user huser)
    | some other =>
      have hsame : other = user := List.inj_on_of_nodup_map holder.sound.emails (List.mem_of_find?_eq_some hfound) huser
        ((by simpa using List.find?_some hfound : other.email = lib.toLowerCase dto.email).trans hemail.symm)
      have hfalse := hcompare user (by rw [hsame])
      rw [hhash] at hfalse
      intro heq
      rw [(hlaw.compare_hash salt _ _).2 heq] at hfalse
      cases hfalse

/-! ## An evening -/

def typeChar : TokenType → Char
  | .access => 'a'
  | .refresh => 'r'

/-- Tokens that count the seconds to their expiry in strokes, and passwords
that are no secret. -/
def plain : Libraries where
  hash _ password := password
  compare given hash := significant given = significant hash
  sign payload expiresIn now :=
    String.ofList (typeChar payload.type :: (List.replicate (now + expiresIn) '|' ++ '.' :: payload.sub.toList))
  verify token now :=
    match token.toList with
    | kind :: rest =>
      let strokes := rest.takeWhile (· == '|')
      if now < strokes.length then
        some ⟨String.ofList (rest.drop (strokes.length + 1)), if kind = 'a' then .access else .refresh⟩
      else none
    | [] => none
  uuid n := String.ofList ('u' :: List.replicate n '\'')
  toLowerCase s := String.ofList (s.toList.map Char.toLower)
  isEmail s := s.toList.contains '@'
  minLength s n := n ≤ s.length
  isJWT s := s ≠ ""
  accessTtl := 7
  refreshTtl := 30

theorem plain_lawful : plain.Lawful where
  verify_sign := by
    intro payload expiresIn now now'
    obtain ⟨sub, type⟩ := payload
    have hstrokes : (List.replicate (now + expiresIn) '|' ++ '.' :: sub.toList).takeWhile (· == '|') =
        List.replicate (now + expiresIn) '|' := by
      rw [List.takeWhile_append_of_pos (by simp)]
      simp
    have hdrop : (List.replicate (now + expiresIn) '|' ++ '.' :: sub.toList).drop (now + expiresIn + 1) = sub.toList := by
      simp [List.drop_append]
    cases type <;> simp [plain, hstrokes, hdrop, typeChar]
  compare_hash := by simp [plain]

def annDto : RegisterDto := ⟨"Ann@x", "ann", "secret12"⟩

/-- Ann signs up, refreshes her tokens and asks for her profile when the first
one has expired; then she logs in, at first with a wrong password. -/
def evening : List (Move Request Nat) :=
  .start (.register annDto) :: List.replicate 5 (.run 0 .answered) ++ [.env 3] ++
    .start (.refresh (plain.sign ⟨"u'", .refresh⟩ 30 0)) :: List.replicate 5 (.run 1 .answered) ++ [.env 5] ++
    .start (.me (some ("Bearer " ++ plain.sign ⟨"u'", .access⟩ 7 3))) :: List.replicate 4 (.run 2 .answered) ++
    .start (.login ⟨"ANN@x", "secret"⟩) :: List.replicate 1 (.run 3 .answered) ++
    .start (.login ⟨"ANN@x", "secret12"⟩) :: List.replicate 4 (.run 4 .answered)

def attached : Cmd → Option JwtPayload
  | .attach payload => some payload
  | _ => none

def failure : M Unit → Option Err
  | .throw e => some e
  | _ => none

theorem evening_sessions : Traced plain (world plain evening).log ∧
    (world plain evening).log.filterMap (fun e => attached e.cmd) = [⟨"u'", .access⟩] :=
  ⟨run_sessions plain_lawful evening (by decide +kernel), by decide +kernel⟩

theorem evening_refusals : Refusals plain (world plain evening) ∧
    (world plain evening).threads.filterMap (fun t => failure t.rest) = [.unauthorized "invalid credentials"] :=
  ⟨run_refusals plain_lawful evening (by decide +kernel), by decide +kernel⟩

end AutoChess.Auth
