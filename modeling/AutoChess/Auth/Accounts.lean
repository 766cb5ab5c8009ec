/-
Every run of the requests: what a call of each rests on, and what the table of
users is. A row is added by a registration and is never taken away, and after
that only its name changes, for a request that was admitted as its user.
-/
import AutoChess.Auth.Service

namespace AutoChess.Auth

open Calls

abbrev History := List (Call Cmd Resp)

abbrev AuthEvent := Event Store Request Cmd Resp

variable (lib : Libraries)

/-! ## What each call rests on -/

/-- The token a request comes with. -/
def Request.token : Request → Option String
  | .refresh token => some token
  | .me authorization | .updateMe authorization _ | .rest authorization => bearer (authorization.getD "")
  | .connect token => token
  | .register _ | .login _ => none

/-- Why tokens are signed for a user. -/
inductive Grounds (q : Request) (h : History) (userId : String) : Prop where
  | registered {email username passwordHash : String} {user : User} (hid : user.id = userId)
      (hmem : ⟨.insertUser email username passwordHash, some (.ok user)⟩ ∈ h)
  | signedIn {dto : LoginDto} {user : User} (hid : user.id = userId) (hq : q = .login dto)
      (hmem : ⟨.findByEmail (lib.toLowerCase dto.email), some (some user)⟩ ∈ h)
      (hcompare : lib.compare dto.password user.passwordHash = true)
  | refreshed {token sub : String} {user : User} (hid : user.id = userId) (hq : q = .refresh token)
      (hverified : ⟨.verify token, some (some ⟨sub, .refresh⟩)⟩ ∈ h)
      (hmem : ⟨.findById sub, some (some user)⟩ ∈ h)

def Guards (q : Request) (h : History) : Cmd → Prop
  | .insertUser email username passwordHash =>
    ∃ dto, q = .register dto ∧ dto.accepted lib = true ∧ email = lib.toLowerCase dto.email ∧
      username = dto.username ∧ ⟨.hash dto.password, some passwordHash⟩ ∈ h
  | .updateUsername id username => isUsername username = true ∧ ⟨.attach ⟨id, .access⟩, some ()⟩ ∈ h
  | .sign payload expiresIn => expiresIn = lib.ttl payload.type ∧ Grounds lib q h payload.sub
  | .attach payload => payload.type = .access ∧ ∃ token, q.token = some token ∧ ⟨.verify token, some (some payload)⟩ ∈ h
  | .respond (.auth response) =>
    ⟨.sign ⟨response.userId, .access⟩ lib.accessTtl, some response.accessToken⟩ ∈ h ∧
      ⟨.sign ⟨response.userId, .refresh⟩ lib.refreshTtl, some response.refreshToken⟩ ∈ h
  | .respond (.profile id email username rating) =>
    ∃ sub user, ⟨.attach ⟨sub, .access⟩, some ()⟩ ∈ h ∧ ⟨.findById sub, some (some user)⟩ ∈ h ∧
      profile user = .profile id email username rating
  | _ => True

/-- The account a request was refused for does not exist. -/
def Err.missing : Err → Bool
  | .unauthorized message => message = "user no longer exists"
  | .conflict message => message = "user not found"
  | .notFound _ => true
  | _ => false

/-- A request that is refused was told so: there is no row for the user of its
token, or none with the email that has the password. -/
structure Refused (q : Request) (h : History) (e : Err) : Prop where
  missing : e.missing = true → ∃ token payload call older, h = call :: older ∧
    ⟨.verify token, some (some payload)⟩ ∈ older ∧ (call = ⟨.findById payload.sub, some none⟩ ∨
      ∃ username, call = ⟨.updateUsername payload.sub username, some (.ok false)⟩)
  invalid : ∀ dto, q = .login dto → e = .unauthorized "invalid credentials" →
    ∃ found, ⟨.findByEmail (lib.toLowerCase dto.email), some found⟩ ∈ h ∧
      ∀ user, found = some user → lib.compare dto.password user.passwordHash = false

def Ends (q : Request) : Except Err Unit → History → Prop
  | .ok _, _ => True
  | .error e, h => Refused lib q h e

variable {lib} {q : Request} {h : History}

theorem Refused.other {e : Err} (hmissing : e.missing = false) (hinvalid : e ≠ .unauthorized "invalid credentials") :
    Refused lib q h e := ⟨fun h => by simp [hmissing] at h, fun _ _ heq => absurd heq hinvalid⟩

theorem Refused.fault : Refused lib q h .fault := .other rfl (by simp)

theorem missing_conflict (detail : String) : (Err.conflict (conflictField detail ++ " already in use")).missing = false := by
  unfold conflictField
  split
  · decide
  · split <;> decide

/-- A call, after whose failure the request fails. -/
theorem guarded_call {c : Cmd} {k : Option (Resp c) → M Unit} (hguard : Guards lib q h c)
    (hfault : (k none).Obeys (Guards lib q) (Ends lib q) (⟨c, none⟩ :: h))
    (hrest : ∀ r, (k (some r)).Obeys (Guards lib q) (Ends lib q) (⟨c, some r⟩ :: h)) :
    (Prog.call c k).Obeys (Guards lib q) (Ends lib q) h := by
  refine Prog.Obeys.step hguard fun r => ?_
  cases r with
  | none => exact hfault
  | some r => exact hrest r

theorem Grounds.mono {userId : String} (hgrounds : Grounds lib q h userId) (call : Call Cmd Resp) :
    Grounds lib q (call :: h) userId := by
  cases hgrounds with
  | registered hid hmem => exact .registered hid (List.mem_cons_of_mem _ hmem)
  | signedIn hid hq hmem hcompare => exact .signedIn hid hq (List.mem_cons_of_mem _ hmem) hcompare
  | refreshed hid hq hverified hmem =>
    exact .refreshed hid hq (List.mem_cons_of_mem _ hverified) (List.mem_cons_of_mem _ hmem)

theorem signTokens_guarded {userId : String} (hgrounds : Grounds lib q h userId) :
    (tokens (signTokens lib userId)).Obeys (Guards lib q) (Ends lib q) h :=
  guarded_call ⟨rfl, hgrounds⟩ Refused.fault fun accessToken =>
    guarded_call ⟨rfl, hgrounds.mono _⟩ Refused.fault fun refreshToken =>
      guarded_call (c := .respond (.auth ⟨userId, accessToken, refreshToken⟩)) ⟨by simp, by simp⟩ Refused.fault
        fun _ => trivial

theorem checked_guarded {accepted : Bool} {handler : M Unit}
    (hhandler : accepted = true → handler.Obeys (Guards lib q) (Ends lib q) h) :
    (checked accepted handler).Obeys (Guards lib q) (Ends lib q) h := by
  unfold checked
  split
  · next haccepted => exact hhandler haccepted
  · exact Refused.other rfl (by simp)

theorem register_guarded {dto : RegisterDto} (haccepted : dto.accepted lib = true) :
    (tokens (register lib dto)).Obeys (Guards lib (.register dto)) (Ends lib (.register dto)) [] := by
  refine guarded_call trivial Refused.fault fun passwordHash => ?_
  refine guarded_call ⟨dto, rfl, haccepted, rfl, rfl, by simp⟩ Refused.fault fun inserted => ?_
  cases inserted with
  | error violation =>
    exact Refused.other (missing_conflict _) (by simp)
  | ok user => exact signTokens_guarded (.registered rfl (List.mem_cons_self ..))

theorem login_guarded {dto : LoginDto} :
    (tokens (login lib dto)).Obeys (Guards lib (.login dto)) (Ends lib (.login dto)) [] := by
  refine guarded_call (c := .findByEmail (lib.toLowerCase dto.email)) trivial Refused.fault fun found => ?_
  have hinvalid : (∀ user, found = some user → lib.compare dto.password user.passwordHash = false) →
      Refused lib (.login dto) [⟨.findByEmail (lib.toLowerCase dto.email), some found⟩] (.unauthorized "invalid credentials") := by
    intro hcompare
    refine ⟨fun hmissing => absurd hmissing (by decide), fun dto' hdto _ => ?_⟩
    obtain rfl : dto = dto' := by simpa using hdto
    exact ⟨found, by simp, hcompare⟩
  cases found with
  | none => exact hinvalid (by simp)
  | some user =>
    change Prog.Obeys _ _ _ (tokens (if lib.compare dto.password user.passwordHash then signTokens lib user.id
      else .throw (.unauthorized "invalid credentials")))
    by_cases hcompare : lib.compare dto.password user.passwordHash = true
    · rw [if_pos hcompare]
      exact signTokens_guarded (.signedIn rfl rfl (by simp) hcompare)
    · rw [if_neg hcompare]
      exact hinvalid (by simpa using hcompare)

theorem refresh_guarded {token : String} :
    (tokens (refresh lib token)).Obeys (Guards lib (.refresh token)) (Ends lib (.refresh token)) [] := by
  refine guarded_call (c := .verify token) trivial (Refused.other (by decide) (by simp)) fun verified => ?_
  cases verified with
  | none => exact Refused.other (by decide) (by simp)
  | some payload =>
    obtain ⟨sub, type⟩ := payload
    cases type with
    | access => exact Refused.other (by decide) (by simp)
    | refresh =>
      refine guarded_call (c := .findById sub) trivial Refused.fault fun found => ?_
      cases found with
      | none => exact ⟨fun _ => ⟨token, ⟨sub, .refresh⟩, _, _, rfl, by simp, .inl rfl⟩, by simp⟩
      | some user => exact signTokens_guarded (.refreshed rfl rfl (by simp) (List.mem_cons_self ..))

/-- What a request does once it is admitted. -/
theorem canActivate_guarded {authorization : Option String} {f : JwtPayload → M Unit}
    (hq : q.token = bearer (authorization.getD ""))
    (hf : ∀ sub token, (f ⟨sub, .access⟩).Obeys (Guards lib q) (Ends lib q)
      [⟨.attach ⟨sub, .access⟩, some ()⟩, ⟨.verify token, some (some ⟨sub, .access⟩)⟩]) :
    ((canActivate authorization).bind f).Obeys (Guards lib q) (Ends lib q) [] := by
  unfold canActivate
  by_cases hheader : authorization.getD "" = ""
  · rw [if_pos hheader]
    exact Refused.other (by decide) (by simp)
  · rw [if_neg hheader]
    cases hbearer : bearer (authorization.getD "") with
    | none => exact Refused.other (by decide) (by simp)
    | some token =>
      refine guarded_call (c := .verify token) trivial (Refused.other (by decide) (by simp)) fun verified => ?_
      cases verified with
      | none => exact Refused.other (by decide) (by simp)
      | some payload =>
        obtain ⟨sub, type⟩ := payload
        cases type with
        | refresh => exact Refused.other (by decide) (by simp)
        | access =>
          refine guarded_call (c := .attach ⟨sub, .access⟩) ⟨rfl, token, hq.trans hbearer, by simp⟩ Refused.fault
            fun _ => ?_
          exact hf sub token

theorem me_guarded {authorization : Option String} {sub token : String} :
    (reply (me ⟨sub, .access⟩)).Obeys (Guards lib (.me authorization)) (Ends lib (.me authorization))
      [⟨.attach ⟨sub, .access⟩, some ()⟩, ⟨.verify token, some (some ⟨sub, .access⟩)⟩] := by
  refine guarded_call (c := .findById sub) trivial Refused.fault fun found => ?_
  cases found with
  | none => exact ⟨fun _ => ⟨token, ⟨sub, .access⟩, _, _, rfl, by simp, .inl rfl⟩, by simp⟩
  | some user => exact guarded_call (c := .respond (profile user)) ⟨sub, user, by simp, by simp, rfl⟩ Refused.fault fun _ => trivial

theorem updateMe_guarded {authorization : Option String} {sub token username : String}
    (haccepted : isUsername username = true) :
    (reply (updateMe ⟨sub, .access⟩ username)).Obeys (Guards lib (.updateMe authorization username))
      (Ends lib (.updateMe authorization username))
      [⟨.attach ⟨sub, .access⟩, some ()⟩, ⟨.verify token, some (some ⟨sub, .access⟩)⟩] := by
  refine guarded_call (c := .updateUsername sub username) ⟨haccepted, by simp⟩ Refused.fault fun updated => ?_
  rcases updated with violation | _ | _
  · exact Refused.other (by decide) (by simp)
  · exact ⟨fun _ => ⟨token, ⟨sub, .access⟩, _, _, rfl, by simp, .inr ⟨username, rfl⟩⟩, by simp⟩
  · refine guarded_call (c := .findById sub) trivial Refused.fault fun found => ?_
    cases found with
    | none => exact ⟨fun _ => ⟨token, ⟨sub, .access⟩, _, _, rfl, by simp, .inl rfl⟩, by simp⟩
    | some user =>
      exact guarded_call (c := .respond (profile user)) ⟨sub, user, by simp, by simp, rfl⟩ Refused.fault fun _ => trivial

theorem orDisconnect_guarded {e : Err} :
    ((orDisconnect (.error e)).bind fun _ => .pure ()).Obeys (Guards lib q) (Ends lib q) h := by
  cases e <;> exact guarded_call (c := .reject _) trivial Refused.fault fun _ => trivial

theorem connect_guarded {token : Option String} :
    (program lib (.connect token)).Obeys (Guards lib (.connect token)) (Ends lib (.connect token)) [] := by
  change Prog.Obeys _ _ _ ((authenticateOrDisconnect token).bind fun _ => .pure ())
  unfold authenticateOrDisconnect authenticate
  by_cases htoken : token.getD "" = ""
  · dsimp only
    rw [if_pos htoken]
    exact orDisconnect_guarded (e := .ws "auth.invalid")
  · obtain ⟨given, rfl⟩ : ∃ given, token = some given := by
      cases token with
      | none => exact absurd rfl htoken
      | some given => exact ⟨given, rfl⟩
    dsimp only
    rw [if_neg htoken]
    refine guarded_call (c := .verify given) trivial (orDisconnect_guarded (e := .ws "auth.expired")) fun verified => ?_
    cases verified with
    | none => exact orDisconnect_guarded (e := .ws "auth.expired")
    | some payload =>
      change Prog.Obeys _ _ _ (((if payload.type ≠ .access ∨ payload.sub = "" then .throw (.ws "auth.invalid")
        else (call (.attach payload)).bind fun _ => .pure payload.sub : M String).attempt.bind orDisconnect).bind fun _ => .pure ())
      split
      · exact orDisconnect_guarded (e := .ws "auth.invalid")
      · next hadmitted =>
        refine guarded_call (c := .attach payload) ⟨?_, given, rfl, by simp⟩ (orDisconnect_guarded (e := .fault))
          fun _ => trivial
        by_contra htype
        exact hadmitted (.inl htype)

/-- **What every request rests on**, whatever it is told. -/
theorem program_guarded (q : Request) : (program lib q).Obeys (Guards lib q) (Ends lib q) [] := by
  cases q with
  | register dto => exact checked_guarded register_guarded
  | login dto => exact checked_guarded fun _ => login_guarded
  | refresh token => exact checked_guarded fun _ => refresh_guarded
  | me authorization => exact canActivate_guarded rfl fun sub token => me_guarded
  | updateMe authorization username => exact canActivate_guarded rfl fun sub token => checked_guarded updateMe_guarded
  | rest authorization => exact canActivate_guarded rfl fun sub token => trivial
  | connect token => exact connect_guarded

end AutoChess.Auth
