/-
Accounts and tokens: `AuthService`, the two guards that admit a request or a
socket, and `/user/me`, over the table of users. Requests run at the same
time, each awaiting its calls, and a call can fail before or after it took
effect.

bcrypt, the JWT library, class-validator and `randomUUID` are not in the
repository; `Libraries` has what is used of them. Time is in seconds, as in a
token.
-/
import AutoChess.Lib.Pool
import Mathlib.Data.List.Infix

namespace AutoChess.Auth

open Calls

/-! ## Data -/

inductive TokenType where
  | access | refresh
  deriving DecidableEq, Repr

structure JwtPayload where
  sub : String
  type : TokenType
  deriving DecidableEq, Repr

structure User where
  id : String
  email : String
  username : String
  passwordHash : String
  rating : Int := 1000
  deriving DecidableEq, Repr

structure Store where
  now : Nat := 0
  users : List User := []
  /-- How many salts and ids were drawn. -/
  drawn : Nat := 0

structure Libraries where
  /-- `bcrypt.hash(password, 10)`, with the salt that is drawn. -/
  hash : Nat → String → String
  compare : String → String → Bool
  /-- `jwt.sign(payload, { expiresIn })` at a time. -/
  sign : JwtPayload → Nat → Nat → String
  /-- `jwt.verify(token)` at a time; `none` when it throws. -/
  verify : String → Nat → Option JwtPayload
  uuid : Nat → String
  toLowerCase : String → String
  isEmail : String → Bool
  minLength : String → Nat → Bool
  isJWT : String → Bool
  /-- `JWT_ACCESS_TTL ?? '7d'`. -/
  accessTtl : Nat
  /-- `JWT_REFRESH_TTL ?? '30d'`. -/
  refreshTtl : Nat

variable (lib : Libraries)

/-- `expiresIn` of a token. -/
def Libraries.ttl : TokenType → Nat
  | .access => lib.accessTtl
  | .refresh => lib.refreshTtl

/-! ## Requests -/

structure RegisterDto where
  email : String
  username : String
  password : String
  deriving DecidableEq, Repr

structure LoginDto where
  email : String
  password : String
  deriving DecidableEq, Repr

structure AuthResponse where
  userId : String
  accessToken : String
  refreshToken : String
  deriving DecidableEq, Repr

/-- `/^[a-zA-Z0-9_]+$/`, of a length from 3 to 20: of such characters every
length counts the same. -/
def isUsername (s : String) : Bool :=
  3 ≤ s.length ∧ s.length ≤ 20 ∧ s.toList.all fun c => c.isAlphanum || c == '_'

def RegisterDto.accepted (dto : RegisterDto) : Bool :=
  lib.isEmail dto.email ∧ isUsername dto.username ∧ lib.minLength dto.password 8

def LoginDto.accepted (dto : LoginDto) : Bool := lib.isEmail dto.email ∧ lib.minLength dto.password 1

/-- A request to the REST routes, with its `Authorization` header, or a socket,
with `handshake.auth.token`. -/
inductive Request where
  | register (dto : RegisterDto)
  | login (dto : LoginDto)
  | refresh (refreshToken : String)
  | me (authorization : Option String)
  | updateMe (authorization : Option String) (username : String)
  /-- Any other route of a guarded controller. -/
  | rest (authorization : Option String)
  | connect (token : Option String)
  deriving DecidableEq, Repr

/-! ## The table of users -/

/-- A column with a unique constraint, in the order they are checked. -/
inductive Column where
  | id | email | username
  deriving DecidableEq, Repr

def Column.name : Column → String
  | .id => "id"
  | .email => "email"
  | .username => "username"

/-- A unique violation, PG 23505. -/
structure Violation where
  column : Column
  value : String
  deriving DecidableEq, Repr

def Violation.detail (violation : Violation) : String :=
  "Key (" ++ violation.column.name ++ ")=(" ++ violation.value ++ ") already exists."

def Store.insertUser (email username passwordHash : String) (s : Store) : Except Violation User × Store :=
  let user : User := { id := lib.uuid s.drawn, email := email, username := username, passwordHash := passwordHash }
  if s.users.any (·.id == user.id) then (.error ⟨.id, user.id⟩, s)
  else if s.users.any (·.email == email) then (.error ⟨.email, email⟩, s)
  else if s.users.any (·.username == username) then (.error ⟨.username, username⟩, s)
  else (.ok user, { s with users := s.users ++ [user], drawn := s.drawn + 1 })

/-- `update({ id }, { username })`; whether a row was affected. -/
def Store.updateUsername (id username : String) (s : Store) : Except Violation Bool × Store :=
  if s.users.any (·.id == id) then
    if s.users.any (fun user => user.id != id && user.username == username) then (.error ⟨.username, username⟩, s)
    else
      (.ok true,
        { s with users := s.users.map fun user => if user.id = id then { user with username := username } else user })
  else (.ok false, s)

/-! ## Calls -/

inductive Response where
  | auth (response : AuthResponse)
  | profile (id email username : String) (rating : Int)
  deriving DecidableEq, Repr

inductive Cmd where
  | hash (password : String)
  | insertUser (email username passwordHash : String)
  | findByEmail (email : String)
  | findById (id : String)
  | updateUsername (id username : String)
  | sign (payload : JwtPayload) (expiresIn : Nat)
  | verify (token : String)
  /-- `req.user = payload`, or `client.data.user = payload`: what comes now is
  done in the name of the user. -/
  | attach (payload : JwtPayload)
  | respond (response : Response)
  /-- `game:error { code }`, and the socket is disconnected. -/
  | reject (code : String)
  deriving DecidableEq

abbrev Resp : Cmd → Type
  | .hash _ | .sign _ _ => String
  | .insertUser _ _ _ => Except Violation User
  | .findByEmail _ | .findById _ => Option User
  | .updateUsername _ _ => Except Violation Bool
  | .verify _ => Option JwtPayload
  | .attach _ | .respond _ | .reject _ => Unit

def act : (c : Cmd) → Store → Resp c × Store
  | .hash password, s => (lib.hash s.drawn password, { s with drawn := s.drawn + 1 })
  | .insertUser email username passwordHash, s => s.insertUser lib email username passwordHash
  | .findByEmail email, s => (s.users.find? (·.email == email), s)
  | .findById id, s => (s.users.find? (·.id == id), s)
  | .updateUsername id username, s => s.updateUsername id username
  | .sign payload expiresIn, s => (lib.sign payload expiresIn s.now, s)
  | .verify token, s => (lib.verify token s.now, s)
  | .attach _, s | .respond _, s | .reject _, s => ((), s)

inductive Err where
  | badRequest
  | conflict (message : String)
  | unauthorized (message : String)
  | notFound (message : String)
  | ws (code : String)
  | fault
  deriving DecidableEq, Repr

abbrev M := Prog Cmd Resp Err

def call (c : Cmd) : M (Resp c) := Prog.perform .fault c

/-! ## `AuthService` -/

def includes (s part : String) : Bool := part.toList <:+: s.toList

/-- The field a conflict is reported for. -/
def conflictField (detail : String) : String :=
  if includes detail "email" then "email" else if includes detail "username" then "username" else "field"

def signTokens (userId : String) : M AuthResponse := do
  let accessToken ← call (.sign ⟨userId, .access⟩ lib.accessTtl)
  let refreshToken ← call (.sign ⟨userId, .refresh⟩ lib.refreshTtl)
  return ⟨userId, accessToken, refreshToken⟩

def register (dto : RegisterDto) : M AuthResponse := do
  let passwordHash ← call (.hash dto.password)
  match ← call (.insertUser (lib.toLowerCase dto.email) dto.username passwordHash) with
  | .error violation => .throw (.conflict (conflictField violation.detail ++ " already in use"))
  | .ok user => signTokens lib user.id

def findByEmail (email : String) : M (Option User) := call (.findByEmail (lib.toLowerCase email))

def login (dto : LoginDto) : M AuthResponse := do
  match ← findByEmail lib dto.email with
  | none => .throw (.unauthorized "invalid credentials")
  | some user =>
    if lib.compare dto.password user.passwordHash then signTokens lib user.id
    else .throw (.unauthorized "invalid credentials")

/-- `jwt.verify(token)`; whatever it throws becomes `e`. -/
def verify (token : String) (e : Err) : M JwtPayload := do
  match ← (call (.verify token)).attempt with
  | .ok (some payload) => return payload
  | _ => .throw e

def refresh (refreshToken : String) : M AuthResponse := do
  let payload ← verify refreshToken (.unauthorized "invalid or expired refresh token")
  if payload.type ≠ .refresh then .throw (.unauthorized "refresh token required")
  else
    match ← call (.findById payload.sub) with
    | none => .throw (.unauthorized "user no longer exists")
    | some user => signTokens lib user.id

/-! ## The guards -/

/-- `const [scheme, token] = header.split(' ')`, for a bearer token. -/
def bearer (header : String) : Option String :=
  match (header.toList.splitOn ' ').map String.ofList with
  | scheme :: token :: _ => if scheme = "Bearer" ∧ token ≠ "" then some token else none
  | _ => none

/-- `JwtAccessGuard`. -/
def canActivate (authorization : Option String) : M JwtPayload := do
  let header := authorization.getD ""
  if header = "" then .throw (.unauthorized "missing Authorization header")
  else
    match bearer header with
    | none => .throw (.unauthorized "Authorization must be: Bearer <token>")
    | some token => do
      let payload ← verify token (.unauthorized "invalid or expired token")
      if payload.type ≠ .access then .throw (.unauthorized "access token required (got refresh?)")
      else
        call (.attach payload)
        return payload

/-- `WsAuthGuard`. -/
def authenticate (token : Option String) : M String := do
  let token := token.getD ""
  if token = "" then .throw (.ws "auth.invalid")
  else
    let payload ← verify token (.ws "auth.expired")
    if payload.type ≠ .access ∨ payload.sub = "" then .throw (.ws "auth.invalid")
    else
      call (.attach payload)
      return payload.sub

/-- The user of a socket, or none after its connection is rejected. -/
def orDisconnect : Except Err String → M (Option String)
  | .ok userId => return some userId
  | .error (.ws code) => do
    call (.reject code)
    return none
  | .error _ => do
    call (.reject "auth.invalid")
    return none

def authenticateOrDisconnect (token : Option String) : M (Option String) := do
  let outcome ← (authenticate token).attempt
  orDisconnect outcome

/-! ## `/user/me` -/

def profile (user : User) : Response := .profile user.id user.email user.username user.rating

def me (jwt : JwtPayload) : M Response := do
  match ← call (.findById jwt.sub) with
  | none => .throw (.conflict "user not found")
  | some user => return profile user

def updateUsername (id username : String) : M (Except Violation User) := do
  match ← call (.updateUsername id username) with
  | .error violation => return .error violation
  | .ok false => .throw (.notFound ("user " ++ id ++ " not found"))
  | .ok true =>
    match ← call (.findById id) with
    | none => .throw (.notFound ("user " ++ id ++ " not found after update"))
    | some fresh => return .ok fresh

def updateMe (jwt : JwtPayload) (username : String) : M Response := do
  match ← updateUsername jwt.sub username with
  | .error _ => .throw (.conflict "username already in use")
  | .ok updated => return profile updated

/-! ## Requests in progress -/

/-- The reply of a handler. -/
def reply (handler : M Response) : M Unit := do
  let response ← handler
  call (.respond response)

/-- The tokens of a handler, as its reply. -/
def tokens (handler : M AuthResponse) : M Unit := reply do
  let response ← handler
  return .auth response

/-- A body that is not accepted never reaches its handler. -/
def checked (accepted : Bool) (handler : M Unit) : M Unit := if accepted then handler else .throw .badRequest

def program : Request → M Unit
  | .register dto => checked (dto.accepted lib) (tokens (register lib dto))
  | .login dto => checked (dto.accepted lib) (tokens (login lib dto))
  | .refresh refreshToken => checked (lib.isJWT refreshToken) (tokens (refresh lib refreshToken))
  | .me authorization => do
    let jwt ← canActivate authorization
    reply (me jwt)
  | .updateMe authorization username => do
    let jwt ← canActivate authorization
    checked (isUsername username) (reply (updateMe jwt username))
  | .rest authorization => do
    let _ ← canActivate authorization
    return ()
  | .connect token => do
    let _ ← authenticateOrDisconnect token
    return ()

def pool : Pool Store Request Nat Cmd Resp Err where
  act := act lib
  env := fun seconds s => { s with now := s.now + seconds }
  program := program lib

end AutoChess.Auth
