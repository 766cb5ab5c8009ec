/-
The table of users in every run. A row comes from a registration, is never
taken away and keeps its email and its password; its name is the one it was
last given, for a request admitted as its user. Emails, names and ids are
each used once. The column `rating`, which the end of a match changes, is not
of this table.
-/
import AutoChess.Auth.Accounts
import AutoChess.Lib.Account
import Mathlib.Data.List.Nodup

namespace AutoChess.Auth

open Calls

variable (lib : Libraries)

/-! ## One call -/

/-- The row is new, and so is all it must have for itself. -/
structure Fresh (users : List User) (user : User) : Prop where
  id : ∀ other ∈ users, other.id ≠ user.id
  email : ∀ other ∈ users, other.email ≠ user.email
  username : ∀ other ∈ users, other.username ≠ user.username

/-- The rows, once the user is called by another name. -/
def renamed (id username : String) (users : List User) : List User :=
  users.map fun user => if user.id = id then { user with username := username } else user

/-- What a call does to the table. -/
inductive Changes (before : List User) : Cmd → List User → Prop where
  | kept (c : Cmd) : Changes before c before
  | inserted {user : User} (hfresh : Fresh before user) :
      Changes before (.insertUser user.email user.username user.passwordHash) (before ++ [user])
  | named {id username : String} (hfree : ∀ other ∈ before, other.id ≠ id → other.username ≠ username) :
      Changes before (.updateUsername id username) (renamed id username before)

variable {lib} {log : List AuthEvent} {s : Store} {e : AuthEvent}

theorem insertUser_cases (email username passwordHash : String) (s : Store) :
    (∃ violation, s.insertUser lib email username passwordHash = (.error violation, s)) ∨
      ∃ user, Fresh s.users user ∧ user.email = email ∧ user.username = username ∧ user.passwordHash = passwordHash ∧
        (s.insertUser lib email username passwordHash).1 = .ok user ∧
        (s.insertUser lib email username passwordHash).2.users = s.users ++ [user] := by
  unfold Store.insertUser
  dsimp only
  split
  · exact .inl ⟨_, rfl⟩
  · next hid =>
    split
    · exact .inl ⟨_, rfl⟩
    · next hemail =>
      split
      · exact .inl ⟨_, rfl⟩
      · next hname =>
        exact .inr ⟨_, ⟨by simpa using hid, by simpa using hemail, by simpa using hname⟩, rfl, rfl, rfl, rfl, rfl⟩

theorem act_changes (c : Cmd) (s : Store) : Changes s.users c (act lib c s).2.users := by
  cases c with
  | insertUser email username passwordHash =>
    rcases @insertUser_cases lib email username passwordHash s with
      ⟨violation, herror⟩ | ⟨user, hfresh, rfl, rfl, rfl, -, hafter⟩
    · simp only [act, herror]
      exact .kept _
    · simp only [act, hafter]
      exact .inserted hfresh
  | updateUsername id username =>
    simp only [act, Store.updateUsername]
    split
    · split
      · exact .kept _
      · next hfree => exact .named (by simpa using hfree)
    · exact .kept _
  | hash | findByEmail | findById | sign | verify | attach | respond | reject => exact .kept _

theorem does_changes (hdoes : (pool lib).Does e) : Changes e.before.users e.cmd e.after.users := by
  rcases hdoes.after_eq with hsame | hact
  · rw [hsame]
    exact .kept _
  · rw [hact]
    exact act_changes e.cmd e.before

/-! ## Rows -/

variable (lib)

/-- The user signed up by this call. -/
structure Registers (r : AuthEvent) (dto : RegisterDto) (user : User) : Prop where
  request : r.request = .register dto
  accepted : dto.accepted lib = true
  email : user.email = lib.toLowerCase dto.email
  hashed : ∃ salt, user.passwordHash = lib.hash salt dto.password
  before : ∀ other ∈ r.before.users, other.id ≠ user.id
  after : ∃ added ∈ r.after.users, added.id = user.id

/-- The name a call asked for, if the user is called so after it. -/
def naming (id : String) (e : AuthEvent) : Option String :=
  match e.cmd with
  | .insertUser _ username _ =>
    if e.after.users.any (fun user => user.id == id && user.username == username) then some username else none
  | .updateUsername id' username =>
    if id' = id ∧ e.after.users.any (fun user => user.id == id && user.username == username) then some username else none
  | _ => none

structure Sound (log : List AuthEvent) (users : List User) : Prop where
  ids : (users.map (·.id)).Nodup
  emails : (users.map (·.email)).Nodup
  usernames : (users.map (·.username)).Nodup
  words : ∀ user ∈ users, isUsername user.username = true
  registered : ∀ user ∈ users, ∃ r ∈ log, ∃ dto, Registers lib r dto user
  latest : ∀ user ∈ users, log.findSome? (naming user.id) = some user.username

variable {lib}

theorem Registers.renamed {r : AuthEvent} {dto : RegisterDto} {user : User} (h : Registers lib r dto user)
    (username : String) : Registers lib r dto { user with username := username } :=
  ⟨h.request, h.accepted, h.email, h.hashed, h.before, h.after⟩

theorem Sound.nil : Sound lib [] [] := ⟨by simp, by simp, by simp, by simp, by simp, by simp⟩

theorem nodup_append_one {α : Type} {f : User → α} {users : List User} {user : User}
    (h : (users.map f).Nodup) (hfresh : ∀ other ∈ users, f other ≠ f user) : ((users ++ [user]).map f).Nodup := by
  rw [List.map_append, List.nodup_append]
  refine ⟨h, by simp, fun a ha b hb => ?_⟩
  obtain ⟨other, hmem, rfl⟩ := List.mem_map.1 ha
  rw [List.map_singleton, List.mem_singleton] at hb
  rw [hb]
  exact hfresh other hmem

/-- A free name keeps the names distinct. -/
theorem nodup_renamed {id username : String} {users : List User} (hids : (users.map (·.id)).Nodup)
    (hnames : (users.map (·.username)).Nodup) (hfree : ∀ other ∈ users, other.id ≠ id → other.username ≠ username) :
    ((renamed id username users).map (·.username)).Nodup := by
  unfold renamed
  rw [List.nodup_iff_pairwise_ne, List.pairwise_map] at hids hnames
  rw [List.nodup_iff_pairwise_ne, List.pairwise_map, List.pairwise_map]
  refine (hids.and hnames).imp_of_mem fun {a b} ha hb hne => ?_
  by_cases hida : a.id = id
  · have hidb : b.id ≠ id := fun heq => hne.1 (hida.trans heq.symm)
    simpa [hida, hidb] using (hfree b hb hidb).symm
  · by_cases hidb : b.id = id
    · simpa [hida, hidb] using hfree a ha hida
    · simpa [hida, hidb] using hne.2

theorem renamed_map {α : Type} {f : User → α} (hf : ∀ user username, f { user with username := username } = f user)
    (id username : String) (users : List User) : (renamed id username users).map f = users.map f := by
  unfold renamed
  rw [List.map_map]
  refine List.map_congr_left fun user _ => ?_
  by_cases hid : user.id = id
  · rw [Function.comp_apply, if_pos hid, hf]
  · rw [Function.comp_apply, if_neg hid]

theorem same_user {users : List User} (hids : (users.map (·.id)).Nodup) {a b : User} (ha : a ∈ users) (hb : b ∈ users)
    (hid : a.id = b.id) : a = b := List.inj_on_of_nodup_map hids ha hb hid

theorem naming_some {id username : String} (h : naming id e = some username) :
    ∃ user ∈ e.after.users, user.id = id ∧ user.username = username := by
  unfold naming at h
  split at h
  · split at h
    · next hany =>
      cases h
      simpa using hany
    · cases h
  · split at h
    · next hany =>
      cases h
      simpa using hany.2
    · cases h
  · cases h

/-- The name a user had before stays the latest, unless the call gave another. -/
theorem latest_step (hids : (e.after.users.map (·.id)).Nodup)
    (hold : ∀ user ∈ e.after.users, naming user.id e = none → log.findSome? (naming user.id) = some user.username) :
    ∀ user ∈ e.after.users, (e :: log).findSome? (naming user.id) = some user.username := by
  intro user hmem
  rw [List.findSome?_cons]
  cases hname : naming user.id e with
  | none => exact hold user hmem hname
  | some username =>
    obtain ⟨other, hother, hid, rfl⟩ := naming_some hname
    rw [same_user hids hmem hother hid.symm]

theorem Sound.insert (hsound : Sound lib log e.before.users) {user : User} {dto : RegisterDto}
    (hfresh : Fresh e.before.users user) (hafter : e.after.users = e.before.users ++ [user])
    (hcmd : e.cmd = .insertUser user.email user.username user.passwordHash) (hword : isUsername user.username = true)
    (hregisters : Registers lib e dto user) : Sound lib (e :: log) e.after.users := by
  have hids : (e.after.users.map (·.id)).Nodup := hafter ▸ nodup_append_one hsound.ids hfresh.id
  have hmem : ∀ other ∈ e.after.users, other ∈ e.before.users ∨ other = user := fun other h => by
    rw [hafter] at h
    simpa using h
  refine ⟨hids, hafter ▸ nodup_append_one hsound.emails hfresh.email,
    hafter ▸ nodup_append_one hsound.usernames hfresh.username, ?_, ?_, latest_step hids ?_⟩
  · intro other h
    rcases hmem other h with hold | rfl
    · exact hsound.words other hold
    · exact hword
  · intro other h
    rcases hmem other h with hold | rfl
    · obtain ⟨r, hr, dto', hregisters'⟩ := hsound.registered other hold
      exact ⟨r, List.mem_cons_of_mem _ hr, dto', hregisters'⟩
    · exact ⟨e, List.mem_cons_self .., dto, hregisters⟩
  · intro other h hnone
    rcases hmem other h with hold | rfl
    · exact hsound.latest other hold
    · have hnamed : naming other.id e = some other.username := by
        unfold naming
        rw [hcmd]
        exact if_pos (by rw [List.any_eq_true]; exact ⟨other, h, by simp⟩)
      rw [hnamed] at hnone
      cases hnone

theorem Sound.rename (hsound : Sound lib log e.before.users) {id username : String}
    (hfree : ∀ other ∈ e.before.users, other.id ≠ id → other.username ≠ username)
    (hafter : e.after.users = renamed id username e.before.users) (hcmd : e.cmd = .updateUsername id username)
    (hword : isUsername username = true) : Sound lib (e :: log) e.after.users := by
  have hids : (e.after.users.map (·.id)).Nodup := by
    rw [hafter, renamed_map (fun _ _ => rfl)]
    exact hsound.ids
  -- A row is one of the old ones, or one of them with the name.
  have hmem : ∀ user ∈ e.after.users, user ∈ e.before.users ∧ user.id ≠ id ∨
      ∃ old ∈ e.before.users, old.id = id ∧ user = { old with username := username } := by
    intro user h
    rw [hafter] at h
    obtain ⟨old, hold, rfl⟩ := List.mem_map.1 h
    by_cases hid : old.id = id
    · rw [if_pos hid]
      exact .inr ⟨old, hold, hid, rfl⟩
    · rw [if_neg hid]
      exact .inl ⟨hold, hid⟩
  refine ⟨hids, ?_, hafter ▸ nodup_renamed hsound.ids hsound.usernames hfree, ?_, ?_, latest_step hids ?_⟩
  · rw [hafter, renamed_map (fun _ _ => rfl)]
    exact hsound.emails
  · intro user h
    rcases hmem user h with ⟨hold, -⟩ | ⟨old, hold, hid, rfl⟩
    · exact hsound.words user hold
    · exact hword
  · intro user h
    obtain ⟨r, hr, dto, hregisters⟩ : ∃ r ∈ log, ∃ dto, Registers lib r dto user := by
      rcases hmem user h with ⟨hold, -⟩ | ⟨old, hold, hid, rfl⟩
      · exact hsound.registered user hold
      · obtain ⟨r, hr, dto, hregisters⟩ := hsound.registered old hold
        exact ⟨r, hr, dto, hregisters.renamed username⟩
    exact ⟨r, List.mem_cons_of_mem _ hr, dto, hregisters⟩
  · intro user h hnone
    rcases hmem user h with ⟨hold, -⟩ | ⟨old, hold, hid, rfl⟩
    · exact hsound.latest user hold
    · have hnamed : naming old.id e = some username := by
        unfold naming
        rw [hcmd]
        exact if_pos ⟨hid.symm, by rw [List.any_eq_true]; exact ⟨_, h, by simp⟩⟩
      exact absurd (hnamed.symm.trans hnone) (by simp)

/-! ## Runs -/

/-- The log of a run, and the guard of each of its calls. -/
abbrev Story (lib : Libraries) := Chronicle (pool lib) (Guards lib) {}

/-- Who adds a row is registering. -/
theorem Story.registers (hstory : Story lib log e.before) {user : User} (hfresh : Fresh e.before.users user)
    (hafter : e.after.users = e.before.users ++ [user])
    (hguard : Guards lib e.request (own e.pid log) (.insertUser user.email user.username user.passwordHash)) :
    ∃ dto, Registers lib e dto user ∧ isUsername user.username = true := by
  obtain ⟨dto, hq, haccepted, hemail, hname, hhash⟩ := hguard
  obtain ⟨newer, drawn, older, -, -, -, hhashed, -⟩ := hstory.answered hhash
  refine ⟨dto, ⟨hq, haccepted, hemail, ⟨_, hhashed⟩, hfresh.id, user, by simp [hafter], rfl⟩, ?_⟩
  unfold RegisterDto.accepted at haccepted
  simp only [Bool.decide_and, Bool.decide_eq_true, Bool.and_eq_true] at haccepted
  rw [hname]
  exact haccepted.2.1

theorem Sound.call (hstory : Story lib log e.before) (hguard : Guards lib e.request (own e.pid log) e.cmd)
    (hdoes : (pool lib).Does e) (hsound : Sound lib log e.before.users) : Sound lib (e :: log) e.after.users := by
  have hchanges := does_changes hdoes
  generalize hcmd : e.cmd = c at hchanges hguard
  generalize hafter : e.after.users = after at hchanges
  cases hchanges with
  | kept =>
    have hids : (e.after.users.map (·.id)).Nodup := hafter ▸ hsound.ids
    rw [← hafter]
    refine ⟨hids, hafter ▸ hsound.emails, hafter ▸ hsound.usernames, hafter ▸ hsound.words, ?_, latest_step hids ?_⟩
    · rw [hafter]
      intro user hmem
      obtain ⟨r, hr, dto, hregisters⟩ := hsound.registered user hmem
      exact ⟨r, List.mem_cons_of_mem _ hr, dto, hregisters⟩
    · rw [hafter]
      exact fun user hmem _ => hsound.latest user hmem
  | @inserted user hfresh =>
    obtain ⟨dto, hregisters, hword⟩ := Story.registers hstory hfresh hafter hguard
    rw [← hafter]
    exact hsound.insert hfresh hafter hcmd hword hregisters
  | named hfree =>
    rw [← hafter]
    exact hsound.rename hfree hafter hcmd hguard.1

theorem Story.sound (h : Story lib log s) : Sound lib log s.users := by
  induction h with
  | start => exact Sound.nil
  | time _ _ ih => exact ih
  | call hstory hguard hdoes ih => exact Sound.call hstory hguard hdoes ih

/-- The row is there, whatever it is called. -/
def Kept (user : User) (s : Store) : Prop :=
  ∃ kept ∈ s.users, kept.id = user.id ∧ kept.email = user.email ∧ kept.passwordHash = user.passwordHash

theorem does_kept (hdoes : (pool lib).Does e) {user : User} (hkept : Kept user e.before) : Kept user e.after := by
  obtain ⟨kept, hmem, hsame⟩ := hkept
  have hchanges := does_changes hdoes
  unfold Kept
  generalize e.after.users = after at hchanges
  generalize e.cmd = c at hchanges
  cases hchanges with
  | kept => exact ⟨kept, hmem, hsame⟩
  | inserted => exact ⟨kept, List.mem_append_left _ hmem, hsame⟩
  | named =>
    refine ⟨_, List.mem_map_of_mem hmem, ?_⟩
    split <;> exact hsame

theorem Story.kept (h : Story lib log s) {e : AuthEvent} (hmem : e ∈ log) {user : User} (hkept : Kept user e.after) :
    Kept user s :=
  h.lasting (Kept user) (fun _ _ h => h) (fun _ hdoes hkept => does_kept hdoes hkept) hmem hkept

/-! ## Every run -/

variable (lib) (moves : List (Move Request Nat))

/-- The world after the moves. -/
def world : World Store Request Cmd Resp Err := (pool lib).run ⟨{}, [], []⟩ moves

variable {lib}

theorem world_story : Story lib (world lib moves).log (world lib moves).store :=
  Pool.run_chronicle (fun q => (program_guarded q).mono fun _ _ _ _ => trivial) moves

/-- What changes the table: a registration, or a request admitted as the user
whose name it is. -/
inductive Answers (lib : Libraries) (older : List AuthEvent) (e : AuthEvent) : Prop where
  | registered {dto : RegisterDto} {user : User} (hregisters : Registers lib e dto user)
      (hafter : e.after.users = e.before.users ++ [user])
  | renamed {id username : String} (hafter : e.after.users = renamed id username e.before.users)
      (hadmitted : ∃ a ∈ older, a.pid = e.pid ∧ a.cmd = .attach ⟨id, .access⟩)

theorem Story.answers (hstory : Story lib log e.before) (hguard : Guards lib e.request (own e.pid log) e.cmd)
    (hdoes : (pool lib).Does e) (hne : e.after.users ≠ e.before.users) : Answers lib log e := by
  have hchanges := does_changes hdoes
  generalize hcmd : e.cmd = c at hchanges hguard
  generalize hafter : e.after.users = after at hchanges
  cases hchanges with
  | kept => exact absurd hafter hne
  | @inserted user hfresh =>
    obtain ⟨dto, hregisters, -⟩ := Story.registers hstory hfresh hafter hguard
    exact .registered hregisters hafter
  | named =>
    obtain ⟨a, hmem, hpid, hcall⟩ := mem_own.1 hguard.2
    exact .renamed hafter ⟨a, hmem, hpid, congrArg Call.cmd hcall⟩

/-- What is known of the table after a run. -/
structure Roster (lib : Libraries) (log : List AuthEvent) (s : Store) : Prop where
  sound : Sound lib log s.users
  kept : ∀ e ∈ log, ∀ user ∈ e.after.users, Kept user s
  answers : ∀ newer e older, log = newer ++ e :: older → e.after.users ≠ e.before.users → Answers lib older e

/-- **Every run keeps the table of users.** -/
theorem run_users (lib : Libraries) (moves : List (Move Request Nat)) :
    Roster lib (world lib moves).log (world lib moves).store where
  sound := (world_story moves).sound
  kept _ hmem user huser := (world_story moves).kept hmem ⟨user, huser, rfl, rfl, rfl⟩
  answers newer e older hlog hne := by
    have hstory := @world_story lib moves
    rw [hlog] at hstory
    obtain ⟨holder, hguard, hdoes⟩ := hstory.of_split
    exact Story.answers holder hguard hdoes hne

end AutoChess.Auth
