/-
The lifecycle of a user
(`app/platform/services/user.py`, `identity.py`, `app/platform/api/dealerships.py`).

A user begins as `invited`.  The status is then written by two kinds of
operations: `update_user`, reached from the `PATCH`, the deactivation step and
the nightly expiry, and the two flows of the front door that set a password.
Each of them holds the user row from its first read to its commit, so a
history is a sequence of operations.  Sign-ins and the other writers of a
credential touch its counters only and are in `SignIn`.
-/
import Nexotec.Platform.Managers
import Nexotec.Platform.SignIn

namespace Nexotec.UserLifecycle

open Platform Auth

/-! ### Operations -/

structure State where
  now : Time := 0
  dealerships : List Uuid := []
  accounts : Table Uuid Account := ∅
  memberships : Table (Uuid × Uuid) Membership := ∅

def State.db (s : State) : PlatformDb where
  dealerships := s.dealerships
  users := s.accounts.mapRows fun _ a => a.user
  memberships := s.memberships
  credentials := s.accounts.selectKeys fun _ a => a.credential.isSome

/-- The fields of `UserCreate` that `User` models, the address lower-cased. -/
structure UserCreate where
  email : String
  accessRoles : List AccessRole
  isDealerManager : Bool := false
  employmentStatus : EmploymentStatus := .active
  lineManagerUserId : Option Uuid := none
  validFrom : Option Platform.Date := none
  validTo : Option Platform.Date := none

/-- The row `create_user` adds. -/
def UserCreate.row (data : UserCreate) (dealershipId actorId : Uuid) : User where
  tenantId := dealershipId
  email := data.email
  accessRoles := roleValues data.accessRoles
  isDealerManager := data.isDealerManager
  employmentStatus := data.employmentStatus
  lineManagerUserId := data.lineManagerUserId
  validFrom := data.validFrom
  validTo := data.validTo
  updatedBy := some actorId

def createUser (db : PlatformDb) (dealershipId userId : Uuid) (data : UserCreate) (actorId : Uuid)
    (actorRoles : List AccessRole) : Result User := do
  assertMayCreateWithRoles data.accessRoles actorRoles
  let user := data.row dealershipId actorId
  assertLineManager db userId user { lineManagerUserId := some data.lineManagerUserId }
  if (db.users.search fun _ row => row.email = data.email).isSome then
    throw (conflictError "A user with this email address already exists." [("email", data.email)])
  pure user

/-- The route that creates a user: the user and the invitation are committed
together (FR-A-09). -/
def create (s : State) (dealershipId userId raw : Uuid) (data : UserCreate) (actorId : Uuid)
    (actorRoles : List AccessRole) : Result State := do
  if dealershipId ∉ s.dealerships then
    throw (notFoundError s!"Dealership {dealershipId} was not found.")
  let user ← createUser s.db dealershipId userId data actorId actorRoles
  let accounts ← insertRow s.accounts userId (issue s.now .invitation raw { user := user })
  pure { s with accounts := accounts }

def emailChanged (now : Time) (a : Account) : Account :=
  revokeAllForUser now "email_changed"
    (consumeAllForUser now [.invitation, .passwordReset] { a with replaced := a.replaced + 1 })

/-- The sessions `update_user` ends on the row, which was `old`. -/
def endSessions (now : Time) (old : User) (a : Account) : Account :=
  if a.user.status ≠ old.status ∧ isInactive a.user.status then
    revokeAllForUser now a.user.status.value a
  else if a.user.accessRoles ≠ old.accessRoles ∨ a.user.isDealerManager ≠ old.isDealerManager then
    revokeAllForUser now "access_changed" a
  else a

/-- The account after a write of the user administration. -/
def written (write : Write) (now : Time) (a : Account) : Account :=
  match write with
  | .update .. =>
    let moved := { a with user := write.user now a.user }
    endSessions now a.user
      (if moved.user.email = a.user.email then moved else emailChanged now moved)
  | .grantMembership .. | .endMembership .. | .membershipFlag .. | .homeFlag .. =>
    revokeAllForUser now "access_changed" { a with user := write.user now a.user }

def administer (s : State) (call : Call) : Result State := do
  let user ← getUserForUpdateOr404 s.db call.dealershipId call.userId
  Managers.checkCall call user
  match ← plan s.db s.now call user with
  | none => pure s
  | some p =>
    p.checks.forM fun check => assertNotLastManager check
      (otherHomeManager s.db check.dealershipId call.userId)
      (otherManagerByMembership s.db s.now check.dealershipId call.userId)
    let db ← p.write.commit s.now call.userId s.db
    pure { s with
      accounts := s.accounts.modify call.userId (written p.write s.now)
      memberships := db.memberships }

/-- A request of the front door that is no attempt to sign in; `id` is the id of
a token or a session it may write. -/
def frontDoor (env : Env) (s : State) (request : SignIn.Request) (id : Uuid) : Result State := do
  let (userId, work) ← orNotFound (request.find env s.accounts s.now s.now)
    "This link is no longer valid — request a new one."
  let a ← orNotFound (s.accounts.lookup userId) s!"User {userId} was not found."
  let (a, _) ← work.run env s.now userId id (work.taken s.accounts) a
  pure { s with accounts := s.accounts.insert userId a }

inductive Op where
  | create (dealershipId userId raw : Uuid) (data : UserCreate) (actorId : Uuid)
      (actorRoles : List AccessRole)
  /-- A `PATCH`, a deactivation, a reactivation or a change of memberships. -/
  | administer (call : Call)
  | requestReset (email : String) (raw : Uuid)
  | invite (userId raw : Uuid)
  | changeEmail (userId actorId : Uuid) (email : String)
  | accept (raw : Uuid) (password : String) (id : Uuid)
  | confirmReset (raw : Uuid) (password : String)
  | tick (now : Time)

def Op.run (env : Env) (s : State) : Op → Result State
  | .create dealershipId userId raw data actorId actorRoles =>
    UserLifecycle.create s dealershipId userId raw data actorId actorRoles
  | .administer call => UserLifecycle.administer s call
  | .requestReset email raw => frontDoor env s (.requestReset email) raw
  | .invite userId raw => frontDoor env s (.invite userId) raw
  | .changeEmail userId actorId email => frontDoor env s (.changeEmail userId actorId email) 0
  | .accept raw password id => frontDoor env s (.accept raw password) id
  | .confirmReset raw password => frontDoor env s (.reset raw password) 0
  | .tick now => .ok { s with now := max s.now now }

def next (env : Env) (s : State) (op : Op) : State :=
  match op.run env s with
  | .ok s' => s'
  | .error _ => s

def opening (now : Time) (dealerships : List Uuid) : State :=
  { now := now, dealerships := dealerships }

/-! ### The steps of the lifecycle -/

/-- The operation is a `PATCH` of the user that asks for `active`. -/
def Activates (userId : Uuid) : Op → Prop
  | .administer call => call.userId = userId ∧
      ∃ ifMatch data, call.request = .patch ifMatch data ∧ data.status = some .active
  | .create .. | .requestReset .. | .invite .. | .changeEmail .. | .accept .. | .confirmReset ..
  | .tick _ => False

/-- The operation calls `set_password` with a token of the kind that is live and
of this user. -/
def SetsPassword (s : State) (userId : Uuid) (password : String) : Op → Prop
  | .accept raw password' _ => password' = password ∧
      ∃ a, s.accounts.lookup userId = some a ∧ (peek s.now .invitation raw a).isSome
  | .confirmReset raw password' => password' = password ∧
      ∃ a, s.accounts.lookup userId = some a ∧ (peek s.now .passwordReset raw a).isSome
  | .create .. | .administer _ | .requestReset .. | .invite .. | .changeEmail .. | .tick _ => False

/-- What an operation does to one account's status and credential. -/
inductive Change (s : State) (op : Op) (userId : Uuid) : Option Account → Account → Prop
  | created (b : Account) (hstatus : b.user.status = .invited) (hcredential : b.credential = none) :
      Change s op userId none b
  | kept (a b : Account) (hstatus : b.user.status = a.user.status)
      (hcredential : b.credential = a.credential) : Change s op userId (some a) b
  | deactivated (a b : Account) (hstatus : b.user.status = .deactivated)
      (hcredential : b.credential = a.credential) : Change s op userId (some a) b
  | suspended (a b : Account) (hbefore : a.user.status = .active)
      (hstatus : b.user.status = .suspended) (hcredential : b.credential = a.credential) :
      Change s op userId (some a) b
  | unsuspended (a b : Account) (hop : Activates userId op) (hbefore : a.user.status = .suspended)
      (hstatus : b.user.status = .active) (hcredential : b.credential = a.credential) :
      Change s op userId (some a) b
  | reactivated (a b : Account) (hop : Activates userId op)
      (hbefore : a.user.status = .deactivated)
      (hstatus : b.user.status = if a.credential.isSome then .active else .invited)
      (hcredential : b.credential = a.credential) : Change s op userId (some a) b
  | passwordSet (a b : Account) (c : Credential) (hop : SetsPassword s userId c.password op)
      (hbefore : a.user.status = .invited ∨ a.user.status = .active)
      (hstatus : b.user.status = .active) (hcredential : b.credential = some c) :
      Change s op userId (some a) b

section Updates

variable {db : PlatformDb} {now : Time} {userId : Uuid} {user : User}

theorem resultingStatus_withInvitation (changes : UserUpdate) (hasCredential : Bool) :
    (changes.withInvitation user hasCredential).resultingStatus user =
      if changes.status = some .active ∧ user.status = .deactivated ∧ hasCredential = false then
        .invited else changes.resultingStatus user := by
  unfold UserUpdate.withInvitation
  split <;> rfl

/-- The statuses `update_user` can write. -/
theorem resultingStatus_cases {data changes : UserUpdate} {actorRoles : List AccessRole} {allow : Bool}
    (h : settleChanges db now userId user data actorRoles allow = .ok changes) :
    changes.resultingStatus user = user.status ∨ changes.resultingStatus user = .deactivated ∨
      (user.status = .active ∧ changes.resultingStatus user = .suspended) ∨
      (data.status = some .active ∧ user.status = .suspended ∧
        changes.resultingStatus user = .active) ∨
      (data.status = some .active ∧ user.status = .deactivated ∧
        changes.resultingStatus user = if userId ∈ db.credentials then .active else .invited) := by
  obtain ⟨-, -, h⟩ := Result.of_bind h
  obtain ⟨-, -, h⟩ := Result.of_bind h
  obtain ⟨_, hchannel, h⟩ := Result.of_bind h
  obtain ⟨-, -, h⟩ := Result.of_bind h
  dsimp only at h
  obtain ⟨-, -, h⟩ := Result.of_bind h
  obtain ⟨-, -, h⟩ := Result.of_bind h
  obtain ⟨_, hlifecycle, h⟩ := Result.of_bind h
  obtain ⟨-, -, h⟩ := Result.of_bind h
  obtain ⟨-, -, h⟩ := Result.of_bind h
  cases h
  by_cases hended : data.employmentStatus = some .terminated ∧ user.status ≠ .deactivated
  · -- a termination deactivates whatever else the body says
    right
    left
    simp [UserUpdate.withTermination, hended, UserUpdate.withInvitation, UserUpdate.resultingStatus]
  · simp only [UserUpdate.withTermination, if_neg hended] at hlifecycle ⊢
    have hinvited : data.status = some .invited → user.status = .invited := by
      intro hdata
      by_contra hne
      simp [assertCredentialChannelRules, hdata, hne] at hchannel
    have hactive : data.status = some .active → user.status ≠ .invited := by
      intro hdata hold
      simp [assertLifecycleStep, hdata, hold] at hlifecycle
    have hsuspended : data.status = some .suspended → user.status = .active := by
      intro hdata
      by_contra hne
      simp [assertLifecycleStep, hdata, hne] at hlifecycle
    rw [resultingStatus_withInvitation]
    cases hdata : data.status with
    | none => simp [UserUpdate.resultingStatus, hdata]
    | some status =>
      cases status with
      | invited => simp [UserUpdate.resultingStatus, hdata, hinvited hdata]
      | deactivated => simp [UserUpdate.resultingStatus, hdata]
      | suspended => simp [UserUpdate.resultingStatus, hdata, hsuspended hdata]
      | active =>
        have hnot := hactive hdata
        cases hold : user.status with
        | invited => exact absurd hold hnot
        | active => simp [UserUpdate.resultingStatus, hdata]
        | suspended => simp [UserUpdate.resultingStatus, hdata]
        | deactivated => simp [UserUpdate.resultingStatus, hdata]

theorem status_of_plan {call : Call} {p : Plan} (h : plan db now call user = .ok (some p)) :
    (p.write.user now user).status = user.status ∨ ∃ data actorRoles allow changes,
        settleChanges db now call.userId user data actorRoles allow = .ok changes ∧
        (p.write.user now user).status = changes.resultingStatus user ∧
        (data.status = some .active → ∃ ifMatch, call.request = .patch ifMatch data) := by
  have hupdate : ∀ {data actorId actorRoles reason allow},
      updateUser db now call.userId user data actorId actorRoles reason allow = .ok p →
      ∃ changes, settleChanges db now call.userId user data actorRoles allow = .ok changes ∧
        (p.write.user now user).status = changes.resultingStatus user := by
    intro data actorId actorRoles reason allow h
    obtain ⟨changes, hchanges, hp⟩ := Result.of_bind h
    cases hp
    exact ⟨changes, hchanges, rfl⟩
  unfold plan at h
  split at h
  · next ifMatch data hrequest =>
    obtain ⟨changes, hchanges, hstatus⟩ := hupdate (of_map_some h)
    exact .inr ⟨data, _, _, changes, hchanges, hstatus, fun _ => ⟨ifMatch, hrequest⟩⟩
  · obtain ⟨-, -, h⟩ := Result.of_bind (of_map_some h)
    obtain ⟨-, -, h⟩ := Result.of_bind h
    obtain ⟨changes, hchanges, hstatus⟩ := hupdate h
    exact .inr ⟨_, _, _, changes, hchanges, hstatus, nofun⟩
  · split at h
    · obtain ⟨changes, hchanges, hstatus⟩ := hupdate (of_map_some h)
      exact .inr ⟨_, _, _, changes, hchanges, hstatus, nofun⟩
    · cases h
  · have h := of_map_some h
    simp only [grantMembership] at h
    split at h
    · cases h
    split at h
    · cases h
    obtain ⟨-, -, h⟩ := Result.of_bind h
    obtain ⟨-, -, h⟩ := Result.of_bind h
    split at h
    · cases h
    split at h
    · cases h
    · cases h
      exact .inl rfl
  · have h := of_map_some h
    obtain ⟨row, -, h⟩ := Result.of_bind h
    cases h
    exact .inl rfl
  · obtain ⟨row, -, h⟩ := Result.of_bind h
    split at h
    · cases h
    · obtain ⟨-, -, h⟩ := Result.of_bind h
      cases h
      exact .inl rfl
  · obtain ⟨-, -, h⟩ := Result.of_bind h
    split at h
    · cases h
    · obtain ⟨-, -, h⟩ := Result.of_bind h
      cases h
      exact .inl rfl

@[simp] theorem endSessions_user (now : Time) (old : User) (a : Account) :
    (endSessions now old a).user = a.user := by
  unfold endSessions
  split
  · rfl
  · split <;> rfl

@[simp] theorem endSessions_credential (now : Time) (old : User) (a : Account) :
    (endSessions now old a).credential = a.credential := by
  unfold endSessions
  split
  · rfl
  · split <;> rfl

@[simp] theorem written_user (write : Write) (now : Time) (a : Account) :
    (written write now a).user = write.user now a.user := by
  cases write with
  | update =>
    simp only [written, endSessions_user]
    split <;> rfl
  | grantMembership | endMembership | membershipFlag | homeFlag => rfl

@[simp] theorem written_credential (write : Write) (now : Time) (a : Account) :
    (written write now a).credential = a.credential := by
  cases write with
  | update =>
    simp only [written, endSessions_credential]
    split <;> rfl
  | grantMembership | endMembership | membershipFlag | homeFlag => rfl

end Updates

section FrontDoor

variable {env : Env} {now : Time} {userId raw id : Uuid} {password : String} {a b : Account}

/-- The password has been set and the account is active. -/
structure Entered (password : String) (a b : Account) : Prop where
  before : a.user.status = .invited ∨ a.user.status = .active
  status : b.user.status = .active
  credential : ∃ c, b.credential = some c ∧ c.password = password

theorem setPassword_eq_ok (h : setPassword env password a = .ok b) :
    b.user = a.user ∧ ∃ c, b.credential = some c ∧ c.password = password := by
  obtain ⟨-, -, h⟩ := Result.of_bind h
  dsimp only at h
  split at h
  · cases h
  · cases h
    exact ⟨rfl, _, rfl, rfl⟩

theorem entered_activate (userId : Uuid) (hstatus : isInactive a.user.status = false)
    (h : setPassword env password a = .ok b) : Entered password a (activate userId b) := by
  obtain ⟨huser, hcredential⟩ := setPassword_eq_ok h
  rw [← huser] at hstatus
  have hbefore : b.user.status = .invited ∨ b.user.status = .active := by
    cases hb : b.user.status <;> simp_all [isInactive]
  refine ⟨huser ▸ hbefore, ?_, by rw [activate_credential]; exact hcredential⟩
  unfold activate
  rcases hbefore with hb | hb
  · rw [if_pos hb]
  · rw [if_neg (by simp [hb]), hb]

theorem entered_confirmPasswordReset (h : confirmPasswordReset env now userId raw password a = .ok b) :
    (peek now .passwordReset raw a).isSome ∧ Entered password a b := by
  obtain ⟨consumed, set, hconsume, hinactive, hset, rfl⟩ := confirmPasswordReset_eq_ok h
  obtain ⟨token, hpeek, rfl⟩ := Option.map_eq_some_iff.mp hconsume
  obtain ⟨hbefore, hstatus, hcredential⟩ := entered_activate userId hinactive hset
  exact ⟨Option.isSome_of_mem hpeek, hbefore, hstatus, hcredential⟩

theorem entered_acceptInvitation (h : acceptInvitation env now userId raw password a = .ok b) :
    (peek now .invitation raw a).isSome ∧ Entered password a b := by
  obtain ⟨consumed, set, hconsume, hinactive, hset, rfl⟩ := acceptInvitation_eq_ok h
  obtain ⟨token, hpeek, rfl⟩ := Option.map_eq_some_iff.mp hconsume
  obtain ⟨hbefore, hstatus, hcredential⟩ := entered_activate userId hinactive hset
  exact ⟨Option.isSome_of_mem hpeek, hbefore, hstatus, hcredential⟩

theorem Entered.passwordAccepted {c : Account} {events : List SignIn.Event} (h : Entered password a b)
    (haccept : SignIn.passwordAccepted env now id b = .ok (c, events)) : Entered password a c := by
  obtain ⟨hbefore, hstatus, cred, hcred, hpassword⟩ := h
  unfold SignIn.passwordAccepted at haccept
  split at haccept
  · cases haccept
    exact ⟨hbefore, hstatus, cred, hcred, hpassword⟩
  · obtain ⟨finished, hfinish, hc⟩ := Result.of_bind haccept
    cases hc
    obtain ⟨minted, hmint, hfinished⟩ := Result.of_bind hfinish
    cases hfinished
    unfold mintSession at hmint
    split at hmint
    · cases hmint
    · cases hmint
      refine ⟨hbefore, hstatus, cred.cleared, ?_, hpassword⟩
      simp [loginCompleted, hcred]

end FrontDoor

section Steps

variable {env : Env} {s s' : State} {op : Op} {userId : Uuid} {b : Account}

theorem mem_credentials {a : Account} (ha : s.accounts.lookup userId = some a) :
    userId ∈ s.db.credentials ↔ a.credential.isSome = true := by
  simp [State.db, Table.mem_selectKeys, ha]

theorem getUserForUpdateOr404_eq_ok {dealershipId : Uuid} {user : User}
    (h : getUserForUpdateOr404 s.db dealershipId userId = .ok user) :
    ∃ a, s.accounts.lookup userId = some a ∧ a.user = user := by
  obtain ⟨hlookup, -⟩ := Option.filter_eq_some_iff.mp (orNotFound_eq_ok.mp h)
  rw [State.db, Table.lookup_mapRows] at hlookup
  exact Option.map_eq_some_iff.mp hlookup

theorem Change.of_lookup (hb : s.accounts.lookup userId = some b) :
    Change s op userId (s.accounts.lookup userId) b := by
  rw [hb]
  exact .kept b b rfl rfl

theorem change_create {dealershipId id raw actorId : Uuid} {data : UserCreate}
    {actorRoles : List AccessRole}
    (h : create s dealershipId id raw data actorId actorRoles = .ok s')
    (hb : s'.accounts.lookup userId = some b) : Change s op userId (s.accounts.lookup userId) b := by
  unfold create at h
  split at h
  · cases h
  · obtain ⟨user, huser, h⟩ := Result.of_bind h
    obtain ⟨accounts, haccounts, h⟩ := Result.of_bind h
    cases h
    obtain ⟨hnone, rfl⟩ := insertRow_eq_ok haccounts
    rcases Table.lookup_insert_cases hb with ⟨rfl, rfl⟩ | ⟨-, hold⟩
    · rw [hnone]
      refine .created _ ?_ rfl
      obtain ⟨-, -, huser⟩ := Result.of_bind huser
      obtain ⟨-, -, huser⟩ := Result.of_bind huser
      split at huser
      · cases huser
      · cases huser
        rfl
    · exact .of_lookup hold

theorem change_administer {call : Call} (h : administer s call = .ok s')
    (hb : s'.accounts.lookup userId = some b) :
    Change s (.administer call) userId (s.accounts.lookup userId) b := by
  obtain ⟨user, huser, h⟩ := Result.of_bind h
  obtain ⟨-, -, h⟩ := Result.of_bind h
  obtain ⟨planned, hplan, h⟩ := Result.of_bind h
  split at h
  · cases h
    exact .of_lookup hb
  · next p =>
    obtain ⟨-, -, h⟩ := Result.of_bind h
    obtain ⟨db, -, h⟩ := Result.of_bind h
    cases h
    by_cases hid : userId = call.userId
    · subst hid
      obtain ⟨a, ha, rfl⟩ := getUserForUpdateOr404_eq_ok huser
      rw [Table.lookup_modify_self, ha] at hb
      cases hb
      rw [ha]
      rcases status_of_plan hplan with hkept | ⟨data, roles, allow, changes, hsettled, hstatus, hpatch⟩
      · exact .kept a _ (by simpa using hkept) (by simp)
      · have hactivates : data.status = some .active → Activates call.userId (.administer call) :=
          fun hactive => ⟨rfl, (hpatch hactive).imp fun _ hrequest => ⟨data, hrequest, hactive⟩⟩
        rcases resultingStatus_cases hsettled with hsame | hended | ⟨hbefore, hsuspended⟩ |
          ⟨hactive, hbefore, hafter⟩ | ⟨hactive, hbefore, hafter⟩
        · exact .kept a _ (by simp [hstatus, hsame]) (by simp)
        · exact .deactivated a _ (by simp [hstatus, hended]) (by simp)
        · exact .suspended a _ hbefore (by simp [hstatus, hsuspended]) (by simp)
        · exact .unsuspended a _ (hactivates hactive) hbefore (by simp [hstatus, hafter]) (by simp)
        · refine .reactivated a _ (hactivates hactive) hbefore ?_ (by simp)
          simp only [written_user, hstatus, hafter, mem_credentials ha]
    · rw [Table.lookup_modify_ne hid] at hb
      exact .of_lookup hb

theorem frontDoor_eq_ok {request : SignIn.Request} {id : Uuid}
    (h : frontDoor env s request id = .ok s') :
    ∃ userId work a out, request.find env s.accounts s.now s.now = some (userId, work) ∧
      s.accounts.lookup userId = some a ∧
      work.run env s.now userId id (work.taken s.accounts) a = .ok out ∧
      s' = { s with accounts := s.accounts.insert userId out.1 } := by
  obtain ⟨⟨userId, work⟩, hfind, h⟩ := Result.of_bind h
  obtain ⟨a, ha, h⟩ := Result.of_bind h
  obtain ⟨out, hout, h⟩ := Result.of_bind h
  cases h
  exact ⟨userId, work, a, out, orNotFound_eq_ok.mp hfind, orNotFound_eq_ok.mp ha, hout, rfl⟩

theorem change_frontDoor {request : SignIn.Request} {id : Uuid}
    (h : frontDoor env s request id = .ok s') (hb : s'.accounts.lookup userId = some b)
    (hrun : ∀ work a out, request.find env s.accounts s.now s.now = some (userId, work) →
      s.accounts.lookup userId = some a →
      work.run env s.now userId id (work.taken s.accounts) a = .ok out →
      Change s op userId (some a) out.1) : Change s op userId (s.accounts.lookup userId) b := by
  obtain ⟨id', work, a, out, hfind, ha, hout, rfl⟩ := frontDoor_eq_ok h
  rcases Table.lookup_insert_cases hb with ⟨rfl, rfl⟩ | ⟨-, hold⟩
  · rw [ha]
    exact hrun work a out hfind ha hout
  · exact .of_lookup hold

theorem Change.of_entered {password : String} {a : Account}
    (hop : SetsPassword s userId password op) (h : Entered password a b) :
    Change s op userId (some a) b := by
  obtain ⟨hbefore, hstatus, c, hc, rfl⟩ := h
  exact .passwordSet a b c hop hbefore hstatus hc

/-- Everything an operation does to the status and the credential of one user. -/
theorem change_next (hb : (next env s op).accounts.lookup userId = some b) :
    Change s op userId (s.accounts.lookup userId) b := by
  unfold next at hb
  split at hb
  · next s' h =>
    cases op with
    | create => exact change_create h hb
    | administer call => exact change_administer h hb
    | tick now =>
      cases h
      exact .of_lookup hb
    | requestReset email raw =>
      refine change_frontDoor h hb fun work a out hfind ha hout => ?_
      obtain ⟨found, -, hwork⟩ := Option.map_eq_some_iff.mp hfind
      cases hwork
      simp only [SignIn.Work.run] at hout
      split at hout <;> cases hout <;> exact .kept a _ rfl rfl
    | invite id raw =>
      refine change_frontDoor h hb fun work a out hfind ha hout => ?_
      obtain ⟨found, -, hwork⟩ := Option.map_eq_some_iff.mp hfind
      cases hwork
      cases hout
      exact .kept a _ rfl rfl
    | changeEmail id actorId email =>
      refine change_frontDoor h hb fun work a out hfind ha hout => ?_
      obtain ⟨found, -, hwork⟩ := Option.map_eq_some_iff.mp hfind
      cases hwork
      simp only [SignIn.Work.run] at hout
      split at hout
      · cases hout
      · cases hout
        exact .kept a _ rfl rfl
    | accept raw password id =>
      refine change_frontDoor h hb fun work a out hfind ha hout => ?_
      obtain ⟨found, -, hwork⟩ := Option.map_eq_some_iff.mp hfind
      cases hwork
      obtain ⟨accepted, haccepted, hout⟩ := Result.of_bind hout
      obtain ⟨hlive, hentered⟩ := entered_acceptInvitation haccepted
      have hop : SetsPassword s userId password (.accept raw password id) := ⟨rfl, a, ha, hlive⟩
      split at hout
      · obtain ⟨⟨c, events⟩, hc, hout⟩ := Result.of_bind hout
        cases hout
        exact .of_entered hop (hentered.passwordAccepted hc)
      · cases hout
        exact .of_entered hop hentered
    | confirmReset raw password =>
      refine change_frontDoor h hb fun work a out hfind ha hout => ?_
      obtain ⟨found, -, hwork⟩ := Option.map_eq_some_iff.mp hfind
      cases hwork
      obtain ⟨reset, hreset, hout⟩ := Result.of_bind hout
      cases hout
      obtain ⟨hlive, hentered⟩ := entered_confirmPasswordReset hreset
      exact .of_entered ⟨rfl, a, ha, hlive⟩ hentered
  · exact .of_lookup hb

end Steps

/-! ### Runs -/

/-- The credential was written in the run, by a call of `set_password` with a live
one-time token of the user. -/
def ChosenIn (env : Env) (start : State) (ops : List Op) (userId : Uuid) (c : Credential) : Prop :=
  ∃ before op after, ops = before ++ op :: after ∧
    SetsPassword (before.foldl (next env) start) userId c.password op ∧
    ((next env (before.foldl (next env) start) op).accounts.lookup userId).bind (·.credential) =
      some c

/-- The credential was chosen by the user, and an active or suspended user has one. -/
structure Vouched (env : Env) (start : State) (ops : List Op) (userId : Uuid) (a : Account) :
    Prop where
  chosen : ∀ c, a.credential = some c → ChosenIn env start ops userId c
  credential : a.user.status = .active ∨ a.user.status = .suspended → a.credential.isSome = true

section

variable {env : Env} {start : State} {ops : List Op} {op : Op} {userId : Uuid} {a b : Account}

theorem ChosenIn.snoc {c : Credential} (h : ChosenIn env start ops userId c) (op : Op) :
    ChosenIn env start (ops ++ [op]) userId c := by
  obtain ⟨before, op', after, rfl, hsets, hwritten⟩ := h
  exact ⟨before, op', after ++ [op], by simp, hsets, hwritten⟩

theorem vouched_next (h : ∀ a, (ops.foldl (next env) start).accounts.lookup userId = some a →
      Vouched env start ops userId a)
    (hb : (next env (ops.foldl (next env) start) op).accounts.lookup userId = some b) :
    Vouched env start (ops ++ [op]) userId b := by
  have hchange := change_next hb
  generalize hold : (ops.foldl (next env) start).accounts.lookup userId = before at hchange
  have hkeep : ∀ {a : Account}, before = some a → b.credential = a.credential →
      ∀ c, b.credential = some c → ChosenIn env start (ops ++ [op]) userId c :=
    fun ha hcredential c hc => ((h _ (hold.trans ha)).chosen c (hcredential ▸ hc)).snoc op
  cases hchange with
  | created _ hstatus hcredential =>
    refine ⟨fun c hc => ?_, by simp [hstatus]⟩
    rw [hcredential] at hc
    cases hc
  | kept a _ hstatus hcredential =>
    refine ⟨hkeep rfl hcredential, fun hactive => ?_⟩
    rw [hcredential]
    exact (h a hold).credential (hstatus ▸ hactive)
  | deactivated a _ hstatus hcredential =>
    exact ⟨hkeep rfl hcredential, by simp [hstatus]⟩
  | suspended a _ hbefore hstatus hcredential =>
    refine ⟨hkeep rfl hcredential, fun _ => ?_⟩
    rw [hcredential]
    exact (h a hold).credential (.inl hbefore)
  | unsuspended a _ hop hbefore hstatus hcredential =>
    refine ⟨hkeep rfl hcredential, fun _ => ?_⟩
    rw [hcredential]
    exact (h a hold).credential (.inr hbefore)
  | reactivated a _ hop hbefore hstatus hcredential =>
    refine ⟨hkeep rfl hcredential, fun hactive => ?_⟩
    rw [hcredential]
    by_contra hnone
    rw [hstatus, if_neg hnone] at hactive
    simp at hactive
  | passwordSet a _ c hop hbefore hstatus hcredential =>
    refine ⟨fun c' hc' => ?_, fun _ => by simp [hcredential]⟩
    obtain rfl : c = c' := Option.mem_unique hcredential hc'
    exact ⟨ops, op, [], by simp, hop, by rw [hb]; exact hcredential⟩

theorem vouched_run (env : Env) (now : Time) (dealerships : List Uuid) (userId : Uuid)
    (ops : List Op) : ∀ a, (ops.foldl (next env) (opening now dealerships)).accounts.lookup userId =
      some a → Vouched env (opening now dealerships) ops userId a := by
  induction ops using List.reverseRecOn with
  | nil => exact fun a ha => by cases ha
  | append_singleton ops op ih =>
    intro b hb
    rw [List.foldl_append] at hb
    exact vouched_next ih hb

/-- **The lifecycle of a user.**  In every state reached by creations, requests of
the user administration and visits of the front door, an active or suspended
user has a credential, written by a call of `set_password` with a live one-time
token of this very user.  A user becomes active through such a call only, or
through a `PATCH` that reactivates or un-suspends a user who has a credential; and
a user who was not created as `invited` just now becomes so only when
reactivated without one. -/
theorem user_lifecycle (env : Env) (now : Time) (dealerships : List Uuid) (ops : List Op)
    (userId : Uuid) :
    (∀ a, (ops.foldl (next env) (opening now dealerships)).accounts.lookup userId = some a →
      a.user.status = .active ∨ a.user.status = .suspended →
      ∃ c, a.credential = some c ∧ ChosenIn env (opening now dealerships) ops userId c) ∧ ∀ op b,
      (next env (ops.foldl (next env) (opening now dealerships)) op).accounts.lookup userId = some b →
      (b.user.status = .active →
        (∃ password, SetsPassword (ops.foldl (next env) (opening now dealerships)) userId password op) ∨
        ∃ a, (ops.foldl (next env) (opening now dealerships)).accounts.lookup userId = some a ∧
          (a.user.status = .active ∨ a.credential.isSome = true ∧ Activates userId op ∧
            (a.user.status = .deactivated ∨ a.user.status = .suspended))) ∧
      (b.user.status = .invited →
        (ops.foldl (next env) (opening now dealerships)).accounts.lookup userId = none ∨
        ∃ a, (ops.foldl (next env) (opening now dealerships)).accounts.lookup userId = some a ∧
          (a.user.status = .invited ∨
            a.user.status = .deactivated ∧ a.credential = none ∧ Activates userId op)) := by
  have hvouched := vouched_run env now dealerships userId ops
  generalize hs : ops.foldl (next env) (opening now dealerships) = s at hvouched ⊢
  constructor
  · intro a ha hstatus
    obtain ⟨c, hc⟩ := Option.isSome_iff_exists.mp ((hvouched a ha).credential hstatus)
    exact ⟨c, hc, (hvouched a ha).chosen c hc⟩
  · intro op b hb
    have hchange := change_next hb
    generalize hold : s.accounts.lookup userId = before at hchange ⊢
    cases hchange with
    | created _ hstatus hcredential => simp [hstatus]
    | kept a _ hstatus hcredential =>
      exact ⟨fun h => .inr ⟨a, rfl, .inl (hstatus ▸ h)⟩, fun h => .inr ⟨a, rfl, .inl (hstatus ▸ h)⟩⟩
    | deactivated a _ hstatus | suspended a _ hbefore hstatus => simp [hstatus]
    | unsuspended a _ hop hbefore hstatus hcredential =>
      refine ⟨fun _ => .inr ⟨a, rfl, .inr ⟨?_, hop, .inr hbefore⟩⟩, by simp [hstatus]⟩
      exact (hvouched a hold).credential (.inr hbefore)
    | reactivated a _ hop hbefore hstatus hcredential =>
      rw [hstatus]
      cases hhas : a.credential with
      | none => simp [hbefore, hop, hhas]
      | some c => simp [hbefore, hop, hhas]
    | passwordSet a _ c hop hbefore hstatus hcredential =>
      exact ⟨fun _ => .inl ⟨c.password, hop⟩, by simp [hstatus]⟩

end

def setStatus (ifMatch : ℕ) (status : UserStatus) : Op :=
  .administer {
    dealershipId := 1
    userId := 10
    actorId := 2
    actorRoles := [.platformAdmin]
    request := .patch ifMatch { status := some status } }

def deactivate (ifMatch : ℕ) : Op :=
  .administer {
    dealershipId := 1
    userId := 10
    actorId := 2
    actorRoles := [.platformAdmin]
    request := .deactivate ifMatch "left" none }

/-- A user who accepts the invitation, is suspended, comes back, leaves and is
taken back. -/
def career : List Op :=
  [.create 1 10 100 { email := "a@b.ch", accessRoles := [.sales] } 2 [.platformAdmin],
    .accept 100 "secret" 101, setStatus 2 .suspended, setStatus 3 .active, deactivate 4,
    setStatus 5 .active]

theorem user_lifecycle_career :
    (((career.foldl (next SignIn.oneAuthenticator) (opening 0 [1])).accounts.lookup 10).map
      fun a => (a.user.status, a.credential.map (·.password))) = some (.active, some "secret") ∧
    ∀ a, (career.foldl (next SignIn.oneAuthenticator) (opening 0 [1])).accounts.lookup 10 = some a →
      a.user.status = .active ∨ a.user.status = .suspended → ∃ c, a.credential = some c ∧
        ChosenIn SignIn.oneAuthenticator (opening 0 [1]) career 10 c :=
  ⟨by decide +kernel, (user_lifecycle SignIn.oneAuthenticator 0 [1] career 10).1⟩

end Nexotec.UserLifecycle
