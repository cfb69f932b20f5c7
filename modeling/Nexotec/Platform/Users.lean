/-
Users, their memberships and the manager flag
(`app/platform/services/user.py`, `membership.py`).

A user has a home dealership, whose manager flag stands on the user row; a
membership of a sister dealership has a flag of its own.  A request on a user
first makes every check on the locked row, then asks for each dealership it
takes a manager from whether somebody else manages it, and then writes.  So a
request is translated to a `Plan`: the dealerships to ask about and the write.
-/
import Nexotec.Core.Base

namespace Nexotec.Platform

/-! ### Rows -/

inductive AccessRole where
  | platformAdmin
  | sales
  | aftersales
  | parts
  | inventory
  | finance
  | technician
  | auditor
  deriving DecidableEq

def AccessRole.value : AccessRole → String
  | .platformAdmin => "platform_admin"
  | .sales => "sales"
  | .aftersales => "aftersales"
  | .parts => "parts"
  | .inventory => "inventory"
  | .finance => "finance"
  | .technician => "technician"
  | .auditor => "auditor"

inductive EmploymentStatus where
  | active
  | onLeave
  | terminated
  deriving DecidableEq

def EmploymentStatus.value : EmploymentStatus → String
  | .active => "active"
  | .onLeave => "on_leave"
  | .terminated => "terminated"

inductive UserStatus where
  | invited
  | active
  | suspended
  | deactivated
  deriving DecidableEq

def UserStatus.value : UserStatus → String
  | .invited => "invited"
  | .active => "active"
  | .suspended => "suspended"
  | .deactivated => "deactivated"

/-- `_ACTIVE_USER_STATUSES`. -/
def UserStatus.isActive : UserStatus → Bool
  | .invited | .active => true
  | .suspended | .deactivated => false

/-- `_TERMINAL_USER_STATUSES`. -/
def UserStatus.isTerminal (s : UserStatus) : Bool := s = .deactivated

/-- `datetime.date`; dates compare by year, month and day. -/
structure Date where
  year : ℕ
  month : ℕ
  day : ℕ
  deriving DecidableEq, Ord

def Date.before (a b : Date) : Bool := compare a b = .lt

/-- A number written with at least `width` digits. -/
def zeroPadded (width n : ℕ) : String :=
  String.ofList (List.replicate (width - (toString n).length) '0') ++ toString n

def Date.isoformat (d : Date) : String :=
  zeroPadded 4 d.year ++ "-" ++ zeroPadded 2 d.month ++ "-" ++ zeroPadded 2 d.day

/-- The columns of `User` that the administration's checks read or its writes
set; names, phones, sites and the like are left out. -/
structure User where
  tenantId : Uuid
  email : String := ""
  accessRoles : List AccessRole := []
  isDealerManager : Bool := false
  employmentStatus : EmploymentStatus := .active
  status : UserStatus := .invited
  lineManagerUserId : Option Uuid := none
  validFrom : Option Date := none
  validTo : Option Date := none
  deactivatedAt : Option Time := none
  deactivationReason : Option String := none
  updatedBy : Option Uuid := none
  version : ℕ := 1

/-- `DealershipMembership`, under its user and dealership. -/
structure Membership where
  isDealerManager : Bool := false
  validTo : Option Time := none
  grantedAt : Time := 0
  grantedBy : Option Uuid := none

/-- `is_active` and `membership_is_active`. -/
def Membership.isActive (m : Membership) (now : Time) : Bool :=
  match m.validTo with
  | none => true
  | some validTo => now < validTo

structure PlatformDb where
  dealerships : List Uuid := []
  users : Table Uuid User := ∅
  /-- Keyed by the user and the dealership, which are unique together. -/
  memberships : Table (Uuid × Uuid) Membership := ∅
  /-- The users that have a credential. -/
  credentials : List Uuid := []

def User.isActiveUser (user : User) : Bool := user.status.isActive

/-! ### Managers -/

/-- The user manages the dealership: active, and with the home flag there or
an active membership that has the flag. -/
def isActiveManager (db : PlatformDb) (now : Time) (dealershipId id : Uuid) : Bool :=
  (db.users.lookup id).any fun user => user.isActiveUser &&
    ((user.tenantId = dealershipId && user.isDealerManager) ||
      (db.memberships.lookup (id, dealershipId)).any fun m => m.isDealerManager && m.isActive now)

def HasManager (db : PlatformDb) (now : Time) (dealershipId : Uuid) : Prop :=
  ∃ id, isActiveManager db now dealershipId id = true

/-- The first `SELECT` of `_assert_not_last_manager`.  Which user it returns is
left open by the source; only whether there is one matters. -/
def otherHomeManager (db : PlatformDb) (dealershipId excludingUserId : Uuid) : Option Uuid :=
  (db.users.search fun id user => user.tenantId = dealershipId && id ≠ excludingUserId &&
    user.isDealerManager && user.isActiveUser).map (·.1)

/-- The second `SELECT`. -/
def otherManagerByMembership (db : PlatformDb) (now : Time) (dealershipId excludingUserId : Uuid) :
    Option Uuid :=
  (db.memberships.search fun key m => key.2 = dealershipId && m.isDealerManager &&
    m.isActive now && key.1 ≠ excludingUserId &&
    (db.users.lookup key.1).any (·.isActiveUser)).map (·.1.1)

/-- One call of `_assert_not_last_manager`: the dealership, and what a refusal
says. -/
structure ManagerCheck where
  dealershipId : Uuid
  message : String := "This dealership must always have at least one active manager — cannot remove or deactivate its last one."
  reason : String := "last_manager"

/-- `_assert_not_last_manager`, with what its two `SELECT`s gave. -/
def assertNotLastManager (check : ManagerCheck) (otherHome otherByMembership : Option Uuid) :
    Result Unit :=
  if otherHome = none ∧ otherByMembership = none then
    .error (badRequestError check.message [("reason", check.reason)])
  else .ok ()

def isDealerManagerIn (db : PlatformDb) (now : Time) (userId : Uuid) (user : User)
    (dealershipId : Uuid) : Bool :=
  if dealershipId = user.tenantId then user.isDealerManager
  else (db.memberships.lookup (userId, dealershipId)).any fun m =>
    m.isActive now && m.isDealerManager

/-! ### `update_user` -/

/-- The fields a body carries; `none` is a field left out. -/
structure UserUpdate where
  /-- The address, lower-cased. -/
  email : Option String := none
  accessRoles : Option (List AccessRole) := none
  isDealerManager : Option Bool := none
  employmentStatus : Option EmploymentStatus := none
  status : Option UserStatus := none
  lineManagerUserId : Option (Option Uuid) := none
  validFrom : Option (Option Date) := none
  validTo : Option (Option Date) := none
  /-- The body carries a field that no check reads. -/
  others : Bool := false
  deriving DecidableEq

def roleValues (roles : List AccessRole) : List AccessRole :=
  roles.mergeSort fun a b => a.value ≤ b.value

def assertUserIsNotDeactivated (user : User) : Result Unit :=
  if user.status.isTerminal then
    .error (conflictError
      s!"User status '{user.status.value}' — reactivate the user first (status: active) to change their access."
      [("currentStatus", user.status.value)])
  else .ok ()

def assertMayCreateWithRoles (roles actorRoles : List AccessRole) : Result Unit :=
  if .platformAdmin ∈ actorRoles then .ok ()
  else if .platformAdmin ∈ roles then
    .error (forbiddenError "Only platform staff can grant the platform_admin role.")
  else .ok ()

def assertMayUpdate (user : User) (changes : UserUpdate) (actorRoles : List AccessRole) :
    Result Unit :=
  if .platformAdmin ∈ actorRoles then .ok ()
  else if .platformAdmin ∈ user.accessRoles then
    .error (forbiddenError "Only platform staff can change a user who holds the platform_admin role.")
  else match changes.accessRoles with
    | some roles => assertMayCreateWithRoles roles actorRoles
    | none => .ok ()

def assertMayTouch (user : User) (actorRoles : List AccessRole) : Result Unit :=
  assertMayUpdate user {} actorRoles

def listMembershipDealershipIds (db : PlatformDb) (now : Time) (userId : Uuid) : List Uuid :=
  (db.memberships.entries.filter fun e => e.1.1 = userId && e.2.isActive now).map (·.1.2)

def assertPlatformAdminHoldsNoMembership (db : PlatformDb) (now : Time) (userId : Uuid)
    (changes : UserUpdate) : Result Unit :=
  if changes.accessRoles.any (.platformAdmin ∈ ·) ∧ listMembershipDealershipIds db now userId ≠ [] then
    .error (unprocessableEntityError
      "platform_admin is never a member of a dealership — end this user's memberships first.")
  else .ok ()

def assertCredentialChannelRules (user : User) (changes : UserUpdate) : Result Unit :=
  if changes.status = some .invited ∧ user.status ≠ .invited then
    .error (conflictError
      "An account is invited once, when it is created; it cannot return to 'invited'."
      [("currentStatus", user.status.value)])
  else if changes.email.any (· ≠ user.email) ∧ user.status ≠ .invited then
    .error (forbiddenError
      "Changing an active user's e-mail address is account recovery, which platform staff handle."
      [("recovery", "change-email")])
  else .ok ()

def assertLineManager (db : PlatformDb) (userId : Uuid) (user : User) (changes : UserUpdate) :
    Result Unit :=
  match changes.lineManagerUserId with
  | some (some lineManagerId) =>
    if lineManagerId = userId then
      .error (unprocessableEntityError "A user cannot be their own line manager.")
    else if (db.users.lookup lineManagerId).any (·.tenantId = user.tenantId) then .ok ()
    else .error (unprocessableEntityError "lineManagerUserId is not a user of this dealership."
      [("lineManagerUserId", toString lineManagerId)])
  | some none | none => .ok ()

/-- A termination deactivates, whatever status the body carries beside it. -/
def UserUpdate.withTermination (changes : UserUpdate) (user : User) : UserUpdate :=
  if changes.employmentStatus = some .terminated ∧ user.status ≠ .deactivated then
    { changes with status := some .deactivated }
  else changes

/-- Deactivation goes through `deactivate_user` (FR-A-37). -/
def assertMayDeactivate (user : User) (changes : UserUpdate) (allowDeactivation : Bool) :
    Result Unit :=
  if changes.status = some .deactivated ∧ user.status ≠ .deactivated ∧ allowDeactivation = false then
    .error (conflictError
      "Deactivating a user goes through the deactivation step, which reassigns what they still own."
      [("reason", "use_deactivate_endpoint")])
  else .ok ()

/-- `set(changes) - _REACTIVATION_FIELDS` is empty. -/
def UserUpdate.onlyReactivationFields (changes : UserUpdate) : Bool :=
  changes.email.isNone && changes.accessRoles.isNone && changes.isDealerManager.isNone &&
    changes.lineManagerUserId.isNone && !changes.others

/-- The one `PATCH` a deactivated user accepts. -/
def assertReactivation (user : User) (changes : UserUpdate) : Result Unit :=
  if user.status.isTerminal then
    if changes.status ≠ some .active ∨ changes.onlyReactivationFields = false then
      .error (conflictError
        s!"User status '{user.status.value}' — reactivate the user first (status: active)."
        [("currentStatus", user.status.value)])
    else if user.employmentStatus = .terminated ∧
        changes.employmentStatus.getD user.employmentStatus = .terminated then
      .error (unprocessableEntityError
        "A terminated employment cannot be reactivated as terminated — send employmentStatus with the status."
        [("currentEmploymentStatus", user.employmentStatus.value)])
    else .ok ()
  else .ok ()

/-- `Invited → Active` only by accepting the invitation, and only an active user
is suspended. -/
def assertLifecycleStep (user : User) (changes : UserUpdate) : Result Unit :=
  if changes.status = some .active ∧ user.status = .invited then
    .error (conflictError
      "An invited user becomes active by accepting the invitation — resend it instead."
      [("reason", "accept_invitation_required"), ("currentStatus", user.status.value)])
  else if changes.status = some .suspended ∧ user.status ≠ .active then
    .error (conflictError "Only an active user can be suspended."
      [("reason", "not_active"), ("currentStatus", user.status.value)])
  else .ok ()

/-- Reactivating a user without a credential makes them `invited` again. -/
def UserUpdate.withInvitation (changes : UserUpdate) (user : User) (hasCredential : Bool) :
    UserUpdate :=
  if changes.status = some .active ∧ user.status = .deactivated ∧ hasCredential = false then
    { changes with status := some .invited }
  else changes

def assertWindow (user : User) (changes : UserUpdate) : Result Unit :=
  match changes.validFrom.getD user.validFrom, changes.validTo.getD user.validTo with
  | some resultingFrom, some resultingTo =>
    if resultingTo.before resultingFrom then
      .error (unprocessableEntityError "validTo must not be before validFrom."
        [("validFrom", resultingFrom.isoformat), ("validTo", resultingTo.isoformat)])
    else .ok ()
  | _, _ => .ok ()

def UserUpdate.resultingIsManager (changes : UserUpdate) (user : User) : Bool :=
  changes.isDealerManager.getD user.isDealerManager

def UserUpdate.resultingStatus (changes : UserUpdate) (user : User) : UserStatus :=
  changes.status.getD user.status

/-- The flag never changes on a row that is deactivated after the write. -/
def assertFlagKept (user : User) (changes : UserUpdate) : Result Unit :=
  let resultingStatus := changes.resultingStatus user
  if changes.resultingIsManager user ≠ user.isDealerManager ∧ resultingStatus.isTerminal then
    .error (conflictError
      s!"User status '{resultingStatus.value}' — the manager flag of a deactivated user does not change; reactivate first."
      [("currentStatus", user.status.value)])
  else .ok ()

/-- The checks of `update_user` before the last-manager rule, with the changes
as they will be written. -/
def settleChanges (db : PlatformDb) (now : Time) (userId : Uuid) (user : User) (data : UserUpdate)
    (actorRoles : List AccessRole) (allowDeactivation : Bool) : Result UserUpdate := do
  assertMayUpdate user data actorRoles
  assertPlatformAdminHoldsNoMembership db now userId data
  assertCredentialChannelRules user data
  assertLineManager db userId user data
  let changes := data.withTermination user
  assertMayDeactivate user changes allowDeactivation
  assertReactivation user changes
  assertLifecycleStep user changes
  let changes := changes.withInvitation user (userId ∈ db.credentials)
  assertWindow user changes
  assertFlagKept user changes
  pure changes

/-- The sister dealerships whose membership holds the flag. -/
def managedDealerships (db : PlatformDb) (now : Time) (userId : Uuid) : List Uuid :=
  (db.memberships.entries.filter fun e =>
    e.1.1 = userId && e.2.isDealerManager && e.2.isActive now).map (·.1.2)

def elsewhereCheck (dealershipId : Uuid) : ManagerCheck where
  dealershipId := dealershipId
  message := "This user is the last active manager of another dealership they are a member of — cannot suspend or deactivate them until that dealership has another manager."
  reason := "last_manager_elsewhere"

/-- The calls of `_assert_not_last_manager` in `update_user`. -/
def updateChecks (db : PlatformDb) (now : Time) (userId : Uuid) (user : User)
    (changes : UserUpdate) : List ManagerCheck :=
  let resultingStatus := changes.resultingStatus user
  let wasActiveManager := user.isDealerManager && user.isActiveUser
  let willBeActiveManager := changes.resultingIsManager user && resultingStatus.isActive
  (if wasActiveManager && !willBeActiveManager then [{ dealershipId := user.tenantId }] else []) ++
    (if user.isActiveUser && !resultingStatus.isActive then
      (managedDealerships db now userId).map elsewhereCheck else [])

/-! ### Writes -/

inductive Write where
  | update (changes : UserUpdate) (reason : Option String) (actorId : Option Uuid)
  | grantMembership (dealershipId : Uuid) (isDealerManager : Bool) (actorId : Uuid)
  | endMembership (dealershipId actorId : Uuid)
  | membershipFlag (dealershipId : Uuid) (isDealerManager : Bool) (actorId : Uuid)
  | homeFlag (isDealerManager : Bool) (actorId : Uuid)

/-- `deactivated_at` and `deactivation_reason`: set by a deactivation, cleared by
a reactivation. -/
def User.stamped {α : Type} (user : User) (status : UserStatus) (stamp old : Option α) : Option α :=
  if status = user.status then old
  else if status = .deactivated then stamp
  else if user.status = .deactivated then none
  else old

/-- The row after `update_user`. -/
def UserUpdate.write (changes : UserUpdate) (reason : Option String) (actorId : Option Uuid)
    (now : Time) (user : User) : User where
  tenantId := user.tenantId
  email := changes.email.getD user.email
  accessRoles := (changes.accessRoles.map roleValues).getD user.accessRoles
  isDealerManager := changes.resultingIsManager user
  employmentStatus := changes.employmentStatus.getD user.employmentStatus
  status := changes.resultingStatus user
  lineManagerUserId := changes.lineManagerUserId.getD user.lineManagerUserId
  validFrom := changes.validFrom.getD user.validFrom
  validTo := changes.validTo.getD user.validTo
  deactivatedAt := user.stamped (changes.resultingStatus user) (some now) user.deactivatedAt
  deactivationReason := user.stamped (changes.resultingStatus user) reason user.deactivationReason
  updatedBy := actorId
  version := user.version + 1

def User.touch (user : User) (actorId : Uuid) : User :=
  { user with updatedBy := some actorId, version := user.version + 1 }

@[simp] theorem User.touch_tenantId (user : User) (actorId : Uuid) :
    (user.touch actorId).tenantId = user.tenantId := rfl

@[simp] theorem User.touch_isDealerManager (user : User) (actorId : Uuid) :
    (user.touch actorId).isDealerManager = user.isDealerManager := rfl

@[simp] theorem User.touch_isActiveUser (user : User) (actorId : Uuid) :
    (user.touch actorId).isActiveUser = user.isActiveUser := rfl

def Write.user (now : Time) (user : User) : Write → User
  | .update changes reason actorId => changes.write reason actorId now user
  | .grantMembership .. => user
  | .endMembership _ actorId | .membershipFlag _ _ actorId => user.touch actorId
  | .homeFlag isDealerManager actorId => { user with isDealerManager := isDealerManager }.touch actorId

def Write.memberships (now : Time) (userId : Uuid) (rows : Table (Uuid × Uuid) Membership) :
    Write → Table (Uuid × Uuid) Membership
  | .update .. | .homeFlag .. => rows
  | .grantMembership dealershipId isDealerManager actorId =>
    rows.insert (userId, dealershipId) {
      isDealerManager := isDealerManager
      validTo := none
      grantedAt := now
      grantedBy := some actorId }
  | .endMembership dealershipId _ =>
    rows.modify (userId, dealershipId) fun m => { m with validTo := some now }
  | .membershipFlag dealershipId isDealerManager _ =>
    rows.modify (userId, dealershipId) fun m => { m with isDealerManager := isDealerManager }

def Write.apply (write : Write) (now : Time) (userId : Uuid) (db : PlatformDb) : PlatformDb :=
  { db with
    users := db.users.modify userId (write.user now)
    memberships := write.memberships now userId db.memberships }

def Write.email : Write → Option String
  | .update changes _ _ => changes.email
  | .grantMembership .. | .endMembership .. | .membershipFlag .. | .homeFlag .. => none

/-- The flush and the commit: an address another user has is refused. -/
def Write.commit (write : Write) (now : Time) (userId : Uuid) (db : PlatformDb) :
    Result PlatformDb :=
  match write.email.filter fun email =>
      (db.users.search fun id user => id ≠ userId && user.email = email).isSome with
  | some email => .error (conflictError "A user with this email address already exists."
      [("email", email)])
  | none => .ok (write.apply now userId db)

theorem Write.commit_eq_ok {write : Write} {now : Time} {userId : Uuid} {db db' : PlatformDb}
    (h : write.commit now userId db = .ok db') : db' = write.apply now userId db := by
  unfold Write.commit at h
  split at h
  · cases h
  · cases h
    rfl

/-! ### Requests -/

inductive Request where
  | patch (ifMatch : ℕ) (data : UserUpdate)
  | deactivate (ifMatch : ℕ) (reason : String) (employmentStatus : Option EmploymentStatus)
  | expire (today : Date)
  | grantMembership (dealershipId : Uuid) (isDealerManager : Bool)
  | endMembership (ifMatch : ℕ) (dealershipId : Uuid)
  | setMembershipManagerFlag (ifMatch : ℕ) (dealershipId : Uuid) (isDealerManager : Bool)
  | setHomeManagerFlag (ifMatch : ℕ) (isDealerManager : Bool)

/-- The `If-Match` of a route; the nightly job and a grant have none. -/
def Request.ifMatch : Request → Option ℕ
  | .patch ifMatch _ | .deactivate ifMatch _ _ | .endMembership ifMatch _
  | .setMembershipManagerFlag ifMatch _ _ | .setHomeManagerFlag ifMatch _ => some ifMatch
  | .expire _ | .grantMembership .. => none

/-- A request on a user of a dealership, with who asks for it; the nightly job
brings its own actor. -/
structure Call where
  dealershipId : Uuid
  userId : Uuid
  actorId : Uuid
  actorRoles : List AccessRole
  request : Request

/-- `get_user_for_update_or_404`. -/
def getUserForUpdateOr404 (db : PlatformDb) (dealershipId userId : Uuid) : Result User :=
  orNotFound ((db.users.lookup userId).filter (·.tenantId = dealershipId))
    s!"User {userId} was not found."

/-- What a request does once its checks have passed: the dealerships to ask
about, in order, and the write. -/
structure Plan where
  checks : List ManagerCheck := []
  write : Write

def updateUser (db : PlatformDb) (now : Time) (userId : Uuid) (user : User) (data : UserUpdate)
    (actorId : Option Uuid) (actorRoles : List AccessRole) (reason : Option String := none)
    (allowDeactivation : Bool := false) : Result Plan := do
  let changes ← settleChanges db now userId user data actorRoles allowDeactivation
  pure ⟨updateChecks db now userId user changes, .update changes reason actorId⟩

/-- `ownership.deactivate_user`, up to the hand-over of the user's records. -/
def deactivateUser (db : PlatformDb) (now : Time) (userId : Uuid) (user : User) (reason : String)
    (employmentStatus : Option EmploymentStatus) (actorId : Uuid) (actorRoles : List AccessRole) :
    Result Plan := do
  assertMayTouch user actorRoles
  assertUserIsNotDeactivated user
  updateUser db now userId user { status := some .deactivated, employmentStatus := employmentStatus }
    (some actorId) actorRoles (some reason) true

def isDueForExpiry (user : User) (today : Date) : Bool :=
  user.validTo.any (·.before today) && user.status ≠ .deactivated

def activeRow (db : PlatformDb) (now : Time) (userId dealershipId : Uuid) : Option Membership :=
  (db.memberships.lookup (userId, dealershipId)).filter (·.isActive now)

def assertActorManagesTarget (db : PlatformDb) (now : Time) (actorId : Uuid)
    (actorRoles : List AccessRole) (targetDealershipId : Uuid) : Result Unit :=
  if .platformAdmin ∈ actorRoles ∨ (db.users.lookup actorId).any
      (isDealerManagerIn db now actorId · targetDealershipId) then .ok ()
  else .error (notFoundError s!"Dealership {targetDealershipId} was not found.")

def grantMembership (db : PlatformDb) (now : Time) (userId : Uuid) (user : User)
    (dealershipId : Uuid) (isDealerManager : Bool) (actorId : Uuid)
    (actorRoles : List AccessRole) : Result Plan := do
  if dealershipId = user.tenantId then
    throw (unprocessableEntityError
      "The home dealership is always a membership — grant a sister dealership.")
  if .platformAdmin ∈ user.accessRoles then
    throw (unprocessableEntityError "platform_admin is never a member of a dealership.")
  assertUserIsNotDeactivated user
  assertActorManagesTarget db now actorId actorRoles dealershipId
  if dealershipId ∉ db.dealerships then
    throw (notFoundError s!"Dealership {dealershipId} was not found.")
  if (activeRow db now userId dealershipId).isSome then
    throw (conflictError "This user already holds a membership of that dealership."
      [("dealershipId", toString dealershipId)])
  pure ⟨[], .grantMembership dealershipId isDealerManager actorId⟩

/-- The checks `end_membership` and `set_membership_manager_flag` begin with;
they return the active row. -/
def openMembership (db : PlatformDb) (now : Time) (userId : Uuid) (user : User)
    (dealershipId actorId : Uuid) (actorRoles : List AccessRole) : Result Membership := do
  assertActorManagesTarget db now actorId actorRoles dealershipId
  assertMayTouch user actorRoles
  orNotFound (activeRow db now userId dealershipId)
    s!"User {userId} holds no membership of dealership {dealershipId}."

def endMembership (db : PlatformDb) (now : Time) (userId : Uuid) (user : User)
    (dealershipId actorId : Uuid) (actorRoles : List AccessRole) : Result Plan := do
  let row ← openMembership db now userId user dealershipId actorId actorRoles
  let checks := if row.isDealerManager && user.isActiveUser then [{
      dealershipId := dealershipId
      message := "This user is the last active manager of that dealership — cannot end their membership until it has another manager." }]
    else []
  pure ⟨checks, .endMembership dealershipId actorId⟩

/-- `set_membership_manager_flag`; `none` when the flag is as asked already. -/
def setMembershipManagerFlag (db : PlatformDb) (now : Time) (userId : Uuid) (user : User)
    (dealershipId : Uuid) (isDealerManager : Bool) (actorId : Uuid)
    (actorRoles : List AccessRole) : Result (Option Plan) := do
  let row ← openMembership db now userId user dealershipId actorId actorRoles
  if row.isDealerManager = isDealerManager then pure none
  else
    assertUserIsNotDeactivated user
    let checks := if !isDealerManager && user.isActiveUser then
      [{ dealershipId := dealershipId }] else []
    pure (some ⟨checks, .membershipFlag dealershipId isDealerManager actorId⟩)

def setHomeManagerFlag (user : User) (isDealerManager : Bool) (actorId : Uuid)
    (actorRoles : List AccessRole) : Result (Option Plan) := do
  assertMayTouch user actorRoles
  if user.isDealerManager = isDealerManager then pure none
  else
    assertUserIsNotDeactivated user
    let checks := if !isDealerManager && user.isActiveUser then
      [{ dealershipId := user.tenantId }] else []
    pure (some ⟨checks, .homeFlag isDealerManager actorId⟩)

/-- What a request does with the row it has locked; `none` when there is nothing
to write. -/
def plan (db : PlatformDb) (now : Time) (call : Call) (user : User) : Result (Option Plan) :=
  match call.request with
  | .patch _ data =>
    some <$> updateUser db now call.userId user data (some call.actorId) call.actorRoles
  | .deactivate _ reason employmentStatus =>
    some <$> deactivateUser db now call.userId user reason employmentStatus call.actorId
      call.actorRoles
  | .expire today =>
    if isDueForExpiry user today then
      some <$> updateUser db now call.userId user { status := some .deactivated } none
        [.platformAdmin] (some "valid_to_expired") true
    else pure none
  | .grantMembership dealershipId isDealerManager =>
    some <$> grantMembership db now call.userId user dealershipId isDealerManager call.actorId
      call.actorRoles
  | .endMembership _ dealershipId =>
    some <$> endMembership db now call.userId user dealershipId call.actorId call.actorRoles
  | .setMembershipManagerFlag _ dealershipId isDealerManager =>
    setMembershipManagerFlag db now call.userId user dealershipId isDealerManager call.actorId
      call.actorRoles
  | .setHomeManagerFlag _ isDealerManager =>
    setHomeManagerFlag user isDealerManager call.actorId call.actorRoles

/-! ### What a plan can be -/

/-- The plans of the requests on a user, with what was read for them. -/
inductive Planned (db : PlatformDb) (now : Time) (userId : Uuid) (user : User) : Plan → Prop
  | update (changes : UserUpdate) (reason : Option String) (actorId : Option Uuid) :
      Planned db now userId user
        ⟨updateChecks db now userId user changes, .update changes reason actorId⟩
  | grantMembership (dealershipId : Uuid) (isDealerManager : Bool) (actorId : Uuid)
      (hrow : activeRow db now userId dealershipId = none) :
      Planned db now userId user ⟨[], .grantMembership dealershipId isDealerManager actorId⟩
  | endMembership (dealershipId actorId : Uuid) (row : Membership) (message : String)
      (hrow : activeRow db now userId dealershipId = some row) :
      Planned db now userId user
        ⟨if row.isDealerManager && user.isActiveUser then
            [{ dealershipId := dealershipId, message := message }] else [],
          .endMembership dealershipId actorId⟩
  | membershipFlag (dealershipId : Uuid) (isDealerManager : Bool) (actorId : Uuid) :
      Planned db now userId user
        ⟨if !isDealerManager && user.isActiveUser then [{ dealershipId := dealershipId }] else [],
          .membershipFlag dealershipId isDealerManager actorId⟩
  | homeFlag (isDealerManager : Bool) (actorId : Uuid) :
      Planned db now userId user
        ⟨if !isDealerManager && user.isActiveUser then [{ dealershipId := user.tenantId }] else [],
          .homeFlag isDealerManager actorId⟩

section

variable {db : PlatformDb} {now : Time} {userId : Uuid} {user : User} {actorRoles : List AccessRole}
  {p : Plan}

theorem planned_updateUser {data : UserUpdate} {actorId : Option Uuid} {reason : Option String}
    {allow : Bool} (h : updateUser db now userId user data actorId actorRoles reason allow = .ok p) :
    Planned db now userId user p := by
  obtain ⟨changes, -, hp⟩ := Result.of_bind h
  cases hp
  exact .update changes reason actorId

variable {actorId : Uuid}

theorem planned_deactivateUser {reason : String} {employmentStatus : Option EmploymentStatus}
    (h : deactivateUser db now userId user reason employmentStatus actorId actorRoles = .ok p) :
    Planned db now userId user p := by
  obtain ⟨-, -, h⟩ := Result.of_bind h
  obtain ⟨-, -, h⟩ := Result.of_bind h
  exact planned_updateUser h

variable {dealershipId : Uuid} {isDealerManager : Bool}

theorem planned_grantMembership
    (h : grantMembership db now userId user dealershipId isDealerManager actorId actorRoles = .ok p) :
    Planned db now userId user p := by
  simp only [grantMembership] at h
  split at h
  · cases h
  split at h
  · cases h
  obtain ⟨-, -, h⟩ := Result.of_bind h
  obtain ⟨-, -, h⟩ := Result.of_bind h
  split at h
  · cases h
  split at h
  · cases h
  · next hrow =>
    cases h
    exact .grantMembership dealershipId isDealerManager actorId (by simpa using hrow)

theorem openMembership_eq_ok {row : Membership}
    (h : openMembership db now userId user dealershipId actorId actorRoles = .ok row) :
    activeRow db now userId dealershipId = some row := by
  obtain ⟨-, -, h⟩ := Result.of_bind h
  obtain ⟨-, -, h⟩ := Result.of_bind h
  exact orNotFound_eq_ok.mp h

theorem planned_endMembership
    (h : endMembership db now userId user dealershipId actorId actorRoles = .ok p) :
    Planned db now userId user p := by
  obtain ⟨row, hrow, h⟩ := Result.of_bind h
  cases h
  exact .endMembership dealershipId actorId row _ (openMembership_eq_ok hrow)

theorem planned_setMembershipManagerFlag
    (h : setMembershipManagerFlag db now userId user dealershipId isDealerManager actorId actorRoles
      = .ok (some p)) : Planned db now userId user p := by
  obtain ⟨row, -, h⟩ := Result.of_bind h
  split at h
  · cases h
  · obtain ⟨-, -, h⟩ := Result.of_bind h
    cases h
    exact .membershipFlag dealershipId isDealerManager actorId

theorem planned_setHomeManagerFlag
    (h : setHomeManagerFlag user isDealerManager actorId actorRoles = .ok (some p)) :
    Planned db now userId user p := by
  obtain ⟨-, -, h⟩ := Result.of_bind h
  split at h
  · cases h
  · obtain ⟨-, -, h⟩ := Result.of_bind h
    cases h
    exact .homeFlag isDealerManager actorId

/-- A request that always writes wraps its plan. -/
theorem of_map_some {x : Result Plan} (h : some <$> x = .ok (some p)) : x = .ok p := by
  obtain ⟨q, hq, hsome⟩ := Result.map_eq_ok.mp h
  cases hsome
  exact hq

theorem planned_of_plan {call : Call} (h : plan db now call user = .ok (some p)) :
    Planned db now call.userId user p := by
  unfold plan at h
  split at h
  · exact planned_updateUser (of_map_some h)
  · exact planned_deactivateUser (of_map_some h)
  · split at h
    · exact planned_updateUser (of_map_some h)
    · cases h
  · exact planned_grantMembership (of_map_some h)
  · exact planned_endMembership (of_map_some h)
  · exact planned_setMembershipManagerFlag h
  · exact planned_setHomeManagerFlag h

end

/-! ### Managers before and after a write -/

/-- The two states have the same rows of a user. -/
structure SameUser (id : Uuid) (db db' : PlatformDb) : Prop where
  user : db'.users.lookup id = db.users.lookup id
  memberships : ∀ dealershipId,
    db'.memberships.lookup (id, dealershipId) = db.memberships.lookup (id, dealershipId)

/-- No membership ends in the future: the writers of `valid_to` set it to the
instant they write at, or clear it. -/
def NoFutureEnd (db : PlatformDb) (now : Time) : Prop :=
  ∀ key m, db.memberships.lookup key = some m → ∀ validTo ∈ m.validTo, validTo ≤ now

section

variable {db db' : PlatformDb} {now now' : Time} {dealershipId id : Uuid}

theorem isActiveManager_iff : isActiveManager db now dealershipId id = true ↔
    ∃ user, db.users.lookup id = some user ∧ user.isActiveUser = true ∧
      ((user.tenantId = dealershipId ∧ user.isDealerManager = true) ∨
        ∃ m, db.memberships.lookup (id, dealershipId) = some m ∧ m.isDealerManager = true ∧
          m.isActive now = true) := by
  simp [isActiveManager, Option.any_eq_true]

theorem SameUser.refl : SameUser id db db := ⟨rfl, fun _ => rfl⟩

theorem SameUser.trans {db'' : PlatformDb} (h : SameUser id db db') (h' : SameUser id db' db'') :
    SameUser id db db'' :=
  ⟨h'.user.trans h.user, fun d => (h'.memberships d).trans (h.memberships d)⟩

theorem SameUser.isActiveManager_eq (h : SameUser id db db') :
    isActiveManager db' now dealershipId id = isActiveManager db now dealershipId id := by
  rw [isActiveManager, isActiveManager, h.user, h.memberships]

theorem sameUser_apply {write : Write} {userId : Uuid} (h : id ≠ userId) :
    SameUser id db (write.apply now userId db) := by
  refine ⟨Table.lookup_modify_ne h _ _, fun d => ?_⟩
  have hkey : ∀ d', (id, d) ≠ (userId, d') := fun d' heq => h (congrArg Prod.fst heq)
  cases write with
  | update | homeFlag => rfl
  | grantMembership d' => exact AList.lookup_insert_ne (hkey d')
  | endMembership d' | membershipFlag d' => exact Table.lookup_modify_ne (hkey d') _ _

theorem SameUser.apply (h : SameUser id db db') (write : Write) :
    SameUser id (write.apply now id db) (write.apply now id db') := by
  constructor
  · simp only [Write.apply, Table.lookup_modify_self, h.user]
  · intro d
    cases write with
    | update | homeFlag => exact h.memberships d
    | grantMembership d' =>
      simp only [Write.apply, Write.memberships, Table.lookup_insert_iff, h.memberships]
    | endMembership d' | membershipFlag d' =>
      simp only [Write.apply, Write.memberships, Table.lookup_modify, h.memberships]

theorem NoFutureEnd.isActive_later (h : NoFutureEnd db now) (hle : now ≤ now') {key : Uuid × Uuid}
    {m : Membership} (hm : db.memberships.lookup key = some m) :
    m.isActive now' = m.isActive now := by
  unfold Membership.isActive
  cases hto : m.validTo with
  | none => rfl
  | some validTo =>
    have hpast : validTo ≤ now := h key m hm validTo hto
    exact decide_eq_decide.mpr
      (iff_of_false (not_lt.mpr (hpast.trans hle)) (not_lt.mpr hpast))

theorem NoFutureEnd.isActiveManager_later (h : NoFutureEnd db now) (hle : now ≤ now') :
    isActiveManager db now' dealershipId id = isActiveManager db now dealershipId id := by
  rw [Bool.eq_iff_iff, isActiveManager_iff, isActiveManager_iff]
  refine exists_congr fun user => and_congr_right fun _ => and_congr_right fun _ =>
    or_congr_right (exists_congr fun m => and_congr_right fun hm => ?_)
  rw [h.isActive_later hle hm]

theorem NoFutureEnd.later (h : NoFutureEnd db now) (hle : now ≤ now') : NoFutureEnd db now' :=
  fun key m hm validTo hto => (h key m hm validTo hto).trans hle

theorem NoFutureEnd.apply (h : NoFutureEnd db now) (write : Write) (userId : Uuid) :
    NoFutureEnd (write.apply now userId db) now := by
  intro key m hm validTo hto
  cases write with
  | update | homeFlag => exact h key m hm validTo hto
  | grantMembership d flag actorId =>
    rcases Table.lookup_insert_cases hm with ⟨-, rfl⟩ | ⟨-, hold⟩
    · cases hto
    · exact h key m hold validTo hto
  | endMembership d actorId =>
    simp only [Write.apply, Write.memberships, Table.lookup_modify] at hm
    split at hm
    · obtain ⟨old, -, rfl⟩ := Option.map_eq_some_iff.mp hm
      cases hto
      exact le_rfl
    · exact h key m hm validTo hto
  | membershipFlag d flag actorId =>
    simp only [Write.apply, Write.memberships, Table.lookup_modify] at hm
    split at hm
    · next hkey =>
      obtain ⟨old, hold, rfl⟩ := Option.map_eq_some_iff.mp hm
      exact h key old (hkey ▸ hold) validTo hto
    · exact h key m hm validTo hto

theorem assertNotLastManager_iff {check : ManagerCheck} {userId : Uuid} :
    assertNotLastManager check (otherHomeManager db check.dealershipId userId)
      (otherManagerByMembership db now check.dealershipId userId) = .ok () ↔
    ∃ id, id ≠ userId ∧ isActiveManager db now check.dealershipId id = true := by
  have hor : assertNotLastManager check (otherHomeManager db check.dealershipId userId)
      (otherManagerByMembership db now check.dealershipId userId) = .ok () ↔
      (otherHomeManager db check.dealershipId userId).isSome = true ∨
        (otherManagerByMembership db now check.dealershipId userId).isSome = true := by
    unfold assertNotLastManager
    cases otherHomeManager db check.dealershipId userId with
    | some id => simp
    | none =>
      cases otherManagerByMembership db now check.dealershipId userId with
      | some id => simp
      | none => simp
  rw [hor, otherHomeManager, otherManagerByMembership, Option.isSome_map, Option.isSome_map,
    Table.search_isSome_iff, Table.search_isSome_iff]
  simp only [isActiveManager_iff, Bool.and_eq_true, decide_eq_true_eq, Option.any_eq_true]
  constructor
  · rintro (⟨id, user, huser, ⟨⟨hhome, hne⟩, hflag⟩, hactive⟩ |
      ⟨⟨id, d⟩, m, hm, ⟨⟨⟨rfl, hflag⟩, hopen⟩, hne⟩, user, huser, hactive⟩)
    · exact ⟨id, hne, user, huser, hactive, .inl ⟨hhome, hflag⟩⟩
    · exact ⟨id, hne, user, huser, hactive, .inr ⟨m, hm, hflag, hopen⟩⟩
  · rintro ⟨id, hne, user, huser, hactive, ⟨hhome, hflag⟩ | ⟨m, hm, hflag, hopen⟩⟩
    · exact .inl ⟨id, user, huser, ⟨⟨hhome, hne⟩, hflag⟩, hactive⟩
    · exact .inr ⟨(id, check.dealershipId), m, hm, ⟨⟨⟨rfl, hflag⟩, hopen⟩, hne⟩, user, huser, hactive⟩

end

section Covers

variable {db : PlatformDb} {now now' : Time} {userId : Uuid} {user : User} {dealershipId : Uuid}

theorem isActiveManager_apply_self (huser : db.users.lookup userId = some user) {write : Write} :
    isActiveManager (write.apply now' userId db) now' dealershipId userId =
      ((write.user now' user).isActiveUser &&
        (((write.user now' user).tenantId = dealershipId && (write.user now' user).isDealerManager) ||
          ((write.memberships now' userId db.memberships).lookup (userId, dealershipId)).any
            fun m => m.isDealerManager && m.isActive now')) := by
  simp [isActiveManager, Write.apply, huser]

theorem update_covers (hfuture : NoFutureEnd db now) (hle : now ≤ now')
    (huser : db.users.lookup userId = some user) {changes : UserUpdate} {reason : Option String}
    {actorId : Option Uuid} (hwas : isActiveManager db now dealershipId userId = true)
    (hlost : isActiveManager ((Write.update changes reason actorId).apply now' userId db) now'
      dealershipId userId = false) :
    ∃ check ∈ updateChecks db now userId user changes, check.dealershipId = dealershipId := by
  obtain ⟨user', huser', hactive, hmanages⟩ := isActiveManager_iff.mp hwas
  obtain rfl : user = user' := Option.mem_unique huser huser'
  rw [isActiveManager_apply_self huser] at hlost
  simp only [Write.user, UserUpdate.write, User.isActiveUser, Write.memberships] at hlost hactive
  simp only [updateChecks, User.isActiveUser, hactive, Bool.and_true, Bool.true_and]
  rcases hmanages with ⟨rfl, hflag⟩ | ⟨m, hm, hflag, hopen⟩
  · -- the home flag or the status goes
    refine ⟨{ dealershipId := user.tenantId }, List.mem_append_left _ ?_, rfl⟩
    cases hstays : (changes.resultingIsManager user && (changes.resultingStatus user).isActive) with
    | false => simp [hflag]
    | true =>
      obtain ⟨hmanager, hstatus⟩ := Bool.and_eq_true_iff.mp hstays
      simp [hmanager, hstatus] at hlost
  · -- the membership stays, so it is the status
    have hopen' : m.isActive now' = true := (hfuture.isActive_later hle hm).trans hopen
    cases hstatus : (changes.resultingStatus user).isActive with
    | true => simp [hstatus, hm, hflag, hopen'] at hlost
    | false =>
      refine ⟨elsewhereCheck dealershipId, List.mem_append_right _ ?_, rfl⟩
      simp only [Bool.not_false, if_true]
      refine List.mem_map_of_mem (List.mem_map.mpr ⟨⟨(userId, dealershipId), m⟩, ?_, rfl⟩)
      exact List.mem_filter.mpr ⟨Table.lookup_eq_some_iff_mem.mp hm, by simp [hflag, hopen]⟩

/-- A plan asks about every dealership its write takes the user away from. -/
theorem plan_covers (hfuture : NoFutureEnd db now) (hle : now ≤ now')
    (huser : db.users.lookup userId = some user) {p : Plan} (hp : Planned db now userId user p)
    (hwas : isActiveManager db now dealershipId userId = true)
    (hlost : isActiveManager (p.write.apply now' userId db) now' dealershipId userId = false) :
    ∃ check ∈ p.checks, check.dealershipId = dealershipId := by
  obtain ⟨user', huser', hactive, hmanages⟩ := isActiveManager_iff.mp hwas
  obtain rfl : user = user' := Option.mem_unique huser huser'
  cases hp with
  | update changes reason actorId => exact update_covers hfuture hle huser hwas hlost
  | grantMembership d flag actorId hrow =>
    -- nothing is taken away: the row it may replace had ended
    rw [isActiveManager_apply_self huser] at hlost
    rcases hmanages with ⟨rfl, hflag⟩ | ⟨m, hm, hflag, hopen⟩
    · simp [Write.user, hactive, hflag] at hlost
    · have hne : (userId, dealershipId) ≠ (userId, d) := by
        rintro heq
        obtain rfl : dealershipId = d := congrArg Prod.snd heq
        simp [activeRow, hm, hopen] at hrow
      simp [Write.user, Write.memberships, AList.lookup_insert_ne hne, hm, hactive, hflag,
        hfuture.isActive_later hle hm, hopen] at hlost
  | endMembership d actorId row message hrow =>
    rw [isActiveManager_apply_self huser] at hlost
    rcases hmanages with ⟨rfl, hflag⟩ | ⟨m, hm, hflag, hopen⟩
    · simp [Write.user, hactive, hflag] at hlost
    · by_cases hd : dealershipId = d
      · subst hd
        obtain ⟨hrow, -⟩ := Option.filter_eq_some_iff.mp hrow
        obtain rfl : m = row := Option.mem_unique hm hrow
        exact ⟨{ dealershipId := dealershipId, message := message }, by simp [hflag, hactive], rfl⟩
      · have hne : (userId, dealershipId) ≠ (userId, d) := fun heq => hd (congrArg Prod.snd heq)
        simp [Write.user, Write.memberships, Table.lookup_modify_ne hne, hm, hactive, hflag,
          hfuture.isActive_later hle hm, hopen] at hlost
  | membershipFlag d flag actorId =>
    rw [isActiveManager_apply_self huser] at hlost
    rcases hmanages with ⟨rfl, hflag⟩ | ⟨m, hm, hflag, hopen⟩
    · simp [Write.user, hactive, hflag] at hlost
    · have hopen' : m.isActive now' = true := (hfuture.isActive_later hle hm).trans hopen
      by_cases hd : dealershipId = d
      · subst hd
        cases flag with
        | false => exact ⟨{ dealershipId := dealershipId }, by simp [hactive], rfl⟩
        | true =>
          have hsame : ({ m with isDealerManager := true } : Membership).isActive now' = true := hopen'
          simp [Write.user, Write.memberships, hm, hactive, hsame] at hlost
      · have hne : (userId, dealershipId) ≠ (userId, d) := fun heq => hd (congrArg Prod.snd heq)
        simp [Write.user, Write.memberships, Table.lookup_modify_ne hne, hm, hactive, hflag,
          hopen'] at hlost
  | homeFlag flag actorId =>
    have hactive' : ({ user with isDealerManager := flag } : User).isActiveUser = true := hactive
    rw [isActiveManager_apply_self huser] at hlost
    rcases hmanages with ⟨rfl, hflag⟩ | ⟨m, hm, hflag, hopen⟩
    · cases flag with
      | false => exact ⟨{ dealershipId := user.tenantId }, by simp [hactive], rfl⟩
      | true => simp [Write.user, hactive'] at hlost
    · simp [Write.user, Write.memberships, hm, hactive', hflag,
        hfuture.isActive_later hle hm, hopen] at hlost

end Covers

end Nexotec.Platform
