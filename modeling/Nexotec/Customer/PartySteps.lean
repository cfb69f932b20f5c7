/-
The writers of `vehicle_party`, statement by statement
(`app/customer/services/customer.py`).

An allocation takes the advisory lock of (vehicle, role, group), the customer
row `FOR SHARE` and the open holders `FOR UPDATE`, then closes them and adds
its row; a create with a past end adds its row under the same locks and closes
nobody.  A PATCH locks the party row, and when it leaves the row open also the
advisory lock before it and the other holders after it.  A disconnect locks
its row only; the repointing after a vehicle merge reads its rows without a
lock.

`PartyMoves` lists the steps of all of them, and those of a customer merge.
-/
import Nexotec.Customer.MergeSteps

namespace Nexotec.Customers

open Locks

/-! ### Requests -/

/-- A row to be added.  `holds` says that it was open when the request came;
a past end is history and closes nobody. -/
structure Allocation where
  vehicleId : Uuid
  customerId : Uuid
  role : VehiclePartyRole
  groupId : Uuid
  effectiveFrom : Option Time := none
  effectiveTo : Option Time := none
  holds : Bool := true
  deriving DecidableEq

/-- `CustomerVehicleUpdate`, with what is not sent as `none`. -/
structure PartyChanges where
  effectiveFrom : Option (Option Time) := none
  effectiveTo : Option (Option Time) := none
  deriving DecidableEq

/-- `holds_after`: the PATCH leaves the row open. -/
def PartyChanges.holdsAfter (now : Time) (changes : PartyChanges) : Bool :=
  changes.effectiveTo.any (isOpen now)

/-- A PATCH of a party row; `vehicleId` and `role` as read without a lock. -/
structure PartyPatch where
  partyId : Uuid
  groupId : Uuid
  vehicleId : Uuid
  role : VehiclePartyRole
  changes : PartyChanges
  holds : Bool
  deriving DecidableEq

def validateEffectiveRange (effectiveFrom : Time) (effectiveTo : Option Time) : Result Unit :=
  if effectiveTo.any (· ≤ effectiveFrom) then
    .error (badRequestError
      "effective_to must be after effective_from (a zero-length period is only ever the copy a customer merge keeps, written by the merge itself)."
      [])
  else .ok ()

/-- The row a PATCH leaves; an explicit null start is refused by the database. -/
def PartyChanges.apply (changes : PartyChanges) (p : VehicleParty) : Result VehicleParty := do
  match changes.effectiveFrom.getD (some p.effectiveFrom) with
  | none => .error (conflictError "This customer already has this role on this vehicle as of this date."
      [("reason", "vehicle_party_exists"), ("vehicleId", toString p.vehicleId),
        ("role", p.role.value)])
  | some effectiveFrom =>
    let effectiveTo := changes.effectiveTo.getD p.effectiveTo
    validateEffectiveRange effectiveFrom effectiveTo
    pure { p with effectiveFrom := effectiveFrom, effectiveTo := effectiveTo }

/-- What is written once the locks are held; a PATCH comes with the row it locked. -/
inductive Job where
  | allocate (a : Allocation)
  | patch (u : PartyPatch) (p : VehicleParty)

def Job.pair : Job → Pair
  | .allocate a => (a.vehicleId, a.role)
  | .patch _ p => (p.vehicleId, p.role)

def Job.groupId : Job → Uuid
  | .allocate a => a.groupId
  | .patch u _ => u.groupId

def Job.customerId : Job → Uuid
  | .allocate a => a.customerId
  | .patch _ p => p.customerId

/-- The row a reopen leaves out of the holders it closes. -/
def Job.excluding : Job → Option Uuid
  | .allocate _ => none
  | .patch u _ => some u.partyId

/-- Where a writer is. -/
inductive PartyLocal where
  | idle
  | merging (call : MergeCall) (lo : MergeLocal)
  | allocating (a : Allocation)
  | patching (u : PartyPatch)
  | lockingParty (u : PartyPatch)
  | refusing (job : Job)
  | reading (job : Job)
  | lockingHolders (job : Job) (asOf : Time) (pending : List (Uuid × Uuid)) (taken : List Uuid)
  | committing (job : Job) (taken : List Uuid)
  | disconnecting (partyId : Uuid)
  | closing (partyId : Uuid)
  | repointing (duplicateId survivorId : Uuid) (rows : List Uuid)

/-- What the environment decides: the request, the next statement, the id of a
new row, a failure, the time. -/
inductive PartyChoice where
  | allocate (groupId customerId vehicleId : Uuid) (role : VehiclePartyRole)
  | create (groupId customerId vehicleId : Uuid) (role : VehiclePartyRole)
      (effectiveFrom effectiveTo : Option Time)
  | update (groupId customerId partyId : Uuid) (changes : PartyChanges)
  | delete (groupId customerId partyId : Uuid)
  | merge (groupId duplicateId targetId : Uuid) (actorId : Option Uuid) (ifMatch : ℕ)
  | repoint (duplicateVehicleId survivorVehicleId : Uuid)
  | go
  | insert (partyId : Uuid)
  | fail
  | tick (now : Time)
  deriving DecidableEq

/-! ### Statements -/

/-- `get_customer_vehicle_or_404`. -/
def getCustomerVehicleOr404 (db : CustomerDb) (groupId customerId partyId : Uuid) :
    Result VehicleParty := do
  let _ ← getCustomerOr404 db.customers groupId customerId
  orNotFound ((db.parties.lookup partyId).filter (·.customerId = customerId))
    s!"VehicleParty {partyId} was not found."

/-- The predicate of `_open_holders_in_group`. -/
def holdsIn (customers : Table Uuid CustomerRow) (now : Time) (pair : Pair) (groupId : Uuid)
    (p : VehicleParty) : Bool :=
  p.vehicleId = pair.1 ∧ p.role = pair.2 ∧
    (customers.lookup p.customerId).any (·.groupId = groupId) ∧ isOpen now p.effectiveTo

/-- The rows `_open_holders_in_group` finds, oldest first, each with the customer
it is joined to. -/
def openHolders (db : CustomerDb) (now : Time) (job : Job) : List (Uuid × Uuid) :=
  (((db.parties.entries.filter fun e => holdsIn db.customers now job.pair job.groupId e.2 ∧
    some e.1 ≠ job.excluding).insertionSort fun a b => a.2.effectiveFrom ≤ b.2.effectiveFrom).map
      fun e => (e.1, e.2.customerId))

/-- A locked row is a holder if it still is one, of the customer it was joined
to: the join is not read again when the row is. -/
def takeHolder (parties : Table Uuid VehicleParty) (asOf : Time) (job : Job) (row : Uuid × Uuid)
    (taken : List Uuid) : List Uuid :=
  if (parties.lookup row.1).any fun p => p.vehicleId = job.pair.1 ∧ p.role = job.pair.2 ∧
      p.customerId = row.2 ∧ isOpen asOf p.effectiveTo then
    taken ++ [row.1]
  else taken

def closeAll (now : Time) (taken : List Uuid) (parties : Table Uuid VehicleParty) :
    Table Uuid VehicleParty :=
  parties.updateAll fun id p => if id ∈ taken then closeVehicleParty p now else p

def Allocation.row (a : Allocation) (now : Time) : VehicleParty where
  vehicleId := a.vehicleId
  customerId := a.customerId
  role := a.role
  effectiveFrom := a.effectiveFrom.getD now
  effectiveTo := a.effectiveTo

/-- An open-ended request of the one holder there is changes nothing. -/
def Allocation.reconfirms (a : Allocation) (parties : Table Uuid VehicleParty) (taken : List Uuid) :
    Bool :=
  match taken with
  | [id] => a.effectiveTo = none ∧ (parties.lookup id).any (·.customerId = a.customerId)
  | _ => false

def repointVehicle (survivorId : Uuid) (rows : List Uuid) (parties : Table Uuid VehicleParty) :
    Table Uuid VehicleParty :=
  parties.updateAll fun id p => if id ∈ rows then { p with vehicleId := survivorId } else p

section Step

variable {ι : Type}

/-- The commit of party rows; the unique constraint may refuse it. -/
def commitParties [DecidableEq ι] (i : ι) (parties : Table Uuid VehicleParty) (sh : Shared ι) : Shared ι :=
  if UniqueScope parties then rollback i { sh with db := { sh.db with parties := parties } }
  else rollback i sh

/-- `create_customer_vehicle` up to the first lock. -/
def startCreate (sh : Shared ι) (groupId customerId vehicleId : Uuid) (role : VehiclePartyRole)
    (effectiveFrom effectiveTo : Option Time) : Result Allocation := do
  let _ ← getCustomerOr404 sh.db.customers groupId customerId
  let effectiveFrom := effectiveFrom.getD sh.now
  validateEffectiveRange effectiveFrom effectiveTo
  pure ⟨vehicleId, customerId, role, groupId, some effectiveFrom, effectiveTo,
    isOpen sh.now effectiveTo⟩

/-- `update_customer_vehicle` up to the first lock. -/
def startUpdate (sh : Shared ι) (groupId customerId partyId : Uuid) (changes : PartyChanges) :
    Result PartyPatch := do
  let p ← getCustomerVehicleOr404 sh.db groupId customerId partyId
  pure ⟨partyId, groupId, p.vehicleId, p.role, changes, changes.holdsAfter sh.now⟩

variable [DecidableEq ι]

/-- `_lock_party` and, for a row that is to hold its role, the refusal of a copy
a merge kept. -/
def lockParty (i : ι) (u : PartyPatch) (sh : Shared ι) : Shared ι × PartyLocal :=
  let locked := take i (.party u.partyId) .update sh
  match sh.db.parties.lookup u.partyId with
  | none => (rollback i sh, .idle)
  | some p =>
    if u.holds then
      if p.mergedIntoCustomerId = none then (locked, .refusing (.patch u p))
      else (rollback i sh, .idle)
    else
      match u.changes.apply p with
      | .ok _ => (locked, .committing (.patch u p) [])
      | .error _ => (rollback i sh, .idle)

/-- `_refuse_merged_customer`, and what follows it. -/
def refuseMerged (i : ι) (job : Job) (sh : Shared ι) : Shared ι × PartyLocal :=
  let locked := take i (.customer job.customerId) .share sh
  if (sh.db.customers.lookup job.customerId).all (·.lifecycleStatus = .merged) then
    (rollback i sh, .idle)
  else
    match job with
    | .allocate a =>
      if a.holds then
        (locked, .reading (.allocate { a with effectiveFrom := some (a.effectiveFrom.getD sh.now) }))
      else (locked, .committing job [])
    | .patch u p =>
      match u.changes.apply p with
      | .ok _ => (locked, .reading job)
      | .error _ => (rollback i sh, .idle)

def holdersLocked (i : ι) (job : Job) (taken : List Uuid) (sh : Shared ι) : Shared ι × PartyLocal :=
  match job with
  | .allocate a =>
    if a.reconfirms sh.db.parties taken then (rollback i sh, .idle) else (sh, .committing job taken)
  | .patch .. => (sh, .committing job taken)

/-- The next statement of a session; `none` while it waits. -/
def goStep (i : ι) (sh : Shared ι) : PartyLocal → Option (Shared ι × PartyLocal)
  | .merging call lo => (mergeStep i call sh lo).map fun out =>
    (out.1, match out.2 with
      | some lo => .merging call lo
      | none => .idle)
  | .allocating a =>
    let r := Resource.advisory (a.vehicleId, a.role) a.groupId
    if Free sh.grants i r .update then some (take i r .update sh, .refusing (.allocate a)) else none
  | .patching u =>
    let r := Resource.advisory (u.vehicleId, u.role) u.groupId
    if Free sh.grants i r .update then some (take i r .update sh, .lockingParty u) else none
  | .lockingParty u =>
    if Free sh.grants i (.party u.partyId) .update then some (lockParty i u sh) else none
  | .refusing job =>
    if Free sh.grants i (.customer job.customerId) .share then some (refuseMerged i job sh) else none
  | .reading job => some (sh, .lockingHolders job sh.now (openHolders sh.db sh.now job) [])
  | .lockingHolders job asOf (row :: pending) taken =>
    if Free sh.grants i (.party row.1) .update then
      some (take i (.party row.1) .update sh,
        .lockingHolders job asOf pending (takeHolder sh.db.parties asOf job row taken))
    else none
  | .lockingHolders job _ [] taken => some (holdersLocked i job taken sh)
  | .committing (.patch u p) taken =>
    match u.changes.apply p with
    | .ok q => some (commitParties i ((closeAll sh.now taken sh.db.parties).insert u.partyId q) sh, .idle)
    | .error _ => some (rollback i sh, .idle)
  | .disconnecting partyId =>
    if Free sh.grants i (.party partyId) .update then
      if (sh.db.parties.lookup partyId).any fun p => isOpen sh.now p.effectiveTo then
        some (take i (.party partyId) .update sh, .closing partyId)
      else some (rollback i sh, .idle)
    else none
  | .closing partyId => some (commitParties i (closeAll sh.now [partyId] sh.db.parties) sh, .idle)
  | .repointing _ survivorId rows =>
    if ∀ id ∈ rows, Free sh.grants i (.party id) .noKeyUpdate then
      some (commitParties i (repointVehicle survivorId rows sh.db.parties) sh, .idle)
    else none
  | .idle | .committing (.allocate _) _ => none

def startStep (sh : Shared ι) : PartyChoice → Option PartyLocal
  | .allocate groupId customerId vehicleId role =>
    match getCustomerOr404 sh.db.customers groupId customerId with
    | .ok _ => some (.allocating { vehicleId, customerId, role, groupId })
    | .error _ => none
  | .create groupId customerId vehicleId role effectiveFrom effectiveTo =>
    match startCreate sh groupId customerId vehicleId role effectiveFrom effectiveTo with
    | .ok a => some (.allocating a)
    | .error _ => none
  | .update groupId customerId partyId changes =>
    match startUpdate sh groupId customerId partyId changes with
    | .ok u => some (if u.holds then .patching u else .lockingParty u)
    | .error _ => none
  | .delete groupId customerId partyId =>
    match getCustomerVehicleOr404 sh.db groupId customerId partyId with
    | .ok _ => some (.disconnecting partyId)
    | .error _ => none
  | .merge groupId duplicateId targetId actorId ifMatch =>
    match startMerge sh groupId duplicateId targetId actorId ifMatch with
    | .ok call => some (.merging call (.reading [] false))
    | .error _ => none
  | .repoint duplicateVehicleId survivorVehicleId =>
    some (.repointing duplicateVehicleId survivorVehicleId
      ((sh.db.parties.entries.filter fun e => e.2.vehicleId = duplicateVehicleId).map (·.1)))
  | .go | .insert _ | .fail | .tick _ => none

def partyStep (i : ι) (ch : PartyChoice) (sh : Shared ι) (lo : PartyLocal) :
    Option (Shared ι × PartyLocal) :=
  match ch, lo with
  | .go, lo => goStep i sh lo
  | .insert partyId, .committing (.allocate a) taken =>
    -- a new id is nobody's
    if sh.db.parties.lookup partyId = none ∧ ∀ g ∈ sh.grants, g.resource ≠ .party partyId then
      some (commitParties i
        ((closeAll sh.now taken sh.db.parties).insert partyId (a.row sh.now)) sh, .idle)
    else none
  | .fail, _ => some (rollback i sh, .idle)
  | .tick now, lo => some (tick now sh, lo)
  | ch, .idle => (startStep sh ch).map (sh, ·)
  | _, _ => none

end Step

section Moves

variable {ι : Type} [DecidableEq ι]

/-- A row to be added is of a customer of the group; its end, if it has one, is
not before its start; one that closes nobody is closed itself. -/
structure Allocation.Valid (a : Allocation) (sh : Shared ι) : Prop where
  group : ∃ c, sh.db.customers.lookup a.customerId = some c ∧ c.groupId = a.groupId
  range : ∀ t, a.effectiveTo = some t → ∃ f, a.effectiveFrom = some f ∧ f ≤ t
  past : a.holds = false → isOpen sh.now a.effectiveTo = false

/-- The row of a PATCH is there, of a customer of the group and in the role
read; a PATCH that does not hold the role leaves the end or sets a past one. -/
structure PartyPatch.Valid (u : PartyPatch) (sh : Shared ι) : Prop where
  row : ∃ p c, sh.db.parties.lookup u.partyId = some p ∧
    sh.db.customers.lookup p.customerId = some c ∧ p.role = u.role ∧ c.groupId = u.groupId
  past : u.holds = false → ∀ t, u.changes.effectiveTo = some t → isOpen sh.now t = false

/-- The steps of the writers, read off `partyStep` once. -/
inductive PartyMoves (i : ι) (sh : Shared ι) :
    PartyChoice → PartyLocal → Shared ι → PartyLocal → Prop
  | allocate (ch : PartyChoice) (a : Allocation) : a.Valid sh →
      PartyMoves i sh ch .idle sh (.allocating a)
  | update (ch : PartyChoice) (u : PartyPatch) : u.Valid sh →
      PartyMoves i sh ch .idle sh (if u.holds then .patching u else .lockingParty u)
  | delete (ch : PartyChoice) (partyId : Uuid) : PartyMoves i sh ch .idle sh (.disconnecting partyId)
  | startMerge (ch : PartyChoice) (call : MergeCall) (groupId duplicateId targetId : Uuid)
      (actorId : Option Uuid) (ifMatch : ℕ) :
      Customers.startMerge sh groupId duplicateId targetId actorId ifMatch = .ok call →
      PartyMoves i sh ch .idle sh (.merging call (.reading [] false))
  | repoint (ch : PartyChoice) (duplicateId survivorId : Uuid) (rows : List Uuid) :
      (∀ id ∈ rows, ∃ p, sh.db.parties.lookup id = some p) →
      PartyMoves i sh ch .idle sh (.repointing duplicateId survivorId rows)
  | merge (call : MergeCall) (lo : MergeLocal) (sh' : Shared ι) (lo' : Option MergeLocal) :
      MergeMoves i call sh lo sh' lo' →
      PartyMoves i sh .go (.merging call lo) sh' (match lo' with
        | some lo => .merging call lo
        | none => .idle)
  | pair (a : Allocation) : Free sh.grants i (.advisory (a.vehicleId, a.role) a.groupId) .update →
      PartyMoves i sh .go (.allocating a)
        (take i (.advisory (a.vehicleId, a.role) a.groupId) .update sh) (.refusing (.allocate a))
  | patchPair (u : PartyPatch) :
      Free sh.grants i (.advisory (u.vehicleId, u.role) u.groupId) .update →
      PartyMoves i sh .go (.patching u)
        (take i (.advisory (u.vehicleId, u.role) u.groupId) .update sh) (.lockingParty u)
  | holdingRow (u : PartyPatch) (p : VehicleParty) :
      Free sh.grants i (.party u.partyId) .update → sh.db.parties.lookup u.partyId = some p →
      u.holds = true → p.mergedIntoCustomerId = none →
      PartyMoves i sh .go (.lockingParty u) (take i (.party u.partyId) .update sh)
        (.refusing (.patch u p))
  | plainRow (u : PartyPatch) (p q : VehicleParty) :
      Free sh.grants i (.party u.partyId) .update → sh.db.parties.lookup u.partyId = some p →
      u.holds = false → u.changes.apply p = .ok q →
      PartyMoves i sh .go (.lockingParty u) (take i (.party u.partyId) .update sh)
        (.committing (.patch u p) [])
  | customer (a : Allocation) (effectiveFrom : Option Time) (c : CustomerRow) :
      Free sh.grants i (.customer a.customerId) .share →
      sh.db.customers.lookup a.customerId = some c → c.lifecycleStatus ≠ .merged →
      a.holds = true → (∀ f, a.effectiveFrom = some f → effectiveFrom = some f) →
      PartyMoves i sh .go (.refusing (.allocate a)) (take i (.customer a.customerId) .share sh)
        (.reading (.allocate { a with effectiveFrom := effectiveFrom }))
  | history (a : Allocation) (c : CustomerRow) :
      Free sh.grants i (.customer a.customerId) .share →
      sh.db.customers.lookup a.customerId = some c → c.lifecycleStatus ≠ .merged →
      a.holds = false →
      PartyMoves i sh .go (.refusing (.allocate a)) (take i (.customer a.customerId) .share sh)
        (.committing (.allocate a) [])
  | patchCustomer (u : PartyPatch) (p q : VehicleParty) :
      Free sh.grants i (.customer p.customerId) .share → u.changes.apply p = .ok q →
      PartyMoves i sh .go (.refusing (.patch u p)) (take i (.customer p.customerId) .share sh)
        (.reading (.patch u p))
  | read (job : Job) : PartyMoves i sh .go (.reading job) sh
      (.lockingHolders job sh.now (openHolders sh.db sh.now job) [])
  | holder (job : Job) (asOf : Time) (row : Uuid × Uuid) (pending : List (Uuid × Uuid))
      (taken : List Uuid) : Free sh.grants i (.party row.1) .update →
      PartyMoves i sh .go (.lockingHolders job asOf (row :: pending) taken)
        (take i (.party row.1) .update sh)
        (.lockingHolders job asOf pending (takeHolder sh.db.parties asOf job row taken))
  | holders (job : Job) (asOf : Time) (taken : List Uuid) :
      PartyMoves i sh .go (.lockingHolders job asOf [] taken) sh (.committing job taken)
  | insert (partyId : Uuid) (a : Allocation) (taken : List Uuid) :
      sh.db.parties.lookup partyId = none → (∀ g ∈ sh.grants, g.resource ≠ .party partyId) →
      PartyMoves i sh (.insert partyId) (.committing (.allocate a) taken)
        (rollback i { sh with db := { sh.db with
          parties := (closeAll sh.now taken sh.db.parties).insert partyId (a.row sh.now) } }) .idle
  | patch (u : PartyPatch) (p q : VehicleParty) (taken : List Uuid) :
      u.changes.apply p = .ok q →
      PartyMoves i sh .go (.committing (.patch u p) taken)
        (rollback i { sh with db := { sh.db with
          parties := (closeAll sh.now taken sh.db.parties).insert u.partyId q } }) .idle
  | disconnect (partyId : Uuid) : Free sh.grants i (.party partyId) .update →
      PartyMoves i sh .go (.disconnecting partyId) (take i (.party partyId) .update sh)
        (.closing partyId)
  | close (partyId : Uuid) : PartyMoves i sh .go (.closing partyId)
      (rollback i { sh with db := { sh.db with
        parties := closeAll sh.now [partyId] sh.db.parties } }) .idle
  | repointed (duplicateId survivorId : Uuid) (rows : List Uuid) :
      (∀ id ∈ rows, Free sh.grants i (.party id) .noKeyUpdate) →
      PartyMoves i sh .go (.repointing duplicateId survivorId rows)
        (rollback i { sh with db := { sh.db with
          parties := repointVehicle survivorId rows sh.db.parties } }) .idle
  | rollback (ch : PartyChoice) (lo : PartyLocal) :
      PartyMoves i sh ch lo (Customers.rollback i sh) .idle
  | tick (now : Time) (lo : PartyLocal) : PartyMoves i sh (.tick now) lo (Customers.tick now sh) lo

end Moves

section

variable {ι : Type} {i : ι} {sh sh' : Shared ι} {lo lo' : PartyLocal} {effectiveTo : Option Time}

theorem validateEffectiveRange_eq_ok {effectiveFrom : Time} {u : Unit}
    (h : validateEffectiveRange effectiveFrom effectiveTo = .ok u) {t : Time}
    (ht : effectiveTo = some t) : effectiveFrom ≤ t := by
  subst ht
  unfold validateEffectiveRange at h
  split at h
  · cases h
  · next hnot =>
    have : ¬ t ≤ effectiveFrom := by simpa using hnot
    exact (not_le.mp this).le

variable {changes : PartyChanges}

theorem PartyChanges.apply_eq_ok {p q : VehicleParty} (h : changes.apply p = .ok q) :
    q.vehicleId = p.vehicleId ∧ q.customerId = p.customerId ∧ q.role = p.role ∧
      q.mergedIntoCustomerId = p.mergedIntoCustomerId ∧
      q.effectiveTo = changes.effectiveTo.getD p.effectiveTo ∧
      ∀ t, q.effectiveTo = some t → q.effectiveFrom ≤ t := by
  unfold PartyChanges.apply at h
  split at h
  · cases h
  · obtain ⟨u, hu, h⟩ := Result.of_bind h
    cases h
    exact ⟨rfl, rfl, rfl, rfl, rfl, fun t ht => validateEffectiveRange_eq_ok hu ht⟩

variable {groupId customerId : Uuid}

theorem startCreate_valid {vehicleId : Uuid} {role : VehiclePartyRole} {effectiveFrom : Option Time}
    {a : Allocation}
    (h : startCreate sh groupId customerId vehicleId role effectiveFrom effectiveTo = .ok a) :
    a.Valid sh := by
  obtain ⟨c, hc, h⟩ := Result.of_bind h
  obtain ⟨u, hu, h⟩ := Result.of_bind h
  cases h
  exact ⟨⟨c, getCustomerOr404_eq_ok hc⟩,
    fun t ht => ⟨_, rfl, validateEffectiveRange_eq_ok hu ht⟩, fun hpast => hpast⟩

variable {u : PartyPatch}

theorem startUpdate_valid {partyId : Uuid}
    (h : startUpdate sh groupId customerId partyId changes = .ok u) : u.Valid sh := by
  obtain ⟨p, hp, h⟩ := Result.of_bind h
  cases h
  obtain ⟨c, hc, hp⟩ := Result.of_bind hp
  obtain ⟨hc, hgroup⟩ := getCustomerOr404_eq_ok hc
  rw [orNotFound_eq_ok, Option.filter_eq_some_iff] at hp
  have hof : p.customerId = customerId := by simpa using hp.2
  refine ⟨⟨p, c, hp.1, by rw [hof]; exact hc, rfl, hgroup⟩, fun hpast t ht => ?_⟩
  have hnot : changes.effectiveTo.any (isOpen sh.now) = false := hpast
  have hto : changes.effectiveTo = some t := ht
  rw [hto] at hnot
  exact hnot

variable [DecidableEq ι] {ch : PartyChoice}

theorem partyMoves_of_start (h : startStep sh ch = some lo') : PartyMoves i sh ch .idle sh lo' := by
  cases ch with
  | allocate groupId customerId vehicleId role =>
    rw [startStep] at h
    split at h
    · next c hc =>
      cases h
      refine .allocate _ _ ⟨⟨c, getCustomerOr404_eq_ok hc⟩, fun t ht => ?_, fun hpast => ?_⟩
      · cases ht
      · cases hpast
    · cases h
  | create groupId customerId vehicleId role effectiveFrom effectiveTo =>
    rw [startStep] at h
    split at h
    · next a ha =>
      cases h
      exact .allocate _ a (startCreate_valid ha)
    · cases h
  | update groupId customerId partyId changes =>
    rw [startStep] at h
    split at h
    · next u hu =>
      cases h
      exact .update _ u (startUpdate_valid hu)
    · cases h
  | delete groupId customerId partyId =>
    rw [startStep] at h
    split at h
    · cases h
      exact .delete _ partyId
    · cases h
  | merge groupId duplicateId targetId actorId ifMatch =>
    rw [startStep] at h
    split at h
    · next call hcall =>
      cases h
      exact .startMerge _ call _ _ _ _ _ hcall
    · cases h
  | repoint duplicateVehicleId survivorVehicleId =>
    cases h
    refine .repoint _ _ _ _ fun id hid => ?_
    obtain ⟨e, he, rfl⟩ := List.mem_map.mp hid
    exact ⟨e.2, Table.lookup_eq_some_iff_mem.mpr (List.mem_filter.mp he).1⟩
  | go => cases h
  | insert => cases h
  | fail => cases h
  | tick => cases h

theorem commitParties_cases {parties : Table Uuid VehicleParty} (h : PartyMoves i sh ch lo
      (Customers.rollback i { sh with db := { sh.db with parties := parties } }) .idle) :
    PartyMoves i sh ch lo (commitParties i parties sh) .idle := by
  unfold commitParties
  split
  · exact h
  · exact .rollback ch lo

theorem partyMoves_of_lockParty (hfree : Free sh.grants i (.party u.partyId) .update)
    (h : lockParty i u sh = (sh', lo')) : PartyMoves i sh .go (.lockingParty u) sh' lo' := by
  unfold lockParty at h
  split at h
  · cases h
    exact .rollback _ _
  · next p hp =>
    split at h
    · next hholds =>
      split at h
      · next hmark =>
        cases h
        exact .holdingRow u p hfree hp hholds hmark
      · cases h
        exact .rollback _ _
    · next hholds =>
      split at h
      · next q hq =>
        cases h
        exact .plainRow u p q hfree hp (by simpa using hholds) hq
      · cases h
        exact .rollback _ _

theorem partyMoves_of_refuse {job : Job}
    (hfree : Free sh.grants i (.customer job.customerId) .share)
    (h : refuseMerged i job sh = (sh', lo')) : PartyMoves i sh .go (.refusing job) sh' lo' := by
  unfold refuseMerged at h
  split at h
  · cases h
    exact .rollback _ _
  · next hmerged =>
    obtain ⟨c, hc, hlive⟩ : ∃ c, sh.db.customers.lookup job.customerId = some c ∧
        c.lifecycleStatus ≠ .merged := by
      rcases hc : sh.db.customers.lookup job.customerId with _ | c
      · rw [hc] at hmerged
        exact (hmerged rfl).elim
      · rw [hc] at hmerged
        exact ⟨c, rfl, by simpa using hmerged⟩
    cases job with
    | allocate a =>
      dsimp only at h
      split at h
      · next hholds =>
        cases h
        refine .customer a _ c hfree hc hlive hholds fun f hf => ?_
        rw [hf]
        rfl
      · next hholds =>
        cases h
        exact .history a c hfree hc hlive (by simpa using hholds)
    | patch u p =>
      dsimp only at h
      split at h
      · next q hq =>
        cases h
        exact .patchCustomer u p q hfree hq
      · cases h
        exact .rollback _ _

theorem partyMoves_of_go (h : goStep i sh lo = some (sh', lo')) : PartyMoves i sh .go lo sh' lo' := by
  cases lo with
  | idle => cases h
  | merging call lo =>
    obtain ⟨⟨sh₁, lo₁⟩, hstep, h⟩ := Option.map_eq_some_iff.mp h
    cases h
    exact .merge call lo sh₁ lo₁ (mergeMoves_of_step hstep)
  | allocating a =>
    simp only [goStep] at h
    split at h
    · next hfree =>
      cases h
      exact .pair a hfree
    · cases h
  | patching u =>
    simp only [goStep] at h
    split at h
    · next hfree =>
      cases h
      exact .patchPair u hfree
    · cases h
  | lockingParty u =>
    rw [goStep] at h
    split at h
    · next hfree => exact partyMoves_of_lockParty hfree (Option.some.inj h)
    · cases h
  | refusing job =>
    rw [goStep] at h
    split at h
    · next hfree => exact partyMoves_of_refuse hfree (Option.some.inj h)
    · cases h
  | reading job =>
    cases h
    exact .read job
  | lockingHolders job asOf pending taken =>
    cases pending with
    | nil =>
      rw [goStep, Option.some.injEq] at h
      unfold holdersLocked at h
      split at h
      · split at h
        · cases h
          exact .rollback _ _
        · cases h
          exact .holders _ asOf taken
      · cases h
        exact .holders _ asOf taken
    | cons row pending =>
      rw [goStep] at h
      split at h
      · next hfree =>
        cases h
        exact .holder job asOf row pending taken hfree
      · cases h
  | committing job taken =>
    cases job with
    | allocate a => cases h
    | patch u p =>
      rw [goStep] at h
      split at h
      · next q hq =>
        cases h
        exact commitParties_cases (.patch u p q taken hq)
      · cases h
        exact .rollback _ _
  | disconnecting partyId =>
    rw [goStep] at h
    split at h
    · next hfree =>
      split at h
      · cases h
        exact .disconnect partyId hfree
      · cases h
        exact .rollback _ _
    · cases h
  | closing partyId =>
    cases h
    exact commitParties_cases (.close partyId)
  | repointing duplicateId survivorId rows =>
    rw [goStep] at h
    split at h
    · next hfree =>
      cases h
      exact commitParties_cases (.repointed duplicateId survivorId rows hfree)
    · cases h

theorem partyMoves_of_step (h : partyStep i ch sh lo = some (sh', lo')) :
    PartyMoves i sh ch lo sh' lo' := by
  unfold partyStep at h
  split at h
  · exact partyMoves_of_go h
  · next partyId a taken =>
    split at h
    · next hnew =>
      cases h
      exact commitParties_cases (.insert partyId a taken hnew.1 hnew.2)
    · cases h
  · cases h
    exact .rollback _ _
  · cases h
    exact .tick _ _
  · obtain ⟨lo₁, hstart, h⟩ := Option.map_eq_some_iff.mp h
    cases h
    exact partyMoves_of_start hstart
  · cases h

end

end Nexotec.Customers
