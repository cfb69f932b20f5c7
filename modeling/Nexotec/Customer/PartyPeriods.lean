/-
The periods of party rows, over every sequence of requests
(`app/customer/services/customer.py`, `create_customer_vehicle`, `allocate_vehicle_party`,
`update_customer_vehicle`, `delete_customer_vehicle`, `merge_customer`).

A period that a client sends is checked; a row that another request closes ends at the time of
that request, whenever it starts.

* `sound_perform` — one request.

An allocation from next year, disconnected today: `closedEarly_fails`.
-/
import Mathlib.Data.List.Induction
import Nexotec.Customer.PartySteps

namespace Nexotec.PartyPeriods

open Customers

/-! ### Requests -/

/-- The clock as one request reads it: for a start that is not sent, for what is open now, for the
holders' query, and for each row that is closed. -/
structure Readings where
  start : Time
  check : Time
  select : Time
  close : Uuid → Time

inductive Request where
  | create (clock : Readings) (groupId customerId vehicleId : Uuid) (role : VehiclePartyRole)
      (effectiveFrom effectiveTo : Option Time) (newId : Uuid)
  | allocate (clock : Readings) (groupId customerId vehicleId : Uuid) (role : VehiclePartyRole)
      (effectiveFrom : Option Time) (newId : Uuid)
  | update (clock : Readings) (groupId customerId partyId : Uuid) (changes : PartyChanges)
  | delete (clock : Readings) (groupId customerId partyId : Uuid)
  | merge (clock : Readings) (actorId : Option Uuid) (groupId duplicateId targetId : Uuid) (ifMatch : ℕ)

def refuseMergedCustomer (customers : Table Uuid CustomerRow) (customerId : Uuid) : Result Unit :=
  match customers.lookup customerId with
  | none => .error (internalError "NoResultFound")
  | some customer =>
    if customer.lifecycleStatus = .merged then
      .error (conflictError
        "This customer has been merged into another; give the vehicle role to the customer it was merged into."
        [("reason", "customer_merged"),
          ("mergedIntoCustomerId", (customer.duplicateOfCustomerId.map toString).getD "None")])
    else .ok ()

/-- Each of the rows is closed at its own reading of the clock. -/
def closeEach (close : Uuid → Time) (ids : List Uuid) (parties : Table Uuid VehicleParty) :
    Table Uuid VehicleParty :=
  parties.updateAll fun id p => if id ∈ ids then closeVehicleParty p (close id) else p

/-- The flush: the row is new, and no customer has a role on a vehicle twice from one start. -/
def flush (db : CustomerDb) (parties : Table Uuid VehicleParty) : Result CustomerDb :=
  if UniqueScope parties then .ok { db with parties := parties }
  else .error (conflictError "This customer already has this role on this vehicle as of this date."
    [("reason", "vehicle_party_exists")])

def insertParty (db : CustomerDb) (parties : Table Uuid VehicleParty) (id : Uuid) (row : VehicleParty) :
    Result CustomerDb :=
  if (db.parties.lookup id).isSome then .error (internalError "duplicate key")
  else flush db (parties.insert id row)

def holders (db : CustomerDb) (clock : Readings) (job : Job) : List Uuid :=
  (openHolders db clock.select job).map (·.1)

def allocateVehicleParty (db : CustomerDb) (clock : Readings) (a : Allocation) (newId : Uuid) :
    Result CustomerDb := do
  let _ ← getCustomerOr404 db.customers a.groupId a.customerId
  refuseMergedCustomer db.customers a.customerId
  let incumbents := holders db clock (.allocate a)
  if a.reconfirms db.parties incumbents then pure db
  else insertParty db (closeEach clock.close incumbents db.parties) newId (a.row clock.start)

def allocation (clock : Readings) (groupId customerId vehicleId : Uuid) (role : VehiclePartyRole)
    (effectiveFrom effectiveTo : Option Time) : Allocation where
  vehicleId := vehicleId
  customerId := customerId
  role := role
  groupId := groupId
  effectiveFrom := some (effectiveFrom.getD clock.start)
  effectiveTo := effectiveTo

def createCustomerVehicle (isVehicle : Uuid → Bool) (db : CustomerDb) (clock : Readings)
    (groupId customerId vehicleId : Uuid) (role : VehiclePartyRole)
    (effectiveFrom effectiveTo : Option Time) (newId : Uuid) : Result CustomerDb := do
  let _ ← getCustomerOr404 db.customers groupId customerId
  if isVehicle vehicleId then
    let a := allocation clock groupId customerId vehicleId role effectiveFrom effectiveTo
    validateEffectiveRange (effectiveFrom.getD clock.start) effectiveTo
    if isOpen clock.check effectiveTo then allocateVehicleParty db clock a newId
    else
      refuseMergedCustomer db.customers customerId
      insertParty db db.parties newId (a.row clock.start)
  else .error (notFoundError s!"VehicleMdm {vehicleId} was not found.")

def refuseCopy (p : VehicleParty) : Result Unit :=
  match p.mergedIntoCustomerId with
  | none => .ok ()
  | some survivor => .error (conflictError
      "This row is the copy a customer merge kept; it cannot hold its role again."
      [("reason", "merged_party_row"), ("mergedIntoCustomerId", toString survivor)])

def patchOf (clock : Readings) (groupId partyId : Uuid) (p : VehicleParty) (changes : PartyChanges) :
    PartyPatch where
  partyId := partyId
  groupId := groupId
  vehicleId := p.vehicleId
  role := p.role
  changes := changes
  holds := changes.holdsAfter clock.check

def updateCustomerVehicle (db : CustomerDb) (clock : Readings) (groupId customerId partyId : Uuid)
    (changes : PartyChanges) : Result CustomerDb := do
  let p ← getCustomerVehicleOr404 db groupId customerId partyId
  if changes.holdsAfter clock.check then
    refuseCopy p
    refuseMergedCustomer db.customers p.customerId
    let q ← changes.apply p
    let others := holders db clock (.patch (patchOf clock groupId partyId p changes) p)
    flush db ((closeEach clock.close others db.parties).insert partyId q)
  else
    let q ← changes.apply p
    flush db (db.parties.insert partyId q)

def deleteCustomerVehicle (db : CustomerDb) (clock : Readings) (groupId customerId partyId : Uuid) :
    Result CustomerDb := do
  let p ← getCustomerVehicleOr404 db groupId customerId partyId
  if isOpen clock.check p.effectiveTo then
    pure { db with parties := closeEach clock.close [partyId] db.parties }
  else pure db

/-- The requests one after the other, each with its clock readings. -/
def perform (isVehicle : Uuid → Bool) (db : CustomerDb) : Request → Result CustomerDb
  | .create clock groupId customerId vehicleId role effectiveFrom effectiveTo newId =>
    createCustomerVehicle isVehicle db clock groupId customerId vehicleId role effectiveFrom effectiveTo
      newId
  | .allocate clock groupId customerId vehicleId role effectiveFrom newId =>
    allocateVehicleParty db clock { vehicleId, customerId, role, groupId, effectiveFrom } newId
  | .update clock groupId customerId partyId changes =>
    updateCustomerVehicle db clock groupId customerId partyId changes
  | .delete clock groupId customerId partyId => deleteCustomerVehicle db clock groupId customerId partyId
  | .merge clock actorId groupId duplicateId targetId ifMatch =>
    mergeCustomer clock.check actorId db groupId duplicateId targetId ifMatch

def next (isVehicle : Uuid → Bool) (db : CustomerDb) (request : Request) : CustomerDb :=
  match perform isVehicle db request with
  | .ok db => db
  | .error _ => db

/-! ### Well-formed periods -/

/-- The end is later than the start, or a merge has set it to the start. -/
def WellFormed (p : VehicleParty) : Prop :=
  ∀ t, p.effectiveTo = some t → p.effectiveFrom < t ∨
    p.mergedIntoCustomerId.isSome = true ∧ t = p.effectiveFrom

def ownDates (p : VehicleParty) : PartyChanges where
  effectiveFrom := some (some p.effectiveFrom)
  effectiveTo := some p.effectiveTo

/-- The rows that a request closes at their time of closing. -/
def closed (db : CustomerDb) : Request → List (Uuid × Time)
  | .create clock groupId customerId vehicleId role effectiveFrom effectiveTo _ =>
    if isOpen clock.check effectiveTo then
      closing clock (allocation clock groupId customerId vehicleId role effectiveFrom effectiveTo)
    else []
  | .allocate clock groupId customerId vehicleId role effectiveFrom _ =>
    closing clock { vehicleId, customerId, role, groupId, effectiveFrom }
  | .update clock groupId _ partyId changes =>
    match db.parties.lookup partyId with
    | none => []
    | some p =>
      if changes.holdsAfter clock.check then
        (holders db clock (.patch (patchOf clock groupId partyId p changes) p)).map fun id =>
          (id, clock.close id)
      else []
  | .delete clock _ _ partyId =>
    if (db.parties.lookup partyId).any fun p => isOpen clock.check p.effectiveTo then
      [(partyId, clock.close partyId)]
    else []
  | .merge .. => []
where
  /-- The incumbents of an allocation that is no reconfirmation. -/
  closing (clock : Readings) (a : Allocation) : List (Uuid × Time) :=
    if a.reconfirms db.parties (holders db clock (.allocate a)) then []
    else (holders db clock (.allocate a)).map fun id => (id, clock.close id)

/-- **The condition on a request**: it closes no row before that has started. -/
def InTime (db : CustomerDb) (request : Request) : Prop :=
  ∀ e ∈ closed db request, ∀ p, db.parties.lookup e.1 = some p → p.effectiveFrom < e.2

/-- What holds of the tables: periods are well formed, and only copies are left with merged
customers. -/
structure Sound (db : CustomerDb) : Prop where
  wellFormed : ∀ id p, db.parties.lookup id = some p → WellFormed p
  owners : ∀ id p, db.parties.lookup id = some p → ∃ c, db.customers.lookup p.customerId = some c ∧
    (p.mergedIntoCustomerId = none → c.lifecycleStatus ≠ .merged)
  scope : UniqueScope db.parties

section Rows

variable {customers : Table Uuid CustomerRow} {parties : Table Uuid VehicleParty} {db db' : CustomerDb}
  {clock : Readings} {close : Uuid → Time} {ids : List Uuid} {id : Uuid}

/-- A row with a well-formed period whose customer exists, and is unmerged unless it is a copy. -/
def RowOk (customers : Table Uuid CustomerRow) (p : VehicleParty) : Prop :=
  WellFormed p ∧ ∃ c, customers.lookup p.customerId = some c ∧
    (p.mergedIntoCustomerId = none → c.lifecycleStatus ≠ .merged)

theorem Sound.rows (h : Sound db) (p : VehicleParty) (hp : db.parties.lookup id = some p) :
    RowOk db.customers p := ⟨h.wellFormed id p hp, h.owners id p hp⟩

theorem sound_of_rows (hrows : ∀ id p, db.parties.lookup id = some p → RowOk db.customers p)
    (hscope : UniqueScope db.parties) : Sound db :=
  ⟨fun id p hp => (hrows id p hp).1, fun id p hp => (hrows id p hp).2, hscope⟩

variable {row : VehicleParty}

theorem rows_closeEach (hrows : ∀ id p, parties.lookup id = some p → RowOk customers p)
    (hclose : ∀ id ∈ ids, ∀ p, parties.lookup id = some p → p.effectiveFrom < close id) :
    ∀ id p, (closeEach close ids parties).lookup id = some p → RowOk customers p := by
  intro id p hp
  rw [closeEach, Table.lookup_updateAll, Option.map_eq_some_iff] at hp
  obtain ⟨before, hbefore, rfl⟩ := hp
  obtain ⟨hformed, howner⟩ := hrows id before hbefore
  split
  · next hmem =>
    refine ⟨fun t ht => .inl ?_, howner⟩
    obtain rfl : close id = t := Option.some.inj ht
    exact hclose id hmem before hbefore
  · exact ⟨hformed, howner⟩

theorem scope_closeEach (hscope : UniqueScope parties) : UniqueScope (closeEach close ids parties) := by
  intro id id' p p' hp hp'
  rw [closeEach, Table.lookup_updateAll, Option.map_eq_some_iff] at hp hp'
  obtain ⟨before, hbefore, rfl⟩ := hp
  obtain ⟨before', hbefore', rfl⟩ := hp'
  have hkey : ∀ x b, (if x ∈ ids then closeVehicleParty b (close x) else b).vehicleId = b.vehicleId ∧
      (if x ∈ ids then closeVehicleParty b (close x) else b).customerId = b.customerId ∧
      (if x ∈ ids then closeVehicleParty b (close x) else b).role = b.role ∧
      (if x ∈ ids then closeVehicleParty b (close x) else b).effectiveFrom = b.effectiveFrom := by
    intro x b
    split <;> exact ⟨rfl, rfl, rfl, rfl⟩
  obtain ⟨hv, hc, hr, hf⟩ := hkey id before
  obtain ⟨hv', hc', hr', hf'⟩ := hkey id' before'
  rw [hv, hc, hr, hf, hv', hc', hr', hf']
  exact hscope id id' before before' hbefore hbefore'

variable {p q : VehicleParty}

theorem scope_insert_same (hscope : UniqueScope parties) (hp : parties.lookup id = some p)
    (hkey : q.vehicleId = p.vehicleId ∧
      q.customerId = p.customerId ∧ q.role = p.role ∧ q.effectiveFrom = p.effectiveFrom) :
    UniqueScope (parties.insert id q) := by
  -- the row it stands for
  have hrow : ∀ x y, (parties.insert id q).lookup x = some y → ∃ z, parties.lookup x = some z ∧
      y.vehicleId = z.vehicleId ∧ y.customerId = z.customerId ∧ y.role = z.role ∧
      y.effectiveFrom = z.effectiveFrom := by
    intro x y hy
    rcases Table.lookup_insert_cases hy with ⟨rfl, rfl⟩ | ⟨-, hold⟩
    · exact ⟨p, hp, hkey⟩
    · exact ⟨y, hold, rfl, rfl, rfl, rfl⟩
  intro x x' y y' hy hy'
  obtain ⟨z, hz, hv, hc, hr, hf⟩ := hrow x y hy
  obtain ⟨z', hz', hv', hc', hr', hf'⟩ := hrow x' y' hy'
  rw [hv, hc, hr, hf, hv', hc', hr', hf']
  exact hscope x x' z z' hz hz'

theorem flush_eq_ok (h : flush db parties = .ok db') :
    UniqueScope parties ∧ db' = { db with parties := parties } := by
  unfold flush at h
  split at h
  · next hscope => exact ⟨hscope, (Except.ok.inj h).symm⟩
  · cases h

variable {customerId : Uuid} {u : Unit}

theorem refuseMergedCustomer_eq_ok (h : refuseMergedCustomer customers customerId = .ok u) :
    ∃ c, customers.lookup customerId = some c ∧ c.lifecycleStatus ≠ .merged := by
  unfold refuseMergedCustomer at h
  split at h
  · cases h
  · next c hc =>
    split at h
    · cases h
    · next hnot => exact ⟨c, hc, hnot⟩

variable {effectiveTo : Option Time}

theorem validateEffectiveRange_lt {effectiveFrom : Time}
    (h : validateEffectiveRange effectiveFrom effectiveTo = .ok u) {t : Time}
    (ht : effectiveTo = some t) : effectiveFrom < t := by
  subst ht
  unfold validateEffectiveRange at h
  split at h
  · cases h
  · next hnot => exact not_le.mp (by simpa using hnot)

variable {changes : PartyChanges}

theorem apply_eq_ok (h : changes.apply p = .ok q) :
    q.customerId = p.customerId ∧ q.mergedIntoCustomerId = p.mergedIntoCustomerId ∧
      ∀ t, q.effectiveTo = some t → q.effectiveFrom < t := by
  unfold PartyChanges.apply at h
  split at h
  · cases h
  · obtain ⟨u, hu, h⟩ := Result.of_bind h
    cases h
    exact ⟨rfl, rfl, fun t ht => validateEffectiveRange_lt hu ht⟩

theorem rowOk_patched (hp : RowOk customers p) (h : changes.apply p = .ok q) :
    RowOk customers q := by
  obtain ⟨hcustomer, hmark, hrange⟩ := apply_eq_ok h
  refine ⟨fun t ht => .inl (hrange t ht), ?_⟩
  rw [hcustomer, hmark]
  exact hp.2

variable {groupId partyId : Uuid}

theorem getCustomerVehicle_ok (h : getCustomerVehicleOr404 db groupId customerId partyId = .ok p) :
    db.parties.lookup partyId = some p := by
  obtain ⟨_, -, h⟩ := Result.of_bind h
  rw [orNotFound_eq_ok, Option.filter_eq_some_iff] at h
  exact h.1

theorem insertParty_sound (hrows : ∀ id p, parties.lookup id = some p → RowOk db.customers p)
    (hrow : RowOk db.customers row) (h : insertParty db parties id row = .ok db') : Sound db' := by
  unfold insertParty at h
  split at h
  · cases h
  · obtain ⟨hscope, rfl⟩ := flush_eq_ok h
    exact sound_of_rows (Table.forall_insert hrow hrows) hscope

/-! ### One request -/

variable {newId : Uuid}

theorem sound_allocate (hsound : Sound db) {a : Allocation}
    (hrange : ∀ t, a.effectiveTo = some t → a.effectiveFrom.getD clock.start < t)
    (hclose : a.reconfirms db.parties (holders db clock (.allocate a)) = false →
      ∀ id ∈ holders db clock (.allocate a), ∀ p, db.parties.lookup id = some p →
        p.effectiveFrom < clock.close id) (h : allocateVehicleParty db clock a newId = .ok db') :
    Sound db' := by
  obtain ⟨-, -, h⟩ := Result.of_bind h
  obtain ⟨u, hu, h⟩ := Result.of_bind h
  obtain ⟨c, hc, hnot⟩ := refuseMergedCustomer_eq_ok hu
  dsimp only at h
  split at h
  · cases h
    exact hsound
  · next hnew =>
    have hrows := rows_closeEach (fun id p hp => hsound.rows p hp) (hclose (Bool.eq_false_iff.mpr hnew))
    exact insertParty_sound hrows ⟨fun t ht => .inl (hrange t ht), c, hc, fun _ => hnot⟩ h

variable {isVehicle : Uuid → Bool}

theorem sound_create (hsound : Sound db) {vehicleId : Uuid} {role : VehiclePartyRole}
    {effectiveFrom : Option Time}
    (htime : InTime db (.create clock groupId customerId vehicleId role effectiveFrom effectiveTo newId))
    (h : createCustomerVehicle isVehicle db clock groupId customerId vehicleId role effectiveFrom
      effectiveTo newId = .ok db') : Sound db' := by
  obtain ⟨-, -, h⟩ := Result.of_bind h
  split at h
  · obtain ⟨u, hu, h⟩ := Result.of_bind h
    have hrange : ∀ t, effectiveTo = some t → effectiveFrom.getD clock.start < t :=
      fun t ht => validateEffectiveRange_lt hu ht
    split at h
    · next hopen =>
      refine sound_allocate hsound hrange (fun hnew id hid p hp => ?_) h
      refine htime (id, clock.close id) ?_ p hp
      unfold closed closed.closing
      dsimp only
      rw [if_pos hopen, hnew, if_neg (by decide)]
      exact List.mem_map_of_mem hid
    · obtain ⟨u', hu', h⟩ := Result.of_bind h
      obtain ⟨c, hc, hnot⟩ := refuseMergedCustomer_eq_ok hu'
      exact insertParty_sound (fun id p hp => hsound.rows p hp)
        ⟨fun t ht => .inl (hrange t ht), c, hc, fun _ => hnot⟩ h
  · cases h

theorem sound_update (hsound : Sound db)
    (htime : InTime db (.update clock groupId customerId partyId changes))
    (h : updateCustomerVehicle db clock groupId customerId partyId changes = .ok db') :
    Sound db' := by
  obtain ⟨p, hp, h⟩ := Result.of_bind h
  have hrow := getCustomerVehicle_ok hp
  split at h
  · next hholds =>
    obtain ⟨-, -, h⟩ := Result.of_bind h
    obtain ⟨-, -, h⟩ := Result.of_bind h
    obtain ⟨q, hq, h⟩ := Result.of_bind h
    obtain ⟨hscope, rfl⟩ := flush_eq_ok h
    refine sound_of_rows (Table.forall_insert (rowOk_patched (hsound.rows p hrow) hq)
      (rows_closeEach (fun id p hp => hsound.rows p hp) ?_)) hscope
    intro id hid p' hp'
    refine htime (id, clock.close id) ?_ p' hp'
    unfold closed
    dsimp only
    rw [hrow]
    dsimp only
    rw [if_pos hholds]
    exact List.mem_map_of_mem hid
  · obtain ⟨q, hq, h⟩ := Result.of_bind h
    obtain ⟨hscope, rfl⟩ := flush_eq_ok h
    exact sound_of_rows (Table.forall_insert (rowOk_patched (hsound.rows p hrow) hq)
      fun id p hp => hsound.rows p hp) hscope

theorem sound_delete (hsound : Sound db)
    (htime : InTime db (.delete clock groupId customerId partyId))
    (h : deleteCustomerVehicle db clock groupId customerId partyId = .ok db') : Sound db' := by
  obtain ⟨p, hp, h⟩ := Result.of_bind h
  have hrow := getCustomerVehicle_ok hp
  split at h
  · next hopen =>
    cases h
    refine sound_of_rows (rows_closeEach (fun id p hp => hsound.rows p hp) ?_)
      (scope_closeEach hsound.scope)
    intro id hid p' hp'
    obtain rfl := List.mem_singleton.mp hid
    refine htime (id, clock.close id) ?_ p' hp'
    unfold closed
    dsimp only
    rw [hrow, Option.any_some, if_pos hopen]
    exact List.mem_singleton_self _
  · cases h
    exact hsound

section Merge

variable {now : Time} {actorId : Option Uuid} {groupId duplicateId targetId : Uuid} {ifMatch : ℕ}

theorem merge_customers (h : mergeCustomer now actorId db groupId duplicateId targetId ifMatch = .ok db') :
    (∃ c, db.customers.lookup targetId = some c ∧ c.lifecycleStatus ≠ .merged) ∧
    (db'.customers.lookup duplicateId).isSome = true ∧
    ∀ customerId c, customerId ≠ duplicateId → db.customers.lookup customerId = some c →
      ∃ c', db'.customers.lookup customerId = some c' ∧ c'.lifecycleStatus = c.lifecycleStatus := by
  obtain ⟨duplicate, -, h⟩ := Result.of_bind h
  obtain ⟨-, -, h⟩ := Result.of_bind h
  split at h
  · cases h
  · obtain ⟨target, htarget, h⟩ := Result.of_bind h
    obtain ⟨u, hu, h⟩ := Result.of_bind h
    cases h
    refine ⟨⟨target, (getCustomerOr404_eq_ok htarget).1, ?_⟩, ?_, ?_⟩
    · unfold requireUnmerged at hu
      split at hu
      · cases hu
      · next hnot => exact hnot
    · dsimp only
      rw [AList.lookup_insert]
      rfl
    · intro customerId c hne hc
      dsimp only
      rw [AList.lookup_insert_ne hne, repointEarlierMerges, Table.lookup_updateAll, hc, Option.map_some]
      refine ⟨_, rfl, ?_⟩
      split <;> rfl

theorem remarked_same (customers : Table Uuid CustomerRow) (groupId duplicateId targetId : Uuid)
    (p : VehicleParty) : SamePeriod p (remarked customers groupId duplicateId targetId p) ∧
    (remarked customers groupId duplicateId targetId p).customerId = p.customerId ∧
    (remarked customers groupId duplicateId targetId p).mergedIntoCustomerId.isSome =
      p.mergedIntoCustomerId.isSome := by
  refine ⟨remarked_samePeriod _ _, remarked_customerId _ _, ?_⟩
  unfold remarked
  split
  · next hnames =>
    have hmark : p.mergedIntoCustomerId = some duplicateId := by
      rw [namesIn] at hnames
      exact (of_decide_eq_true hnames).1
    rw [hmark]
    rfl
  · rfl

theorem wellFormed_congr (hperiod : SamePeriod p q)
    (hmark : q.mergedIntoCustomerId.isSome = p.mergedIntoCustomerId.isSome) (hp : WellFormed p) :
    WellFormed q := by
  obtain ⟨-, -, hfrom, hto⟩ := hperiod
  intro t ht
  rw [hfrom, hmark]
  exact hp t (hto ▸ ht)

theorem wellFormed_keptCopy (hp : WellFormed p) : WellFormed (keptCopy now targetId p) := by
  intro t ht
  unfold keptCopy at ht ⊢
  split
  · next hopen =>
    rw [if_pos hopen] at ht
    obtain rfl : p.effectiveFrom = t := Option.some.inj ht
    exact .inr ⟨rfl, rfl⟩
  · next hclosed =>
    rw [if_neg hclosed] at ht
    rcases hp t ht with hlt | ⟨-, heq⟩
    · exact .inl hlt
    · exact .inr ⟨rfl, heq⟩

theorem keptCopy_key (p : VehicleParty) : (keptCopy now targetId p).key = p.key := by
  unfold keptCopy
  split <;> rfl

theorem merged_cases (hscope : UniqueScope db.parties)
    (h : mergeCustomer now actorId db groupId duplicateId targetId ifMatch = .ok db')
    (hq : db'.parties.lookup id = some q) : ∃ p, db.parties.lookup id = some p ∧ q.key = p.key ∧
      (WellFormed p → WellFormed q) ∧ ((p.customerId = duplicateId ∧ q.customerId = duplicateId ∧
          q.mergedIntoCustomerId.isSome = true) ∨
        (p.customerId = duplicateId ∧ ¬ Collides db.parties targetId p ∧ q.customerId = targetId) ∨
        (p.customerId ≠ duplicateId ∧ q.customerId = p.customerId ∧
          q.mergedIntoCustomerId.isSome = p.mergedIntoCustomerId.isSome)) := by
  obtain ⟨hne, -, hlookup⟩ := mergeCustomer_parties hscope h
  rw [hlookup, Option.map_eq_some_iff] at hq
  obtain ⟨p, hp, rfl⟩ := hq
  refine ⟨p, hp, ?_⟩
  obtain ⟨⟨hv, hr, hf, ht⟩, hcustomer, hmark⟩ := remarked_same db.customers groupId duplicateId targetId
    (if p.customerId = duplicateId then
      if Collides db.parties targetId p then keptCopy now targetId p else { p with customerId := targetId }
    else p)
  have hkey : ∀ r : VehicleParty, (remarked db.customers groupId duplicateId targetId r).key = r.key := by
    intro r
    obtain ⟨⟨hv, hr, hf, -⟩, -⟩ := remarked_same db.customers groupId duplicateId targetId r
    rw [VehicleParty.key, hv, hr, hf]
    rfl
  by_cases hof : p.customerId = duplicateId
  · rw [if_pos hof] at hv hr hf ht hcustomer hmark ⊢
    by_cases hcol : Collides db.parties targetId p
    · rw [if_pos hcol] at hv hr hf ht hcustomer hmark ⊢
      refine ⟨(hkey _).trans (keptCopy_key p),
        fun hp => wellFormed_congr ⟨hv, hr, hf, ht⟩ hmark (wellFormed_keptCopy hp), .inl ⟨hof, ?_, ?_⟩⟩
      · exact hcustomer.trans ((keptCopy_customerId p).trans hof)
      · rw [hmark, keptCopy_mark]
        rfl
    · rw [if_neg hcol] at hv hr hf ht hcustomer hmark ⊢
      exact ⟨hkey _, fun hp => wellFormed_congr ⟨hv, hr, hf, ht⟩ hmark hp,
        .inr (.inl ⟨hof, hcol, hcustomer⟩)⟩
  · rw [if_neg hof] at hv hr hf ht hcustomer hmark ⊢
    exact ⟨hkey _, fun hp => wellFormed_congr ⟨hv, hr, hf, ht⟩ hmark hp,
      .inr (.inr ⟨hof, hcustomer, hmark⟩)⟩

theorem sound_merge (hsound : Sound db)
    (h : mergeCustomer now actorId db groupId duplicateId targetId ifMatch = .ok db') : Sound db' := by
  obtain ⟨⟨target, htarget, hlive⟩, hduplicate, hcustomers⟩ := merge_customers h
  have hne : targetId ≠ duplicateId := (mergeCustomer_parties hsound.scope h).1
  refine ⟨fun id q hq => ?_, fun id q hq => ?_, ?_⟩
  · obtain ⟨p, hp, -, hformed, -⟩ := merged_cases hsound.scope h hq
    exact hformed (hsound.wellFormed id p hp)
  · obtain ⟨p, hp, -, -, hcases⟩ := merged_cases hsound.scope h hq
    rcases hcases with ⟨-, hof, hmark⟩ | ⟨-, -, hof⟩ | ⟨hother, hof, hmark⟩
    · obtain ⟨c, hc⟩ := Option.isSome_iff_exists.mp hduplicate
      refine ⟨c, hof ▸ hc, fun hnone => ?_⟩
      rw [hnone] at hmark
      cases hmark
    · obtain ⟨c, hc, hstatus⟩ := hcustomers targetId target hne htarget
      exact ⟨c, hof ▸ hc, fun _ => hstatus ▸ hlive⟩
    · obtain ⟨c, hc, hunmerged⟩ := hsound.owners id p hp
      obtain ⟨c', hc', hstatus⟩ := hcustomers p.customerId c hother hc
      refine ⟨c', hof ▸ hc', fun hnone => ?_⟩
      rw [hstatus]
      refine hunmerged ?_
      rw [hnone] at hmark
      exact Option.not_isSome_iff_eq_none.mp (by rw [← hmark]; decide)
  · intro id id' q q' hq hq' hv hc hr hf
    obtain ⟨p, hp, hkey, -, hcases⟩ := merged_cases hsound.scope h hq
    obtain ⟨p', hp', hkey', -, hcases'⟩ := merged_cases hsound.scope h hq'
    have hsame : p.key = p'.key := by
      rw [← hkey, ← hkey', VehicleParty.key, VehicleParty.key, hv, hr, hf]
    have hscope : p.customerId = p'.customerId → id = id' := by
      intro hcustomer
      obtain ⟨hv, hrest⟩ := Prod.mk.inj hsame
      obtain ⟨hr, hf⟩ := Prod.mk.inj hrest
      exact hsound.scope id id' p p' hp hp' hv hcustomer hr hf
    rcases hcases with ⟨hfrom, hof, -⟩ | ⟨hfrom, hcol, hof⟩ | ⟨hother, hof, -⟩ <;>
      rcases hcases' with ⟨hfrom', hof', -⟩ | ⟨hfrom', hcol', hof'⟩ | ⟨hother', hof', -⟩
    · exact hscope (hfrom.trans hfrom'.symm)
    · exact absurd (hof'.symm.trans (hc.symm.trans hof)) hne
    · exact absurd (hof'.symm.trans (hc.symm.trans hof)) hother'
    · exact absurd (hof.symm.trans (hc.trans hof')) hne
    · exact hscope (hfrom.trans hfrom'.symm)
    · exact absurd ⟨id', p', hp', hof'.symm.trans (hc.symm.trans hof), hsame.symm⟩ hcol
    · exact absurd (hof.symm.trans (hc.trans hof')) hother
    · exact absurd ⟨id, p, hp, hof.symm.trans (hc.trans hof'), hsame⟩ hcol'
    · exact hscope (hof.symm.trans (hc.trans hof'))

end Merge

theorem sound_perform {request : Request} (hsound : Sound db) (htime : InTime db request)
    (h : perform isVehicle db request = .ok db') : Sound db' := by
  cases request with
  | create clock groupId customerId vehicleId role effectiveFrom effectiveTo newId =>
    exact sound_create hsound htime h
  | allocate clock groupId customerId vehicleId role effectiveFrom newId =>
    refine sound_allocate hsound (fun t ht => by cases ht) (fun hnew id hid p hp => ?_) h
    refine htime (id, clock.close id) ?_ p hp
    unfold closed closed.closing
    dsimp only
    rw [hnew, if_neg (by decide)]
    exact List.mem_map_of_mem hid
  | update clock groupId customerId partyId changes => exact sound_update hsound htime h
  | delete clock groupId customerId partyId => exact sound_delete hsound htime h
  | merge clock actorId groupId duplicateId targetId ifMatch => exact sound_merge hsound h

/-! ### A row's own dates -/

theorem apply_ownDates (hformed : WellFormed p) (hcopy : p.mergedIntoCustomerId = none) :
    (ownDates p).apply p = .ok p := by
  have hvalid : validateEffectiveRange p.effectiveFrom p.effectiveTo = .ok () := by
    unfold validateEffectiveRange
    cases hto : p.effectiveTo with
    | none => rfl
    | some t =>
      have hlt : p.effectiveFrom < t := by
        refine (hformed t hto).resolve_right fun hmark => ?_
        rw [hcopy] at hmark
        cases hmark.1
      rw [if_neg]
      simpa using hlt
  unfold PartyChanges.apply ownDates
  dsimp only [Option.getD_some]
  rw [hvalid]
  rfl

theorem ownDates_accepted (hsound : Sound db) (hp : db.parties.lookup id = some p)
    (hcopy : p.mergedIntoCustomerId = none) :
    ∃ c, db.customers.lookup p.customerId = some c ∧ ∀ clock, ∃ db',
      updateCustomerVehicle db clock c.groupId p.customerId id (ownDates p) = .ok db' ∧
        db'.parties.lookup id = some p := by
  obtain ⟨c, hc, hunmerged⟩ := hsound.owners id p hp
  refine ⟨c, hc, fun clock => ?_⟩
  have hget : getCustomerVehicleOr404 db c.groupId p.customerId id = .ok p := by
    have hcustomer : getCustomerOr404 db.customers c.groupId p.customerId = .ok c := by
      rw [getCustomerOr404, orNotFound_eq_ok, Option.filter_eq_some_iff]
      exact ⟨hc, decide_eq_true rfl⟩
    have hrow : orNotFound ((db.parties.lookup id).filter (·.customerId = p.customerId))
        s!"VehicleParty {id} was not found." = .ok p := by
      rw [orNotFound_eq_ok, Option.filter_eq_some_iff]
      exact ⟨hp, decide_eq_true rfl⟩
    unfold getCustomerVehicleOr404
    rw [hcustomer]
    exact hrow
  have happly := apply_ownDates (hsound.wellFormed id p hp) hcopy
  unfold updateCustomerVehicle
  rw [hget]
  by_cases hholds : (ownDates p).holdsAfter clock.check = true
  · have hcopied : refuseCopy p = .ok () := by rw [refuseCopy, hcopy]
    have hlive : refuseMergedCustomer db.customers p.customerId = .ok () := by
      rw [refuseMergedCustomer, hc]
      exact if_neg (hunmerged hcopy)
    -- the others are closed, the row itself is not
    obtain ⟨stored, hstored, hsame⟩ : ∃ stored, (closeEach clock.close (holders db clock
        (.patch (patchOf clock c.groupId id p (ownDates p)) p)) db.parties).lookup id = some stored ∧
        p.vehicleId = stored.vehicleId ∧ p.customerId = stored.customerId ∧ p.role = stored.role ∧
          p.effectiveFrom = stored.effectiveFrom := by
      rw [closeEach, Table.lookup_updateAll, hp, Option.map_some]
      refine ⟨_, rfl, ?_⟩
      split <;> exact ⟨rfl, rfl, rfl, rfl⟩
    have hscope := scope_insert_same (scope_closeEach hsound.scope) hstored hsame
    refine ⟨{ db with parties := (closeEach clock.close (holders db clock
      (.patch (patchOf clock c.groupId id p (ownDates p)) p)) db.parties).insert id p }, ?_,
      AList.lookup_insert _⟩
    dsimp only [bind, Except.bind]
    rw [if_pos hholds, hcopied]
    dsimp only
    rw [hlive]
    dsimp only
    rw [happly]
    dsimp only
    rw [flush, if_pos hscope]
  · have hscope := scope_insert_same hsound.scope hp ⟨rfl, rfl, rfl, rfl⟩
    refine ⟨{ db with parties := db.parties.insert id p }, ?_, AList.lookup_insert _⟩
    dsimp only [bind, Except.bind]
    rw [if_neg hholds, happly]
    dsimp only
    rw [flush, if_pos hscope]

end Rows

/-! ### Every sequence of requests -/

def run (isVehicle : Uuid → Bool) (customers : Table Uuid CustomerRow) (requests : List Request) :
    CustomerDb :=
  requests.foldl (next isVehicle) { customers := customers }

theorem sound_next {isVehicle : Uuid → Bool} {db : CustomerDb} {request : Request} (hsound : Sound db)
    (htime : InTime db request) : Sound (next isVehicle db request) := by
  unfold next
  split
  · next heq => exact sound_perform hsound htime heq
  · exact hsound

theorem sound_run (isVehicle : Uuid → Bool) (customers : Table Uuid CustomerRow) {requests : List Request}
    (htime : ∀ before request after, requests = before ++ request :: after →
      InTime (run isVehicle customers before) request) : Sound (run isVehicle customers requests) := by
  induction requests using List.reverseRecOn with
  | nil =>
    refine sound_of_rows (fun id p hp => ?_) fun id id' p p' hp => ?_
    · cases hp
    · cases hp
  | append_singleton before request ih =>
    have hrun : run isVehicle customers (before ++ [request]) =
        next isVehicle (run isVehicle customers before) request := by
      rw [run, List.foldl_append]
      rfl
    rw [hrun]
    refine sound_next (ih fun first request' after heq => ?_) (htime before request [] rfl)
    refine htime first request' (after ++ [request]) ?_
    rw [heq, List.append_assoc, List.cons_append]

/-- **Periods along a run.**  Where no request closes a row before that has started, every period
is well formed, and a row that is no copy can be sent its own dates at any time. -/
theorem periods_along (isVehicle : Uuid → Bool) (customers : Table Uuid CustomerRow)
    (requests : List Request)
    (htime : ∀ before request after, requests = before ++ request :: after →
      InTime (run isVehicle customers before) request) :
    ∀ id p, (run isVehicle customers requests).parties.lookup id = some p → WellFormed p ∧
      (p.mergedIntoCustomerId = none → ∃ c,
        (run isVehicle customers requests).customers.lookup p.customerId = some c ∧
        ∀ clock, ∃ db', perform isVehicle (run isVehicle customers requests)
            (.update clock c.groupId p.customerId id (ownDates p)) = .ok db' ∧
          db'.parties.lookup id = some p) := by
  intro id p hp
  have hsound := sound_run isVehicle customers htime
  exact ⟨hsound.wellFormed id p hp, fun hcopy => ownDates_accepted hsound hp hcopy⟩

def atOnce (now : Time) : Readings := ⟨now, now, now, fun _ => now⟩

def oneCustomer : Table Uuid CustomerRow :=
  (∅ : Table Uuid CustomerRow).insert 1 { groupId := 7 }

def closedInTime : List Request :=
  [.allocate (atOnce 10) 7 1 50 .owner none 100, .delete (atOnce 20) 7 1 100]

/-- The owner from the day after tomorrow, disconnected tomorrow. -/
def closedEarly : List Request :=
  [.allocate (atOnce 10) 7 1 50 .owner (some 30) 100, .delete (atOnce 20) 7 1 100]

/-- The allocation closes nothing, and the Disconnect a row that started ten ticks before. -/
theorem closedInTime_periods :
    ∃ p, (run (fun _ => true) oneCustomer closedInTime).parties.lookup 100 = some p ∧
      WellFormed p ∧ p.effectiveFrom = 10 ∧ p.effectiveTo = some 20 := by
  have hrow : (run (fun _ => true) oneCustomer closedInTime).parties.lookup 100 = some {
      vehicleId := 50, customerId := 1, role := .owner, effectiveFrom := 10,
      effectiveTo := some 20 } := by decide +kernel
  have hperiods := periods_along (fun _ => true) oneCustomer closedInTime fun before request after heq => ?_
  · exact ⟨_, hrow, (hperiods 100 _ hrow).1, rfl, rfl⟩
  rcases before with _ | ⟨first, before⟩
  · obtain ⟨rfl, -⟩ := List.cons.inj heq
    intro e he
    have hnone : closed (run (fun _ => true) oneCustomer [])
        (.allocate (atOnce 10) 7 1 50 .owner none 100) = [] := by decide +kernel
    rw [hnone] at he
    cases he
  · obtain ⟨rfl, hrest⟩ := List.cons.inj heq
    rcases before with _ | ⟨second, before⟩
    · obtain ⟨rfl, -⟩ := List.cons.inj hrest
      intro e he p hp
      have hone : closed (run (fun _ => true) oneCustomer
          [.allocate (atOnce 10) 7 1 50 .owner none 100]) (.delete (atOnce 20) 7 1 100) =
            [(100, 20)] := by decide +kernel
      have hstart : ((run (fun _ => true) oneCustomer
          [.allocate (atOnce 10) 7 1 50 .owner none 100]).parties.lookup 100).map
            (·.effectiveFrom) = some 10 := by decide +kernel
      obtain rfl := List.mem_singleton.mp (hone ▸ he)
      have hp' : p.effectiveFrom = 10 := by
        rw [hp, Option.map_some] at hstart
        exact Option.some.inj hstart
      rw [hp']
      decide
    · obtain ⟨-, hend⟩ := List.cons.inj hrest
      cases before <;> cases hend

/-- The row that `closedEarly` leaves. -/
def endsEarly : VehicleParty where
  vehicleId := 50
  customerId := 1
  role := .owner
  effectiveFrom := 30
  effectiveTo := some 20

/-- **A period that ends before it starts**: its owner is disconnected before the row has begun, and
the row's own dates are refused from then on. -/
theorem closedEarly_fails :
    (run (fun _ => true) oneCustomer closedEarly).parties.lookup 100 = some endsEarly ∧
      endsEarly.mergedIntoCustomerId = none ∧ ¬ WellFormed endsEarly ∧
      (perform (fun _ => true) (run (fun _ => true) oneCustomer closedEarly)
        (.update (atOnce 40) 7 1 100 (ownDates endsEarly))).isOk = false := by
  refine ⟨by decide +kernel, rfl, fun hformed => ?_, by decide +kernel⟩
  rcases hformed 20 rfl with hlt | ⟨hcopy, -⟩
  · exact absurd hlt (by decide)
  · cases hcopy

end Nexotec.PartyPeriods
