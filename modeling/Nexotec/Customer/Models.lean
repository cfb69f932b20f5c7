/-
The rows of the customer context (`app/customer/models`): customers, the
vehicle-party rows that say who owns, keeps or drives a vehicle, and the phones
and e-mails.

A customer's other columns are only ever compared and set by name, so they
stand in one function from the column to its value.
-/
import Nexotec.Core.Base

namespace Nexotec

inductive CustomerLifecycleStatus where
  | prospect
  | active
  | inactive
  | merged
  | doNotContact
  deriving DecidableEq

namespace Customers

inductive CustomerType where
  | individual
  | business

/-- The columns `CustomerUpdate` may name, less `lifecycle_status`. -/
inductive Column where
  | language
  | salutation
  | firstName
  | lastName
  | birthDate
  | nationality
  | companyName
  | legalForm
  | taxId
  | preferredChannel
  | source
  | sourceRef
  | marketingConsent
  | title
  | gender
  | website
  | newsletter
  | paymentTerms
  | creditLimit
  | iban
  | vatRegistered
  | vatStatusConfirmed
  | advisorId
  | advisorLabel
  | customerSince
  | nextFollowUp
  | notes
  deriving DecidableEq

/-- What a column holds. -/
inductive Value where
  | null
  | text (s : String)
  | flag (b : Bool)
  | number (x : Decimal)
  | date (day : ℤ)
  | ref (id : Uuid)
  deriving DecidableEq

/-- `Customer`. -/
structure CustomerRow where
  groupId : Uuid
  customerType : CustomerType := .individual
  lifecycleStatus : CustomerLifecycleStatus := .active
  duplicateOfCustomerId : Option Uuid := none
  columns : Column → Value := fun _ => .null
  version : ℕ := 1
  updatedBy : Option Uuid := none

inductive VehiclePartyRole where
  | owner
  | keeper
  | driver
  deriving DecidableEq

def VehiclePartyRole.value : VehiclePartyRole → String
  | .owner => "owner"
  | .keeper => "keeper"
  | .driver => "driver"

/-- `VehicleParty`, less the vehicle's label. -/
structure VehicleParty where
  vehicleId : Uuid
  customerId : Uuid
  role : VehiclePartyRole
  effectiveFrom : Time
  effectiveTo : Option Time := none
  mergedIntoCustomerId : Option Uuid := none
  deriving DecidableEq

/-- `uq_vehicle_party_scope`. -/
def UniqueScope (parties : Table Uuid VehicleParty) : Prop :=
  ∀ id id' p p', parties.lookup id = some p → parties.lookup id' = some p' →
    p.vehicleId = p'.vehicleId → p.customerId = p'.customerId → p.role = p'.role →
    p.effectiveFrom = p'.effectiveFrom → id = id'

/-- `_group_scoped_or_404` of a customer. -/
def getCustomerOr404 (customers : Table Uuid CustomerRow) (groupId customerId : Uuid) :
    Result CustomerRow :=
  orNotFound ((customers.lookup customerId).filter (·.groupId = groupId))
    s!"Customer {customerId} was not found."

theorem getCustomerOr404_eq_ok {customers : Table Uuid CustomerRow} {groupId customerId : Uuid}
    {c : CustomerRow} (h : getCustomerOr404 customers groupId customerId = .ok c) :
    customers.lookup customerId = some c ∧ c.groupId = groupId := by
  rw [getCustomerOr404, orNotFound_eq_ok, Option.filter_eq_some_iff] at h
  simpa using h

end Customers

end Nexotec
