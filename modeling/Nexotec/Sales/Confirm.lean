/-
The Sales side of a signature and of a cancellation
(`app/sales/services/contract.py`): the guards of `confirm_contract` and
`cancel_contract`, the columns each writes on the contract, and the payload of
`sales.contract.confirmed`.

The calls into Stock and into the valuation context that stand between the
guards and the writes are not here; see `Nexotec.Inventory.Reservation` and
the modules under `Nexotec.Confirmation`.
-/
import Nexotec.Sales.Deals

namespace Nexotec

/-! ### The confirmed event -/

/-- `_pricing_snapshot`. -/
structure PricingSnapshot where
  currency : String := "CHF"
  basePrice : Option Decimal
  optionsTotal : Option Decimal
  listPrice : Option Decimal
  accessoriesTotal : Option Decimal
  discountAmount : Option Decimal
  grossPrice : Option Decimal
  tradeInValue : Option Decimal
  payable : Option Decimal
  deriving DecidableEq

def pricingSnapshot (contract : Deal) : PricingSnapshot where
  basePrice := contract.basePrice
  optionsTotal := contract.optionsTotal
  listPrice := contract.listPrice
  accessoriesTotal := contract.accessoriesTotal
  discountAmount := contract.discountAmount
  grossPrice := contract.grossPrice
  tradeInValue := contract.tradeInValue
  payable := contract.payable

/-- `manualConfiguration` of the payload. -/
structure ManualConfiguration where
  vehicleLabel : Option String
  condition : Option String
  configurationId : Option Uuid
  deriving DecidableEq

/-- `tradeIn` of the payload. -/
structure TradeInPayload where
  vehicleLabel : Option String
  condition : String := "used"
  configurationId : Option Uuid
  valuationId : Option Uuid
  deriving DecidableEq

/-- `vehicleSource` of the payload, in Stock's words. -/
inductive EventVehicleSource where
  | existing
  | manual
  deriving DecidableEq

structure ConfirmedPayload where
  contractId : Uuid
  vehicleSource : EventVehicleSource
  manualConfiguration : Option ManualConfiguration
  tradeIn : Option TradeInPayload
  pricingSnapshot : PricingSnapshot
  deriving DecidableEq

def confirmedEventPayload (contractId : Uuid) (contract : Deal) : ConfirmedPayload where
  contractId := contractId
  vehicleSource := if contract.vehicleSource = some .stock then .existing else .manual
  manualConfiguration :=
    if contract.vehicleSource = some .manual then
      some { vehicleLabel := contract.vehicleLabel
             condition := contract.manualVehicleCondition
             configurationId := contract.configurationId }
    else none
  tradeIn :=
    if contract.tradeInVehicleId.isSome ∨ contract.tradeInConfigurationId.isSome then
      some { vehicleLabel := contract.tradeInLabel
             configurationId := contract.tradeInConfigurationId
             valuationId := contract.tradeInValuationId }
    else none
  pricingSnapshot := pricingSnapshot contract

/-! ### Guards -/

/-- The customer prohibitions, in the order they are named. -/
def requireSellable (reads : Reads) (contract : SalesContract) : Result Unit :=
  match contract.customerId with
  | none => .error (conflictError
      s!"Contract {contract.contractNumber} has no customer — cannot be confirmed. Choose the buyer first."
      [("reason", "missing_customer")])
  | some customerId => do
    let customer ← getCustomerOr404 reads customerId
    if customer.lifecycleStatus = .doNotContact then
      .error (conflictError
        s!"Customer is do-not-contact — contract {contract.contractNumber} cannot be confirmed."
        [("reason", "do_not_contact")])
    else if customer.creditBlock then
      .error (conflictError
        s!"Customer has a credit block ({pyText customer.creditBlockReason}) — contract {contract.contractNumber} cannot be confirmed."
        [("reason", "credit_block"), ("creditBlockReason", pyText customer.creditBlockReason)])
    else if customer.hasUsableDomicileAddress = false then
      .error (conflictError
        s!"Customer has no usable address — contract {contract.contractNumber} cannot be confirmed. Add a current domicile address to the customer record first."
        [("reason", "missing_address")])
    else .ok ()

/-- Everything `confirm_contract` checks before it calls another context. -/
def requireConfirmable (reads : Reads) (contract : SalesContract) : Result Unit :=
  if contract.status = .pending then do
    requireSellable reads contract
    requireComplete contract "confirmed"
  else .error (conflictError
    s!"Contract {contract.contractNumber} cannot be confirmed from status '{contract.status.value}'."
    [("reason", "bad_status"), ("status", contract.status.value)])

/-- The stock item the confirmation reserves, if it reserves one. -/
def stockItemToReserve (contract : Deal) : Option Uuid :=
  if contract.vehicleSource = some .stock then contract.stockItemId else none

def confirmedRow (reads : Reads) (reservationId : Option Uuid) (contract : SalesContract) :
    SalesContract :=
  { contract with
    status := .confirmed
    signedAt := some reads.now
    reservationId := reservationId
    updatedBy := reads.actorId
    version := contract.version + 1 }

/-- What `cancel_contract` checks first. -/
def requireCancellable (contract : SalesContract) : Result Unit :=
  if ¬ (contract.status = .pending ∨ contract.status = .confirmed) then
    .error (conflictError
      s!"Contract {contract.contractNumber} cannot be cancelled from status '{contract.status.value}'."
      [("status", contract.status.value)])
  else if contract.legacyTransactionId.isSome then
    .error (conflictError
      s!"Contract {contract.contractNumber} was migrated from the legacy system — it cannot be cancelled."
      [("reason", "legacy_sale")])
  else .ok ()

def cancelledRow (reads : Reads) (reason : String) (contract : SalesContract) : SalesContract :=
  { contract with
    status := .cancelled
    cancelledReason := some reason
    updatedBy := reads.actorId
    version := contract.version + 1 }

theorem requireConfirmable_eq_ok {reads : Reads} {contract : SalesContract} {u : Unit}
    (h : requireConfirmable reads contract = .ok u) :
    contract.status = .pending ∧ hasVehicle contract.toDeal = true ∧
      hasPrice contract.toDeal = true := by
  unfold requireConfirmable at h
  split at h
  · next hpending =>
    obtain ⟨-, -, h⟩ := Result.of_bind h
    unfold requireComplete at h
    split at h
    · cases h
    · next hvehicle =>
      split at h
      · cases h
      · next hprice => exact ⟨hpending, by simpa using hvehicle, by simpa using hprice⟩
  · cases h

end Nexotec
