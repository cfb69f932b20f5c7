/-
The rows of Sales: offers, contracts and their line items
(`app/sales/models`), the request bodies of the edit routes
(`app/sales/schemas`), and what a request reads from the other contexts.

`sales_offer` and `sales_contract` carry the same vehicle, price and trade-in
columns, and the services that edit them take either (`PricedDeal`).  Those
columns are the structure `Deal`; an offer and a contract extend it.  A line
item hangs off exactly one of the two, so a deal carries its own lines.
-/
import Nexotec.Customer.Models
import Nexotec.Inventory.StockItem
import Nexotec.Valuation.Valuation

namespace Nexotec

/-- `vehicle_source`.  `OfferUpdate` takes any text; the code tests for these two. -/
inductive VehicleSource where
  | stock
  | manual
  | other (text : String)
  deriving DecidableEq

/-- `discount_type`.  Offers and line items take any text; every text other
than `"percent"` is an amount. -/
inductive DiscountType where
  | percent
  | amount
  | other (text : String)
  deriving DecidableEq

inductive LineItemKind where
  | factoryOption
  | accessory
  deriving DecidableEq

inductive OfferStatus where
  | draft
  | «open»
  | cancelled
  deriving DecidableEq

inductive ContractStatus where
  | pending
  | confirmed
  | cancelled
  | invoiced
  deriving DecidableEq

def OfferStatus.value : OfferStatus → String
  | .draft => "draft"
  | .open => "open"
  | .cancelled => "cancelled"

def ContractStatus.value : ContractStatus → String
  | .pending => "pending"
  | .confirmed => "confirmed"
  | .cancelled => "cancelled"
  | .invoiced => "invoiced"

inductive FinancingKind where
  | cash
  | leasing
  | credit

/-- `SalesLineItem`. -/
structure LineItem where
  id : Uuid
  kind : LineItemKind
  code : String
  label : String
  unitPrice : Decimal
  quantity : ℤ := 1
  included : Bool := true
  discountType : Option DiscountType := none
  discountValue : Option Decimal := none
  discountResolvedAmount : Option Decimal := none
  discountSuppressedReason : Option String := none
  position : ℕ := 0

/-- `vehicle_snapshot`, the frozen specification.  `configurationId` and
`configurationVersion` are keys only a configured car's snapshot has. -/
structure Snapshot where
  identity : String
  vehicleLabel : Option String := none
  condition : Option String := none
  basePrice : Option Decimal := none
  listPrice : Option Decimal := none
  effectivePrice : Option Decimal := none
  purchasePrice : Option Decimal := none
  landedCost : Option Decimal := none
  notionalInputTaxApplicable : Option Bool := none
  notionalInputTaxRate : Option Decimal := none
  notionalInputTaxAmount : Option Decimal := none
  configurationId : Option Uuid := none
  configurationVersion : Option ℕ := none
  basePriceYear : Option ℕ := none
  spec : List (String × String) := []

/-- The buyer and the denormalised columns beside the id. -/
structure Buyer where
  customerId : Option Uuid := none
  customerLabel : Option String := none
  customerLocality : Option String := none
  customerDenormRefreshedAt : Option Time := none
  customerLanguage : Option String := none

/-- The responsible seller. -/
structure Owner where
  ownerUserId : Option Uuid := none
  ownerLabel : Option String := none
  ownerLabelRefreshedAt : Option Time := none

/-- The vehicle container and its frozen snapshot. -/
structure Vehicle where
  vehicleSource : Option VehicleSource := none
  stockItemId : Option Uuid := none
  vehicleLabel : Option String := none
  manualVehicleCondition : Option String := none
  configurationId : Option Uuid := none
  configurationLabel : Option String := none
  configurationLabelRefreshedAt : Option Time := none
  vehicleSnapshot : Option Snapshot := none
  vehicleSnapshotFrozenAt : Option Time := none

/-- The seller's own pricing inputs and the line items. -/
structure PricingInputs where
  manualBasePrice : Option Decimal := none
  discountType : Option DiscountType := none
  discountValue : Option Decimal := none
  lines : List LineItem := []

/-- The derived price columns. -/
structure Figures where
  basePrice : Option Decimal := none
  optionsTotal : Option Decimal := none
  listPrice : Option Decimal := none
  accessoriesTotal : Option Decimal := none
  totalBeforeDiscount : Option Decimal := none
  discountAmount : Option Decimal := none
  grossPrice : Option Decimal := none
  costBasis : Option Decimal := none
  margin : Option Decimal := none
  payable : Option Decimal := none

structure TradeIn where
  tradeInVehicleId : Option Uuid := none
  tradeInLabel : Option String := none
  tradeInVin : Option String := none
  tradeInConfigurationId : Option Uuid := none
  tradeInConfigurationLabelRefreshedAt : Option Time := none
  tradeInValuationId : Option Uuid := none
  tradeInValue : Option Decimal := none
  tradeInPurchasePrice : Option Decimal := none

/-- `PricedDeal`: the columns an offer and a contract share. -/
structure Deal extends Buyer, Owner, Vehicle, PricingInputs, Figures, TradeIn where
  tenantId : Uuid
  version : ℕ := 1
  updatedBy : Option Uuid := none

structure SalesOffer extends Deal where
  offerNumber : String
  status : OfferStatus := .draft
  leasingDownPayment : Option Decimal := none
  leasingTermMonths : Option ℤ := none
  leasingKmPerYear : Option ℤ := none
  copiedFromOfferId : Option Uuid := none
  createdBy : Option Uuid := none
  cancelledReason : Option String := none

structure SalesContract extends Deal where
  contractNumber : String
  offerId : Option Uuid := none
  offerNumber : Option String := none
  status : ContractStatus := .pending
  financing : Option FinancingKind := none
  reservationId : Option Uuid := none
  signedAt : Option Time := none
  cancelledReason : Option String := none
  legacyTransactionId : Option Uuid := none
  createdBy : Option Uuid := none
  stockItemLabel : Option String := none
  stockItemDenormRefreshedAt : Option Time := none

/-! ### Request bodies

A PATCH body is dumped with `exclude_unset`: the outer option of a field says
whether the client sent it, the inner one is its value or `null`. -/

/-- The vehicle and pricing keys of `OfferUpdate` and `ContractUpdate`. -/
structure DealChanges where
  vehicleSource : Option (Option VehicleSource) := none
  stockItemId : Option (Option Uuid) := none
  vehicleLabel : Option (Option String) := none
  manualVehicleCondition : Option (Option String) := none
  manualBasePrice : Option (Option Decimal) := none
  configurationId : Option (Option Uuid) := none
  discountType : Option (Option DiscountType) := none
  discountValue : Option (Option Decimal) := none

structure OfferUpdate extends DealChanges where
  customerId : Option (Option Uuid) := none
  ownerUserId : Option (Option Uuid) := none
  leasingDownPayment : Option (Option Decimal) := none
  leasingTermMonths : Option (Option ℤ) := none
  leasingKmPerYear : Option (Option ℤ) := none

structure ContractUpdateBody extends DealChanges where
  customerId : Option (Option Uuid) := none
  ownerUserId : Option (Option Uuid) := none

/-- `Field(ge=0, max_digits=12, decimal_places=2)`. -/
def isMoney (x : Decimal) : Bool := 0 ≤ x ∧ (x * 100).den = 1 ∧ x < 10 ^ 10

/-- A field constraint: it binds a value that was sent and is not `null`. -/
def whenSent {α : Type} (p : α → Bool) (field : Option (Option α)) : Bool :=
  field.join.all p

/-- The field constraints of `ContractUpdate`. -/
def ContractUpdateBody.accepts (body : ContractUpdateBody) : Bool :=
  whenSent (fun s => s = .stock ∨ s = .manual) body.vehicleSource &&
  whenSent (fun l => l.length ≤ 200) body.vehicleLabel &&
  whenSent (fun c => c.length ≤ 16) body.manualVehicleCondition &&
  whenSent isMoney body.manualBasePrice &&
  whenSent (fun t => t = .percent ∨ t = .amount) body.discountType &&
  whenSent isMoney body.discountValue

abbrev ContractUpdate := { body : ContractUpdateBody // body.accepts = true }

structure LineItemAccessoryInput where
  id : Option Uuid := none
  code : String
  label : String
  unitPrice : Decimal
  quantity : ℤ := 1
  discountType : Option DiscountType := none
  discountValue : Option Decimal := none
  discountSuppressedReason : Option String := none

structure LineItemFactoryOptionPatch where
  id : Uuid
  included : Bool
  discountType : Option DiscountType := none
  discountValue : Option Decimal := none
  discountSuppressedReason : Option String := none

structure LineItemsReplaceRequest where
  accessories : List LineItemAccessoryInput := []
  factoryOptions : List LineItemFactoryOptionPatch := []

structure TradeInRequest where
  vin : Option String := none
  plate : Option String := none
  canton : Option String := none
  vehicleLabel : String
  customerId : Option Uuid := none

/-- `ContractCreate`: its validator leaves exactly one of the three sources,
and a label only beside a stock item. -/
inductive ContractCreate where
  | offer (offerId : Uuid)
  | customer (customerId : Uuid)
  | stockItem (stockItemId : Uuid) (vehicleLabel : Option String)

/-! ### What a request reads outside Sales -/

/-- The customer as Sales reads it; the last field is
`has_usable_domicile_address`. -/
structure Customer where
  customerNumber : String := ""
  lifecycleStatus : CustomerLifecycleStatus := .active
  companyName : Option String := none
  firstName : Option String := none
  lastName : Option String := none
  language : String := "de"
  creditBlock : Bool := false
  creditBlockReason : Option String := none
  hasUsableDomicileAddress : Bool := true

structure ConfigurationPriceLine where
  kind : String
  code : Option String
  label : String
  price : Decimal

/-- What `get_configuration_for_host` hands to Sales. -/
structure HostConfiguration where
  id : Uuid
  version : ℕ := 1
  mode : String := "build"
  label : String := ""
  basePrice : Option Decimal := none
  basePriceYear : Option ℕ := none
  priceLines : List ConfigurationPriceLine := []
  spec : List (String × String) := []

structure ResolvedVehicle where
  id : Uuid
  vin : String

/-- One request's view of the other contexts, the clock, and the ids it draws
from `uuid7()`.  Every request has its own, so nothing is assumed about how
the other contexts change between two requests. -/
structure Reads where
  /-- `get_customer_or_404(group, id)`. -/
  customer : Uuid → Uuid → Option Customer := fun _ _ => none
  /-- `get_configuration_for_host(tenant, id)`. -/
  configuration : Uuid → Uuid → Option HostConfiguration := fun _ _ => none
  /-- Stock, as `get_stock_item_pricing` reads it. -/
  stockItems : Table Uuid StockItem := ∅
  /-- The label of a user who acts in the dealership (`_seller_in`). -/
  sellerLabel : Uuid → Uuid → Option String := fun _ _ => none
  /-- The VIN of the decisive match for a plate and canton (`match_vehicle`). -/
  matchVehicle : String → Option String → Option String := fun _ _ => none
  /-- `_resolve_vehicle`: the vehicle record of a VIN, created when new. -/
  resolveVehicle : String → Result ResolvedVehicle :=
    fun _ => .error (internalError "vehicle-mdm is not reachable")
  /-- The next number of the tenant's series. -/
  number : String := ""
  now : Time := 0
  groupId : Uuid := 0
  actorId : Option Uuid := none
  uuid : ℕ → Uuid := id
  /-- The rows of a SELECT without ORDER BY, in the order they come. -/
  unordered : List LineItem → List LineItem := id
  unordered_perm : ∀ rows, (unordered rows).Perm rows := by exact .refl

end Nexotec
