/-
Stock items (`app/inventory/models/stock_item.py`) and the price data Sales
reads from one (`app/inventory/services/pricing.py`).

The table key is the item's id.  Columns no modelled function reads (order and
delivery dates, ledger and publishing data) are left out.
-/
import Nexotec.Core.Base

namespace Nexotec

inductive LifecycleStatus where
  | pipeline
  | inStock
  | stornoPending
  deriving DecidableEq

inductive ReservationState where
  | none
  | reserved
  deriving DecidableEq

inductive StockItemCondition where
  | new
  | used
  | demo
  | tagesz
  deriving DecidableEq

def StockItemCondition.value : StockItemCondition → String
  | .new => "new"
  | .used => "used"
  | .demo => "demo"
  | .tagesz => "tagesz"

/-- `StockItemCondition(value)`; `none` is the `ValueError`. -/
def StockItemCondition.ofValue : String → Option StockItemCondition
  | "new" => some .new
  | "used" => some .used
  | "demo" => some .demo
  | "tagesz" => some .tagesz
  | _ => none

/-- Which of a contract's two cars a pipeline item was created for. -/
inductive PipelineRole where
  | manual
  | tradeIn
  deriving DecidableEq

/-- `pipeline_ref`, the text `contract:<id>:manual` or `contract:<id>:trade_in`. -/
structure PipelineRef where
  contractId : Uuid
  role : PipelineRole
  deriving DecidableEq

/-- `datetime.date`, as a day number. -/
abbrev Date := ℤ

/-- One factory option of a stock item. -/
structure StockItemOption where
  code : String
  label : String
  price : Decimal
  equipmentCode : Option String := none
  /-- The primary key, drawn for the row. -/
  id : Uuid := 0
  deriving DecidableEq

structure StockItem where
  tenantId : Uuid
  stockNumber : String := ""
  vehicleLabel : String := ""
  lifecycleStatus : LifecycleStatus := .pipeline
  reservationState : ReservationState := .none
  reservedByContractId : Option Uuid := none
  activeReservationId : Option Uuid := none
  condition : StockItemCondition := .used
  listPrice : Option Decimal := none
  effectivePrice : Option Decimal := none
  pipelineRef : Option PipelineRef := none
  configurationId : Option Uuid := none
  configurationLabel : Option String := none
  purchasePrice : Option Decimal := none
  landedCost : Option Decimal := none
  notionalInputTaxApplicable : Option Bool := none
  notionalInputTaxRate : Option Decimal := none
  notionalInputTaxAmount : Option Decimal := none
  leftStockAt : Option Time := none
  basePrice : Option Decimal := none
  options : List StockItemOption := []
  valuationRefId : Option Uuid := none
  valuationRefAmount : Option Decimal := none
  updatedAt : Time := 0
  version : ℕ := 1
  vehicleId : Option Uuid := none
  vin : Option String := none
  locationId : Option Uuid := none
  odometerKm : Option ℤ := none
  exteriorColour : Option String := none
  bodyStyle : Option String := none
  firstRegistrationDate : Option Date := none
  inStockAt : Option Time := none
  supplierName : Option String := none
  supplierIsVatRegistered : Option Bool := none
  purchaseDate : Option Date := none
  purchaseInvoiceRef : Option String := none
  notionalInputTaxOverridden : Bool := false
  isInvoiceable : Bool := false
  createdBy : Option Uuid := none
  updatedBy : Option Uuid := none

namespace StockItem

/-- The item is reserved for `contractId` under `reservationId`. -/
def HeldFor (item : StockItem) (contractId reservationId : Uuid) : Prop :=
  item.reservationState = .reserved ∧ item.reservedByContractId = some contractId ∧
    item.activeReservationId = some reservationId

instance (item : StockItem) (contractId reservationId : Uuid) :
    Decidable (item.HeldFor contractId reservationId) :=
  inferInstanceAs (Decidable (_ ∧ _ ∧ _))

def reservation (item : StockItem) : ReservationState × Option Uuid × Option Uuid :=
  (item.reservationState, item.reservedByContractId, item.activeReservationId)

end StockItem

theorem heldFor_iff {item : StockItem} {contractId reservationId : Uuid} :
    item.HeldFor contractId reservationId ↔
      item.reservation = (.reserved, some contractId, some reservationId) := by
  simp [StockItem.HeldFor, StockItem.reservation]

theorem reservation_active {item item' : StockItem} (h : item'.reservation = item.reservation) :
    item'.activeReservationId = item.activeReservationId :=
  congrArg (fun p => p.2.2) h

theorem reservation_contract {item item' : StockItem} (h : item'.reservation = item.reservation) :
    item'.reservedByContractId = item.reservedByContractId :=
  congrArg (fun p => p.2.1) h

theorem active_of_free {item : StockItem} (h : item.reservation = (.none, none, none)) :
    item.activeReservationId = none :=
  congrArg (fun p => p.2.2) h

/-- The dict `get_stock_item_pricing` hands to Sales. -/
structure StockItemPricing where
  basePrice : Option Decimal
  listPrice : Option Decimal
  effectivePrice : Option Decimal
  purchasePrice : Option Decimal
  landedCost : Option Decimal
  notionalInputTaxApplicable : Option Bool
  notionalInputTaxRate : Option Decimal
  notionalInputTaxAmount : Option Decimal
  condition : String
  options : List StockItemOption

/-- `get_stock_item_or_404`: the item under `stockItemId`, if it is the tenant's. -/
def getStockItemOr404 (items : Table Uuid StockItem) (tenantId stockItemId : Uuid) :
    Result StockItem :=
  orNotFound ((items.lookup stockItemId).filter (·.tenantId = tenantId))
    s!"Stock item {stockItemId} was not found."

def getStockItemPricing (items : Table Uuid StockItem) (tenantId stockItemId : Uuid) :
    Result StockItemPricing := do
  let item ← getStockItemOr404 items tenantId stockItemId
  -- a plain used car has no base price; its asking price stands in for one
  let basePrice :=
    if item.basePrice.isNone ∧ item.options = [] then
      item.effectivePrice.orElse fun _ => item.listPrice
    else item.basePrice
  pure {
    basePrice := basePrice
    listPrice := item.listPrice
    effectivePrice := item.effectivePrice
    purchasePrice := item.purchasePrice
    landedCost := item.landedCost
    notionalInputTaxApplicable := item.notionalInputTaxApplicable
    notionalInputTaxRate := item.notionalInputTaxRate
    notionalInputTaxAmount := item.notionalInputTaxAmount
    condition := item.condition.value
    options := item.options }

end Nexotec
