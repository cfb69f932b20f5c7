/-
The services that change a stock item a request has read
(`app/inventory/services/stock_item.py`, `purchase.py`, `pricing.py`,
`pipeline.py`, `invoicing_gate.py`).

None of them locks the row. Each works on the session's own copy and leaves the
`UPDATE` to the flush, which sends the columns that differ from the copy as it was
read: `writeItem`. The primary key is its only condition.
-/
import Nexotec.Core.Columns
import Nexotec.Inventory.StockItem
import Nexotec.Lib.RowWrites

namespace Nexotec.Stock

open RowWrites

/-- `StockItemUpdate`: the outer `none` is a field that is not set, the inner one an
explicit null. -/
structure StockItemUpdate where
  vehicleLabel : Option (Option String) := none
  condition : Option (Option StockItemCondition) := none
  locationId : Option (Option Uuid) := none
  odometerKm : Option (Option ℤ) := none
  exteriorColour : Option (Option String) := none
  bodyStyle : Option (Option String) := none
  listPrice : Option (Option Decimal) := none
  effectivePrice : Option (Option Decimal) := none
  firstRegistrationDate : Option (Option Date) := none

/-- `RecordPurchaseRequest`. -/
structure RecordPurchaseRequest where
  supplierName : String
  supplierIsVatRegistered : Bool
  purchasePrice : Decimal
  purchaseDate : Date
  purchaseInvoiceRef : Option String := none
  landedCost : Option Decimal := none

/-- `NotionalInputTaxOverrideRequest`. -/
structure NotionalInputTaxOverrideRequest where
  applicable : Bool
  rate : Option Decimal := none
  reason : String := ""

/-- The five requests that carry an `If-Match` version. A purchase comes with the
dealership's VAT rate as the service reads it. -/
inductive Request where
  | patch (data : StockItemUpdate)
  | condition (value : StockItemCondition)
  | purchase (data : RecordPurchaseRequest) (vatRate : Option Decimal)
  | notionalInputTax (data : NotionalInputTaxOverrideRequest)
  | options (basePrice : Decimal) (list : List StockItemOption)

/-! ### The services, on the session's copy -/

/-- `setattr` of a field that is set. -/
def setField {α : Type} (change : Option α) (value : α) : α := change.getD value

def setRequired {α : Type} (column : String) (change : Option (Option α)) (value : α) : Result α :=
  match change with
  | none => .ok value
  | some (some new) => .ok new
  | some none => .error (internalError s!"null value in column {column} violates not-null constraint")

def touch (now : Time) (actorId : Option Uuid) (item : StockItem) : StockItem :=
  { item with updatedBy := actorId, updatedAt := now, version := item.version + 1 }

def updateStockItem (now : Time) (data : StockItemUpdate) (actorId : Option Uuid) (item : StockItem) :
    Result StockItem := do
  let vehicleLabel ← setRequired "vehicle_label" data.vehicleLabel item.vehicleLabel
  let condition ← setRequired "condition" data.condition item.condition
  pure (touch now actorId { item with
    vehicleLabel := vehicleLabel
    condition := condition
    locationId := setField data.locationId item.locationId
    odometerKm := setField data.odometerKm item.odometerKm
    exteriorColour := setField data.exteriorColour item.exteriorColour
    bodyStyle := setField data.bodyStyle item.bodyStyle
    listPrice := setField data.listPrice item.listPrice
    effectivePrice := setField data.effectivePrice item.effectivePrice
    firstRegistrationDate := setField data.firstRegistrationDate item.firstRegistrationDate })

def changeCondition (now : Time) (condition : StockItemCondition) (actorId : Option Uuid)
    (item : StockItem) : StockItem :=
  touch now actorId { item with condition := condition }

def computeNotionalInputTax (purchasePrice : Decimal) (rate : Option Decimal) :
    Result (Option Decimal) :=
  match rate with
  | none => .ok none
  | some rate => (vatShare purchasePrice rate).map some

/-- `mark_purchased_if_ready`: the item and whether it became invoiceable. -/
def markPurchasedIfReady (item : StockItem) : StockItem × Bool :=
  if item.isInvoiceable then (item, false)
  else if item.lifecycleStatus ≠ .inStock ∨ item.purchasePrice = none then (item, false)
  else ({ item with isInvoiceable := true }, true)

/-- The tax of a purchase: none from a supplier registered for VAT. -/
def purchaseTax (data : RecordPurchaseRequest) (vatRate : Option Decimal) :
    Result (Option Decimal) :=
  if data.supplierIsVatRegistered then .ok none
  else computeNotionalInputTax data.purchasePrice vatRate

/-- `record_purchase` up to its flush. -/
def bookPurchase (now : Time) (data : RecordPurchaseRequest) (vatRate : Option Decimal)
    (actorId : Option Uuid) (item : StockItem) : Result StockItem := do
  let applicable := !data.supplierIsVatRegistered
  let amount ← purchaseTax data vatRate
  pure (touch now actorId { item with
    supplierName := some data.supplierName
    supplierIsVatRegistered := some data.supplierIsVatRegistered
    purchasePrice := some data.purchasePrice
    purchaseDate := some data.purchaseDate
    purchaseInvoiceRef := data.purchaseInvoiceRef
    landedCost := data.landedCost
    notionalInputTaxApplicable := some applicable
    notionalInputTaxRate := if applicable then vatRate else none
    notionalInputTaxAmount := amount })

/-- `record_purchase`, with whether it published the purchased event. -/
def recordPurchase (now : Time) (data : RecordPurchaseRequest) (vatRate : Option Decimal)
    (actorId : Option Uuid) (item : StockItem) : Result (StockItem × Bool) := do
  let booked ← bookPurchase now data vatRate actorId item
  pure (markPurchasedIfReady booked)

/-- The tax of an override: none where it does not apply or nothing was purchased. -/
def overriddenTax (data : NotionalInputTaxOverrideRequest) (item : StockItem) :
    Result (Option Decimal) :=
  match data.applicable, item.purchasePrice with
  | true, some purchasePrice => computeNotionalInputTax purchasePrice data.rate
  | _, _ => .ok none

def overrideNotionalInputTax (now : Time) (data : NotionalInputTaxOverrideRequest)
    (actorId : Option Uuid) (item : StockItem) : Result StockItem := do
  let amount ← overriddenTax data item
  pure (touch now actorId { item with
    notionalInputTaxApplicable := some data.applicable
    notionalInputTaxRate := if data.applicable then data.rate else none
    notionalInputTaxAmount := amount
    notionalInputTaxOverridden := true })

/-- `ITEMIZABLE_CONDITIONS`. -/
def itemizable : StockItemCondition → Bool
  | .new | .tagesz | .demo => true
  | .used => false

/-- `base_price + sum((o.price for o in options), Decimal(0))`, each sum in the context. -/
def itemisedPrice (basePrice : Decimal) (options : List StockItemOption) : Option Decimal := do
  let total ← options.foldlM (fun total o => decimalContext.add total o.price) 0
  decimalContext.add basePrice total

/-- `set_options`, the option rows with the item. -/
def setOptions (now : Time) (basePrice : Decimal) (options : List StockItemOption)
    (actorId : Option Uuid) (stockItemId : Uuid) (item : StockItem) : Result StockItem :=
  if options ≠ [] ∧ itemizable item.condition = false then
    .error (conflictError
      s!"Factory options may only be itemised on new/tagesz/demo stock, not '{item.condition.value}'."
      [("stockItemId", toString stockItemId), ("condition", item.condition.value)])
  else do
    let listPrice ← orDecimalException (itemisedPrice basePrice options)
    pure (touch now actorId { item with
      basePrice := some basePrice
      listPrice := some listPrice
      options := options })

/-- What a request makes of the item, and whether the purchased event goes with it. -/
def Request.perform (now : Time) (actorId : Option Uuid) (stockItemId : Uuid) (item : StockItem) :
    Request → Result (StockItem × Bool)
  | .patch data => (updateStockItem now data actorId item).map (·, false)
  | .condition value => .ok (changeCondition now value actorId item, false)
  | .purchase data vatRate => recordPurchase now data vatRate actorId item
  | .notionalInputTax data => (overrideNotionalInputTax now data actorId item).map (·, false)
  | .options basePrice list =>
    (setOptions now basePrice list actorId stockItemId item).map (·, false)

/-- What `promote_to_vehicle_mdm` makes of the item, and whether the purchased event
goes with it. -/
def assignVin (now : Time) (vehicleId : Uuid) (vin : String) (item : StockItem) : StockItem × Bool :=
  markPurchasedIfReady { item with
    vehicleId := some vehicleId
    vin := some vin
    lifecycleStatus := .inStock
    inStockAt := some now
    updatedAt := now
    version := item.version + 1 }

/-- `apply_finance_invoice_issued` on a car that may be sold. -/
def sellItem (now : Time) (item : StockItem) : StockItem :=
  { item with leftStockAt := some now, updatedAt := now, version := item.version + 1 }

/-! ### The flush -/

/-- The `UPDATE` of a flush: each column that differs from the copy as it was read
gets the new value, the others keep what is stored. The options are rows of their own,
and stay as they are. -/
def writeItem (base new stored : StockItem) : StockItem where
  tenantId := writeColumn base.tenantId new.tenantId stored.tenantId
  stockNumber := writeColumn base.stockNumber new.stockNumber stored.stockNumber
  vehicleLabel := writeColumn base.vehicleLabel new.vehicleLabel stored.vehicleLabel
  lifecycleStatus := writeColumn base.lifecycleStatus new.lifecycleStatus stored.lifecycleStatus
  reservationState := writeColumn base.reservationState new.reservationState stored.reservationState
  reservedByContractId :=
    writeColumn base.reservedByContractId new.reservedByContractId stored.reservedByContractId
  activeReservationId :=
    writeColumn base.activeReservationId new.activeReservationId stored.activeReservationId
  condition := writeColumn base.condition new.condition stored.condition
  listPrice := writeColumn base.listPrice new.listPrice stored.listPrice
  effectivePrice := writeColumn base.effectivePrice new.effectivePrice stored.effectivePrice
  pipelineRef := writeColumn base.pipelineRef new.pipelineRef stored.pipelineRef
  configurationId := writeColumn base.configurationId new.configurationId stored.configurationId
  configurationLabel :=
    writeColumn base.configurationLabel new.configurationLabel stored.configurationLabel
  purchasePrice := writeColumn base.purchasePrice new.purchasePrice stored.purchasePrice
  landedCost := writeColumn base.landedCost new.landedCost stored.landedCost
  notionalInputTaxApplicable := writeColumn base.notionalInputTaxApplicable
    new.notionalInputTaxApplicable stored.notionalInputTaxApplicable
  notionalInputTaxRate :=
    writeColumn base.notionalInputTaxRate new.notionalInputTaxRate stored.notionalInputTaxRate
  notionalInputTaxAmount :=
    writeColumn base.notionalInputTaxAmount new.notionalInputTaxAmount stored.notionalInputTaxAmount
  leftStockAt := writeColumn base.leftStockAt new.leftStockAt stored.leftStockAt
  basePrice := writeColumn base.basePrice new.basePrice stored.basePrice
  options := stored.options
  valuationRefId := writeColumn base.valuationRefId new.valuationRefId stored.valuationRefId
  valuationRefAmount :=
    writeColumn base.valuationRefAmount new.valuationRefAmount stored.valuationRefAmount
  updatedAt := new.updatedAt
  version := writeColumn base.version new.version stored.version
  vehicleId := writeColumn base.vehicleId new.vehicleId stored.vehicleId
  vin := writeColumn base.vin new.vin stored.vin
  locationId := writeColumn base.locationId new.locationId stored.locationId
  odometerKm := writeColumn base.odometerKm new.odometerKm stored.odometerKm
  exteriorColour := writeColumn base.exteriorColour new.exteriorColour stored.exteriorColour
  bodyStyle := writeColumn base.bodyStyle new.bodyStyle stored.bodyStyle
  firstRegistrationDate :=
    writeColumn base.firstRegistrationDate new.firstRegistrationDate stored.firstRegistrationDate
  inStockAt := writeColumn base.inStockAt new.inStockAt stored.inStockAt
  supplierName := writeColumn base.supplierName new.supplierName stored.supplierName
  supplierIsVatRegistered := writeColumn base.supplierIsVatRegistered new.supplierIsVatRegistered
    stored.supplierIsVatRegistered
  purchaseDate := writeColumn base.purchaseDate new.purchaseDate stored.purchaseDate
  purchaseInvoiceRef :=
    writeColumn base.purchaseInvoiceRef new.purchaseInvoiceRef stored.purchaseInvoiceRef
  notionalInputTaxOverridden := writeColumn base.notionalInputTaxOverridden
    new.notionalInputTaxOverridden stored.notionalInputTaxOverridden
  isInvoiceable := writeColumn base.isInvoiceable new.isInvoiceable stored.isInvoiceable
  createdBy := writeColumn base.createdBy new.createdBy stored.createdBy
  updatedBy := writeColumn base.updatedBy new.updatedBy stored.updatedBy

/-- The option rows after `set_options`: those it had read are deleted, where they are
still there, and its own inserted. -/
def writeOptions (read new stored : List StockItemOption) : List StockItemOption :=
  (stored.filter fun option => option.id ∉ read.map (·.id)) ++ new

/-- **An `UPDATE` of a row nobody has written since it was read stores the copy**,
except for the option rows. -/
theorem writeItem_base (base new : StockItem) :
    writeItem base new base = { new with options := base.options } := by
  simp only [writeItem, writeColumn_base]

theorem writeOptions_base (read new : List StockItemOption) : writeOptions read new read = new := by
  have hall : (read.filter fun option => option.id ∉ read.map (·.id)) = [] :=
    List.filter_eq_nil_iff.mpr fun option hoption => by simpa using ⟨option, hoption, rfl⟩
  rw [writeOptions, hall, List.nil_append]

/-! ### What the services leave alone -/

/-- The columns that none of the five requests touches are the same, and the version
is the next one. -/
structure Framed (item new : StockItem) : Prop where
  tenantId : new.tenantId = item.tenantId
  lifecycleStatus : new.lifecycleStatus = item.lifecycleStatus
  reservation : new.reservation = item.reservation
  pipelineRef : new.pipelineRef = item.pipelineRef
  leftStockAt : new.leftStockAt = item.leftStockAt
  vehicleId : new.vehicleId = item.vehicleId
  vin : new.vin = item.vin
  version : new.version = item.version + 1

theorem markPurchasedIfReady_fst (item : StockItem) : (markPurchasedIfReady item).1 =
      { item with isInvoiceable := item.isInvoiceable || (markPurchasedIfReady item).2 } := by
  unfold markPurchasedIfReady
  split
  · next h => rw [h]; cases item; simp_all
  · split
    · simp
    · simp

theorem markPurchasedIfReady_snd (item : StockItem) : (markPurchasedIfReady item).2 = true ↔
      item.isInvoiceable = false ∧ item.lifecycleStatus = .inStock ∧ item.purchasePrice.isSome := by
  unfold markPurchasedIfReady
  split
  · next h => simp [h]
  · next h =>
    split
    · next h' =>
      rcases h' with h' | h'
      · simp [h']
      · simp [h']
    · next h' =>
      rw [not_or, not_not] at h'
      simp [h, h'.1, Option.isSome_iff_ne_none, h'.2]

variable {item new : StockItem}

theorem Framed.markPurchased (h : Framed item new) : Framed item (markPurchasedIfReady new).1 := by
  rw [markPurchasedIfReady_fst]
  exact ⟨h.tenantId, h.lifecycleStatus, h.reservation, h.pipelineRef, h.leftStockAt, h.vehicleId,
    h.vin, h.version⟩

variable {now : Time} {actorId : Option Uuid}

theorem updateStockItem_framed {data : StockItemUpdate}
    (h : updateStockItem now data actorId item = .ok new) : Framed item new := by
  obtain ⟨vehicleLabel, -, h⟩ := Result.of_bind h
  obtain ⟨condition, -, h⟩ := Result.of_bind h
  cases h
  exact ⟨rfl, rfl, rfl, rfl, rfl, rfl, rfl, rfl⟩

theorem bookPurchase_eq_ok {data : RecordPurchaseRequest} {vatRate : Option Decimal}
    (h : bookPurchase now data vatRate actorId item = .ok new) :
    Framed item new ∧ new.purchasePrice = some data.purchasePrice ∧
      new.isInvoiceable = item.isInvoiceable := by
  obtain ⟨amount, -, h⟩ := Result.of_bind h
  cases h
  exact ⟨⟨rfl, rfl, rfl, rfl, rfl, rfl, rfl, rfl⟩, rfl, rfl⟩

theorem overrideNotionalInputTax_framed {data : NotionalInputTaxOverrideRequest}
    (h : overrideNotionalInputTax now data actorId item = .ok new) : Framed item new := by
  obtain ⟨amount, -, h⟩ := Result.of_bind h
  cases h
  exact ⟨rfl, rfl, rfl, rfl, rfl, rfl, rfl, rfl⟩

theorem setOptions_framed {basePrice : Decimal} {options : List StockItemOption}
    {stockItemId : Uuid} (h : setOptions now basePrice options actorId stockItemId item = .ok new) :
    Framed item new := by
  unfold setOptions at h
  split at h
  · cases h
  · obtain ⟨listPrice, -, h⟩ := Result.of_bind h
    cases h
    exact ⟨rfl, rfl, rfl, rfl, rfl, rfl, rfl, rfl⟩

theorem perform_framed {stockItemId : Uuid} {request : Request} {purchased : Bool}
    (h : request.perform now actorId stockItemId item = .ok (new, purchased)) :
    Framed item new := by
  cases request with
  | patch data =>
    obtain ⟨row, hrow, heq⟩ := Result.map_eq_ok.mp h
    cases heq
    exact updateStockItem_framed hrow
  | condition value =>
    cases h
    exact ⟨rfl, rfl, rfl, rfl, rfl, rfl, rfl, rfl⟩
  | purchase data vatRate =>
    obtain ⟨booked, hbooked, heq⟩ := Result.of_bind h
    have hframed := (bookPurchase_eq_ok hbooked).1.markPurchased
    rwa [Except.ok.inj heq] at hframed
  | notionalInputTax data =>
    obtain ⟨row, hrow, heq⟩ := Result.map_eq_ok.mp h
    cases heq
    exact overrideNotionalInputTax_framed hrow
  | options basePrice list =>
    obtain ⟨row, hrow, heq⟩ := Result.map_eq_ok.mp h
    cases heq
    exact setOptions_framed hrow

end Nexotec.Stock
