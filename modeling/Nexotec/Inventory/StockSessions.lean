/-
Any number of sessions at work on a dealership's stock items.

A reservation, its release and the nightly sweep take the row lock of the item and
hold it until they commit. All others — the five endpoints with an `If-Match` version,
a VIN's arrival, a direct create, an issued invoice — read the item without a lock,
decide on their copy, and meet the stored row only in the `UPDATE` of the flush, which
waits for a row lock but has no other condition than the id.

A flush is one step with its commit: until then nobody sees it, and whoever wants the
row waits. Of the events, `published` has those about the VIN and the purchase.

  idle → reserving → answering → idle              (row locked)
  idle → releasing → idle                         (row locked)
  idle → sweeping → releasing → sweeping → idle
  idle → editing → idle
  idle → promoting → resolving → assigning → idle
  idle → creating → locating → inserting → idle
  idle → selling → idle
-/
import Nexotec.Inventory.ReservationSweep
import Nexotec.Inventory.StockEdits
import Nexotec.Lib.Interleaving

namespace Nexotec.Stock

open Interleaving

/-! ### Calls -/

/-- A request with an `If-Match` version. -/
structure Edit where
  tenantId : Uuid
  stockItemId : Uuid
  ifMatch : ℕ
  request : Request
  actorId : Option Uuid := none

/-- `reserve_for_contract` under its key, or the endpoint's `reserve_without_key`. -/
structure ReserveCall where
  tenantId : Uuid
  stockItemId : Uuid
  contractId : Uuid
  key : Option IdempotencyKey := none

/-- `release` under its key, or the endpoint's `release_without_key`. -/
structure ReleaseCall where
  tenantId : Uuid
  reservationId : Uuid
  key : Option IdempotencyKey := none

/-- `StockItemCreate`, with the label its configuration was found under. -/
structure StockItemCreate where
  tenantId : Uuid
  vehicleLabel : String
  condition : StockItemCondition
  locationId : Option Uuid := none
  odometerKm : Option ℤ := none
  listPrice : Option Decimal := none
  effectivePrice : Option Decimal := none
  firstRegistrationDate : Option Date := none
  configuration : Option (Uuid × String) := none
  actorId : Option Uuid := none

/-- `str.upper` and the whitespace of `\s`. -/
structure Spelling where
  upper : String → String
  isSpace : Char → Bool

def normaliseVin (spelling : Spelling) (value : String) : String :=
  spelling.upper (String.ofList (value.toList.filter fun c => !spelling.isSpace c))

/-- A character of `[A-HJ-NPR-Z0-9]`. -/
def isVinChar (c : Char) : Bool :=
  ('A' ≤ c ∧ c ≤ 'Z' ∧ c ≠ 'I' ∧ c ≠ 'O' ∧ c ≠ 'Q') ∨ ('0' ≤ c ∧ c ≤ '9')

def normalisedVin (spelling : Spelling) (value : String) : Result String :=
  let vin := normaliseVin spelling value
  if vin.length = 17 ∧ vin.toList.all isVinChar then .ok vin
  else .error (unprocessableEntityError
    "VIN must be exactly 17 uppercase alphanumeric characters (excluding I, O, Q)."
    [("reason", "invalid_vin")])

/-! ### State -/

inductive StockEvent where
  | vinAssigned (stockItemId : Uuid) (vin : String) (vehicleId : Uuid)
  | purchased (stockItemId : Uuid)
  deriving DecidableEq

/-- How a request with an `If-Match` version was answered. -/
inductive Verdict where
  | committed
  | versionConflict
  | refused
  deriving DecidableEq

structure Answer where
  stockItemId : Uuid
  ifMatch : ℕ
  verdict : Verdict
  deriving DecidableEq

/-- What a committed transaction has done to an item, said of the call alone. -/
inductive Change where
  | edit (now : Time) (call : Edit)
  | assignVin (now : Time) (vehicleId : Uuid) (vin : String)
  | sell (now : Time)
  | reserve (now : Time) (contractId reservationId : Uuid)
  | release (now : Time)

def Change.apply (item : StockItem) : Change → StockItem
  | .edit now call =>
    match call.request.perform now call.actorId call.stockItemId item with
    | .ok (new, _) => new
    | .error _ => item
  | .assignVin now vehicleId vin => (Stock.assignVin now vehicleId vin item).1
  | .sell now => sellItem now item
  | .reserve now contractId reservationId => reserveAndFlush now contractId reservationId item
  | .release now => releaseAndFlush now item

structure Shared (ι : Type) where
  stock : StockDb := {}
  itemLock : Uuid → Option ι := fun _ => none
  /-- The vehicle records by VIN. -/
  vehicles : Table String Uuid := ∅
  /-- The committed events, the last one first. -/
  published : List StockEvent := []
  /-- The answers to requests, the last one first. -/
  answers : List Answer := []
  /-- The committed changes, the last one first. -/
  history : List (Uuid × Change) := []

/-- Where a session is, with what it has read. -/
inductive Local where
  | idle
  /-- The item is locked. -/
  | reserving (call : ReserveCall) (item : StockItem)
  /-- The record under the key has been read. -/
  | answering (call : ReserveCall) (item : StockItem) (cached : Option IdempotencyRecord)
  /-- The item is locked; `back` is what is left of the sweep that called. -/
  | releasing (call : ReleaseCall) (stockItemId : Uuid) (back : Option (List Reservation))
  | sweeping (rest : List Reservation)
  /-- The version matched; `read` are the option rows as last read. -/
  | editing (call : Edit) (base : StockItem) (read : List StockItemOption)
  /-- The copy is a pipeline item. -/
  | promoting (stockItemId : Uuid) (vin : String) (base : StockItem)
  /-- The VIN was not in stock. -/
  | resolving (stockItemId : Uuid) (vin : String) (base : StockItem)
  | assigning (stockItemId : Uuid) (vin : String) (base : StockItem) (vehicleId : Uuid)
  | creating (data : StockItemCreate) (vin : String)
  | locating (data : StockItemCreate) (vin : String)
  | inserting (data : StockItemCreate) (vehicle : Option (Uuid × String))
  /-- The copy may be invoiced. -/
  | selling (stockItemId : Uuid) (base : StockItem)

inductive Choice where
  | reserve (call : ReserveCall)
  | readKey
  | release (call : ReleaseCall)
  | sweep
  /-- Sales' answer about the next reservation. -/
  | sweepNext (now : Time) (status : Option ContractStatus)
  | edit (call : Edit)
  | readOptions
  | promote (tenantId stockItemId : Uuid) (vin : String)
  | create (data : StockItemCreate) (vin : Option String)
  | sell (tenantId stockItemId : Uuid)
  | look
  | resolve (newId : Uuid)
  /-- The flush and the commit, with the clock, a new id and a new stock number. -/
  | commit (now : Time) (newId : Uuid) (stockNumber : String)
  | fail

variable {ι : Type}

def Shared.items (sh : Shared ι) : Table Uuid StockItem := sh.stock.items

def Shared.withItems (items : Table Uuid StockItem) (sh : Shared ι) : Shared ι :=
  { sh with stock := { sh.stock with items := items } }

def Shared.record (stockItemId : Uuid) (change : Change) (sh : Shared ι) : Shared ι :=
  { sh with history := (stockItemId, change) :: sh.history }

def Shared.answer (call : Edit) (verdict : Verdict) (sh : Shared ι) : Shared ι :=
  { sh with answers := ⟨call.stockItemId, call.ifMatch, verdict⟩ :: sh.answers }

/-- `publish` of the purchased event, where the flag was raised. -/
def Shared.publishPurchased (stockItemId : Uuid) (purchased : Bool) (sh : Shared ι) : Shared ι :=
  if purchased then { sh with published := .purchased stockItemId :: sh.published } else sh

section

variable [DecidableEq ι]

/-! ### Under the row lock -/

def lockItem (i : ι) (stockItemId : Uuid) (sh : Shared ι) : Shared ι :=
  { sh with itemLock := Function.update sh.itemLock stockItemId (some i) }

/-- The end of session `i`'s transaction. -/
def unlock (i : ι) (sh : Shared ι) : Shared ι :=
  { sh with itemLock := fun x => if sh.itemLock x = some i then none else sh.itemLock x }

/-- The `SELECT … FOR UPDATE` of a reservation; `none` waits for the lock. -/
def openReservation (i : ι) (call : ReserveCall) (sh : Shared ι) : Option (Shared ι × Local) :=
  if sh.itemLock call.stockItemId ≠ none then none
  else
    match stockItemToLock sh.stock call.tenantId call.stockItemId with
    | .error _ => some (sh, .idle)
    | .ok item => some (lockItem i call.stockItemId sh, .reserving call item)

/-- `find_cached_response`, under the lock. The endpoint has no key. -/
def readKey (i : ι) (call : ReserveCall) (item : StockItem) (sh : Shared ι) : Shared ι × Local :=
  match call.key with
  | none => (sh, .answering call item none)
  | some key =>
    match findCachedResponse sh.stock.records call.tenantId key (.reserve call.stockItemId)
        (some call.contractId) with
    | .error _ => (unlock i sh, .idle)
    | .ok cached => (sh, .answering call item cached)

/-- The contract's own live reservation answers `reserve_for_contract`. -/
def isReplay (call : ReserveCall) (item : StockItem) : Prop :=
  call.key.isSome ∧ item.reservationState = .reserved ∧
    item.reservedByContractId = some call.contractId

instance (call : ReserveCall) (item : StockItem) : Decidable (isReplay call item) :=
  inferInstanceAs (Decidable (_ ∧ _ ∧ _))

/-- A new reservation on the locked item: the records to commit with it. -/
def newReservation (newId : Uuid) (call : ReserveCall) (item : StockItem)
    (cached : Option IdempotencyRecord) (stock : StockDb) :
    Result (Table (IdempotencyKey × Uuid) IdempotencyRecord) := do
  refuseIfLeftStock call.stockItemId item
  if item.reservationState = .reserved then .error (alreadyReserved call.stockItemId)
  else
    match call.key with
    | none => pure stock.records
    | some key =>
      storeReservation stock call.tenantId call.stockItemId call.contractId newId key cached

/-- The rest of `reserve_for_contract` and of `reserve_without_key`. -/
def commitReservation (i : ι) (now : Time) (newId : Uuid) (call : ReserveCall) (item : StockItem)
    (cached : Option IdempotencyRecord) (sh : Shared ι) : Shared ι × Local :=
  if isReplay call item then (unlock i sh, .idle)
  else
    match newReservation newId call item cached sh.stock with
    | .error _ => (unlock i sh, .idle)
    | .ok records =>
      let stock := { sh.stock with
        items := sh.items.modify call.stockItemId (reserveAndFlush now call.contractId newId)
        records := records }
      (unlock i ({ sh with stock := stock }.record call.stockItemId
        (.reserve now call.contractId newId)), .idle)

def resume : Option (List Reservation) → Local
  | none => .idle
  | some rest => .sweeping rest

/-- The item a release is of; `none` when a stored response answers. -/
def releaseToLock (call : ReleaseCall) (stock : StockDb) : Result (Option (Uuid × StockItem)) :=
  match call.key with
  | some key => reservationToLock stock call.tenantId call.reservationId key
  | none =>
    match findReservation stock.items call.tenantId call.reservationId with
    | some found => .ok (some found)
    | none => .error (notFoundError s!"Reservation {call.reservationId} was not found.")

/-- `_release` up to its lock; `none` waits for it. -/
def openRelease (i : ι) (call : ReleaseCall) (back : Option (List Reservation)) (sh : Shared ι) :
    Option (Shared ι × Local) :=
  match releaseToLock call sh.stock with
  | .error _ | .ok none => some (sh, resume back)
  | .ok (some (stockItemId, _)) =>
    if sh.itemLock stockItemId ≠ none then none
    else some (lockItem i stockItemId sh, .releasing call stockItemId back)

/-- `release_and_flush` and the record under the key, if there is one. -/
def releasedStock (now : Time) (call : ReleaseCall) (stockItemId : Uuid) (stock : StockDb) :
    Result StockDb :=
  match call.key with
  | some key => releaseLocked now stock call.tenantId call.reservationId key stockItemId
  | none => .ok { stock with items := stock.items.modify stockItemId (releaseAndFlush now) }

/-- `_release` on the row it locked. -/
def commitRelease (i : ι) (now : Time) (call : ReleaseCall) (stockItemId : Uuid)
    (back : Option (List Reservation)) (sh : Shared ι) : Shared ι × Local :=
  match releasedStock now call stockItemId sh.stock with
  | .error _ => (unlock i sh, resume back)
  | .ok stock =>
    (unlock i ({ sh with stock := stock }.record stockItemId (.release now)), resume back)

/-- One reservation of the sweep, with Sales' answer about its contract. -/
def sweepNext (i : ι) (now : Time) (status : Option ContractStatus) (reservation : Reservation)
    (rest : List Reservation) (sh : Shared ι) : Option (Shared ι × Local) :=
  if isSigned status then some (sh, .sweeping rest)
  else if status = some .pending ∧ now - reservation.reservedAt < pendingMargin then
    some (sh, .sweeping rest)
  else openRelease i ⟨reservation.tenantId, reservation.reservationId,
    some (.reservationSweep reservation.reservationId)⟩ (some rest) sh

end

section

/-! ### On a copy -/

def openEdit (call : Edit) (sh : Shared ι) : Shared ι × Local :=
  match getStockItemOr404 sh.items call.tenantId call.stockItemId with
  | .error _ => (sh, .idle)
  | .ok item =>
    match checkVersion item.version call.ifMatch "StockItem" with
    | .error _ => (sh.answer call .versionConflict, .idle)
    | .ok _ => (sh, .editing call item item.options)

/-- The row and the option rows after the flush of a request. -/
def writeEdit (call : Edit) (base new : StockItem) (read : List StockItemOption)
    (stored : StockItem) : StockItem :=
  match call.request with
  | .options _ list =>
    { writeItem base new stored with options := writeOptions read list stored.options }
  | _ => writeItem base new stored

def commitEdit (now : Time) (call : Edit) (base : StockItem) (read : List StockItemOption)
    (sh : Shared ι) : Shared ι × Local :=
  match call.request.perform now call.actorId call.stockItemId base with
  | .error _ => (sh.answer call .refused, .idle)
  | .ok (new, purchased) =>
    ((((sh.withItems (sh.items.modify call.stockItemId (writeEdit call base new read))).record
      call.stockItemId (.edit now call)).answer call .committed).publishPurchased
        call.stockItemId purchased, .idle)

def itemInStockWithVin (items : Table Uuid StockItem) (tenantId : Uuid) (vin : String) :
    Option (Uuid × StockItem) :=
  items.search fun _ item => item.tenantId = tenantId ∧ item.vin = some vin ∧ item.leftStockAt = none

/-- The partial unique index on `(tenant_id, vin)` has another row of this key. -/
def vinTaken (items : Table Uuid StockItem) (stockItemId : Uuid) (row : StockItem) : Bool :=
  row.vin.isSome ∧ row.leftStockAt = none ∧
    (items.search fun x item => x ≠ stockItemId ∧ item.tenantId = row.tenantId ∧
      item.vin = row.vin ∧ item.leftStockAt = none).isSome

/-- `promote_to_vehicle_mdm` up to its checks of the copy. -/
def openPromotion (spelling : Spelling) (tenantId stockItemId : Uuid) (value : String)
    (sh : Shared ι) : Local :=
  match normalisedVin spelling value, getStockItemOr404 sh.items tenantId stockItemId with
  | .ok vin, .ok item =>
    -- already promoted: a retry
    if item.vehicleId.isSome ∧ item.vin = some vin then .idle
    else if item.lifecycleStatus ≠ .pipeline then .idle
    else .promoting stockItemId vin item
  | _, _ => .idle

/-- `_check_vin_not_in_stock`. -/
def lookForVin (tenantId : Uuid) (vin : String) (free : Local) (sh : Shared ι) : Local :=
  if (itemInStockWithVin sh.items tenantId vin).isSome then .idle else free

/-- `resolve_vehicle_mdm_by_vin`: the vehicle of the VIN, created if it is new, and
committed on a session of its own. -/
def resolveVehicle (newId : Uuid) (vin : String) (sh : Shared ι) : Shared ι × Uuid :=
  match sh.vehicles.lookup vin with
  | some vehicleId => (sh, vehicleId)
  | none => ({ sh with vehicles := sh.vehicles.insert vin newId }, newId)

/-- The rest of `promote_to_vehicle_mdm`: a unique violation undoes the savepoint and
is raised as a conflict. -/
def commitPromotion (now : Time) (stockItemId : Uuid) (vin : String) (base : StockItem)
    (vehicleId : Uuid) (sh : Shared ι) : Shared ι × Local :=
  let (new, purchased) := assignVin now vehicleId vin base
  if (sh.items.lookup stockItemId).any fun stored =>
      vinTaken sh.items stockItemId (writeItem base new stored) then (sh, .idle)
  else
    let assigned := (sh.withItems (sh.items.modify stockItemId (writeItem base new))).record
      stockItemId (.assignVin now vehicleId vin)
    (Shared.publishPurchased stockItemId purchased
      { assigned with published := .vinAssigned stockItemId vin vehicleId :: assigned.published },
      .idle)

/-- `create_stock_item` up to its first read. -/
def openCreation (spelling : Spelling) (data : StockItemCreate) (value : Option String) : Local :=
  match value with
  | none => .inserting data none
  | some value =>
    match normalisedVin spelling value with
    | .ok vin => .creating data vin
    | .error _ => .idle

/-- The row of `_build_and_flush_stock_item`. -/
def builtItem (now : Time) (stockNumber : String) (data : StockItemCreate)
    (vehicle : Option (Uuid × String)) : StockItem where
  tenantId := data.tenantId
  stockNumber := stockNumber
  vehicleLabel := data.vehicleLabel
  lifecycleStatus := if vehicle.isSome then .inStock else .pipeline
  condition := data.condition
  listPrice := data.listPrice
  effectivePrice := data.effectivePrice
  configurationId := data.configuration.map (·.1)
  configurationLabel := data.configuration.map (·.2)
  updatedAt := now
  vehicleId := vehicle.map (·.1)
  vin := vehicle.map (·.2)
  locationId := data.locationId
  odometerKm := data.odometerKm
  firstRegistrationDate := data.firstRegistrationDate
  inStockAt := if vehicle.isSome then some now else none
  createdBy := data.actorId
  updatedBy := data.actorId

/-- The `INSERT` and the commit of `create_stock_item`. -/
def commitCreation (now : Time) (newId : Uuid) (stockNumber : String) (data : StockItemCreate)
    (vehicle : Option (Uuid × String)) (sh : Shared ι) : Shared ι × Local :=
  let row := builtItem now stockNumber data vehicle
  if vinTaken sh.items newId row then (sh, .idle)
  else
    match insertRow sh.items newId row with
    | .error _ => (sh, .idle)
    | .ok items => (sh.withItems items, .idle)

/-- `apply_finance_invoice_issued` up to its checks of the copy. -/
def openSale (tenantId stockItemId : Uuid) (sh : Shared ι) : Local :=
  match getStockItemOr404 sh.items tenantId stockItemId with
  | .error _ => .idle
  | .ok item =>
    if item.leftStockAt.isSome then .idle
    else if item.lifecycleStatus ≠ .inStock ∨ item.isInvoiceable = false then .idle
    else .selling stockItemId item

/-- The rest of `apply_finance_invoice_issued`. -/
def commitSale (now : Time) (stockItemId : Uuid) (base : StockItem) (sh : Shared ι) :
    Shared ι × Local :=
  ((sh.withItems (sh.items.modify stockItemId (writeItem base (sellItem now base)))).record
    stockItemId (.sell now), .idle)

end

/-! ### The step function -/

variable [DecidableEq ι]

/-- An `UPDATE` waits for a row lock. -/
def whenUnlocked (stockItemId : Uuid) (sh : Shared ι) (result : Shared ι × Local) :
    Option (Shared ι × Local) :=
  if sh.itemLock stockItemId = none then some result else none

/-- What session `i` does next. -/
def step (spelling : Spelling) (i : ι) (choice : Choice) (sh : Shared ι) (lo : Local) :
    Option (Shared ι × Local) :=
  match lo, choice with
  | .idle, .reserve call => openReservation i call sh
  | .idle, .release call => openRelease i call none sh
  | .idle, .sweep => some (sh, .sweeping (listReservations sh.items))
  | .idle, .edit call => some (openEdit call sh)
  | .idle, .promote tenantId x value => some (sh, openPromotion spelling tenantId x value sh)
  | .idle, .create data value => some (sh, openCreation spelling data value)
  | .idle, .sell tenantId x => some (sh, openSale tenantId x sh)
  | .reserving call item, .readKey => some (readKey i call item sh)
  | .answering call item cached, .commit now newId _ =>
    some (commitReservation i now newId call item cached sh)
  | .releasing call x back, .commit now _ _ => some (commitRelease i now call x back sh)
  | .sweeping (reservation :: rest), .sweepNext now status =>
    sweepNext i now status reservation rest sh
  | .sweeping [], .sweepNext _ _ => some (sh, .idle)
  | .editing call base _, .readOptions =>
    some (sh, .editing call base (((sh.items.lookup call.stockItemId).map (·.options)).getD []))
  | .editing call base read, .commit now _ _ =>
    whenUnlocked call.stockItemId sh (commitEdit now call base read sh)
  | .promoting x vin base, .look =>
    some (sh, lookForVin base.tenantId vin (.resolving x vin base) sh)
  | .resolving x vin base, .resolve newId =>
    let (sh, vehicleId) := resolveVehicle newId vin sh
    some (sh, .assigning x vin base vehicleId)
  | .assigning x vin base vehicleId, .commit now _ _ =>
    whenUnlocked x sh (commitPromotion now x vin base vehicleId sh)
  | .creating data vin, .look => some (sh, lookForVin data.tenantId vin (.locating data vin) sh)
  | .locating data vin, .resolve newId =>
    let (sh, vehicleId) := resolveVehicle newId vin sh
    some (sh, .inserting data (some (vehicleId, vin)))
  | .inserting data vehicle, .commit now newId stockNumber =>
    some (commitCreation now newId stockNumber data vehicle sh)
  | .selling x base, .commit now _ _ => whenUnlocked x sh (commitSale now x base sh)
  | _, .fail => some (unlock i sh, .idle)
  | _, _ => none

def start (items : Table Uuid StockItem) : Config ι (Shared ι) Local :=
  ⟨{ stock := { items := items } }, fun _ => .idle⟩

end Nexotec.Stock
