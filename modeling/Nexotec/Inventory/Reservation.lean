/-
The reservation service of Stock (`app/inventory/services/reservation.py`)
and the idempotency records it keeps (`app/core/idempotency.py`).

Each call is one transaction of its own.  It takes the item's row lock
(`…ToLock`), decides on the row it read under the lock and commits
(`reserveLocked`, `releaseLocked`); `reserveForContract` and `release` are the
two halves one after the other.
-/
import Nexotec.Inventory.StockItem

namespace Nexotec

/-! ### Idempotency records -/

/-- The keys Sales and the sweep call Stock with. -/
inductive IdempotencyKey where
  | confirm (contractId : Uuid)
  | confirmCompensate (contractId reservationId : Uuid)
  | cancel (contractId : Uuid)
  | reservationSweep (reservationId : Uuid)
  deriving DecidableEq

def IdempotencyKey.text : IdempotencyKey → String
  | .confirm contractId => s!"sales.contract.confirm:{contractId}"
  | .confirmCompensate contractId reservationId =>
    s!"sales.contract.confirm-compensate:{contractId}:{reservationId}"
  | .cancel contractId => s!"sales.contract.cancel:{contractId}"
  | .reservationSweep reservationId => s!"inventory.reservation_sweep:{reservationId}"

/-- `inventory.reserve:<stock item>` or `inventory.release:<reservation>`. -/
inductive RequestPath where
  | reserve (stockItemId : Uuid)
  | release (reservationId : Uuid)
  deriving DecidableEq

/-- `IdempotencyRecord`.  The body is the contract of a reserve call and empty
for a release; the program stores its SHA-256. -/
structure IdempotencyRecord where
  requestPath : RequestPath
  requestBody : Option Uuid
  responseReservationId : Option Uuid := none
  responseStockItemId : Uuid

/-- The tables of Stock.  A record is stored under its key and tenant, a
recorded cancellation under its tenant and contract. -/
structure StockDb where
  items : Table Uuid StockItem := ∅
  records : Table (IdempotencyKey × Uuid) IdempotencyRecord := ∅
  cancelledContracts : List (Uuid × Uuid) := []

/-- `find_cached_response`: the key with another request is a 409. -/
def findCachedResponse (records : Table (IdempotencyKey × Uuid) IdempotencyRecord)
    (tenantId : Uuid) (key : IdempotencyKey) (path : RequestPath) (body : Option Uuid) :
    Result (Option IdempotencyRecord) :=
  match records.lookup (key, tenantId) with
  | none => .ok none
  | some existing =>
    if existing.requestPath ≠ path ∨ existing.requestBody ≠ body then
      .error (conflictError "Idempotency-Key was already used with a different request."
        [("idempotencyKey", key.text)])
    else .ok (some existing)

/-- `store_response`: write-once. -/
def storeResponse (records : Table (IdempotencyKey × Uuid) IdempotencyRecord) (tenantId : Uuid)
    (key : IdempotencyKey) (record : IdempotencyRecord) :
    Result (Table (IdempotencyKey × Uuid) IdempotencyRecord) :=
  if (records.lookup (key, tenantId)).isSome then .error (internalError "duplicate key")
  else .ok (records.insert (key, tenantId) record)

/-! ### Reserving -/

def reserveAndFlush (now : Time) (contractId reservationId : Uuid) (item : StockItem) : StockItem :=
  { item with
    reservationState := .reserved
    reservedByContractId := some contractId
    activeReservationId := some reservationId
    updatedAt := now
    version := item.version + 1 }

def releaseAndFlush (now : Time) (item : StockItem) : StockItem :=
  { item with
    reservationState := .none
    reservedByContractId := none
    activeReservationId := none
    updatedAt := now
    version := item.version + 1 }

def refuseIfLeftStock (stockItemId : Uuid) (item : StockItem) : Result Unit :=
  if item.leftStockAt.isSome then
    .error (conflictError s!"Stock item {item.stockNumber} has left stock — it cannot be reserved."
      [("reason", "vehicle_left_stock"), ("stockItemId", toString stockItemId)])
  else .ok ()

def alreadyReserved (stockItemId : Uuid) : AppError :=
  conflictError s!"Stock item {stockItemId} already carries an active reservation."
    [("stockItemId", toString stockItemId)]

/-- The `SELECT … FOR UPDATE` of `reserve_for_contract`. -/
def stockItemToLock (stock : StockDb) (tenantId stockItemId : Uuid) : Result StockItem :=
  getStockItemOr404 stock.items tenantId stockItemId

/-- The record `reserve_for_contract` stores when the key is new. -/
def storeReservation (stock : StockDb) (tenantId stockItemId contractId reservationId : Uuid)
    (key : IdempotencyKey) (cached : Option IdempotencyRecord) :
    Result (Table (IdempotencyKey × Uuid) IdempotencyRecord) :=
  match cached with
  | some _ => .ok stock.records
  | none => storeResponse stock.records tenantId key
      { requestPath := .reserve stockItemId
        requestBody := some contractId
        responseReservationId := some reservationId
        responseStockItemId := stockItemId }

/-- `reserve_for_contract` on the row it locked: the tables it commits and the
reservation it answers with. -/
def reserveLocked (now : Time) (newId : Uuid) (stock : StockDb)
    (tenantId stockItemId contractId : Uuid) (key : IdempotencyKey) (item : StockItem) :
    Result (StockDb × Uuid) := do
  let cached ← findCachedResponse stock.records tenantId key (.reserve stockItemId)
    (some contractId)
  -- the item answers a retry, not the stored response
  if item.reservationState = .reserved ∧ item.reservedByContractId = some contractId then
    match item.activeReservationId with
    | some reservationId => pure (stock, reservationId)
    | none => .error (internalError "badly formed hexadecimal UUID string")
  else do
    refuseIfLeftStock stockItemId item
    if item.reservationState = .reserved then .error (alreadyReserved stockItemId)
    else do
      let records ← storeReservation stock tenantId stockItemId contractId newId key cached
      pure ({ stock with
        items := stock.items.modify stockItemId (reserveAndFlush now contractId newId)
        records := records }, newId)

def reserveForContract (now : Time) (newId : Uuid) (stock : StockDb)
    (tenantId stockItemId contractId : Uuid) (key : IdempotencyKey) : Result (StockDb × Uuid) := do
  let item ← stockItemToLock stock tenantId stockItemId
  reserveLocked now newId stock tenantId stockItemId contractId key item

/-! ### Releasing -/

/-- The `SELECT … FOR UPDATE` of `_release`. -/
def findReservation (items : Table Uuid StockItem) (tenantId reservationId : Uuid) :
    Option (Uuid × StockItem) :=
  items.search fun _ item =>
    item.tenantId = tenantId ∧ item.activeReservationId = some reservationId

/-- The head of `_release`: `none` when a stored response answers, else the
item to lock. -/
def reservationToLock (stock : StockDb) (tenantId reservationId : Uuid) (key : IdempotencyKey) :
    Result (Option (Uuid × StockItem)) := do
  let cached ← findCachedResponse stock.records tenantId key (.release reservationId) none
  match cached with
  | some _ => pure none
  | none =>
    match findReservation stock.items tenantId reservationId with
    | some found => pure (some found)
    | none => .error (notFoundError s!"Reservation {reservationId} was not found.")

/-- `_release` on the row it locked. -/
def releaseLocked (now : Time) (stock : StockDb) (tenantId reservationId : Uuid)
    (key : IdempotencyKey) (stockItemId : Uuid) : Result StockDb := do
  let records ← storeResponse stock.records tenantId key
    { requestPath := .release reservationId, requestBody := none, responseStockItemId := stockItemId }
  pure { stock with
    items := stock.items.modify stockItemId (releaseAndFlush now)
    records := records }

def release (now : Time) (stock : StockDb) (tenantId reservationId : Uuid) (key : IdempotencyKey) :
    Result StockDb := do
  let found ← reservationToLock stock tenantId reservationId key
  match found with
  | none => pure stock
  | some (stockItemId, _) => releaseLocked now stock tenantId reservationId key stockItemId

/-! ### Recorded cancellations -/

def contractIsCancelled (stock : StockDb) (tenantId contractId : Uuid) : Bool :=
  (tenantId, contractId) ∈ stock.cancelledContracts

/-- The items `record_contract_cancelled` releases. -/
def heldBy (tenantId contractId : Uuid) (item : StockItem) : Bool :=
  item.tenantId = tenantId ∧ item.reservedByContractId = some contractId ∧
    item.reservationState = .reserved

def recordContractCancelled (now : Time) (stock : StockDb) (tenantId contractId : Uuid) : StockDb :=
  { stock with
    cancelledContracts :=
      if contractIsCancelled stock tenantId contractId then stock.cancelledContracts
      else (tenantId, contractId) :: stock.cancelledContracts
    items := stock.items.updateAll fun _ item =>
      if heldBy tenantId contractId item then releaseAndFlush now item else item }

/-! ### What the calls do -/

variable {records : Table (IdempotencyKey × Uuid) IdempotencyRecord} {tenantId : Uuid}
  {key : IdempotencyKey} {path : RequestPath} {body : Option Uuid}

theorem findCachedResponse_eq_ok {cached : Option IdempotencyRecord}
    (h : findCachedResponse records tenantId key path body = .ok cached) :
    records.lookup (key, tenantId) = cached ∧
      ∀ record ∈ cached, record.requestPath = path ∧ record.requestBody = body := by
  unfold findCachedResponse at h
  cases hrow : records.lookup (key, tenantId) with
  | none =>
    simp only [hrow, Except.ok.injEq] at h
    subst h
    exact ⟨rfl, nofun⟩
  | some existing =>
    simp only [hrow] at h
    split at h
    · cases h
    · next hsame =>
      cases h
      refine ⟨rfl, fun record hmem => ?_⟩
      obtain rfl : existing = record := Option.some.inj hmem
      simpa [not_or] using hsame

theorem storeResponse_eq_ok {records' : Table (IdempotencyKey × Uuid) IdempotencyRecord}
    {record : IdempotencyRecord} (h : storeResponse records tenantId key record = .ok records') :
    records.lookup (key, tenantId) = none ∧ records' = records.insert (key, tenantId) record := by
  unfold storeResponse at h
  split at h
  · cases h
  · next hnone =>
    cases h
    exact ⟨by simpa using hnone, rfl⟩

variable {stock : StockDb} {stockItemId : Uuid} {item : StockItem}

theorem stockItemToLock_eq_ok (h : stockItemToLock stock tenantId stockItemId = .ok item) :
    stock.items.lookup stockItemId = some item ∧ item.tenantId = tenantId := by
  rw [stockItemToLock, getStockItemOr404, orNotFound_eq_ok, Option.filter_eq_some_iff] at h
  exact ⟨h.1, by simpa using h.2⟩

variable {now : Time} {stock' : StockDb} {contractId reservationId newId : Uuid}

/-- What a successful reservation commits.  It answers with the live
reservation the contract has, and then changes nothing, or with a new one on
an item that carried none; the record under the key is the one that was there,
or, if there was none, one that names this item and contract. -/
theorem reserveLocked_eq_ok
    (h : reserveLocked now newId stock tenantId stockItemId contractId key item
      = .ok (stock', reservationId)) :
    (stock' = stock ∧ item.HeldFor contractId reservationId) ∨
    (item.reservationState ≠ .reserved ∧ item.leftStockAt = none ∧ reservationId = newId ∧
      ∃ records, stock' = { stock with
          items := stock.items.modify stockItemId (reserveAndFlush now contractId newId)
          records := records } ∧
        (records = stock.records ∨
          records = stock.records.insert (key, tenantId)
            { requestPath := .reserve stockItemId
              requestBody := some contractId
              responseReservationId := some newId
              responseStockItemId := stockItemId })) := by
  obtain ⟨cached, -, h⟩ := Result.of_bind h
  split at h
  · next hheld =>
    cases hactive : item.activeReservationId with
    | none => simp only [hactive] at h; cases h
    | some active =>
      simp only [hactive] at h
      cases h
      exact .inl ⟨rfl, hheld.1, hheld.2, hactive⟩
  · obtain ⟨u, hleft, h⟩ := Result.of_bind h
    split at h
    · cases h
    · next hfree =>
      obtain ⟨records, hrecords, h⟩ := Result.of_bind h
      cases h
      have hstays : item.leftStockAt = none := by
        unfold refuseIfLeftStock at hleft
        split at hleft
        · cases hleft
        · next hnone => simpa using hnone
      refine .inr ⟨hfree, hstays, rfl, records, rfl, ?_⟩
      cases cached with
      | some record =>
        cases hrecords
        exact .inl rfl
      | none => exact .inr (storeResponse_eq_ok hrecords).2

theorem findCachedResponse_of_fits (hfits : ∀ record ∈ records.lookup (key, tenantId),
      record.requestPath = path ∧ record.requestBody = body) :
    findCachedResponse records tenantId key path body = .ok (records.lookup (key, tenantId)) := by
  unfold findCachedResponse
  cases hrow : records.lookup (key, tenantId) with
  | none => rfl
  | some existing =>
    obtain ⟨hpath, hbody⟩ := hfits existing hrow
    simp [hpath, hbody]

/-- **When a free item can be reserved under a key.**  The key is new, or its
record is of the same item and contract. -/
theorem reserveForContract_free_iff (hrow : stock.items.lookup stockItemId = some item)
    (htenant : item.tenantId = tenantId) (hleft : item.leftStockAt = none)
    (hfree : item.reservationState ≠ .reserved) :
    (∃ stock' reservationId item',
      reserveForContract now newId stock tenantId stockItemId contractId key
        = .ok (stock', reservationId) ∧
      stock'.items.lookup stockItemId = some item' ∧ item'.HeldFor contractId reservationId) ↔
    ∀ record ∈ stock.records.lookup (key, tenantId),
      record.requestPath = .reserve stockItemId ∧ record.requestBody = some contractId := by
  have hlock : stockItemToLock stock tenantId stockItemId = .ok item := by
    rw [stockItemToLock, getStockItemOr404, orNotFound_eq_ok, Option.filter_eq_some_iff]
    exact ⟨hrow, by simpa using htenant⟩
  constructor
  · rintro ⟨stock', reservationId, item', hok, -, -⟩
    obtain ⟨locked, -, hok⟩ := Result.of_bind hok
    obtain ⟨cached, hcached, -⟩ := Result.of_bind hok
    obtain ⟨hlookup, hfits⟩ := findCachedResponse_eq_ok hcached
    rw [hlookup]
    exact hfits
  · intro hfits
    have hcached := findCachedResponse_of_fits hfits
    have hstays : refuseIfLeftStock stockItemId item = .ok () := by
      simp [refuseIfLeftStock, hleft]
    have hstored : ∃ records, storeReservation stock tenantId stockItemId contractId newId key
        (stock.records.lookup (key, tenantId)) = .ok records := by
      cases hrecord : stock.records.lookup (key, tenantId) with
      | none =>
        simp only [storeReservation, storeResponse, hrecord, Option.isSome_none,
          Bool.false_eq_true, if_false]
        exact ⟨_, rfl⟩
      | some record => exact ⟨_, rfl⟩
    obtain ⟨records, hrecords⟩ := hstored
    refine ⟨{ stock with
      items := stock.items.modify stockItemId (reserveAndFlush now contractId newId)
      records := records }, newId, reserveAndFlush now contractId newId item, ?_, ?_, rfl, rfl, rfl⟩
    · simp [reserveForContract, reserveLocked, hlock, hcached, hfree, hstays, hrecords, bind,
        Except.bind, pure, Except.pure]
    · simp [hrow]

theorem findReservation_eq_some {items : Table Uuid StockItem}
    (h : findReservation items tenantId reservationId = some (stockItemId, item)) :
    items.lookup stockItemId = some item ∧ item.tenantId = tenantId ∧
      item.activeReservationId = some reservationId := by
  obtain ⟨hrow, hp⟩ := Table.search_eq_some h
  have hp' : item.tenantId = tenantId ∧ item.activeReservationId = some reservationId := by
    simpa using hp
  exact ⟨hrow, hp'.1, hp'.2⟩

theorem reservationToLock_eq_ok
    (h : reservationToLock stock tenantId reservationId key = .ok (some (stockItemId, item))) :
    stock.items.lookup stockItemId = some item ∧ item.tenantId = tenantId ∧
      item.activeReservationId = some reservationId := by
  obtain ⟨cached, -, h⟩ := Result.of_bind h
  cases cached with
  | some record => cases h
  | none =>
    simp only at h
    cases hfound : findReservation stock.items tenantId reservationId with
    | none => simp only [hfound] at h; cases h
    | some found =>
      simp only [hfound] at h
      cases h
      exact findReservation_eq_some hfound

/-- A release frees exactly the item it locked. -/
theorem releaseLocked_eq_ok
    (h : releaseLocked now stock tenantId reservationId key stockItemId = .ok stock') :
    stock' = { stock with
      items := stock.items.modify stockItemId (releaseAndFlush now)
      records := stock.records.insert (key, tenantId)
        { requestPath := .release reservationId
          requestBody := none
          responseStockItemId := stockItemId } } := by
  obtain ⟨records, hrecords, h⟩ := Result.of_bind h
  cases h
  rw [(storeResponse_eq_ok hrecords).2]

theorem release_of_found (hnew : stock.records.lookup (key, tenantId) = none)
    (hfound : findReservation stock.items tenantId reservationId = some (stockItemId, item)) :
    release now stock tenantId reservationId key = .ok { stock with
      items := stock.items.modify stockItemId (releaseAndFlush now)
      records := stock.records.insert (key, tenantId)
        { requestPath := .release reservationId
          requestBody := none
          responseStockItemId := stockItemId } } := by
  simp [release, reservationToLock, findCachedResponse, releaseLocked, storeResponse, hnew, hfound,
    bind, Except.bind, pure, Except.pure]

theorem release_eq_ok (h : release now stock tenantId reservationId key = .ok stock') :
    stock' = stock ∨
    (stock.records.lookup (key, tenantId) = none ∧
      ∃ stockItemId item,
        findReservation stock.items tenantId reservationId = some (stockItemId, item) ∧
        stock' = { stock with
          items := stock.items.modify stockItemId (releaseAndFlush now)
          records := stock.records.insert (key, tenantId)
            { requestPath := .release reservationId
              requestBody := none
              responseStockItemId := stockItemId } }) := by
  obtain ⟨found, hfound, h⟩ := Result.of_bind h
  obtain ⟨cached, hcached, hfound⟩ := Result.of_bind hfound
  cases cached with
  | some record =>
    cases hfound
    cases h
    exact .inl rfl
  | none =>
    simp only at hfound
    cases hsearch : findReservation stock.items tenantId reservationId with
    | none =>
      rw [hsearch] at hfound
      cases hfound
    | some p =>
      rw [hsearch] at hfound
      cases hfound
      exact .inr ⟨(findCachedResponse_eq_ok hcached).1, p.1, p.2, rfl, releaseLocked_eq_ok h⟩

/-- A consumed cancellation frees what the contract holds and nothing else. -/
theorem recordContractCancelled_lookup (now : Time) (stock : StockDb)
    (tenantId contractId stockItemId : Uuid) :
    (recordContractCancelled now stock tenantId contractId).items.lookup stockItemId =
      (stock.items.lookup stockItemId).map fun item =>
        if heldBy tenantId contractId item then releaseAndFlush now item else item :=
  Table.lookup_updateAll _ _ _

theorem heldBy_iff : heldBy tenantId contractId item = true ↔ item.tenantId = tenantId ∧
      item.reservedByContractId = some contractId ∧ item.reservationState = .reserved := by
  simp [heldBy]

end Nexotec
