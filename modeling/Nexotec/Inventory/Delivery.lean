/-
Deliveries of a contract's events to Stock's two consumers, by any number of
workers at once (`consume_once` of `app/core/consumer.py` around
`handle_sales_contract_confirmed` and `record_contract_cancelled`).

A worker takes a message through the statements of its handler one at a time
and commits what it has written together with the message's processed row.
Until then others see nothing of it: reads are of the committed tables, rows
to insert are staged with the worker.  Shared are the committed tables, the
advisory lock of each contract and the row locks of stock items.

  begun → ordering → inserting → trading → finishing → (consumed)
  finishing → recovering → trading or finishing         (a unique violation)
  begun → cancelling → releasing → (consumed)

A worker may break anywhere and lose its transaction.  Besides, staff may
release an item by hand and other contracts may reserve it.
-/
import Nexotec.Inventory.Pipeline
import Nexotec.Lib.Interleaving

namespace Nexotec.Delivery

open Interleaving

/-- The two events of a contract. -/
inductive Message where
  | confirmed (contractId : Uuid)
  | cancelled (contractId : Uuid)
  deriving DecidableEq

def Message.contractId : Message → Uuid
  | .confirmed contractId | .cancelled contractId => contractId

/-- What every confirmation of a contract says, with the tenant of its events. -/
structure Order where
  tenantId : Uuid
  manualConfiguration : Option ManualConfiguration := none
  tradeIn : Option TradeInPayload := none

/-- The messages by id, and the contracts by theirs.  A duplicate emission is
the same message under another id. -/
structure Events where
  message : Uuid → Message
  order : Uuid → Order

structure Shared (ι : Type) where
  stock : StockDb := {}
  /-- The processed rows of the two consumers, by message. -/
  processed : List Uuid := []
  contractLock : Uuid → Option ι := fun _ => none
  itemLock : Uuid → Option ι := fun _ => none
  /-- The items that were ever released by hand. -/
  releasedByHand : List Uuid := []

abbrev NewItem := Uuid × StockItem

/-- Where a worker is, with what its transaction has read and staged. -/
inductive Local where
  | idle
  | begun (id : Uuid)
  /-- The confirmation has its contract's lock. -/
  | ordering (id : Uuid)
  /-- There is no manual item yet. -/
  | inserting (id : Uuid)
  /-- The manual half is done; `ordered` is the row it created. -/
  | trading (id : Uuid) (ordered : Option NewItem)
  /-- All is staged: the rows of the two halves and the item the valuation goes to. -/
  | finishing (id : Uuid) (ordered tradedIn : Option NewItem) (valued : Option (Uuid × Uuid × Decimal))
  /-- Rolled back by the unique index of the given half. -/
  | recovering (id : Uuid) (role : PipelineRole)
  | cancelling (id : Uuid)
  /-- The items it has selected and locked. -/
  | releasing (id : Uuid) (items : List Uuid)

inductive Choice where
  | begin (id : Uuid)
  | lock
  | look
  | insert (reads : ConsumerReads)
  | tradeIn (reads : ConsumerReads)
  | reread (reads : ConsumerReads)
  | select
  | commit (now : Time)
  | fail
  | releaseByHand (now : Time) (stockItemId : Uuid)
  | reserveForOther (now : Time) (stockItemId contractId reservationId : Uuid)

variable {ι : Type} (ev : Events)

def contractOf (id : Uuid) : Uuid := (ev.message id).contractId

def orderOf (id : Uuid) : Order := ev.order (contractOf ev id)

/-- Everything of worker `i`'s transaction is gone. -/
def unlock [DecidableEq ι] (i : ι) (sh : Shared ι) : Shared ι :=
  { sh with
    contractLock := fun c => if sh.contractLock c = some i then none else sh.contractLock c
    itemLock := fun x => if sh.itemLock x = some i then none else sh.itemLock x }

/-! ### The confirmation -/

/-- `consume_once` reads the processed row; `lock_contract` follows where the
handler takes the lock. -/
def takeLock (i : ι) (id : Uuid) (sh : Shared ι) : Option (Shared ι × Local) :=
  let c := contractOf ev id
  let locked := { sh with contractLock := Function.update sh.contractLock c (some i) }
  match ev.message id with
  | .confirmed _ =>
    -- a trade-in alone is created without the contract's lock
    if (orderOf ev id).manualConfiguration.isSome then
      if sh.contractLock c = none then some (locked, .ordering id) else none
    else some (sh, .trading id none)
  | .cancelled _ => if sh.contractLock c = none then some (locked, .cancelling id) else none

/-- The manual half up to its `SELECT`; the condition is read before it. -/
def lookForOrdered (id : Uuid) (sh : Shared ι) : Result Local :=
  match (orderOf ev id).manualConfiguration with
  | none => .error (internalError "no manual configuration")
  | some manual => do
    let _ ← stockItemCondition manual.condition
    match findPipelineItem sh.stock.items (orderOf ev id).tenantId ⟨contractOf ev id, .manual⟩ with
    | some _ => pure (.trading id none)
    | none => pure (.inserting id)

/-- The rest of it: the row it creates is reserved unless the contract is
known as cancelled. -/
def orderedRow (reads : ConsumerReads) (id : Uuid) (sh : Shared ι) : Result NewItem :=
  let order := orderOf ev id
  let c := contractOf ev id
  match order.manualConfiguration with
  | none => .error (internalError "no manual configuration")
  | some manual => do
    let condition ← stockItemCondition manual.condition
    let item ← buildPipelineItem reads order.tenantId 0 manual.vehicleLabel condition ⟨c, .manual⟩
      manual.configurationId
    pure (reads.uuid 0,
      if contractIsCancelled sh.stock order.tenantId c then item
      else reserveAndFlush reads.now c (reads.uuid 1) item)

def valuationRef (reads : ConsumerReads) (order : Order) (tradeIn : TradeInPayload)
    (stockItemId : Uuid) : Result (Option (Uuid × Uuid × Decimal)) :=
  match tradeIn.valuationId with
  | none => .ok none
  | some valuationId => do
    let valuation ← getValuationOr404 reads.valuations order.tenantId valuationId
    pure (some (stockItemId, valuationId, valuation.finalOffer))

def tradeInFound (reads : ConsumerReads) (id : Uuid) (ordered : Option NewItem)
    (tradeIn : TradeInPayload) (existing : Uuid) : Result Local := do
  let valued ← valuationRef reads (orderOf ev id) tradeIn existing
  pure (.finishing id ordered none valued)

def tradeInHalf (reads : ConsumerReads) (id : Uuid) (ordered : Option NewItem) (sh : Shared ι) :
    Result Local :=
  let order := orderOf ev id
  let ref : PipelineRef := ⟨contractOf ev id, .tradeIn⟩
  match order.tradeIn with
  | none => .ok (.finishing id ordered none none)
  | some tradeIn => do
    let condition ← stockItemCondition (some tradeIn.condition)
    match findPipelineItem sh.stock.items order.tenantId ref with
    | some (existing, _) => tradeInFound ev reads id ordered tradeIn existing
    | none => do
      let item ← buildPipelineItem reads order.tenantId 2 tradeIn.vehicleLabel condition ref
        tradeIn.configurationId
      let valued ← valuationRef reads order tradeIn (reads.uuid 2)
      pure (.finishing id ordered (some (reads.uuid 2, item)) valued)

/-- The unique index on `(tenant_id, pipeline_ref)` has the row's key. -/
def taken (items : Table Uuid StockItem) (row : Option NewItem) : Bool :=
  row.any fun new => new.2.pipelineRef.any fun ref =>
    (findPipelineItem items new.2.tenantId ref).isSome

def insertNew (items : Table Uuid StockItem) (row : Option NewItem) :
    Result (Table Uuid StockItem) :=
  match row with
  | none => .ok items
  | some new => insertRow items new.1 new.2

def setValuation (valued : Option (Uuid × Uuid × Decimal)) (items : Table Uuid StockItem) :
    Table Uuid StockItem :=
  match valued with
  | none => items
  | some (stockItemId, valuationId, amount) =>
    items.modify stockItemId (applyValuationRef valuationId amount)

variable [DecidableEq ι]

/-- The staged rows meet the unique indexes in the order they were flushed,
then the processed row its primary key. -/
def commitConfirmed (i : ι) (id : Uuid) (ordered tradedIn : Option NewItem)
    (valued : Option (Uuid × Uuid × Decimal)) (sh : Shared ι) : Shared ι × Local :=
  -- `except IntegrityError: db.rollback()` gives up the contract's lock too
  if taken sh.stock.items ordered then (unlock i sh, .recovering id .manual)
  else if taken sh.stock.items tradedIn then (unlock i sh, .recovering id .tradeIn)
  -- the same message was consumed by another worker meanwhile
  else if id ∈ sh.processed then (unlock i sh, .idle)
  else
    match insertNew sh.stock.items ordered >>= fun items => insertNew items tradedIn with
    | .error _ => (unlock i sh, .idle)
    | .ok items =>
      (unlock i { sh with
        stock := { sh.stock with items := setValuation valued items }
        processed := id :: sh.processed }, .idle)

/-- After the rollback the item is read again; if it is still not there the
error was another one. -/
def recover (i : ι) (reads : ConsumerReads) (id : Uuid) (role : PipelineRole) (sh : Shared ι) :
    Shared ι × Local :=
  match findPipelineItem sh.stock.items (orderOf ev id).tenantId ⟨contractOf ev id, role⟩, role with
  | none, _ => (unlock i sh, .idle)
  -- an item this call did not create is left as it is
  | some _, .manual => (sh, .trading id none)
  | some (existing, _), .tradeIn =>
    match (orderOf ev id).tradeIn with
    | none => (unlock i sh, .idle)
    | some tradeIn =>
      match tradeInFound ev reads id none tradeIn existing with
      | .ok lo => (sh, lo)
      | .error _ => (unlock i sh, .idle)

/-! ### The cancellation -/

def heldItems (items : Table Uuid StockItem) (tenantId contractId : Uuid) : List Uuid :=
  (items.entries.filter fun e => heldBy tenantId contractId e.2).map fun e => e.1

/-- The `SELECT … FOR UPDATE` of `record_contract_cancelled`. -/
def selectHeld (i : ι) (id : Uuid) (sh : Shared ι) : Option (Shared ι × Local) :=
  let rows := heldItems sh.stock.items (orderOf ev id).tenantId (contractOf ev id)
  if rows.all fun x => (sh.itemLock x).isNone then
    some ({ sh with itemLock := fun x => if x ∈ rows then some i else sh.itemLock x },
      .releasing id rows)
  else none

def releaseItems (now : Time) (rows : List Uuid) (items : Table Uuid StockItem) :
    Table Uuid StockItem :=
  items.updateAll fun x item => if x ∈ rows then releaseAndFlush now item else item

/-- Under the lock: the cancellation is recorded, the selected items released. -/
def cancelStock (now : Time) (id : Uuid) (rows : List Uuid) (stock : StockDb) : StockDb :=
  let tenantId := (orderOf ev id).tenantId
  let c := contractOf ev id
  { stock with
    items := releaseItems now rows stock.items
    cancelledContracts :=
      if contractIsCancelled stock tenantId c then stock.cancelledContracts
      else (tenantId, c) :: stock.cancelledContracts }

def commitCancelled (i : ι) (now : Time) (id : Uuid) (rows : List Uuid) (sh : Shared ι) :
    Shared ι × Local :=
  if id ∈ sh.processed then (unlock i sh, .idle)
  else
    (unlock i { sh with
      stock := cancelStock ev now id rows sh.stock
      processed := id :: sh.processed }, .idle)

/-! ### Staff and other contracts -/

/-- An explicit release of a reserved item, on a row nobody has locked. -/
def releaseByHand (now : Time) (x : Uuid) (sh : Shared ι) : Option (Shared ι) :=
  if (sh.itemLock x).isNone ∧ ((sh.stock.items.lookup x).any fun item =>
      item.reservationState = .reserved) then
    some { sh with
      stock := { sh.stock with items := sh.stock.items.modify x (releaseAndFlush now) }
      releasedByHand := x :: sh.releasedByHand }
  else none

/-- A free item is reserved for a contract it was not ordered by. -/
def reserveForOther (now : Time) (x c r : Uuid) (sh : Shared ι) : Option (Shared ι) :=
  if (sh.itemLock x).isNone ∧ ((sh.stock.items.lookup x).any fun item =>
      item.reservationState ≠ .reserved ∧ item.pipelineRef ≠ some ⟨c, .manual⟩) then
    some { sh with
      stock := { sh.stock with items := sh.stock.items.modify x (reserveAndFlush now c r) } }
  else none

/-! ### The step function -/

def orRaise (i : ι) (sh : Shared ι) (lo : Result Local) : Shared ι × Local :=
  match lo with
  | .ok lo => (sh, lo)
  | .error _ => (unlock i sh, .idle)

/-- What worker `i` does next. -/
def step (i : ι) (choice : Choice) (sh : Shared ι) (lo : Local) : Option (Shared ι × Local) :=
  match lo, choice with
  | .idle, .begin id => if id ∈ sh.processed then none else some (sh, .begun id)
  | .idle, .releaseByHand now x => (releaseByHand now x sh).map (·, .idle)
  | .idle, .reserveForOther now x c r => (reserveForOther now x c r sh).map (·, .idle)
  | .begun id, .lock => takeLock ev i id sh
  | .ordering id, .look => some (orRaise i sh (lookForOrdered ev id sh))
  | .inserting id, .insert reads =>
    some (orRaise i sh ((orderedRow ev reads id sh).map fun row => .trading id (some row)))
  | .trading id ordered, .tradeIn reads => some (orRaise i sh (tradeInHalf ev reads id ordered sh))
  | .finishing id ordered tradedIn valued, .commit _ =>
    some (commitConfirmed i id ordered tradedIn valued sh)
  | .recovering id role, .reread reads => some (recover ev i reads id role sh)
  | .cancelling id, .select => selectHeld ev i id sh
  | .releasing id rows, .commit now => some (commitCancelled ev i now id rows sh)
  | _, .fail => some (unlock i sh, .idle)
  | _, _ => none

/-- Stock before the first of these events: no item was made for a contract. -/
structure PlainStock where
  items : Table Uuid StockItem
  plain : ∀ x item, items.lookup x = some item → item.pipelineRef = none

def start (stock : PlainStock) : Config ι (Shared ι) Local :=
  ⟨{ stock := { items := stock.items } }, fun _ => .idle⟩

end Nexotec.Delivery
