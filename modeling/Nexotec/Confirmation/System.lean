/-
Confirmation, compensation and cancellation of contracts as one system of
interleaved sessions (`confirm_contract`, `_compensate_confirmation`,
`cancel_contract` of `app/sales/services/contract.py` with the calls they make
into Stock and into the valuation context).

Shared are the committed tables of Sales and Stock, the row locks of contracts
and stock items, and the outbox.  A session goes through the separately
committed transactions of the code one at a time:

  loaded → guarded → consumed → reserving → reserved → (signed)
  compensating → undoing → undoReleasing → undoing → (done)
  loaded → cancelling → cancelReleasing → cancelReleased → (cancelled)

A commit may take effect, fail, or take effect while its caller is told that
it failed (`Outcome`), and a session may die at any point.  Besides, any
session may serve one of the requests of `Nexotec.Sales.DealRuns` on a
contract nobody has locked, and deliver an event of the outbox to Stock, as
often as it likes.
-/
import Nexotec.Inventory.Pipeline
import Nexotec.Lib.Interleaving
import Nexotec.Sales.DealRuns

namespace Nexotec.Confirmation

open Interleaving

/-! ### State -/

/-- The two events of a contract, with the tenant of their envelope. -/
inductive Event where
  | confirmed (tenantId : Uuid) (payload : ConfirmedPayload)
  | cancelled (tenantId contractId : Uuid)
  deriving DecidableEq

structure Shared (ι : Type) where
  sales : SalesDb := {}
  stock : StockDb := {}
  contractLock : Uuid → Option ι := fun _ => none
  itemLock : Uuid → Option ι := fun _ => none
  /-- The next id `uuid7()` gives to a reservation or a pipeline item. -/
  nextId : Uuid := 0
  outbox : List Event := []

/-- A contract as a session read it under its row lock, and the session's reads. -/
structure Job where
  contractId : Uuid
  contract : SalesContract
  reads : Reads

/-- `_ConfirmationIds` with what there is to undo. -/
structure Undo where
  tenantId : Uuid
  contractId : Uuid
  valuationId : Option Uuid
  reservationId : Option Uuid
  valuationNewlyUsed : Bool

/-- Where a session is. -/
inductive Local where
  | idle
  | loaded (contractId : Uuid) (contract : SalesContract)
  | guarded (job : Job)
  | consumed (job : Job) (newlyUsed : Bool)
  | reserving (job : Job) (newlyUsed : Bool) (stockItemId : Uuid) (item : StockItem)
  | reserved (job : Job) (newlyUsed : Bool) (reservationId : Option Uuid)
  | compensating (undo : Undo)
  | undoing (undo : Undo)
  | undoReleasing (undo : Undo) (reservationId stockItemId : Uuid) (item : StockItem)
  | cancelling (job : Job) (reason : String)
  | cancelReleasing (job : Job) (reason : String) (reservationId stockItemId : Uuid)
      (item : StockItem)
  | cancelReleased (job : Job) (reason : String)

/-- How a commit ends for the session that makes it; `lost` took effect, but
the session is told that it failed. -/
inductive Outcome where
  | committed
  | failed
  | lost
  deriving DecidableEq

inductive Choice where
  | request (reads : Reads) (request : Request)
  | deliver (reads : ConsumerReads) (event : Event)
  | load (tenantId contractId : Uuid) (ifMatch : ℕ)
  | confirm (reads : Reads)
  | consume (outcome : Outcome)
  | lockItem
  | reserve (outcome : Outcome)
  | sign (outcome : Outcome)
  | lockContract
  | lockReservation
  | release (now : Time) (outcome : Outcome)
  | revertUse (outcome : Outcome)
  | cancel (reads : Reads) (reason : String)
  | commitCancel (outcome : Outcome)
  | fail

/-! ### Locks -/

def Local.lockedContract : Local → Option Uuid
  | .idle | .compensating _ => none
  | .loaded contractId _ => some contractId
  | .guarded job | .consumed job _ | .reserving job _ _ _ | .reserved job _ _
  | .cancelling job _ | .cancelReleasing job _ _ _ _ | .cancelReleased job _ => some job.contractId
  | .undoing undo | .undoReleasing undo _ _ _ => some undo.contractId

def Local.lockedItem : Local → Option Uuid
  | .reserving _ _ stockItemId _ | .undoReleasing _ _ stockItemId _
  | .cancelReleasing _ _ _ stockItemId _ => some stockItemId
  | _ => none

variable {ι : Type}

def lockContract (i : ι) (contractId : Uuid) (sh : Shared ι) : Shared ι :=
  { sh with contractLock := Function.update sh.contractLock contractId (some i) }

def lockItem (i : ι) (stockItemId : Uuid) (sh : Shared ι) : Shared ι :=
  { sh with itemLock := Function.update sh.itemLock stockItemId (some i) }

def unlockContract (contractId : Option Uuid) (sh : Shared ι) : Shared ι :=
  match contractId with
  | some contractId =>
    { sh with contractLock := Function.update sh.contractLock contractId none }
  | none => sh

def unlockItem (stockItemId : Option Uuid) (sh : Shared ι) : Shared ι :=
  match stockItemId with
  | some stockItemId => { sh with itemLock := Function.update sh.itemLock stockItemId none }
  | none => sh

def close (lo : Local) (sh : Shared ι) : Shared ι :=
  unlockContract lo.lockedContract (unlockItem lo.lockedItem sh)

/-! ### The transactions -/

def lockedBy : Request → Option Uuid
  | .updateContract _ contractId _ _ | .editContract _ contractId _ _ => some contractId
  | _ => none

/-- One request, start to end, on a contract nobody has locked. -/
def serve (reads : Reads) (request : Request) (sh : Shared ι) : Option (Shared ι) :=
  if (lockedBy request).all fun contractId => (sh.contractLock contractId).isNone then
    match handle reads sh.sales request with
    | .ok sales => some { sh with sales := sales }
    | .error _ => none
  else none

/-- Stock consumes an event of the outbox; a cancellation waits for the rows
it is about to release. -/
def consumeEvent (reads : ConsumerReads) (event : Event) (sh : Shared ι) : Option (Shared ι) :=
  if event ∈ sh.outbox then
    match event with
    | .confirmed tenantId payload =>
      match handleSalesContractConfirmed
          { reads with uuid := fun k => sh.nextId + k, valuations := sh.sales.valuations }
          sh.stock tenantId payload with
      | .ok stock => some { sh with stock := stock, nextId := sh.nextId + 3 }
      | .error _ => none
    | .cancelled tenantId contractId =>
      if sh.stock.items.entries.all fun e =>
          !heldBy tenantId contractId e.2 || (sh.itemLock e.1).isNone then
        some { sh with stock := recordContractCancelled reads.now sh.stock tenantId contractId }
      else none
  else none

/-- `get_contract_or_404(for_update=True)` and `check_version` of the route. -/
def load (i : ι) (tenantId contractId : Uuid) (ifMatch : ℕ) (sh : Shared ι) :
    Option (Shared ι × Local) :=
  if sh.contractLock contractId = none then
    match (do
      let contract ← getContractOr404 sh.sales.contracts tenantId contractId
      checkVersion contract.version ifMatch "SalesContract"
      pure contract : Result SalesContract) with
    | .ok contract => some (lockContract i contractId sh, .loaded contractId contract)
    | .error _ => none
  else none

def undoOf (job : Job) (reservationId : Option Uuid) (newlyUsed : Bool) : Undo where
  tenantId := job.contract.tenantId
  contractId := job.contractId
  valuationId := job.contract.tradeInValuationId
  reservationId := reservationId
  valuationNewlyUsed := newlyUsed

/-- `consume_valuation_for_contract`, on a session of its own; an exception of
it leaves nothing to compensate. -/
def consume (outcome : Outcome) (job : Job) (sh : Shared ι) : Shared ι × Local :=
  match job.contract.tradeInValuationId with
  | none => (sh, .consumed job false)
  | some valuationId =>
    match consumeForContract sh.sales.valuations job.contract.tenantId valuationId job.reads.now with
    | .error _ => (close (.guarded job) sh, .idle)
    | .ok (valuations, newlyUsed) =>
      -- a lost answer leaves the stamp: nothing before the reservation is compensated
      let sh' := { sh with sales := { sh.sales with valuations := valuations } }
      match outcome with
      | .committed => (sh', .consumed job newlyUsed)
      | .failed => (close (.guarded job) sh, .idle)
      | .lost => (close (.guarded job) sh', .idle)

/-- The head of `reserve_for_contract`, or nothing for a car Stock does not hold. -/
def reserveHead (i : ι) (job : Job) (newlyUsed : Bool) (sh : Shared ι) : Option (Shared ι × Local) :=
  match stockItemToReserve job.contract.toDeal with
  | none => some (sh, .reserved job newlyUsed none)
  | some stockItemId =>
    if sh.itemLock stockItemId = none then
      match stockItemToLock sh.stock job.contract.tenantId stockItemId with
      | .ok item => some (lockItem i stockItemId sh, .reserving job newlyUsed stockItemId item)
      | .error _ =>
        -- `except: db.rollback()` comes first, so the row lock is gone before the compensation
        some (close (.consumed job newlyUsed) sh, .compensating (undoOf job none newlyUsed))
    else none

/-- The rest of `reserve_for_contract`; a refusal ends both transactions
before the compensation starts. -/
def reserveTail (outcome : Outcome) (job : Job) (newlyUsed : Bool) (stockItemId : Uuid)
    (item : StockItem) (sh : Shared ι) : Shared ι × Local :=
  let lo := Local.reserving job newlyUsed stockItemId item
  match reserveLocked job.reads.now sh.nextId sh.stock job.contract.tenantId stockItemId
      job.contractId (.confirm job.contractId) item with
  | .error _ => (close lo sh, .compensating (undoOf job none newlyUsed))
  | .ok (stock, reservationId) =>
    let sh' := { sh with stock := stock, nextId := sh.nextId + 1 }
    match outcome with
    | .committed =>
      (unlockItem (some stockItemId) sh', .reserved job newlyUsed (some reservationId))
    | .failed => (close lo sh, .compensating (undoOf job none newlyUsed))
    -- the car is reserved, but its reservation id never came back
    | .lost => (close lo sh', .compensating (undoOf job none newlyUsed))

def sign (outcome : Outcome) (job : Job) (newlyUsed : Bool) (reservationId : Option Uuid)
    (sh : Shared ι) : Shared ι × Local :=
  let lo := Local.reserved job newlyUsed reservationId
  let row := confirmedRow job.reads reservationId job.contract
  let sh' := { sh with
    sales := { sh.sales with contracts := sh.sales.contracts.insert job.contractId row }
    outbox := sh.outbox ++
      [.confirmed row.tenantId (confirmedEventPayload job.contractId row.toDeal)] }
  match outcome with
  | .committed => (close lo sh', .idle)
  | .failed => (close lo sh, .compensating (undoOf job reservationId newlyUsed))
  -- committed all the same: the guard of the compensation will find it signed
  | .lost => (close lo sh', .compensating (undoOf job reservationId newlyUsed))

/-- `signed_at` of the contract, read with its row lock. -/
def signedAt (undo : Undo) (sh : Shared ι) : Option Time :=
  ((sh.sales.contracts.lookup undo.contractId).filter (·.tenantId = undo.tenantId)).bind (·.signedAt)

/-- The guard of `_compensate_confirmation`. -/
def undoHead (i : ι) (undo : Undo) (sh : Shared ι) : Option (Shared ι × Local) :=
  if sh.contractLock undo.contractId = none then
    -- signed by now, by this call or by another: nothing may be undone
    if (signedAt undo sh).isSome then some (sh, .idle)
    else some (lockContract i undo.contractId sh, .undoing undo)
  else none

/-- The head of the compensating release; whatever it raises is only logged. -/
def undoReleaseHead (i : ι) (undo : Undo) (sh : Shared ι) : Option (Shared ι × Local) :=
  match undo.reservationId with
  | none => none
  | some reservationId =>
    match reservationToLock sh.stock undo.tenantId reservationId
        (.confirmCompensate undo.contractId reservationId) with
    | .ok (some (stockItemId, item)) =>
      if sh.itemLock stockItemId = none then
        some (lockItem i stockItemId sh, .undoReleasing undo reservationId stockItemId item)
      else none
    | .ok none => some (sh, .undoing { undo with reservationId := none })
    | .error _ => some (sh, .undoing { undo with reservationId := none })

def undoReleaseTail (now : Time) (outcome : Outcome) (undo : Undo) (reservationId stockItemId : Uuid)
    (sh : Shared ι) : Shared ι × Local :=
  let after := Local.undoing { undo with reservationId := none }
  match releaseLocked now sh.stock undo.tenantId reservationId
      (.confirmCompensate undo.contractId reservationId) stockItemId with
  | .error _ => (unlockItem (some stockItemId) sh, after)
  | .ok stock =>
    match outcome with
    | .committed | .lost => (unlockItem (some stockItemId) { sh with stock := stock }, after)
    | .failed => (unlockItem (some stockItemId) sh, after)

def signedElsewhere (undo : Undo) (valuationId : Uuid) (sh : Shared ι) : Bool :=
  (sh.sales.contracts.search fun id contract =>
    contract.tenantId = undo.tenantId ∧ contract.tradeInValuationId = some valuationId ∧
      id ≠ undo.contractId ∧ contract.signedAt.isSome).isSome

def revertedValuations (undo : Undo) (sh : Shared ι) : Table Uuid Valuation :=
  match undo.valuationId with
  | some valuationId =>
    if undo.valuationNewlyUsed ∧ signedElsewhere undo valuationId sh = false then
      revertUse sh.sales.valuations valuationId
    else sh.sales.valuations
  | none => sh.sales.valuations

/-- The last action of the compensation, once the release was attempted. -/
def undoRevert (outcome : Outcome) (undo : Undo) (sh : Shared ι) : Option (Shared ι × Local) :=
  match undo.reservationId with
  | some _ => none
  | none =>
    let sh' := { sh with sales := { sh.sales with valuations := revertedValuations undo sh } }
    match outcome with
    | .committed | .lost => some (close (.undoing undo) sh', .idle)
    | .failed => some (close (.undoing undo) sh, .idle)

/-- The release of `cancel_contract` up to its row lock; a reservation that is
not there is no obstacle. -/
def cancelReleaseHead (i : ι) (job : Job) (reason : String) (sh : Shared ι) :
    Option (Shared ι × Local) :=
  -- a pending contract holds nothing
  let signed := if job.contract.status = .confirmed then job.contract.reservationId else none
  match signed with
  | none => some (sh, .cancelReleased job reason)
  | some reservationId =>
    match reservationToLock sh.stock job.contract.tenantId reservationId
        (.cancel job.contractId) with
    | .ok (some (stockItemId, item)) =>
      if sh.itemLock stockItemId = none then
        some (lockItem i stockItemId sh, .cancelReleasing job reason reservationId stockItemId item)
      else none
    | .ok none => some (sh, .cancelReleased job reason)
    | .error e =>
      if e.code = .notFound then some (sh, .cancelReleased job reason)
      else some (close (.cancelling job reason) sh, .idle)

def cancelReleaseTail (now : Time) (outcome : Outcome) (job : Job) (reason : String)
    (reservationId stockItemId : Uuid) (item : StockItem) (sh : Shared ι) : Shared ι × Local :=
  let lo := Local.cancelReleasing job reason reservationId stockItemId item
  match releaseLocked now sh.stock job.contract.tenantId reservationId (.cancel job.contractId)
      stockItemId with
  | .error _ => (close lo sh, .idle)
  | .ok stock =>
    let sh' := { sh with stock := stock }
    match outcome with
    | .committed => (unlockItem (some stockItemId) sh', .cancelReleased job reason)
    | .failed => (close lo sh, .idle)
    | .lost => (close lo sh', .idle)

def commitCancel (outcome : Outcome) (job : Job) (reason : String) (sh : Shared ι) :
    Shared ι × Local :=
  let lo := Local.cancelReleased job reason
  let row := cancelledRow job.reads reason job.contract
  let sh' := { sh with
    sales := { sh.sales with contracts := sh.sales.contracts.insert job.contractId row }
    outbox := sh.outbox ++ [.cancelled row.tenantId job.contractId] }
  match outcome with
  | .committed | .lost => (close lo sh', .idle)
  | .failed => (close lo sh, .idle)

/-! ### The step function -/

/-- What session `i` does next. -/
def step (i : ι) (choice : Choice) (sh : Shared ι) (lo : Local) : Option (Shared ι × Local) :=
  match lo, choice with
  | .idle, .request reads request => (serve reads request sh).map (·, .idle)
  | .idle, .deliver reads event => (consumeEvent reads event sh).map (·, .idle)
  | .idle, .load tenantId contractId ifMatch => load i tenantId contractId ifMatch sh
  | .loaded contractId contract, .confirm reads =>
    match requireConfirmable reads contract with
    | .ok _ => some (sh, .guarded ⟨contractId, contract, reads⟩)
    | .error _ => some (close lo sh, .idle)
  | .guarded job, .consume outcome => some (consume outcome job sh)
  | .consumed job newlyUsed, .lockItem => reserveHead i job newlyUsed sh
  | .reserving job newlyUsed stockItemId item, .reserve outcome =>
    some (reserveTail outcome job newlyUsed stockItemId item sh)
  | .reserved job newlyUsed reservationId, .sign outcome =>
    some (sign outcome job newlyUsed reservationId sh)
  | .compensating undo, .lockContract => undoHead i undo sh
  | .undoing undo, .lockReservation => undoReleaseHead i undo sh
  | .undoReleasing undo reservationId stockItemId _, .release now outcome =>
    some (undoReleaseTail now outcome undo reservationId stockItemId sh)
  | .undoing undo, .revertUse outcome => undoRevert outcome undo sh
  | .loaded contractId contract, .cancel reads reason =>
    match requireCancellable contract with
    | .ok _ => some (sh, .cancelling ⟨contractId, contract, reads⟩ reason)
    | .error _ => some (close lo sh, .idle)
  | .cancelling job reason, .lockReservation => cancelReleaseHead i job reason sh
  | .cancelReleasing job reason reservationId stockItemId item, .release now outcome =>
    some (cancelReleaseTail now outcome job reason reservationId stockItemId item sh)
  | .cancelReleased job reason, .commitCancel outcome => some (commitCancel outcome job reason sh)
  | _, .fail => some (close lo sh, .idle)
  | _, _ => none

/-- Stock before the first contract: no item carries a reservation. -/
structure FreeStock where
  items : Table Uuid StockItem
  free : ∀ x item, items.lookup x = some item → item.reservation = (.none, none, none)

def FreeStock.empty : FreeStock := ⟨∅, fun _ _ h => nomatch h⟩

def FreeStock.add (stock : FreeStock) (x : Uuid) (item : StockItem)
    (hfree : item.reservation = (.none, none, none)) : FreeStock where
  items := stock.items.insert x item
  free := Table.forall_insert hfree stock.free

def start (stock : FreeStock) (valuations : Table Uuid Valuation) (nextId : Uuid) :
    Config ι (Shared ι) Local :=
  ⟨{ sales := noDeals valuations, stock := { items := stock.items }, nextId := nextId },
    fun _ => .idle⟩

/-! ### A small dealership

Two cars, a desk that knows its customers, and what a session does to sell a
car; the concrete runs of the following files are made of these. -/

def golf : StockItem := { tenantId := 1, stockNumber := "S-1", effectivePrice := some 100 }

def showroom : FreeStock := (FreeStock.empty.add 3 golf rfl).add 4 golf rfl

def desk : Reads := { customer := fun _ _ => some {}, stockItems := showroom.items }

def opens (c x : Uuid) : List (ℕ × Choice) :=
  [(0, .request { desk with uuid := fun k => c + k }
      (.createContract 1 (.stockItem x (some "Golf")))),
    (0, .request desk
      (.updateContract 1 c 2 ⟨{ customerId := some (some 7) }, by decide +kernel⟩))]

def reserves (i : ℕ) (c : Uuid) (ifMatch : ℕ) : List (ℕ × Choice) :=
  [(i, .load 1 c ifMatch), (i, .confirm desk), (i, .consume .committed), (i, .lockItem),
    (i, .reserve .committed)]

def confirms (i : ℕ) (c : Uuid) (ifMatch : ℕ) : List (ℕ × Choice) :=
  reserves i c ifMatch ++ [(i, .sign .committed)]

def saleRun : List (ℕ × Choice) := opens 0 3 ++ confirms 0 0 3

end Nexotec.Confirmation
