/-
The stamp of a trade-in valuation (`used_at`): the confirmations of any number of contracts
that carry it, their compensations and «Als verwendet markieren», as interleaved sessions
(`mark_used`, `consume_for_contract`, `mark_used_by_hand`, `revert_use` of
`app/valuation/services/valuation.py`; `confirm_contract`, `_compensate_confirmation`,
`_run_compensating_actions` of `app/sales/services/contract.py`).

A confirmation keeps the row lock of its contract to its end, and the one that sets a stamp
the row lock of the valuation to its commit.  A compensation works under the row lock of its
contract; its look at the other contracts and its read of the valuation take no lock, and its
UPDATE waits for whoever has locked the valuation.

  guarded → (stamping →) consumed → (signed)
  compensating → undoing → reverting → clearing → (reverted)
  marking → repairing → (stamped)

What Stock answers to the reservation is a choice of the environment.
-/
import Nexotec.Confirmation.System

namespace Nexotec.UsedStamp

open Interleaving Run
open Confirmation (Job Undo Outcome undoOf)

/-- `valuation.used` and `valuation.valuation.use_reverted`. -/
inductive UseEvent where
  | used
  | useReverted

structure Shared (ι : Type) where
  contracts : Table Uuid SalesContract
  valuations : Table Uuid Valuation
  contractLock : Uuid → Option ι := fun _ => none
  valuationLock : Uuid → Option ι := fun _ => none
  /-- The outbox, with the valuation of each event. -/
  events : List (Uuid × UseEvent) := []

/-- Where a session is. -/
inductive Local where
  | idle
  | guarded (job : Job)
  | stamping (job : Job) (valuationId : Uuid)
  | consumed (job : Job) (newlyUsed : Bool)
  | compensating (undo : Undo)
  | undoing (undo : Undo)
  | reverting (undo : Undo) (valuationId : Uuid)
  | clearing (undo : Undo) (valuationId : Uuid)
  | marking (tenantId valuationId : Uuid)
  | repairing (valuationId : Uuid)

inductive Choice where
  | confirm (tenantId contractId : Uuid) (ifMatch : ℕ) (reads : Reads)
  | consume (now : Time)
  | commitUsed (now : Time) (outcome : Outcome)
  | refuseReservation
  | sign (reservationId : Option Uuid) (outcome : Outcome)
  | lockContract
  | checkElsewhere
  | readValuation
  | commitRevert (outcome : Outcome)
  | markByHand (tenantId valuationId : Uuid)
  | checkCarried
  | fail

/-! ### Reads and writes -/

def isUsed (valuations : Table Uuid Valuation) (valuationId : Uuid) : Bool :=
  (valuations.lookup valuationId).any (·.usedAt.isSome)

/-- What `mark_used` writes. -/
def markUsed (now : Time) (valuations : Table Uuid Valuation) (valuationId : Uuid) :
    Table Uuid Valuation :=
  Table.modify valuationId (fun v => { v with usedAt := some now }) valuations

/-- `signed_at` of the contract a compensation is about. -/
def signedAt (contracts : Table Uuid SalesContract) (undo : Undo) : Option Time :=
  ((contracts.lookup undo.contractId).filter (·.tenantId = undo.tenantId)).bind (·.signedAt)

/-- `signed_elsewhere`: another signed contract carries the valuation. -/
def signedElsewhere (contracts : Table Uuid SalesContract) (undo : Undo) (valuationId : Uuid) :
    Bool :=
  (contracts.search fun id contract =>
    contract.tenantId = undo.tenantId ∧ contract.tradeInValuationId = some valuationId ∧
      id ≠ undo.contractId ∧ contract.signedAt.isSome).isSome

def valuationsCarriedBySignedContracts (contracts : Table Uuid SalesContract) (tenantId : Uuid)
    (valuationIds : List Uuid) : List Uuid :=
  valuationIds.filter fun valuationId =>
    (contracts.search fun _ contract =>
      contract.tenantId = tenantId ∧ contract.tradeInValuationId = some valuationId ∧
        contract.signedAt.isSome).isSome

variable {ι : Type} [DecidableEq ι]

/-- The end of a session's transactions, in one lock table. -/
def free (i : ι) (lock : Uuid → Option ι) : Uuid → Option ι :=
  fun id => if lock id = some i then none else lock id

def close (i : ι) (sh : Shared ι) : Shared ι :=
  { sh with contractLock := free i sh.contractLock, valuationLock := free i sh.valuationLock }

def lockContract (i : ι) (contractId : Uuid) (sh : Shared ι) : Shared ι :=
  { sh with contractLock := Function.update sh.contractLock contractId (some i) }

def lockValuation (i : ι) (valuationId : Uuid) (sh : Shared ι) : Shared ι :=
  { sh with valuationLock := Function.update sh.valuationLock valuationId (some i) }

def stamp (now : Time) (valuationId : Uuid) (sh : Shared ι) : Shared ι :=
  { sh with
    valuations := markUsed now sh.valuations valuationId
    events := sh.events ++ [(valuationId, .used)] }

def unstamp (valuationId : Uuid) (sh : Shared ι) : Shared ι :=
  { sh with
    valuations := revertUse sh.valuations valuationId
    events := sh.events ++ [(valuationId, .useReverted)] }

def signRow (reservationId : Option Uuid) (job : Job) (sh : Shared ι) : Shared ι :=
  { sh with
    contracts :=
      sh.contracts.insert job.contractId (confirmedRow job.reads reservationId job.contract) }

/-! ### The transactions -/

/-- The route's `FOR UPDATE` and everything `confirm_contract` checks on the row. -/
def beginConfirm (i : ι) (tenantId contractId : Uuid) (ifMatch : ℕ) (reads : Reads)
    (sh : Shared ι) : Option (Shared ι × Local) :=
  if sh.contractLock contractId = none then
    match (do
      let contract ← getContractOr404 sh.contracts tenantId contractId
      checkVersion contract.version ifMatch "SalesContract"
      requireConfirmable reads contract
      pure contract : Result SalesContract) with
    | .ok contract => some (lockContract i contractId sh, .guarded ⟨contractId, contract, reads⟩)
    | .error _ => none
  else none

/-- `consume_for_contract` up to the commit of `mark_used`; the row lock of a valuation that
is used already goes with the short-lived session. -/
def consume (i : ι) (now : Time) (job : Job) (sh : Shared ι) : Option (Shared ι × Local) :=
  match job.contract.tradeInValuationId with
  | none => some (sh, .consumed job false)
  | some valuationId =>
    if sh.valuationLock valuationId = none then
      match consumeForContract sh.valuations job.contract.tenantId valuationId now with
      | .error _ => some (close i sh, .idle)
      | .ok (_, false) => some (sh, .consumed job false)
      | .ok (_, true) => some (lockValuation i valuationId sh, .stamping job valuationId)
    else none

/-- The commit of `mark_used` in a confirmation; an exception here is not compensated. -/
def commitConsume (i : ι) (now : Time) (outcome : Outcome) (job : Job) (valuationId : Uuid)
    (sh : Shared ι) : Shared ι × Local :=
  match outcome with
  | .committed =>
    ({ stamp now valuationId sh with valuationLock := free i sh.valuationLock },
      .consumed job true)
  | .failed => (close i sh, .idle)
  | .lost => (close i (stamp now valuationId sh), .idle)

def sign (i : ι) (reservationId : Option Uuid) (outcome : Outcome) (job : Job) (newlyUsed : Bool)
    (sh : Shared ι) : Shared ι × Local :=
  match outcome with
  | .committed => (close i (signRow reservationId job sh), .idle)
  | .failed => (close i sh, .compensating (undoOf job reservationId newlyUsed))
  | .lost =>
    (close i (signRow reservationId job sh), .compensating (undoOf job reservationId newlyUsed))

/-- The guard of `_compensate_confirmation`. -/
def beginCompensation (i : ι) (undo : Undo) (sh : Shared ι) : Option (Shared ι × Local) :=
  if sh.contractLock undo.contractId = none then
    if (signedAt sh.contracts undo).isSome then some (sh, .idle)
    else some (lockContract i undo.contractId sh, .undoing undo)
  else none

/-- The read of `_run_compensating_actions`; the release before it touches Stock only. -/
def checkElsewhere (i : ι) (undo : Undo) (sh : Shared ι) : Shared ι × Local :=
  match undo.valuationId with
  | some valuationId =>
    if undo.valuationNewlyUsed = true ∧ signedElsewhere sh.contracts undo valuationId = false then
      (sh, .reverting undo valuationId)
    else (close i sh, .idle)
  | none => (close i sh, .idle)

/-- `revert_use` up to its commit: the row is read without a lock. -/
def readValuation (i : ι) (undo : Undo) (valuationId : Uuid) (sh : Shared ι) : Shared ι × Local :=
  match getValuationOr404 sh.valuations undo.tenantId valuationId with
  | .ok valuation =>
    if valuation.usedAt = none then (close i sh, .idle) else (sh, .clearing undo valuationId)
  -- logged, never raised
  | .error _ => (close i sh, .idle)

/-- The UPDATE and the commit of `revert_use`. -/
def commitRevert (i : ι) (outcome : Outcome) (valuationId : Uuid) (sh : Shared ι) :
    Option (Shared ι × Local) :=
  if sh.valuationLock valuationId = none then
    match outcome with
    | .committed | .lost => some (close i (unstamp valuationId sh), .idle)
    | .failed => some (close i sh, .idle)
  else none

/-- `mark_used_by_hand` up to its check of the contracts; a used valuation is left as it is. -/
def markByHand (i : ι) (tenantId valuationId : Uuid) (sh : Shared ι) :
    Option (Shared ι × Local) :=
  if sh.valuationLock valuationId = none then
    match getValuationOr404 sh.valuations tenantId valuationId with
    | .ok valuation =>
      if valuation.usedAt = none then
        some (lockValuation i valuationId sh, .marking tenantId valuationId)
      else none
    | .error _ => none
  else none

/-- `no_signed_contract`, or on to `mark_used`. -/
def checkCarried (i : ι) (tenantId valuationId : Uuid) (sh : Shared ι) : Shared ι × Local :=
  if valuationId ∈ valuationsCarriedBySignedContracts sh.contracts tenantId [valuationId] then
    (sh, .repairing valuationId)
  else (close i sh, .idle)

/-- The commit of `mark_used` by hand. -/
def commitByHand (i : ι) (now : Time) (outcome : Outcome) (valuationId : Uuid) (sh : Shared ι) :
    Shared ι × Local :=
  match outcome with
  | .committed | .lost => (close i (stamp now valuationId sh), .idle)
  | .failed => (close i sh, .idle)

/-- What session `i` does next. -/
def step (i : ι) (choice : Choice) (sh : Shared ι) (lo : Local) : Option (Shared ι × Local) :=
  match lo, choice with
  | .idle, .confirm tenantId contractId ifMatch reads =>
    beginConfirm i tenantId contractId ifMatch reads sh
  | .guarded job, .consume now => consume i now job sh
  | .stamping job valuationId, .commitUsed now outcome =>
    some (commitConsume i now outcome job valuationId sh)
  | .consumed job newlyUsed, .refuseReservation =>
    -- `except: db.rollback()` before the compensation
    some (close i sh, .compensating (undoOf job none newlyUsed))
  | .consumed job newlyUsed, .sign reservationId outcome =>
    some (sign i reservationId outcome job newlyUsed sh)
  | .compensating undo, .lockContract => beginCompensation i undo sh
  | .undoing undo, .checkElsewhere => some (checkElsewhere i undo sh)
  | .reverting undo valuationId, .readValuation => some (readValuation i undo valuationId sh)
  | .clearing _ valuationId, .commitRevert outcome => commitRevert i outcome valuationId sh
  | .idle, .markByHand tenantId valuationId => markByHand i tenantId valuationId sh
  | .marking tenantId valuationId, .checkCarried => some (checkCarried i tenantId valuationId sh)
  | .repairing valuationId, .commitUsed now outcome =>
    some (commitByHand i now outcome valuationId sh)
  | _, .fail => some (close i sh, .idle)
  | _, _ => none

/-- The contracts and valuations of a dealership before anything is signed. -/
structure Desk where
  contracts : Table Uuid SalesContract
  valuations : Table Uuid Valuation
  unsigned : ∀ id contract, contracts.lookup id = some contract → contract.signedAt = none
  unused : ∀ id valuation, valuations.lookup id = some valuation → valuation.usedAt = none

def start (desk : Desk) : Config ι (Shared ι) Local :=
  ⟨{ contracts := desk.contracts, valuations := desk.valuations }, fun _ => .idle⟩

/-! ### What is claimed of a state and of a run -/

def SignedUsed (sh : Shared ι) : Prop :=
  ∀ id contract, sh.contracts.lookup id = some contract → contract.signedAt ≠ none →
    ∀ valuationId, contract.tradeInValuationId = some valuationId →
      isUsed sh.valuations valuationId = true

/-- The events of one valuation, in the order of their commits. -/
def useEvents (valuationId : Uuid) (events : List (Uuid × UseEvent)) : List UseEvent :=
  (events.filter (·.1 = valuationId)).map (·.2)

/-- No event twice in a row, and the first is `used`. -/
def Alternates (events : List UseEvent) : Prop :=
  events.IsChain (· ≠ ·) ∧ ∀ event ∈ events.head?, event = .used

/-- A confirmation that found the valuation used does not commit its signature once that
stamp is taken back; a compensation does not take the stamp back once another contract that
carries the valuation was signed after it looked. -/
def Timely (cfg : Config ι (Shared ι) Local) : ι × Choice → Prop
  | (i, .sign _ outcome) => ∀ job, cfg.locals i = .consumed job false → outcome ≠ .failed →
      ∀ valuationId, job.contract.tradeInValuationId = some valuationId →
        isUsed cfg.shared.valuations valuationId = true
  | (i, .commitRevert outcome) => ∀ undo valuationId, cfg.locals i = .clearing undo valuationId →
      outcome ≠ .failed → cfg.shared.valuationLock valuationId = none →
        signedElsewhere cfg.shared.contracts undo valuationId = false
  | _ => True

end Nexotec.UsedStamp
