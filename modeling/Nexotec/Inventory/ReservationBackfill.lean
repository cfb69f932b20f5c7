/-
The backfill of manual configurations' reservations
(`app/inventory/services/reservation_backfill.py`).

Phase 1 reads Stock's manual items and Sales' published confirmations and cancellations; phase 2
is one transaction for each contract, committed or rolled back.

* `readPhase`, `backfillCancelled`, `backfillLive`, `backfill` — the code;
* `lookup_readItems`, `lookup_readConfirmations`, `lookup_readCancellations` — which row of a
  contract counts: the last item, the last confirmation, the earliest cancellation with a tenant.
-/
import Mathlib.Data.List.Dedup
import Mathlib.Data.List.Sort
import Nexotec.Inventory.Reservation
import Nexotec.Lib.KeyedPass

namespace Nexotec.Backfill

/-! ### The tables -/

/-- The events that are read or published, with their payloads. -/
inductive Event where
  | contractConfirmed
  | contractCancelled (contractNumber : String)
  | stockItemReserved (reservationId contractId : Uuid)
  | stockItemReleased (reservationId : Option Uuid)
  deriving DecidableEq

structure OutboxMessage where
  event : Event
  tenantId : Option Uuid
  aggregateId : Uuid
  occurredAt : Time

/-- `InventoryCancelledContract`, under its tenant and contract. -/
structure CancelledContract where
  contractLabel : String
  contractDenormRefreshedAt : Time
  cancelledAt : Time

structure BackfillDb where
  items : Table Uuid StockItem := ∅
  cancelledContracts : Table (Uuid × Uuid) CancelledContract := ∅
  outbox : List OutboxMessage := []

/-- The time of a transaction and the reservation id drawn in it. -/
structure Draw where
  now : Time
  reservationId : Uuid

/-! ### The report -/

inductive BackfillOutcome where
  | reserved
  | alreadyReserved
  | cancellationRecorded
  | cancellationAlreadyRecorded
  | heldByOtherContract
  | cancellationRecordedWithoutEvent
  | noConfirmationEvent
  | tenantMismatch
  | cancellationWithoutTenant
  | releasedBefore
  deriving DecidableEq

def BackfillOutcome.writes (outcome : BackfillOutcome) : Prop :=
  outcome = .reserved ∨ outcome = .cancellationRecorded

structure BackfillLine where
  contractId : Uuid
  tenantId : Option Uuid
  contractLabel : Option String
  stockItemId : Option Uuid
  outcome : BackfillOutcome
  detail : String := ""
  deriving DecidableEq

structure BackfillReport where
  committed : Bool
  lines : List BackfillLine

structure Cancellation where
  tenantId : Option Uuid
  contractLabel : String
  cancelledAt : Time

structure ManualItem where
  stockItemId : Uuid
  tenantId : Uuid
  deriving DecidableEq

/-- `str(…)` of an optional id. -/
def idText : Option Uuid → String
  | none => "None"
  | some x => toString x

/-! ### Phase 1 -/

def contractIdFromRef : Option PipelineRef → Option Uuid
  | some ⟨contractId, .manual⟩ => some contractId
  | _ => none

def manualEntry (e : Σ _ : Uuid, StockItem) : Option (Uuid × ManualItem) :=
  (contractIdFromRef e.2.pipelineRef).map fun contractId => (contractId, ⟨e.1, e.2.tenantId⟩)

/-- What a run gets from elsewhere: times and ids, and an order of the rows of each query of
phase 1, that of equal times included. -/
structure RunReads where
  draw : Uuid → Draw
  items : List (Uuid × ManualItem) → List (Uuid × ManualItem) := id
  confirmations : List OutboxMessage → List OutboxMessage := id
  cancellations : List OutboxMessage → List OutboxMessage := id
  items_perm : ∀ rows, (items rows).Perm rows := by exact .refl
  confirmations_perm : ∀ rows, (confirmations rows).Perm rows := by exact .refl
  cancellations_perm : ∀ rows, (cancellations rows).Perm rows := by exact .refl

def readItems (reads : RunReads) (items : Table Uuid StockItem) : Table Uuid ManualItem :=
  Table.insertAll (reads.items (items.entries.filterMap manualEntry)) ∅

def OutboxMessage.isConfirmation (message : OutboxMessage) : Bool :=
  message.event = .contractConfirmed

def OutboxMessage.isCancellation (message : OutboxMessage) : Bool :=
  match message.event with
  | .contractCancelled _ => true
  | _ => false

def readConfirmations (reads : RunReads) (outbox : List OutboxMessage) : Table Uuid (Option Uuid) :=
  Table.insertAll ((reads.confirmations (outbox.filter (·.isConfirmation))).map fun message =>
    (message.aggregateId, message.tenantId)) ∅

def OutboxMessage.cancellation (message : OutboxMessage) : Cancellation where
  tenantId := message.tenantId
  contractLabel := match message.event with
    | .contractCancelled contractNumber => contractNumber
    | _ => ""
  cancelledAt := message.occurredAt

/-- The loop's body: an earlier event stands, unless it has no tenant and this one has. -/
def noteCancellation (read : Table Uuid Cancellation) (message : OutboxMessage) :
    Table Uuid Cancellation :=
  match read.lookup message.aggregateId with
  | some known =>
    if known.tenantId.isSome ∨ message.tenantId.isNone then read
    else read.insert message.aggregateId message.cancellation
  | none => read.insert message.aggregateId message.cancellation

def cancellationsInOrder (reads : RunReads) (outbox : List OutboxMessage) : List OutboxMessage :=
  (reads.cancellations (outbox.filter (·.isCancellation))).insertionSort
    fun m m' => m.occurredAt ≤ m'.occurredAt

def readCancellations (reads : RunReads) (outbox : List OutboxMessage) : Table Uuid Cancellation :=
  (cancellationsInOrder reads outbox).foldl noteCancellation ∅

structure History where
  items : Table Uuid ManualItem
  confirmations : Table Uuid (Option Uuid)
  cancellations : Table Uuid Cancellation

def readPhase (reads : RunReads) (db : BackfillDb) : History where
  items := readItems reads db.items
  confirmations := readConfirmations reads db.outbox
  cancellations := readCancellations reads db.outbox

/-- `sorted(set(items) | set(cancellations))`. -/
def History.contracts (history : History) : List Uuid :=
  (history.items.keys ++ history.cancellations.keys).dedup.insertionSort (· ≤ ·)

/-! ### Phase 2 -/

def contractIsCancelled (db : BackfillDb) (tenantId contractId : Uuid) : Bool :=
  (db.cancelledContracts.lookup (tenantId, contractId)).isSome

def heldItems (db : BackfillDb) (tenantId contractId : Uuid) : List Uuid :=
  db.items.selectKeys fun _ item => heldBy tenantId contractId item

/-- What `release_and_flush` publishes. -/
def releasedEvent (now : Time) (stockItemId : Uuid) (item : StockItem) : OutboxMessage where
  event := .stockItemReleased item.activeReservationId
  tenantId := some item.tenantId
  aggregateId := stockItemId
  occurredAt := now

def recordContractCancelled (now : Time) (db : BackfillDb) (tenantId contractId : Uuid)
    (contractLabel : String) (cancelledAt : Time) : BackfillDb where
  cancelledContracts :=
    if contractIsCancelled db tenantId contractId then db.cancelledContracts
    else db.cancelledContracts.insert (tenantId, contractId)
      ⟨contractLabel, cancelledAt, cancelledAt⟩
  items := db.items.updateAll fun _ item =>
    if heldBy tenantId contractId item then releaseAndFlush now item else item
  outbox := db.outbox ++ (db.items.entries.filter fun e => heldBy tenantId contractId e.2).map
    fun e => releasedEvent now e.1 e.2

/-- The tables of Stock that its reservation service has. -/
def BackfillDb.stock (db : BackfillDb) : StockDb where
  items := db.items
  cancelledContracts := db.cancelledContracts.keys

theorem contractIsCancelled_stock (db : BackfillDb) (tenantId contractId : Uuid) :
    Nexotec.contractIsCancelled db.stock tenantId contractId =
      contractIsCancelled db tenantId contractId := by
  rw [Bool.eq_iff_iff, Nexotec.contractIsCancelled, contractIsCancelled, decide_eq_true_eq,
    AList.lookup_isSome, AList.mem_keys]
  rfl

/-- The cancellation that is recorded is the service's own. -/
theorem recordContractCancelled_stock (now : Time) (db : BackfillDb) (tenantId contractId : Uuid)
    (contractLabel : String) (cancelledAt : Time) :
    (recordContractCancelled now db tenantId contractId contractLabel cancelledAt).stock =
      Nexotec.recordContractCancelled now db.stock tenantId contractId := by
  have hcancelled : (recordContractCancelled now db tenantId contractId contractLabel
        cancelledAt).cancelledContracts.keys =
      if contractIsCancelled db tenantId contractId then db.cancelledContracts.keys
      else (tenantId, contractId) :: db.cancelledContracts.keys := by
    rw [recordContractCancelled]
    dsimp only
    split
    · rfl
    · next hnew =>
      have hnotMem : (tenantId, contractId) ∉ db.cancelledContracts.keys := by
        rw [← AList.mem_keys, ← AList.lookup_isSome]
        exact hnew
      rw [AList.keys_insert]
      exact congrArg _ (@List.erase_of_not_mem _ instBEqOfDecidableEq _ _ _ hnotMem)
  rw [BackfillDb.stock, hcancelled, Nexotec.recordContractCancelled, contractIsCancelled_stock]
  rfl

/-- `reserve_and_flush`, with the event it publishes. -/
def reserveItem (draw : Draw) (db : BackfillDb) (stockItemId tenantId contractId : Uuid) :
    BackfillDb :=
  { db with
    items := db.items.modify stockItemId (reserveAndFlush draw.now contractId draw.reservationId)
    outbox := db.outbox ++ [{
      event := .stockItemReserved draw.reservationId contractId
      tenantId := some tenantId
      aggregateId := stockItemId
      occurredAt := draw.now }] }

/-- An `inventory.stock_item.released` was published for the item. -/
def releasedBefore (db : BackfillDb) (stockItemId : Uuid) : Bool :=
  db.outbox.any fun message => message.aggregateId = stockItemId &&
    match message.event with
    | .stockItemReleased _ => true
    | _ => false

/-- A line of `_backfill_cancelled`. -/
def cancelledLine (contractId : Uuid) (cancellation : Cancellation) (item : Option ManualItem)
    (outcome : BackfillOutcome) (detail : String) : BackfillLine where
  contractId := contractId
  tenantId := cancellation.tenantId
  contractLabel := some cancellation.contractLabel
  stockItemId := item.map (·.stockItemId)
  outcome := outcome
  detail := detail

def releasedText (held : ℕ) : String :=
  if held = 0 then "" else s!"released {held} item(s)"

def backfillCancelled (now : Time) (db : BackfillDb) (contractId : Uuid) (cancellation : Cancellation)
    (item : Option ManualItem) : BackfillLine × BackfillDb :=
  let line := cancelledLine contractId cancellation item
  match cancellation.tenantId with
  | none => (line .cancellationWithoutTenant "", db)
  | some tenantId =>
    match item.filter fun item => item.tenantId ≠ tenantId with
    | some other => (line .tenantMismatch s!"item tenant {other.tenantId}", db)
    | none =>
      if contractIsCancelled db tenantId contractId then (line .cancellationAlreadyRecorded "", db)
      else
        let held := (heldItems db tenantId contractId).length
        (line .cancellationRecorded (releasedText held),
          recordContractCancelled now db tenantId contractId cancellation.contractLabel
            cancellation.cancelledAt)

/-- A line of `_backfill_live`. -/
def liveLine (contractId : Uuid) (item : ManualItem) (outcome : BackfillOutcome) (detail : String) :
    BackfillLine where
  contractId := contractId
  tenantId := some item.tenantId
  contractLabel := none
  stockItemId := some item.stockItemId
  outcome := outcome
  detail := detail

def backfillLive (draw : Draw) (db : BackfillDb) (contractId : Uuid) (item : ManualItem)
    (confirmedTenantId : Option Uuid) (confirmed : Bool) : Result (BackfillLine × BackfillDb) :=
  let line := liveLine contractId item
  if !confirmed then .ok (line .noConfirmationEvent "", db)
  else if confirmedTenantId ≠ some item.tenantId then
    .ok (line .tenantMismatch s!"confirmation tenant {idText confirmedTenantId}", db)
  else if contractIsCancelled db item.tenantId contractId then
    .ok (line .cancellationRecordedWithoutEvent "", db)
  else
    match (db.items.lookup item.stockItemId).filter (·.tenantId = item.tenantId) with
    | none => .error (internalError "AssertionError")
    | some stockItem =>
      if stockItem.reservationState = .reserved then
        if stockItem.reservedByContractId = some contractId then .ok (line .alreadyReserved "", db)
        else .ok (line .heldByOtherContract
          s!"reserved by contract {idText stockItem.reservedByContractId}", db)
      else if releasedBefore db item.stockItemId then .ok (line .releasedBefore "", db)
      else .ok (line .reserved "", reserveItem draw db item.stockItemId item.tenantId contractId)

def backfillContract (history : History) (draw : Draw) (db : BackfillDb) (contractId : Uuid) :
    Result (BackfillLine × BackfillDb) :=
  match history.cancellations.lookup contractId with
  | some cancellation =>
    .ok (backfillCancelled draw.now db contractId cancellation (history.items.lookup contractId))
  | none =>
    match history.items.lookup contractId with
    | some item => backfillLive draw db contractId item (history.confirmations.lookup contractId).join
        (history.confirmations.lookup contractId).isSome
    | none => .error (internalError s!"KeyError: {contractId}")

/-- `backfill_manual_configuration_reservations`. -/
def backfill (commit : Bool) (reads : RunReads) (db : BackfillDb) :
    Result (BackfillReport × BackfillDb) := do
  let history := readPhase reads db
  let (lines, db) ← KeyedPass.passOver
    (fun contractId db => backfillContract history (reads.draw contractId) db contractId) commit
    history.contracts db
  pure (⟨commit, lines⟩, db)

/-! ### Which row of a contract counts -/

/-- The manual item of a contract that phase 1 reads last. -/
def lastManualItem (reads : RunReads) (db : BackfillDb) (contractId : Uuid) : Option ManualItem :=
  (((reads.items (db.items.entries.filterMap manualEntry)).filter
    fun e => e.1 = contractId).getLast?).map (·.2)

/-- The tenant, or its absence, of the confirmation that phase 1 reads last. -/
def lastConfirmation (reads : RunReads) (db : BackfillDb) (contractId : Uuid) : Option (Option Uuid) :=
  (((reads.confirmations (db.outbox.filter (·.isConfirmation))).filter
    (·.aggregateId = contractId)).getLast?).map (·.tenantId)

/-- The published cancellations of a contract, the earliest first. -/
def cancellationsOf (reads : RunReads) (db : BackfillDb) (contractId : Uuid) : List OutboxMessage :=
  (cancellationsInOrder reads db.outbox).filter (·.aggregateId = contractId)

variable (reads : RunReads) (db : BackfillDb) (contractId : Uuid)

theorem lookup_readItems :
    (readItems reads db.items).lookup contractId = lastManualItem reads db contractId := by
  rw [readItems, Table.lookup_insertAll, AList.lookup_empty, Option.or_none]
  rfl

theorem lookup_readConfirmations :
    (readConfirmations reads db.outbox).lookup contractId = lastConfirmation reads db contractId := by
  rw [readConfirmations, Table.lookup_insertAll, AList.lookup_empty, Option.or_none, List.filter_map,
    List.getLast?_map, Option.map_map]
  rfl

theorem lookup_noteCancellations (messages : List OutboxMessage) (read : Table Uuid Cancellation) :
    (messages.foldl noteCancellation read).lookup contractId =
      match read.lookup contractId with
      | some known =>
        if known.tenantId.isSome then some known
        else some ((((messages.filter (·.aggregateId = contractId)).find? (·.tenantId.isSome)).map
          (·.cancellation)).getD known)
      | none =>
        (((messages.filter (·.aggregateId = contractId)).find? (·.tenantId.isSome)).or
          (messages.filter (·.aggregateId = contractId)).head?).map (·.cancellation) := by
  induction messages generalizing read with
  | nil => cases h : read.lookup contractId <;> simp [h]
  | cons message messages ih =>
    rw [List.foldl_cons, ih]
    by_cases hmine : message.aggregateId = contractId
    · subst hmine
      rw [List.filter_cons_of_pos (by simp)]
      cases hread : read.lookup message.aggregateId with
      | none =>
        have hnote : (noteCancellation read message).lookup message.aggregateId =
            some message.cancellation := by
          rw [noteCancellation, hread]
          exact AList.lookup_insert _
        rw [hnote]
        dsimp only
        cases htenant : message.tenantId with
        | some tenantId => simp [OutboxMessage.cancellation, htenant]
        | none =>
          rw [List.find?_cons_of_neg (by simp [htenant])]
          cases (messages.filter (·.aggregateId = message.aggregateId)).find? (·.tenantId.isSome) with
          | none => simp [OutboxMessage.cancellation, htenant]
          | some first => simp [OutboxMessage.cancellation, htenant]
      | some known =>
        by_cases hstands : known.tenantId.isSome ∨ message.tenantId.isNone
        · have hnote : noteCancellation read message = read := by
            rw [noteCancellation, hread]
            exact if_pos hstands
          rw [hnote, hread]
          dsimp only
          rcases hstands with hknown | hnone
          · rw [if_pos hknown, if_pos hknown]
          · rw [List.find?_cons_of_neg (by simpa using hnone)]
        · -- the first message with a tenant replaces what is known
          obtain ⟨hknown, hsome⟩ := not_or.mp hstands
          have hnote : (noteCancellation read message).lookup message.aggregateId =
              some message.cancellation := by
            rw [noteCancellation, hread]
            dsimp only
            rw [if_neg hstands]
            exact AList.lookup_insert _
          have htenant : message.tenantId.isSome = true := by
            rw [Option.isSome_iff_ne_none]
            exact fun hnone => hsome (Option.isNone_iff_eq_none.mpr hnone)
          rw [hnote]
          dsimp only
          have hfind : (message :: messages.filter (·.aggregateId = message.aggregateId)).find?
              (·.tenantId.isSome) = some message := List.find?_cons_of_pos htenant
          rw [if_neg hknown, hfind]
          exact if_pos htenant
    · have hnote : (noteCancellation read message).lookup contractId = read.lookup contractId := by
        have hne : contractId ≠ message.aggregateId := fun heq => hmine heq.symm
        unfold noteCancellation
        split
        · split
          · rfl
          · exact AList.lookup_insert_ne hne
        · exact AList.lookup_insert_ne hne
      rw [hnote, List.filter_cons_of_neg (by simpa using hmine)]

theorem lookup_readCancellations : (readCancellations reads db.outbox).lookup contractId =
      (((cancellationsOf reads db contractId).find? (·.tenantId.isSome)).or
        (cancellationsOf reads db contractId).head?).map (·.cancellation) := by
  rw [readCancellations, lookup_noteCancellations, AList.lookup_empty]
  rfl

end Nexotec.Backfill
