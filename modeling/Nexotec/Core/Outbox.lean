/-
The transactional outbox (`app/core/outbox.py`, `outbox_worker.py`,
`outbox_transport.py`, `consumer.py`).

A business transaction leaves an event in the outbox; workers claim the events
that are due, hand each to the consumers registered for its type and decide what
becomes of it.  A consumer's writes and its row in `processed_event` are one
transaction of their own, and the worker's decisions are another, later one.
-/
import Mathlib.Data.List.Sort
import Nexotec.Core.Base
import Nexotec.Lib.Interleaving
import Nexotec.Lib.Locks

namespace Nexotec.Outbox

open Locks

/-! ### Rows -/

inductive OutboxStatus where
  | pending
  | published
  | dead
  deriving DecidableEq

def OutboxStatus.value : OutboxStatus → String
  | .pending => "pending"
  | .published => "published"
  | .dead => "dead"

/-- `OutboxEvent`, with a payload of any type. -/
structure OutboxEvent (P : Type) where
  eventType : String
  tenantId : Option Uuid
  producer : String
  aggregateType : String
  aggregateId : Uuid
  payload : P
  eventVersion : ℕ := 1
  correlationId : Option Uuid := none
  causationId : Option Uuid := none
  occurredAt : Option Time := none

/-- The columns of an `OutboxMessage` that say what has happened. -/
structure Envelope (P : Type) where
  eventType : String
  eventVersion : ℕ
  occurredAt : Time
  tenantId : Option Uuid
  producer : String
  aggregateType : String
  aggregateId : Uuid
  correlationId : Uuid
  causationId : Option Uuid
  payload : P
  createdAt : Time

/-- `OutboxMessage`. -/
structure OutboxMessage (P : Type) extends Envelope P where
  status : OutboxStatus
  attempts : ℕ
  nextAttemptAt : Time
  lastError : Option String := none
  publishedAt : Option Time := none

variable {P : Type}

/-- `publish`; `correlationId` is drawn for an event that has none. -/
def publish (now : Time) (correlationId : Uuid) (event : OutboxEvent P) : OutboxMessage P where
  eventType := event.eventType
  eventVersion := event.eventVersion
  occurredAt := event.occurredAt.getD now
  tenantId := event.tenantId
  producer := event.producer
  aggregateType := event.aggregateType
  aggregateId := event.aggregateId
  correlationId := event.correlationId.getD correlationId
  causationId := event.causationId
  payload := event.payload
  createdAt := now
  status := .pending
  attempts := 0
  nextAttemptAt := now

/-- What `replay` refuses: the text of its `ValueError`. -/
def replayRefusal (id : Uuid) : Option (OutboxMessage P) → Option String
  | none => some s!"No outbox message with id {id}."
  | some message =>
    if message.status = .dead then none
    else some s!"Message {id} is {message.status.value}, not dead — nothing to replay."

/-- What `replay` writes. -/
def replay (now : Time) (message : OutboxMessage P) : OutboxMessage P :=
  { message with status := .pending, attempts := 0, nextAttemptAt := now, lastError := none }

/-! ### The worker's decision -/

def maxAttempts : ℕ := 5

def seconds (n : ℕ) : Time := n * 1000000

/-- `compute_backoff`; `jitter` is drawn. -/
def computeBackoff (attempts : ℕ) (jitter : Time) : Time :=
  seconds (min (2 ^ attempts) 3600) + jitter

/-- `DeliveryError.__str__`: every consumer that failed, with its exception. -/
def deliveryError (id : Uuid) (failures : List (String × String)) : String :=
  let details := "; ".intercalate (failures.map fun failure => s!"{failure.1}: {failure.2}")
  s!"{failures.length} consumer(s) failed for message {id} — {details}"

/-- The first `_LAST_ERROR_MAX_LENGTH` characters. -/
def truncateError (text : String) : String := String.ofList (text.toList.take 2000)

/-- What `poll_once` decides for a message after its delivery. -/
def decideNext (now jitter : Time) (id : Uuid) (failures : List (String × String))
    (message : OutboxMessage P) : OutboxMessage P :=
  if failures.isEmpty then { message with status := .published, publishedAt := some now }
  else
    let failed := { message with
      attempts := message.attempts + 1
      lastError := some (truncateError (deliveryError id failures)) }
    if maxAttempts ≤ failed.attempts then { failed with status := .dead }
    else { failed with nextAttemptAt := now + computeBackoff failed.attempts jitter }

/-! ### Sessions -/

/-- The claim transaction of a worker: the messages it still has to deliver and
the ones it has decided, as it will write them.  `connected` is false once its
connection, and with it its locks, are lost. -/
structure Batch (P : Type) where
  todo : List (Uuid × OutboxMessage P)
  done : List (Uuid × OutboxMessage P) := []
  connected : Bool := true

/-- `deliver` at work on a message: the consumers that are left, and the failures
with their exceptions. -/
structure Delivery (P : Type) where
  id : Uuid
  message : OutboxMessage P
  rest : List String
  failures : List (String × String) := []

inductive Session (P W : Type) where
  | idle
  /-- The operator has read a dead message. -/
  | replaying (id : Uuid)
  | polling (batch : Batch P)
  | delivering (batch : Batch P) (delivery : Delivery P)
  /-- The consumer has no row yet; its handler runs next. -/
  | handling (batch : Batch P) (delivery : Delivery P) (consumer : String)
  /-- The handler has returned; its session holds `writes`. -/
  | handled (batch : Batch P) (delivery : Delivery P) (consumer : String) (writes : W)

/-- The committed state.  `effects` is what the consumers have committed, the
newest first; `failed` is history: the failed deliveries of each message since it
was published or replayed. -/
structure Shared (ι P W : Type) where
  now : Time := 0
  messages : Table Uuid (OutboxMessage P) := ∅
  processed : Table (Uuid × String) Time := ∅
  effects : List ((Uuid × String) × W) := []
  grants : List (Grant ι Uuid) := []
  failed : Uuid → ℕ := fun _ => 0

/-- How a consumer's commit ends; `unacknowledged` has landed all the same. -/
inductive CommitOutcome where
  | done
  | refused (text : String)
  | unacknowledged (text : String)

inductive Choice (P W : Type) where
  /-- A business transaction with an event commits. -/
  | publish (id correlationId : Uuid) (event : OutboxEvent P)
  | replay (id : Uuid)
  | poll (batchSize : ℕ)
  | go (jitter : Time)
  /-- The handler returns, or raises. -/
  | handle (outcome : Except String W)
  | commit (outcome : CommitOutcome)
  /-- The connection of the claim transaction is lost. -/
  | lose
  | crash
  | tick (now : Time)

section

variable {W ι : Type} [DecidableEq ι]

/-- The messages a poll claims: `FOR UPDATE SKIP LOCKED`, in the order of their
ids. -/
def claimable (i : ι) (batchSize : ℕ) (sh : Shared ι P W) : List (Uuid × OutboxMessage P) :=
  let due := (sh.messages.entries.map fun e => (e.1, e.2)).filter fun e =>
    e.2.status = .pending ∧ e.2.nextAttemptAt ≤ sh.now ∧ Free sh.grants i e.1 .update
  (due.insertionSort fun e e' => e.1 ≤ e'.1).take batchSize

/-- `register`: the consumers of each event type, in order. -/
abbrev Handlers := String → List String

def finish (i : ι) (batch : Batch P) (sh : Shared ι P W) : Shared ι P W :=
  if batch.connected then
    { sh with messages := sh.messages.insertAll batch.done, grants := release i sh.grants }
  else sh

def recordDelivery (delivery : Delivery P) (sh : Shared ι P W) : Shared ι P W :=
  if delivery.failures.isEmpty then sh
  else { sh with failed := Function.update sh.failed delivery.id (sh.failed delivery.id + 1) }

def go (handlers : Handlers) (i : ι) (jitter : Time) (sh : Shared ι P W) :
    Session P W → Option (Shared ι P W × Session P W)
  | .idle => none
  | .replaying id =>
    match sh.messages.lookup id with
    | some message =>
      if Free sh.grants i id .noKeyUpdate then
        some ({ sh with
          messages := sh.messages.insert id (replay sh.now message)
          failed := Function.update sh.failed id 0 }, .idle)
      else none
    | none => none
  | .polling batch =>
    match batch.todo with
    | (id, message) :: todo =>
      some (sh, .delivering { batch with todo := todo }
        { id := id, message := message, rest := handlers message.eventType })
    | [] => some (finish i batch sh, .idle)
  | .delivering batch delivery =>
    match delivery.rest with
    | consumer :: rest =>
      if (sh.processed.lookup (delivery.id, consumer)).isSome then
        some (sh, .delivering batch { delivery with rest := rest })
      else some (sh, .handling batch { delivery with rest := rest } consumer)
    | [] =>
      let next := decideNext sh.now jitter delivery.id delivery.failures delivery.message
      some (recordDelivery delivery sh, .polling { batch with done := batch.done ++ [(delivery.id, next)] })
  | .handling .. | .handled .. => none

/-- The exception of a consumer is collected, and the next one follows. -/
def Delivery.fail (delivery : Delivery P) (consumer text : String) : Delivery P :=
  { delivery with failures := delivery.failures ++ [(consumer, text)] }

/-- The commit of a consumer: its writes with its `processed_event` row, whose key
is unique. -/
def commitConsumer (batch : Batch P) (delivery : Delivery P) (consumer : String) (writes : W)
    (sh : Shared ι P W) : CommitOutcome → Shared ι P W × Session P W
  | .refused text => (sh, .delivering batch (delivery.fail consumer text))
  | outcome =>
    if (sh.processed.lookup (delivery.id, consumer)).isSome then
      (sh, .delivering batch (delivery.fail consumer "duplicate key value violates unique constraint"))
    else
      let landed := { sh with
        processed := sh.processed.insert (delivery.id, consumer) sh.now
        effects := ((delivery.id, consumer), writes) :: sh.effects }
      match outcome with
      | .unacknowledged text => (landed, .delivering batch (delivery.fail consumer text))
      | .done | .refused _ => (landed, .delivering batch delivery)

/-- The worker's connection goes; the process does not notice before its commit. -/
def Session.disconnect : Session P W → Session P W
  | .idle => .idle
  | .replaying id => .replaying id
  | .polling batch => .polling { batch with connected := false }
  | .delivering batch delivery => .delivering { batch with connected := false } delivery
  | .handling batch delivery consumer => .handling { batch with connected := false } delivery consumer
  | .handled batch delivery consumer writes =>
    .handled { batch with connected := false } delivery consumer writes

/-- One statement of one worker, with the sessions of its consumers. -/
def step (handlers : Handlers) (i : ι) :
    Choice P W → Shared ι P W → Session P W → Option (Shared ι P W × Session P W)
  | .publish id correlationId event, sh, .idle =>
    if (sh.messages.lookup id).isSome then none
    else some ({ sh with
      messages := sh.messages.insert id (publish sh.now correlationId event) }, .idle)
  | .replay id, sh, .idle =>
    match replayRefusal id (sh.messages.lookup id) with
    | some _ => none
    | none => some (sh, .replaying id)
  | .poll batchSize, sh, .idle =>
    let claimed := claimable i batchSize sh
    some ({ sh with grants := acquireAll i (claimed.map (·.1)) .update sh.grants },
      .polling { todo := claimed })
  | .publish .., _, _ | .replay _, _, _ | .poll _, _, _ => none
  | .go jitter, sh, lo => go handlers i jitter sh lo
  | .handle outcome, sh, .handling batch delivery consumer =>
    match outcome with
    | .ok writes => some (sh, .handled batch delivery consumer writes)
    | .error text => some (sh, .delivering batch (delivery.fail consumer text))
  | .handle _, _, _ => none
  | .commit outcome, sh, .handled batch delivery consumer writes =>
    some (commitConsumer batch delivery consumer writes sh outcome)
  | .commit _, _, _ => none
  | .lose, sh, lo => some ({ sh with grants := release i sh.grants }, lo.disconnect)
  | .crash, sh, _ => some ({ sh with grants := release i sh.grants }, .idle)
  | .tick now, sh, lo => some ({ sh with now := max sh.now now }, lo)

end

section Moves

variable {W ι : Type} [DecidableEq ι]

inductive Moves (handlers : Handlers) (i : ι) (sh : Shared ι P W) :
    Session P W → Shared ι P W → Session P W → Prop
  | published (id correlationId : Uuid) (event : OutboxEvent P)
      (hfresh : sh.messages.lookup id = none) :
      Moves handlers i sh .idle
        { sh with messages := sh.messages.insert id (publish sh.now correlationId event) } .idle
  | read (id : Uuid) : Moves handlers i sh .idle sh (.replaying id)
  | replayed (id : Uuid) (message : OutboxMessage P)
      (hmessage : sh.messages.lookup id = some message) (hfree : Free sh.grants i id .noKeyUpdate) :
      Moves handlers i sh (.replaying id)
        { sh with
          messages := sh.messages.insert id (replay sh.now message)
          failed := Function.update sh.failed id 0 } .idle
  | polled (batchSize : ℕ) :
      Moves handlers i sh .idle
        { sh with grants := acquireAll i ((claimable i batchSize sh).map (·.1)) .update sh.grants }
        (.polling { todo := claimable i batchSize sh })
  | started (batch : Batch P) (id : Uuid) (message : OutboxMessage P)
      (todo : List (Uuid × OutboxMessage P)) (htodo : batch.todo = (id, message) :: todo) :
      Moves handlers i sh (.polling batch) sh (.delivering { batch with todo := todo }
        { id := id, message := message, rest := handlers message.eventType })
  | finished (batch : Batch P) : Moves handlers i sh (.polling batch) (finish i batch sh) .idle
  | skipped (batch : Batch P) (delivery : Delivery P) (consumer : String) (rest : List String)
      (hrest : delivery.rest = consumer :: rest)
      (hprocessed : sh.processed.lookup (delivery.id, consumer) ≠ none) :
      Moves handlers i sh (.delivering batch delivery) sh
        (.delivering batch { delivery with rest := rest })
  | unprocessed (batch : Batch P) (delivery : Delivery P) (consumer : String) (rest : List String)
      (hrest : delivery.rest = consumer :: rest) :
      Moves handlers i sh (.delivering batch delivery) sh
        (.handling batch { delivery with rest := rest } consumer)
  | decided (batch : Batch P) (delivery : Delivery P) (jitter : Time) (hrest : delivery.rest = []) :
      Moves handlers i sh (.delivering batch delivery) (recordDelivery delivery sh)
        (.polling { batch with done := batch.done ++ [(delivery.id,
          decideNext sh.now jitter delivery.id delivery.failures delivery.message)] })
  | ran (batch : Batch P) (delivery : Delivery P) (consumer : String) (writes : W) :
      Moves handlers i sh (.handling batch delivery consumer) sh
        (.handled batch delivery consumer writes)
  | raised (batch : Batch P) (delivery : Delivery P) (consumer text : String) :
      Moves handlers i sh (.handling batch delivery consumer) sh
        (.delivering batch (delivery.fail consumer text))
  | refused (batch : Batch P) (delivery : Delivery P) (consumer text : String) (writes : W) :
      Moves handlers i sh (.handled batch delivery consumer writes) sh
        (.delivering batch (delivery.fail consumer text))
  /-- The writes land; the worker may not learn of it. -/
  | landed (batch : Batch P) (delivery delivery' : Delivery P) (consumer : String) (writes : W)
      (hnew : sh.processed.lookup (delivery.id, consumer) = none)
      (hdelivery : delivery' = delivery ∨ ∃ text, delivery' = delivery.fail consumer text) :
      Moves handlers i sh (.handled batch delivery consumer writes)
        { sh with
          processed := sh.processed.insert (delivery.id, consumer) sh.now
          effects := ((delivery.id, consumer), writes) :: sh.effects }
        (.delivering batch delivery')
  | lost (lo : Session P W) :
      Moves handlers i sh lo { sh with grants := release i sh.grants } lo.disconnect
  | crashed (lo : Session P W) :
      Moves handlers i sh lo { sh with grants := release i sh.grants } .idle
  | tick (now : Time) (lo : Session P W) :
      Moves handlers i sh lo { sh with now := max sh.now now } lo

variable {handlers : Handlers} {i : ι} {sh sh' : Shared ι P W} {ch : Choice P W} {lo lo' : Session P W}

theorem moves_of_go {jitter : Time} (h : go handlers i jitter sh lo = some (sh', lo')) :
    Moves handlers i sh lo sh' lo' := by
  cases lo with
  | idle | handling | handled => cases h
  | replaying id =>
    simp only [go] at h
    split at h
    · next message hmessage =>
      split at h
      · next hfree =>
        cases h
        exact .replayed id message hmessage hfree
      · cases h
    · cases h
  | polling batch =>
    simp only [go] at h
    split at h
    · next id message todo htodo =>
      cases h
      exact .started batch id message todo htodo
    · cases h
      exact .finished batch
  | delivering batch delivery =>
    simp only [go] at h
    split at h
    · next consumer rest hrest =>
      split at h
      · next hprocessed =>
        cases h
        exact .skipped batch delivery consumer rest hrest (Option.isSome_iff_ne_none.mp hprocessed)
      · cases h
        exact .unprocessed batch delivery consumer rest hrest
    · next hrest =>
      cases h
      exact .decided batch delivery jitter hrest

theorem moves_of_commit {batch : Batch P} {delivery : Delivery P} {consumer : String} {writes : W}
    {outcome : CommitOutcome}
    (h : commitConsumer batch delivery consumer writes sh outcome = (sh', lo')) :
    Moves handlers i sh (.handled batch delivery consumer writes) sh' lo' := by
  cases outcome with
  | refused text =>
    cases h
    exact .refused batch delivery consumer text writes
  | done =>
    simp only [commitConsumer] at h
    split at h
    · cases h
      exact .refused batch delivery consumer _ writes
    · next hnew =>
      cases h
      exact .landed batch delivery delivery consumer writes (by simpa using hnew) (.inl rfl)
  | unacknowledged text =>
    simp only [commitConsumer] at h
    split at h
    · cases h
      exact .refused batch delivery consumer _ writes
    · next hnew =>
      cases h
      exact .landed batch delivery _ consumer writes (by simpa using hnew) (.inr ⟨text, rfl⟩)

/-- Everything a step can do. -/
theorem moves_of_step (h : step handlers i ch sh lo = some (sh', lo')) :
    Moves handlers i sh lo sh' lo' := by
  cases ch with
  | publish id correlationId event =>
    cases lo with
    | idle =>
      simp only [step] at h
      split at h
      · cases h
      · next hfresh =>
        cases h
        exact .published id correlationId event (by simpa using hfresh)
    | replaying | polling | delivering | handling | handled => cases h
  | replay id =>
    cases lo with
    | idle =>
      simp only [step] at h
      split at h
      · cases h
      · cases h
        exact .read id
    | replaying | polling | delivering | handling | handled => cases h
  | poll batchSize =>
    cases lo with
    | idle =>
      cases h
      exact .polled batchSize
    | replaying | polling | delivering | handling | handled => cases h
  | go jitter => exact moves_of_go h
  | handle outcome =>
    cases lo with
    | handling batch delivery consumer =>
      cases outcome with
      | ok writes =>
        cases h
        exact .ran batch delivery consumer writes
      | error text =>
        cases h
        exact .raised batch delivery consumer text
    | idle | replaying | polling | delivering | handled => cases h
  | commit outcome =>
    cases lo with
    | handled batch delivery consumer writes => exact moves_of_commit (Option.some.inj h)
    | idle | replaying | polling | delivering | handling => cases h
  | lose =>
    cases h
    exact .lost lo
  | crash =>
    cases h
    exact .crashed lo
  | tick now =>
    cases h
    exact .tick now lo

end Moves

end Nexotec.Outbox
