/-
Publishing a stock item and transmitting the feed of one dealership and channel
(`app/inventory/services/publishing.py`, `services/marketplace_transmission.py`,
`app/inventory/consumers.py`).

A publication or withdrawal reads its row, then writes it with an event.  Every event is
delivered by some worker, again after a failure, until its consumer is through:

  pending → delivering → selected → assembled → sending → stored → accepted → returned
    → processed
  assembled → returned                     (a listing fails: nothing is sent)
  sending, stored → failing → pending      (a transport failure)

The rows are read before the slow call, and nothing keeps two calls apart.  The
marketplace has the last file that was stored.
-/
import Nexotec.Inventory.Listing

namespace Nexotec.Marketplace

open Listing

/-! ### Rows -/

inductive PublishingState where
  | notPublished
  | published
  deriving DecidableEq

inductive TransmissionStatus where
  | pending
  | transmitted
  | failed
  deriving DecidableEq

/-- The row of one stock item in the channel. -/
structure StockItemPublishing where
  state : PublishingState := .notPublished
  lastPublishedAt : Option Time := none
  transmissionStatus : TransmissionStatus := .pending
  lastTransmissionError : Option String := none
  lastAttemptedAt : Option Time := none
  updatedBy : Option Uuid := none
  version : ℕ := 1

abbrev Rows := Table Uuid StockItemPublishing

/-- An attribute set to what it was loaded with is not part of the `UPDATE`. -/
def write {α : Type} [DecidableEq α] (loaded value stored : α) : α :=
  if loaded = value then stored else value

/-- The writes of `publish` and `unpublish`. -/
def intend (target : PublishingState) (now : Time) (actorId : Option Uuid)
    (loaded stored : StockItemPublishing) : StockItemPublishing :=
  { stored with
    state := write loaded.state target stored.state
    lastPublishedAt :=
      if target = .published then write loaded.lastPublishedAt (some now) stored.lastPublishedAt
      else stored.lastPublishedAt
    updatedBy := write loaded.updatedBy actorId stored.updatedBy
    version := write loaded.version (loaded.version + 1) stored.version }

/-- `_mark`, for one row. -/
def mark (status : TransmissionStatus) (error : Option String) (now : Time)
    (loaded stored : StockItemPublishing) : StockItemPublishing :=
  { stored with
    transmissionStatus := write loaded.transmissionStatus status stored.transmissionStatus
    lastTransmissionError := write loaded.lastTransmissionError error stored.lastTransmissionError
    lastAttemptedAt := write loaded.lastAttemptedAt (some now) stored.lastAttemptedAt }

/-- `_mark`, for the rows as they were loaded. -/
def markAll (loaded : Uuid → Option StockItemPublishing) (status : TransmissionStatus)
    (error : Uuid → Option String) (now : Time) (rows : Rows) : Rows :=
  Table.updateAll (fun id stored =>
    match loaded id with
    | some row => mark status (error id) now row stored
    | none => stored) rows

/-! ### Transmissions -/

/-- What a transmission has selected: the rows as the statement found them, after so many
publications and withdrawals. -/
structure Snapshot where
  table : Rows
  seen : ℕ

/-- The keys with state `PUBLISHED`. -/
def publishedIds (rows : Rows) : List Uuid :=
  Table.selectKeys (fun _ row => decide (row.state = .published)) rows

/-- The row as it was loaded, if it is one of the selected ones. -/
def Snapshot.row (set : Snapshot) (id : Uuid) : Option StockItemPublishing :=
  (set.table.lookup id).filter fun row => row.state = .published

/-- `_build_listing` and `validate_listing` of one row's item. -/
def examine (kundennummer : String) (items : Table Uuid StockItem) (id : Uuid) :
    Except String FieldRow :=
  match items.lookup id with
  | none => .error "Stock item no longer exists."
  | some item =>
    match fieldRow kundennummer (buildListing id item) with
    | .ok row => .ok row
    | .error exc => .error s!"{exc.field}: {exc.text}"

abbrev Examined := List (Uuid × Except String FieldRow)

def examineAll (kundennummer : String) (set : Snapshot) (items : Table Uuid StockItem) : Examined :=
  (publishedIds set.table).map fun id => (id, examine kundennummer items id)

/-- `failed_rows`, with their messages. -/
def failures (listed : Examined) : List (Uuid × String) :=
  listed.filterMap fun entry =>
    match entry.2 with
    | .ok _ => none
    | .error message => some (entry.1, message)

def feedOf (listed : Examined) : List FieldRow :=
  listed.filterMap fun entry =>
    match entry.2 with
    | .ok row => some row
    | .error _ => none

/-- Where the consumer of an event is. -/
inductive Stage where
  /-- Not processed, and with no worker; also after a failure. -/
  | pending
  | delivering
  | selected (set : Snapshot)
  | assembled (set : Snapshot) (items : Table Uuid StockItem)
  /-- `transmit_feed` is called. -/
  | sending (set : Snapshot) (feed : List FieldRow)
  /-- The file is stored, and the reply not there. -/
  | stored (set : Snapshot)
  | accepted (set : Snapshot)
  /-- The exception is caught, and is raised again after the rows are marked. -/
  | failing (set : Snapshot) (error : String)
  /-- The handler has returned, after a transmission or a refusal. -/
  | returned (transmitted : Bool)
  | processed (transmitted : Bool)

/-- A publication or withdrawal that has read its row. -/
structure Request where
  id : Uuid
  target : PublishingState
  /-- The stock item that passed the gate. -/
  item : StockItem
  loaded : Option StockItemPublishing

/-- A call of `transmit_feed`: the rows and the items it is from, and the feed. -/
structure Sent where
  set : Snapshot
  items : Table Uuid StockItem
  feed : List FieldRow

structure State where
  items : Table Uuid StockItem := ∅
  rows : Rows := ∅
  requests : ℕ → Option Request := fun _ => none
  /-- The events so far. -/
  count : ℕ := 0
  stage : ℕ → Stage := fun _ => .pending
  /-- The last file stored. -/
  marketplace : Option (List FieldRow) := none
  /-- The publications and withdrawals so far. -/
  changes : ℕ := 0
  /-- The latest set among those whose file was stored, by the changes it has seen. -/
  newest : ℕ := 0
  sent : List Sent := []

inductive Move where
  | deliver
  | selectRows
  /-- No connection, or no adapter for it. -/
  | refuse (error : String) (now : Time)
  | selectItems
  | decide (now : Time)
  | store
  | fail (error : String)
  | reply
  | commit (now : Time)
  /-- The worker dies, or a commit fails. -/
  | crash

inductive Action where
  /-- A stock item is created or edited. -/
  | edit (id : Uuid) (item : StockItem)
  /-- The `GET` that creates the row. -/
  | getPublishing (id : Uuid)
  | publish (request : ℕ) (id : Uuid) (reads : Reads)
  | unpublish (request : ℕ) (id : Uuid) (confirm : Bool)
  | commit (request : ℕ) (now : Time) (actorId : Option Uuid)
  | rollback (request : ℕ)
  | transmit (event : ℕ) (move : Move)

def State.at (st : State) (event : ℕ) (stage : Stage) : State :=
  { st with stage := Function.update st.stage event stage }

/-- The commit of `publish` and `unpublish`, with its event; a row that another request has
created meanwhile makes the insert fail. -/
def commitRequest (now : Time) (actorId : Option Uuid) (request : Request) (st : State) : State :=
  let changed (row : StockItemPublishing) : State :=
    { st with
      rows := st.rows.insert request.id row
      count := st.count + 1
      stage := Function.update st.stage st.count .pending
      changes := st.changes + 1 }
  match request.loaded, st.rows.lookup request.id with
  | none, none => changed (intend request.target now actorId {} {})
  | some loaded, some row => changed (intend request.target now actorId loaded row)
  | _, _ => st

/-- `assemble_and_transmit`, step by step, in the consumer of an event. -/
def transmit (kundennummer : String) (event : ℕ) (move : Move) (st : State) : State :=
  match st.stage event, move with
  | .processed _, _ => st
  | _, .crash => st.at event .pending
  | .pending, .deliver => if event < st.count then st.at event .delivering else st
  | .delivering, .selectRows => st.at event (.selected ⟨st.rows, st.changes⟩)
  | .selected set, .refuse error now =>
    { st with rows := markAll set.row .failed (fun _ => some error) now st.rows }.at event
      (.returned false)
  | .selected set, .selectItems => st.at event (.assembled set st.items)
  | .assembled set items, .decide now =>
    let listed := examineAll kundennummer set items
    if failures listed = [] then
      { st with sent := ⟨set, items, feedOf listed⟩ :: st.sent }.at event
        (.sending set (feedOf listed))
    else
      let failed (id : Uuid) := if ((failures listed).lookup id).isSome then set.row id else none
      { st with rows := markAll failed .failed (fun id => (failures listed).lookup id) now st.rows }.at
        event (.returned false)
  | .sending set feed, .store =>
    { st with marketplace := some feed, newest := max st.newest set.seen }.at event (.stored set)
  | .sending set _, .fail error => st.at event (.failing set error)
  | .stored set, .fail error => st.at event (.failing set error)
  | .stored set, .reply => st.at event (.accepted set)
  | .failing set error, .commit now =>
    { st with rows := markAll set.row .failed (fun _ => some error) now st.rows }.at event .pending
  | .accepted set, .commit now =>
    { st with rows := markAll set.row .transmitted (fun _ => none) now st.rows }.at event
      (.returned true)
  | .returned transmitted, .commit _ => st.at event (.processed transmitted)
  | _, _ => st

def next (kundennummer : String) (st : State) : Action → State
  | .edit id item => { st with items := st.items.insert id item }
  | .getPublishing id =>
    if (st.rows.lookup id).isSome then st else { st with rows := st.rows.insert id {} }
  | .publish request id reads =>
    match st.items.lookup id, st.requests request with
    | some item, none =>
      -- `publish` raises where the gate names a condition
      if computeBlockingConditions reads item = .ok [] then
        { st with
          requests := Function.update st.requests request
            (some ⟨id, .published, item, st.rows.lookup id⟩) }
      else st
    | _, _ => st
  | .unpublish request id confirm =>
    match st.items.lookup id, st.requests request with
    | some item, none =>
      if confirm then
        { st with
          requests := Function.update st.requests request
            (some ⟨id, .notPublished, item, st.rows.lookup id⟩) }
      else st
    | _, _ => st
  | .commit request now actorId =>
    match st.requests request with
    | some found =>
      commitRequest now actorId found
        { st with requests := Function.update st.requests request none }
    | none => st
  | .rollback request => { st with requests := Function.update st.requests request none }
  | .transmit event move => transmit kundennummer event move st

end Nexotec.Marketplace
