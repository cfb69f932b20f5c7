/-
The invariant of the confirmation system.

`Good` is what holds of the shared tables: every item is free or reserved
under an id that was given out, every reservation id belongs to one contract
(`Owned`), only signed contracts carry one, cancelled events are of cancelled
contracts, the record under a contract's confirmation key was stored by a
reservation for that contract, and the one under its cancellation key by the
release of a reservation that no item carries any more (`Spent`).  `Knows` is what a session may rely on where it
stands, in particular that the rows it holds locked are still the ones it read.

`Frame` says what a step of one session leaves alone for the others;
`Knows.transfer` is its use.  The transactions are taken one by one in
`Nexotec.Confirmation.Steps`.
-/
import Nexotec.Confirmation.System

namespace Nexotec.Confirmation

open Interleaving

variable {ι : Type}

/-! ### The shared tables -/

/-- The item is free, or reserved under an id that was given out. -/
def ItemOk (nextId : Uuid) (item : StockItem) : Prop :=
  item.reservation = (.none, none, none) ∨
    ∃ contractId reservationId, reservationId < nextId ∧
      item.reservation = (.reserved, some contractId, some reservationId)

/-- The reservation was given out, and an item that carries it is reserved for
this contract. -/
def Owned (sh : Shared ι) (contractId reservationId : Uuid) : Prop :=
  reservationId < sh.nextId ∧
    ∀ x item, sh.stock.items.lookup x = some item →
      item.activeReservationId = some reservationId → item.reservedByContractId = some contractId

/-- The reservation was given out, and no item carries it any more. -/
def Spent (sh : Shared ι) (reservationId : Uuid) : Prop :=
  reservationId < sh.nextId ∧
    ∀ x item, sh.stock.items.lookup x = some item → item.activeReservationId ≠ some reservationId

/-- The stock item under `x` is reserved for the contract. -/
def HeldAt (sh : Shared ι) (x contractId reservationId : Uuid) : Prop :=
  ∃ item, sh.stock.items.lookup x = some item ∧ item.HeldFor contractId reservationId

structure RowOk (sh : Shared ι) (contractId : Uuid) (row : SalesContract) : Prop where
  pending : row.status = .pending → row.signedAt = none ∧ row.reservationId = none
  signed : row.status = .confirmed → row.signedAt ≠ none
  owned : ∀ reservationId ∈ row.reservationId, Owned sh contractId reservationId

structure Good (sh : Shared ι) : Prop where
  items : ∀ x item, sh.stock.items.lookup x = some item → ItemOk sh.nextId item
  distinct : ∀ x y item item' reservationId, sh.stock.items.lookup x = some item →
    sh.stock.items.lookup y = some item' → item.activeReservationId = some reservationId →
    item'.activeReservationId = some reservationId → x = y
  rows : ∀ contractId row, sh.sales.contracts.lookup contractId = some row →
    RowOk sh contractId row
  cancelled : ∀ tenantId contractId, Event.cancelled tenantId contractId ∈ sh.outbox →
    ∃ row, sh.sales.contracts.lookup contractId = some row ∧ row.status = .cancelled
  confirmRecords : ∀ contractId tenantId record,
    sh.stock.records.lookup (.confirm contractId, tenantId) = some record →
      record.requestBody = some contractId ∧ ∃ x, record.requestPath = .reserve x
  cancelRecords : ∀ contractId tenantId record reservationId,
    sh.stock.records.lookup (.cancel contractId, tenantId) = some record →
      record.requestPath = .release reservationId → Spent sh reservationId
  sweepRecords : ∀ reservationId tenantId,
    sh.stock.records.lookup (.reservationSweep reservationId, tenantId) = none

/-! ### The sessions -/

/-- The session holds the contract's lock and has its committed row. -/
def RowAt (i : ι) (sh : Shared ι) (contractId : Uuid) (contract : SalesContract) : Prop :=
  sh.contractLock contractId = some i ∧ sh.sales.contracts.lookup contractId = some contract

/-- The session holds the item's lock and its reservation is as it was read. -/
def ItemAt (i : ι) (sh : Shared ι) (x : Uuid) (item : StockItem) : Prop :=
  sh.itemLock x = some i ∧ KeepsItem sh.stock.items x item

/-- The reservation a confirmation is about to sign stands in Stock. -/
def Backed (sh : Shared ι) (job : Job) (reservationId : Option Uuid) : Prop :=
  match stockItemToReserve job.contract.toDeal with
  | none => reservationId = none
  | some x => ∃ r, reservationId = some r ∧ Owned sh job.contractId r ∧
      HeldAt sh x job.contractId r

/-- What a compensation may undo was given to its own contract. -/
def UndoOk (sh : Shared ι) (undo : Undo) : Prop :=
  (∀ reservationId ∈ undo.reservationId, Owned sh undo.contractId reservationId) ∧
    ∃ row, sh.sales.contracts.lookup undo.contractId = some row ∧ row.tenantId = undo.tenantId

/-- The compensation holds the contract's lock and the contract is not signed. -/
def Unsigned (i : ι) (sh : Shared ι) (undo : Undo) : Prop :=
  sh.contractLock undo.contractId = some i ∧
    ∃ row, sh.sales.contracts.lookup undo.contractId = some row ∧
      row.tenantId = undo.tenantId ∧ row.signedAt = none

/-- The item a release has locked carries the reservation, which is the
contract's own. -/
def ReleaseAt (i : ι) (sh : Shared ι) (contractId reservationId x : Uuid) (item : StockItem) : Prop :=
  ItemAt i sh x item ∧ item.activeReservationId = some reservationId ∧
    Owned sh contractId reservationId

def Knows (i : ι) (sh : Shared ι) : Local → Prop
  | .idle => True
  | .loaded contractId contract => RowAt i sh contractId contract
  | .guarded job => RowAt i sh job.contractId job.contract ∧ job.contract.status = .pending
  | .consumed job _ => RowAt i sh job.contractId job.contract ∧ job.contract.status = .pending
  | .reserving job _ x item =>
    RowAt i sh job.contractId job.contract ∧ job.contract.status = .pending ∧
      stockItemToReserve job.contract.toDeal = some x ∧ ItemAt i sh x item
  | .reserved job _ reservationId =>
    RowAt i sh job.contractId job.contract ∧ job.contract.status = .pending ∧
      Backed sh job reservationId
  | .compensating undo => UndoOk sh undo
  | .undoing undo => UndoOk sh undo ∧ Unsigned i sh undo
  | .undoReleasing undo reservationId x item =>
    UndoOk sh undo ∧ Unsigned i sh undo ∧ ReleaseAt i sh undo.contractId reservationId x item
  | .cancelling job _ => RowAt i sh job.contractId job.contract
  | .cancelReleasing job _ reservationId x item =>
    RowAt i sh job.contractId job.contract ∧ ReleaseAt i sh job.contractId reservationId x item
  | .cancelReleased job _ => RowAt i sh job.contractId job.contract

theorem Backed.owned {sh : Shared ι} {job : Job} {reservationId : Option Uuid}
    (h : Backed sh job reservationId) : ∀ r ∈ reservationId, Owned sh job.contractId r := by
  intro r hmem
  have hr : reservationId = some r := hmem
  rw [Backed] at h
  cases hx : stockItemToReserve job.contract.toDeal with
  | none =>
    simp only [hx] at h
    rw [h] at hr
    cases hr
  | some x =>
    simp only [hx] at h
    obtain ⟨r', hr', howned, -⟩ := h
    rw [← Option.mem_unique hr' hr]
    exact howned

/-! ### What a step leaves alone -/

/-- A step of session `i` leaves to every other session its locks, the rows it
holds locked, and the reservations of contracts it holds locked. -/
structure Frame (i : ι) (sh sh' : Shared ι) : Prop where
  contractLock : ∀ c j, i ≠ j → sh.contractLock c = some j → sh'.contractLock c = some j
  itemLock : ∀ x j, i ≠ j → sh.itemLock x = some j → sh'.itemLock x = some j
  rows : ∀ c j row, i ≠ j → sh.contractLock c = some j →
    sh.sales.contracts.lookup c = some row → sh'.sales.contracts.lookup c = some row
  tenants : ∀ c row, sh.sales.contracts.lookup c = some row →
    ∃ row', sh'.sales.contracts.lookup c = some row' ∧ row'.tenantId = row.tenantId
  owned : ∀ c r, Owned sh c r → Owned sh' c r
  items : ∀ x j item, i ≠ j → sh.itemLock x = some j → KeepsItem sh.stock.items x item →
    KeepsItem sh'.stock.items x item
  held : ∀ c j x r row, i ≠ j → sh.contractLock c = some j →
    sh.sales.contracts.lookup c = some row → row.status ≠ .cancelled →
    HeldAt sh x c r → HeldAt sh' x c r

section

variable {i j : ι} {sh sh' : Shared ι}

theorem RowAt.transfer {c : Uuid} {k : SalesContract} (h : RowAt j sh c k) (hf : Frame i sh sh')
    (hij : i ≠ j) : RowAt j sh' c k :=
  ⟨hf.contractLock c j hij h.1, hf.rows c j k hij h.1 h.2⟩

theorem ItemAt.transfer {x : Uuid} {item : StockItem} (h : ItemAt j sh x item) (hf : Frame i sh sh')
    (hij : i ≠ j) : ItemAt j sh' x item :=
  ⟨hf.itemLock x j hij h.1, hf.items x j item hij h.1 h.2⟩

theorem ReleaseAt.transfer {c r x : Uuid} {item : StockItem} (h : ReleaseAt j sh c r x item)
    (hf : Frame i sh sh') (hij : i ≠ j) : ReleaseAt j sh' c r x item :=
  ⟨h.1.transfer hf hij, h.2.1, hf.owned c r h.2.2⟩

theorem UndoOk.transfer {undo : Undo} (h : UndoOk sh undo) (hf : Frame i sh sh') :
    UndoOk sh' undo := by
  obtain ⟨howned, row, hrow, htenant⟩ := h
  obtain ⟨row', hrow', ht⟩ := hf.tenants undo.contractId row hrow
  exact ⟨fun r hr => hf.owned _ r (howned r hr), row', hrow', ht.trans htenant⟩

theorem Unsigned.transfer {undo : Undo} (h : Unsigned j sh undo) (hf : Frame i sh sh')
    (hij : i ≠ j) : Unsigned j sh' undo := by
  obtain ⟨hlock, row, hrow, ht, hs⟩ := h
  exact ⟨hf.contractLock _ j hij hlock, row, hf.rows _ j row hij hlock hrow, ht, hs⟩

theorem Backed.transfer {job : Job} {reservationId : Option Uuid}
    (h : Backed sh job reservationId) (hat : RowAt j sh job.contractId job.contract)
    (hpending : job.contract.status = .pending) (hf : Frame i sh sh') (hij : i ≠ j) :
    Backed sh' job reservationId := by
  unfold Backed at h ⊢
  cases hx : stockItemToReserve job.contract.toDeal with
  | none =>
    simp only [hx] at h ⊢
    exact h
  | some x =>
    simp only [hx] at h ⊢
    obtain ⟨r, hr, howned, hheld⟩ := h
    have hne : job.contract.status ≠ .cancelled := by
      rw [hpending]
      decide
    exact ⟨r, hr, hf.owned _ r howned, hf.held _ j x r _ hij hat.1 hat.2 hne hheld⟩

theorem Knows.transfer {lo : Local} (h : Knows j sh lo) (hf : Frame i sh sh') (hij : i ≠ j) :
    Knows j sh' lo := by
  cases lo with
  | idle => trivial
  | loaded c k => exact RowAt.transfer h hf hij
  | guarded job => exact ⟨h.1.transfer hf hij, h.2⟩
  | consumed job newlyUsed => exact ⟨h.1.transfer hf hij, h.2⟩
  | reserving job newlyUsed x item =>
    exact ⟨h.1.transfer hf hij, h.2.1, h.2.2.1, h.2.2.2.transfer hf hij⟩
  | reserved job newlyUsed r =>
    exact ⟨h.1.transfer hf hij, h.2.1, h.2.2.transfer h.1 h.2.1 hf hij⟩
  | compensating undo => exact UndoOk.transfer h hf
  | undoing undo => exact ⟨h.1.transfer hf, h.2.transfer hf hij⟩
  | undoReleasing undo r x item =>
    exact ⟨h.1.transfer hf, h.2.1.transfer hf hij, h.2.2.transfer hf hij⟩
  | cancelling job reason => exact RowAt.transfer h hf hij
  | cancelReleasing job reason r x item =>
    exact ⟨h.1.transfer hf hij, h.2.transfer hf hij⟩
  | cancelReleased job reason => exact RowAt.transfer h hf hij

end

/-! ### Steps that leave the tables alone -/

/-- The tables and the outbox agree; locks and valuations may differ, and ids
may have been drawn. -/
def SameTables (sh sh' : Shared ι) : Prop :=
  sh'.sales.contracts = sh.sales.contracts ∧ sh'.stock = sh.stock ∧ sh.nextId ≤ sh'.nextId ∧
    sh'.outbox = sh.outbox

theorem ItemOk.mono {n m : Uuid} {item : StockItem} (h : ItemOk n item) (hnm : n ≤ m) :
    ItemOk m item := by
  rcases h with hfree | ⟨c, r, hr, hres⟩
  · exact .inl hfree
  · exact .inr ⟨c, r, Nat.lt_of_lt_of_le hr hnm, hres⟩

theorem SameTables.heldAt {sh sh' : Shared ι} (h : SameTables sh sh') {x c r : Uuid} :
    HeldAt sh' x c r ↔ HeldAt sh x c r := by
  rw [HeldAt, HeldAt, h.2.1]

end Nexotec.Confirmation
