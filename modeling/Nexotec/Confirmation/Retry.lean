/-
Retrying a confirmation.

Every attempt to confirm a contract calls Stock under the one key
`sales.contract.confirm:<contract>`.  The record of the first reservation
stays under it, and it names that attempt's car:

* `retry_reserves_iff` — after any run, a pending contract's free car can be
  reserved exactly when the record under its key, if there is one, is of that
  car.
-/
import Nexotec.Confirmation.Reachable

namespace Nexotec.Confirmation

open Interleaving

variable {ι : Type} [DecidableEq ι]

/-- **When a retry gets the car.**  Whatever attempts, compensations and edits
came before, `reserve_for_contract` on the free car of a pending contract
reserves it for the contract if and only if the record stored under the
contract's key, if any, is of the same car. -/
theorem retry_reserves_iff (stock : FreeStock) (valuations : Table Uuid Valuation) (nextId : Uuid)
    (as : List (ι × Choice)) (now : Time) (c x : Uuid) (row : SalesContract) (item : StockItem) :
    let sh := (as.foldl (move step) (start stock valuations nextId)).shared
    sh.sales.contracts.lookup c = some row → row.status = .pending →
    row.vehicleSource = some .stock → row.stockItemId = some x →
    sh.stock.items.lookup x = some item → item.tenantId = row.tenantId →
    item.leftStockAt = none → item.reservationState ≠ .reserved →
    ((∃ stock' r item', reserveForContract now sh.nextId sh.stock row.tenantId x c (.confirm c)
          = .ok (stock', r) ∧ stock'.items.lookup x = some item' ∧ item'.HeldFor c r) ↔
      ∀ record ∈ sh.stock.records.lookup (.confirm c, row.tenantId),
        record.requestPath = .reserve x) := by
  intro sh _ _ _ _ hitem htenant hleft hfree
  have hrecords := (invariant_run stock valuations nextId as).1.confirmRecords c row.tenantId
  rw [reserveForContract_free_iff hitem htenant hleft hfree]
  constructor
  · intro hfits record hrecord
    exact (hfits record hrecord).1
  · -- the record under the key was stored for this contract
    intro hpath record hrecord
    exact ⟨hpath record hrecord, (hrecords record hrecord).1⟩

/-- The confirmation of a contract fails at its own commit and is compensated. -/
def failsToSign (i : ℕ) (c : Uuid) (ifMatch : ℕ) : List (ℕ × Choice) :=
  reserves i c ifMatch ++ [(i, .sign .failed), (i, .lockContract), (i, .lockReservation),
    (i, .release 0 .committed), (i, .revertUse .committed)]

def retriedRun : List (ℕ × Choice) := opens 0 3 ++ failsToSign 0 0 3

theorem retry_reserves_iff_retriedRun : ∃ stock' r item', reserveForContract 0
        (retriedRun.foldl (move step) (start showroom ∅ 100)).shared.nextId
        (retriedRun.foldl (move step) (start showroom ∅ 100)).shared.stock 1 3 0 (.confirm 0)
          = .ok (stock', r) ∧ stock'.items.lookup 3 = some item' ∧ item'.HeldFor 0 r := by
  have hrow : ((retriedRun.foldl (move step) (start showroom ∅ 100)).shared.sales.contracts.lookup
      0).map (fun row => (row.tenantId, row.status, row.vehicleSource, row.stockItemId)) =
        some (1, .pending, some .stock, some 3) := by
    decide +kernel
  have hitem : ((retriedRun.foldl (move step) (start showroom ∅ 100)).shared.stock.items.lookup
      3).map (fun item => (item.tenantId, item.leftStockAt, item.reservationState)) =
        some (1, none, .none) := by
    decide +kernel
  have hrecord : ∀ record ∈ (retriedRun.foldl (move step)
      (start showroom ∅ 100)).shared.stock.records.lookup (.confirm 0, 1),
        record.requestPath = .reserve 3 := by
    decide +kernel
  obtain ⟨row, hrow, hcolumns⟩ := Option.map_eq_some_iff.mp hrow
  obtain ⟨item, hitem, hitemColumns⟩ := Option.map_eq_some_iff.mp hitem
  simp only [Prod.mk.injEq] at hcolumns hitemColumns
  obtain ⟨htenant, hpending, hsource, hx⟩ := hcolumns
  obtain ⟨htenant', hleft, hstate⟩ := hitemColumns
  have hfree : item.reservationState ≠ .reserved := by
    rw [hstate]
    decide
  rw [← htenant] at hrecord ⊢
  exact (retry_reserves_iff showroom ∅ 100 retriedRun 0 0 3 row item hrow hpending hsource hx hitem
    (htenant'.trans htenant.symm) hleft hfree).mpr hrecord

def switchedRun : List (ℕ × Choice) :=
  retriedRun ++ [(0, .request desk (.updateContract 1 0 3
    ⟨{ stockItemId := some (some 4) }, by decide +kernel⟩))]

/-- Car 4 is there, in stock and free, and the retry is refused for the key
that the attempt on car 3 has used. -/
theorem switchedRun_refuses_retry :
    let sh := (switchedRun.foldl (move step) (start showroom ∅ 100)).shared
    (sh.sales.contracts.lookup 0).map
        (fun row => (row.tenantId, row.status, row.vehicleSource, row.stockItemId)) =
      some (1, .pending, some .stock, some 4) ∧
    (sh.stock.items.lookup 4).map
        (fun item => (item.tenantId, item.leftStockAt, item.reservationState)) =
      some (1, none, .none) ∧
    (reserveForContract 0 sh.nextId sh.stock 1 4 0 (.confirm 0)).map (fun _ => ()) =
      .error (conflictError "Idempotency-Key was already used with a different request."
        [("idempotencyKey", "sales.contract.confirm:0")]) := by
  decide +kernel

end Nexotec.Confirmation
