/-
A signed stock sale holds a car.

`has_vehicle` takes a label for a car, so a contract that says "stock" but
names no stock item can be confirmed, and then nothing is reserved.  As long
as no confirmation of such a contract comes to its commit, every CONFIRMED
stock sale was signed on a reservation of its own item:

* `signed_by_step` — a CONFIRMED row was written by one signing step of the
  run, on a pending row of the same contract;
* `signed_stock_sales_hold_cars` — at that step its stock item was reserved
  for it under the reservation id it carries.
-/
import Nexotec.Confirmation.Agreement

namespace Nexotec.Confirmation

open Interleaving

variable {ι : Type} [DecidableEq ι]

/-- A CONFIRMED row after a run was written by a signing step, from the
pending row the session had locked and on the reservation that backed it. -/
theorem signed_by_step (stock : FreeStock) (valuations : Table Uuid Valuation) (nextId : Uuid)
    {as : List (ι × Choice)} {c : Uuid} {row : SalesContract}
    (hrow : (as.foldl (move step) (start stock valuations nextId)).shared.sales.contracts.lookup c
      = some row) (hconfirmed : row.status = .confirmed) :
    ∃ before i outcome after job newlyUsed reservationId,
      as = before ++ (i, .sign outcome) :: after ∧
      (before.foldl (move step) (start stock valuations nextId)).locals i
        = .reserved job newlyUsed reservationId ∧
      c = job.contractId ∧ row = confirmedRow job.reads reservationId job.contract ∧
      (move step (before.foldl (move step) (start stock valuations nextId))
        (i, .sign outcome)).shared.sales.contracts.lookup c = some row ∧
      (move step (before.foldl (move step) (start stock valuations nextId))
        (i, .sign outcome)).shared.stock
          = (before.foldl (move step) (start stock valuations nextId)).shared.stock := by
  -- the first state in which the contract's row is this one
  have hstart : ¬ (start stock valuations nextId : Config ι (Shared ι) Local).shared.sales.contracts.lookup
      c = some row := fun hnone => by cases hnone
  obtain ⟨before, ⟨i, choice⟩, after, hsplit, hnot, hafter⟩ :=
    Run.exists_first (P := fun cfg : Config ι (Shared ι) Local =>
      cfg.shared.sales.contracts.lookup c = some row) hstart hrow
  cases hstep : step i choice (before.foldl (move step) (start stock valuations nextId)).shared
      ((before.foldl (move step) (start stock valuations nextId)).locals i) with
  | none =>
    rw [move_none hstep] at hafter
    exact absurd hafter hnot
  | some p =>
    obtain ⟨sh', lo'⟩ := p
    have hmoved : move step (before.foldl (move step) (start stock valuations nextId)) (i, choice)
        = ⟨sh', Function.update _ i lo'⟩ := move_some hstep
    rw [hmoved] at hafter
    rcases (step_effect hstep).confirmed hafter hconfirmed with hold |
      ⟨job, newlyUsed, reservationId, hlo, hc, hnew, hstock⟩
    · exact absurd hold hnot
    · rw [hlo] at hstep
      rcases step_reserved hstep with ⟨outcome, rfl⟩ | htables
      · refine ⟨before, i, outcome, after, job, newlyUsed, reservationId, hsplit, hlo, hc, hnew, ?_, ?_⟩
        · rw [hmoved]
          exact hafter
        · rw [hmoved]
          exact hstock
      · rw [htables.1] at hafter
        exact absurd hafter hnot

/-- The contract a session comes to sign is no stock sale, or has a stock item. -/
def signsCar : Local → Choice → Bool
  | .reserved job _ _, .sign _ =>
    job.contract.vehicleSource ≠ some .stock ∨ job.contract.stockItemId ≠ none
  | _, _ => true

/-- No confirmation of a stock sale without a stock item comes to its commit. -/
def SignsCars (cfg : Config ι (Shared ι) Local) (a : ι × Choice) : Prop :=
  signsCar (cfg.locals a.1) a.2 = true

instance (cfg : Config ι (Shared ι) Local) (a : ι × Choice) : Decidable (SignsCars cfg a) :=
  inferInstanceAs (Decidable (signsCar (cfg.locals a.1) a.2 = true))

/-- **A signed stock sale holds a car.**  In every run in which no confirmation
of a stock sale without a stock item comes to its commit, a CONFIRMED contract
whose vehicle is from stock has a stock item and a reservation id, and at the
step that signed it the item was reserved for it under that id. -/
theorem signed_stock_sales_hold_cars (stock : FreeStock) (valuations : Table Uuid Valuation)
    (nextId : Uuid) (as : List (ι × Choice))
    (hok : Run.Along (move step) SignsCars (start stock valuations nextId) as) :
    ∀ c row, (as.foldl (move step) (start stock valuations nextId)).shared.sales.contracts.lookup c
        = some row → row.status = .confirmed → row.vehicleSource = some .stock →
      ∃ x r, row.stockItemId = some x ∧ row.reservationId = some r ∧ ∃ before i outcome after,
          as = before ++ (i, .sign outcome) :: after ∧
          (move step (before.foldl (move step) (start stock valuations nextId))
            (i, .sign outcome)).shared.sales.contracts.lookup c = some row ∧
          HeldAt (move step (before.foldl (move step) (start stock valuations nextId))
            (i, .sign outcome)).shared x c r := by
  intro c row hrow hconfirmed hsource
  obtain ⟨before, i, outcome, after, job, newlyUsed, reservationId, rfl, hlo, hc, hnew, hsigned,
    hstock⟩ := signed_by_step stock valuations nextId hrow hconfirmed
  have hknows := (invariant_run stock valuations nextId before).2 i
  rw [hlo] at hknows
  have hitem : SignsCars (before.foldl (move step) (start stock valuations nextId))
      (i, .sign outcome) := (Run.Along.append.mp hok).2.1
  simp only [SignsCars, hlo, signsCar, decide_eq_true_eq] at hitem
  have hjob : job.contract.vehicleSource = some .stock := by
    rw [hnew] at hsource
    exact hsource
  obtain ⟨x, hx⟩ := Option.ne_none_iff_exists'.mp (hitem.resolve_left (not_not.mpr hjob))
  have hreserve : stockItemToReserve job.contract.toDeal = some x := by
    rw [stockItemToReserve, if_pos hjob]
    exact hx
  obtain ⟨r, hr, hheld⟩ := hknows.2.2.held hreserve
  refine ⟨x, r, ?_, ?_, before, i, outcome, after, rfl, hsigned, ?_⟩
  · rw [hnew]
    exact hx
  · rw [hnew]
    exact hr
  · rw [HeldAt, hstock, hc]
    exact hheld

theorem signed_stock_sales_hold_cars_saleRun :
    Run.Along (move step) SignsCars (start showroom ∅ 100) saleRun ∧
      ∃ row x r, (saleRun.foldl (move step) (start showroom ∅ 100)).shared.sales.contracts.lookup 0
        = some row ∧ row.status = .confirmed ∧ row.stockItemId = some x ∧
          row.reservationId = some r := by
  have hok : Run.Along (move step) SignsCars (start showroom ∅ 100) saleRun := by decide +kernel
  have hrow : ((saleRun.foldl (move step) (start showroom ∅ 100)).shared.sales.contracts.lookup
      0).map (fun row => (row.status, row.vehicleSource)) = some (.confirmed, some .stock) := by
    decide +kernel
  obtain ⟨row, hrow, hcolumns⟩ := Option.map_eq_some_iff.mp hrow
  obtain ⟨hconfirmed, hsource⟩ := Prod.mk.inj hcolumns
  obtain ⟨x, r, hx, hr, -⟩ :=
    signed_stock_sales_hold_cars showroom ∅ 100 saleRun hok 0 row hrow hconfirmed hsource
  exact ⟨hok, row, x, r, hrow, hconfirmed, hx, hr⟩

/-- A contract gets a manual car by its label, is switched to stock without a
stock item, and is confirmed. -/
def relabelledRun : List (ℕ × Choice) :=
  [(0, .request desk (.createContract 1 (.customer 7))),
    (0, .request desk (.updateContract 1 0 1
      ⟨{ vehicleSource := some (some .manual)
         vehicleLabel := some (some "Golf")
         manualBasePrice := some (some 100) }, by decide +kernel⟩)),
    (0, .request desk (.updateContract 1 0 2
      ⟨{ vehicleSource := some (some .stock) }, by decide +kernel⟩))] ++ confirms 0 0 3

/-- It is a signed stock sale without a stock item and without a reservation. -/
theorem relabelledRun_holds_no_car :
    ∃ row, (relabelledRun.foldl (move step) (start showroom ∅ 100)).shared.sales.contracts.lookup 0
        = some row ∧ row.legacyTransactionId = none ∧ row.status = .confirmed ∧
      row.vehicleSource = some .stock ∧ row.stockItemId = none ∧ row.reservationId = none := by
  have hrow : ((relabelledRun.foldl (move step) (start showroom ∅ 100)).shared.sales.contracts.lookup
      0).map (fun row => (row.legacyTransactionId, row.status, row.vehicleSource, row.stockItemId,
        row.reservationId)) = some (none, .confirmed, some .stock, none, none) := by
    decide +kernel
  obtain ⟨row, hrow, hcolumns⟩ := Option.map_eq_some_iff.mp hrow
  simp only [Prod.mk.injEq] at hcolumns
  exact ⟨row, hrow, hcolumns⟩

end Nexotec.Confirmation
