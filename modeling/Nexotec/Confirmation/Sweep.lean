/-
No leaked hold after the nightly sweep.

The sweep of `Nexotec.Inventory.ReservationSweep` judges a hold by the status
of its holder alone.  A car that a failed attempt left reserved for a pending
contract is therefore freed only while the contract is pending; if the
contract has been moved to another car and signed, the sweep keeps both.
-/
import Nexotec.Confirmation.Agreement
import Nexotec.Inventory.ReservationSweep

namespace Nexotec.Confirmation

open Interleaving

variable {ι : Type}

variable {sh sh' : Shared ι} {lo : Local} {x : Uuid} {item : StockItem}

/-- An item held by a contract was held by it before, has just been reserved
by its confirmation, or is its manual pipeline item. -/
theorem Effect.holder (h : Effect sh sh' lo) {c : Uuid}
    (hrow : sh'.stock.items.lookup x = some item) (hheld : item.reservedByContractId = some c) :
    (∃ old, sh.stock.items.lookup x = some old ∧ old.reservedByContractId = some c ∧
      item.pipelineRef = old.pipelineRef) ∨
    (∃ job newlyUsed locked, lo = .reserving job newlyUsed x locked ∧ c = job.contractId) ∨
    item.pipelineRef = some ⟨c, .manual⟩ := by
  have hkept : sh'.stock.items = sh.stock.items →
      ∃ old, sh.stock.items.lookup x = some old ∧ old.reservedByContractId = some c ∧
        item.pipelineRef = old.pipelineRef := by
    intro heq
    rw [heq] at hrow
    exact ⟨item, hrow, hheld, rfl⟩
  have hreleased : ∀ y now, sh'.stock.items = sh.stock.items.modify y (releaseAndFlush now) →
      ∃ old, sh.stock.items.lookup x = some old ∧ old.reservedByContractId = some c ∧
        item.pipelineRef = old.pipelineRef := by
    intro y now heq
    rw [heq, Table.lookup_modify] at hrow
    split at hrow
    · obtain ⟨old, -, rfl⟩ := Option.map_eq_some_iff.mp hrow
      cases hheld
    · exact ⟨item, hrow, hheld, rfl⟩
  cases h with
  | same htables => exact .inl (hkept (by rw [htables.2.1]))
  | request hfree hsales hcontracts hstock hnext houtbox => exact .inl (hkept (by rw [hstock]))
  | @confirmedEvent reads tenantId payload hmem hhandled huuid hnext hcontracts houtbox =>
    rcases handleSalesContractConfirmed_lookup hhandled hrow with ⟨old, hold, hres, href, -⟩ |
      ⟨-, hfree⟩ | ⟨-, -, href, hres⟩
    · exact .inl ⟨old, hold, (reservation_contract hres).symm.trans hheld, href⟩
    · have hnone : item.reservedByContractId = none := congrArg (fun p => p.2.1) hfree
      rw [hnone] at hheld
      cases hheld
    · have hc : item.reservedByContractId = some payload.contractId :=
        congrArg (fun p => p.2.1) hres
      rw [Option.mem_unique hheld hc]
      exact .inr (.inr href)
  | @cancelledEvent now tenantId contractId hmem hunlocked hstock hnext hcontracts houtbox =>
    rw [hstock, recordContractCancelled_lookup] at hrow
    obtain ⟨old, hold, rfl⟩ := Option.map_eq_some_iff.mp hrow
    split at hheld
    · cases hheld
    · next hnot =>
      rw [if_neg hnot]
      exact .inl ⟨old, hold, hheld, rfl⟩
  | @reserve job newlyUsed y locked records hfree hstock hrecords hnext hcontracts houtbox =>
    rw [hstock, Table.lookup_modify] at hrow
    split at hrow
    · next hxy =>
      obtain ⟨old, -, rfl⟩ := Option.map_eq_some_iff.mp hrow
      rw [hxy]
      exact .inr (.inl ⟨job, newlyUsed, locked, rfl, (Option.some.inj hheld).symm⟩)
    · exact .inl ⟨item, hrow, hheld, rfl⟩
  | sign hcontracts hstock hnext houtbox => exact .inl (hkept (by rw [hstock]))
  | @undoRelease now undo r y locked hstock hnext hcontracts houtbox =>
    exact .inl (hreleased y now (by rw [hstock]))
  | @cancelRelease now job reason r y locked hstock hnext hcontracts houtbox =>
    exact .inl (hreleased y now (by rw [hstock]))
  | cancel hcontracts hstock hnext houtbox => exact .inl (hkept (by rw [hstock]))

/-- Every contract that is signed sells the items it holds. -/
def Sold (sh : Shared ι) : Prop :=
  ∀ x item c row, sh.stock.items.lookup x = some item → item.reservedByContractId = some c →
    sh.sales.contracts.lookup c = some row → row.status ≠ .pending → row.status ≠ .cancelled →
      row.stockItemId = some x ∨ item.pipelineRef = some ⟨c, .manual⟩

/-- The contract a session comes to sign holds no car but the one it sells. -/
def signsClean (sh : Shared ι) : Local → Choice → Bool
  | .reserved job _ _, .sign _ => sh.stock.items.entries.all fun e =>
      e.2.reservedByContractId ≠ some job.contractId ∨
        stockItemToReserve job.contract.toDeal = some e.1
  | _, _ => true

theorem signsClean_sign {job : Job} {newlyUsed : Bool} {reservationId : Option Uuid}
    {outcome : Outcome}
    (h : signsClean sh (.reserved job newlyUsed reservationId) (.sign outcome) = true)
    (hrow : sh.stock.items.lookup x = some item)
    (hheld : item.reservedByContractId = some job.contractId) :
    stockItemToReserve job.contract.toDeal = some x := by
  have hall := List.all_eq_true.mp h _ (Table.lookup_eq_some_iff_mem.mp hrow)
  simpa [hheld] using hall

/-- A step keeps that signed contracts sell what they hold, if no contract is signed with another car
still reserved for it. -/
theorem step_sold {i : ι} {choice : Choice} {lo' : Local} (hk : Knows i sh lo) (hsold : Sold sh)
    (hclean : signsClean sh lo choice = true) (hstep : step i choice sh lo = some (sh', lo')) :
    Sold sh' := by
  intro x item c row hitem hheld hrow hpending hcancelled
  have heffect := step_effect hstep
  rcases heffect.signed hrow hpending hcancelled with hold |
    ⟨job, newlyUsed, reservationId, rfl, rfl, rfl, hstock⟩
  · -- signed before: a new hold is the manual pipeline item's
    rcases heffect.holder hitem hheld with ⟨old, holdItem, hby, href⟩ |
      ⟨job, newlyUsed, locked, rfl, rfl⟩ | href
    · rw [href]
      exact hsold x old c row holdItem hby hold hpending hcancelled
    · have hjob : job.contract = row := Option.mem_unique hk.1.2 hold
      rw [← hjob] at hpending
      exact absurd hk.2.1 hpending
    · exact .inr href
  · -- signed now: what it holds is what it sells
    rw [hstock] at hitem
    rcases step_reserved hstep with ⟨outcome, rfl⟩ | htables
    · have hsells := signsClean_sign hclean hitem hheld
      rw [stockItemToReserve] at hsells
      split at hsells
      · exact .inl hsells
      · cases hsells
    · rw [htables.1] at hrow
      exact hsold x item _ _ hitem hheld hrow hpending hcancelled

variable [DecidableEq ι]

/-- No contract is signed while another car is still reserved for it. -/
def SignsClean (cfg : Config ι (Shared ι) Local) (a : ι × Choice) : Prop :=
  signsClean cfg.shared (cfg.locals a.1) a.2 = true

instance (cfg : Config ι (Shared ι) Local) (a : ι × Choice) : Decidable (SignsClean cfg a) :=
  inferInstanceAs (Decidable (signsClean cfg.shared (cfg.locals a.1) a.2 = true))

theorem sold_run (stock : FreeStock) (valuations : Table Uuid Valuation) (nextId : Uuid)
    {as : List (ι × Choice)}
    (hok : Run.Along (move step) SignsClean (start stock valuations nextId) as) :
    Holds Good Knows (as.foldl (move step) (start stock valuations nextId)) ∧
      Sold (as.foldl (move step) (start stock valuations nextId)).shared := by
  have hmove : ∀ (cfg : Config ι (Shared ι) Local) (a : ι × Choice),
      (Holds Good Knows cfg ∧ Sold cfg.shared) → SignsClean cfg a →
        Holds Good Knows (move step cfg a) ∧ Sold (move step cfg a).shared := by
    rintro cfg a ⟨hinv, hsold⟩ ha
    refine ⟨move_invariant hinv a, ?_⟩
    exact move_shared hsold fun sh lo hstep => step_sold (hinv.2 a.1) hsold ha hstep
  refine Run.invariant_along hmove ⟨good_start stock valuations nextId, ?_⟩ hok
  intro x item c row _ _ hrow
  cases hrow

/-- **No leaked hold.**  In every run that signs no contract while another car
is still reserved for it, if the sweep runs with every item older than the
margin and no release breaks, every item that is reserved afterwards is held
by a CONFIRMED or INVOICED contract that sells it. -/
theorem no_leaked_hold (stock : FreeStock) (valuations : Table Uuid Valuation) (nextId : Uuid)
    (as : List (ι × Choice))
    (hok : Run.Along (move step) SignsClean (start stock valuations nextId) as) (now : Time) :
    let sh := (as.foldl (move step) (start stock valuations nextId)).shared
    (∀ x item, sh.stock.items.lookup x = some item → pendingMargin ≤ now - item.updatedAt) →
    ∀ x item, (releaseOrphanedReservations (fun _ => false) now sh.sales.contracts
        sh.stock).1.items.lookup x = some item → item.reservationState = .reserved →
      ∃ c row, item.reservedByContractId = some c ∧ sh.sales.contracts.lookup c = some row ∧
        (row.status = .confirmed ∨ row.status = .invoiced) ∧
        (row.stockItemId = some x ∨ item.pipelineRef = some ⟨c, .manual⟩) := by
  intro sh hmargin x item hitem hreserved
  obtain ⟨hinv, hsold⟩ := sold_run stock valuations nextId hok
  have hactive : ∀ x item, sh.stock.items.lookup x = some item →
      item.reservationState = .reserved → ∃ r, item.activeReservationId = some r := by
    intro x item hrow hstate
    rcases hinv.1.items x item hrow with hfree | ⟨c, r, -, hres⟩
    · have hnone : item.reservationState = .none := congrArg (fun p => p.1) hfree
      rw [hnone] at hstate
      cases hstate
    · exact ⟨r, congrArg (fun p => p.2.2) hres⟩
  obtain ⟨hold, c, row, hby, hrow, -, hsigned⟩ := releaseOrphanedReservations_signed hactive
    hinv.1.distinct hinv.1.sweepRecords hmargin hitem hreserved
  have hstatus : row.status = .confirmed ∨ row.status = .invoiced := by
    cases hs : row.status with
    | confirmed => exact .inl rfl
    | invoiced => exact .inr rfl
    | pending =>
      rw [hs] at hsigned
      cases hsigned
    | cancelled =>
      rw [hs] at hsigned
      cases hsigned
  refine ⟨c, row, hby, hrow, hstatus, hsold x item c row hold hby hrow ?_ ?_⟩
  · rcases hstatus with hs | hs <;> rw [hs] <;> decide
  · rcases hstatus with hs | hs <;> rw [hs] <;> decide

theorem no_leaked_hold_saleRun : Run.Along (move step) SignsClean (start showroom ∅ 100) saleRun ∧
      ∃ item c row, (releaseOrphanedReservations (fun _ => false) pendingMargin
          (saleRun.foldl (move step) (start showroom ∅ 100)).shared.sales.contracts
          (saleRun.foldl (move step) (start showroom ∅ 100)).shared.stock).1.items.lookup 3
            = some item ∧ item.reservedByContractId = some c ∧
        (saleRun.foldl (move step) (start showroom ∅ 100)).shared.sales.contracts.lookup c
          = some row ∧ (row.stockItemId = some 3 ∨ item.pipelineRef = some ⟨c, .manual⟩) := by
  have hok : Run.Along (move step) SignsClean (start showroom ∅ 100) saleRun := by decide +kernel
  have hentries : ∀ e ∈ (saleRun.foldl (move step) (start showroom ∅ 100)).shared.stock.items.entries,
      pendingMargin ≤ pendingMargin - e.2.updatedAt := by
    decide +kernel
  have hitem : ((releaseOrphanedReservations (fun _ => false) pendingMargin
      (saleRun.foldl (move step) (start showroom ∅ 100)).shared.sales.contracts
      (saleRun.foldl (move step) (start showroom ∅ 100)).shared.stock).1.items.lookup 3).map
        (·.reservationState) = some .reserved := by
    decide +kernel
  obtain ⟨item, hitem, hreserved⟩ := Option.map_eq_some_iff.mp hitem
  obtain ⟨c, row, hby, hrow, -, hsells⟩ := no_leaked_hold showroom ∅ 100 saleRun hok pendingMargin
    (fun x item hrow => hentries _ (Table.lookup_eq_some_iff_mem.mp hrow)) 3 item hitem hreserved
  exact ⟨hok, item, c, row, hitem, hby, hrow, hsells⟩

/-- An attempt on car 3 fails at its commit and its compensating release fails
too; the contract is moved to a manual car and confirmed. -/
def leakedRun : List (ℕ × Choice) :=
  opens 0 3 ++ reserves 0 0 3 ++
    [(0, .sign .failed), (0, .lockContract), (0, .lockReservation), (0, .release 0 .failed),
      (0, .revertUse .committed),
      (0, .request desk (.updateContract 1 0 3
        ⟨{ vehicleSource := some (some .manual)
           stockItemId := some none
           vehicleLabel := some (some "Polo")
           manualBasePrice := some (some 100) }, by decide +kernel⟩))] ++ confirms 0 0 4

/-- After the sweep car 3 is still reserved for the signed contract, which does
not sell it. -/
theorem leakedRun_keeps_hold :
    let cfg := leakedRun.foldl (move step) (start showroom ∅ 100)
    let swept := releaseOrphanedReservations (fun _ => false) pendingMargin
      cfg.shared.sales.contracts cfg.shared.stock
    cfg.shared.contractLock 0 = none ∧
    (cfg.shared.stock.items.entries.all fun e => pendingMargin ≤ pendingMargin - e.2.updatedAt) ∧
    swept.2.failed = [] ∧
    (swept.1.items.lookup 3).map (fun item => (item.reservationState, item.reservedByContractId,
      item.pipelineRef)) = some (.reserved, some 0, none) ∧
    (cfg.shared.sales.contracts.lookup 0).map (fun row => (row.status, row.vehicleSource,
      row.stockItemId)) = some (.confirmed, some .manual, none) := by
  decide +kernel

end Nexotec.Confirmation
