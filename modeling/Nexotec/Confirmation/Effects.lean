/-
What one step of the confirmation system can do to the tables.

Of the many steps a session takes most only move locks or read.  `Effect`
lists the ones that write: a request, the consumption of an event, a new
reservation, a signature, a release (of a compensation or of a cancellation)
and a cancellation.  `step_effect` is the inversion of the step function, and
every invariant over runs starts from it.
-/
import Nexotec.Confirmation.Invariant

namespace Nexotec.Confirmation

open Interleaving

variable {ι : Type}

/-- The effect of a step on the tables, by where the session stood. -/
inductive Effect (sh sh' : Shared ι) : Local → Prop where
  | same {lo : Local} (htables : SameTables sh sh') : Effect sh sh' lo
  | request {reads : Reads} {request : Request} {sales : SalesDb}
      (hfree : ∀ c ∈ lockedBy request, sh.contractLock c = none)
      (hsales : handle reads sh.sales request = .ok sales)
      (hcontracts : sh'.sales.contracts = sales.contracts) (hstock : sh'.stock = sh.stock)
      (hnext : sh'.nextId = sh.nextId) (houtbox : sh'.outbox = sh.outbox) :
      Effect sh sh' .idle
  | confirmedEvent {reads : ConsumerReads} {tenantId : Uuid} {payload : ConfirmedPayload}
      (hmem : Event.confirmed tenantId payload ∈ sh.outbox)
      (hhandled : handleSalesContractConfirmed reads sh.stock tenantId payload = .ok sh'.stock)
      (huuid : reads.uuid = fun k => sh.nextId + k) (hnext : sh'.nextId = sh.nextId + 3)
      (hcontracts : sh'.sales.contracts = sh.sales.contracts) (houtbox : sh'.outbox = sh.outbox) :
      Effect sh sh' .idle
  | cancelledEvent {now : Time} {tenantId contractId : Uuid}
      (hmem : Event.cancelled tenantId contractId ∈ sh.outbox)
      (hunlocked : ∀ x item, sh.stock.items.lookup x = some item →
        heldBy tenantId contractId item = true → sh.itemLock x = none)
      (hstock : sh'.stock = recordContractCancelled now sh.stock tenantId contractId)
      (hnext : sh'.nextId = sh.nextId) (hcontracts : sh'.sales.contracts = sh.sales.contracts)
      (houtbox : sh'.outbox = sh.outbox) :
      Effect sh sh' .idle
  | reserve {job : Job} {newlyUsed : Bool} {x : Uuid} {item : StockItem}
      {records : Table (IdempotencyKey × Uuid) IdempotencyRecord}
      (hfree : item.reservationState ≠ .reserved)
      (hstock : sh'.stock = { sh.stock with
        items := sh.stock.items.modify x
          (reserveAndFlush job.reads.now job.contractId sh.nextId)
        records := records })
      (hrecords : records = sh.stock.records ∨
        records = sh.stock.records.insert (.confirm job.contractId, job.contract.tenantId)
          { requestPath := .reserve x
            requestBody := some job.contractId
            responseReservationId := some sh.nextId
            responseStockItemId := x })
      (hnext : sh'.nextId = sh.nextId + 1) (hcontracts : sh'.sales.contracts = sh.sales.contracts)
      (houtbox : sh'.outbox = sh.outbox) :
      Effect sh sh' (.reserving job newlyUsed x item)
  | sign {job : Job} {newlyUsed : Bool} {reservationId : Option Uuid}
      (hcontracts : sh'.sales.contracts = sh.sales.contracts.insert job.contractId
        (confirmedRow job.reads reservationId job.contract))
      (hstock : sh'.stock = sh.stock) (hnext : sh'.nextId = sh.nextId)
      (houtbox : sh'.outbox = sh.outbox ++ [.confirmed job.contract.tenantId
        (confirmedEventPayload job.contractId
          (confirmedRow job.reads reservationId job.contract).toDeal)]) :
      Effect sh sh' (.reserved job newlyUsed reservationId)
  | undoRelease {now : Time} {undo : Undo} {reservationId x : Uuid} {item : StockItem}
      (hstock : sh'.stock = { sh.stock with
        items := sh.stock.items.modify x (releaseAndFlush now)
        records := sh.stock.records.insert
          (.confirmCompensate undo.contractId reservationId, undo.tenantId)
          { requestPath := .release reservationId
            requestBody := none
            responseStockItemId := x } })
      (hnext : sh'.nextId = sh.nextId) (hcontracts : sh'.sales.contracts = sh.sales.contracts)
      (houtbox : sh'.outbox = sh.outbox) :
      Effect sh sh' (.undoReleasing undo reservationId x item)
  | cancelRelease {now : Time} {job : Job} {reason : String} {reservationId x : Uuid}
      {item : StockItem}
      (hstock : sh'.stock = { sh.stock with
        items := sh.stock.items.modify x (releaseAndFlush now)
        records := sh.stock.records.insert
          (.cancel job.contractId, job.contract.tenantId)
          { requestPath := .release reservationId
            requestBody := none
            responseStockItemId := x } })
      (hnext : sh'.nextId = sh.nextId) (hcontracts : sh'.sales.contracts = sh.sales.contracts)
      (houtbox : sh'.outbox = sh.outbox) :
      Effect sh sh' (.cancelReleasing job reason reservationId x item)
  | cancel {job : Job} {reason : String}
      (hcontracts : sh'.sales.contracts = sh.sales.contracts.insert job.contractId
        (cancelledRow job.reads reason job.contract))
      (hstock : sh'.stock = sh.stock) (hnext : sh'.nextId = sh.nextId)
      (houtbox : sh'.outbox = sh.outbox ++ [.cancelled job.contract.tenantId job.contractId]) :
      Effect sh sh' (.cancelReleased job reason)

@[simp] theorem unlockContract_sales (c : Option Uuid) (sh : Shared ι) :
    (unlockContract c sh).sales = sh.sales := by cases c <;> rfl

@[simp] theorem unlockContract_stock (c : Option Uuid) (sh : Shared ι) :
    (unlockContract c sh).stock = sh.stock := by cases c <;> rfl

@[simp] theorem unlockContract_nextId (c : Option Uuid) (sh : Shared ι) :
    (unlockContract c sh).nextId = sh.nextId := by cases c <;> rfl

@[simp] theorem unlockContract_outbox (c : Option Uuid) (sh : Shared ι) :
    (unlockContract c sh).outbox = sh.outbox := by cases c <;> rfl

@[simp] theorem unlockItem_sales (x : Option Uuid) (sh : Shared ι) :
    (unlockItem x sh).sales = sh.sales := by cases x <;> rfl

@[simp] theorem unlockItem_stock (x : Option Uuid) (sh : Shared ι) :
    (unlockItem x sh).stock = sh.stock := by cases x <;> rfl

@[simp] theorem unlockItem_nextId (x : Option Uuid) (sh : Shared ι) :
    (unlockItem x sh).nextId = sh.nextId := by cases x <;> rfl

@[simp] theorem unlockItem_outbox (x : Option Uuid) (sh : Shared ι) :
    (unlockItem x sh).outbox = sh.outbox := by cases x <;> rfl

@[simp] theorem unlockItem_contractLock (x : Option Uuid) (sh : Shared ι) :
    (unlockItem x sh).contractLock = sh.contractLock := by cases x <;> rfl

/-- A session that gives its locks back writes nothing. -/
theorem sameTables_close (lo : Local) (sh : Shared ι) : SameTables sh (close lo sh) := by
  simp [SameTables, close]

theorem sameTables_unlockItem (x : Option Uuid) (sh : Shared ι) :
    SameTables sh (unlockItem x sh) := by
  simp [SameTables]

theorem sameTables_refl (sh : Shared ι) : SameTables sh sh :=
  ⟨rfl, rfl, Nat.le_refl _, rfl⟩

section Transactions

variable {i : ι} {sh sh' : Shared ι} {lo' : Local}

/-- A request of another session is the handler's own write. -/
theorem serve_effect {reads : Reads} {request : Request}
    (h : serve reads request sh = some sh') : Effect sh sh' .idle := by
  unfold serve at h
  split at h
  · next hfree =>
    split at h
    · next sales hsales =>
      cases h
      refine .request (fun c hc => ?_) hsales rfl rfl rfl rfl
      -- the contract it is about was free
      have hc' : lockedBy request = some c := hc
      rw [hc'] at hfree
      simpa using hfree
    · cases h
  · cases h

/-- Stock's consumers take events of the outbox only. -/
theorem consumeEvent_effect {reads : ConsumerReads} {event : Event}
    (h : consumeEvent reads event sh = some sh') : Effect sh sh' .idle := by
  unfold consumeEvent at h
  split at h
  · next hmem =>
    cases event with
    | confirmed tenantId payload =>
      simp only at h
      split at h
      · next stock hstock =>
        cases h
        exact .confirmedEvent hmem hstock rfl rfl rfl rfl
      · cases h
    | cancelled tenantId contractId =>
      simp only at h
      split at h
      · next hall =>
        cases h
        refine .cancelledEvent hmem (fun x item hrow hheld => ?_) rfl rfl rfl rfl
        -- the rows it releases were not locked
        rw [List.all_eq_true] at hall
        have hx := hall _ (Table.lookup_eq_some_iff_mem.mp hrow)
        simpa [hheld] using hx
      · cases h
  · cases h

/-- The load locks the contract and reads. -/
theorem load_effect {tenantId contractId : Uuid} {ifMatch : ℕ}
    (h : load i tenantId contractId ifMatch sh = some (sh', lo')) : SameTables sh sh' := by
  unfold load at h
  split at h
  · split at h
    · cases h
      exact ⟨rfl, rfl, Nat.le_refl _, rfl⟩
    · cases h
  · cases h

variable {outcome : Outcome} {job : Job}

/-- `consume` writes the valuations only, which `SameTables` leaves free. -/
theorem consume_effect (h : consume outcome job sh = (sh', lo')) : SameTables sh sh' := by
  unfold consume at h
  split at h
  · cases h
    exact sameTables_refl sh
  · split at h
    · cases h
      exact sameTables_close _ sh
    · cases outcome with
      | committed =>
        cases h
        exact ⟨rfl, rfl, Nat.le_refl _, rfl⟩
      | failed =>
        cases h
        exact sameTables_close _ sh
      | lost =>
        cases h
        simp [SameTables, close]

variable {newlyUsed : Bool}

/-- The head of a reservation locks the item or starts the compensation. -/
theorem reserveHead_effect (h : reserveHead i job newlyUsed sh = some (sh', lo')) :
    SameTables sh sh' := by
  unfold reserveHead at h
  split at h
  · cases h
    exact sameTables_refl sh
  · split at h
    · split at h
      · cases h
        exact ⟨rfl, rfl, Nat.le_refl _, rfl⟩
      · cases h
        exact sameTables_close _ sh
    · cases h

variable {x reservationId : Uuid} {item : StockItem}

/-- What the reservation call commits: a new reservation, or nothing. -/
theorem reserveLocked_effect {stock : StockDb}
    (h : reserveLocked job.reads.now sh.nextId sh.stock job.contract.tenantId x job.contractId
      (.confirm job.contractId) item = .ok (stock, reservationId)) (hstock : sh'.stock = stock)
    (hnext : sh'.nextId = sh.nextId + 1) (hcontracts : sh'.sales.contracts = sh.sales.contracts)
    (houtbox : sh'.outbox = sh.outbox) : Effect sh sh' (.reserving job newlyUsed x item) := by
  rcases reserveLocked_eq_ok h with ⟨rfl, -⟩ | ⟨hfree, -, -, records, rfl, hrecords⟩
  · -- the contract's live reservation: nothing is written
    exact .same ⟨hcontracts, hstock, by rw [hnext]; exact Nat.le_succ _, houtbox⟩
  · exact .reserve hfree hstock hrecords hnext hcontracts houtbox

/-- The reservation stands whether its answer arrives or is lost. -/
theorem reserveTail_effect (h : reserveTail outcome job newlyUsed x item sh = (sh', lo')) :
    Effect sh sh' (.reserving job newlyUsed x item) := by
  unfold reserveTail at h
  simp only at h
  split at h
  · cases h
    exact .same (sameTables_close _ sh)
  · next stock reservationId hok =>
    cases outcome with
    | committed =>
      cases h
      exact reserveLocked_effect hok (by simp) (by simp) (by simp) (by simp)
    | failed =>
      cases h
      exact .same (sameTables_close _ sh)
    | lost =>
      cases h
      exact reserveLocked_effect hok (by simp [close]) (by simp [close]) (by simp [close])
        (by simp [close])

/-- A signature whose answer is lost is committed all the same. -/
theorem sign_effect {reservationId : Option Uuid}
    (h : sign outcome job newlyUsed reservationId sh = (sh', lo')) :
    Effect sh sh' (.reserved job newlyUsed reservationId) := by
  unfold sign at h
  cases outcome with
  | committed =>
    cases h
    exact .sign (by simp [close]) (by simp [close]) (by simp [close])
      (by simp [close, confirmedRow])
  | failed =>
    cases h
    exact .same (sameTables_close _ sh)
  | lost =>
    cases h
    exact .sign (by simp [close]) (by simp [close]) (by simp [close])
      (by simp [close, confirmedRow])

variable {undo : Undo}

theorem undoHead_effect (h : undoHead i undo sh = some (sh', lo')) : SameTables sh sh' := by
  unfold undoHead at h
  split at h
  · split at h
    · cases h
      exact sameTables_refl sh
    · cases h
      exact ⟨rfl, rfl, Nat.le_refl _, rfl⟩
  · cases h

theorem undoReleaseHead_effect (h : undoReleaseHead i undo sh = some (sh', lo')) :
    SameTables sh sh' := by
  unfold undoReleaseHead at h
  split at h
  · cases h
  · split at h
    · split at h
      · cases h
        exact ⟨rfl, rfl, Nat.le_refl _, rfl⟩
      · cases h
    · cases h
      exact sameTables_refl sh
    · cases h
      exact sameTables_refl sh

/-- The compensating release of one item, with its record. -/
theorem undoReleaseTail_effect {now : Time}
    (h : undoReleaseTail now outcome undo reservationId x sh = (sh', lo')) :
    Effect sh sh' (.undoReleasing undo reservationId x item) := by
  unfold undoReleaseTail at h
  simp only at h
  split at h
  · cases h
    exact .same (sameTables_unlockItem _ sh)
  · next stock hok =>
    cases outcome with
    | committed | lost =>
      cases h
      exact .undoRelease ((unlockItem_stock _ _).trans (releaseLocked_eq_ok hok))
        (by simp) (by simp) (by simp)
    | failed =>
      cases h
      exact .same (sameTables_unlockItem _ sh)

/-- The compensation ends with the valuations and the locks. -/
theorem undoRevert_effect (h : undoRevert outcome undo sh = some (sh', lo')) :
    SameTables sh sh' := by
  unfold undoRevert at h
  split at h
  · cases h
  · cases outcome with
    | committed | lost =>
      cases h
      simp [SameTables, close]
    | failed =>
      cases h
      exact sameTables_close _ sh

variable {reason : String}

theorem cancelReleaseHead_effect (h : cancelReleaseHead i job reason sh = some (sh', lo')) :
    SameTables sh sh' := by
  unfold cancelReleaseHead at h
  simp only at h
  split at h
  · cases h
    exact sameTables_refl sh
  · split at h
    · split at h
      · cases h
        exact ⟨rfl, rfl, Nat.le_refl _, rfl⟩
      · cases h
    · cases h
      exact sameTables_refl sh
    · split at h
      · cases h
        exact sameTables_refl sh
      · cases h
        exact sameTables_close _ sh

/-- The release of a cancellation, with its record. -/
theorem cancelReleaseTail_effect {now : Time}
    (h : cancelReleaseTail now outcome job reason reservationId x item sh = (sh', lo')) :
    Effect sh sh' (.cancelReleasing job reason reservationId x item) := by
  unfold cancelReleaseTail at h
  simp only at h
  split at h
  · cases h
    exact .same (sameTables_close _ sh)
  · next stock hok =>
    cases outcome with
    | committed =>
      cases h
      exact .cancelRelease ((unlockItem_stock _ _).trans (releaseLocked_eq_ok hok))
        (by simp) (by simp) (by simp)
    | failed =>
      cases h
      exact .same (sameTables_close _ sh)
    | lost =>
      cases h
      -- closing the session gives back more locks than the item's
      have hclosed : ∀ sh'' : Shared ι,
          (close (.cancelReleasing job reason reservationId x item) sh'').stock = sh''.stock := by
        simp [close]
      exact .cancelRelease ((hclosed _).trans (releaseLocked_eq_ok hok)) (by simp [close])
        (by simp [close]) (by simp [close])

/-- The cancelled row and its event. -/
theorem commitCancel_effect (h : commitCancel outcome job reason sh = (sh', lo')) :
    Effect sh sh' (.cancelReleased job reason) := by
  unfold commitCancel at h
  cases outcome with
  | committed | lost =>
    cases h
    exact .cancel (by simp [close]) (by simp [close]) (by simp [close])
      (by simp [close, cancelledRow])
  | failed =>
    cases h
    exact .same (sameTables_close _ sh)

end Transactions

/-- A session that fails rolls back, wherever it stands. -/
theorem step_fail (i : ι) (sh : Shared ι) (lo : Local) :
    step i .fail sh lo = some (close lo sh, .idle) := by
  cases lo <;> rfl

/-- **Every step is one of the effects.** -/
theorem step_effect {i : ι} {choice : Choice} {sh sh' : Shared ι} {lo lo' : Local}
    (h : step i choice sh lo = some (sh', lo')) : Effect sh sh' lo := by
  cases choice with
  | request reads request =>
    cases lo with
    | idle =>
      obtain ⟨sh'', hserve, heq⟩ := Option.map_eq_some_iff.mp h
      cases heq
      exact serve_effect hserve
    | _ => cases h
  | deliver reads event =>
    cases lo with
    | idle =>
      obtain ⟨sh'', hconsume, heq⟩ := Option.map_eq_some_iff.mp h
      cases heq
      exact consumeEvent_effect hconsume
    | _ => cases h
  | load tenantId contractId ifMatch =>
    cases lo with
    | idle => exact .same (load_effect h)
    | _ => cases h
  | confirm reads =>
    cases lo with
    | loaded contractId contract =>
      simp only [step] at h
      split at h
      · cases h
        exact .same (sameTables_refl sh)
      · cases h
        exact .same (sameTables_close _ sh)
    | _ => cases h
  | cancel reads reason =>
    cases lo with
    | loaded contractId contract =>
      simp only [step] at h
      split at h
      · cases h
        exact .same (sameTables_refl sh)
      · cases h
        exact .same (sameTables_close _ sh)
    | _ => cases h
  | consume outcome =>
    cases lo with
    | guarded job => exact .same (consume_effect (Option.some.inj h))
    | _ => cases h
  | lockItem =>
    cases lo with
    | consumed job newlyUsed => exact .same (reserveHead_effect h)
    | _ => cases h
  | reserve outcome =>
    cases lo with
    | reserving job newlyUsed x item => exact reserveTail_effect (Option.some.inj h)
    | _ => cases h
  | sign outcome =>
    cases lo with
    | reserved job newlyUsed reservationId => exact sign_effect (Option.some.inj h)
    | _ => cases h
  | lockContract =>
    cases lo with
    | compensating undo => exact .same (undoHead_effect h)
    | _ => cases h
  | lockReservation =>
    cases lo with
    | undoing undo => exact .same (undoReleaseHead_effect h)
    | cancelling job reason => exact .same (cancelReleaseHead_effect h)
    | _ => cases h
  | release now outcome =>
    cases lo with
    | undoReleasing undo reservationId x item =>
      exact undoReleaseTail_effect (Option.some.inj h)
    | cancelReleasing job reason reservationId x item =>
      exact cancelReleaseTail_effect (Option.some.inj h)
    | _ => cases h
  | revertUse outcome =>
    cases lo with
    | undoing undo => exact .same (undoRevert_effect h)
    | _ => cases h
  | commitCancel outcome =>
    cases lo with
    | cancelReleased job reason => exact commitCancel_effect (Option.some.inj h)
    | _ => cases h
  | fail =>
    cases (step_fail i sh lo).symm.trans h
    exact .same (sameTables_close _ sh)

end Nexotec.Confirmation
