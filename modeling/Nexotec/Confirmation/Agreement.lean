/-
Sales and Stock agree about the cars of signed contracts.

A cancellation releases the car before its own commit, so between the two a
CONFIRMED contract holds nothing; `MidCancel` names that window.  Outside of
it, and as long as no cancellation is lost between its release and its commit
(`completes`), a CONFIRMED contract with a stock item holds it:

* `Effect.confirmed` — a CONFIRMED row was there before the step, or the step
  signed it;
* `move_agrees` — a step keeps the agreement;
* `reservations_agree` — it holds after every run.
-/
import Nexotec.Confirmation.Reachable

namespace Nexotec.Confirmation

open Interleaving

variable {ι : Type}

variable {sh sh' : Shared ι} {c : Uuid} {row : SalesContract} {lo : Local}

theorem Effect.signed (h : Effect sh sh' lo) (hrow : sh'.sales.contracts.lookup c = some row)
    (hpending : row.status ≠ .pending) (hcancelled : row.status ≠ .cancelled) :
    sh.sales.contracts.lookup c = some row ∨
    ∃ job newlyUsed reservationId, lo = .reserved job newlyUsed reservationId ∧
      c = job.contractId ∧ row = confirmedRow job.reads reservationId job.contract ∧
      sh'.stock = sh.stock := by
  have hkept : sh'.sales.contracts = sh.sales.contracts →
      sh.sales.contracts.lookup c = some row := by
    intro hcontracts
    rw [← hcontracts]
    exact hrow
  cases h with
  | same htables => exact .inl (hkept htables.1)
  | request hfree hsales hcontracts hstock hnext houtbox =>
    rw [hcontracts] at hrow
    rcases request_rows hsales hrow with hold | ⟨hstill, -⟩
    · exact .inl hold
    · exact absurd hstill hpending
  | confirmedEvent hmem hhandled huuid hnext hcontracts houtbox => exact .inl (hkept hcontracts)
  | cancelledEvent hmem hunlocked hstock hnext hcontracts houtbox => exact .inl (hkept hcontracts)
  | reserve hfree hstock hrecords hnext hcontracts houtbox => exact .inl (hkept hcontracts)
  | sign hcontracts hstock hnext houtbox =>
    rw [hcontracts] at hrow
    rcases Table.lookup_insert_cases hrow with ⟨hc, hnew⟩ | ⟨-, hold⟩
    · exact .inr ⟨_, _, _, rfl, hc, hnew, hstock⟩
    · exact .inl hold
  | undoRelease hstock hnext hcontracts houtbox => exact .inl (hkept hcontracts)
  | cancelRelease hstock hnext hcontracts houtbox => exact .inl (hkept hcontracts)
  | cancel hcontracts hstock hnext houtbox =>
    rw [hcontracts] at hrow
    rcases Table.lookup_insert_cases hrow with ⟨-, hnew⟩ | ⟨-, hold⟩
    · rw [hnew] at hcancelled
      exact absurd rfl hcancelled
    · exact .inl hold

theorem Effect.confirmed (h : Effect sh sh' lo) (hrow : sh'.sales.contracts.lookup c = some row)
    (hconfirmed : row.status = .confirmed) : sh.sales.contracts.lookup c = some row ∨
    ∃ job newlyUsed reservationId, lo = .reserved job newlyUsed reservationId ∧
      c = job.contractId ∧ row = confirmedRow job.reads reservationId job.contract ∧
      sh'.stock = sh.stock :=
  h.signed hrow (by rw [hconfirmed]; decide) (by rw [hconfirmed]; decide)

variable {i : ι} {choice : Choice} {lo' : Local} {job : Job} {reservationId : Option Uuid}

theorem step_reserved {newlyUsed : Bool}
    (h : step i choice sh (.reserved job newlyUsed reservationId) = some (sh', lo')) :
    (∃ outcome, choice = .sign outcome) ∨ SameTables sh sh' := by
  cases choice with
  | sign outcome => exact .inl ⟨outcome, rfl⟩
  | fail =>
    cases h
    exact .inr (sameTables_close _ sh)
  | _ => cases h

/-! ### Cancellations -/

/-- A session has ended the contract's hold and not yet cancelled the contract. -/
def MidCancel (cfg : Config ι (Shared ι) Local) (c : Uuid) : Prop :=
  ∃ i job reason, cfg.locals i = .cancelReleased job reason ∧ job.contractId = c

variable {cfg : Config ι (Shared ι) Local}

theorem MidCancel.locked (h : MidCancel cfg c) (hinv : Holds Good Knows cfg) :
    cfg.shared.contractLock c ≠ none := by
  obtain ⟨i, job, reason, hlo, hc⟩ := h
  have hk := hinv.2 i
  rw [hlo] at hk
  rw [← hc, hk.1]
  simp

/-- A cancellation of a signed contract that has released the car goes through. -/
def completes : Local → Choice → Bool
  | .cancelReleasing .., .release _ outcome => outcome ≠ .lost
  | .cancelReleased job _, .fail => job.contract.status ≠ .confirmed
  | .cancelReleased job _, .commitCancel outcome =>
    job.contract.status ≠ .confirmed ∨ outcome ≠ .failed
  | _, _ => true

variable {x : Uuid} {reason : String} {r : Uuid} {item : StockItem}

theorem step_cancelReleasing
    (h : step i choice sh (.cancelReleasing job reason r x item) = some (sh', lo'))
    (hok : completes (.cancelReleasing job reason r x item) choice = true) :
    SameTables sh sh' ∨ lo' = .cancelReleased job reason := by
  cases choice with
  | release now outcome =>
    have htail := Option.some.inj h
    unfold cancelReleaseTail at htail
    simp only at htail
    split at htail
    · cases htail
      exact .inl (sameTables_close _ sh)
    · cases outcome with
      | committed =>
        cases htail
        exact .inr rfl
      | failed =>
        cases htail
        exact .inl (sameTables_close _ sh)
      | lost => simp [completes] at hok
  | fail =>
    cases h
    exact .inl (sameTables_close _ sh)
  | _ => cases h

theorem step_cancelReleased (h : step i choice sh (.cancelReleased job reason) = some (sh', lo'))
    (hok : completes (.cancelReleased job reason) choice = true)
    (hconfirmed : job.contract.status = .confirmed) :
    sh'.sales.contracts.lookup job.contractId = some (cancelledRow job.reads reason job.contract) := by
  cases choice with
  | commitCancel outcome =>
    have hcommit := Option.some.inj h
    unfold commitCancel at hcommit
    cases outcome with
    | committed | lost =>
      cases hcommit
      simp [close]
    | failed => simp [completes, hconfirmed] at hok
  | fail => simp [completes, hconfirmed] at hok
  | _ => cases h

/-! ### Agreement -/

/-- Every CONFIRMED contract with a stock item holds it, unless it is being
cancelled. -/
def Agrees (cfg : Config ι (Shared ι) Local) : Prop :=
  ∀ c row x, cfg.shared.sales.contracts.lookup c = some row → row.status = .confirmed →
    stockItemToReserve row.toDeal = some x → ¬ MidCancel cfg c →
      ∃ r, row.reservationId = some r ∧ HeldAt cfg.shared x c r

theorem Backed.held (h : Backed sh job reservationId)
    (hx : stockItemToReserve job.contract.toDeal = some x) :
    ∃ r, reservationId = some r ∧ HeldAt sh x job.contractId r := by
  simp only [Backed, hx] at h
  obtain ⟨r, hr, -, hheld⟩ := h
  exact ⟨r, hr, hheld⟩

theorem Knows.unsigned_of_undoReleasing {undo : Undo} (hg : Good sh)
    (hk : Knows i sh (.undoReleasing undo r x item))
    (hrow : sh.sales.contracts.lookup undo.contractId = some row) : row.status ≠ .confirmed := by
  intro hconfirmed
  obtain ⟨-, ⟨-, unsigned, hunsigned, -, hnone⟩, -⟩ := hk
  have hsame : unsigned = row := Option.mem_unique hunsigned hrow
  rw [hsame] at hnone
  exact (hg.rows _ row hrow).signed hconfirmed hnone

variable [DecidableEq ι]

theorem move_agrees (h : Holds Good Knows cfg) (hagrees : Agrees cfg) {a : ι × Choice}
    (hok : completes (cfg.locals a.1) a.2 = true) : Agrees (move step cfg a) := by
  cases hstep : step a.1 a.2 cfg.shared (cfg.locals a.1) with
  | none =>
    rw [move_none hstep]
    exact hagrees
  | some p =>
    obtain ⟨sh', lo'⟩ := p
    rw [move_some hstep]
    intro c row x hrow hconfirmed hx hnot
    have hk := h.2 a.1
    have heffect := step_effect hstep
    rcases heffect.confirmed hrow hconfirmed with hold |
      ⟨job, newlyUsed, reservationId, hlo, rfl, rfl, hstock⟩
    · -- signed before: the hold was there, and only a release could end it
      have hnotBefore : ¬ MidCancel cfg c := by
        rintro ⟨j, job, reason, hj, hc⟩
        by_cases hja : j = a.1
        · -- the session that was cancelling has committed
          rw [hja] at hj
          rw [hj] at hk hstep hok
          rw [← hc] at hold hrow
          have hjob : job.contract = row := Option.mem_unique hk.2 hold
          have hnew := step_cancelReleased hstep hok (by rw [hjob]; exact hconfirmed)
          have hcancelled : row = cancelledRow job.reads reason job.contract :=
            Option.mem_unique hrow hnew
          rw [hcancelled] at hconfirmed
          cases hconfirmed
        · refine hnot ⟨j, job, reason, ?_, hc⟩
          simp only [Function.update_of_ne hja]
          exact hj
      obtain ⟨r, hr, hheld⟩ := hagrees c row x hold hconfirmed hx hnotBefore
      refine ⟨r, hr, ?_⟩
      have hstatus : row.status ≠ .cancelled := by
        rw [hconfirmed]
        decide
      by_cases hreleasing : (cfg.locals a.1).releasing = some c
      · -- only a compensation and a cancellation release, and a compensation found it unsigned
        cases hlo : cfg.locals a.1 with
        | undoReleasing undo r' y item =>
          rw [hlo] at hk hreleasing
          have hc : undo.contractId = c := Option.some.inj hreleasing
          rw [← hc] at hold
          exact absurd hconfirmed (hk.unsigned_of_undoReleasing h.1 hold)
        | cancelReleasing job reason r' y item =>
          rw [hlo] at hstep hok hreleasing
          rcases step_cancelReleasing hstep hok with htables | hlo'
          · exact htables.heldAt.mpr hheld
          · -- the release went through: the contract is now being cancelled
            refine absurd ⟨a.1, job, reason, ?_, Option.some.inj hreleasing⟩ hnot
            simp only [Function.update_self]
            exact hlo'
        | _ =>
          rw [hlo] at hreleasing
          cases hreleasing
      · exact heffect.held h.1 hk hold hstatus hreleasing hheld
    · -- signed by this step, on the reservation that backs it
      rw [hlo] at hk
      obtain ⟨r, hr, hheld⟩ := hk.2.2.held hx
      refine ⟨r, hr, ?_⟩
      rw [HeldAt, hstock]
      exact hheld

def CancellationsComplete (cfg : Config ι (Shared ι) Local) (a : ι × Choice) : Prop :=
  completes (cfg.locals a.1) a.2 = true

instance (cfg : Config ι (Shared ι) Local) (a : ι × Choice) :
    Decidable (CancellationsComplete cfg a) :=
  inferInstanceAs (Decidable (completes (cfg.locals a.1) a.2 = true))

theorem agrees_run (stock : FreeStock) (valuations : Table Uuid Valuation) (nextId : Uuid)
    {as : List (ι × Choice)}
    (hok : Run.Along (move step) CancellationsComplete (start stock valuations nextId) as) :
    Holds Good Knows (as.foldl (move step) (start stock valuations nextId)) ∧
      Agrees (as.foldl (move step) (start stock valuations nextId)) := by
  have hmove : ∀ (cfg : Config ι (Shared ι) Local) (a : ι × Choice),
      (Holds Good Knows cfg ∧ Agrees cfg) → CancellationsComplete cfg a →
        Holds Good Knows (move step cfg a) ∧ Agrees (move step cfg a) := by
    rintro cfg a ⟨hinv, hagrees⟩ ha
    exact ⟨move_invariant hinv a, move_agrees hinv hagrees ha⟩
  refine Run.invariant_along hmove ⟨good_start stock valuations nextId, ?_⟩ hok
  intro c row x hrow
  cases hrow

/-- **Reservation agreement.**  In every run whose cancellations succeed, a
CONFIRMED contract with a stock item that is not just being cancelled holds
it under its own reservation id; so no two of them have one item, and no
compensation is ever about to release what a CONFIRMED contract points at. -/
theorem reservations_agree (stock : FreeStock) (valuations : Table Uuid Valuation) (nextId : Uuid)
    (as : List (ι × Choice))
    (hok : Run.Along (move step) CancellationsComplete (start stock valuations nextId) as) :
    let cfg := as.foldl (move step) (start stock valuations nextId)
    let Sells := fun (c : Uuid) (row : SalesContract) (x : Uuid) =>
      cfg.shared.sales.contracts.lookup c = some row ∧ row.status = .confirmed ∧
        row.vehicleSource = some .stock ∧ row.stockItemId = some x ∧ ¬ MidCancel cfg c
    (∀ c row x, Sells c row x → ∃ r item, row.reservationId = some r ∧
      cfg.shared.stock.items.lookup x = some item ∧ item.reservationState = .reserved ∧
      item.reservedByContractId = some c ∧ item.activeReservationId = some r) ∧
    (∀ c c' row row' x, Sells c row x → Sells c' row' x → c = c') ∧
    (∀ i undo r x item, cfg.locals i = .undoReleasing undo r x item →
      ∀ c row, cfg.shared.sales.contracts.lookup c = some row → row.status = .confirmed →
        row.reservationId ≠ some r) := by
  intro cfg Sells
  obtain ⟨hinv, hagrees⟩ := agrees_run stock valuations nextId hok
  have hholds : ∀ c row x, Sells c row x → ∃ r item, row.reservationId = some r ∧
      cfg.shared.stock.items.lookup x = some item ∧ item.reservationState = .reserved ∧
      item.reservedByContractId = some c ∧ item.activeReservationId = some r := by
    rintro c row x ⟨hrow, hconfirmed, hsource, hx, hnot⟩
    have hitem : stockItemToReserve row.toDeal = some x := by
      rw [stockItemToReserve, if_pos hsource]
      exact hx
    obtain ⟨r, hr, item, hlookup, hfor⟩ := hagrees c row x hrow hconfirmed hitem hnot
    exact ⟨r, item, hr, hlookup, hfor⟩
  refine ⟨hholds, ?_, ?_⟩
  · intro c c' row row' x hsells hsells'
    obtain ⟨r, item, -, hitem, -, hby, -⟩ := hholds c row x hsells
    obtain ⟨r', item', -, hitem', -, hby', -⟩ := hholds c' row' x hsells'
    have hsame : item = item' := Option.mem_unique hitem hitem'
    rw [hsame] at hby
    exact Option.mem_unique hby hby'
  · intro i undo r x item hlo c row hrow hconfirmed hr
    have hk := hinv.2 i
    rw [hlo] at hk
    obtain ⟨⟨-, locked, hlocked, hsame, -⟩, hactive, howned⟩ := hk.2.2
    have hreserved : locked.activeReservationId = some r := (reservation_active hsame).trans hactive
    -- the reservation has one owner, and the compensated contract is unsigned
    have hmine := howned.2 x locked hlocked hreserved
    have hsigned := ((hinv.1.rows c row hrow).owned r hr).2 x locked hlocked hreserved
    have hc : undo.contractId = c := Option.mem_unique hmine hsigned
    rw [← hc] at hrow
    exact hk.unsigned_of_undoReleasing hinv.1 hrow hconfirmed

/-- Contract 0 is confirmed and cancelled on car 3; contract 1 confirms the car
between the release and the commit of the cancellation. -/
def handoverRun : List (ℕ × Choice) :=
  opens 0 3 ++ opens 1 3 ++ confirms 0 0 3 ++
    [(0, .load 1 0 4), (0, .cancel desk "withdrawn"), (0, .lockReservation),
      (0, .release 0 .committed)] ++ confirms 1 1 3

theorem reservations_agree_handoverRun :
    Run.Along (move step) CancellationsComplete (start showroom ∅ 100) handoverRun ∧
      ∃ r item, r = 101 ∧
        (handoverRun.foldl (move step) (start showroom ∅ 100)).shared.stock.items.lookup 3
          = some item ∧ item.HeldFor 1 r := by
  have hok : Run.Along (move step) CancellationsComplete (start showroom ∅ 100) handoverRun := by
    decide +kernel
  have hrow : ((handoverRun.foldl (move step) (start showroom ∅ 100)).shared.sales.contracts.lookup
      1).map (fun row => (row.status, row.vehicleSource, row.stockItemId, row.reservationId)) =
        some (.confirmed, some .stock, some 3, some 101) := by
    decide +kernel
  obtain ⟨row, hrow, hcolumns⟩ := Option.map_eq_some_iff.mp hrow
  simp only [Prod.mk.injEq] at hcolumns
  obtain ⟨hconfirmed, hsource, hx, hr⟩ := hcolumns
  have hnot : ¬ MidCancel (handoverRun.foldl (move step) (start showroom ∅ 100)) 1 := by
    intro hmid
    exact hmid.locked (invariant_run showroom ∅ 100 handoverRun) (by decide +kernel)
  obtain ⟨r, item, hr', hitem, hheld⟩ := (reservations_agree showroom ∅ 100 handoverRun hok).1 1 row 3
    ⟨hrow, hconfirmed, hsource, hx, hnot⟩
  exact ⟨hok, r, item, Option.mem_unique hr' hr, hitem, hheld⟩

/-- In between, contract 0 is CONFIRMED and its car is not reserved for it. -/
theorem handoverRun_disagrees :
    ¬ ∀ (stock : FreeStock) (valuations : Table Uuid Valuation) (nextId : Uuid)
        (before after : List (ℕ × Choice)),
      Run.Along (move step) CancellationsComplete (start stock valuations nextId)
        (before ++ after) →
      ∀ c row x, (before.foldl (move step) (start stock valuations nextId)).shared.sales.contracts.lookup
          c = some row → row.status = .confirmed → row.vehicleSource = some .stock →
        row.stockItemId = some x → ∃ r, row.reservationId = some r ∧
          HeldAt (before.foldl (move step) (start stock valuations nextId)).shared x c r := by
  intro h
  have hok : Run.Along (move step) CancellationsComplete (start showroom ∅ 100)
      (handoverRun ++ [(0, .commitCancel .committed)]) := by
    decide +kernel
  have hrow : ((handoverRun.foldl (move step) (start showroom ∅ 100)).shared.sales.contracts.lookup
      0).map (fun row => (row.status, row.vehicleSource, row.stockItemId)) =
        some (.confirmed, some .stock, some 3) := by
    decide +kernel
  have hitem : ((handoverRun.foldl (move step) (start showroom ∅ 100)).shared.stock.items.lookup
      3).map (·.reservedByContractId) = some (some 1) := by
    decide +kernel
  obtain ⟨row, hrow, hcolumns⟩ := Option.map_eq_some_iff.mp hrow
  simp only [Prod.mk.injEq] at hcolumns
  obtain ⟨hconfirmed, hsource, hx⟩ := hcolumns
  obtain ⟨r, -, item, hlookup, -, hby, -⟩ :=
    h showroom ∅ 100 handoverRun _ hok 0 row 3 hrow hconfirmed hsource hx
  rw [hlookup, Option.map_some, hby] at hitem
  cases hitem

end Nexotec.Confirmation
