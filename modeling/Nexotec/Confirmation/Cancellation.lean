/-
One call of `cancel_contract`, with every point at which it may raise.

The release of the car commits on a session of its own before the contract's
transaction does, and nothing takes it back:

* `release_frees_held` — the release of a contract's live reservation is
  refused or frees the car;
* `cancel_keeps_car_iff` — a call that raises leaves the contract CONFIRMED and
  its car reserved exactly when nothing was released (`StopsBeforeRelease`).
-/
import Nexotec.Confirmation.Reachable

namespace Nexotec.Confirmation

open Interleaving

variable {ι : Type}

/-! ### The call -/

/-- Where `cancel_contract` may raise, in the order of the code. -/
inductive CancelPoint where
  | guard
  | openSession
  /-- Inside `release`, before its commit takes effect. -/
  | release
  /-- After that commit. -/
  | releaseReturn
  | flush
  | publish
  | projection
  | commit
  /-- The commit took effect, but its acknowledgement is lost. -/
  | commitReturn
  | refresh
  deriving DecidableEq

/-- A call's result; an exception comes with the point it was raised at. -/
abbrev CancelResult (α : Type) := Except (CancelPoint × AppError) α

def breaksAt (breaks : CancelPoint → Bool) (points : List CancelPoint) : CancelResult Unit :=
  match points.find? breaks with
  | some point => .error (point, internalError "connection lost")
  | none => .ok ()

/-- The first half of `cancel_contract`: the release, on a session of its own. -/
def cancelRelease (breaks : CancelPoint → Bool) (now : Time) (c : Uuid) (contract : SalesContract)
    (sh : Shared ι) : Shared ι × CancelResult Unit :=
  match (if contract.status = .confirmed then contract.reservationId else none) with
  | none => (sh, .ok ())
  | some reservationId =>
    match breaksAt breaks [.openSession, .release] with
    | .error e => (sh, .error e)
    | .ok _ =>
      match release now sh.stock contract.tenantId reservationId (.cancel c) with
      | .error e => (sh, if e.code = .notFound then .ok () else .error (.release, e))
      | .ok stock => ({ sh with stock := stock }, breaksAt breaks [.releaseReturn])

def cancelCommit (breaks : CancelPoint → Bool) (reads : Reads) (reason : String) (c : Uuid)
    (contract : SalesContract) (sh : Shared ι) : Shared ι × CancelResult SalesContract :=
  match breaksAt breaks [.flush, .publish, .projection, .commit] with
  | .error e => (sh, .error e)
  | .ok _ =>
    let row := cancelledRow reads reason contract
    ({ sh with
        sales := { sh.sales with contracts := sh.sales.contracts.insert c row }
        outbox := sh.outbox ++ [.cancelled row.tenantId c] },
      (breaksAt breaks [.commitReturn, .refresh]).map fun _ => row)

/-- `cancel_contract` on the row the request has locked. -/
def cancelContract (breaks : CancelPoint → Bool) (now : Time) (reads : Reads) (reason : String)
    (c : Uuid) (contract : SalesContract) (sh : Shared ι) :
    Shared ι × CancelResult SalesContract :=
  match requireCancellable contract with
  | .error e => (sh, .error (.guard, e))
  | .ok _ =>
    match cancelRelease breaks now c contract sh with
    | (sh, .error e) => (sh, .error e)
    | (sh, .ok _) => cancelCommit breaks reads reason c contract sh

/-- The call breaks before the release is committed, or the key of the release
was used with another request. -/
def StopsBeforeRelease (breaks : CancelPoint → Bool) (sh : Shared ι) (c r : Uuid)
    (contract : SalesContract) : Prop :=
  breaks .openSession = true ∨ breaks .release = true ∨
    ∃ record ∈ sh.stock.records.lookup (.cancel c, contract.tenantId),
      record.requestPath ≠ .release r ∨ record.requestBody ≠ none

/-! ### What it leaves behind -/

theorem breaksAt_eq_ok {breaks : CancelPoint → Bool} {points : List CancelPoint} {u : Unit} :
    breaksAt breaks points = .ok u ↔ ∀ point ∈ points, breaks point = false := by
  unfold breaksAt
  cases hfound : points.find? breaks with
  | none => simpa [List.find?_eq_none] using hfound
  | some point =>
    simp only [reduceCtorEq, false_iff]
    intro hnone
    have hbreaks := List.find?_some hfound
    rw [hnone point (List.mem_of_find?_eq_some hfound)] at hbreaks
    cases hbreaks

section

variable {sh : Shared ι} {c x r : Uuid} {row : SalesContract} {item : StockItem}

theorem release_frees_held (hg : Good sh) (hitem : sh.stock.items.lookup x = some item)
    (hheld : item.HeldFor c r) (htenant : item.tenantId = row.tenantId) (now : Time) :
    (∃ e, release now sh.stock row.tenantId r (.cancel c) = .error e ∧ e.code ≠ .notFound ∧
      ∃ record ∈ sh.stock.records.lookup (.cancel c, row.tenantId),
        record.requestPath ≠ .release r ∨ record.requestBody ≠ none) ∨
    (sh.stock.records.lookup (.cancel c, row.tenantId) = none ∧
      ∃ stock, release now sh.stock row.tenantId r (.cancel c) = .ok stock ∧
        ∀ item', stock.items.lookup x = some item' → ¬ item'.HeldFor c r) := by
  have hactive := hheld.2.2
  cases hcached : findCachedResponse sh.stock.records row.tenantId (.cancel c) (.release r) none with
  | error e =>
    have hrelease : release now sh.stock row.tenantId r (.cancel c) = .error e := by
      simp [release, reservationToLock, hcached, bind, Except.bind]
    unfold findCachedResponse at hcached
    split at hcached
    · cases hcached
    · next record hrecord =>
      split at hcached
      · next hother =>
        cases hcached
        exact .inl ⟨_, hrelease, by simp [conflictError], record, hrecord, hother⟩
      · cases hcached
  | ok cached =>
    obtain ⟨hrecord, hfits⟩ := findCachedResponse_eq_ok hcached
    cases cached with
    | some record =>
      -- the reservation a stored answer is about is spent
      have hspent := hg.cancelRecords c row.tenantId record r hrecord (hfits record rfl).1
      exact absurd hactive (hspent.2 x item hitem)
    | none =>
      cases hfound : findReservation sh.stock.items row.tenantId r with
      | none =>
        have hnot := Table.search_eq_none hfound hitem
        simp [htenant, hactive] at hnot
      | some found =>
        obtain ⟨y, item'⟩ := found
        obtain ⟨hy, -, hactive'⟩ := findReservation_eq_some hfound
        have hxy : y = x := hg.distinct y x item' item r hy hitem hactive' hactive
        subst hxy
        refine .inr ⟨hrecord, _, release_of_found hrecord hfound, fun freed hfreed hfor => ?_⟩
        rw [Table.lookup_modify_self, hitem, Option.map_some] at hfreed
        rw [← Option.some.inj hfreed] at hfor
        cases hfor.1

theorem cancelRelease_cases (hg : Good sh) (hconfirmed : row.status = .confirmed)
    (hr : row.reservationId = some r) (hitem : sh.stock.items.lookup x = some item)
    (hheld : item.HeldFor c r) (htenant : item.tenantId = row.tenantId)
    (breaks : CancelPoint → Bool) (now : Time) : (StopsBeforeRelease breaks sh c r row ∧
      ∃ e, cancelRelease breaks now c row sh = (sh, .error e)) ∨
    (¬ StopsBeforeRelease breaks sh c r row ∧ ∃ stock, cancelRelease breaks now c row sh
          = ({ sh with stock := stock }, breaksAt breaks [.releaseReturn]) ∧
        ∀ item', stock.items.lookup x = some item' → ¬ item'.HeldFor c r) := by
  have hsigned : (if row.status = .confirmed then row.reservationId else none) = some r := by
    rw [if_pos hconfirmed]
    exact hr
  simp only [cancelRelease, hsigned]
  cases hbreaks : breaksAt breaks [.openSession, .release] with
  | error e =>
    refine .inl ⟨?_, e, rfl⟩
    by_contra hnot
    simp only [StopsBeforeRelease, not_or, Bool.not_eq_true] at hnot
    have hok : breaksAt breaks [.openSession, .release] = .ok () :=
      breaksAt_eq_ok.mpr (by simp [hnot.1, hnot.2.1])
    rw [hbreaks] at hok
    cases hok
  | ok u =>
    have hgoes := breaksAt_eq_ok.mp hbreaks
    rcases release_frees_held hg hitem hheld htenant now with ⟨e, hrefused, hcode, hrecord⟩ |
      ⟨hnew, stock, hreleased, hfree⟩
    · exact .inl ⟨.inr (.inr hrecord), (.release, e), by simp only [hrefused, if_neg hcode]⟩
    · refine .inr ⟨?_, stock, by simp only [hreleased], hfree⟩
      rintro (hopen | hrelease | ⟨record, hrecord, -⟩)
      · rw [hgoes .openSession (by simp)] at hopen
        cases hopen
      · rw [hgoes .release (by simp)] at hrelease
        cases hrelease
      · rw [hnew] at hrecord
        cases hrecord

theorem cancelCommit_stock (breaks : CancelPoint → Bool) (reads : Reads) (reason : String) :
    (cancelCommit breaks reads reason c row sh).1.stock = sh.stock := by
  unfold cancelCommit
  split
  · rfl
  · rfl

end

/-- **When a failed cancellation is no cancellation.**  In every state that a
run reaches, if `cancel_contract` raises on a CONFIRMED contract whose car is
reserved for it, the contract is still CONFIRMED and the car still reserved
for it if and only if the call stopped before the release was committed. -/
theorem cancel_keeps_car_iff [DecidableEq ι] (stock : FreeStock)
    (valuations : Table Uuid Valuation) (nextId : Uuid) (as : List (ι × Choice))
    (breaks : CancelPoint → Bool) (now : Time) (reads : Reads) (reason : String) (c x r : Uuid)
    (row : SalesContract) (item : StockItem) (sh' : Shared ι) (raised : CancelPoint × AppError) :
    let sh := (as.foldl (move step) (start stock valuations nextId)).shared
    sh.sales.contracts.lookup c = some row → row.status = .confirmed →
    row.legacyTransactionId = none → row.stockItemId = some x → row.reservationId = some r →
    sh.stock.items.lookup x = some item → item.HeldFor c r → item.tenantId = row.tenantId →
    cancelContract breaks now reads reason c row sh = (sh', .error raised) →
    (((∃ row', sh'.sales.contracts.lookup c = some row' ∧ row'.status = .confirmed) ∧
        HeldAt sh' x c r) ↔ StopsBeforeRelease breaks sh c r row) := by
  intro sh hrow hconfirmed hlegacy _ hr hitem hheld htenant hcancel
  have hg := (invariant_run stock valuations nextId as).1
  have hallowed : requireCancellable row = .ok () := by
    simp [requireCancellable, hconfirmed, hlegacy]
  rw [cancelContract, hallowed] at hcancel
  rcases cancelRelease_cases hg hconfirmed hr hitem hheld htenant breaks now with
    ⟨hstops, e, hfirst⟩ | ⟨hnot, freed, hfirst, hfree⟩
  · -- nothing was written
    rw [hfirst] at hcancel
    cases hcancel
    exact ⟨fun _ => hstops, fun _ => ⟨⟨row, hrow, hconfirmed⟩, item, hitem, hheld⟩⟩
  · have hgone : sh'.stock = freed := by
      rw [hfirst] at hcancel
      cases hbreaks : breaksAt breaks [.releaseReturn] with
      | error broken =>
        rw [hbreaks] at hcancel
        cases hcancel
        rfl
      | ok u =>
        rw [hbreaks] at hcancel
        have hend : sh' = (cancelCommit breaks reads reason c row { sh with stock := freed }).1 :=
          (congrArg Prod.fst hcancel).symm
        rw [hend]
        exact cancelCommit_stock breaks reads reason
    constructor
    · rintro ⟨-, item', hitem', hheld'⟩
      rw [hgone] at hitem'
      exact absurd hheld' (hfree item' hitem')
    · intro hstops
      exact absurd hstops hnot

theorem saleRun_columns :
    ∃ row item, (saleRun.foldl (move step) (start showroom ∅ 100)).shared.sales.contracts.lookup 0
        = some row ∧ row.status = .confirmed ∧ row.legacyTransactionId = none ∧
      row.stockItemId = some 3 ∧ row.reservationId = some 100 ∧
      (saleRun.foldl (move step) (start showroom ∅ 100)).shared.stock.items.lookup 3 = some item ∧
      item.HeldFor 0 100 ∧ item.tenantId = row.tenantId := by
  have hrow : ((saleRun.foldl (move step) (start showroom ∅ 100)).shared.sales.contracts.lookup
      0).map (fun row => (row.status, row.legacyTransactionId, row.stockItemId, row.reservationId,
        row.tenantId)) = some (.confirmed, none, some 3, some 100, 1) := by
    decide +kernel
  have hitem : ((saleRun.foldl (move step) (start showroom ∅ 100)).shared.stock.items.lookup
      3).map (fun item => (item.reservationState, item.reservedByContractId,
        item.activeReservationId, item.tenantId)) = some (.reserved, some 0, some 100, 1) := by
    decide +kernel
  obtain ⟨row, hrow, hcolumns⟩ := Option.map_eq_some_iff.mp hrow
  obtain ⟨item, hitem, hitemColumns⟩ := Option.map_eq_some_iff.mp hitem
  simp only [Prod.mk.injEq] at hcolumns hitemColumns
  obtain ⟨hstatus, hlegacy, hx, hr, htenant⟩ := hcolumns
  obtain ⟨hstate, hby, hactive, htenant'⟩ := hitemColumns
  exact ⟨row, item, hrow, hstatus, hlegacy, hx, hr, hitem, ⟨hstate, hby, hactive⟩,
    htenant'.trans htenant.symm⟩

theorem cancel_keeps_car_iff_saleRun :
    ∃ row sh' raised, cancelContract (fun point => point = .openSession) 0 desk "withdrawn" 0 row
        (saleRun.foldl (move step) (start showroom ∅ 100)).shared = (sh', .error raised) ∧
      HeldAt sh' 3 0 100 := by
  obtain ⟨row, item, hrow, hstatus, hlegacy, hx, hr, hitem, hheld, htenant⟩ := saleRun_columns
  have hcancel : cancelContract (fun point => point = .openSession) 0 desk "withdrawn" 0 row
      (saleRun.foldl (move step) (start showroom ∅ 100)).shared =
        ((saleRun.foldl (move step) (start showroom ∅ 100)).shared,
          .error (.openSession, internalError "connection lost")) := by
    simp [cancelContract, requireCancellable, cancelRelease, breaksAt, hstatus, hlegacy, hr]
  exact ⟨row, _, _, hcancel, ((cancel_keeps_car_iff showroom ∅ 100 saleRun _ 0 desk "withdrawn" 0 3
    100 row item _ _ hrow hstatus hlegacy hx hr hitem hheld htenant hcancel).mpr (.inl rfl)).2⟩

/-- The last commit of the cancellation fails.  The call raises and the contract
stays CONFIRMED, but its car is free and contract 1 can reserve it. -/
theorem failed_commit_frees_car :
    let sh := (saleRun.foldl (move step) (start showroom ∅ 100)).shared
    let cancelled := fun row =>
      cancelContract (fun point => point = .commit) 0 desk "withdrawn" 0 row sh
    (sh.stock.items.lookup 3).map (fun item => (item.reservationState, item.reservedByContractId,
        item.activeReservationId)) = some (.reserved, some 0, some 100) ∧
    (sh.sales.contracts.lookup 0).map (fun row => (row.status, row.stockItemId, row.reservationId))
      = some (.confirmed, some 3, some 100) ∧
    (sh.sales.contracts.lookup 0).map (fun row =>
        ((cancelled row).2.map fun _ => (),
          ((cancelled row).1.sales.contracts.lookup 0).map (·.status),
          ((cancelled row).1.stock.items.lookup 3).map (·.reservationState),
          (reserveForContract 0 101 (cancelled row).1.stock 1 3 1 (.confirm 1)).isOk))
      = some (.error (.commit, internalError "connection lost"), some .confirmed, some .none,
          true) := by
  decide +kernel

end Nexotec.Confirmation
