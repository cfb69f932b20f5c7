/-
The nightly orphan-reservation sweep
(`app/inventory/services/reservation_sweep.py`) with the answer of Sales it
goes by (`app/sales/services/contract_status.py`).

Stock lists its reserved items, Sales answers the status of their contracts
for each tenant, and every reservation whose contract is not signed is
released in a transaction of its own.
-/
import Mathlib.Data.List.Sort
import Nexotec.Inventory.Reservation
import Nexotec.Lib.Run
import Nexotec.Sales.Models

namespace Nexotec

/-! ### The sweep -/

/-- `PENDING_MARGIN`, one hour. -/
def pendingMargin : Time := 3600000000

/-- A signed contract keeps its car (`_SIGNED`). -/
def signed : ContractStatus → Bool
  | .confirmed | .invoiced => true
  | .pending | .cancelled => false

/-- `get_contract_statuses`: the statuses of those of the contracts that exist
in the tenant. -/
def getContractStatuses (contracts : Table Uuid SalesContract) (tenantId : Uuid)
    (contractIds : List Uuid) : List (Uuid × ContractStatus) :=
  contractIds.eraseDups.filterMap fun contractId =>
    ((contracts.lookup contractId).filter (·.tenantId = tenantId)).map fun contract =>
      (contractId, contract.status)

/-- `_Reservation`. -/
structure Reservation where
  tenantId : Uuid
  stockItemId : Uuid
  reservationId : Uuid
  contractId : Option Uuid
  reservedAt : Time

/-- The order of `_list_reservations`. -/
def Reservation.le (a b : Reservation) : Prop :=
  a.tenantId < b.tenantId ∨ (a.tenantId = b.tenantId ∧ a.stockItemId ≤ b.stockItemId)

instance (a b : Reservation) : Decidable (a.le b) :=
  inferInstanceAs (Decidable (_ ∨ (_ ∧ _)))

/-- One row of `_list_reservations`. -/
def reservationOf (stockItemId : Uuid) (item : StockItem) : Option Reservation :=
  match item.reservationState, item.activeReservationId with
  | .reserved, some reservationId =>
    some { tenantId := item.tenantId
           stockItemId := stockItemId
           reservationId := reservationId
           contractId := item.reservedByContractId
           reservedAt := item.updatedAt }
  | _, _ => none

def listReservations (items : Table Uuid StockItem) : List Reservation :=
  (items.entries.filterMap fun e => reservationOf e.1 e.2).insertionSort Reservation.le

structure SweepResult where
  released : List Uuid := []
  keptSigned : ℕ := 0
  keptRecent : ℕ := 0
  changed : ℕ := 0
  failed : List Uuid := []

/-- `_release_one`; `fails` are the items whose release breaks for a reason of
its own. -/
def releaseOne (fails : Uuid → Bool) (now : Time) (reservation : Reservation)
    (acc : StockDb × SweepResult) : StockDb × SweepResult :=
  let failed := { acc.2 with failed := acc.2.failed ++ [reservation.stockItemId] }
  if fails reservation.stockItemId then (acc.1, failed)
  else
    match release now acc.1 reservation.tenantId reservation.reservationId
        (.reservationSweep reservation.reservationId) with
    | .ok stock => (stock, { acc.2 with released := acc.2.released ++ [reservation.stockItemId] })
    | .error e =>
      if e.code = .notFound then (acc.1, { acc.2 with changed := acc.2.changed + 1 })
      else (acc.1, failed)

/-- `status in _SIGNED`. -/
def isSigned (status : Option ContractStatus) : Bool := status.any signed

def sweepOne (fails : Uuid → Bool) (now : Time) (statuses : List (Uuid × ContractStatus))
    (acc : StockDb × SweepResult) (reservation : Reservation) : StockDb × SweepResult :=
  let status := reservation.contractId.bind fun contractId => statuses.lookup contractId
  if isSigned status then (acc.1, { acc.2 with keptSigned := acc.2.keptSigned + 1 })
  else if status = some .pending ∧ now - reservation.reservedAt < pendingMargin then
    (acc.1, { acc.2 with keptRecent := acc.2.keptRecent + 1 })
  else releaseOne fails now reservation acc

def sweepTenant (fails : Uuid → Bool) (now : Time) (contracts : Table Uuid SalesContract)
    (reservations : List Reservation) (acc : StockDb × SweepResult) (tenantId : Uuid) :
    StockDb × SweepResult :=
  let mine := reservations.filter (·.tenantId = tenantId)
  let statuses := getContractStatuses contracts tenantId (mine.filterMap (·.contractId))
  mine.foldl (sweepOne fails now statuses) acc

def releaseOrphanedReservations (fails : Uuid → Bool) (now : Time)
    (contracts : Table Uuid SalesContract) (stock : StockDb) : StockDb × SweepResult :=
  let reservations := listReservations stock.items
  (reservations.map (·.tenantId)).eraseDups.foldl
    (sweepTenant fails now contracts reservations) (stock, {})

/-! ### What the sweep leaves -/

def Frees (items items' : Table Uuid StockItem) : Prop :=
  ∀ x item', items'.lookup x = some item' →
    item'.reservation = (.none, none, none) ∨ items.lookup x = some item'

def FreedAt (items : Table Uuid StockItem) (x : Uuid) : Prop :=
  ∀ item, items.lookup x = some item → item.reservation = (.none, none, none)

def DistinctReservations (items : Table Uuid StockItem) : Prop :=
  ∀ x y item item' reservationId, items.lookup x = some item → items.lookup y = some item' →
    item.activeReservationId = some reservationId →
    item'.activeReservationId = some reservationId → x = y

/-- Between two releases: items are as they were or free, and a stored release
of the sweep is of a reservation no item carries. -/
structure Swept (items : Table Uuid StockItem) (stock : StockDb) : Prop where
  frees : Frees items stock.items
  spent : ∀ r t record, stock.records.lookup (.reservationSweep r, t) = some record →
    ∀ x item, stock.items.lookup x = some item → item.activeReservationId ≠ some r

section

variable {items : Table Uuid StockItem} {stock : StockDb} {now : Time}

theorem Frees.modify (h : Frees items stock.items) (y : Uuid) :
    Frees items (stock.items.modify y (releaseAndFlush now)) := by
  intro x item' hrow
  rw [Table.lookup_modify] at hrow
  split at hrow
  · obtain ⟨item, -, rfl⟩ := Option.map_eq_some_iff.mp hrow
    exact .inl rfl
  · exact h x item' hrow

variable {x : Uuid}

theorem FreedAt.modify (h : FreedAt stock.items x) (y : Uuid) :
    FreedAt (stock.items.modify y (releaseAndFlush now)) x := by
  intro item' hrow
  rw [Table.lookup_modify] at hrow
  split at hrow
  · obtain ⟨item, -, rfl⟩ := Option.map_eq_some_iff.mp hrow
    rfl
  · exact h item' hrow

variable {fails : Uuid → Bool} {acc : StockDb × SweepResult} {reservation : Reservation}

theorem releaseOne_cases (fails : Uuid → Bool) (now : Time) (reservation : Reservation)
    (acc : StockDb × SweepResult) :
    (releaseOne fails now reservation acc).1 = acc.1 ∨
    (acc.1.records.lookup (.reservationSweep reservation.reservationId, reservation.tenantId) = none ∧
      ∃ y item record,
        findReservation acc.1.items reservation.tenantId reservation.reservationId
          = some (y, item) ∧
        (releaseOne fails now reservation acc).1 = { acc.1 with
          items := acc.1.items.modify y (releaseAndFlush now)
          records := acc.1.records.insert
            (.reservationSweep reservation.reservationId, reservation.tenantId) record }) := by
  unfold releaseOne
  simp only
  split
  · exact .inl rfl
  · cases hrelease : release now acc.1 reservation.tenantId reservation.reservationId
        (.reservationSweep reservation.reservationId) with
    | ok stock =>
      rcases release_eq_ok hrelease with hsame | ⟨hnew, y, item, hfound, hstock⟩
      · exact .inl hsame
      · exact .inr ⟨hnew, y, item, _, hfound, hstock⟩
    | error e =>
      simp only
      split
      · exact .inl rfl
      · exact .inl rfl

/-- One release keeps what the sweep has done so far. -/
theorem releaseOne_swept (h : Swept items acc.1) (hdistinct : DistinctReservations items) :
    Swept items (releaseOne fails now reservation acc).1 := by
  rcases releaseOne_cases fails now reservation acc with hsame | ⟨-, y, found, record, hfound, hstock⟩
  · rw [hsame]
    exact h
  · rw [hstock]
    refine ⟨h.frees.modify y, fun r t stored hstored x item hrow hactive => ?_⟩
    obtain ⟨hy, -, hcarried⟩ := findReservation_eq_some hfound
    rw [Table.lookup_modify] at hrow
    split at hrow
    · obtain ⟨old, -, rfl⟩ := Option.map_eq_some_iff.mp hrow
      cases hactive
    · next hne =>
      rcases Table.lookup_insert_cases hstored with ⟨hkey, -⟩ | ⟨-, hold⟩
      · -- only the item that was freed carried the reservation
        rw [IdempotencyKey.reservationSweep.inj (Prod.mk.inj hkey).1] at hactive
        rcases h.frees y found hy with hfree | hyold
        · rw [active_of_free hfree] at hcarried
          cases hcarried
        rcases h.frees x item hrow with hfree | hxold
        · rw [active_of_free hfree] at hactive
          cases hactive
        exact hne (hdistinct x y item found _ hxold hyold hactive hcarried)
      · exact h.spent r t stored hold x item hrow hactive

theorem releaseOne_freedAt (h : FreedAt acc.1.items x) :
    FreedAt (releaseOne fails now reservation acc).1.items x := by
  rcases releaseOne_cases fails now reservation acc with hsame | ⟨-, y, found, record, -, hstock⟩
  · rw [hsame]
    exact h
  · rw [hstock]
    exact h.modify y

theorem releaseOne_frees (h : Swept items acc.1) (hdistinct : DistinctReservations items)
    {item : StockItem} (hitem : items.lookup reservation.stockItemId = some item)
    (hactive : item.activeReservationId = some reservation.reservationId)
    (htenant : item.tenantId = reservation.tenantId)
    (hfails : fails reservation.stockItemId = false) :
    FreedAt (releaseOne fails now reservation acc).1.items reservation.stockItemId := by
  -- if nothing is written, nothing carries the reservation any more
  have hunchanged : (∀ found, acc.1.items.lookup reservation.stockItemId = some found →
      found.tenantId = reservation.tenantId →
      found.activeReservationId ≠ some reservation.reservationId) →
      (releaseOne fails now reservation acc).1 = acc.1 →
      FreedAt (releaseOne fails now reservation acc).1.items reservation.stockItemId := by
    intro hnone hsame item' hrow
    rw [hsame] at hrow
    rcases h.frees _ item' hrow with hfree | hold
    · exact hfree
    · have hitem' : item = item' := Option.mem_unique hitem hold
      rw [← hitem'] at hrow
      exact absurd hactive (hnone item hrow htenant)
  cases hrecord : acc.1.records.lookup
      (.reservationSweep reservation.reservationId, reservation.tenantId) with
  | some record =>
    rcases releaseOne_cases fails now reservation acc with hsame | ⟨hnew, -⟩
    · exact hunchanged (fun found hrow _ => h.spent _ _ record hrecord _ found hrow) hsame
    · rw [hrecord] at hnew
      cases hnew
  | none =>
    cases hfound : findReservation acc.1.items reservation.tenantId reservation.reservationId with
    | none =>
      rcases releaseOne_cases fails now reservation acc with hsame | ⟨-, y, found, record, hy, -⟩
      · refine hunchanged (fun found hrow ht hcarried => ?_) hsame
        have hmiss := Table.search_eq_none hfound hrow
        simp [ht, hcarried] at hmiss
      · rw [hfound] at hy
        cases hy
    | some p =>
      obtain ⟨y, found⟩ := p
      obtain ⟨hy, -, hcarried⟩ := findReservation_eq_some hfound
      have hyx : y = reservation.stockItemId := by
        rcases h.frees y found hy with hfree | hold
        · rw [active_of_free hfree] at hcarried
          cases hcarried
        · exact hdistinct y _ found item _ hold hitem hcarried hactive
      have hrelease : release now acc.1 reservation.tenantId reservation.reservationId
          (.reservationSweep reservation.reservationId) = _ := release_of_found hrecord hfound
      simp only [releaseOne, hfails, hrelease, Bool.false_eq_true, if_false]
      intro item' hrow
      rw [hyx, Table.lookup_modify_self] at hrow
      obtain ⟨old, -, rfl⟩ := Option.map_eq_some_iff.mp hrow
      rfl

/-- The reservation is kept by the loop, as signed or as recent. -/
def Kept (now : Time) (statuses : List (Uuid × ContractStatus)) (reservation : Reservation) : Prop :=
  isSigned (reservation.contractId.bind fun contractId => statuses.lookup contractId) = true ∨
    now - reservation.reservedAt < pendingMargin

theorem sweepOne_cases (fails : Uuid → Bool) (now : Time) (statuses : List (Uuid × ContractStatus))
    (acc : StockDb × SweepResult) (reservation : Reservation) :
    (Kept now statuses reservation ∧ (sweepOne fails now statuses acc reservation).1 = acc.1) ∨
    sweepOne fails now statuses acc reservation = releaseOne fails now reservation acc := by
  unfold sweepOne
  simp only
  split
  · next hsigned => exact .inl ⟨.inl hsigned, rfl⟩
  · split
    · next hrecent => exact .inl ⟨.inr hrecent.2, rfl⟩
    · exact .inr rfl

variable {statuses : List (Uuid × ContractStatus)}

theorem sweepOne_swept (h : Swept items acc.1) (hdistinct : DistinctReservations items) :
    Swept items (sweepOne fails now statuses acc reservation).1 := by
  rcases sweepOne_cases fails now statuses acc reservation with ⟨-, hsame⟩ | hrelease
  · rw [hsame]
    exact h
  · rw [hrelease]
    exact releaseOne_swept h hdistinct

theorem sweepOne_freedAt (h : FreedAt acc.1.items x) :
    FreedAt (sweepOne fails now statuses acc reservation).1.items x := by
  rcases sweepOne_cases fails now statuses acc reservation with ⟨-, hsame⟩ | hrelease
  · rw [hsame]
    exact h
  · rw [hrelease]
    exact releaseOne_freedAt h

end

/-! ### The loops -/

def Carried (items : Table Uuid StockItem) (reservation : Reservation) : Prop :=
  ∃ item, items.lookup reservation.stockItemId = some item ∧
    item.activeReservationId = some reservation.reservationId ∧
    item.tenantId = reservation.tenantId

variable {x : Uuid} {item : StockItem} {reservation : Reservation}

theorem reservationOf_eq_some (h : reservationOf x item = some reservation) :
    item.activeReservationId = some reservation.reservationId ∧ x = reservation.stockItemId ∧
      item.tenantId = reservation.tenantId := by
  unfold reservationOf at h
  split at h
  · next r hstate hactive =>
    cases h
    exact ⟨hactive, rfl, rfl⟩
  · cases h

variable {items : Table Uuid StockItem}

theorem carried_of_listed (h : reservation ∈ listReservations items) :
    Carried items reservation := by
  rw [listReservations, List.mem_insertionSort, List.mem_filterMap] at h
  obtain ⟨⟨x, item⟩, hmem, hrow⟩ := h
  obtain ⟨hactive, rfl, htenant⟩ := reservationOf_eq_some hrow
  exact ⟨item, Table.lookup_eq_some_iff_mem.mpr hmem, hactive, htenant⟩

theorem listed_of_reserved {r : Uuid} (hrow : items.lookup x = some item)
    (hstate : item.reservationState = .reserved) (hactive : item.activeReservationId = some r) :
    ⟨item.tenantId, x, r, item.reservedByContractId, item.updatedAt⟩ ∈ listReservations items := by
  rw [listReservations, List.mem_insertionSort, List.mem_filterMap]
  exact ⟨⟨x, item⟩, Table.lookup_eq_some_iff_mem.mp hrow, by simp [reservationOf, hstate, hactive]⟩

section

variable {items : Table Uuid StockItem} {now : Time} {contracts : Table Uuid SalesContract}
  {reservations : List Reservation} {acc : StockDb × SweepResult} {tenantId : Uuid}

def statusesOf (contracts : Table Uuid SalesContract) (reservations : List Reservation)
    (tenantId : Uuid) : List (Uuid × ContractStatus) :=
  getContractStatuses contracts tenantId
    ((reservations.filter (·.tenantId = tenantId)).filterMap (·.contractId))

variable {fails : Uuid → Bool}

theorem sweepTenant_swept (h : Swept items acc.1) (hdistinct : DistinctReservations items) :
    Swept items (sweepTenant fails now contracts reservations acc tenantId).1 := by
  have hone : ∀ (acc : StockDb × SweepResult) (reservation : Reservation), Swept items acc.1 →
      Swept items (sweepOne fails now (statusesOf contracts reservations tenantId) acc
        reservation).1 :=
    fun _ _ hacc => sweepOne_swept hacc hdistinct
  exact Run.invariant hone h _

theorem sweepTenant_freedAt (h : FreedAt acc.1.items x) :
    FreedAt (sweepTenant fails now contracts reservations acc tenantId).1.items x := by
  have hone : ∀ (acc : StockDb × SweepResult) (reservation : Reservation),
      FreedAt acc.1.items x → FreedAt (sweepOne fails now
        (statusesOf contracts reservations tenantId) acc reservation).1.items x :=
    fun _ _ hacc => sweepOne_freedAt hacc
  exact Run.invariant hone h _

variable (now contracts tenantId) in
/-- After its tenant's turn a reservation is kept, or its item is free. -/
theorem sweepTenant_done (h : Swept items acc.1) (hdistinct : DistinctReservations items)
    (hcarried : ∀ reservation ∈ reservations, Carried items reservation) :
    ∀ reservation ∈ reservations, reservation.tenantId = tenantId →
      Kept now (statusesOf contracts reservations tenantId) reservation ∨
      FreedAt (sweepTenant (fun _ => false) now contracts reservations acc tenantId).1.items
        reservation.stockItemId := by
  have hinv : ∀ (acc : StockDb × SweepResult) (reservation : Reservation), Swept items acc.1 →
      Swept items (sweepOne (fun _ => false) now (statusesOf contracts reservations tenantId) acc
        reservation).1 :=
    fun _ _ hacc => sweepOne_swept hacc hdistinct
  have hstable : ∀ (acc : StockDb × SweepResult) (a b : Reservation), Swept items acc.1 →
      (Kept now (statusesOf contracts reservations tenantId) b ∨
        FreedAt acc.1.items b.stockItemId) →
      (Kept now (statusesOf contracts reservations tenantId) b ∨
        FreedAt (sweepOne (fun _ => false) now (statusesOf contracts reservations tenantId) acc
          a).1.items b.stockItemId) :=
    fun _ _ _ _ hb => hb.imp id sweepOne_freedAt
  have hdone : ∀ (acc : StockDb × SweepResult) (a : Reservation),
      a ∈ reservations.filter (·.tenantId = tenantId) → Swept items acc.1 →
      (Kept now (statusesOf contracts reservations tenantId) a ∨
        FreedAt (sweepOne (fun _ => false) now (statusesOf contracts reservations tenantId) acc
          a).1.items a.stockItemId) := by
    intro acc a ha hacc
    rcases sweepOne_cases (fun _ => false) now (statusesOf contracts reservations tenantId) acc a with
      ⟨hkept, -⟩ | hrelease
    · exact .inl hkept
    · obtain ⟨item, hitem, hactive, htenant⟩ := hcarried a (List.mem_of_mem_filter ha)
      rw [hrelease]
      exact .inr (releaseOne_frees hacc hdistinct hitem hactive htenant rfl)
  intro reservation hmem htenant
  exact Run.all_done hinv hstable h hdone reservation (by simp [hmem, htenant])

end

variable {stock : StockDb}

theorem swept_start (hnew : ∀ r t, stock.records.lookup (.reservationSweep r, t) = none) :
    Swept stock.items stock := by
  refine ⟨fun x item hrow => .inr hrow, fun r t record hrecord => ?_⟩
  rw [hnew r t] at hrecord
  cases hrecord

theorem releaseOrphanedReservations_done (now : Time) (contracts : Table Uuid SalesContract)
    (hdistinct : DistinctReservations stock.items)
    (hnew : ∀ r t, stock.records.lookup (.reservationSweep r, t) = none) :
    Swept stock.items (releaseOrphanedReservations (fun _ => false) now contracts stock).1 ∧
    ∀ reservation ∈ listReservations stock.items,
      Kept now (statusesOf contracts (listReservations stock.items) reservation.tenantId)
        reservation ∨
      FreedAt (releaseOrphanedReservations (fun _ => false) now contracts stock).1.items
        reservation.stockItemId := by
  have hinv : ∀ (acc : StockDb × SweepResult) (t : Uuid), Swept stock.items acc.1 →
      Swept stock.items (sweepTenant (fun _ => false) now contracts (listReservations stock.items)
        acc t).1 :=
    fun _ _ hacc => sweepTenant_swept hacc hdistinct
  have hstable : ∀ (acc : StockDb × SweepResult) (s t : Uuid), Swept stock.items acc.1 →
      (∀ reservation ∈ listReservations stock.items, reservation.tenantId = t →
        Kept now (statusesOf contracts (listReservations stock.items) t) reservation ∨
        FreedAt acc.1.items reservation.stockItemId) →
      (∀ reservation ∈ listReservations stock.items, reservation.tenantId = t →
        Kept now (statusesOf contracts (listReservations stock.items) t) reservation ∨
        FreedAt (sweepTenant (fun _ => false) now contracts (listReservations stock.items) acc
          s).1.items reservation.stockItemId) :=
    fun _ _ _ _ hall reservation hmem ht => (hall reservation hmem ht).imp id sweepTenant_freedAt
  have hdone := fun (acc : StockDb × SweepResult) (t : Uuid)
      (_ : t ∈ ((listReservations stock.items).map (·.tenantId)).eraseDups)
      (hacc : Swept stock.items acc.1) =>
    sweepTenant_done now contracts t hacc hdistinct
      (fun reservation hmem => carried_of_listed hmem)
  have hstart : Swept stock.items ((stock, {}) : StockDb × SweepResult).1 := swept_start hnew
  refine ⟨Run.invariant hinv hstart _, fun reservation hmem => ?_⟩
  have htenant : reservation.tenantId ∈
      ((listReservations stock.items).map (·.tenantId)).eraseDups := by
    rw [List.mem_eraseDups]
    exact List.mem_map_of_mem hmem
  exact Run.all_done hinv hstable hstart hdone reservation.tenantId htenant reservation hmem rfl

variable {contracts : Table Uuid SalesContract}

theorem getContractStatuses_lookup {tenantId c : Uuid} {contractIds : List Uuid}
    {status : ContractStatus}
    (h : (getContractStatuses contracts tenantId contractIds).lookup c = some status) :
    ∃ contract, contracts.lookup c = some contract ∧ contract.tenantId = tenantId ∧
      contract.status = status := by
  obtain ⟨l₁, l₂, heq, -⟩ := List.lookup_eq_some_iff.mp h
  have hmem : (c, status) ∈ getContractStatuses contracts tenantId contractIds := by
    rw [heq]
    simp
  obtain ⟨c', -, hc⟩ := List.mem_filterMap.mp hmem
  obtain ⟨contract, hfilter, hpair⟩ := Option.map_eq_some_iff.mp hc
  cases hpair
  obtain ⟨hrow, htenant⟩ := Option.filter_eq_some_iff.mp hfilter
  exact ⟨contract, hrow, by simpa using htenant, rfl⟩

/-- **What is reserved after a sweep.**  If no release breaks and every item was
left alone for the margin, an item that is still reserved is the one that was
there, and its contract is signed in the item's tenant. -/
theorem releaseOrphanedReservations_signed {now : Time}
    (hactive : ∀ x item, stock.items.lookup x = some item → item.reservationState = .reserved →
      ∃ r, item.activeReservationId = some r) (hdistinct : DistinctReservations stock.items)
    (hnew : ∀ r t, stock.records.lookup (.reservationSweep r, t) = none)
    (hmargin : ∀ x item, stock.items.lookup x = some item → pendingMargin ≤ now - item.updatedAt)
    (hrow : (releaseOrphanedReservations (fun _ => false) now contracts stock).1.items.lookup x
      = some item) (hreserved : item.reservationState = .reserved) :
    stock.items.lookup x = some item ∧
      ∃ c contract, item.reservedByContractId = some c ∧ contracts.lookup c = some contract ∧
        contract.tenantId = item.tenantId ∧ signed contract.status = true := by
  obtain ⟨hswept, hdone⟩ := releaseOrphanedReservations_done now contracts hdistinct hnew
  have hstate : item.reservation ≠ (.none, none, none) := by
    intro hfree
    rw [show item.reservationState = .none from congrArg (fun p => p.1) hfree] at hreserved
    cases hreserved
  have hold := (hswept.frees x item hrow).resolve_left hstate
  refine ⟨hold, ?_⟩
  obtain ⟨r, hr⟩ := hactive x item hold hreserved
  rcases hdone _ (listed_of_reserved hold hreserved hr) with (hsigned | hrecent) | hfreed
  · -- kept as signed: Sales answered with the contract's status
    simp only [isSigned, Option.any_eq_true, Option.bind_eq_some_iff] at hsigned
    obtain ⟨status, ⟨c, hc, hlookup⟩, hstatus⟩ := hsigned
    obtain ⟨contract, hcontract, htenant, rfl⟩ := getContractStatuses_lookup hlookup
    exact ⟨c, contract, hc, hcontract, htenant, hstatus⟩
  · exact absurd hrecent (not_lt.mpr (hmargin x item hold))
  · exact absurd (hfreed item hrow) hstate

end Nexotec
