/-
Every effect of the confirmation system keeps the tables good.

Stock items change in few ways over all effects (`Effect.itemsFrom`), and so
do the idempotency records (`Effect.records`); the fields of `Good` follow one
by one.
-/
import Nexotec.Confirmation.Effects

namespace Nexotec.Confirmation

open Interleaving

variable {ι : Type}

variable {reads : Reads} {db : SalesDb}

theorem createContract_fresh {tenantId : Uuid} {data : ContractCreate} {contract : SalesContract}
    (h : createContract reads db tenantId data = .ok contract) :
    contract.status = .pending ∧ contract.signedAt = none ∧ contract.reservationId = none := by
  rcases createContract_eq_ok h with ⟨offerId, offer, -, -, rfl⟩ | ⟨buyer, rfl⟩ |
    ⟨deal, stockItemId, vehicleLabel, rfl, -⟩
  · exact ⟨rfl, rfl, rfl⟩
  · exact ⟨rfl, rfl, rfl⟩
  · exact ⟨rfl, rfl, rfl⟩

theorem updateContract_keeps {contract contract' : SalesContract} {data : ContractUpdate}
    (h : updateContract reads contract data = .ok contract') :
    contract'.status = contract.status ∧ contract'.signedAt = contract.signedAt ∧
      contract'.reservationId = contract.reservationId ∧
      contract'.tenantId = contract.tenantId := by
  obtain ⟨-, ⟨buyer, rfl⟩ | ⟨buyer, owner, deal, rfl, hdeal⟩⟩ := updateContract_eq_ok h
  · exact ⟨rfl, rfl, rfl, rfl⟩
  · obtain ⟨-, -, -, htenant, -⟩ := applyVehicleAndPricingChanges_frame hdeal
    exact ⟨rfl, rfl, rfl, htenant⟩

variable {db' : SalesDb} {request : Request} {c : Uuid}

/-- A row after a request is an old one, or a pending one that is unsigned or
has the signature columns of the pending row it was edited from. -/
theorem request_rows (h : handle reads db request = .ok db') {row' : SalesContract}
    (hrow : db'.contracts.lookup c = some row') : db.contracts.lookup c = some row' ∨
    (row'.status = .pending ∧ ((row'.signedAt = none ∧ row'.reservationId = none) ∨
        ∃ row, db.contracts.lookup c = some row ∧ row.status = .pending ∧
          row'.signedAt = row.signedAt ∧ row'.reservationId = row.reservationId)) := by
  rcases contract_cases h hrow with hold | ⟨tenantId, data, -, hcreate⟩ |
    ⟨tenantId, ifMatch, data, contract, -, hcontract, hupdate⟩ |
    ⟨tenantId, ifMatch, edit, contract, deal, -, hcontract, hpending, -, rfl⟩
  · exact .inl hold
  · obtain ⟨h1, h2, h3⟩ := createContract_fresh hcreate
    exact .inr ⟨h1, .inl ⟨h2, h3⟩⟩
  · obtain ⟨h1, h2, h3, -⟩ := updateContract_keeps hupdate
    have hpending := (updateContract_eq_ok hupdate).1
    exact .inr ⟨h1.trans hpending, .inr ⟨contract, hcontract, hpending, h2, h3⟩⟩
  · exact .inr ⟨hpending, .inr ⟨contract, hcontract, hpending, rfl, rfl⟩⟩

theorem request_keeps (h : handle reads db request = .ok db') {row : SalesContract}
    (hrow : db.contracts.lookup c = some row) :
    ∃ row', db'.contracts.lookup c = some row' ∧ row'.tenantId = row.tenantId ∧
      (lockedBy request ≠ some c → row' = row) := by
  rcases handle_contracts h with hsame | ⟨tenantId, data, key, contract, rfl, -, hfresh, hins⟩ |
    ⟨tenantId, ifMatch, data, key, contract, updated, rfl, hcontract, hupdate, hins⟩ |
    ⟨tenantId, ifMatch, edit, key, contract, deal, rfl, hcontract, -, hedit, hins⟩
  · exact ⟨row, by rw [hsame]; exact hrow, rfl, fun _ => rfl⟩
  · refine ⟨row, ?_, rfl, fun _ => rfl⟩
    have hne : c ≠ key := by
      intro heq
      rw [heq, hfresh] at hrow
      cases hrow
    rw [hins, Table.lookup_insert_iff, if_neg hne]
    exact hrow
  · by_cases heq : c = key
    · subst heq
      have hsame : contract = row := Option.mem_unique hcontract hrow
      subst hsame
      refine ⟨updated, ?_, (updateContract_keeps hupdate).2.2.2, fun hne => absurd rfl hne⟩
      rw [hins, Table.lookup_insert_iff, if_pos rfl]
    · refine ⟨row, ?_, rfl, fun _ => rfl⟩
      rw [hins, Table.lookup_insert_iff, if_neg heq]
      exact hrow
  · by_cases heq : c = key
    · subst heq
      have hsame : contract = row := Option.mem_unique hcontract hrow
      subst hsame
      refine ⟨{ contract with toDeal := deal }, ?_, Edit.run_tenant hedit, fun hne => absurd rfl hne⟩
      rw [hins, Table.lookup_insert_iff, if_pos rfl]
    · refine ⟨row, ?_, rfl, fun _ => rfl⟩
      rw [hins, Table.lookup_insert_iff, if_neg heq]
      exact hrow

theorem request_frozen (h : handle reads db request = .ok db') {row : SalesContract}
    (hrow : db.contracts.lookup c = some row) (hstatus : row.status ≠ .pending) :
    db'.contracts.lookup c = some row := by
  have hother : ∀ key contract, c ≠ key → db'.contracts = db.contracts.insert key contract →
      db'.contracts.lookup c = some row := by
    intro key contract hne hins
    rw [hins, Table.lookup_insert_iff, if_neg hne]
    exact hrow
  rcases handle_contracts h with hsame | ⟨tenantId, data, key, contract, rfl, -, hfresh, hins⟩ |
    ⟨tenantId, ifMatch, data, key, contract, updated, rfl, hcontract, hupdate, hins⟩ |
    ⟨tenantId, ifMatch, edit, key, contract, deal, rfl, hcontract, hpending, -, hins⟩
  · rw [hsame]
    exact hrow
  · refine hother key contract (fun heq => ?_) hins
    rw [heq, hfresh] at hrow
    cases hrow
  · refine hother key updated (fun heq => hstatus ?_) hins
    rw [heq] at hrow
    rw [← Option.mem_unique hcontract hrow]
    exact (updateContract_eq_ok hupdate).1
  · refine hother key _ (fun heq => hstatus ?_) hins
    rw [heq] at hrow
    rw [← Option.mem_unique hcontract hrow]
    exact hpending

theorem ItemOk.active_lt {n : Uuid} {item : StockItem} (h : ItemOk n item) {r : Uuid}
    (hr : item.activeReservationId = some r) : r < n := by
  rcases h with hfree | ⟨c, r', hlt, hres⟩
  · rw [active_of_free hfree] at hr
    cases hr
  · have hsome : item.activeReservationId = some r' := congrArg (fun p => p.2.2) hres
    have heq : r' = r := Option.mem_unique hsome hr
    rw [← heq]
    exact hlt

/-- Every item of the new table has the reservation it had, is free, or is the
one item that was reserved under a newly drawn id. -/
def ItemsFrom (sh sh' : Shared ι) (x₀ c₀ r₀ : Uuid) : Prop :=
  ∀ y item', sh'.stock.items.lookup y = some item' →
    (∃ item, sh.stock.items.lookup y = some item ∧ item'.reservation = item.reservation) ∨
    item'.reservation = (.none, none, none) ∨
    (y = x₀ ∧ sh.nextId ≤ r₀ ∧ r₀ < sh'.nextId ∧
      item'.reservation = (.reserved, some c₀, some r₀))

section

variable {sh sh' : Shared ι} {x₀ c₀ r₀ : Uuid}

theorem ItemsFrom.items (h : ItemsFrom sh sh' x₀ c₀ r₀) (hg : Good sh)
    (hnext : sh.nextId ≤ sh'.nextId) (x : Uuid) (item : StockItem)
    (hrow : sh'.stock.items.lookup x = some item) : ItemOk sh'.nextId item := by
  rcases h x item hrow with ⟨old, hold, hres⟩ | hfree | ⟨-, -, hlt, hres⟩
  · rcases (hg.items x old hold).mono hnext with hfree | ⟨c, r, hr, hr'⟩
    · exact .inl (hres.trans hfree)
    · exact .inr ⟨c, r, hr, hres.trans hr'⟩
  · exact .inl hfree
  · exact .inr ⟨c₀, r₀, hlt, hres⟩

theorem ItemsFrom.active (h : ItemsFrom sh sh' x₀ c₀ r₀) {x r : Uuid} {item : StockItem}
    (hrow : sh'.stock.items.lookup x = some item) (hr : item.activeReservationId = some r) :
    (∃ old, sh.stock.items.lookup x = some old ∧ old.activeReservationId = some r ∧
      item.reservation = old.reservation) ∨ (x = x₀ ∧ r = r₀ ∧ sh.nextId ≤ r) := by
  rcases h x item hrow with ⟨old, hold, hres⟩ | hfree | ⟨hx, hle, -, hres⟩
  · exact .inl ⟨old, hold, (reservation_active hres).symm.trans hr, hres⟩
  · rw [active_of_free hfree] at hr
    cases hr
  · have hsome : item.activeReservationId = some r₀ := congrArg (fun p => p.2.2) hres
    have heq : r = r₀ := Option.mem_unique hr hsome
    exact .inr ⟨hx, heq, by rw [heq]; exact hle⟩

theorem ItemsFrom.distinct (h : ItemsFrom sh sh' x₀ c₀ r₀) (hg : Good sh) (x y : Uuid)
    (item item' : StockItem) (r : Uuid) (hx : sh'.stock.items.lookup x = some item)
    (hy : sh'.stock.items.lookup y = some item') (hr : item.activeReservationId = some r)
    (hr' : item'.activeReservationId = some r) : x = y := by
  rcases h.active hx hr with ⟨old, hold, hro, -⟩ | ⟨rfl, rfl, hle⟩
  · rcases h.active hy hr' with ⟨old', hold', hro', -⟩ | ⟨-, -, hle⟩
    · exact hg.distinct x y old old' r hold hold' hro hro'
    · exact absurd ((hg.items x old hold).active_lt hro) (Nat.not_lt.mpr hle)
  · rcases h.active hy hr' with ⟨old', hold', hro', -⟩ | ⟨hy', -, -⟩
    · exact absurd ((hg.items y old' hold').active_lt hro') (Nat.not_lt.mpr hle)
    · exact hy'.symm

theorem ItemsFrom.owned (h : ItemsFrom sh sh' x₀ c₀ r₀) (hnext : sh.nextId ≤ sh'.nextId)
    {c r : Uuid} (ho : Owned sh c r) : Owned sh' c r := by
  refine ⟨Nat.lt_of_lt_of_le ho.1 hnext, fun x item hrow hr => ?_⟩
  rcases h.active hrow hr with ⟨old, hold, hro, hres⟩ | ⟨-, -, hle⟩
  · exact (reservation_contract hres).trans (ho.2 x old hold hro)
  · exact absurd ho.1 (Nat.not_lt.mpr hle)

end

theorem itemsFrom_modify {sh sh' : Shared ι} {x : Uuid} {f : StockItem → StockItem}
    (hitems : sh'.stock.items = sh.stock.items.modify x f)
    (hf : ∀ item, (f item).reservation = (.none, none, none)) (c r : Uuid) :
    ItemsFrom sh sh' x c r := by
  intro y item' hrow
  rw [hitems, Table.lookup_modify] at hrow
  split at hrow
  · obtain ⟨item, -, rfl⟩ := Option.map_eq_some_iff.mp hrow
    exact .inr (.inl (hf item))
  · exact .inl ⟨item', hrow, rfl⟩

section Effects

variable {i : ι} {sh sh' : Shared ι} {lo : Local}

theorem Effect.itemsFrom (h : Effect sh sh' lo) :
    sh.nextId ≤ sh'.nextId ∧ ∃ x c r, ItemsFrom sh sh' x c r := by
  have hunchanged : sh'.stock.items = sh.stock.items → ∃ x c r, ItemsFrom sh sh' x c r := by
    intro heq
    refine ⟨0, 0, 0, fun y item' hrow => ?_⟩
    rw [heq] at hrow
    exact .inl ⟨item', hrow, rfl⟩
  cases h with
  | same htables => exact ⟨htables.2.2.1, hunchanged (by rw [htables.2.1])⟩
  | request hfree hsales hcontracts hstock hnext houtbox =>
    exact ⟨Nat.le_of_eq hnext.symm, hunchanged (by rw [hstock])⟩
  | @confirmedEvent reads tenantId payload hmem hhandled huuid hnext hcontracts houtbox =>
    refine ⟨by rw [hnext]; exact Nat.le_add_right _ _,
      reads.uuid 0, payload.contractId, reads.uuid 1, fun y item' hrow => ?_⟩
    -- of the new items only the ordered car is reserved, under an id drawn here
    rcases handleSalesContractConfirmed_lookup hhandled hrow with ⟨item, hitem, hres, -⟩ |
      ⟨-, hfree⟩ | ⟨-, hy, -, hres⟩
    · exact .inl ⟨item, hitem, hres⟩
    · exact .inr (.inl hfree)
    · refine .inr (.inr ⟨hy, ?_, ?_, hres⟩)
      · rw [huuid]
        exact Nat.le_add_right _ _
      · rw [huuid, hnext]
        exact Nat.add_lt_add_left (by decide) _
  | @cancelledEvent now tenantId contractId hmem hunlocked hstock hnext hcontracts houtbox =>
    refine ⟨Nat.le_of_eq hnext.symm, 0, 0, 0, fun y item' hrow => ?_⟩
    rw [hstock, recordContractCancelled_lookup] at hrow
    obtain ⟨item, hitem, rfl⟩ := Option.map_eq_some_iff.mp hrow
    split
    · exact .inr (.inl rfl)
    · exact .inl ⟨item, hitem, rfl⟩
  | @reserve job newlyUsed x item records hfree hstock hrecords hnext hcontracts houtbox =>
    refine ⟨by rw [hnext]; exact Nat.le_succ _, x, job.contractId, sh.nextId,
      fun y item' hrow => ?_⟩
    rw [hstock, Table.lookup_modify] at hrow
    split at hrow
    · next hy =>
      obtain ⟨old, -, rfl⟩ := Option.map_eq_some_iff.mp hrow
      exact .inr (.inr ⟨hy, Nat.le_refl _, by rw [hnext]; exact Nat.lt_succ_self _, rfl⟩)
    · exact .inl ⟨item', hrow, rfl⟩
  | sign hcontracts hstock hnext houtbox =>
    exact ⟨Nat.le_of_eq hnext.symm, hunchanged (by rw [hstock])⟩
  | @undoRelease now undo r x item hstock hnext hcontracts houtbox =>
    exact ⟨Nat.le_of_eq hnext.symm, x, 0, 0,
      itemsFrom_modify (by rw [hstock]) (fun _ => rfl) 0 0⟩
  | @cancelRelease now job reason r x item hstock hnext hcontracts houtbox =>
    exact ⟨Nat.le_of_eq hnext.symm, x, 0, 0,
      itemsFrom_modify (by rw [hstock]) (fun _ => rfl) 0 0⟩
  | cancel hcontracts hstock hnext houtbox =>
    exact ⟨Nat.le_of_eq hnext.symm, hunchanged (by rw [hstock])⟩

theorem Effect.owned (h : Effect sh sh' lo) {c r : Uuid} (ho : Owned sh c r) : Owned sh' c r := by
  obtain ⟨hnext, x, c', r', hfrom⟩ := h.itemsFrom
  exact hfrom.owned hnext ho

theorem Effect.records (h : Effect sh sh' lo) {key : IdempotencyKey} {t : Uuid}
    {record : IdempotencyRecord} (hrecord : sh'.stock.records.lookup (key, t) = some record) :
    sh.stock.records.lookup (key, t) = some record ∨
    (∃ c x, key = .confirm c ∧ record.requestPath = .reserve x ∧ record.requestBody = some c) ∨
    (∃ c r, key = .confirmCompensate c r) ∨
    (∃ job reason r x item now, lo = .cancelReleasing job reason r x item ∧
      key = .cancel job.contractId ∧ record.requestPath = .release r ∧
      sh'.stock.items = sh.stock.items.modify x (releaseAndFlush now)) := by
  have hkept : sh'.stock.records = sh.stock.records →
      sh.stock.records.lookup (key, t) = some record := by
    intro heq
    rw [← heq]
    exact hrecord
  cases h with
  | same htables => exact .inl (hkept (by rw [htables.2.1]))
  | request hfree hsales hcontracts hstock hnext houtbox => exact .inl (hkept (by rw [hstock]))
  | confirmedEvent hmem hhandled huuid hnext hcontracts houtbox =>
    exact .inl (hkept (handleSalesContractConfirmed_records hhandled))
  | cancelledEvent hmem hunlocked hstock hnext hcontracts houtbox =>
    exact .inl (hkept (by rw [hstock]; rfl))
  | reserve hfree hstock hrecords hnext hcontracts houtbox =>
    rw [hstock] at hrecord
    rcases hrecords with rfl | rfl
    · exact .inl hrecord
    · rcases Table.lookup_insert_cases hrecord with ⟨hkey, rfl⟩ | ⟨-, hold⟩
      · exact .inr (.inl ⟨_, _, (Prod.mk.inj hkey).1, rfl, rfl⟩)
      · exact .inl hold
  | sign hcontracts hstock hnext houtbox => exact .inl (hkept (by rw [hstock]))
  | undoRelease hstock hnext hcontracts houtbox =>
    rw [hstock] at hrecord
    rcases Table.lookup_insert_cases hrecord with ⟨hkey, -⟩ | ⟨-, hold⟩
    · exact .inr (.inr (.inl ⟨_, _, (Prod.mk.inj hkey).1⟩))
    · exact .inl hold
  | @cancelRelease now job reason r x item hstock hnext hcontracts houtbox =>
    rw [hstock] at hrecord
    rcases Table.lookup_insert_cases hrecord with ⟨hkey, rfl⟩ | ⟨-, hold⟩
    · exact .inr (.inr (.inr ⟨job, reason, r, x, item, now, rfl, (Prod.mk.inj hkey).1, rfl,
        by rw [hstock]⟩))
    · exact .inl hold
  | cancel hcontracts hstock hnext houtbox => exact .inl (hkept (by rw [hstock]))

theorem Effect.confirmRecords (h : Effect sh sh' lo) (hg : Good sh) (c t : Uuid)
    (record : IdempotencyRecord)
    (hrecord : sh'.stock.records.lookup (.confirm c, t) = some record) :
    record.requestBody = some c ∧ ∃ x, record.requestPath = .reserve x := by
  rcases h.records hrecord with hold | ⟨c', x, hkey, hpath, hbody⟩ | ⟨c', r, hkey⟩ |
    ⟨job, reason, r, x, item, now, -, hkey, -, -⟩
  · exact hg.confirmRecords c t record hold
  · rw [IdempotencyKey.confirm.inj hkey]
    exact ⟨hbody, x, hpath⟩
  · cases hkey
  · cases hkey

theorem Effect.sweepRecords (h : Effect sh sh' lo) (hg : Good sh) (r t : Uuid) :
    sh'.stock.records.lookup (.reservationSweep r, t) = none := by
  by_contra hsome
  obtain ⟨record, hrecord⟩ := Option.ne_none_iff_exists'.mp hsome
  rcases h.records hrecord with hold | ⟨c', x, hkey, -, -⟩ | ⟨c', r', hkey⟩ |
    ⟨job, reason, r', x, item, now, -, hkey, -, -⟩
  · rw [hg.sweepRecords r t] at hold
    cases hold
  · cases hkey
  · cases hkey
  · cases hkey

theorem Effect.spent (h : Effect sh sh' lo) {r : Uuid} (hspent : Spent sh r) : Spent sh' r := by
  obtain ⟨hnext, x₀, c₀, r₀, hfrom⟩ := h.itemsFrom
  refine ⟨Nat.lt_of_lt_of_le hspent.1 hnext, fun x item hrow hr => ?_⟩
  rcases hfrom.active hrow hr with ⟨old, hold, hro, -⟩ | ⟨-, -, hle⟩
  · exact hspent.2 x old hold hro
  · exact absurd hspent.1 (Nat.not_lt.mpr hle)

theorem Effect.cancelRecords (h : Effect sh sh' lo) (hg : Good sh) (hk : Knows i sh lo)
    (c t : Uuid) (record : IdempotencyRecord) (r : Uuid)
    (hrecord : sh'.stock.records.lookup (.cancel c, t) = some record)
    (hpath : record.requestPath = .release r) : Spent sh' r := by
  rcases h.records hrecord with hold | ⟨c', x, hkey, -, -⟩ | ⟨c', r', hkey⟩ |
    ⟨job, reason, r', x, item, now, rfl, -, hpath', hitems⟩
  · exact h.spent (hg.cancelRecords c t record r hold hpath)
  · cases hkey
  · cases hkey
  · -- the one item that carried the reservation has just been freed
    have hr : r' = r := RequestPath.release.inj (hpath'.symm.trans hpath)
    subst hr
    obtain ⟨-, ⟨-, locked, hlocked, hsame, -⟩, hactive, howned⟩ := hk
    have hcarried := (reservation_active hsame).trans hactive
    refine ⟨Nat.lt_of_lt_of_le howned.1 h.itemsFrom.1, fun y other hother hr => ?_⟩
    rw [hitems, Table.lookup_modify] at hother
    split at hother
    · obtain ⟨old, -, rfl⟩ := Option.map_eq_some_iff.mp hother
      cases hr
    · next hne =>
      exact hne (hg.distinct y x other locked r' hother hlocked hr hcarried)

theorem Effect.rows (h : Effect sh sh' lo) (hg : Good sh) (hk : Knows i sh lo) (c : Uuid)
    (row' : SalesContract) (hrow : sh'.sales.contracts.lookup c = some row') :
    RowOk sh' c row' := by
  have hkept : ∀ row, sh.sales.contracts.lookup c = some row → RowOk sh' c row := by
    intro row hold
    have hr := hg.rows c row hold
    exact ⟨hr.pending, hr.signed, fun r hmem => h.owned (hr.owned r hmem)⟩
  have howned : ∀ {c r}, Owned sh c r → Owned sh' c r := fun ho => h.owned ho
  cases h with
  | same htables =>
    rw [htables.1] at hrow
    exact hkept row' hrow
  | request hfree hsales hcontracts hstock hnext houtbox =>
    rw [hcontracts] at hrow
    -- an old row, a new one, or a pending one whose signature columns are still empty
    rcases request_rows hsales hrow with hold | ⟨hpending, ⟨hs, hr⟩ | ⟨row, hold, hp, hs, hr⟩⟩
    · exact hkept row' hold
    · refine ⟨fun _ => ⟨hs, hr⟩, fun hc => ?_, fun r hmem => ?_⟩
      · rw [hpending] at hc
        cases hc
      · rw [hr] at hmem
        cases hmem
    · obtain ⟨hs', hr'⟩ := (hg.rows c row hold).pending hp
      refine ⟨fun _ => ⟨hs.trans hs', hr.trans hr'⟩, fun hc => ?_, fun r hmem => ?_⟩
      · rw [hpending] at hc
        cases hc
      · rw [hr, hr'] at hmem
        cases hmem
  | confirmedEvent hmem hhandled huuid hnext hcontracts houtbox =>
    rw [hcontracts] at hrow
    exact hkept row' hrow
  | cancelledEvent hmem hunlocked hstock hnext hcontracts houtbox =>
    rw [hcontracts] at hrow
    exact hkept row' hrow
  | reserve hfree hstock hrecords hnext hcontracts houtbox =>
    rw [hcontracts] at hrow
    exact hkept row' hrow
  | @sign job newlyUsed reservationId hcontracts hstock hnext houtbox =>
    rw [hcontracts] at hrow
    rcases Table.lookup_insert_cases hrow with ⟨rfl, rfl⟩ | ⟨-, hold⟩
    · refine ⟨fun hp => (by cases hp), fun _ => (by simp [confirmedRow]), fun r hmem => ?_⟩
      -- the reservation the confirmation signs is the contract's own
      exact howned (hk.2.2.owned r hmem)
    · exact hkept row' hold
  | undoRelease hstock hnext hcontracts houtbox =>
    rw [hcontracts] at hrow
    exact hkept row' hrow
  | cancelRelease hstock hnext hcontracts houtbox =>
    rw [hcontracts] at hrow
    exact hkept row' hrow
  | @cancel job reason hcontracts hstock hnext houtbox =>
    rw [hcontracts] at hrow
    rcases Table.lookup_insert_cases hrow with ⟨rfl, rfl⟩ | ⟨-, hold⟩
    · have hr := hg.rows _ _ hk.2
      exact ⟨fun hp => (by cases hp), fun hc => (by cases hc), fun r hmem => howned (hr.owned r hmem)⟩
    · exact hkept row' hold

theorem Effect.cancelled (h : Effect sh sh' lo) (hg : Good sh) (hk : Knows i sh lo)
    (t c : Uuid) (hmem : Event.cancelled t c ∈ sh'.outbox) :
    ∃ row, sh'.sales.contracts.lookup c = some row ∧ row.status = .cancelled := by
  have hkept : sh'.sales.contracts = sh.sales.contracts → sh'.outbox = sh.outbox →
      ∃ row, sh'.sales.contracts.lookup c = some row ∧ row.status = .cancelled := by
    intro hcontracts houtbox
    rw [houtbox] at hmem
    rw [hcontracts]
    exact hg.cancelled t c hmem
  cases h with
  | same htables => exact hkept htables.1 htables.2.2.2
  | request hfree hsales hcontracts hstock hnext houtbox =>
    -- requests edit pending contracts only
    rw [houtbox] at hmem
    obtain ⟨row, hrow, hstatus⟩ := hg.cancelled t c hmem
    refine ⟨row, ?_, hstatus⟩
    rw [hcontracts]
    exact request_frozen hsales hrow (by rw [hstatus]; decide)
  | confirmedEvent _ hhandled huuid hnext hcontracts houtbox => exact hkept hcontracts houtbox
  | cancelledEvent _ hunlocked hstock hnext hcontracts houtbox => exact hkept hcontracts houtbox
  | reserve hfree hstock hrecords hnext hcontracts houtbox => exact hkept hcontracts houtbox
  | @sign job newlyUsed reservationId hcontracts hstock hnext houtbox =>
    rw [houtbox] at hmem
    rcases List.mem_append.mp hmem with hold | hnew
    · obtain ⟨row, hrow, hstatus⟩ := hg.cancelled t c hold
      -- the contract being signed is pending
      have hne : c ≠ job.contractId := by
        intro heq
        rw [heq] at hrow
        have hsame : job.contract = row := Option.mem_unique hk.1.2 hrow
        rw [← hsame, hk.2.1] at hstatus
        cases hstatus
      refine ⟨row, ?_, hstatus⟩
      rw [hcontracts, Table.lookup_insert_iff, if_neg hne]
      exact hrow
    · simp at hnew
  | undoRelease hstock hnext hcontracts houtbox => exact hkept hcontracts houtbox
  | cancelRelease hstock hnext hcontracts houtbox => exact hkept hcontracts houtbox
  | @cancel job reason hcontracts hstock hnext houtbox =>
    by_cases heq : c = job.contractId
    · refine ⟨cancelledRow job.reads reason job.contract, ?_, rfl⟩
      rw [hcontracts, Table.lookup_insert_iff, if_pos heq]
    · rw [houtbox] at hmem
      rcases List.mem_append.mp hmem with hold | hnew
      · obtain ⟨row, hrow, hstatus⟩ := hg.cancelled t c hold
        refine ⟨row, ?_, hstatus⟩
        rw [hcontracts, Table.lookup_insert_iff, if_neg heq]
        exact hrow
      · simp only [List.mem_singleton, Event.cancelled.injEq] at hnew
        exact absurd hnew.2 heq

/-- What a session that knows what it knows writes leaves the tables `Good`. -/
theorem Effect.good (h : Effect sh sh' lo) (hg : Good sh) (hk : Knows i sh lo) : Good sh' := by
  obtain ⟨hnext, x, c, r, hfrom⟩ := h.itemsFrom
  exact ⟨hfrom.items hg hnext, hfrom.distinct hg, h.rows hg hk, h.cancelled hg hk,
    h.confirmRecords hg, h.cancelRecords hg hk, h.sweepRecords hg⟩

end Effects

end Nexotec.Confirmation
