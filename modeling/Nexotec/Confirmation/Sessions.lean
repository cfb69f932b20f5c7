/-
The sessions of the confirmation system do not disturb one another.

What a step leaves to the other sessions: the rows and items they have locked
(`Effect.locked_row`, `Effect.locked_item`), the reservations of contracts
nobody is releasing (`Effect.held`) and their locks (`KeepsLocks`).
-/
import Nexotec.Confirmation.Steps

namespace Nexotec.Confirmation

open Interleaving

variable {ι : Type}

section Frame

variable {i j : ι} {sh sh' : Shared ι} {lo : Local} {c x r c' : Uuid}

theorem RowAt.ne_of_locked {k : SalesContract} (h : RowAt i sh c k) (hij : i ≠ j)
    (hlock : sh.contractLock c' = some j) : c' ≠ c := by
  intro heq
  rw [heq, h.1] at hlock
  exact hij (Option.some.inj hlock)

variable {item : StockItem}

theorem ItemAt.ne_of_locked {y : Uuid} (h : ItemAt i sh x item) (hij : i ≠ j)
    (hlock : sh.itemLock y = some j) : y ≠ x := by
  intro heq
  rw [heq, h.1] at hlock
  exact hij (Option.some.inj hlock)

variable {row : SalesContract}

theorem Effect.locked_row (h : Effect sh sh' lo) (hk : Knows i sh lo) (hij : i ≠ j)
    (hlock : sh.contractLock c = some j) (hrow : sh.sales.contracts.lookup c = some row) :
    sh'.sales.contracts.lookup c = some row := by
  have hkept : sh'.sales.contracts = sh.sales.contracts →
      sh'.sales.contracts.lookup c = some row := by
    intro hcontracts
    rw [hcontracts]
    exact hrow
  cases h with
  | same htables => exact hkept htables.1
  | @request reads request sales hfree hsales hcontracts hstock hnext houtbox =>
    have hne : lockedBy request ≠ some c := by
      intro hc
      rw [hfree c hc] at hlock
      cases hlock
    obtain ⟨row', hrow', -, hsame⟩ := request_keeps hsales hrow
    rw [hcontracts, hrow', hsame hne]
  | confirmedEvent hmem hhandled huuid hnext hcontracts houtbox => exact hkept hcontracts
  | cancelledEvent hmem hunlocked hstock hnext hcontracts houtbox => exact hkept hcontracts
  | reserve hfree hstock hrecords hnext hcontracts houtbox => exact hkept hcontracts
  | sign hcontracts hstock hnext houtbox =>
    rw [hcontracts, Table.lookup_insert_iff, if_neg (hk.1.ne_of_locked hij hlock)]
    exact hrow
  | undoRelease hstock hnext hcontracts houtbox => exact hkept hcontracts
  | cancelRelease hstock hnext hcontracts houtbox => exact hkept hcontracts
  | cancel hcontracts hstock hnext houtbox =>
    rw [hcontracts, Table.lookup_insert_iff, if_neg (RowAt.ne_of_locked hk hij hlock)]
    exact hrow

theorem Effect.tenants (h : Effect sh sh' lo) (hk : Knows i sh lo)
    (hrow : sh.sales.contracts.lookup c = some row) :
    ∃ row', sh'.sales.contracts.lookup c = some row' ∧ row'.tenantId = row.tenantId := by
  have hkept : sh'.sales.contracts = sh.sales.contracts →
      ∃ row', sh'.sales.contracts.lookup c = some row' ∧ row'.tenantId = row.tenantId := by
    intro hcontracts
    rw [hcontracts]
    exact ⟨row, hrow, rfl⟩
  -- a signature or a cancellation writes the row the session has read
  have hwritten : ∀ job : Job, RowAt i sh job.contractId job.contract →
      ∀ new : SalesContract,
      sh'.sales.contracts = sh.sales.contracts.insert job.contractId new →
      new.tenantId = job.contract.tenantId →
      ∃ row', sh'.sales.contracts.lookup c = some row' ∧ row'.tenantId = row.tenantId := by
    intro job hat new hcontracts htenant
    rw [hcontracts, Table.lookup_insert_iff]
    by_cases heq : c = job.contractId
    · rw [if_pos heq]
      rw [heq] at hrow
      have hsame : job.contract = row := Option.mem_unique hat.2 hrow
      exact ⟨new, rfl, by rw [htenant, hsame]⟩
    · rw [if_neg heq]
      exact ⟨row, hrow, rfl⟩
  cases h with
  | same htables => exact hkept htables.1
  | request hfree hsales hcontracts hstock hnext houtbox =>
    obtain ⟨row', hrow', htenant, -⟩ := request_keeps hsales hrow
    exact ⟨row', by rw [hcontracts]; exact hrow', htenant⟩
  | confirmedEvent hmem hhandled huuid hnext hcontracts houtbox => exact hkept hcontracts
  | cancelledEvent hmem hunlocked hstock hnext hcontracts houtbox => exact hkept hcontracts
  | reserve hfree hstock hrecords hnext hcontracts houtbox => exact hkept hcontracts
  | sign hcontracts hstock hnext houtbox => exact hwritten _ hk.1 _ hcontracts rfl
  | undoRelease hstock hnext hcontracts houtbox => exact hkept hcontracts
  | cancelRelease hstock hnext hcontracts houtbox => exact hkept hcontracts
  | cancel hcontracts hstock hnext houtbox => exact hwritten _ hk _ hcontracts rfl

theorem Effect.locked_item (h : Effect sh sh' lo) (hk : Knows i sh lo) (hij : i ≠ j)
    (hlock : sh.itemLock x = some j) (hkeeps : KeepsItem sh.stock.items x item) :
    KeepsItem sh'.stock.items x item := by
  have hkept : sh'.stock = sh.stock → KeepsItem sh'.stock.items x item := by
    intro hstock
    rw [hstock]
    exact hkeeps
  have hother : ∀ y f records cancelled, x ≠ y →
      sh'.stock = ⟨sh.stock.items.modify y f, records, cancelled⟩ →
      KeepsItem sh'.stock.items x item := by
    intro y f records cancelled hne hstock
    rw [hstock, KeepsItem, Table.lookup_modify_ne hne]
    exact hkeeps
  cases h with
  | same htables => exact hkept htables.2.1
  | request hfree hsales hcontracts hstock hnext houtbox => exact hkept hstock
  | confirmedEvent hmem hhandled huuid hnext hcontracts houtbox =>
    obtain ⟨old, hold, h1, h2, h3, h4⟩ := hkeeps
    obtain ⟨new, hnew, k1, k2, k3, k4⟩ := handleSalesContractConfirmed_keeps hhandled hold
    exact ⟨new, hnew, k1.trans h1, k2.trans h2, k3.trans h3, k4.trans h4⟩
  | @cancelledEvent now tenantId contractId hmem hunlocked hstock hnext hcontracts houtbox =>
    obtain ⟨old, hold, hsame⟩ := hkeeps
    -- the event waits for the rows it is about to release
    have hnot : heldBy tenantId contractId old = false := by
      by_contra hheld
      rw [Bool.not_eq_false] at hheld
      rw [hunlocked x old hold hheld] at hlock
      cases hlock
    refine ⟨old, ?_, hsame⟩
    rw [hstock, recordContractCancelled_lookup, hold, Option.map_some, hnot]
    rfl
  | reserve hfree hstock hrecords hnext hcontracts houtbox =>
    exact hother _ _ _ _ (hk.2.2.2.ne_of_locked hij hlock) hstock
  | sign hcontracts hstock hnext houtbox => exact hkept hstock
  | undoRelease hstock hnext hcontracts houtbox =>
    exact hother _ _ _ _ (hk.2.2.1.ne_of_locked hij hlock) hstock
  | cancelRelease hstock hnext hcontracts houtbox =>
    exact hother _ _ _ _ (hk.2.1.ne_of_locked hij hlock) hstock
  | cancel hcontracts hstock hnext houtbox => exact hkept hstock

/-- The contract whose reservation the session is about to release. -/
def Local.releasing : Local → Option Uuid
  | .undoReleasing undo _ _ _ => some undo.contractId
  | .cancelReleasing job _ _ _ _ => some job.contractId
  | _ => none

theorem HeldAt.of_reservation (hrow : sh'.stock.items.lookup x = some item)
    (hres : item.reservation = (.reserved, some c, some r)) : HeldAt sh' x c r :=
  ⟨item, hrow, heldFor_iff.mpr hres⟩

theorem ReleaseAt.ne_of_held {r' x' : Uuid} (hat : ReleaseAt i sh c' r' x' item) (hne : c' ≠ c)
    (hheld : HeldAt sh x c r) : x ≠ x' := by
  intro heq
  obtain ⟨⟨-, locked, hlocked, hsame, -⟩, hactive, howned⟩ := hat
  obtain ⟨held, hrow, -, hcontract, -⟩ := hheld
  rw [heq] at hrow
  have hitem : locked = held := Option.mem_unique hlocked hrow
  subst hitem
  have howner := howned.2 x' locked hlocked ((reservation_active hsame).trans hactive)
  exact hne (Option.mem_unique howner hcontract)

/-- **A reservation stands.**  Only a release of the contract itself, or the
consumption of its cancellation, frees an item the contract holds. -/
theorem Effect.held (h : Effect sh sh' lo) (hg : Good sh) (hk : Knows i sh lo)
    (hrow : sh.sales.contracts.lookup c = some row) (hstatus : row.status ≠ .cancelled)
    (hreleasing : lo.releasing ≠ some c) (hheld : HeldAt sh x c r) : HeldAt sh' x c r := by
  have hkept : sh'.stock = sh.stock → HeldAt sh' x c r := by
    intro hstock
    rw [HeldAt, hstock]
    exact hheld
  have hother : ∀ y f records cancelled, x ≠ y →
      sh'.stock = ⟨sh.stock.items.modify y f, records, cancelled⟩ → HeldAt sh' x c r := by
    intro y f records cancelled hne hstock
    rw [HeldAt, hstock, Table.lookup_modify_ne hne]
    exact hheld
  obtain ⟨item, hitem, hfor⟩ := id hheld
  have hres := heldFor_iff.mp hfor
  cases h with
  | same htables => exact hkept htables.2.1
  | request hfree hsales hcontracts hstock hnext houtbox => exact hkept hstock
  | confirmedEvent hmem hhandled huuid hnext hcontracts houtbox =>
    obtain ⟨new, hnew, hsame, -⟩ := handleSalesContractConfirmed_keeps hhandled hitem
    exact .of_reservation hnew (hsame.trans hres)
  | @cancelledEvent now tenantId contractId hmem hunlocked hstock hnext hcontracts houtbox =>
    -- events of a cancellation are of cancelled contracts, and this one is not
    obtain ⟨cancelled, hcancelled, hstatus'⟩ := hg.cancelled tenantId contractId hmem
    have hne : contractId ≠ c := by
      intro heq
      rw [heq, hrow] at hcancelled
      rw [Option.some.inj hcancelled] at hstatus
      exact hstatus hstatus'
    have hnot : heldBy tenantId contractId item = false := by
      by_contra hby
      rw [Bool.not_eq_false, heldBy_iff] at hby
      exact hne (Option.mem_unique hby.2.1 hfor.2.1)
    refine ⟨item, ?_, hfor⟩
    rw [hstock, recordContractCancelled_lookup, hitem, Option.map_some, hnot]
    rfl
  | @reserve job newlyUsed y locked records hfree hstock hrecords hnext hcontracts houtbox =>
    refine hother _ _ _ _ (fun heq => ?_) hstock
    -- the item that is reserved was free under the lock
    obtain ⟨-, old, hold, hsame, -⟩ := hk.2.2.2
    rw [← heq] at hold
    have hitem' : old = item := Option.mem_unique hold hitem
    rw [hitem', hres] at hsame
    exact hfree (congrArg (fun p => p.1) hsame).symm
  | sign hcontracts hstock hnext houtbox => exact hkept hstock
  | undoRelease hstock hnext hcontracts houtbox =>
    have hne : _ ≠ c := fun heq => hreleasing (congrArg some heq)
    exact hother _ _ _ _ (hk.2.2.ne_of_held hne hheld) hstock
  | cancelRelease hstock hnext hcontracts houtbox =>
    have hne : _ ≠ c := fun heq => hreleasing (congrArg some heq)
    exact hother _ _ _ _ (hk.2.ne_of_held hne hheld) hstock
  | cancel hcontracts hstock hnext houtbox => exact hkept hstock

theorem Knows.lock_of_releasing (hk : Knows i sh lo) (h : lo.releasing = some c) :
    sh.contractLock c = some i := by
  cases lo with
  | undoReleasing undo reservationId y item =>
    rw [← Option.some.inj h]
    exact hk.2.1.1
  | cancelReleasing job reason reservationId y item =>
    rw [← Option.some.inj h]
    exact hk.1.1
  | _ => cases h

end Frame

/-- The locks of the other sessions stay theirs. -/
structure KeepsLocks (i : ι) (sh sh' : Shared ι) : Prop where
  contractLock : ∀ c j, i ≠ j → sh.contractLock c = some j → sh'.contractLock c = some j
  itemLock : ∀ x j, i ≠ j → sh.itemLock x = some j → sh'.itemLock x = some j

section

variable {i : ι} {sh sh' : Shared ι} {lo : Local} {c x : Uuid}

theorem KeepsLocks.of_eq (hc : sh'.contractLock = sh.contractLock)
    (hx : sh'.itemLock = sh.itemLock) : KeepsLocks i sh sh' := by
  refine ⟨fun c j _ hj => ?_, fun x j _ hj => ?_⟩
  · rw [hc]
    exact hj
  · rw [hx]
    exact hj

theorem KeepsLocks.trans {sh'' : Shared ι} (h : KeepsLocks i sh sh')
    (h' : KeepsLocks i sh' sh'') : KeepsLocks i sh sh'' where
  contractLock c j hij hj := h'.contractLock c j hij (h.contractLock c j hij hj)
  itemLock x j hij hj := h'.itemLock x j hij (h.itemLock x j hij hj)

theorem update_keeps {f : Uuid → Option ι} {k : Uuid} {v : Option ι}
    (hk : f k = none ∨ f k = some i) :
    ∀ c j, i ≠ j → f c = some j → Function.update f k v c = some j := by
  intro c j hij hj
  have hne : c ≠ k := by
    intro heq
    rw [heq] at hj
    rcases hk with hnone | hown
    · rw [hnone] at hj
      cases hj
    · exact hij (Option.mem_unique hown hj)
  rw [Function.update_of_ne hne]
  exact hj

theorem keepsLocks_lockContract (h : sh.contractLock c = none) :
    KeepsLocks i sh (lockContract i c sh) :=
  ⟨update_keeps (.inl h), fun _ _ _ hj => hj⟩

theorem keepsLocks_lockItem (h : sh.itemLock x = none) : KeepsLocks i sh (lockItem i x sh) :=
  ⟨fun _ _ _ hj => hj, update_keeps (.inl h)⟩

theorem keepsLocks_unlockItem (h : sh.itemLock x = some i)
    (hc : sh'.contractLock = sh.contractLock) (hx : sh'.itemLock = sh.itemLock) :
    KeepsLocks i sh (unlockItem (some x) sh') := by
  refine (KeepsLocks.of_eq hc hx).trans ⟨fun _ _ _ hj => hj, update_keeps (.inr ?_)⟩
  rw [hx]
  exact h

theorem Knows.lockedContract (hk : Knows i sh lo) (h : lo.lockedContract = some c) :
    sh.contractLock c = some i := by
  cases lo with
  | idle => cases h
  | compensating undo => cases h
  | loaded contractId contract =>
    rw [← Option.some.inj h]
    exact hk.1
  | guarded job | consumed job newlyUsed | reserving job newlyUsed y item
  | reserved job newlyUsed reservationId | cancelReleasing job reason reservationId y item =>
    rw [← Option.some.inj h]
    exact hk.1.1
  | undoing undo =>
    rw [← Option.some.inj h]
    exact hk.2.1
  | undoReleasing undo reservationId y item =>
    rw [← Option.some.inj h]
    exact hk.2.1.1
  | cancelling job reason | cancelReleased job reason =>
    rw [← Option.some.inj h]
    exact hk.1

theorem Knows.lockedItem (hk : Knows i sh lo) (h : lo.lockedItem = some x) :
    sh.itemLock x = some i := by
  cases lo with
  | reserving job newlyUsed y item =>
    rw [← Option.some.inj h]
    exact hk.2.2.2.1
  | undoReleasing undo reservationId y item =>
    rw [← Option.some.inj h]
    exact hk.2.2.1.1
  | cancelReleasing job reason reservationId y item =>
    rw [← Option.some.inj h]
    exact hk.2.1.1
  | _ => cases h

theorem Knows.keepsLocks_close (hk : Knows i sh lo) (hc : sh'.contractLock = sh.contractLock)
    (hx : sh'.itemLock = sh.itemLock) : KeepsLocks i sh (close lo sh') := by
  have hitems : KeepsLocks i sh' (unlockItem lo.lockedItem sh') := by
    cases hitem : lo.lockedItem with
    | none => exact .of_eq rfl rfl
    | some x =>
      refine keepsLocks_unlockItem ?_ rfl rfl
      rw [hx]
      exact hk.lockedItem hitem
  have hcontracts : KeepsLocks i (unlockItem lo.lockedItem sh') (close lo sh') := by
    rw [close]
    cases hcontract : lo.lockedContract with
    | none => exact .of_eq rfl rfl
    | some c =>
      refine ⟨update_keeps (.inr ?_), fun _ _ _ hj => hj⟩
      rw [unlockItem_contractLock, hc]
      exact hk.lockedContract hcontract
  exact ((KeepsLocks.of_eq hc hx).trans hitems).trans hcontracts

end

end Nexotec.Confirmation
