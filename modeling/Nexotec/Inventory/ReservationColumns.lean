/-
The three columns of a reservation, kept in step by every writer of stock items.

Here are the writers of `Nexotec.Inventory.StockSessions`; the two consumers of Sales'
events join them in `Nexotec.Inventory.ReservationRuns`.
-/
import Nexotec.Inventory.StockEffects

namespace Nexotec.Stock

open Interleaving RowWrites

variable {ι : Type} {spelling : Spelling} {i j : ι} {sh sh' : Shared ι} {lo lo' : Local}

/-! ### The representation -/

/-- The status and the two columns agree. -/
structure Represented (item : StockItem) : Prop where
  reserved_iff : item.reservationState = .reserved ↔
    item.reservedByContractId.isSome ∧ item.activeReservationId.isSome
  together : item.reservedByContractId.isSome ↔ item.activeReservationId.isSome

variable {item : StockItem}

theorem Represented.of_reservation {item' : StockItem} (h : Represented item)
    (hsame : item'.reservation = item.reservation) : Represented item' := by
  have hstate : item'.reservationState = item.reservationState := congrArg (·.1) hsame
  have hcontract := reservation_contract hsame
  have hactive := reservation_active hsame
  exact ⟨by rw [hstate, hcontract, hactive]; exact h.reserved_iff,
    by rw [hcontract, hactive]; exact h.together⟩

theorem represented_free (h : item.reservation = (.none, none, none)) : Represented item := by
  have hstate : item.reservationState = .none := congrArg (·.1) h
  have hcontract : item.reservedByContractId = none := congrArg (·.2.1) h
  have hactive : item.activeReservationId = none := congrArg (·.2.2) h
  exact ⟨by simp [hstate, hcontract], by simp [hcontract, hactive]⟩

theorem represented_reserveAndFlush (now : Time) (c r : Uuid) (item : StockItem) :
    Represented (reserveAndFlush now c r item) :=
  ⟨by simp [reserveAndFlush], by simp [reserveAndFlush]⟩

theorem represented_releaseAndFlush (now : Time) (item : StockItem) :
    Represented (releaseAndFlush now item) :=
  represented_free rfl

def AllRepresented (items : Table Uuid StockItem) : Prop :=
  ∀ x item, items.lookup x = some item → Represented item

variable {items : Table Uuid StockItem} {f : StockItem → StockItem}

theorem AllRepresented.modify (h : AllRepresented items) (x : Uuid)
    (hf : ∀ item, Represented item → Represented (f item)) : AllRepresented (items.modify x f) := by
  intro y item' hy
  rw [Table.lookup_modify] at hy
  split at hy
  · obtain ⟨item, hitem, rfl⟩ := Option.map_eq_some_iff.mp hy
    exact hf item (h _ item hitem)
  · exact h y item' hy

theorem AllRepresented.insert (h : AllRepresented items) (x : Uuid) {row : StockItem}
    (hrow : Represented row) : AllRepresented (items.insert x row) :=
  Table.forall_insert hrow h

/-! ### Flushes that leave the reservation alone -/

/-- The columns that a reservation, a release and the departure of a car write. -/
def Like (item item' : StockItem) : Prop :=
  item'.reservation = item.reservation ∧ item'.leftStockAt = item.leftStockAt

theorem Like.refl (item : StockItem) : Like item item := ⟨rfl, rfl⟩

theorem Like.trans {a b c : StockItem} (h : Like a b) (h' : Like b c) : Like a c :=
  ⟨h'.1.trans h.1, h'.2.trans h.2⟩

theorem writeColumn_same {α : Type*} [DecidableEq α] {base new : α} (stored : α) (h : new = base) :
    writeColumn base new stored = stored := if_pos h

variable {base new : StockItem}

theorem writeItem_reservation (stored : StockItem) (h : new.reservation = base.reservation) :
    (writeItem base new stored).reservation = stored.reservation := by
  have hstate : new.reservationState = base.reservationState := congrArg (·.1) h
  simp only [StockItem.reservation, writeItem, writeColumn_same _ hstate,
    writeColumn_same _ (reservation_contract h), writeColumn_same _ (reservation_active h)]

theorem writeEdit_like {now : Time} {call : Edit} {purchased : Bool}
    (h : call.request.perform now call.actorId call.stockItemId base = .ok (new, purchased))
    (read : List StockItemOption) (stored : StockItem) :
    Like stored (writeEdit call base new read stored) := by
  have hframed := perform_framed h
  have hreservation := writeItem_reservation stored hframed.reservation
  have hleft : (writeItem base new stored).leftStockAt = stored.leftStockAt :=
    writeColumn_same _ hframed.leftStockAt
  unfold writeEdit
  split
  · exact ⟨hreservation, hleft⟩
  · exact ⟨hreservation, hleft⟩

theorem assignVin_reservation (now : Time) (vehicleId : Uuid) (vin : String) (item : StockItem) :
    (assignVin now vehicleId vin item).1.reservation = item.reservation := by
  rw [assignVin, markPurchasedIfReady_fst]
  rfl

theorem assignVin_leftStockAt (now : Time) (vehicleId : Uuid) (vin : String) (item : StockItem) :
    (assignVin now vehicleId vin item).1.leftStockAt = item.leftStockAt := by
  rw [assignVin, markPurchasedIfReady_fst]

theorem writeAssigned_like (now : Time) (vehicleId : Uuid) (vin : String) (base stored : StockItem) :
    Like stored (writeItem base (assignVin now vehicleId vin base).1 stored) :=
  ⟨writeItem_reservation stored (assignVin_reservation now vehicleId vin base),
    writeColumn_same _ (assignVin_leftStockAt now vehicleId vin base)⟩

theorem writeSold_reservation (now : Time) (base stored : StockItem) :
    (writeItem base (sellItem now base) stored).reservation = stored.reservation :=
  writeItem_reservation stored rfl

/-! ### Row locks -/

def Knows (i : ι) (sh : Shared ι) : Local → Prop
  | .reserving call item | .answering call item _ => sh.itemLock call.stockItemId = some i ∧
      ∃ stored, sh.items.lookup call.stockItemId = some stored ∧ Like item stored
  | .releasing _ x _ => sh.itemLock x = some i
  | _ => True

/-- A step of session `i` takes no row lock from another session, and leaves the rows
it has locked alike. -/
structure Leaves (i : ι) (sh sh' : Shared ι) : Prop where
  locks : ∀ x j, j ≠ i → sh.itemLock x = some j → sh'.itemLock x = some j
  rows : ∀ x j, j ≠ i → sh.itemLock x = some j → ∀ item, sh.items.lookup x = some item →
    ∃ item', sh'.items.lookup x = some item' ∧ Like item item'

theorem Knows.leaves (hj : j ≠ i) (h : Knows j sh lo) (hleaves : Leaves i sh sh') :
    Knows j sh' lo := by
  have hrow : ∀ x item, sh.itemLock x = some j ∧
      (∃ stored, sh.items.lookup x = some stored ∧ Like item stored) →
      sh'.itemLock x = some j ∧ ∃ stored, sh'.items.lookup x = some stored ∧ Like item stored := by
    rintro x item ⟨hlock, stored, hstored, hlike⟩
    obtain ⟨stored', hstored', hlike'⟩ := hleaves.rows x j hj hlock stored hstored
    exact ⟨hleaves.locks x j hj hlock, stored', hstored', hlike.trans hlike'⟩
  cases lo with
  | reserving call item => exact hrow _ item h
  | answering call item cached => exact hrow _ item h
  | releasing call x back => exact hleaves.locks x j hj h
  | _ => trivial

theorem modified_rows {x : Uuid} (hfree : ∀ j, j ≠ i → sh.itemLock x ≠ some j)
    (hitems : sh'.items = sh.items.modify x f) :
    ∀ y j, j ≠ i → sh.itemLock y = some j → ∀ item, sh.items.lookup y = some item →
      ∃ item', sh'.items.lookup y = some item' ∧ Like item item' := by
  intro y j hj hlock item hitem
  have hne : y ≠ x := by
    intro heq
    rw [heq] at hlock
    exact hfree j hj hlock
  exact ⟨item, by rw [hitems, Table.lookup_modify_ne hne]; exact hitem, Like.refl item⟩

section

variable [DecidableEq ι]

theorem Effect.items_cases (h : Effect i sh sh' lo) : sh'.items = sh.items ∨
    (∃ x f, sh'.items = sh.items.modify x f ∧ sh.itemLock x = none ∧
      (∀ item, (f item).reservation = item.reservation)) ∨
    (∃ x row, sh'.items = sh.items.insert x row ∧ sh.items.lookup x = none ∧
      row.reservation = (.none, none, none)) ∨
    (∃ call item cached now newId, lo = .answering call item cached ∧ item.leftStockAt = none ∧
      sh'.items = sh.items.modify call.stockItemId (reserveAndFlush now call.contractId newId)) ∨
    (∃ call x back now, lo = .releasing call x back ∧
      sh'.items = sh.items.modify x (releaseAndFlush now)) := by
  cases h with
  | quiet stock published history answers => exact .inl (congrArg StockDb.items stock)
  | edited now call base new read purchased hlo hperform hfree result =>
    refine .inr (.inl ⟨call.stockItemId, writeEdit call base new read, ?_, hfree,
      fun item => (writeEdit_like hperform read item).1⟩)
    rw [result]
    exact congrArg StockDb.items (publishPurchased_same _ _ _).1
  | assigned now x vin base vehicleId hlo hfree index items history published answers =>
    exact .inr (.inl ⟨x, _, items, hfree, fun item => (writeAssigned_like now vehicleId vin base item).1⟩)
  | created now x stockNumber data vehicle hlo index fresh result =>
    exact .inr (.inr (.inl ⟨x, _, by rw [result]; rfl, fresh, rfl⟩))
  | sold now x base hlo hfree result =>
    exact .inr (.inl ⟨x, _, by rw [result]; rfl, hfree, fun item => writeSold_reservation now base item⟩)
  | reserved now newId call item cached records hlo stays unreserved result =>
    exact .inr (.inr (.inr (.inl ⟨call, item, cached, now, newId, hlo, stays, by rw [result]; rfl⟩)))
  | released now call x back records hlo result =>
    exact .inr (.inr (.inr (.inr ⟨call, x, back, now, hlo, by rw [result]; rfl⟩)))

/-! ### What a step leaves -/

/-- Every effect keeps the representation of a reservation. -/
theorem Effect.represented (h : Effect i sh sh' lo) (hall : AllRepresented sh.items) :
    AllRepresented sh'.items := by
  rcases h.items_cases with heq | ⟨x, f, heq, -, hf⟩ | ⟨x, row, heq, -, hrow⟩ |
    ⟨call, item, cached, now, newId, -, -, heq⟩ | ⟨call, x, back, now, -, heq⟩
  · rw [heq]; exact hall
  · rw [heq]
    exact hall.modify x fun item hitem => hitem.of_reservation (hf item)
  · rw [heq]
    exact hall.insert x (represented_free hrow)
  · rw [heq]
    exact hall.modify _ fun item _ => represented_reserveAndFlush now call.contractId newId item
  · rw [heq]
    exact hall.modify _ fun item _ => represented_releaseAndFlush now item

/-- From `items` to `items'` the item is reserved. -/
def Reserves (items items' : Table Uuid StockItem) (x : Uuid) : Prop :=
  ∃ item', items'.lookup x = some item' ∧ item'.reservationState = .reserved ∧
    ∀ item, items.lookup x = some item → item.reservation ≠ item'.reservation

/-- The item, where it is in the table, has not left stock. -/
def InStock (items : Table Uuid StockItem) (x : Uuid) : Prop :=
  ∀ item, items.lookup x = some item → item.leftStockAt = none

def KeptOrFree (items : Table Uuid StockItem) (x : Uuid) (item' : StockItem) : Prop :=
  (∃ item, items.lookup x = some item ∧ item'.reservation = item.reservation) ∨
    item'.reservation = (.none, none, none)

variable {items : Table Uuid StockItem} {x y : Uuid}

theorem not_reserves {items' : Table Uuid StockItem}
    (h : ∀ item', items'.lookup x = some item' → KeptOrFree items x item') :
    ¬ Reserves items items' x := by
  rintro ⟨item', hitem', hreserved, hdiffers⟩
  rcases h item' hitem' with ⟨item, hitem, hsame⟩ | hfree
  · exact hdiffers item hitem hsame.symm
  · have hstate : item'.reservationState = .none := congrArg (·.1) hfree
    rw [hstate] at hreserved
    cases hreserved

theorem keptOrFree_modify {item' : StockItem} (h : (items.modify x f).lookup y = some item')
    (hf : ∀ item, (f item).reservation = item.reservation ∨
      (f item).reservation = (.none, none, none)) : KeptOrFree items y item' := by
  rw [Table.lookup_modify] at h
  split at h
  · next hy =>
    subst hy
    obtain ⟨item, hitem, rfl⟩ := Option.map_eq_some_iff.mp h
    rcases hf item with hsame | hfree
    · exact .inl ⟨item, hitem, hsame⟩
    · exact .inr hfree
  · exact .inl ⟨item', h, rfl⟩

/-- An effect reserves no item that has left stock. -/
theorem Effect.reserves (h : Effect i sh sh' lo) (hknows : Knows i sh lo)
    (hx : Reserves sh.items sh'.items x) : InStock sh.items x ∧ InStock sh'.items x := by
  rcases h.items_cases with heq | ⟨y, f, heq, -, hf⟩ | ⟨y, row, heq, -, hrow⟩ |
    ⟨call, item, cached, now, newId, rfl, hstays, heq⟩ | ⟨call, y, back, now, -, heq⟩
  · rw [heq] at hx
    exact absurd hx (not_reserves fun item' h' => .inl ⟨item', h', rfl⟩)
  · rw [heq] at hx
    exact absurd hx (not_reserves fun item' h' => keptOrFree_modify h' fun item => .inl (hf item))
  · rw [heq] at hx
    refine absurd hx (not_reserves fun item' h' => ?_)
    rcases Table.lookup_insert_cases h' with ⟨rfl, rfl⟩ | ⟨-, hold⟩
    · exact .inr hrow
    · exact .inl ⟨item', hold, rfl⟩
  · by_cases hy : x = call.stockItemId
    · -- the locked row is as the session read it: still in stock
      obtain ⟨-, stored, hstored, hlike⟩ := hknows
      have hleft : stored.leftStockAt = none := hlike.2.trans hstays
      subst hy
      constructor
      · intro row hrow
        rw [hstored] at hrow
        cases hrow
        exact hleft
      · intro row hrow
        rw [heq, Table.lookup_modify, if_pos rfl, hstored, Option.map_some] at hrow
        cases hrow
        exact hleft
    · refine absurd hx (not_reserves fun item' h' => .inl ⟨item', ?_, rfl⟩)
      rw [heq, Table.lookup_modify_ne hy] at h'
      exact h'
  · rw [heq] at hx
    exact absurd hx (not_reserves fun item' h' => keptOrFree_modify h' fun item => .inr rfl)

theorem Effect.rows (h : Effect i sh sh' lo) (hknows : Knows i sh lo) :
    ∀ y j, j ≠ i → sh.itemLock y = some j → ∀ item, sh.items.lookup y = some item →
      ∃ item', sh'.items.lookup y = some item' ∧ Like item item' := by
  have hunlocked : ∀ x, sh.itemLock x = none → ∀ j, j ≠ i → sh.itemLock x ≠ some j :=
    fun x hx j _ hj => by rw [hx] at hj; cases hj
  have hmine : ∀ x, sh.itemLock x = some i → ∀ j, j ≠ i → sh.itemLock x ≠ some j :=
    fun x hx j hj hj' => hj (Option.mem_unique hj' hx)
  rcases h.items_cases with heq | ⟨x, f, heq, hfree, -⟩ | ⟨x, row, heq, hfresh, -⟩ |
    ⟨call, item, cached, now, newId, rfl, -, heq⟩ | ⟨call, x, back, now, rfl, heq⟩
  · intro y j _ _ item hitem
    exact ⟨item, by rw [heq]; exact hitem, Like.refl item⟩
  · exact modified_rows (hunlocked x hfree) heq
  · intro y j _ _ item hitem
    have hne : y ≠ x := by
      intro hyx
      rw [hyx, hfresh] at hitem
      cases hitem
    refine ⟨item, ?_, Like.refl item⟩
    rw [heq, Table.lookup_insert_iff, if_neg hne]
    exact hitem
  · exact modified_rows (hmine _ hknows.1) heq
  · exact modified_rows (hmine _ hknows) heq

variable {choice : Choice}

/-- A session changes no reservation on a row that another one has locked. -/
theorem step_leaves (h : step spelling i choice sh lo = some (sh', lo')) (hknows : Knows i sh lo) :
    Leaves i sh sh' :=
  ⟨(step_outcome h).locks, (step_effect h).rows hknows⟩

theorem step_knows (hknows : Knows i sh lo) (h : step spelling i choice sh lo = some (sh', lo')) :
    Knows i sh' lo' := by
  cases step_turn h with
  | rest lo' rests =>
    cases lo' with
    | reserving call item => cases rests
    | answering call item cached => cases rests
    | releasing call x back => cases rests
    | _ => trivial
  | reserving call item row locked =>
    subst locked
    exact ⟨by simp [lockItem], item, row, .refl item⟩
  | answering call item cached hlo same =>
    subst hlo same
    exact hknows
  | releasing call x item back row locked =>
    subst locked
    simp [Knows, lockItem]
  | _ => trivial

end

end Nexotec.Stock
