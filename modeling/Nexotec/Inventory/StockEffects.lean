/-
What one step of a session does to the stock items.

`Effect` says it once for all the invariants: nothing, or one of the six commits, each
with what the session knew.
-/
import Nexotec.Inventory.StockSessions

namespace Nexotec.Stock

open Interleaving

variable {ι : Type} [DecidableEq ι] {spelling : Spelling} {i j : ι} {sh sh' : Shared ι}
  {lo lo' : Local}

inductive Effect (i : ι) (sh sh' : Shared ι) (lo : Local) : Prop
  /-- Nothing is committed; a request may have been turned down. -/
  | quiet (stock : sh'.stock = sh.stock) (published : sh'.published = sh.published)
      (history : sh'.history = sh.history)
      (answers : sh'.answers = sh.answers ∨ ∃ a : Answer, sh'.answers = a :: sh.answers ∧
        (a.verdict = .versionConflict ∨ ∃ call base read, lo = .editing call base read ∧
          a = ⟨call.stockItemId, call.ifMatch, .refused⟩))
  | edited (now : Time) (call : Edit) (base new : StockItem) (read : List StockItemOption)
      (purchased : Bool) (local_eq : lo = .editing call base read)
      (performed : call.request.perform now call.actorId call.stockItemId base =
        .ok (new, purchased))
      (free : sh.itemLock call.stockItemId = none)
      (result : sh' = (((sh.withItems (sh.items.modify call.stockItemId
        (writeEdit call base new read))).record call.stockItemId (.edit now call)).answer call
          .committed).publishPurchased call.stockItemId purchased)
  | assigned (now : Time) (x : Uuid) (vin : String) (base : StockItem) (vehicleId : Uuid)
      (local_eq : lo = .assigning x vin base vehicleId) (free : sh.itemLock x = none)
      (index : ∀ stored, sh.items.lookup x = some stored →
        vinTaken sh.items x (writeItem base (assignVin now vehicleId vin base).1 stored) = false)
      (items : sh'.items =
        sh.items.modify x (writeItem base (assignVin now vehicleId vin base).1))
      (history : sh'.history = (x, .assignVin now vehicleId vin) :: sh.history)
      (published : sh'.published =
        (if (assignVin now vehicleId vin base).2 then [.purchased x] else []) ++
          .vinAssigned x vin vehicleId :: sh.published)
      (answers : sh'.answers = sh.answers) (locks : sh'.itemLock = sh.itemLock)
  | created (now : Time) (x : Uuid) (stockNumber : String) (data : StockItemCreate)
      (vehicle : Option (Uuid × String)) (local_eq : lo = .inserting data vehicle)
      (index : vinTaken sh.items x (builtItem now stockNumber data vehicle) = false)
      (fresh : sh.items.lookup x = none)
      (result : sh' = sh.withItems (sh.items.insert x (builtItem now stockNumber data vehicle)))
  | sold (now : Time) (x : Uuid) (base : StockItem) (local_eq : lo = .selling x base)
      (free : sh.itemLock x = none)
      (result : sh' = (sh.withItems (sh.items.modify x (writeItem base (sellItem now base)))).record x
        (.sell now))
  | reserved (now : Time) (newId : Uuid) (call : ReserveCall) (item : StockItem)
      (cached : Option IdempotencyRecord)
      (records : Table (IdempotencyKey × Uuid) IdempotencyRecord)
      (local_eq : lo = .answering call item cached) (stays : item.leftStockAt = none)
      (unreserved : item.reservationState ≠ .reserved)
      (result : sh' = unlock i ({ sh with stock := { sh.stock with
          items := sh.items.modify call.stockItemId (reserveAndFlush now call.contractId newId)
          records := records } }.record call.stockItemId (.reserve now call.contractId newId)))
  | released (now : Time) (call : ReleaseCall) (x : Uuid) (back : Option (List Reservation))
      (records : Table (IdempotencyKey × Uuid) IdempotencyRecord)
      (local_eq : lo = .releasing call x back)
      (result : sh' = unlock i ({ sh with stock := { sh.stock with
          items := sh.items.modify x (releaseAndFlush now)
          records := records } }.record x (.release now)))

theorem Effect.same (h : sh'.stock = sh.stock) (hp : sh'.published = sh.published)
    (hh : sh'.history = sh.history) (ha : sh'.answers = sh.answers) : Effect i sh sh' lo :=
  .quiet h hp hh (.inl ha)

variable {x : Uuid}

omit [DecidableEq ι] in
theorem whenUnlocked_eq_some {result : Shared ι × Local}
    (h : whenUnlocked x sh result = some (sh', lo')) :
    sh.itemLock x = none ∧ result = (sh', lo') := by
  unfold whenUnlocked at h
  split at h
  · next hfree => exact ⟨hfree, Option.some.inj h⟩
  · cases h

omit [DecidableEq ι] in
theorem publishPurchased_same (x : Uuid) (purchased : Bool) (sh : Shared ι) :
    (sh.publishPurchased x purchased).stock = sh.stock ∧
      (sh.publishPurchased x purchased).history = sh.history ∧
      (sh.publishPurchased x purchased).answers = sh.answers ∧
      (sh.publishPurchased x purchased).itemLock = sh.itemLock := by
  unfold Shared.publishPurchased
  split <;> exact ⟨rfl, rfl, rfl, rfl⟩

/-! ### What a session goes on with -/

def Local.atRest : Local → Bool
  | .idle | .sweeping _ | .creating .. | .locating .. | .inserting .. => true
  | _ => false

/-- Where a session can be after its step, with what it has read in it. -/
inductive Turn (i : ι) (sh : Shared ι) (lo : Local) (sh' : Shared ι) : Local → Prop
  | rest (lo' : Local) (rests : lo'.atRest = true) : Turn i sh lo sh' lo'
  | reserving (call : ReserveCall) (item : StockItem)
      (row : sh.items.lookup call.stockItemId = some item)
      (locked : sh' = lockItem i call.stockItemId sh) : Turn i sh lo sh' (.reserving call item)
  | answering (call : ReserveCall) (item : StockItem) (cached : Option IdempotencyRecord)
      (local_eq : lo = .reserving call item) (same : sh' = sh) :
      Turn i sh lo sh' (.answering call item cached)
  | releasing (call : ReleaseCall) (x : Uuid) (item : StockItem) (back : Option (List Reservation))
      (row : sh.items.lookup x = some item) (locked : sh' = lockItem i x sh) :
      Turn i sh lo sh' (.releasing call x back)
  | editing (call : Edit) (item : StockItem) (row : sh.items.lookup call.stockItemId = some item)
      (matched : item.version = call.ifMatch) (same : sh' = sh) :
      Turn i sh lo sh' (.editing call item item.options)
  /-- The option rows are read again. -/
  | rereading (call : Edit) (base : StockItem) (read : List StockItemOption)
      (local_eq : lo = .editing call base read) (same : sh' = sh) :
      Turn i sh lo sh' (.editing call base
        (((sh.items.lookup call.stockItemId).map (·.options)).getD []))
  | promoting (x : Uuid) (vin : String) (item : StockItem) (row : sh.items.lookup x = some item)
      (pipeline : item.lifecycleStatus = .pipeline) (same : sh' = sh) :
      Turn i sh lo sh' (.promoting x vin item)
  | resolving (x : Uuid) (vin : String) (base : StockItem) (local_eq : lo = .promoting x vin base)
      (same : sh' = sh) : Turn i sh lo sh' (.resolving x vin base)
  | assigning (x : Uuid) (vin : String) (base : StockItem) (vehicleId : Uuid)
      (local_eq : lo = .resolving x vin base) (stock : sh'.stock = sh.stock) :
      Turn i sh lo sh' (.assigning x vin base vehicleId)
  | selling (x : Uuid) (item : StockItem) (row : sh.items.lookup x = some item) (same : sh' = sh) :
      Turn i sh lo sh' (.selling x item)

omit [DecidableEq ι] in
theorem resume_turn (back : Option (List Reservation)) : Turn i sh lo sh' (resume back) := by
  cases back with
  | none => exact .rest _ rfl
  | some rest => exact .rest _ rfl

omit [DecidableEq ι] in
theorem releaseToLock_row {call : ReleaseCall} {item : StockItem}
    (h : releaseToLock call sh.stock = .ok (some (x, item))) :
    sh.items.lookup x = some item := by
  unfold releaseToLock at h
  split at h
  · exact (reservationToLock_eq_ok h).1
  · split at h
    · next found hfound => cases h; exact (findReservation_eq_some hfound).1
    · cases h

/-! ### Steps -/

/-- What a step does to the items, to the session, and to the locks of the others. -/
structure Outcome (i : ι) (sh : Shared ι) (lo : Local) (sh' : Shared ι) (lo' : Local) : Prop where
  effect : Effect i sh sh' lo
  turn : Turn i sh lo sh' lo'
  locks : ∀ x j, j ≠ i → sh.itemLock x = some j → sh'.itemLock x = some j

theorem Outcome.same (hturn : Turn i sh lo sh lo') : Outcome i sh lo sh lo' :=
  ⟨.same rfl rfl rfl rfl, hturn, fun _ _ _ h => h⟩

theorem unlock_keeps (x : Uuid) (j : ι) (hj : j ≠ i) (h : sh.itemLock x = some j) :
    (unlock i sh).itemLock x = some j := by
  have hne : ¬ some j = some i := fun heq => hj (Option.some.inj heq)
  simp only [unlock, h, if_neg hne]

theorem Outcome.unlock (hturn : Turn i sh lo (unlock i sh) lo') : Outcome i sh lo (unlock i sh) lo' :=
  ⟨.same rfl rfl rfl rfl, hturn, unlock_keeps⟩

theorem Outcome.lock {y : Uuid} (hfree : (sh.itemLock y).isSome = false)
    (hturn : Turn i sh lo (lockItem i y sh) lo') : Outcome i sh lo (lockItem i y sh) lo' := by
  refine ⟨.same rfl rfl rfl rfl, hturn, fun x j _ h => ?_⟩
  have hne : x ≠ y := by
    rintro rfl
    rw [h] at hfree
    cases hfree
  simp only [lockItem, Function.update_of_ne hne, h]

theorem openReservation_outcome {call : ReserveCall}
    (h : openReservation i call sh = some (sh', lo')) : Outcome i sh lo sh' lo' := by
  unfold openReservation at h
  split at h
  · cases h
  · next hfree =>
    split at h
    · cases h; exact .same (.rest _ rfl)
    · next item hitem =>
      cases h
      exact .lock (by simpa using hfree)
        (.reserving call item (stockItemToLock_eq_ok hitem).1 rfl)

variable {call : ReleaseCall} {back : Option (List Reservation)}

theorem openRelease_outcome (h : openRelease i call back sh = some (sh', lo')) :
    Outcome i sh lo sh' lo' := by
  unfold openRelease at h
  split at h
  · cases h; exact .same (resume_turn back)
  · cases h; exact .same (resume_turn back)
  · next x item hfound =>
    split at h
    · cases h
    · next hfree =>
      cases h
      exact .lock (by simpa using hfree)
        (.releasing call x item back (releaseToLock_row hfound) rfl)

variable {now : Time}

theorem sweepNext_outcome {status : Option ContractStatus} {reservation : Reservation}
    {rest : List Reservation} (h : sweepNext i now status reservation rest sh = some (sh', lo')) :
    Outcome i sh lo sh' lo' := by
  unfold sweepNext at h
  split at h
  · cases h; exact .same (.rest _ rfl)
  · split at h
    · cases h; exact .same (.rest _ rfl)
    · exact openRelease_outcome h

variable {newId : Uuid} {item : StockItem}

theorem readKey_outcome {call : ReserveCall} (hlo : lo = .reserving call item)
    (h : readKey i call item sh = (sh', lo')) : Outcome i sh lo sh' lo' := by
  unfold readKey at h
  split at h
  · cases h; exact .same (.answering call item none hlo rfl)
  · split at h
    · cases h; exact .unlock (.rest _ rfl)
    · cases h; exact .same (.answering call item _ hlo rfl)

theorem newReservation_eq_ok {call : ReserveCall} {cached : Option IdempotencyRecord}
    {stock : StockDb} {records : Table (IdempotencyKey × Uuid) IdempotencyRecord}
    (h : newReservation newId call item cached stock = .ok records) :
    item.leftStockAt = none ∧ item.reservationState ≠ .reserved := by
  obtain ⟨_, hleft, h⟩ := Result.of_bind h
  unfold refuseIfLeftStock at hleft
  split at hleft
  · cases hleft
  · next hstays =>
    split at h
    · cases h
    · next hfree => exact ⟨by simpa using hstays, hfree⟩

theorem commitReservation_outcome {call : ReserveCall} {cached : Option IdempotencyRecord}
    (hlo : lo = .answering call item cached)
    (h : commitReservation i now newId call item cached sh = (sh', lo')) :
    Outcome i sh lo sh' lo' := by
  unfold commitReservation at h
  split at h
  · cases h; exact .unlock (.rest _ rfl)
  · split at h
    · cases h; exact .unlock (.rest _ rfl)
    · next records hnew =>
      cases h
      obtain ⟨hstays, hfree⟩ := newReservation_eq_ok hnew
      exact ⟨.reserved now newId call item cached records hlo hstays hfree rfl, .rest _ rfl,
        fun x j hj hx => unlock_keeps x j hj hx⟩

theorem releasedStock_eq_ok {stock stock' : StockDb}
    (h : releasedStock now call x stock = .ok stock') :
    ∃ records, stock' = { stock with
      items := stock.items.modify x (releaseAndFlush now)
      records := records } := by
  unfold releasedStock at h
  split at h
  · obtain ⟨records, -, h⟩ := Result.of_bind h
    cases h
    exact ⟨records, rfl⟩
  · cases h
    exact ⟨stock.records, rfl⟩

theorem commitRelease_outcome (hlo : lo = .releasing call x back)
    (h : commitRelease i now call x back sh = (sh', lo')) : Outcome i sh lo sh' lo' := by
  unfold commitRelease at h
  split at h
  · cases h; exact .unlock (resume_turn back)
  · next stock hstock =>
    cases h
    obtain ⟨records, rfl⟩ := releasedStock_eq_ok hstock
    exact ⟨.released now call x back records hlo rfl, resume_turn back,
      fun x j hj hx => unlock_keeps x j hj hx⟩

theorem openEdit_outcome {call : Edit} (h : openEdit call sh = (sh', lo')) :
    Outcome i sh lo sh' lo' := by
  unfold openEdit at h
  split at h
  · cases h; exact .same (.rest _ rfl)
  · next item hitem =>
    split at h
    · cases h
      exact ⟨.quiet rfl rfl rfl (.inr ⟨_, rfl, .inl rfl⟩), .rest _ rfl, fun _ _ _ hx => hx⟩
    · next hversion =>
      cases h
      unfold checkVersion at hversion
      split at hversion
      · next hmatch => exact .same (.editing call item (stockItemToLock_eq_ok hitem).1 hmatch rfl)
      · cases hversion

theorem commitEdit_outcome {call : Edit} {base : StockItem} {read : List StockItemOption}
    (hlo : lo = .editing call base read) (hfree : sh.itemLock call.stockItemId = none)
    (h : commitEdit now call base read sh = (sh', lo')) : Outcome i sh lo sh' lo' := by
  unfold commitEdit at h
  split at h
  · cases h
    exact ⟨.quiet rfl rfl rfl (.inr ⟨_, rfl, .inr ⟨call, base, read, hlo, rfl⟩⟩), .rest _ rfl,
      fun _ _ _ hx => hx⟩
  · next new purchased hperform =>
    cases h
    exact ⟨.edited now call base new read purchased hlo hperform hfree rfl, .rest _ rfl,
      fun _ _ _ hx => (congrFun (publishPurchased_same _ _ _).2.2.2 _).trans hx⟩

theorem commitPromotion_outcome {vin : String} {base : StockItem} {vehicleId : Uuid}
    (hlo : lo = .assigning x vin base vehicleId) (hfree : sh.itemLock x = none)
    (h : commitPromotion now x vin base vehicleId sh = (sh', lo')) : Outcome i sh lo sh' lo' := by
  unfold commitPromotion at h
  dsimp only at h
  split at h
  · cases h; exact .same (.rest _ rfl)
  · next hindex =>
    cases h
    have htaken : ∀ stored, sh.items.lookup x = some stored →
        vinTaken sh.items x (writeItem base (assignVin now vehicleId vin base).1 stored) = false := by
      intro stored hstored
      rw [hstored] at hindex
      simpa using hindex
    refine ⟨.assigned now x vin base vehicleId hlo hfree htaken ?_ ?_ ?_ ?_ ?_, .rest _ rfl,
      fun _ _ _ hx => (congrFun (publishPurchased_same _ _ _).2.2.2 _).trans hx⟩
    all_goals
      unfold Shared.publishPurchased
      split
      all_goals rfl

theorem commitCreation_outcome {stockNumber : String} {data : StockItemCreate}
    {vehicle : Option (Uuid × String)} (hlo : lo = .inserting data vehicle)
    (h : commitCreation now newId stockNumber data vehicle sh = (sh', lo')) :
    Outcome i sh lo sh' lo' := by
  unfold commitCreation at h
  dsimp only at h
  split at h
  · cases h; exact .same (.rest _ rfl)
  · next hindex =>
    split at h
    · cases h; exact .same (.rest _ rfl)
    · next items hitems =>
      cases h
      obtain ⟨hfresh, rfl⟩ := insertRow_eq_ok hitems
      exact ⟨.created now newId stockNumber data vehicle hlo (by simpa using hindex) hfresh rfl,
        .rest _ rfl, fun _ _ _ hx => hx⟩

omit [DecidableEq ι] in
theorem resolveVehicle_stock (newId : Uuid) (vin : String) (sh : Shared ι) :
    (resolveVehicle newId vin sh).1.stock = sh.stock ∧
      (resolveVehicle newId vin sh).1.published = sh.published ∧
      (resolveVehicle newId vin sh).1.history = sh.history ∧
      (resolveVehicle newId vin sh).1.answers = sh.answers ∧
      (resolveVehicle newId vin sh).1.itemLock = sh.itemLock := by
  unfold resolveVehicle
  split <;> exact ⟨rfl, rfl, rfl, rfl, rfl⟩

theorem resolveVehicle_outcome {vin : String} (h : (resolveVehicle newId vin sh).1 = sh')
    (hturn : Turn i sh lo sh' lo') : Outcome i sh lo sh' lo' := by
  subst h
  obtain ⟨hstock, hpublished, hhistory, hanswers, hlocks⟩ := resolveVehicle_stock newId vin sh
  exact ⟨.same hstock hpublished hhistory hanswers, hturn, fun _ _ _ hx => hlocks ▸ hx⟩

omit [DecidableEq ι] in
theorem lookForVin_turn {tenantId : Uuid} {vin : String} (h : Turn i sh lo sh lo') :
    Turn i sh lo sh (lookForVin tenantId vin lo' sh) := by
  unfold lookForVin
  split
  · exact .rest _ rfl
  · exact h

omit [DecidableEq ι] in
theorem openPromotion_turn (tenantId x : Uuid) (value : String) :
    Turn i sh lo sh (openPromotion spelling tenantId x value sh) := by
  unfold openPromotion
  split
  · next vin item _ hitem =>
    split
    · exact .rest _ rfl
    · split
      · exact .rest _ rfl
      · next hstatus =>
        exact .promoting x vin item (stockItemToLock_eq_ok hitem).1 (by simpa using hstatus) rfl
  · exact .rest _ rfl

omit [DecidableEq ι] in
theorem openSale_turn (tenantId x : Uuid) : Turn i sh lo sh (openSale tenantId x sh) := by
  unfold openSale
  split
  · exact .rest _ rfl
  · next item hitem =>
    split
    · exact .rest _ rfl
    · split
      · exact .rest _ rfl
      · exact .selling x item (stockItemToLock_eq_ok hitem).1 rfl

variable {choice : Choice}

/-- Every step is one of these, and leaves the others their locks. -/
theorem step_outcome (h : step spelling i choice sh lo = some (sh', lo')) :
    Outcome i sh lo sh' lo' := by
  unfold step at h
  split at h
  · exact openReservation_outcome h
  · exact openRelease_outcome h
  · cases h; exact .same (.rest _ rfl)
  · exact openEdit_outcome (Option.some.inj h)
  · cases h; exact .same (openPromotion_turn _ _ _)
  · cases h
    refine .same ?_
    unfold openCreation
    split
    · exact .rest _ rfl
    · split <;> exact .rest _ rfl
  · cases h; exact .same (openSale_turn _ _)
  · exact readKey_outcome rfl (Option.some.inj h)
  · exact commitReservation_outcome rfl (Option.some.inj h)
  · exact commitRelease_outcome rfl (Option.some.inj h)
  · exact sweepNext_outcome h
  · cases h; exact .same (.rest _ rfl)
  · cases h; exact .same (.rereading _ _ _ rfl rfl)
  · obtain ⟨hfree, heq⟩ := whenUnlocked_eq_some h
    exact commitEdit_outcome rfl hfree heq
  · cases h; exact .same (lookForVin_turn (.resolving _ _ _ rfl rfl))
  · cases h
    exact resolveVehicle_outcome rfl (.assigning _ _ _ _ rfl (resolveVehicle_stock _ _ sh).1)
  · obtain ⟨hfree, heq⟩ := whenUnlocked_eq_some h
    exact commitPromotion_outcome rfl hfree heq
  · cases h; exact .same (lookForVin_turn (.rest _ rfl))
  · cases h; exact resolveVehicle_outcome rfl (.rest _ rfl)
  · exact commitCreation_outcome rfl (Option.some.inj h)
  · obtain ⟨hfree, heq⟩ := whenUnlocked_eq_some h
    cases heq
    exact ⟨.sold _ _ _ rfl hfree rfl, .rest _ rfl, fun _ _ _ hx => hx⟩
  · cases h; exact .unlock (.rest _ rfl)
  · cases h

theorem step_effect (h : step spelling i choice sh lo = some (sh', lo')) : Effect i sh sh' lo :=
  (step_outcome h).effect

theorem step_turn (h : step spelling i choice sh lo = some (sh', lo')) : Turn i sh lo sh' lo' :=
  (step_outcome h).turn

/-- The item a session has read without a lock and is about to write. -/
def Local.copy : Local → Option (Uuid × StockItem)
  | .editing call base _ => some (call.stockItemId, base)
  | .assigning x _ base _ => some (x, base)
  | .selling x base => some (x, base)
  | _ => none

def Choice.isCommit : Choice → Bool
  | .commit .. => true
  | _ => false

/-- A commit meets the row as its session has read it. -/
def MeetsRead (cfg : Config ι (Shared ι) Local) (a : ι × Choice) : Prop :=
  a.2.isCommit = true → ∀ copy ∈ (cfg.locals a.1).copy, cfg.shared.items.lookup copy.1 = some copy.2

/-- A session that has read the item without a lock writes only in its commit. -/
theorem commit_or_quiet (h : step spelling i choice sh lo = some (sh', lo'))
    (hcopy : lo.copy ≠ none) :
    choice.isCommit = true ∨ sh'.stock = sh.stock ∧ sh'.published = sh.published ∧
      sh'.history = sh.history ∧ sh'.answers = sh.answers := by
  cases choice with
  | commit now newId stockNumber => exact .inl rfl
  | fail =>
    cases lo with
    | editing call base read => cases h; exact .inr ⟨rfl, rfl, rfl, rfl⟩
    | assigning x vin base vehicleId => cases h; exact .inr ⟨rfl, rfl, rfl, rfl⟩
    | selling x base => cases h; exact .inr ⟨rfl, rfl, rfl, rfl⟩
    | _ => exact absurd rfl hcopy
  | readOptions =>
    cases lo with
    | editing call base read => cases h; exact .inr ⟨rfl, rfl, rfl, rfl⟩
    | assigning x vin base vehicleId => cases h
    | selling x base => cases h
    | _ => exact absurd rfl hcopy
  | _ =>
    cases lo with
    | editing call base read => cases h
    | assigning x vin base vehicleId => cases h
    | selling x base => cases h
    | _ => exact absurd rfl hcopy

end Nexotec.Stock
