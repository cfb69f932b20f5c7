/-
`merge_customer` statement by statement, with the locks it takes.

In order: the advisory lock of every (vehicle, role) the duplicate has a row
in, the two customer rows (the duplicate `FOR NO KEY UPDATE`, the survivor
`FOR SHARE`) in id order, their statuses once more, the duplicate's party rows
`FOR UPDATE`, the customers merged into the duplicate before, and the copies
those merges kept.  Every lock is held until the commit or the rollback.

`MergeMoves` lists the steps, read off `mergeStep` once; the systems of the
following modules all run merges by it.
-/
import Nexotec.Customer.MergeParties
import Nexotec.Lib.Locks

namespace Nexotec.Customers

open Locks

/-! ### Locks -/

abbrev Pair := Uuid × VehiclePartyRole

/-- The place of a role among the role names, in alphabetical order. -/
def VehiclePartyRole.rank : VehiclePartyRole → ℕ
  | .driver => 0
  | .keeper => 1
  | .owner => 2

/-- The place of a pair in the order in which a merge locks pairs. -/
def pairRank (pair : Pair) : ℕ := 3 * pair.1 + pair.2.rank

/-- What is locked: the advisory lock of a pair in a group, a customer's row, a
party row. -/
inductive Resource where
  | advisory (pair : Pair) (groupId : Uuid)
  | customer (id : Uuid)
  | party (id : Uuid)
  deriving DecidableEq

/-- The committed tables and the locks.  `merges` records the duplicate and the
survivor of every merge that committed. -/
structure Shared (ι : Type) where
  now : Time := 0
  db : CustomerDb
  grants : List (Grant ι Resource) := []
  merges : List (Uuid × Uuid) := []

section

variable {ι : Type}

def tick (now : Time) (sh : Shared ι) : Shared ι := { sh with now := max sh.now now }

def take (i : ι) (r : Resource) (m : Mode) (sh : Shared ι) : Shared ι :=
  { sh with grants := acquire i r m sh.grants }

def rollback [DecidableEq ι] (i : ι) (sh : Shared ι) : Shared ι := { sh with grants := release i sh.grants }

end

/-! ### What a merge reads and writes -/

/-- A merge that passed the checks of `merge_customer` made without a lock;
`version` is the duplicate's as read there. -/
structure MergeCall where
  groupId : Uuid
  duplicateId : Uuid
  targetId : Uuid
  actorId : Option Uuid := none
  version : ℕ := 1

def MergeCall.first (call : MergeCall) : Uuid := min call.duplicateId call.targetId

def MergeCall.second (call : MergeCall) : Uuid := max call.duplicateId call.targetId

/-- The mode in which a merge locks one of its two customers. -/
def MergeCall.mode (call : MergeCall) (customerId : Uuid) : Mode :=
  if customerId = call.duplicateId then .noKeyUpdate else .share

/-- The pairs the customer has a row in that are not locked yet, in order. -/
def missingPairs (parties : Table Uuid VehicleParty) (customerId : Uuid) (held : List Pair) :
    List Pair :=
  ((((partiesOf parties customerId).map fun row => (row.2.vehicleId, row.2.role)).dedup).filter
    (· ∉ held)).insertionSort fun a b => pairRank a ≤ pairRank b

/-- What a merge does to one of the duplicate's rows. -/
inductive RowWrite where
  | move
  | close (effectiveTo : Time)
  | mark
  deriving DecidableEq

def RowWrite.apply (targetId : Uuid) : RowWrite → VehicleParty → VehicleParty
  | .move, p => { p with customerId := targetId }
  | .close effectiveTo, p => closeVehicleParty p effectiveTo (some targetId)
  | .mark, p => { p with mergedIntoCustomerId := some targetId }

/-- The loop of `_repoint_vehicle_parties`, as the writes it makes. -/
def planRows (now : Time) : List PartyKey → List (Uuid × VehicleParty) → List (Uuid × RowWrite)
  | _, [] => []
  | keys, (id, p) :: rows =>
    if p.key ∈ keys then
      (id, if isOpen now p.effectiveTo then .close p.effectiveFrom else .mark) ::
        planRows now keys rows
    else (id, .move) :: planRows now (p.key :: keys) rows

def applyWrites (targetId : Uuid) (writes : List (Uuid × RowWrite))
    (parties : Table Uuid VehicleParty) : Table Uuid VehicleParty :=
  parties.updateAll fun id p =>
    match writes.lookup id with
    | some w => w.apply targetId p
    | none => p

/-- The customers merged into the duplicate before, in id order. -/
def earlierOf (customers : Table Uuid CustomerRow) (groupId duplicateId : Uuid) : List Uuid :=
  ((customers.entries.filter fun e =>
    e.2.duplicateOfCustomerId = some duplicateId ∧ e.2.groupId = groupId).map
      (·.1)).insertionSort (· ≤ ·)

/-- The kept copies that name the duplicate, in id order. -/
def copiesOf (customers : Table Uuid CustomerRow) (groupId duplicateId : Uuid)
    (parties : Table Uuid VehicleParty) : List Uuid :=
  ((parties.entries.filter fun e => namesIn customers groupId duplicateId e.2).map
    (·.1)).insertionSort (· ≤ ·)

def repointEarlier (call : MergeCall) (c : CustomerRow) : CustomerRow :=
  { c with
    duplicateOfCustomerId := some call.targetId
    updatedBy := call.actorId
    version := c.version + 1 }

/-- The columns of the duplicate the merge sets; the version is the one it read. -/
def setMerged (call : MergeCall) (c : CustomerRow) : CustomerRow :=
  { c with
    lifecycleStatus := .merged
    duplicateOfCustomerId := some call.targetId
    updatedBy := call.actorId
    version := call.version + 1 }

def mergedCustomers (call : MergeCall) (earlier : List Uuid) (customers : Table Uuid CustomerRow) :
    Table Uuid CustomerRow :=
  customers.updateAll fun id c =>
    if id = call.duplicateId then setMerged call c
    else if id ∈ earlier then repointEarlier call c else c

def mergedParties (call : MergeCall) (writes : List (Uuid × RowWrite)) (copies : List Uuid)
    (parties : Table Uuid VehicleParty) : Table Uuid VehicleParty :=
  (applyWrites call.targetId writes parties).updateAll fun id p =>
    if id ∈ copies then { p with mergedIntoCustomerId := some call.targetId } else p

instance (parties : Table Uuid VehicleParty) : Decidable (UniqueScope parties) :=
  decidable_of_iff (∀ e ∈ parties.entries, ∀ e' ∈ parties.entries, e.2.vehicleId = e'.2.vehicleId →
      e.2.customerId = e'.2.customerId → e.2.role = e'.2.role →
      e.2.effectiveFrom = e'.2.effectiveFrom → e.1 = e'.1) <| by
    refine ⟨uniqueScope_of_entries, fun h e he e' he' => ?_⟩
    exact h e.1 e'.1 e.2 e'.2 (Table.lookup_eq_some_iff_mem.mpr he)
      (Table.lookup_eq_some_iff_mem.mpr he')

/-! ### The steps -/

/-- Where a merge is. -/
inductive MergeLocal where
  | reading (held : List Pair) (rowsLocked : Bool)
  | advising (held pending : List Pair) (late rowsLocked : Bool)
  | firstRow (held : List Pair)
  | secondRow (held : List Pair)
  | checking (held : List Pair)
  | readingKeys
  | readingRows (keys : List PartyKey)
  | lockingRows (keys : List PartyKey) (pending : List Uuid) (taken : List (Uuid × VehicleParty))
  | readingEarlier (writes : List (Uuid × RowWrite))
  | lockingEarlier (writes : List (Uuid × RowWrite)) (pending taken : List Uuid)
  | lockingCopies (writes : List (Uuid × RowWrite)) (earlier : List Uuid)
  | committing (writes : List (Uuid × RowWrite)) (earlier copies : List Uuid)

/-- The lock a merge asks for and waits for.  A pair found late is only tried. -/
def MergeLocal.request (call : MergeCall) : MergeLocal → Option (Resource × Mode)
  | .advising _ (pair :: _) false _ => some (.advisory pair call.groupId, .update)
  | .firstRow _ => some (.customer call.first, call.mode call.first)
  | .secondRow _ => some (.customer call.second, call.mode call.second)
  | .lockingRows _ (id :: _) _ => some (.party id, .update)
  | .lockingEarlier _ (id :: _) _ => some (.customer id, .noKeyUpdate)
  | _ => none

/-- A locked row is taken if it is still the duplicate's. -/
def takeRow (parties : Table Uuid VehicleParty) (duplicateId id : Uuid)
    (taken : List (Uuid × VehicleParty)) : List (Uuid × VehicleParty) :=
  match parties.lookup id with
  | some p => if p.customerId = duplicateId then taken ++ [(id, p)] else taken
  | none => taken

/-- A locked customer is taken if it still names the duplicate. -/
def takeEarlier (customers : Table Uuid CustomerRow) (call : MergeCall) (id : Uuid)
    (taken : List Uuid) : List Uuid :=
  if (customers.lookup id).any fun c =>
      c.duplicateOfCustomerId = some call.duplicateId ∧ c.groupId = call.groupId then
    taken ++ [id]
  else taken

section

variable {ι : Type} [DecidableEq ι]

def takeAll (i : ι) (ids : List Uuid) (sh : Shared ι) : Shared ι :=
  ids.foldl (fun sh id => take i (.party id) .update sh) sh

/-- The commit; a row of the survivor that came meanwhile may raise on the
unique constraint. -/
def commitMerge (i : ι) (call : MergeCall) (writes : List (Uuid × RowWrite))
    (earlier copies : List Uuid) (sh : Shared ι) : Shared ι :=
  if UniqueScope (mergedParties call writes copies sh.db.parties) then
    rollback i { sh with
      db := {
        customers := mergedCustomers call earlier sh.db.customers
        parties := mergedParties call writes copies sh.db.parties }
      merges := sh.merges ++ [(call.duplicateId, call.targetId)] }
  else rollback i sh

/-- One statement of a merge: `none` while it waits, and no local state once it
has ended. -/
def mergeStep (i : ι) (call : MergeCall) (sh : Shared ι) :
    MergeLocal → Option (Shared ι × Option MergeLocal)
  | .reading held rowsLocked =>
    match missingPairs sh.db.parties call.duplicateId held with
    | [] => some (sh, some (if rowsLocked then .readingKeys else .firstRow held))
    | missing => some (sh, some (.advising held missing (held ≠ [] || rowsLocked) rowsLocked))
  | .advising held [] _ rowsLocked => some (sh, some (.reading held rowsLocked))
  | .advising held (pair :: pending) late rowsLocked =>
    if Free sh.grants i (.advisory pair call.groupId) .update then
      some (take i (.advisory pair call.groupId) .update sh,
        some (.advising (held ++ [pair]) pending late rowsLocked))
    else if late then some (rollback i sh, none)
    else none
  | .firstRow held =>
    if Free sh.grants i (.customer call.first) (call.mode call.first) then
      some (take i (.customer call.first) (call.mode call.first) sh, some (.secondRow held))
    else none
  | .secondRow held =>
    if Free sh.grants i (.customer call.second) (call.mode call.second) then
      some (take i (.customer call.second) (call.mode call.second) sh, some (.checking held))
    else none
  | .checking held =>
    match sh.db.customers.lookup call.duplicateId, sh.db.customers.lookup call.targetId with
    | some duplicate, some target =>
      match requireUnmerged call.targetId duplicate target with
      | .ok _ => some (sh, some (.reading held true))
      | .error _ => some (rollback i sh, none)
    | _, _ => some (rollback i sh, none)
  | .readingKeys =>
    some (sh, some (.readingRows ((partiesOf sh.db.parties call.targetId).map (·.2.key))))
  | .readingRows keys =>
    some (sh, some (.lockingRows keys ((partiesOf sh.db.parties call.duplicateId).map (·.1)) []))
  | .lockingRows keys [] taken => some (sh, some (.readingEarlier (planRows sh.now keys taken)))
  | .lockingRows keys (id :: pending) taken =>
    if Free sh.grants i (.party id) .update then
      some (take i (.party id) .update sh,
        some (.lockingRows keys pending (takeRow sh.db.parties call.duplicateId id taken)))
    else none
  | .readingEarlier writes =>
    some (sh, some (.lockingEarlier writes
      (earlierOf sh.db.customers call.groupId call.duplicateId) []))
  | .lockingEarlier writes [] taken => some (sh, some (.lockingCopies writes taken))
  | .lockingEarlier writes (id :: pending) taken =>
    if Free sh.grants i (.customer id) .noKeyUpdate then
      some (take i (.customer id) .noKeyUpdate sh,
        some (.lockingEarlier writes pending (takeEarlier sh.db.customers call id taken)))
    else none
  | .lockingCopies writes earlier =>
    let copies := copiesOf sh.db.customers call.groupId call.duplicateId
      (applyWrites call.targetId writes sh.db.parties)
    -- `SKIP LOCKED`: a copy another session holds refuses the merge
    if ∀ id ∈ copies, Free sh.grants i (.party id) .update then
      some (takeAll i copies sh, some (.committing writes earlier copies))
    else some (rollback i sh, none)
  | .committing writes earlier copies => some (commitMerge i call writes earlier copies sh, none)

/-- `POST /customers/{id}/merge` up to the first lock. -/
def startMerge (sh : Shared ι) (groupId duplicateId targetId : Uuid) (actorId : Option Uuid)
    (ifMatch : ℕ) : Result MergeCall := do
  let duplicate ← getCustomerOr404 sh.db.customers groupId duplicateId
  checkVersion duplicate.version ifMatch "Customer"
  if targetId = duplicateId then
    .error (badRequestError "A customer cannot be merged into itself."
      [("reason", "merge_into_self")])
  else
    let target ← getCustomerOr404 sh.db.customers groupId targetId
    requireUnmerged targetId duplicate target
    pure ⟨groupId, duplicateId, targetId, actorId, duplicate.version⟩

end

section Moves

variable {ι : Type} [DecidableEq ι]

/-- The steps of a merge, read off `mergeStep` once.  Without a local state the
merge has ended. -/
inductive MergeMoves (i : ι) (call : MergeCall) (sh : Shared ι) :
    MergeLocal → Shared ι → Option MergeLocal → Prop
  | pairsHeld (held : List Pair) (rowsLocked : Bool) :
      missingPairs sh.db.parties call.duplicateId held = [] →
      MergeMoves i call sh (.reading held rowsLocked) sh
        (some (if rowsLocked then .readingKeys else .firstRow held))
  | pairsMissing (held : List Pair) (rowsLocked : Bool) :
      MergeMoves i call sh (.reading held rowsLocked) sh
        (some (.advising held (missingPairs sh.db.parties call.duplicateId held)
          (held ≠ [] || rowsLocked) rowsLocked))
  | pairsRead (held : List Pair) (late rowsLocked : Bool) :
      MergeMoves i call sh (.advising held [] late rowsLocked) sh
        (some (.reading held rowsLocked))
  | pair (held pending : List Pair) (pair : Pair) (late rowsLocked : Bool) :
      Free sh.grants i (.advisory pair call.groupId) .update →
      MergeMoves i call sh (.advising held (pair :: pending) late rowsLocked)
        (take i (.advisory pair call.groupId) .update sh)
        (some (.advising (held ++ [pair]) pending late rowsLocked))
  | first (held : List Pair) :
      Free sh.grants i (.customer call.first) (call.mode call.first) →
      MergeMoves i call sh (.firstRow held)
        (take i (.customer call.first) (call.mode call.first) sh) (some (.secondRow held))
  | second (held : List Pair) :
      Free sh.grants i (.customer call.second) (call.mode call.second) →
      MergeMoves i call sh (.secondRow held)
        (take i (.customer call.second) (call.mode call.second) sh) (some (.checking held))
  | checked (held : List Pair) (duplicate target : CustomerRow) :
      sh.db.customers.lookup call.duplicateId = some duplicate →
      sh.db.customers.lookup call.targetId = some target →
      duplicate.lifecycleStatus ≠ .merged → target.lifecycleStatus ≠ .merged →
      MergeMoves i call sh (.checking held) sh (some (.reading held true))
  | keys : MergeMoves i call sh .readingKeys sh
      (some (.readingRows ((partiesOf sh.db.parties call.targetId).map (·.2.key))))
  | rows (keys : List PartyKey) :
      MergeMoves i call sh (.readingRows keys) sh
        (some (.lockingRows keys ((partiesOf sh.db.parties call.duplicateId).map (·.1)) []))
  | row (keys : List PartyKey) (id : Uuid) (pending : List Uuid)
      (taken : List (Uuid × VehicleParty)) :
      Free sh.grants i (.party id) .update →
      MergeMoves i call sh (.lockingRows keys (id :: pending) taken) (take i (.party id) .update sh)
        (some (.lockingRows keys pending (takeRow sh.db.parties call.duplicateId id taken)))
  | planned (keys : List PartyKey) (taken : List (Uuid × VehicleParty)) :
      MergeMoves i call sh (.lockingRows keys [] taken) sh
        (some (.readingEarlier (planRows sh.now keys taken)))
  | earlier (writes : List (Uuid × RowWrite)) :
      MergeMoves i call sh (.readingEarlier writes) sh
        (some (.lockingEarlier writes (earlierOf sh.db.customers call.groupId call.duplicateId) []))
  | earlierRow (writes : List (Uuid × RowWrite)) (id : Uuid) (pending taken : List Uuid) :
      Free sh.grants i (.customer id) .noKeyUpdate →
      MergeMoves i call sh (.lockingEarlier writes (id :: pending) taken)
        (take i (.customer id) .noKeyUpdate sh)
        (some (.lockingEarlier writes pending (takeEarlier sh.db.customers call id taken)))
  | earlierHeld (writes : List (Uuid × RowWrite)) (taken : List Uuid) :
      MergeMoves i call sh (.lockingEarlier writes [] taken) sh
        (some (.lockingCopies writes taken))
  | copies (writes : List (Uuid × RowWrite)) (earlier copies : List Uuid) :
      copies = copiesOf sh.db.customers call.groupId call.duplicateId
        (applyWrites call.targetId writes sh.db.parties) →
      (∀ id ∈ copies, Free sh.grants i (.party id) .update) →
      MergeMoves i call sh (.lockingCopies writes earlier) (takeAll i copies sh)
        (some (.committing writes earlier copies))
  | commit (writes : List (Uuid × RowWrite)) (earlier copies : List Uuid) :
      MergeMoves i call sh (.committing writes earlier copies)
        (rollback i { sh with
          db := {
            customers := mergedCustomers call earlier sh.db.customers
            parties := mergedParties call writes copies sh.db.parties }
          merges := sh.merges ++ [(call.duplicateId, call.targetId)] }) none
  | rollback (lo : MergeLocal) : MergeMoves i call sh lo (rollback i sh) none

theorem requireUnmerged_eq_ok {targetId : Uuid} {duplicate target : CustomerRow} {u : Unit}
    (h : requireUnmerged targetId duplicate target = .ok u) :
    duplicate.lifecycleStatus ≠ .merged ∧ target.lifecycleStatus ≠ .merged := by
  unfold requireUnmerged at h
  split at h
  · cases h
  · next htarget =>
    split at h
    · cases h
    · next hduplicate => exact ⟨hduplicate, htarget⟩

theorem mergeMoves_of_step {i : ι} {call : MergeCall} {sh sh' : Shared ι} {lo : MergeLocal}
    {lo' : Option MergeLocal} (h : mergeStep i call sh lo = some (sh', lo')) :
    MergeMoves i call sh lo sh' lo' := by
  cases lo with
  | reading held rowsLocked =>
    rw [mergeStep] at h
    split at h
    · next hnone =>
      cases h
      exact .pairsHeld held rowsLocked hnone
    · cases h
      exact .pairsMissing held rowsLocked
  | advising held pending late rowsLocked =>
    cases pending with
    | nil =>
      cases h
      exact .pairsRead held late rowsLocked
    | cons pair pending =>
      rw [mergeStep] at h
      split at h
      · next hfree =>
        cases h
        exact .pair held pending pair late rowsLocked hfree
      · split at h
        · cases h
          exact .rollback _
        · cases h
  | firstRow held =>
    rw [mergeStep] at h
    split at h
    · next hfree =>
      cases h
      exact .first held hfree
    · cases h
  | secondRow held =>
    rw [mergeStep] at h
    split at h
    · next hfree =>
      cases h
      exact .second held hfree
    · cases h
  | checking held =>
    rw [mergeStep] at h
    split at h
    · next duplicate target hduplicate htarget =>
      split at h
      · next u hu =>
        cases h
        obtain ⟨hd, ht⟩ := requireUnmerged_eq_ok hu
        exact .checked held duplicate target hduplicate htarget hd ht
      · cases h
        exact .rollback _
    · cases h
      exact .rollback _
  | readingKeys =>
    cases h
    exact .keys
  | readingRows keys =>
    cases h
    exact .rows keys
  | lockingRows keys pending taken =>
    cases pending with
    | nil =>
      cases h
      exact .planned keys taken
    | cons id pending =>
      rw [mergeStep] at h
      split at h
      · next hfree =>
        cases h
        exact .row keys id pending taken hfree
      · cases h
  | readingEarlier writes =>
    cases h
    exact .earlier writes
  | lockingEarlier writes pending taken =>
    cases pending with
    | nil =>
      cases h
      exact .earlierHeld writes taken
    | cons id pending =>
      rw [mergeStep] at h
      split at h
      · next hfree =>
        cases h
        exact .earlierRow writes id pending taken hfree
      · cases h
  | lockingCopies writes earlier =>
    simp only [mergeStep] at h
    split at h
    · next hfree =>
      cases h
      exact .copies writes earlier _ rfl hfree
    · cases h
      exact .rollback _
  | committing writes earlier copies =>
    rw [mergeStep, commitMerge] at h
    split at h
    · cases h
      exact .commit writes earlier copies
    · cases h
      exact .rollback _

end Moves

section Grants

variable {ι : Type} {i j : ι} {call : MergeCall} {sh sh' : Shared ι} {r : Resource} {m : Mode}

theorem held_take {r' : Resource} {m' : Mode} :
    Held (take i r m sh).grants j r' m' ↔ (j = i ∧ r' = r ∧ m' = m) ∨ Held sh.grants j r' m' :=
  held_acquire

variable {ids : List Uuid}

theorem held_takeAll : Held (takeAll i ids sh).grants j r m ↔
      (j = i ∧ m = .update ∧ ∃ id ∈ ids, r = .party id) ∨ Held sh.grants j r m := by
  induction ids generalizing sh with
  | nil => simp [takeAll]
  | cons id ids ih =>
    have hcons : takeAll i (id :: ids) sh = takeAll i ids (take i (.party id) .update sh) := rfl
    rw [hcons, ih, held_take]
    constructor
    · rintro (⟨rfl, rfl, id', hid', rfl⟩ | ⟨rfl, rfl, rfl⟩ | hheld)
      · exact .inl ⟨rfl, rfl, id', List.mem_cons_of_mem id hid', rfl⟩
      · exact .inl ⟨rfl, rfl, id, List.mem_cons_self, rfl⟩
      · exact .inr hheld
    · rintro (⟨rfl, rfl, id', hid', rfl⟩ | hheld)
      · rcases List.mem_cons.mp hid' with rfl | hid'
        · exact .inr (.inl ⟨rfl, rfl, rfl⟩)
        · exact .inl ⟨rfl, rfl, id', hid', rfl⟩
      · exact .inr (.inr hheld)

theorem takeAll_db : (takeAll i ids sh).db = sh.db ∧ (takeAll i ids sh).now = sh.now := by
  induction ids generalizing sh with
  | nil => exact ⟨rfl, rfl⟩
  | cons id ids ih =>
    obtain ⟨h1, h2⟩ := @ih (take i (.party id) .update sh)
    exact ⟨h1.trans rfl, h2.trans rfl⟩

theorem takeAll_merges : (takeAll i ids sh).merges = sh.merges := by
  induction ids generalizing sh with
  | nil => rfl
  | cons id ids ih => exact (@ih (take i (.party id) .update sh)).trans rfl

theorem first_or_second {id : Uuid} :
    id = call.first ∨ id = call.second ↔ id = call.duplicateId ∨ id = call.targetId := by
  unfold MergeCall.first MergeCall.second
  rcases le_total call.duplicateId call.targetId with h | h
  · rw [min_eq_left h, max_eq_right h]
  · rw [min_eq_right h, max_eq_left h]
    exact or_comm

variable [DecidableEq ι] {lo : MergeLocal} {lo' : Option MergeLocal}

theorem MergeMoves.held_other (h : MergeMoves i call sh lo sh' lo') (hij : j ≠ i) :
    Held sh'.grants j r m ↔ Held sh.grants j r m := by
  cases h with
  | pair | first | second | row | earlierRow =>
    exact held_take.trans ⟨fun h => h.resolve_left fun heq => hij heq.1, .inr⟩
  | copies => exact held_takeAll.trans ⟨fun h => h.resolve_left fun heq => hij heq.1, .inr⟩
  | commit | rollback => exact held_release.trans ⟨And.left, fun h => ⟨h, hij⟩⟩
  | pairsHeld | pairsMissing | pairsRead | checked | keys | rows | planned | earlier | earlierHeld =>
    exact Iff.rfl

theorem MergeMoves.held_own {lo' : MergeLocal} (h : MergeMoves i call sh lo sh' (some lo'))
    (hheld : Held sh.grants i r m) : Held sh'.grants i r m := by
  cases h with
  | pair | first | second | row | earlierRow => exact held_take.mpr (.inr hheld)
  | copies => exact held_takeAll.mpr (.inr hheld)
  | pairsHeld | pairsMissing | pairsRead | checked | keys | rows | planned | earlier | earlierHeld =>
    exact hheld

theorem MergeMoves.compatible (h : MergeMoves i call sh lo sh' lo')
    (hcompatible : Compatible sh.grants) : Compatible sh'.grants := by
  cases h with
  | pair held pending pair late rowsLocked hfree => exact hcompatible.acquire hfree
  | first held hfree => exact hcompatible.acquire hfree
  | second held hfree => exact hcompatible.acquire hfree
  | row keys id pending taken hfree => exact hcompatible.acquire hfree
  | earlierRow writes id pending taken hfree => exact hcompatible.acquire hfree
  | copies writes earlier copies hcopies hfree =>
    intro j k r m m' hj hk hconflict
    rcases held_takeAll.mp hj with ⟨rfl, rfl, id, hid, rfl⟩ | hj'
    · rcases held_takeAll.mp hk with ⟨rfl, -⟩ | hk'
      · rfl
      · exact (hfree id hid ⟨k, _, m'⟩ hk' rfl hconflict).symm
    · rcases held_takeAll.mp hk with ⟨rfl, rfl, id, hid, rfl⟩ | hk'
      · rw [Mode.conflicts_comm] at hconflict
        exact hfree id hid ⟨j, _, m⟩ hj' rfl hconflict
      · exact hcompatible j k r m m' hj' hk' hconflict
  | commit | rollback => exact hcompatible.release
  | pairsHeld | pairsMissing | pairsRead | checked | keys | rows | planned | earlier | earlierHeld =>
    exact hcompatible

end Grants

end Nexotec.Customers
