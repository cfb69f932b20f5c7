/-
A customer merge and the vehicle-party rows
(`app/customer/services/customer.py`, `_repoint_vehicle_parties`,
`_repoint_earlier_merges`, `merge_customer`).

The duplicate's rows move to the survivor, except one whose vehicle, role and
start the survivor has a row for: that one stays on the duplicate, closed at
its own start and marked with the survivor.  The loop carries the survivor's
keys along; `lookup_repointVehicleParties` says what it leaves under each id.

Main result:

* `merge_keeps_holders` — a merge keeps every party row and every current
  holder, if and only if each open row of the duplicate that has to stay
  behind started in the past and the role is held by a row that does not.
-/
import Mathlib.Data.List.Sort
import Nexotec.Customer.Models

namespace Nexotec.Customers

/-! ### Party rows -/

/-- `_is_open`: no end, or an end still to come. -/
def isOpen (now : Time) (effectiveTo : Option Time) : Bool := effectiveTo.all (now < ·)

abbrev PartyKey := Uuid × VehiclePartyRole × Time

instance : LawfulBEq PartyKey := inferInstance

def VehicleParty.key (p : VehicleParty) : PartyKey := (p.vehicleId, p.role, p.effectiveFrom)

/-- `_close_vehicle_party`, without its audit row and its event. -/
def closeVehicleParty (p : VehicleParty) (effectiveTo : Time)
    (mergedIntoCustomerId : Option Uuid := none) : VehicleParty :=
  { p with
    effectiveTo := some effectiveTo
    mergedIntoCustomerId := mergedIntoCustomerId.or p.mergedIntoCustomerId }

def partiesOf (parties : Table Uuid VehicleParty) (customerId : Uuid) :
    List (Uuid × VehicleParty) :=
  ((parties.entries.filter fun e => e.2.customerId = customerId).map fun e =>
    (e.1, e.2)).insertionSort fun a b => a.1 ≤ b.1

/-- The copy a merge keeps on the duplicate: a row that is already closed only
takes the mark. -/
def keptCopy (now : Time) (targetId : Uuid) (p : VehicleParty) : VehicleParty :=
  if isOpen now p.effectiveTo then closeVehicleParty p p.effectiveFrom (some targetId)
  else { p with mergedIntoCustomerId := some targetId }

/-- The state of the loop of `_repoint_vehicle_parties`. -/
structure PartyRepoint where
  parties : Table Uuid VehicleParty
  targetKeys : List PartyKey
  repointed : ℕ := 0
  keptClosed : List Uuid := []

def repointParty (now : Time) (targetId : Uuid) (acc : PartyRepoint) (row : Uuid × VehicleParty) :
    PartyRepoint :=
  if row.2.key ∈ acc.targetKeys then
    { acc with
      parties := acc.parties.insert row.1 (keptCopy now targetId row.2)
      keptClosed := acc.keptClosed ++ [row.1] }
  else
    { acc with
      parties := acc.parties.insert row.1 { row.2 with customerId := targetId }
      targetKeys := row.2.key :: acc.targetKeys
      repointed := acc.repointed + 1 }

/-- `_repoint_vehicle_parties` once its locks are held. -/
def repointVehicleParties (now : Time) (duplicateId targetId : Uuid)
    (parties : Table Uuid VehicleParty) : PartyRepoint :=
  (partiesOf parties duplicateId).foldl (repointParty now targetId)
    { parties := parties, targetKeys := (partiesOf parties targetId).map (·.2.key) }

/-! ### The merge -/

structure CustomerDb where
  customers : Table Uuid CustomerRow := ∅
  parties : Table Uuid VehicleParty := ∅

/-- A copy an earlier merge into the duplicate kept (`copies_naming_d`). -/
def namesIn (customers : Table Uuid CustomerRow) (groupId duplicateId : Uuid) (p : VehicleParty) :
    Bool :=
  p.mergedIntoCustomerId = some duplicateId ∧
    (customers.lookup p.customerId).any (·.groupId = groupId)

/-- The half of `_repoint_earlier_merges` on the kept copies. -/
def repointKeptCopies (customers : Table Uuid CustomerRow) (groupId duplicateId targetId : Uuid)
    (parties : Table Uuid VehicleParty) : Table Uuid VehicleParty :=
  parties.updateAll fun _ p =>
    if namesIn customers groupId duplicateId p then { p with mergedIntoCustomerId := some targetId }
    else p

/-- The half of `_repoint_earlier_merges` on the customers merged before. -/
def repointEarlierMerges (actorId : Option Uuid) (groupId duplicateId targetId : Uuid)
    (customers : Table Uuid CustomerRow) : Table Uuid CustomerRow :=
  customers.updateAll fun _ c =>
    if c.duplicateOfCustomerId = some duplicateId ∧ c.groupId = groupId then
      { c with
        duplicateOfCustomerId := some targetId
        updatedBy := actorId
        version := c.version + 1 }
    else c

def mergedRow (actorId : Option Uuid) (targetId : Uuid) (c : CustomerRow) : CustomerRow :=
  { c with
    lifecycleStatus := .merged
    duplicateOfCustomerId := some targetId
    updatedBy := actorId
    version := c.version + 1 }

/-- The two refusals of `merge_customer`, made without a lock first and again
under the customers' row locks. -/
def requireUnmerged (targetId : Uuid) (duplicate target : CustomerRow) : Result Unit :=
  if target.lifecycleStatus = .merged then
    .error (conflictError "Cannot merge into a customer that has itself been merged."
      [("reason", "merge_target_merged"), ("duplicateOfCustomerId", toString targetId)])
  else if duplicate.lifecycleStatus = .merged then
    .error (conflictError "Customer has already been merged."
      [("reason", "customer_already_merged"), ("currentLifecycleStatus", "merged")])
  else .ok ()

/-- `merge_customer` with nobody else at work. -/
def mergeCustomer (now : Time) (actorId : Option Uuid) (db : CustomerDb)
    (groupId duplicateId targetId : Uuid) (ifMatch : ℕ) : Result CustomerDb := do
  let duplicate ← getCustomerOr404 db.customers groupId duplicateId
  checkVersion duplicate.version ifMatch "Customer"
  if targetId = duplicateId then
    .error (badRequestError "A customer cannot be merged into itself."
      [("reason", "merge_into_self")])
  else
    let target ← getCustomerOr404 db.customers groupId targetId
    requireUnmerged targetId duplicate target
    let parties := (repointVehicleParties now duplicateId targetId db.parties).parties
    pure {
      customers := (repointEarlierMerges actorId groupId duplicateId targetId db.customers).insert
        duplicateId (mergedRow actorId targetId duplicate)
      parties := repointKeptCopies db.customers groupId duplicateId targetId parties }

section Repoint

variable {now : Time} {duplicateId targetId : Uuid} {parties : Table Uuid VehicleParty}

theorem mem_partiesOf {customerId id : Uuid} {p : VehicleParty} :
    (id, p) ∈ partiesOf parties customerId ↔
      parties.lookup id = some p ∧ p.customerId = customerId := by
  rw [partiesOf, List.mem_insertionSort, Table.mem_map_filter, decide_eq_true_eq]

/-- The survivor has a row for this vehicle, role and start. -/
def Collides (parties : Table Uuid VehicleParty) (targetId : Uuid) (p : VehicleParty) : Prop :=
  ∃ id q, parties.lookup id = some q ∧ q.customerId = targetId ∧ q.key = p.key

theorem mem_targetKeys {p : VehicleParty} :
    p.key ∈ (partiesOf parties targetId).map (·.2.key) ↔ Collides parties targetId p := by
  rw [List.mem_map]
  constructor
  · rintro ⟨⟨id, q⟩, hmem, hkey⟩
    obtain ⟨hrow, hof⟩ := mem_partiesOf.mp hmem
    exact ⟨id, q, hrow, hof, hkey⟩
  · rintro ⟨id, q, hrow, hof, hkey⟩
    exact ⟨(id, q), mem_partiesOf.mpr ⟨hrow, hof⟩, hkey⟩

instance (p : VehicleParty) : Decidable (Collides parties targetId p) :=
  decidable_of_iff _ mem_targetKeys

theorem nodup_partiesOf (customerId : Uuid) : (partiesOf parties customerId).Nodup := by
  rw [partiesOf, (List.perm_insertionSort _ _).nodup_iff]
  have hentries : parties.entries.Nodup := parties.nodupKeys.nodup
  refine (hentries.filter _).map ?_
  rintro ⟨id, p⟩ ⟨id', p'⟩ heq
  cases heq
  rfl

theorem pairwise_partiesOf (hscope : UniqueScope parties) (customerId : Uuid) :
    (partiesOf parties customerId).Pairwise fun a b => a.1 ≠ b.1 ∧ a.2.key ≠ b.2.key := by
  refine (nodup_partiesOf customerId).pairwise_of_forall_ne ?_
  rintro ⟨id, p⟩ hp ⟨id', p'⟩ hp' hne
  obtain ⟨hrow, hof⟩ := mem_partiesOf.mp hp
  obtain ⟨hrow', hof'⟩ := mem_partiesOf.mp hp'
  have hids : id ≠ id' := by
    rintro rfl
    exact hne (by rw [Option.mem_unique hrow hrow'])
  refine ⟨hids, fun hkey => hids ?_⟩
  obtain ⟨hvehicle, hrest⟩ := Prod.mk.inj hkey
  obtain ⟨hrole, hfrom⟩ := Prod.mk.inj hrest
  exact hscope id id' p p' hrow hrow' hvehicle (hof.trans hof'.symm) hrole hfrom

def repointedRow (now : Time) (targetId : Uuid) (keys : List PartyKey) (p : VehicleParty) :
    VehicleParty :=
  if p.key ∈ keys then keptCopy now targetId p else { p with customerId := targetId }

theorem lookup_foldl_repointParty {rows : List (Uuid × VehicleParty)}
    (hrows : rows.Pairwise fun a b => a.1 ≠ b.1 ∧ a.2.key ≠ b.2.key) (acc : PartyRepoint) :
    (∀ id p, (id, p) ∈ rows → (rows.foldl (repointParty now targetId) acc).parties.lookup id =
        some (repointedRow now targetId acc.targetKeys p)) ∧ ∀ id, (∀ p, (id, p) ∉ rows) →
      (rows.foldl (repointParty now targetId) acc).parties.lookup id = acc.parties.lookup id := by
  induction rows generalizing acc with
  | nil => exact ⟨nofun, fun _ _ => rfl⟩
  | cons row rows ih =>
    obtain ⟨hhead, htail⟩ := List.pairwise_cons.mp hrows
    obtain ⟨ihmem, ihrest⟩ := ih htail (repointParty now targetId acc row)
    -- the row itself, and the keys the other rows of the list meet
    have hput : (repointParty now targetId acc row).parties =
        acc.parties.insert row.1 (repointedRow now targetId acc.targetKeys row.2) := by
      unfold repointParty repointedRow
      split <;> rfl
    have hkeys : ∀ b ∈ rows, repointedRow now targetId
        (repointParty now targetId acc row).targetKeys b.2 =
        repointedRow now targetId acc.targetKeys b.2 := by
      intro b hb
      have hne := (hhead b hb).2
      unfold repointParty
      split
      · rfl
      · simp only [repointedRow, List.mem_cons, hne.symm, false_or]
    rw [List.foldl_cons]
    constructor
    · intro id p hmem
      rcases List.mem_cons.mp hmem with rfl | hmem
      · have hfresh : ∀ q, (id, q) ∉ rows := fun q hq => (hhead (id, q) hq).1 rfl
        rw [ihrest id hfresh, hput, AList.lookup_insert]
      · rw [ihmem id p hmem, hkeys (id, p) hmem]
    · intro id hid
      have hne : id ≠ row.1 := fun heq => hid row.2 (heq ▸ List.mem_cons_self)
      rw [ihrest id fun p hp => hid p (List.mem_cons_of_mem row hp), hput,
        AList.lookup_insert_ne hne]

/-- **What a merge leaves under each id**: the duplicate's row moves, or stays
as a copy when the survivor has its key; every other row is as it was. -/
theorem lookup_repointVehicleParties (hscope : UniqueScope parties) (id : Uuid) :
    (repointVehicleParties now duplicateId targetId parties).parties.lookup id =
      (parties.lookup id).map fun p =>
        if p.customerId = duplicateId then
          if Collides parties targetId p then keptCopy now targetId p
          else { p with customerId := targetId }
        else p := by
  obtain ⟨hmem, hrest⟩ := @lookup_foldl_repointParty now targetId _
    (pairwise_partiesOf hscope duplicateId)
    { parties := parties, targetKeys := (partiesOf parties targetId).map (·.2.key) }
  rcases hrow : parties.lookup id with _ | p
  · rw [repointVehicleParties, hrest id fun p hp => ?_]
    · exact hrow
    · rw [(mem_partiesOf.mp hp).1] at hrow
      cases hrow
  · rw [Option.map_some]
    by_cases hof : p.customerId = duplicateId
    · rw [if_pos hof, repointVehicleParties, hmem id p (mem_partiesOf.mpr ⟨hrow, hof⟩), repointedRow]
      exact congrArg some (if_congr mem_targetKeys rfl rfl)
    · rw [if_neg hof, repointVehicleParties, hrest id fun q hq => ?_]
      · exact hrow
      · obtain ⟨hrow', hof'⟩ := mem_partiesOf.mp hq
        obtain rfl := Option.mem_unique hrow hrow'
        exact hof hof'

end Repoint

/-! ### Holders -/

def HoldsRole (now : Time) (parties : Table Uuid VehicleParty) (customerId vehicleId : Uuid)
    (role : VehiclePartyRole) : Prop :=
  ∃ id p, parties.lookup id = some p ∧ p.customerId = customerId ∧ p.vehicleId = vehicleId ∧
    p.role = role ∧ isOpen now p.effectiveTo = true

instance (now : Time) (parties : Table Uuid VehicleParty) (customerId vehicleId : Uuid)
    (role : VehiclePartyRole) : Decidable (HoldsRole now parties customerId vehicleId role) :=
  decidable_of_iff (∃ e ∈ parties.entries, e.2.customerId = customerId ∧
      e.2.vehicleId = vehicleId ∧ e.2.role = role ∧ isOpen now e.2.effectiveTo = true) <| by
    rw [HoldsRole, Table.exists_lookup]

def SamePeriod (p p' : VehicleParty) : Prop :=
  p'.vehicleId = p.vehicleId ∧ p'.role = p.role ∧ p'.effectiveFrom = p.effectiveFrom ∧
    p'.effectiveTo = p.effectiveTo

/-- What a merge owes the party rows. -/
structure KeepsParties (now : Time) (duplicateId targetId : Uuid)
    (before after : Table Uuid VehicleParty) : Prop where
  ids : ∀ id, (after.lookup id).isSome = (before.lookup id).isSome
  duplicate : ∀ id p, before.lookup id = some p → p.customerId = duplicateId →
    ∃ p', after.lookup id = some p' ∧
      (p'.customerId = targetId ∧ SamePeriod p p' ∨
        p'.customerId = duplicateId ∧ p'.mergedIntoCustomerId = some targetId ∧
          isOpen now p'.effectiveTo = false)
  survivor : ∀ id p, before.lookup id = some p → p.customerId = targetId →
    after.lookup id = some p
  holders : ∀ vehicleId role,
    HoldsRole now before duplicateId vehicleId role ∨ HoldsRole now before targetId vehicleId role →
    HoldsRole now after targetId vehicleId role

/-- The role of a row that stays behind is held by the survivor, or by a row
that moves. -/
def HeldBesides (now : Time) (duplicateId targetId : Uuid) (parties : Table Uuid VehicleParty)
    (p : VehicleParty) : Prop :=
  HoldsRole now parties targetId p.vehicleId p.role ∨
    ∃ id q, parties.lookup id = some q ∧ q.customerId = duplicateId ∧
      q.vehicleId = p.vehicleId ∧ q.role = p.role ∧ isOpen now q.effectiveTo = true ∧
      ¬ Collides parties targetId q

/-- Every open row that stays behind started by now and is not the only one to
hold its role, and no row of the survivor is marked as the duplicate's copy. -/
structure CopiesExpendable (now : Time) (duplicateId targetId : Uuid)
    (parties : Table Uuid VehicleParty) : Prop where
  copies : ∀ id p, parties.lookup id = some p → p.customerId = duplicateId →
    isOpen now p.effectiveTo = true → Collides parties targetId p →
    p.effectiveFrom ≤ now ∧ HeldBesides now duplicateId targetId parties p
  unmarked : ∀ id p, parties.lookup id = some p → p.customerId = targetId →
    p.mergedIntoCustomerId ≠ some duplicateId

section

variable {now : Time} {actorId : Option Uuid} {db db' : CustomerDb}
  {groupId duplicateId targetId : Uuid} {ifMatch : ℕ}

/-- The mark of `_repoint_earlier_merges`. -/
def remarked (customers : Table Uuid CustomerRow) (groupId duplicateId targetId : Uuid)
    (p : VehicleParty) : VehicleParty :=
  if namesIn customers groupId duplicateId p then { p with mergedIntoCustomerId := some targetId }
  else p

theorem mergeCustomer_parties (hscope : UniqueScope db.parties)
    (h : mergeCustomer now actorId db groupId duplicateId targetId ifMatch = .ok db') :
    targetId ≠ duplicateId ∧ (∃ target, db.customers.lookup targetId = some target ∧
      target.groupId = groupId) ∧
    ∀ id, db'.parties.lookup id = (db.parties.lookup id).map fun p =>
      remarked db.customers groupId duplicateId targetId
        (if p.customerId = duplicateId then
          if Collides db.parties targetId p then keptCopy now targetId p
          else { p with customerId := targetId }
        else p) := by
  obtain ⟨duplicate, -, h⟩ := Result.of_bind h
  obtain ⟨-, -, h⟩ := Result.of_bind h
  split at h
  · cases h
  · next hne =>
    obtain ⟨target, htarget, h⟩ := Result.of_bind h
    obtain ⟨-, -, h⟩ := Result.of_bind h
    cases h
    refine ⟨hne, ⟨target, getCustomerOr404_eq_ok htarget⟩, fun id => ?_⟩
    show (repointKeptCopies _ _ _ _ _).lookup id = _
    rw [repointKeptCopies, Table.lookup_updateAll, lookup_repointVehicleParties hscope,
      Option.map_map]
    rfl

theorem keptCopy_customerId (p : VehicleParty) :
    (keptCopy now targetId p).customerId = p.customerId := by
  unfold keptCopy
  split <;> rfl

theorem keptCopy_mark (p : VehicleParty) :
    (keptCopy now targetId p).mergedIntoCustomerId = some targetId := by
  unfold keptCopy
  split <;> rfl

theorem isOpen_keptCopy (p : VehicleParty) :
    isOpen now (keptCopy now targetId p).effectiveTo = true ↔
      isOpen now p.effectiveTo = true ∧ now < p.effectiveFrom := by
  unfold keptCopy
  split
  · next hopen =>
    simp only [closeVehicleParty, isOpen, Option.all_some, decide_eq_true_eq]
    exact ⟨fun h => ⟨hopen, h⟩, fun h => h.2⟩
  · next hclosed =>
    exact ⟨fun h => (hclosed h).elim, fun h => (hclosed h.1).elim⟩

theorem remarked_customerId (customers : Table Uuid CustomerRow) (p : VehicleParty) :
    (remarked customers groupId duplicateId targetId p).customerId = p.customerId := by
  unfold remarked
  split <;> rfl

theorem remarked_samePeriod (customers : Table Uuid CustomerRow) (p : VehicleParty) :
    SamePeriod p (remarked customers groupId duplicateId targetId p) := by
  unfold remarked
  split <;> exact ⟨rfl, rfl, rfl, rfl⟩

theorem remarked_of_ne (customers : Table Uuid CustomerRow) {p : VehicleParty}
    (h : p.mergedIntoCustomerId ≠ some duplicateId) :
    remarked customers groupId duplicateId targetId p = p := by
  unfold remarked
  rw [if_neg]
  simp [namesIn, h]

theorem merged_row_cases (hscope : UniqueScope db.parties)
    (h : mergeCustomer now actorId db groupId duplicateId targetId ifMatch = .ok db') {id : Uuid}
    {p : VehicleParty} (hp : db.parties.lookup id = some p) :
    ∃ p', db'.parties.lookup id = some p' ∧
      ((p.customerId = duplicateId ∧ Collides db.parties targetId p ∧
          p' = keptCopy now targetId p) ∨
        (p.customerId = duplicateId ∧ ¬ Collides db.parties targetId p ∧
          p'.customerId = targetId ∧ SamePeriod p p') ∨
        (p.customerId ≠ duplicateId ∧ p'.customerId = p.customerId ∧ SamePeriod p p' ∧
          p' = remarked db.customers groupId duplicateId targetId p)) := by
  obtain ⟨hne, -, hlookup⟩ := mergeCustomer_parties hscope h
  have hp' := hlookup id
  rw [hp, Option.map_some] at hp'
  refine ⟨_, hp', ?_⟩
  by_cases hof : p.customerId = duplicateId
  · rw [if_pos hof]
    by_cases hcol : Collides db.parties targetId p
    · rw [if_pos hcol]
      refine .inl ⟨hof, hcol, remarked_of_ne _ ?_⟩
      rw [keptCopy_mark]
      exact fun heq => hne (Option.some.inj heq)
    · rw [if_neg hcol]
      exact .inr (.inl ⟨hof, hcol, remarked_customerId _ _, remarked_samePeriod _ _⟩)
  · rw [if_neg hof]
    exact .inr (.inr ⟨hof, remarked_customerId _ _, remarked_samePeriod _ _, rfl⟩)

theorem holdsRole_of_after (hscope : UniqueScope db.parties)
    (h : mergeCustomer now actorId db groupId duplicateId targetId ifMatch = .ok db')
    {vehicleId : Uuid} {role : VehiclePartyRole}
    (hholds : HoldsRole now db'.parties targetId vehicleId role) :
    HoldsRole now db.parties targetId vehicleId role ∨
      ∃ id q, db.parties.lookup id = some q ∧ q.customerId = duplicateId ∧
        q.vehicleId = vehicleId ∧ q.role = role ∧ isOpen now q.effectiveTo = true ∧
        ¬ Collides db.parties targetId q := by
  obtain ⟨hne, -, hlookup⟩ := mergeCustomer_parties hscope h
  obtain ⟨id, q', hq', hof, hvehicle, hrole, hopen⟩ := hholds
  rcases hq : db.parties.lookup id with _ | q
  · rw [hlookup, hq] at hq'
    cases hq'
  · obtain ⟨q'', hq'', hcases⟩ := merged_row_cases hscope h hq
    obtain rfl := Option.mem_unique hq' hq''
    rcases hcases with ⟨hdup, -, rfl⟩ | ⟨hdup, hcol, -, hsame⟩ | ⟨-, hsameOf, hsame, -⟩
    · rw [keptCopy_customerId, hdup] at hof
      exact (hne hof.symm).elim
    · obtain ⟨hv, hr, -, hto⟩ := hsame
      rw [hto] at hopen
      exact .inr ⟨id, q, hq, hdup, hv.symm.trans hvehicle, hr.symm.trans hrole, hopen, hcol⟩
    · obtain ⟨hv, hr, -, hto⟩ := hsame
      rw [hto] at hopen
      exact .inl ⟨id, q, hq, hsameOf.symm.trans hof, hv.symm.trans hvehicle, hr.symm.trans hrole,
        hopen⟩

/-- **A merge keeps every party row and every current holder**, if and only if
the copies it has to leave behind are expendable. -/
theorem merge_keeps_holders (now : Time) (actorId : Option Uuid) (db db' : CustomerDb)
    (groupId duplicateId targetId : Uuid) (ifMatch : ℕ) (hscope : UniqueScope db.parties)
    (h : mergeCustomer now actorId db groupId duplicateId targetId ifMatch = .ok db') :
    KeepsParties now duplicateId targetId db.parties db'.parties ↔
      CopiesExpendable now duplicateId targetId db.parties := by
  obtain ⟨hne, ⟨target, htarget, hgroup⟩, hlookup⟩ := mergeCustomer_parties hscope h
  constructor
  · intro hkeeps
    refine ⟨?_, ?_⟩
    · intro id p hp hof hopen hcol
      constructor
      · -- the copy is kept on the duplicate, so the claim says it is closed
        obtain ⟨p', hp', hcases⟩ := merged_row_cases hscope h hp
        obtain ⟨p'', hp'', hend⟩ := hkeeps.duplicate id p hp hof
        obtain rfl := Option.mem_unique hp' hp''
        rcases hcases with ⟨-, -, rfl⟩ | ⟨-, hncol, -⟩ | ⟨hnof, -⟩
        · rcases hend with ⟨hto, -⟩ | ⟨-, -, hclosed⟩
          · rw [keptCopy_customerId, hof] at hto
            exact (hne hto.symm).elim
          · by_contra hfuture
            rw [(isOpen_keptCopy p).mpr ⟨hopen, not_le.mp hfuture⟩] at hclosed
            cases hclosed
        · exact (hncol hcol).elim
        · exact (hnof hof).elim
      · exact holdsRole_of_after hscope h
          (hkeeps.holders p.vehicleId p.role (.inl ⟨id, p, hp, hof, rfl, rfl, hopen⟩))
    · intro id p hp hof hmark
      -- the survivor's row would be marked anew
      have hsame := hkeeps.survivor id p hp hof
      rw [hlookup, hp, Option.map_some, if_neg (hof.symm ▸ hne), remarked, if_pos] at hsame
      · have hmarks := congrArg VehicleParty.mergedIntoCustomerId (Option.some.inj hsame)
        rw [hmark] at hmarks
        exact hne (Option.some.inj hmarks)
      · subst hof
        simp [namesIn, hmark, htarget, hgroup]
  · intro hexp
    refine ⟨fun id => ?_, fun id p hp hof => ?_, fun id p hp hof => ?_, fun v r hholds => ?_⟩
    · rw [hlookup, Option.isSome_map]
    · obtain ⟨p', hp', hcases⟩ := merged_row_cases hscope h hp
      refine ⟨p', hp', ?_⟩
      rcases hcases with ⟨-, hcol, rfl⟩ | ⟨-, -, hto, hsame⟩ | ⟨hnof, -⟩
      · refine .inr ⟨(keptCopy_customerId p).trans hof, keptCopy_mark p, ?_⟩
        rw [Bool.eq_false_iff]
        intro hopen
        obtain ⟨hwas, hfuture⟩ := (isOpen_keptCopy p).mp hopen
        exact not_lt.mpr (hexp.copies id p hp hof hwas hcol).1 hfuture
      · exact .inl ⟨hto, hsame⟩
      · exact (hnof hof).elim
    · rw [hlookup, hp, Option.map_some, if_neg (hof.symm ▸ hne),
        remarked_of_ne _ (hexp.unmarked id p hp hof)]
    · -- a holder of the survivor stays, and one of the duplicate moves or is spare
      have hstays : HoldsRole now db.parties targetId v r → HoldsRole now db'.parties targetId v r := by
        rintro ⟨id, p, hp, hof, hv, hr, hopen⟩
        obtain ⟨p', hp', hcases⟩ := merged_row_cases hscope h hp
        rcases hcases with ⟨hdup, -⟩ | ⟨hdup, -⟩ | ⟨-, hsameOf, hsame, -⟩
        · exact (hne (hof.symm.trans hdup)).elim
        · exact (hne (hof.symm.trans hdup)).elim
        · obtain ⟨hv', hr', -, hto⟩ := hsame
          exact ⟨id, p', hp', hsameOf.trans hof, hv'.trans hv, hr'.trans hr, hto ▸ hopen⟩
      have hmoves : ∀ id q, db.parties.lookup id = some q → q.customerId = duplicateId →
          q.vehicleId = v → q.role = r → isOpen now q.effectiveTo = true →
          ¬ Collides db.parties targetId q → HoldsRole now db'.parties targetId v r := by
        intro id q hq hof hv hr hopen hncol
        obtain ⟨q', hq', hcases⟩ := merged_row_cases hscope h hq
        rcases hcases with ⟨-, hcol, -⟩ | ⟨-, -, hto, hv', hr', -, htime⟩ | ⟨hnof, -⟩
        · exact (hncol hcol).elim
        · exact ⟨id, q', hq', hto, hv'.trans hv, hr'.trans hr, htime ▸ hopen⟩
        · exact (hnof hof).elim
      rcases hholds with ⟨id, p, hp, hof, rfl, rfl, hopen⟩ | hholds
      · by_cases hcol : Collides db.parties targetId p
        · rcases (hexp.copies id p hp hof hopen hcol).2 with hheld |
            ⟨id', q, hq, hqof, hqv, hqr, hqopen, hqcol⟩
          · exact hstays hheld
          · exact hmoves id' q hq hqof hqv hqr hqopen hqcol
        · exact hmoves id p hp hof rfl rfl hopen hcol
      · exact hstays hholds

end

/-! ### Two merges -/

def twoCustomers : Table Uuid CustomerRow :=
  ((∅ : Table Uuid CustomerRow).insert 1 { groupId := 7 }).insert 2 { groupId := 7 }

/-- Customer 1 owns vehicle 50 since instant 3 and drives vehicle 60. -/
def duplicateOwner : CustomerDb where
  customers := twoCustomers
  parties := ((∅ : Table Uuid VehicleParty).insert 10
    { vehicleId := 50, customerId := 1, role := .owner, effectiveFrom := 3 }).insert 11
    { vehicleId := 60, customerId := 1, role := .driver, effectiveFrom := 4 }

/-- The same, and customer 2 was entered as the owner at the same instant, by
mistake, and disconnected at instant 5. -/
def ownerTwice : CustomerDb where
  customers := twoCustomers
  parties := duplicateOwner.parties.insert 12
    { vehicleId := 50, customerId := 2, role := .owner, effectiveFrom := 3, effectiveTo := some 5 }

theorem uniqueScope_of_entries {parties : Table Uuid VehicleParty}
    (h : ∀ e ∈ parties.entries, ∀ e' ∈ parties.entries, e.2.vehicleId = e'.2.vehicleId →
      e.2.customerId = e'.2.customerId → e.2.role = e'.2.role →
      e.2.effectiveFrom = e'.2.effectiveFrom → e.1 = e'.1) : UniqueScope parties := by
  intro id id' p p' hp hp'
  exact h ⟨id, p⟩ (Table.lookup_eq_some_iff_mem.mp hp) ⟨id', p'⟩ (Table.lookup_eq_some_iff_mem.mp hp')

/-- Nothing collides: both of the duplicate's rows move to the survivor. -/
theorem merge_keeps_holders_duplicateOwner :
    ∃ db', mergeCustomer 9 none duplicateOwner 7 1 2 1 = .ok db' ∧
      KeepsParties 9 1 2 duplicateOwner.parties db'.parties := by
  have hscope : UniqueScope duplicateOwner.parties := uniqueScope_of_entries (by decide)
  refine ⟨_, rfl, ?_⟩
  refine (merge_keeps_holders 9 none duplicateOwner _ 7 1 2 1 hscope rfl).mpr ⟨?_, ?_⟩
  · rintro id p hp - - ⟨id', q, hq, hof, -⟩
    have hnone : ∀ e ∈ duplicateOwner.parties.entries, e.2.customerId ≠ 2 := by decide
    exact (hnone ⟨id', q⟩ (Table.lookup_eq_some_iff_mem.mp hq) hof).elim
  · intro id p hp hof
    have hnone : ∀ e ∈ duplicateOwner.parties.entries, e.2.customerId ≠ 2 := by decide
    exact (hnone ⟨id, p⟩ (Table.lookup_eq_some_iff_mem.mp hp) hof).elim

/-- The survivor's closed row takes the place of the duplicate's open one, and
nobody owns vehicle 50 any more. -/
theorem merge_loses_a_holder : UniqueScope ownerTwice.parties ∧
    ∃ db', mergeCustomer 9 none ownerTwice 7 1 2 1 = .ok db' ∧
      HoldsRole 9 ownerTwice.parties 1 50 .owner ∧ ¬ HoldsRole 9 db'.parties 2 50 .owner ∧
      ¬ KeepsParties 9 1 2 ownerTwice.parties db'.parties := by
  refine ⟨uniqueScope_of_entries (by decide), _, rfl, by decide, by decide, fun hkeeps => ?_⟩
  have hheld : HoldsRole 9 ownerTwice.parties 1 50 .owner := by decide
  exact absurd (hkeeps.holders 50 .owner (.inl hheld)) (by decide)

end Nexotec.Customers
