/-
What a customer merge does with phones, e-mails and addresses
(`app/customer/services/customer.py`, `_repoint_contacts`).

A row of the duplicate moves to the survivor, unless the survivor has a row with the same
identifying fields by then; that one is dropped, whether the survivor's row is usable or not.

* `repointContacts`, `mergeContacts` — one table, and the three of them.
-/
import Nexotec.Customer.ContactSessions

namespace Nexotec.Contacts

open Customers ContactSessions

/-! ### The three tables -/

inductive AddressType where
  | domicile
  | billing
  | delivery
  deriving DecidableEq

/-- The fields of an address that identify it, besides its type. -/
structure PostalAddress where
  street : String
  houseNumber : String
  postalCode : String
  country : String := "CH"
  deriving DecidableEq

/-- Addresses have no unique constraint, and nothing catches an `IntegrityError`. -/
def addressTable : ContactTable PostalAddress where
  noun := "address"
  unique := false
  refusal := fun _ => internalError "IntegrityError"

structure ContactPoints where
  phones : Table Uuid (ContactRow PhoneType String) := ∅
  emails : Table Uuid (ContactRow EmailType String) := ∅
  addresses : Table Uuid (ContactRow AddressType PostalAddress) := ∅

/-- `unique_fields` of an address. -/
def addressKey (row : ContactRow AddressType PostalAddress) : AddressType × PostalAddress :=
  (row.contactType, row.value)

section Model

variable {τ ν κ : Type} [DecidableEq τ] [DecidableEq ν] [DecidableEq κ]

def repointContacts (table : ContactTable ν) (key : ContactRow τ ν → κ) (duplicateId targetId : Uuid)
    (rows : Table Uuid (ContactRow τ ν)) : Result (Table Uuid (ContactRow τ ν)) :=
  flushPlan table targetId
    (planContacts key ((rowsOf rows targetId).map fun e => key e.2) (rowsOf rows duplicateId)) rows

end Model

/-- The contacts' part of `merge_customer`. -/
def mergeContacts (duplicateId targetId : Uuid) (contacts : ContactPoints) : Result ContactPoints := do
  let phones ← repointContacts phoneTable (·.value) duplicateId targetId contacts.phones
  let emails ← repointContacts emailTable (·.value) duplicateId targetId contacts.emails
  let addresses ← repointContacts addressTable addressKey duplicateId targetId contacts.addresses
  pure ⟨phones, emails, addresses⟩

/-- `merge_customer`: the customers and the party rows, and the contacts. -/
def mergeCustomerContacts (now : Time) (actorId : Option Uuid) (db : CustomerDb)
    (contacts : ContactPoints) (groupId duplicateId targetId : Uuid) (ifMatch : ℕ) :
    Result (CustomerDb × ContactPoints) := do
  let db ← mergeCustomer now actorId db groupId duplicateId targetId ifMatch
  let contacts ← mergeContacts duplicateId targetId contacts
  pure (db, contacts)

section Plan

variable {τ ν κ : Type} [DecidableEq κ] {key : ContactRow τ ν → κ} {id : Uuid}
  {row : ContactRow τ ν}

/-- Which rows move: the first of those with fields that the survivor does not have. -/
theorem planContacts_lookup {targetKeys : List κ} {given : List (Uuid × ContactRow τ ν)}
    (hids : (given.map Prod.fst).Nodup) (hrow : (id, row) ∈ given) :
    (planContacts key targetKeys given).lookup id =
      if key row ∉ targetKeys ∧ (given.find? fun e => key e.2 = key row).map Prod.fst = some id then
        some .move else some .drop := by
  induction given generalizing targetKeys with
  | nil => cases hrow
  | cons head given ih =>
    obtain ⟨headId, headRow⟩ := head
    rw [List.map_cons, List.nodup_cons] at hids
    rcases List.mem_cons.mp hrow with heq | hrest
    · -- the head itself
      cases heq
      have hfirst : (((id, row) :: given).find? fun e => key e.2 = key row).map Prod.fst =
          some id := by
        rw [List.find?_cons_of_pos (by simp)]
        rfl
      rw [hfirst, planContacts]
      by_cases hkey : key row ∈ targetKeys
      · rw [if_pos hkey, if_neg fun h => h.1 hkey, List.lookup_cons_self]
      · rw [if_neg hkey, if_pos ⟨hkey, rfl⟩, List.lookup_cons_self]
    · have hne : id ≠ headId := by
        rintro rfl
        exact hids.1 (List.mem_map.mpr ⟨_, hrest, rfl⟩)
      have hskip : (id == headId) = false := beq_eq_false_iff_ne.mpr hne
      by_cases hsame : key headRow = key row
      · -- a row with its fields stands before it
        have hlater : ¬ (((headId, headRow) :: given).find? fun e => key e.2 = key row).map Prod.fst =
            some id := by
          rw [List.find?_cons_of_pos (by simpa using hsame)]
          exact fun h => hne (Option.some.inj h).symm
        rw [if_neg fun h => hlater h.2, planContacts]
        split
        · next hkey =>
          rw [List.lookup_cons, hskip]
          dsimp only
          rw [ih hids.2 hrest, if_neg fun h => h.1 (hsame ▸ hkey)]
        · rw [List.lookup_cons, hskip]
          dsimp only
          rw [ih hids.2 hrest, if_neg fun h => h.1 (hsame ▸ List.mem_cons_self)]
      · have hfind : ((headId, headRow) :: given).find? (fun e => key e.2 = key row) =
            given.find? fun e => key e.2 = key row :=
          List.find?_cons_of_neg (by simpa using hsame)
        rw [hfind, planContacts]
        split
        · rw [List.lookup_cons, hskip]
          exact ih hids.2 hrest
        · rw [List.lookup_cons, hskip]
          dsimp only
          rw [ih hids.2 hrest]
          have hmem : key row ∉ key headRow :: targetKeys ↔ key row ∉ targetKeys :=
            not_congr ⟨fun h => (List.mem_cons.mp h).resolve_left fun heq => hsame heq.symm,
              List.mem_cons_of_mem _⟩
          simp only [hmem]

theorem nodup_rowsOf (rows : Table Uuid (ContactRow τ ν)) (customerId : Uuid) :
    ((rowsOf rows customerId).map Prod.fst).Nodup := by
  have hkeys : (rows.entries.map Sigma.fst).Nodup := rows.nodupKeys
  rw [rowsOf, List.map_map]
  exact hkeys.sublist (List.filter_sublist.map _)

end Plan

section Keeps

variable {τ ν κ : Type} [DecidableEq κ] (key : ContactRow τ ν → κ) (duplicateId targetId : Uuid)
  (rows rows' : Table Uuid (ContactRow τ ν))

def HasRow (customerId : Uuid) (k : κ) (p : ContactRow τ ν → Prop) : Prop :=
  ∃ id row, rows.lookup id = some row ∧ row.customerId = customerId ∧ key row = k ∧ p row

/-- **No usable contact is lost**: no row is left on the duplicate, those of the survivor are as
they were but for the primaries, and on what either could be reached the survivor can, unless
it had marked it do-not-use. -/
structure KeepsContacts : Prop where
  gone : ∀ id row, rows'.lookup id = some row → row.customerId ≠ duplicateId
  kept : ∀ id row, rows.lookup id = some row → row.customerId = targetId →
    ∃ row', rows'.lookup id = some row' ∧ row'.unflagged = row.unflagged
  reachable : ∀ id row, rows.lookup id = some row →
    row.customerId = duplicateId ∨ row.customerId = targetId → row.isUsableRow = true →
    HasRow key rows targetId (key row) (·.doNotUse = true) ∨
      HasRow key rows' targetId (key row) (·.isUsableRow = true)

/-- For each usable row of the duplicate the survivor has a row with its fields that is usable, or
do-not-use; or it has none, and the first of the duplicate's is usable. -/
def Carried : Prop :=
  ∀ id row, rows.lookup id = some row → row.customerId = duplicateId → row.isUsableRow = true →
    HasRow key rows targetId (key row) (fun row' => row'.isUsableRow = true ∨ row'.doNotUse = true) ∨
      (¬ HasRow key rows targetId (key row) fun _ => True) ∧
        ((rowsOf rows duplicateId).find? fun e => key e.2 = key row).all (·.2.isUsableRow) = true

instance (customerId : Uuid) (k : κ) (p : ContactRow τ ν → Prop) [DecidablePred p] :
    Decidable (HasRow key rows customerId k p) :=
  decidable_of_iff (∃ e ∈ rows.entries, e.2.customerId = customerId ∧ key e.2 = k ∧ p e.2)
    (Table.exists_lookup
      (p := fun _ row => row.customerId = customerId ∧ key row = k ∧ p row)).symm

instance : Decidable (Carried key duplicateId targetId rows) :=
  decidable_of_iff
    (∀ e ∈ rows.entries, e.2.customerId = duplicateId → e.2.isUsableRow = true →
      HasRow key rows targetId (key e.2) (fun row => row.isUsableRow = true ∨ row.doNotUse = true) ∨
        (¬ HasRow key rows targetId (key e.2) fun _ => True) ∧
          ((rowsOf rows duplicateId).find? fun e' => key e'.2 = key e.2).all
            (·.2.isUsableRow) = true)
    (Table.forall_lookup (p := fun _ row => row.customerId = duplicateId → row.isUsableRow = true →
      HasRow key rows targetId (key row) (fun row => row.isUsableRow = true ∨ row.doNotUse = true) ∨
        (¬ HasRow key rows targetId (key row) fun _ => True) ∧
          ((rowsOf rows duplicateId).find? fun e => key e.2 = key row).all
            (·.2.isUsableRow) = true)).symm

variable {key duplicateId targetId rows rows'} {id : Uuid} {row : ContactRow τ ν}

omit [DecidableEq κ] in
theorem mem_targetKeys {k : κ} :
    k ∈ ((rowsOf rows targetId).map fun e => key e.2) ↔ HasRow key rows targetId k fun _ => True := by
  rw [List.mem_map]
  constructor
  · rintro ⟨⟨id, row⟩, hmem, rfl⟩
    obtain ⟨hrow, hof⟩ := mem_rowsOf.mp hmem
    exact ⟨id, row, hrow, hof, rfl, trivial⟩
  · rintro ⟨id, row, hrow, hof, rfl, -⟩
    exact ⟨(id, row), mem_rowsOf.mpr ⟨hrow, hof⟩, rfl⟩

abbrev mergePlan (key : ContactRow τ ν → κ) (duplicateId targetId : Uuid)
    (rows : Table Uuid (ContactRow τ ν)) : List (Uuid × RowFate) :=
  planContacts key ((rowsOf rows targetId).map fun e => key e.2) (rowsOf rows duplicateId)

theorem repointed_other (hof : row.customerId ≠ duplicateId) (hrow : rows.lookup id = some row) :
    (repointRows targetId (mergePlan key duplicateId targetId rows) rows).lookup id = some row := by
  rw [lookup_repointRows_of_notMem, hrow]
  intro fate hmem
  obtain ⟨row', hrow'⟩ := mem_planContacts hmem
  obtain ⟨hlookup, hduplicate⟩ := mem_rowsOf.mp hrow'
  rw [hrow] at hlookup
  exact hof (Option.some.inj hlookup ▸ hduplicate)

variable (key duplicateId targetId rows) in
/-- The row moves: the survivor has none with its fields, and it is the first of the duplicate's. -/
def Goes (id : Uuid) (k : κ) : Prop :=
  (¬ HasRow key rows targetId k fun _ => True) ∧
    ((rowsOf rows duplicateId).find? fun e => key e.2 = k).map Prod.fst = some id

theorem mergePlan_lookup (hof : row.customerId = duplicateId) (hrow : rows.lookup id = some row) :
    (Goes key duplicateId targetId rows id (key row) →
      (mergePlan key duplicateId targetId rows).lookup id = some .move) ∧
    (¬ Goes key duplicateId targetId rows id (key row) →
      (mergePlan key duplicateId targetId rows).lookup id = some .drop) := by
  have hplan : (mergePlan key duplicateId targetId rows).lookup id =
      if key row ∉ ((rowsOf rows targetId).map fun e => key e.2) ∧
          ((rowsOf rows duplicateId).find? fun e => key e.2 = key row).map Prod.fst = some id then
        some .move
      else some .drop :=
    planContacts_lookup (nodup_rowsOf rows duplicateId) (mem_rowsOf.mpr ⟨hrow, hof⟩)
  rw [hplan]
  refine ⟨fun hgoes => if_pos ?_, fun hstays => if_neg fun h => hstays ?_⟩
  · exact ⟨fun hmem => hgoes.1 (mem_targetKeys.mp hmem), hgoes.2⟩
  · exact ⟨fun hhas => h.1 (mem_targetKeys.mpr hhas), h.2⟩

theorem repointed_moved (hof : row.customerId = duplicateId) (hrow : rows.lookup id = some row)
    (hgoes : Goes key duplicateId targetId rows id (key row)) :
    (repointRows targetId (mergePlan key duplicateId targetId rows) rows).lookup id =
      some { row with customerId := targetId } := by
  rw [repointRows, Table.lookup_updateAll, Table.lookup_keep,
    (mergePlan_lookup hof hrow).1 hgoes, hrow]
  rfl

theorem repointed_dropped (hof : row.customerId = duplicateId) (hrow : rows.lookup id = some row)
    (hstays : ¬ Goes key duplicateId targetId rows id (key row)) :
    (repointRows targetId (mergePlan key duplicateId targetId rows) rows).lookup id = none := by
  rw [repointRows, Table.lookup_updateAll, Table.lookup_keep,
    (mergePlan_lookup hof hrow).2 hstays, hrow]
  rfl

theorem repointed_origin
    (hrow : (repointRows targetId (mergePlan key duplicateId targetId rows) rows).lookup id = some row) :
    (rows.lookup id = some row ∧ row.customerId ≠ duplicateId) ∨
      ∃ own, rows.lookup id = some own ∧ own.customerId = duplicateId ∧
        Goes key duplicateId targetId rows id (key own) ∧ row = { own with customerId := targetId } := by
  cases hbefore : rows.lookup id with
  | none =>
    rw [repointRows, Table.lookup_updateAll, Table.lookup_keep, hbefore] at hrow
    cases hrow
  | some own =>
    by_cases hof : own.customerId = duplicateId
    · right
      by_cases hgoes : Goes key duplicateId targetId rows id (key own)
      · rw [repointed_moved hof hbefore hgoes] at hrow
        exact ⟨own, rfl, hof, hgoes, (Option.some.inj hrow).symm⟩
      · rw [repointed_dropped hof hbefore hgoes] at hrow
        cases hrow
    · left
      rw [repointed_other hof hbefore] at hrow
      cases hrow
      exact ⟨rfl, hof⟩

theorem hasUsable_iff (hkey : ∀ row customerId, key { row with customerId := customerId } = key row)
    (hne : duplicateId ≠ targetId) {k : κ} :
    HasRow key (repointRows targetId (mergePlan key duplicateId targetId rows) rows) targetId k
        (·.isUsableRow = true) ↔
      HasRow key rows targetId k (·.isUsableRow = true) ∨
      (¬ HasRow key rows targetId k fun _ => True) ∧
        ∃ first, (rowsOf rows duplicateId).find? (fun e => key e.2 = k) = some first ∧
          first.2.isUsableRow = true := by
  constructor
  · rintro ⟨id, row, hrow, hof, rfl, husable⟩
    rcases repointed_origin hrow with ⟨hbefore, -⟩ | ⟨own, hown, hduplicate, hgoes, rfl⟩
    · exact .inl ⟨id, row, hbefore, hof, rfl, husable⟩
    · right
      rw [hkey]
      obtain ⟨first, hfirst, hid⟩ := Option.map_eq_some_iff.mp hgoes.2
      refine ⟨hgoes.1, first, hfirst, ?_⟩
      obtain ⟨hlookup, -⟩ := mem_rowsOf.mp (List.mem_of_find?_eq_some hfirst)
      rw [hid, hown] at hlookup
      rw [← Option.some.inj hlookup]
      exact husable
  · rintro (⟨id, row, hrow, hof, rfl, husable⟩ | ⟨hnone, ⟨id, row⟩, hfirst, husable⟩)
    · have hother : row.customerId ≠ duplicateId := by
        rw [hof]
        exact hne.symm
      exact ⟨id, row, repointed_other hother hrow, hof, rfl, husable⟩
    · obtain ⟨hrow, hof⟩ := mem_rowsOf.mp (List.mem_of_find?_eq_some hfirst)
      have hk : key row = k := by simpa using List.find?_some hfirst
      have hgoes : Goes key duplicateId targetId rows id (key row) := by
        rw [hk]
        exact ⟨hnone, by rw [hfirst]; rfl⟩
      exact ⟨id, _, repointed_moved hof hrow hgoes, rfl, (hkey row targetId).trans hk, husable⟩

/-- The fields that identify a row are among its type and its value. -/
def ByFields (key : ContactRow τ ν → κ) : Prop :=
  ∀ row row', row'.contactType = row.contactType → row'.value = row.value → key row' = key row

omit [DecidableEq κ] in
theorem hasUsable_of_flagsOnly (hkey : ByFields key) (h : FlagsOnly rows rows') {k : κ}
    (hrow : HasRow key rows targetId k (·.isUsableRow = true)) :
    HasRow key rows' targetId k (·.isUsableRow = true) := by
  obtain ⟨id, row, hrow, hof, rfl, husable⟩ := hrow
  obtain ⟨row', hrow', hsame⟩ := h.lookup hrow
  obtain ⟨hcustomer, hlive⟩ := unflagged_eq hsame
  have htype : row'.unflagged.contactType = row.unflagged.contactType := by rw [hsame]
  have hvalue : row'.unflagged.value = row.unflagged.value := by rw [hsame]
  exact ⟨id, row', hrow', hcustomer.trans hof, hkey row row' htype hvalue, hlive.trans husable⟩

variable [DecidableEq τ] [DecidableEq ν]

theorem repoint_keeps_iff {table : ContactTable ν} (hkey : ByFields key) (hne : duplicateId ≠ targetId)
    (h : repointContacts table key duplicateId targetId rows = .ok rows') :
    KeepsContacts key duplicateId targetId rows rows' ↔ Carried key duplicateId targetId rows := by
  have hflags : FlagsOnly (repointRows targetId (mergePlan key duplicateId targetId rows) rows) rows' :=
    flushPlan_eq_ok h
  have husable : ∀ k, HasRow key rows' targetId k (·.isUsableRow = true) ↔
      HasRow key rows targetId k (·.isUsableRow = true) ∨
      (¬ HasRow key rows targetId k fun _ => True) ∧
        ∃ first, (rowsOf rows duplicateId).find? (fun e => key e.2 = k) = some first ∧
          first.2.isUsableRow = true := by
    intro k
    rw [← hasUsable_iff (fun row customerId => hkey _ _ rfl rfl) hne]
    exact ⟨hasUsable_of_flagsOnly hkey fun id => (hflags id).symm, hasUsable_of_flagsOnly hkey hflags⟩
  constructor
  · -- what is reached afterwards was carried
    intro hkeeps id row hrow hof hlive
    rcases hkeeps.reachable id row hrow (.inl hof) hlive with hbarred | hreached
    · obtain ⟨id', row', hrow', hof', hk, hbarred⟩ := hbarred
      exact .inl ⟨id', row', hrow', hof', hk, .inr hbarred⟩
    · rcases (husable _).mp hreached with ⟨id', row', hrow', hof', hk, hlive'⟩ | ⟨hnone, first, hfirst, hlive'⟩
      · exact .inl ⟨id', row', hrow', hof', hk, .inl hlive'⟩
      · refine .inr ⟨hnone, ?_⟩
        rw [hfirst]
        exact hlive'
  · intro hcarried
    refine ⟨fun id row' hrow' hof => ?_, fun id row hrow hof => ?_, fun id row hrow hof hlive => ?_⟩
    · -- what moves is no longer the duplicate's
      have hback := hflags id
      rw [hrow', Option.map_some] at hback
      obtain ⟨row, hrow, hsame⟩ := Option.map_eq_some_iff.mp hback.symm
      have hcustomer : row.customerId = duplicateId := (unflagged_eq hsame).1.trans hof
      rcases repointed_origin hrow with ⟨-, hother⟩ | ⟨own, -, -, -, rfl⟩
      · exact hother hcustomer
      · exact hne hcustomer.symm
    · have hother : row.customerId ≠ duplicateId := by
        rw [hof]
        exact hne.symm
      exact hflags.lookup (repointed_other hother hrow)
    · rcases hof with hof | hof
      · rcases hcarried id row hrow hof hlive with
          ⟨id', row', hrow', hof', hk, hlive' | hbarred⟩ | ⟨hnone, hfirst⟩
        · exact .inr ((husable _).mpr (.inl ⟨id', row', hrow', hof', hk, hlive'⟩))
        · exact .inl ⟨id', row', hrow', hof', hk, hbarred⟩
        · right
          refine (husable _).mpr (.inr ⟨hnone, ?_⟩)
          have hsome : ((rowsOf rows duplicateId).find? fun e => key e.2 = key row).isSome = true := by
            rw [List.find?_isSome]
            exact ⟨(id, row), mem_rowsOf.mpr ⟨hrow, hof⟩, by simp⟩
          obtain ⟨first, hfound⟩ := Option.isSome_iff_exists.mp hsome
          rw [hfound] at hfirst
          exact ⟨first, hfound, hfirst⟩
      · exact .inr ((husable _).mpr (.inl ⟨id, row, hrow, hof, rfl, hlive⟩))

end Keeps

/-! ### The three tables of a merge -/

def MergeKeepsContacts (duplicateId targetId : Uuid) (before after : ContactPoints) : Prop :=
  KeepsContacts (·.value) duplicateId targetId before.phones after.phones ∧
  KeepsContacts (·.value) duplicateId targetId before.emails after.emails ∧
  KeepsContacts addressKey duplicateId targetId before.addresses after.addresses

def MergeCarries (duplicateId targetId : Uuid) (before : ContactPoints) : Prop :=
  Carried (·.value) duplicateId targetId before.phones ∧
  Carried (·.value) duplicateId targetId before.emails ∧
  Carried addressKey duplicateId targetId before.addresses

theorem mergeCustomer_ne {now : Time} {actorId : Option Uuid} {db db' : CustomerDb}
    {groupId duplicateId targetId : Uuid} {ifMatch : ℕ}
    (h : mergeCustomer now actorId db groupId duplicateId targetId ifMatch = .ok db') :
    duplicateId ≠ targetId := by
  unfold mergeCustomer at h
  obtain ⟨duplicate, -, h⟩ := Result.of_bind h
  obtain ⟨_, -, h⟩ := Result.of_bind h
  split at h
  · cases h
  · next hne => exact fun heq => hne heq.symm

/-- **A successful merge loses no usable contact** just when each usable row of the duplicate is
carried. -/
theorem merge_keeps_contacts_iff {now : Time} {actorId : Option Uuid} {db db' : CustomerDb}
    {before after : ContactPoints} {groupId duplicateId targetId : Uuid} {ifMatch : ℕ}
    (h : mergeCustomerContacts now actorId db before groupId duplicateId targetId ifMatch =
      .ok (db', after)) :
    MergeKeepsContacts duplicateId targetId before after ↔ MergeCarries duplicateId targetId before := by
  obtain ⟨merged, hmerge, h⟩ := Result.of_bind h
  obtain ⟨contacts, hcontacts, h⟩ := Result.of_bind h
  obtain ⟨-, rfl⟩ := Prod.mk.inj (Except.ok.inj h)
  have hne := mergeCustomer_ne hmerge
  obtain ⟨phones, hphones, h⟩ := Result.of_bind hcontacts
  obtain ⟨emails, hemails, h⟩ := Result.of_bind h
  obtain ⟨addresses, haddresses, h⟩ := Result.of_bind h
  cases h
  have hphone := repoint_keeps_iff (fun _ _ _ hvalue => hvalue) hne hphones
  have hemail := repoint_keeps_iff (fun _ _ _ hvalue => hvalue) hne hemails
  have haddress := repoint_keeps_iff (fun _ _ htype hvalue => Prod.ext htype hvalue) hne haddresses
  exact and_congr hphone (and_congr hemail haddress)

def twoCustomers : CustomerDb where
  customers := (AList.singleton 1 { groupId := 7 } : Table Uuid CustomerRow).insert 2 { groupId := 7 }

/-- A phone of customer 1 that customer 2 does not have, and an address both have twice. -/
def ownNumber : ContactPoints where
  phones := AList.singleton 10 ⟨7, 1, .mobile, "+41791234567", true, none, false, 0⟩
  addresses := (AList.singleton 30 ⟨7, 1, .billing, ⟨"Hauptstrasse", "1", "8000", "CH"⟩, true, none, false, 0⟩ :
    Table Uuid (ContactRow AddressType PostalAddress)).insert 31
      ⟨7, 2, .billing, ⟨"Hauptstrasse", "1", "8000", "CH"⟩, true, none, false, 0⟩

theorem merge_keeps_contacts_iff_ownNumber :
    ∃ db' after, mergeCustomerContacts 9 none twoCustomers ownNumber 7 1 2 1 = .ok (db', after) ∧
      MergeKeepsContacts 1 2 ownNumber after := by
  have hmerge : mergeCustomerContacts 9 none twoCustomers ownNumber 7 1 2 1 = .ok (_, _) := rfl
  have hcarries : MergeCarries 1 2 ownNumber :=
    ⟨by decide +kernel, by decide +kernel, by decide +kernel⟩
  exact ⟨_, _, hmerge, (merge_keeps_contacts_iff hmerge).mpr hcarries⟩

/-- The phone of customer 1 is one that customer 2 once closed. -/
def closedNumber : ContactPoints where
  phones := (AList.singleton 10 ⟨7, 1, .mobile, "+41791234567", true, none, false, 0⟩ :
    Table Uuid (ContactRow PhoneType String)).insert 20
      ⟨7, 2, .mobile, "+41791234567", false, some 3, false, 0⟩

/-- A number that the survivor once closed is lost. -/
theorem closedNumber_lost :
    ∃ db' after, mergeCustomerContacts 9 none twoCustomers closedNumber 7 1 2 1 = .ok (db', after) ∧
      after.phones.lookup 10 = none ∧ ¬ MergeKeepsContacts 1 2 closedNumber after := by
  refine ⟨_, _, rfl, rfl, fun h => ?_⟩
  have hphones : repointContacts phoneTable (·.value) 1 2 closedNumber.phones = .ok _ := rfl
  have hlost : ¬ Carried (·.value) 1 2 closedNumber.phones := by decide +kernel
  exact hlost ((repoint_keeps_iff (fun _ _ _ hvalue => hvalue) (by decide) hphones).mp h.1)

end Nexotec.Contacts
