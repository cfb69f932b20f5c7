/-
One usable primary for each type, over every sequence of requests
(`app/customer/services/customer.py`, `app/customer/schemas/customer.py`).

A book has the customers and their phones, e-mails and addresses.  A request that is refused
leaves it as it is.

* `perform_settled`, `perform_stands` — what one request does to the groups.
-/
import Nexotec.Customer.PrimaryFlags

namespace Nexotec.SinglePrimary

open Contacts Customers ContactSessions

/-! ### The three models -/

inductive Model where
  | phone
  | email
  | address
  deriving DecidableEq

abbrev Model.Kind : Model → Type
  | .phone => PhoneType
  | .email => EmailType
  | .address => AddressType

abbrev Model.Value : Model → Type
  | .phone => String
  | .email => String
  | .address => PostalAddress

instance : ∀ m : Model, DecidableEq m.Kind
  | .phone => inferInstanceAs (DecidableEq PhoneType)
  | .email => inferInstanceAs (DecidableEq EmailType)
  | .address => inferInstanceAs (DecidableEq AddressType)

instance : ∀ m : Model, DecidableEq m.Value
  | .phone => inferInstanceAs (DecidableEq String)
  | .email => inferInstanceAs (DecidableEq String)
  | .address => inferInstanceAs (DecidableEq PostalAddress)

abbrev Model.Row (m : Model) : Type := ContactRow m.Kind m.Value

def Model.table : ∀ m : Model, ContactTable m.Value
  | .phone => phoneTable
  | .email => emailTable
  | .address => addressTable

def Model.entity : Model → String
  | .phone => "CustomerPhone"
  | .email => "CustomerEmail"
  | .address => "CustomerAddress"

def rowsIn (contacts : ContactPoints) : ∀ m : Model, Table Uuid m.Row
  | .phone => contacts.phones
  | .email => contacts.emails
  | .address => contacts.addresses

def setRows (contacts : ContactPoints) : ∀ m : Model, Table Uuid m.Row → ContactPoints
  | .phone, rows => { contacts with phones := rows }
  | .email, rows => { contacts with emails := rows }
  | .address, rows => { contacts with addresses := rows }

/-! ### Requests -/

/-- A PATCH of an address names its fields one by one. -/
structure AddressUpdate where
  contactType : Option (Option AddressType) := none
  street : Option (Option String) := none
  houseNumber : Option (Option String) := none
  postalCode : Option (Option String) := none
  country : Option (Option String) := none
  isPrimary : Option (Option Bool) := none
  validTo : Option (Option Time) := none
  doNotUse : Option (Option Bool) := none

/-- The fields of the address as the PATCH leaves them, if it names any; a `null` is kept. -/
def AddressUpdate.value (data : AddressUpdate) (loaded : PostalAddress) :
    Option (Option PostalAddress) :=
  if data.street.isNone && data.houseNumber.isNone && data.postalCode.isNone && data.country.isNone then
    none
  else
    some (do
      pure {
        street := ← data.street.getD (some loaded.street)
        houseNumber := ← data.houseNumber.getD (some loaded.houseNumber)
        postalCode := ← data.postalCode.getD (some loaded.postalCode)
        country := ← data.country.getD (some loaded.country) })

abbrev Model.Update : Model → Type
  | .phone => ContactUpdate PhoneType String
  | .email => ContactUpdate EmailType String
  | .address => AddressUpdate

def Model.on : ∀ m : Model, m.Update → m.Row → ContactUpdate m.Kind m.Value
  | .phone, data, _ => data
  | .email, data, _ => data
  | .address, data, loaded => {
      contactType := data.contactType
      value := data.value loaded.value
      isPrimary := data.isPrimary
      validTo := data.validTo
      doNotUse := data.doNotUse }

/-- `_at_most_one_primary`: no type is counted twice. -/
def OneEach {τ ν : Type} (items : List (ContactCreate τ ν)) : Prop :=
  ((items.filter (·.isPrimary)).map (·.contactType)).Nodup

/-- `CustomerCreate` with its addresses. -/
structure NewCustomer extends CustomerCreate where
  addresses : List (ContactCreate AddressType PostalAddress) := []
  onePrimary : OneEach phones ∧ OneEach emails ∧ OneEach addresses

def NewCustomer.items (data : NewCustomer) : ∀ m : Model, List (ContactCreate m.Kind m.Value)
  | .phone => data.phones
  | .email => data.emails
  | .address => data.addresses

structure Book where
  db : CustomerDb := {}
  contacts : ContactPoints := {}

/-- The requests, with the time and the ids that are drawn for them. -/
inductive Request where
  | createCustomer (now : Time) (groupId customerId : Uuid) (ids : Model → List Uuid)
      (data : NewCustomer)
  | create (now : Time) (m : Model) (groupId customerId id : Uuid)
      (data : ContactCreate m.Kind m.Value)
  | update (m : Model) (groupId customerId id : Uuid) (data : m.Update)
  | delete (m : Model) (groupId customerId id : Uuid)
  | merge (now : Time) (actorId : Option Uuid) (groupId duplicateId targetId : Uuid) (ifMatch : ℕ)

/-! ### What is checked -/

/-- `get_customer_phone_or_404` and its kin. -/
def getContactOr404 (m : Model) (contacts : ContactPoints) (groupId customerId id : Uuid) :
    Result m.Row := do
  let row ← orNotFound (((rowsIn contacts m).lookup id).filter (·.groupId = groupId))
    s!"{m.entity} {id} was not found."
  if row.customerId = customerId then pure row
  else .error (notFoundError s!"{m.entity} {id} was not found.")

/-- `_assert_not_last_contact_point` where a usable row `goes`; addresses have no such floor. -/
def guardLast (contacts : ContactPoints) (customerId id : Uuid) (goes : Bool) : Model → Result Unit
  | .phone =>
    if goes then
      assertNotLastContactPoint (usableCount contacts.phones customerId id)
        (usableCount contacts.emails customerId id) "phone number"
    else .ok ()
  | .email =>
    if goes then
      assertNotLastContactPoint (usableCount contacts.phones customerId id)
        (usableCount contacts.emails customerId id) "email address"
    else .ok ()
  | .address => .ok ()

def validateCountryCodes (isCountry : String → Bool) (values : List (String × String)) : Result Unit :=
  match values.filter fun entry => !isCountry entry.2 with
  | [] => .ok ()
  | invalid => .error (unprocessableEntityError
      ("Not a valid country code: " ++
        ", ".intercalate (invalid.map fun entry => entry.1 ++ "=" ++ entry.2) ++
        ". Expected an ISO 3166-1 alpha-2 code that is present and active in the 'country' " ++
        "reference list (for example 'CH', 'DE', 'FR').") invalid)

def createdCountries : ∀ m : Model, ContactCreate m.Kind m.Value → List (String × String)
  | .address, data => [("addressCountry", data.value.country)]
  | _, _ => []

def updatedCountries : ∀ m : Model, m.Update → List (String × String)
  | .address, data => data.country.join.toList.map fun code => ("addressCountry", code)
  | _, _ => []

def NewCustomer.countries (data : NewCustomer) : List (String × String) :=
  (match data.columns .nationality with
    | .text code => [("nationality", code)]
    | _ => []) ++
  data.addresses.zipIdx.map fun entry => (s!"addresses[{entry.2}].addressCountry", entry.1.value.country)

/-- The drawn ids are new: nothing has, or names, one of them. -/
def unused (book : Book) (customerId : Uuid) (ids : Model → List Uuid) (data : NewCustomer) : Prop :=
  (book.db.customers.lookup customerId).isNone ∧
    ∀ m ∈ [Model.phone, .email, .address],
      (ids m).length = (data.items m).length ∧ (ids m).Nodup ∧
      (∀ id ∈ ids m, ((rowsIn book.contacts m).lookup id).isNone) ∧
      ∀ e ∈ (rowsIn book.contacts m).entries, e.2.customerId ≠ customerId

instance (book : Book) (customerId : Uuid) (ids : Model → List Uuid) (data : NewCustomer) :
    Decidable (unused book customerId ids data) :=
  inferInstanceAs (Decidable (_ ∧ ∀ m ∈ [Model.phone, .email, .address], _ ∧ _ ∧ (∀ _ ∈ _, _) ∧ ∀ _ ∈ _, _))

/-! ### What is done -/

/-- The contacts of a new customer (`_add_contacts`). -/
def addContacts (now : Time) (groupId customerId : Uuid) (ids : Model → List Uuid) (data : NewCustomer)
    (contacts : ContactPoints) : ContactPoints where
  phones := contacts.phones.insertAll (newContacts now groupId customerId (ids .phone) data.phones)
  emails := contacts.emails.insertAll (newContacts now groupId customerId (ids .email) data.emails)
  addresses := contacts.addresses.insertAll
    (newContacts now groupId customerId (ids .address) data.addresses)

def NewCustomer.row (data : NewCustomer) (groupId : Uuid) : CustomerRow where
  groupId := groupId
  customerType := data.customerType
  lifecycleStatus := data.lifecycleStatus
  columns := data.columns

/-- Creating a customer with its contacts, creating, changing and deleting a contact, and merging two
customers. -/
def perform (isCountry : String → Bool) (book : Book) : Request → Result Book
  | .createCustomer now groupId customerId ids data => do
    validateCountryCodes isCountry data.countries
    if unused book customerId ids data then
      let customers := book.db.customers.insert customerId (data.row groupId)
      pure ⟨{ book.db with customers := customers },
        addContacts now groupId customerId ids data book.contacts⟩
    else .error (internalError "duplicate key")
  | .create now m groupId customerId id data => do
    let _ ← getCustomerOr404 book.db.customers groupId customerId
    validateCountryCodes isCountry (createdCountries m data)
    if ((rowsIn book.contacts m).lookup id).isSome then .error (internalError "duplicate key")
    else
      let rows ← createContact m.table (rowsIn book.contacts m) now groupId customerId id data
      pure { book with contacts := setRows book.contacts m rows }
  | .update m groupId customerId id data => do
    let loaded ← getContactOr404 m book.contacts groupId customerId id
    validateCountryCodes isCountry (updatedCountries m data)
    guardLast book.contacts customerId id
      (loaded.isUsableRow && (m.on data loaded).becomesUnusable loaded) m
    let rows ← updateContact m.table (rowsIn book.contacts m) id loaded (m.on data loaded)
    pure { book with contacts := setRows book.contacts m rows }
  | .delete m groupId customerId id => do
    let loaded ← getContactOr404 m book.contacts groupId customerId id
    guardLast book.contacts customerId id loaded.isUsableRow m
    let rows := deleteContact (rowsIn book.contacts m) id loaded
    pure { book with contacts := setRows book.contacts m rows }
  | .merge now actorId groupId duplicateId targetId ifMatch => do
    let (db, contacts) ← mergeCustomerContacts now actorId book.db book.contacts groupId duplicateId
      targetId ifMatch
    pure ⟨db, contacts⟩

def next (isCountry : String → Bool) (book : Book) (request : Request) : Book :=
  match perform isCountry book request with
  | .ok book => book
  | .error _ => book

section New

variable {τ ν : Type} [DecidableEq τ] {items : List (ContactCreate τ ν)} {now : Time}
  {groupId customerId : Uuid} {ids : List Uuid}

/-- An entry says it is the primary, or is the first of a type for which none does. -/
def flagged (items : List (ContactCreate τ ν)) (item : ContactCreate τ ν) (i : ℕ) : Bool :=
  item.isPrimary ||
    (!(items.any fun other => other.contactType = item.contactType && other.isPrimary) &&
      (items.findIdx fun other => other.contactType = item.contactType) = i)

variable {id : Uuid}

theorem mem_newContacts_iff {row : ContactRow τ ν} :
    (id, row) ∈ newContacts now groupId customerId ids items ↔
      ∃ (i : ℕ) (item : ContactCreate τ ν), ids[i]? = some id ∧ items[i]? = some item ∧
        row = item.row now groupId customerId (flagged items item i) := by
  rw [List.mem_iff_getElem?]
  refine exists_congr fun i => ?_
  rw [newContacts, List.getElem?_zip_eq_some, List.getElem?_map, Option.map_eq_some_iff]
  constructor
  · rintro ⟨hid, ⟨item, flag⟩, hentry, hrow⟩
    obtain ⟨hitem, hflag⟩ := List.getElem?_zip_eq_some.mp hentry
    dsimp only at hitem hflag
    rw [defaultPrimaryFlags, List.getElem?_map, List.getElem?_zipIdx, hitem] at hflag
    cases hflag
    refine ⟨item, hid, hitem, hrow.symm.trans ?_⟩
    simp [flagged]
  · rintro ⟨item, hid, hitem, rfl⟩
    refine ⟨hid, (item, !(items.any fun other => other.contactType = item.contactType && other.isPrimary)
      && (items.findIdx fun other => other.contactType = item.contactType) = i),
      List.getElem?_zip_eq_some.mpr ⟨hitem, ?_⟩, rfl⟩
    dsimp only
    rw [defaultPrimaryFlags, List.getElem?_map, List.getElem?_zipIdx, hitem]
    simp

theorem flagged_unique (hone : OneEach items) {i : ℕ} {item : ContactCreate τ ν}
    (hitem : items[i]? = some item) :
    ∃ j first, items[j]? = some first ∧ first.contactType = item.contactType ∧
      flagged items first j = true ∧
      ∀ k other, items[k]? = some other → other.contactType = item.contactType →
        flagged items other k = true → k = j := by
  by_cases hany : (items.any fun other => other.contactType = item.contactType && other.isPrimary) =
      true
  · -- one says so, and no other does
    obtain ⟨first, hmem, hfirst⟩ := List.any_eq_true.mp hany
    obtain ⟨htype, hprimary⟩ : first.contactType = item.contactType ∧ first.isPrimary = true := by
      simpa using hfirst
    obtain ⟨j, hj⟩ := List.mem_iff_getElem?.mp hmem
    refine ⟨j, first, hj, htype, by simp [flagged, hprimary], fun k other hk hsame hflag => ?_⟩
    have hsays : other.isPrimary = true := by
      unfold flagged at hflag
      rw [hsame, hany] at hflag
      simpa using hflag
    have hpairs : items.Pairwise fun a b => a.isPrimary = true → b.isPrimary = true →
        a.contactType ≠ b.contactType :=
      List.pairwise_filter.mp (List.pairwise_map.mp hone)
    obtain ⟨hjlt, rfl⟩ := List.getElem?_eq_some_iff.mp hj
    obtain ⟨hklt, rfl⟩ := List.getElem?_eq_some_iff.mp hk
    have hdistinct := List.pairwise_iff_getElem.mp hpairs
    rcases Nat.lt_trichotomy k j with hlt | heq | hlt
    · exact absurd (hsame.trans htype.symm) (hdistinct k j hklt hjlt hlt hsays hprimary)
    · exact heq
    · exact absurd (htype.trans hsame.symm) (hdistinct j k hjlt hklt hlt hprimary hsays)
  · -- nobody says so, and the first of the type is it
    have hnone : (items.any fun other => other.contactType = item.contactType && other.isPrimary) =
        false := Bool.eq_false_iff.mpr hany
    have hmem : item ∈ items := List.mem_of_getElem? hitem
    have hlt : (items.findIdx fun other => other.contactType = item.contactType) < items.length :=
      List.findIdx_lt_length_of_exists ⟨item, hmem, by simp⟩
    have htype : items[items.findIdx fun other => other.contactType = item.contactType].contactType =
        item.contactType := by
      have hfound := List.findIdx_getElem (w := hlt)
      simpa using hfound
    refine ⟨_, _, List.getElem?_eq_getElem hlt, htype, ?_, fun k other hk hsame hflag => ?_⟩
    · unfold flagged
      rw [htype, hnone]
      simp
    · have hquiet : other.isPrimary = false := by
        rw [List.any_eq_false] at hnone
        have hother := hnone other (List.mem_of_getElem? hk)
        simpa [hsame] using hother
      unfold flagged at hflag
      rw [hsame, hnone, hquiet] at hflag
      have hk : (items.findIdx fun other => other.contactType = item.contactType) = k := by
        simpa using hflag
      exact hk.symm

theorem keys_newContacts (hlength : ids.length = items.length) :
    (newContacts now groupId customerId ids items).map Prod.fst = ids := by
  rw [newContacts, List.map_fst_zip]
  simp [defaultPrimaryFlags, hlength]

variable {rows : Table Uuid (ContactRow τ ν)} {customerId' : Uuid} {typeValue : τ}

theorem stands_newContacts {flag usable : Bool} (hlength : ids.length = items.length)
    (hnodup : ids.Nodup) (hfresh : ∀ id ∈ ids, rows.lookup id = none) :
    Stands (rows.insertAll (newContacts now groupId customerId ids items)) customerId' typeValue id
        flag usable ↔ (∃ row, (id, row) ∈ newContacts now groupId customerId ids items ∧
        row.inGroup customerId' typeValue = true ∧ row.isPrimary = flag ∧ row.isUsableRow = usable) ∨
      Stands rows customerId' typeValue id flag usable := by
  have hkeys : (newContacts now groupId customerId ids items).map Prod.fst = ids :=
    keys_newContacts hlength
  have hdistinct : ((newContacts now groupId customerId ids items).map Prod.fst).Nodup := by
    rw [hkeys]
    exact hnodup
  constructor
  · rintro ⟨row, hrow, hrest⟩
    rcases Table.lookup_insertAll_cases hrow with hmem | ⟨-, hold⟩
    · exact .inl ⟨row, hmem, hrest⟩
    · exact .inr ⟨row, hold, hrest⟩
  · rintro (⟨row, hmem, hrest⟩ | ⟨row, hrow, hrest⟩)
    · exact ⟨row, Table.lookup_insertAll_of_mem hdistinct hmem, hrest⟩
    · refine ⟨row, (Table.lookup_insertAll_of_notMem fun hmem => ?_).trans hrow, hrest⟩
      rw [hkeys] at hmem
      rw [hfresh id hmem] at hrow
      cases hrow

/-- A new customer has one primary for each of its types. -/
theorem settled_newContacts (hone : OneEach items) (hlength : ids.length = items.length)
    (hnodup : ids.Nodup) (hfresh : ∀ id ∈ ids, rows.lookup id = none)
    (hnew : ∀ id row, rows.lookup id = some row → row.customerId ≠ customerId)
    (hsettled : ∀ customerId typeValue, Settled rows customerId typeValue) :
    Settled (rows.insertAll (newContacts now groupId customerId ids items)) customerId' typeValue := by
  by_cases hcustomer : customerId' = customerId
  · subst hcustomer
    have hstands : ∀ id flag usable,
        Stands (rows.insertAll (newContacts now groupId customerId' ids items)) customerId' typeValue id
          flag usable ↔
        ∃ (i : ℕ) (item : ContactCreate τ ν), ids[i]? = some id ∧ items[i]? = some item ∧
          item.contactType = typeValue ∧ flagged items item i = flag ∧ usable = true := by
      intro id flag usable
      rw [stands_newContacts hlength hnodup hfresh]
      constructor
      · rintro (⟨row, hmem, hin, hflag, husable⟩ | ⟨row, hrow, hin, -⟩)
        · obtain ⟨i, item, hid, hitem, rfl⟩ := mem_newContacts_iff.mp hmem
          exact ⟨i, item, hid, hitem, (row_inGroup.mp hin).2, hflag, husable.symm⟩
        · exact absurd (inGroup_iff.mp hin).1 (hnew id row hrow)
      · rintro ⟨i, item, hid, hitem, htype, hflag, rfl⟩
        exact .inl ⟨_, mem_newContacts_iff.mpr ⟨i, item, hid, hitem, rfl⟩,
          row_inGroup.mpr ⟨rfl, htype⟩, hflag, rfl⟩
    refine ⟨fun id hdead => ?_, ?_⟩
    · obtain ⟨i, item, -, -, -, -, hfalse⟩ := (hstands _ _ _).mp hdead
      cases hfalse
    · rintro ⟨id, flag, husable⟩
      obtain ⟨i, item, -, hitem, rfl, -⟩ := (hstands _ _ _).mp husable
      obtain ⟨j, first, hj, htype, hflag, honly⟩ := flagged_unique hone hitem
      have hjlt : j < ids.length := by
        rw [hlength]
        exact (List.getElem?_eq_some_iff.mp hj).1
      have hid : ids[j]? = some ids[j] := List.getElem?_eq_getElem hjlt
      refine ⟨ids[j], (hstands _ _ _).mpr ⟨j, first, hid, hj, htype, hflag, rfl⟩, fun other hother => ?_⟩
      obtain ⟨k, item', hk, hitem', htype', hflag', -⟩ := (hstands _ _ _).mp hother
      obtain rfl := honly k item' hitem' htype' hflag'
      rw [hid] at hk
      exact (Option.some.inj hk).symm
  · refine SameGroup.settled (fun id flag usable => ?_) (hsettled _ _)
    rw [stands_newContacts hlength hnodup hfresh]
    refine or_iff_right ?_
    rintro ⟨row, hmem, hin, -⟩
    obtain ⟨i, item, -, -, rfl⟩ := mem_newContacts_iff.mp hmem
    exact hcustomer (row_inGroup.mp hin).1.symm

end New

/-! ### One request -/

theorem rowsIn_setRows (contacts : ContactPoints) (m : Model) (rows : Table Uuid m.Row) :
    rowsIn (setRows contacts m rows) m = rows := by
  cases m <;> rfl

variable {contacts : ContactPoints} {m m' : Model} {rows : Table Uuid m.Row}

theorem rowsIn_setRows_ne (hne : m' ≠ m) :
    rowsIn (setRows contacts m rows) m' = rowsIn contacts m' := by
  cases m <;> cases m' <;> first | rfl | exact absurd rfl hne

theorem rowsIn_addContacts (now : Time) (groupId customerId : Uuid) (ids : Model → List Uuid)
    (data : NewCustomer) (contacts : ContactPoints) (m : Model) :
    rowsIn (addContacts now groupId customerId ids data contacts) m =
      (rowsIn contacts m).insertAll (newContacts now groupId customerId (ids m) (data.items m)) := by
  cases m <;> rfl

theorem NewCustomer.oneEach (data : NewCustomer) : ∀ m : Model, OneEach (data.items m)
  | .phone => data.onePrimary.1
  | .email => data.onePrimary.2.1
  | .address => data.onePrimary.2.2

theorem Model.mem_all (m : Model) : m ∈ [Model.phone, .email, .address] := by
  cases m <;> decide

variable {customerId id : Uuid}

theorem getContact_ok {groupId : Uuid} {row : m.Row}
    (h : getContactOr404 m contacts groupId customerId id = .ok row) :
    (rowsIn contacts m).lookup id = some row ∧ row.customerId = customerId := by
  unfold getContactOr404 at h
  obtain ⟨found, hfound, h⟩ := Result.of_bind h
  obtain ⟨hlookup, -⟩ := Option.filter_eq_some_iff.mp (orNotFound_eq_ok.mp hfound)
  split at h
  · next howner =>
    cases h
    exact ⟨hlookup, howner⟩
  · cases h

/-- The request may move the flag away from the row: it names another row of the type as the
primary, changes the row itself, or is a merge. -/
def MayMove (contacts : ContactPoints) (m : Model) (customerId : Uuid) (typeValue : m.Kind)
    (id : Uuid) : Request → Prop
  | .createCustomer .. => False
  | .create _ m' _ customerId' _ data =>
    data.isPrimary = true ∧ customerId = customerId' ∧
      (⟨m, typeValue⟩ : Σ m : Model, m.Kind) = ⟨m', data.contactType⟩
  | .update m' _ _ id' data =>
    (m = m' ∧ id = id') ∨
      ∃ loaded, (rowsIn contacts m').lookup id' = some loaded ∧
        (m'.on data loaded).isPrimary.join = some true ∧ customerId = loaded.customerId ∧
        (⟨m, typeValue⟩ : Σ m : Model, m.Kind) = ⟨m', (m'.on data loaded).newType loaded⟩
  | .delete m' _ _ id' => m = m' ∧ id = id'
  | .merge .. => True

def AllSettled (contacts : ContactPoints) : Prop :=
  ∀ (m : Model) (customerId : Uuid) (typeValue : m.Kind), Settled (rowsIn contacts m) customerId typeValue

theorem allSettled_setRows (hsettled : AllSettled contacts)
    (h : ∀ customerId typeValue, Settled rows customerId typeValue) :
    AllSettled (setRows contacts m rows) := by
  intro m' customerId typeValue
  by_cases hm : m' = m
  · subst hm
    rw [rowsIn_setRows]
    exact h customerId typeValue
  · rw [rowsIn_setRows_ne hm]
    exact hsettled m' customerId typeValue

variable {typeValue : m.Kind}

theorem stands_setRows {rows : Table Uuid m'.Row}
    (hstands : Stands (rowsIn contacts m) customerId typeValue id true true)
    (h : ∀ heq : m = m', Stands rows customerId (heq ▸ typeValue) id true true) :
    Stands (rowsIn (setRows contacts m' rows) m) customerId typeValue id true true := by
  by_cases hm : m = m'
  · subst hm
    rw [rowsIn_setRows]
    exact h rfl
  · rw [rowsIn_setRows_ne hm]
    exact hstands

variable {book : Book} {isCountry : String → Bool} {book' : Book} {request : Request}

theorem perform_settled (hsettled : AllSettled book.contacts)
    (h : perform isCountry book request = .ok book') : AllSettled book'.contacts := by
  cases request with
  | createCustomer now groupId customerId ids data =>
    obtain ⟨-, -, h⟩ := Result.of_bind h
    split at h
    · next hunused =>
      cases h
      intro m customerId' typeValue
      obtain ⟨hlength, hnodup, hfresh, hnobody⟩ := hunused.2 m m.mem_all
      dsimp only
      rw [rowsIn_addContacts]
      refine settled_newContacts (data.oneEach m) hlength hnodup
        (fun id hid => Option.isNone_iff_eq_none.mp (hfresh id hid)) (fun id row hrow => ?_) (hsettled m)
      exact hnobody ⟨id, row⟩ (Table.lookup_eq_some_iff_mem.mp hrow)
    · cases h
  | create now m groupId customerId id data =>
    obtain ⟨-, -, h⟩ := Result.of_bind h
    obtain ⟨-, -, h⟩ := Result.of_bind h
    split at h
    · cases h
    · next hid =>
      obtain ⟨rows, hrows, h⟩ := Result.of_bind h
      cases h
      have hfresh : (rowsIn book.contacts m).lookup id = none := by simpa using hid
      exact allSettled_setRows hsettled fun _ _ => settled_create hfresh (hsettled m) hrows
  | update m groupId customerId id data =>
    obtain ⟨loaded, hloaded, h⟩ := Result.of_bind h
    obtain ⟨-, -, h⟩ := Result.of_bind h
    obtain ⟨-, -, h⟩ := Result.of_bind h
    obtain ⟨rows, hrows, h⟩ := Result.of_bind h
    cases h
    exact allSettled_setRows hsettled fun _ _ =>
      settled_update (getContact_ok hloaded).1 (hsettled m) hrows
  | delete m groupId customerId id =>
    obtain ⟨loaded, hloaded, h⟩ := Result.of_bind h
    obtain ⟨-, -, h⟩ := Result.of_bind h
    cases h
    exact allSettled_setRows hsettled fun _ _ => settled_delete (getContact_ok hloaded).1 (hsettled m)
  | merge now actorId groupId duplicateId targetId ifMatch =>
    obtain ⟨⟨db, contacts⟩, hmerge, h⟩ := Result.of_bind h
    cases h
    obtain ⟨merged, hcustomers, hmerge⟩ := Result.of_bind hmerge
    obtain ⟨after, hcontacts, hmerge⟩ := Result.of_bind hmerge
    obtain ⟨-, rfl⟩ := Prod.mk.inj (Except.ok.inj hmerge)
    have hne := mergeCustomer_ne hcustomers
    obtain ⟨phones, hphones, hcontacts⟩ := Result.of_bind hcontacts
    obtain ⟨emails, hemails, hcontacts⟩ := Result.of_bind hcontacts
    obtain ⟨addresses, haddresses, hcontacts⟩ := Result.of_bind hcontacts
    cases hcontacts
    intro m customerId typeValue
    cases m with
    | phone => exact settled_repoint hne (hsettled .phone) hphones
    | email => exact settled_repoint hne (hsettled .email) hemails
    | address => exact settled_repoint hne (hsettled .address) haddresses

theorem perform_stands (hsettled : AllSettled book.contacts)
    (hstands : Stands (rowsIn book.contacts m) customerId typeValue id true true)
    (hmay : ¬ MayMove book.contacts m customerId typeValue id request)
    (h : perform isCountry book request = .ok book') :
    Stands (rowsIn book'.contacts m) customerId typeValue id true true := by
  cases request with
  | createCustomer now groupId customerId' ids data =>
    obtain ⟨-, -, h⟩ := Result.of_bind h
    split at h
    · next hunused =>
      cases h
      obtain ⟨hlength, hnodup, hfresh, -⟩ := hunused.2 m m.mem_all
      dsimp only
      rw [rowsIn_addContacts]
      exact (stands_newContacts hlength hnodup
        fun id hid => Option.isNone_iff_eq_none.mp (hfresh id hid)).mpr (.inr hstands)
    · cases h
  | create now m' groupId customerId' id' data =>
    obtain ⟨-, -, h⟩ := Result.of_bind h
    obtain ⟨-, -, h⟩ := Result.of_bind h
    split at h
    · cases h
    · next hid =>
      obtain ⟨rows, hrows, h⟩ := Result.of_bind h
      cases h
      refine stands_setRows hstands fun hm => ?_
      subst hm
      refine create_stands (by simpa using hid) hrows hstands ?_
      rintro ⟨hprimary, rfl, rfl⟩
      exact hmay ⟨hprimary, rfl, rfl⟩
  | update m' groupId customerId' id' data =>
    obtain ⟨loaded, hloaded, h⟩ := Result.of_bind h
    obtain ⟨-, -, h⟩ := Result.of_bind h
    obtain ⟨-, -, h⟩ := Result.of_bind h
    obtain ⟨rows, hrows, h⟩ := Result.of_bind h
    cases h
    have hrow := (getContact_ok hloaded).1
    refine stands_setRows hstands fun hm => ?_
    subst hm
    refine update_stands hrow (hsettled m) hrows (fun hid => hmay (.inl ⟨rfl, hid⟩)) hstands ?_
    rintro ⟨hprimary, rfl, rfl⟩
    exact hmay (.inr ⟨loaded, hrow, hprimary, rfl, rfl⟩)
  | delete m' groupId customerId' id' =>
    obtain ⟨loaded, hloaded, h⟩ := Result.of_bind h
    obtain ⟨-, -, h⟩ := Result.of_bind h
    cases h
    refine stands_setRows hstands fun hm => ?_
    subst hm
    exact delete_stands (hsettled m) (fun hid => hmay ⟨rfl, hid⟩) hstands
  | merge now actorId groupId duplicateId targetId ifMatch => exact absurd trivial hmay

/-! ### Every sequence of requests -/

theorem allSettled_empty : AllSettled {} := by
  intro m customerId typeValue
  refine settled_of_empty ?_
  rintro id flag usable ⟨row, hrow, -⟩
  cases m <;> cases hrow

theorem next_settled (isCountry : String → Bool) (request : Request)
    (hsettled : AllSettled book.contacts) : AllSettled (next isCountry book request).contacts := by
  unfold next
  split
  · next heq => exact perform_settled hsettled heq
  · exact hsettled

theorem run_settled (isCountry : String → Bool) (requests : List Request)
    (hsettled : AllSettled book.contacts) :
    AllSettled (requests.foldl (next isCountry) book).contacts := by
  induction requests generalizing book with
  | nil => exact hsettled
  | cons request requests ih => exact ih (next_settled isCountry request hsettled)

/-- What a group is like: a row that is closed or marked do-not-use is not primary; one row is
primary if one is usable, and none is otherwise. -/
structure OnePrimary {τ ν : Type} [DecidableEq τ] (rows : Table Uuid (ContactRow τ ν))
    (customerId : Uuid) (typeValue : τ) : Prop where
  unusable : ∀ id row, rows.lookup id = some row → row.customerId = customerId →
    row.contactType = typeValue → row.validTo.isSome = true ∨ row.doNotUse = true → row.isPrimary = false
  one : (∃ id row, rows.lookup id = some row ∧ row.customerId = customerId ∧
      row.contactType = typeValue ∧ row.validTo = none ∧ row.doNotUse = false) →
    ∃! id, ∃ row, rows.lookup id = some row ∧ row.customerId = customerId ∧
      row.contactType = typeValue ∧ row.isPrimary = true
  none : (∀ id row, rows.lookup id = some row → row.customerId = customerId →
      row.contactType = typeValue → row.validTo.isSome = true ∨ row.doNotUse = true) →
    ∀ id row, rows.lookup id = some row → row.customerId = customerId →
      row.contactType = typeValue → row.isPrimary = false

theorem usable_iff {τ ν : Type} {row : ContactRow τ ν} :
    row.isUsableRow = true ↔ row.validTo = none ∧ row.doNotUse = false := by
  simp [ContactRow.isUsableRow]

theorem onePrimary_of_settled {τ ν : Type} [DecidableEq τ] {rows : Table Uuid (ContactRow τ ν)}
    {typeValue : τ} (h : Settled rows customerId typeValue) :
    OnePrimary rows customerId typeValue := by
  have hunusable : ∀ id row, rows.lookup id = some row → row.customerId = customerId →
      row.contactType = typeValue → row.validTo.isSome = true ∨ row.doNotUse = true →
      row.isPrimary = false := by
    intro id row hrow hcustomer htype hdead
    have husable : row.isUsableRow = false := by
      rw [Bool.eq_false_iff, Ne, usable_iff]
      rintro ⟨hopen, hmark⟩
      rw [hopen, hmark] at hdead
      simp at hdead
    rw [Bool.eq_false_iff]
    exact fun hprimary => h.dead id ⟨row, hrow, inGroup_iff.mpr ⟨hcustomer, htype⟩, hprimary, husable⟩
  refine ⟨hunusable, ?_, fun hall id row hrow hcustomer htype =>
    hunusable id row hrow hcustomer htype (hall id row hrow hcustomer htype)⟩
  rintro ⟨id, row, hrow, hcustomer, htype, hopen, hmark⟩
  obtain ⟨primary, ⟨row', hrow', hin, hprimary, -⟩, hone⟩ := h.one
    ⟨id, row.isPrimary, row, hrow, inGroup_iff.mpr ⟨hcustomer, htype⟩, rfl,
      usable_iff.mpr ⟨hopen, hmark⟩⟩
  obtain ⟨hcustomer', htype'⟩ := inGroup_iff.mp hin
  refine ⟨primary, ⟨row', hrow', hcustomer', htype', hprimary⟩, ?_⟩
  rintro other ⟨row'', hrow'', hcustomer'', htype'', hprimary''⟩
  have hin'' := inGroup_iff.mpr ⟨hcustomer'', htype''⟩
  refine hone other ⟨row'', hrow'', hin'', hprimary'', ?_⟩
  by_contra hdead
  exact h.dead other ⟨row'', hrow'', hin'', hprimary'', Bool.eq_false_iff.mpr hdead⟩

/-- **One usable primary for each customer and type**, after every sequence of requests; and the
next request leaves a usable primary its flag, unless it names another row of that type as the
primary, changes the row itself, or is a merge. -/
theorem single_primary (isCountry : String → Bool) (requests : List Request) (m : Model)
    (customerId : Uuid) (typeValue : m.Kind) :
    OnePrimary (rowsIn (requests.foldl (next isCountry) {}).contacts m) customerId typeValue ∧
    ∀ (request : Request) (id : Uuid),
      (∃ row, (rowsIn (requests.foldl (next isCountry) {}).contacts m).lookup id = some row ∧
        row.customerId = customerId ∧ row.contactType = typeValue ∧ row.isPrimary = true ∧
        row.validTo = none ∧ row.doNotUse = false) →
      MayMove (requests.foldl (next isCountry) {}).contacts m customerId typeValue id request ∨
      ∃ row, (rowsIn (next isCountry (requests.foldl (next isCountry) {}) request).contacts m).lookup
          id = some row ∧
        row.customerId = customerId ∧ row.contactType = typeValue ∧ row.isPrimary = true := by
  have hsettled : AllSettled (requests.foldl (next isCountry) {}).contacts :=
    run_settled isCountry requests allSettled_empty
  refine ⟨onePrimary_of_settled (hsettled m customerId typeValue), ?_⟩
  rintro request id ⟨row, hrow, hcustomer, htype, hprimary, hopen, hmark⟩
  by_cases hmay : MayMove (requests.foldl (next isCountry) {}).contacts m customerId typeValue id request
  · exact .inl hmay
  · right
    have hstands : Stands (rowsIn (requests.foldl (next isCountry) {}).contacts m) customerId
        typeValue id true true :=
      ⟨row, hrow, inGroup_iff.mpr ⟨hcustomer, htype⟩, hprimary, usable_iff.mpr ⟨hopen, hmark⟩⟩
    have hafter : Stands (rowsIn (next isCountry (requests.foldl (next isCountry) {})
        request).contacts m) customerId typeValue id true true := by
      unfold next
      split
      · next heq => exact perform_stands hsettled hstands hmay heq
      · exact hstands
    obtain ⟨row', hrow', hin, hprimary', -⟩ := hafter
    obtain ⟨hcustomer', htype'⟩ := inGroup_iff.mp hin
    exact ⟨row', hrow', hcustomer', htype', hprimary'⟩

end Nexotec.SinglePrimary
