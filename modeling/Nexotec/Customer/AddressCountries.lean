/-
Postal codes of stored addresses, over every sequence of requests
(`app/customer/services/customer.py`, `create_customer_address`, `_add_contacts`,
`update_customer_address`; `app/customer/schemas/customer.py`; `app/core/validators.py`).

A new address is judged by its schema.  A PATCH may name the postal code or the country alone, and
what it leaves is judged by nobody; only the canton follows.

* `validatePostalCodeForCountry`, `deriveCanton` — the rule, and what is derived;
* `perform_valid`, `fits_of_valid` — one request.

A Swiss address with the postal code `ABC`: `swissLetters_invalid`.
-/
import Nexotec.Customer.SinglePrimary

namespace Nexotec.Addresses

open Contacts ContactSessions
open SinglePrimary (validateCountryCodes)

/-! ### The rule -/

/-- `str.upper` and `\d`. -/
structure Spelling where
  upper : String → String
  isDecimal : Char → Bool

/-- A match up to `$`, which stands before a last newline too. -/
def matchesToEnd (pattern : List Char → Bool) (value : String) : Bool :=
  pattern value.toList ||
    (value.toList.getLast? = some '\n' && pattern value.toList.dropLast)

/-- `_POSTAL_CODE_RE`: four digits. -/
def postalCodeRe (spelling : Spelling) : List Char → Bool :=
  fun text => text.length = 4 ∧ text.all spelling.isDecimal

/-- `_FOREIGN_POSTAL_CODE_RE`: a letter or digit, and one to eleven of these, blanks and hyphens. -/
def foreignPostalCodeRe : List Char → Bool
  | [] => false
  | first :: rest => first.isAlphanum ∧ (1 ≤ rest.length ∧ rest.length ≤ 11) ∧
      rest.all fun c => c.isAlphanum || c = ' ' || c = '-'

def validatePostalCode (spelling : Spelling) (value : String) : Except String String :=
  if matchesToEnd (postalCodeRe spelling) value then .ok value
  else .error "Postal code must be 4 numeric digits."

def validatePostalCodeForCountry (spelling : Spelling) (value country : String) :
    Except String String :=
  if spelling.upper country = "CH" then validatePostalCode spelling value
  else if matchesToEnd foreignPostalCodeRe value then .ok value
  else .error ("'" ++ value ++ "' is not a plausible postal code for country '" ++ country ++ "'.")

/-- `derive_canton`; `postalCodeCanton` is the table `POSTAL_CODE_CANTON`. -/
def deriveCanton (postalCodeCanton : String → Option String) (postalCode country : String) :
    Option String :=
  if country ≠ "CH" ∨ postalCode = "" then none else postalCodeCanton postalCode

/-! ### Addresses -/

/-- The columns of a stored address besides those of every contact. -/
structure StoredAddress where
  street : String
  line2 : Option String := none
  houseNumber : String
  postalCode : String
  locality : String
  canton : Option String
  country : String
  deriving DecidableEq

abbrev AddressRows := Table Uuid (ContactRow AddressType StoredAddress)

/-- Addresses have no unique constraint, and nothing catches an `IntegrityError`. -/
def storedTable : ContactTable StoredAddress where
  noun := addressTable.noun
  unique := false
  refusal := fun _ => internalError "IntegrityError"

/-- `CustomerAddressCreate`; `fits` is its validator. -/
structure CustomerAddressCreate (spelling : Spelling) where
  addressType : AddressType
  street : String
  line2 : Option String := none
  houseNumber : String
  postalCode : String
  locality : String
  country : String := "CH"
  isPrimary : Bool := false
  fits : validatePostalCodeForCountry spelling postalCode country = .ok postalCode

/-- `CustomerAddressUpdate`: no validator looks at the postal code. -/
structure CustomerAddressUpdate where
  addressType : Option (Option AddressType) := none
  street : Option (Option String) := none
  line2 : Option (Option String) := none
  houseNumber : Option (Option String) := none
  postalCode : Option (Option String) := none
  locality : Option (Option String) := none
  country : Option (Option String) := none
  isPrimary : Option (Option Bool) := none
  validTo : Option (Option Time) := none
  doNotUse : Option (Option Bool) := none

variable (spelling : Spelling) (postalCodeCanton : String → Option String)

def CustomerAddressCreate.contact {spelling : Spelling} (data : CustomerAddressCreate spelling) :
    ContactCreate AddressType StoredAddress where
  contactType := data.addressType
  value := {
    street := data.street
    line2 := data.line2
    houseNumber := data.houseNumber
    postalCode := data.postalCode
    locality := data.locality
    canton := deriveCanton postalCodeCanton data.postalCode data.country
    country := data.country }
  isPrimary := data.isPrimary

def CustomerAddressUpdate.namesPlace (data : CustomerAddressUpdate) : Bool :=
  data.postalCode.isSome || data.country.isSome

/-- The address as the PATCH leaves it; a `null` is kept but for the second line. -/
def CustomerAddressUpdate.stored (data : CustomerAddressUpdate) (loaded : StoredAddress) :
    Option StoredAddress := do
  let street ← data.street.getD (some loaded.street)
  let houseNumber ← data.houseNumber.getD (some loaded.houseNumber)
  let postalCode ← data.postalCode.getD (some loaded.postalCode)
  let locality ← data.locality.getD (some loaded.locality)
  let country ← data.country.getD (some loaded.country)
  let canton :=
    if data.namesPlace then deriveCanton postalCodeCanton postalCode country else loaded.canton
  pure { street, line2 := data.line2.getD loaded.line2, houseNumber, postalCode, locality, canton, country }

def CustomerAddressUpdate.on (data : CustomerAddressUpdate)
    (loaded : ContactRow AddressType StoredAddress) : ContactUpdate AddressType StoredAddress where
  contactType := data.addressType
  value := some (data.stored postalCodeCanton loaded.value)
  isPrimary := data.isPrimary
  validTo := data.validTo
  doNotUse := data.doNotUse

/-- `get_customer_address_or_404`. -/
def getCustomerAddressOr404 (rows : AddressRows) (groupId customerId addressId : Uuid) :
    Result (ContactRow AddressType StoredAddress) := do
  let row ← orNotFound ((rows.lookup addressId).filter (·.groupId = groupId))
    s!"CustomerAddress {addressId} was not found."
  if row.customerId = customerId then pure row
  else .error (notFoundError s!"CustomerAddress {addressId} was not found.")

def createCustomerAddress (isCountry : String → Bool) (rows : AddressRows) (now : Time)
    (groupId customerId id : Uuid) (data : CustomerAddressCreate spelling) : Result AddressRows := do
  validateCountryCodes isCountry [("addressCountry", data.country)]
  if (rows.lookup id).isSome then .error (internalError "duplicate key")
  else createContact storedTable rows now groupId customerId id (data.contact postalCodeCanton)

/-- The addresses of a new customer (`create_customer`, `_add_contacts`). -/
def addAddresses (isCountry : String → Bool) (rows : AddressRows) (now : Time)
    (groupId customerId : Uuid) (ids : List Uuid) (addresses : List (CustomerAddressCreate spelling)) :
    Result AddressRows := do
  validateCountryCodes isCountry (addresses.zipIdx.map fun entry =>
    (s!"addresses[{entry.2}].addressCountry", entry.1.country))
  if ids.any fun id => (rows.lookup id).isSome then .error (internalError "duplicate key")
  else pure (rows.insertAll (newContacts now groupId customerId ids
    (addresses.map (·.contact postalCodeCanton))))

def updateCustomerAddress (isCountry : String → Bool) (rows : AddressRows) (id : Uuid)
    (address : ContactRow AddressType StoredAddress) (data : CustomerAddressUpdate) :
    Result AddressRows := do
  validateCountryCodes isCountry (data.country.join.toList.map fun code => ("addressCountry", code))
  updateContact storedTable rows id address (data.on postalCodeCanton address)

/-- The requests, with the active country codes as each reads them. -/
inductive Request where
  | createCustomer (isCountry : String → Bool) (now : Time) (groupId customerId : Uuid)
      (ids : List Uuid) (addresses : List (CustomerAddressCreate spelling))
  | create (isCountry : String → Bool) (now : Time) (groupId customerId id : Uuid)
      (data : CustomerAddressCreate spelling)
  | update (isCountry : String → Bool) (groupId customerId id : Uuid) (data : CustomerAddressUpdate)

def perform (rows : AddressRows) : Request spelling → Result AddressRows
  | .createCustomer isCountry now groupId customerId ids addresses =>
    addAddresses spelling postalCodeCanton isCountry rows now groupId customerId ids addresses
  | .create isCountry now groupId customerId id data =>
    createCustomerAddress spelling postalCodeCanton isCountry rows now groupId customerId id data
  | .update isCountry groupId customerId id data => do
    let address ← getCustomerAddressOr404 rows groupId customerId id
    updateCustomerAddress postalCodeCanton isCountry rows id address data

def next (rows : AddressRows) (request : Request spelling) : AddressRows :=
  match perform spelling postalCodeCanton rows request with
  | .ok rows => rows
  | .error _ => rows

def run (requests : List (Request spelling)) : AddressRows :=
  requests.foldl (next spelling postalCodeCanton) ∅

/-! ### Valid addresses -/

/-- The canton is the one of the postal code and the country. -/
def CantonDerived (address : StoredAddress) : Prop :=
  address.canton = deriveCanton postalCodeCanton address.postalCode address.country

/-- The postal code is one of the country, and so is the canton. -/
def Valid (address : StoredAddress) : Prop :=
  validatePostalCodeForCountry spelling address.postalCode address.country = .ok address.postalCode ∧
    CantonDerived postalCodeCanton address

def Every (P : StoredAddress → Prop) (rows : AddressRows) : Prop :=
  ∀ id row, rows.lookup id = some row → P row.value

/-- **The condition on a request**: a PATCH that names the postal code or the country leaves, with
the other one as it is sent or as it is stored, a postal code of that country. -/
def Fits (rows : AddressRows) : Request spelling → Prop
  | .update _ _ _ id data => data.namesPlace = true → ∀ row, rows.lookup id = some row →
      ∀ postalCode country, data.postalCode.getD (some row.value.postalCode) = some postalCode →
        data.country.getD (some row.value.country) = some country →
        validatePostalCodeForCountry spelling postalCode country = .ok postalCode
  | .create .. | .createCustomer .. => True

section Values

variable {spelling postalCodeCanton} {P : StoredAddress → Prop} {rows rows' : AddressRows}
  {isCountry : String → Bool} {id groupId customerId : Uuid} {now : Time}

theorem unflagged_value {row row' : ContactRow AddressType StoredAddress}
    (h : row'.unflagged = row.unflagged) : row'.value = row.value := by
  have hvalue : row'.unflagged.value = row.unflagged.value := by rw [h]
  exact hvalue

theorem Every.flags (h : Every P rows) (hflags : FlagsOnly rows rows') : Every P rows' := by
  intro id row' hrow'
  have hid := hflags id
  rw [hrow', Option.map_some] at hid
  obtain ⟨row, hrow, hsame⟩ := Option.map_eq_some_iff.mp hid.symm
  rw [unflagged_value hsame.symm]
  exact h id row hrow

theorem Every.insert (h : Every P rows) {row : ContactRow AddressType StoredAddress}
    (hrow : P row.value) : Every P (rows.insert id row) :=
  Table.forall_insert hrow h

theorem create_values {data : CustomerAddressCreate spelling} (h : Every P rows)
    (hdata : P (data.contact postalCodeCanton).value)
    (hok : createCustomerAddress spelling postalCodeCanton isCountry rows now groupId customerId id
      data = .ok rows') : Every P rows' := by
  obtain ⟨_, -, hok⟩ := Result.of_bind hok
  split at hok
  · cases hok
  · obtain ⟨isPrimary, hflags⟩ := createContact_eq_ok hok
    exact (h.insert hdata).flags hflags

theorem addAddresses_values {ids : List Uuid} {addresses : List (CustomerAddressCreate spelling)}
    (h : Every P rows) (hdata : ∀ data ∈ addresses, P (data.contact postalCodeCanton).value)
    (hok : addAddresses spelling postalCodeCanton isCountry rows now groupId customerId ids addresses =
      .ok rows') : Every P rows' := by
  obtain ⟨_, -, hok⟩ := Result.of_bind hok
  split at hok
  · cases hok
  · cases hok
    intro id row hrow
    rcases Table.lookup_insertAll_cases hrow with hnew | ⟨-, hold⟩
    · obtain ⟨i, item, -, hitem, rfl⟩ := SinglePrimary.mem_newContacts_iff.mp hnew
      obtain ⟨data, hmem, rfl⟩ := List.mem_map.mp (List.mem_of_getElem? hitem)
      exact hdata data hmem
    · exact h id row hold

variable {data : CustomerAddressUpdate}

theorem update_stores {address : ContactRow AddressType StoredAddress}
    (hrow : rows.lookup id = some address)
    (hok : updateCustomerAddress postalCodeCanton isCountry rows id address data = .ok rows') :
    ∃ stored, data.stored postalCodeCanton address.value = some stored ∧
      (∃ row, rows'.lookup id = some row ∧ row.value = stored) ∧
      (Every P rows → P stored → Every P rows') := by
  obtain ⟨_, -, hok⟩ := Result.of_bind hok
  obtain ⟨_, _, -, hnull, -⟩ := update_cases hok
  have hflags := updateContact_eq_ok hok
  obtain ⟨stored, hstored⟩ : ∃ stored, data.stored postalCodeCanton address.value = some stored := by
    refine Option.isSome_iff_exists.mp ?_
    simp only [ContactUpdate.hasNull, CustomerAddressUpdate.on, Bool.or_eq_false_iff] at hnull
    simpa using hnull.1.1.2
  -- the row is written as it was loaded, and so takes the whole address
  have hwrite : ((data.on postalCodeCanton address).write false address address).value = stored := by
    unfold ContactUpdate.write CustomerAddressUpdate.on
    dsimp only
    rw [setColumn_same, hstored]
    rfl
  have hwritten : (rows.modify id ((data.on postalCodeCanton address).write false address)).lookup id =
      some ((data.on postalCodeCanton address).write false address address) := by
    rw [Table.lookup_modify_self, hrow, Option.map_some]
  refine ⟨stored, hstored, ?_, fun hevery hP => Every.flags (fun id' row' hrow' => ?_) hflags⟩
  · obtain ⟨row', hrow', hsame⟩ := hflags.lookup hwritten
    exact ⟨row', hrow', (unflagged_value hsame).trans hwrite⟩
  · by_cases hid : id' = id
    · subst hid
      rw [hwritten] at hrow'
      cases hrow'
      rw [hwrite]
      exact hP
    · rw [Table.lookup_modify_ne hid] at hrow'
      exact hevery id' row' hrow'

variable {loaded stored : StoredAddress}

theorem stored_eq_some (h : data.stored postalCodeCanton loaded = some stored) :
    data.postalCode.getD (some loaded.postalCode) = some stored.postalCode ∧
      data.country.getD (some loaded.country) = some stored.country ∧
      stored.canton = if data.namesPlace then
        deriveCanton postalCodeCanton stored.postalCode stored.country else loaded.canton := by
  unfold CustomerAddressUpdate.stored at h
  simp only [Option.bind_eq_bind, Option.bind_eq_some_iff] at h
  obtain ⟨street, -, houseNumber, -, postalCode, hpostal, locality, -, country, hcountry, heq⟩ := h
  cases heq
  exact ⟨hpostal, hcountry, rfl⟩

theorem stored_place (h : data.stored postalCodeCanton loaded = some stored)
    (hplace : data.namesPlace = false) :
    stored.postalCode = loaded.postalCode ∧ stored.country = loaded.country ∧
      stored.canton = loaded.canton := by
  obtain ⟨hpostal, hcountry, hcanton⟩ := stored_eq_some h
  obtain ⟨hnopostal, hnocountry⟩ := Bool.or_eq_false_iff.mp hplace
  rw [Option.isSome_eq_false_iff, Option.isNone_iff_eq_none] at hnopostal hnocountry
  rw [hnopostal] at hpostal
  rw [hnocountry] at hcountry
  rw [hplace] at hcanton
  exact ⟨(Option.some.inj hpostal).symm, (Option.some.inj hcountry).symm, hcanton⟩

theorem stored_canton (h : data.stored postalCodeCanton loaded = some stored)
    (hloaded : CantonDerived postalCodeCanton loaded) : CantonDerived postalCodeCanton stored := by
  obtain ⟨-, -, hcanton⟩ := stored_eq_some h
  unfold CantonDerived at hloaded ⊢
  cases hplace : data.namesPlace with
  | true =>
    rw [hplace] at hcanton
    exact hcanton
  | false =>
    obtain ⟨hpostal, hcountry, hsame⟩ := stored_place h hplace
    rw [hsame, hpostal, hcountry]
    exact hloaded

theorem contact_valid (data : CustomerAddressCreate spelling) :
    Valid spelling postalCodeCanton (data.contact postalCodeCanton).value := ⟨data.fits, rfl⟩

end Values

section Requests

variable {spelling postalCodeCanton} {rows rows' : AddressRows} {request : Request spelling}

theorem getCustomerAddress_lookup {groupId customerId id : Uuid}
    {address : ContactRow AddressType StoredAddress}
    (h : getCustomerAddressOr404 rows groupId customerId id = .ok address) :
    rows.lookup id = some address := by
  obtain ⟨row, hrow, h⟩ := Result.of_bind h
  rw [orNotFound_eq_ok, Option.filter_eq_some_iff] at hrow
  split at h
  · cases h
    exact hrow.1
  · cases h

theorem perform_every {P : StoredAddress → Prop} (h : Every P rows)
    (hnew : ∀ data : CustomerAddressCreate spelling, P (data.contact postalCodeCanton).value)
    (hpatch : ∀ isCountry groupId customerId id data, request =
      .update isCountry groupId customerId id data → ∀ row stored, rows.lookup id = some row →
        data.stored postalCodeCanton row.value = some stored → P stored)
    (hok : perform spelling postalCodeCanton rows request = .ok rows') : Every P rows' := by
  cases request with
  | createCustomer isCountry now groupId customerId ids addresses =>
    exact addAddresses_values h (fun data _ => hnew data) hok
  | create isCountry now groupId customerId id data => exact create_values h (hnew data) hok
  | update isCountry groupId customerId id data =>
    obtain ⟨address, hget, hok⟩ := Result.of_bind hok
    have hrow := getCustomerAddress_lookup hget
    obtain ⟨stored, hstored, -, hkeep⟩ := update_stores hrow hok
    exact hkeep h (hpatch isCountry groupId customerId id data rfl address stored hrow hstored)

theorem perform_valid (h : Every (Valid spelling postalCodeCanton) rows)
    (hfits : Fits spelling rows request)
    (hok : perform spelling postalCodeCanton rows request = .ok rows') :
    Every (Valid spelling postalCodeCanton) rows' := by
  refine perform_every h contact_valid (fun isCountry groupId customerId id data heq => ?_) hok
  subst heq
  intro row stored hrow hstored
  obtain ⟨hvalid, hderived⟩ := h id row hrow
  refine ⟨?_, stored_canton hstored hderived⟩
  cases hplace : data.namesPlace with
  | true =>
    obtain ⟨hpostal, hcountry, -⟩ := stored_eq_some hstored
    exact hfits hplace row hrow stored.postalCode stored.country hpostal hcountry
  | false =>
    obtain ⟨hpostal, hcountry, -⟩ := stored_place hstored hplace
    rw [hpostal, hcountry]
    exact hvalid

theorem canton_derived (h : Every (CantonDerived postalCodeCanton) rows)
    (hok : perform spelling postalCodeCanton rows request = .ok rows') :
    Every (CantonDerived postalCodeCanton) rows' := by
  refine perform_every h (fun _ => rfl) (fun _ _ _ id data _ row stored hrow hstored => ?_) hok
  exact stored_canton hstored (h id row hrow)

theorem fits_of_valid (hok : perform spelling postalCodeCanton rows request = .ok rows')
    (hvalid : Every (Valid spelling postalCodeCanton) rows') : Fits spelling rows request := by
  cases request with
  | createCustomer => trivial
  | create => trivial
  | update isCountry groupId customerId id data =>
    obtain ⟨address, hget, hok⟩ := Result.of_bind hok
    have hrow := getCustomerAddress_lookup hget
    obtain ⟨stored, hstored, ⟨row', hrow', hvalue⟩, -⟩ :=
      update_stores (P := Valid spelling postalCodeCanton) hrow hok
    obtain ⟨hpostal, hcountry, -⟩ := stored_eq_some hstored
    intro _ row hlookup postalCode country hpostal' hcountry'
    obtain rfl := Option.mem_unique hrow hlookup
    obtain rfl := Option.mem_unique hpostal hpostal'
    obtain rfl := Option.mem_unique hcountry hcountry'
    have hkept := (hvalid id row' hrow').1
    rw [hvalue] at hkept
    exact hkept

end Requests

/-! ### Every sequence of requests -/

variable {spelling postalCodeCanton}

theorem run_concat (requests : List (Request spelling)) (request : Request spelling) :
    run spelling postalCodeCanton (requests ++ [request]) =
      next spelling postalCodeCanton (run spelling postalCodeCanton requests) request := by
  rw [run, List.foldl_append]
  rfl

theorem run_valid {requests : List (Request spelling)}
    (hfits : ∀ before request after, requests = before ++ request :: after →
      Fits spelling (run spelling postalCodeCanton before) request) :
    Every (Valid spelling postalCodeCanton) (run spelling postalCodeCanton requests) := by
  induction requests using List.reverseRecOn with
  | nil => exact Table.forall_empty
  | append_singleton before request ih =>
    have hbefore := ih fun first request' after heq =>
      hfits first request' (after ++ [request]) (by rw [heq, List.append_assoc, List.cons_append])
    rw [run_concat, next]
    split
    · next hok => exact perform_valid hbefore (hfits before request [] rfl) hok
    · exact hbefore

/-- **Whatever is sent, every stored canton is that of the stored postal code and country.** -/
theorem cantons_derived (spelling : Spelling) (postalCodeCanton : String → Option String)
    (requests : List (Request spelling)) :
    Every (CantonDerived postalCodeCanton) (run spelling postalCodeCanton requests) := by
  have hstep : ∀ rows (request : Request spelling), Every (CantonDerived postalCodeCanton) rows →
      Every (CantonDerived postalCodeCanton) (next spelling postalCodeCanton rows request) := by
    intro rows request h
    unfold next
    split
    · next hok => exact canton_derived h hok
    · exact h
  exact Run.invariant hstep Table.forall_empty requests

/-- **Stored addresses fit.**  Where every PATCH leaves a postal code of the country it leaves, every
stored address is valid; and an accepted PATCH that leaves valid addresses is one of these. -/
theorem addresses_fit (spelling : Spelling) (postalCodeCanton : String → Option String)
    (requests : List (Request spelling)) :
    ((∀ before request after, requests = before ++ request :: after →
        Fits spelling (run spelling postalCodeCanton before) request) →
      Every (Valid spelling postalCodeCanton) (run spelling postalCodeCanton requests)) ∧
    ∀ request rows, perform spelling postalCodeCanton (run spelling postalCodeCanton requests) request =
        .ok rows → Every (Valid spelling postalCodeCanton) rows →
      Fits spelling (run spelling postalCodeCanton requests) request :=
  ⟨run_valid, fun _ _ hok hvalid => fits_of_valid hok hvalid⟩

def ascii : Spelling where
  upper := fun text => String.ofList (text.toList.map Char.toUpper)
  isDecimal := Char.isDigit

/-- A Swiss address whose postal code is sent anew. -/
def patched (postalCode : String) : List (Request ascii) :=
  [.create (fun _ => true) 1 7 1 100 {
      addressType := .domicile
      street := "Bahnhofstrasse"
      houseNumber := "1"
      postalCode := "8001"
      locality := "Zürich"
      fits := by decide +kernel },
    .update (fun _ => true) 7 1 100 { postalCode := some (some postalCode) }]

theorem addresses_fit_patched :
    Every (Valid ascii fun _ => none) (run ascii (fun _ => none) (patched "3011")) := by
  refine (addresses_fit ascii _ (patched "3011")).1 fun before request after heq => ?_
  rcases before with _ | ⟨first, _ | ⟨second, rest⟩⟩
  · cases heq
    trivial
  · cases heq
    intro _ row hrow postalCode country hpostal hcountry
    -- the country is that of the row created before
    have hstored : ((run ascii (fun _ => none) ((patched "3011").take 1)).lookup 100).map
        (·.value.country) = some "CH" := by decide +kernel
    have hcountry' : row.value.country = "CH" := by
      rw [show (run ascii (fun _ => none) ((patched "3011").take 1)).lookup 100 = some row from hrow]
        at hstored
      exact Option.some.inj hstored
    cases hpostal
    rw [← Option.some.inj hcountry, hcountry']
    decide +kernel
  · simp [patched] at heq

def swissLetters : List (Request ascii) := patched "ABC"

/-- **A Swiss address with letters for a postal code.** -/
theorem swissLetters_invalid :
    ¬ Every (Valid ascii fun _ => none) (run ascii (fun _ => none) swissLetters) := by
  intro h
  have hrow : ((run ascii (fun _ => none) swissLetters).lookup 100).map
      (fun row => (row.value.postalCode, row.value.country)) = some ("ABC", "CH") := by decide +kernel
  obtain ⟨row, hlookup, hvalue⟩ := Option.map_eq_some_iff.mp hrow
  obtain ⟨hpostal, hcountry⟩ := Prod.mk.inj hvalue
  have hvalid := (h 100 row hlookup).1
  rw [hpostal, hcountry] at hvalid
  have hrefused : (validatePostalCodeForCountry ascii "ABC" "CH").isOk = false := by decide +kernel
  rw [hvalid] at hrefused
  cases hrefused

end Nexotec.Addresses
