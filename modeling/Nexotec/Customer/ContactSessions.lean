/-
Writers of phones and e-mails at work together
(`app/customer/services/customer.py`, FR-03).

Deleting, closing or marking a usable row is refused when the customer has no
other usable phone or e-mail; the guard counts the phones, then the e-mails, in
two statements without a lock, and the write follows later.  A merge holds its
duplicate `FOR NO KEY UPDATE` while it moves or drops the duplicate's rows.

The writes of a session stand at its commit: nobody sees them before, and the
rows it has written are locked until then.
-/
import Nexotec.Customer.Contacts
import Nexotec.Customer.MergeInvariant
import Nexotec.Lib.Interleaving

namespace Nexotec.ContactSessions

open Contacts Customers Locks Interleaving

/-! ### Tables -/

inductive PhoneType where
  | mobile
  | landline
  | work
  | fax
  deriving DecidableEq

inductive EmailType where
  | personal
  | work
  | invoicing
  deriving DecidableEq

/-- The two tables FR-03 counts. -/
inductive Channel where
  | phone
  | email
  deriving DecidableEq

abbrev Channel.Kind : Channel → Type
  | .phone => PhoneType
  | .email => EmailType

instance : ∀ ch : Channel, DecidableEq ch.Kind
  | .phone => inferInstanceAs (DecidableEq PhoneType)
  | .email => inferInstanceAs (DecidableEq EmailType)

abbrev Channel.Row (ch : Channel) : Type := ContactRow ch.Kind String

def Channel.table : Channel → ContactTable String
  | .phone => phoneTable
  | .email => emailTable

def Channel.removing : Channel → String
  | .phone => "phone number"
  | .email => "email address"

def Channel.entity : Channel → String
  | .phone => "CustomerPhone"
  | .email => "CustomerEmail"

structure ContactDb where
  phones : Table Uuid (ContactRow PhoneType String) := ∅
  emails : Table Uuid (ContactRow EmailType String) := ∅

def ContactDb.rows (db : ContactDb) : ∀ ch : Channel, Table Uuid ch.Row
  | .phone => db.phones
  | .email => db.emails

def ContactDb.set (db : ContactDb) : ∀ ch : Channel, Table Uuid ch.Row → ContactDb
  | .phone, rows => { db with phones := rows }
  | .email, rows => { db with emails := rows }

@[simp] theorem ContactDb.rows_set_self (db : ContactDb) (ch : Channel) (rows : Table Uuid ch.Row) :
    (db.set ch rows).rows ch = rows := by
  cases ch <;> rfl

variable {ch : Channel}

theorem ContactDb.rows_set_ne (db : ContactDb) {ch' : Channel} (h : ch' ≠ ch)
    (rows : Table Uuid ch.Row) : (db.set ch rows).rows ch' = db.rows ch' := by
  cases ch with
  | phone => cases ch' with
    | phone => exact (h rfl).elim
    | email => rfl
  | email => cases ch' with
    | phone => rfl
    | email => exact (h rfl).elim

def Reachable (db : ContactDb) (customerId : Uuid) : Prop :=
  ∃ ch id row, (db.rows ch).lookup id = some row ∧ row.customerId = customerId ∧
    row.isUsableRow = true

/-! ### The guard -/

/-- `_usable_count`: the customer's usable rows of one table, without the row. -/
def usableCount {τ ν : Type} (rows : Table Uuid (ContactRow τ ν)) (customerId id : Uuid) : ℕ :=
  rows.entries.countP fun e => e.2.customerId = customerId ∧ e.1 ≠ id ∧ e.2.isUsableRow

/-- `_assert_not_last_contact_point`, with what the two counts gave. -/
def assertNotLastContactPoint (phones emails : ℕ) (removing : String) : Result Unit :=
  if phones + emails = 0 then
    .error (badRequestError
      s!"Cannot remove the last usable {removing} — a customer must keep at least one usable phone number or email address.")
  else .ok ()

/-- What a request does to the row. -/
inductive Op (ch : Channel) where
  | update (data : ContactUpdate ch.Kind String)
  | delete

/-- Whether the guard counts: the row is usable and the request takes that away. -/
def Op.guarded {ch : Channel} (op : Op ch) (loaded : ch.Row) : Bool :=
  loaded.isUsableRow && match op with
    | .update data => data.becomesUnusable loaded
    | .delete => true

def Op.run {ch : Channel} (op : Op ch) (id : Uuid) (loaded : ch.Row) (rows : Table Uuid ch.Row) :
    Result (Table Uuid ch.Row) :=
  match op with
  | .update data => updateContact ch.table rows id loaded data
  | .delete => .ok (deleteContact rows id loaded)

/-- `get_customer_phone_or_404` and `get_customer_email_or_404`. -/
def getContactOr404 (ch : Channel) (rows : Table Uuid ch.Row) (groupId customerId id : Uuid) :
    Result ch.Row := do
  let message := s!"{ch.entity} {id} was not found."
  let row ← orNotFound ((rows.lookup id).filter (·.groupId = groupId)) message
  if row.customerId = customerId then pure row else .error (notFoundError message)

/-! ### Creating a customer -/

/-- `CustomerCreate`, with what its validators leave. -/
structure CustomerCreate where
  customerType : CustomerType := .individual
  lifecycleStatus : CustomerLifecycleStatus := .prospect
  columns : Column → Value := fun _ => .null
  phones : List (ContactCreate PhoneType String) := []
  emails : List (ContactCreate EmailType String) := []
  /-- `_require_a_contact_point`. -/
  contact : phones ≠ [] ∨ emails ≠ []
  /-- `_reject_duplicate_contacts`, on the values as they are stored. -/
  once : (phones.map (·.value)).Nodup ∧ (emails.map (·.value)).Nodup
  /-- `_reject_merged_at_creation`. -/
  unmerged : lifecycleStatus ≠ .merged

/-- `_default_primary_flags`: the first of a type without a primary. -/
def defaultPrimaryFlags {τ ν : Type} [DecidableEq τ] (items : List (ContactCreate τ ν)) :
    List Bool :=
  items.zipIdx.map fun entry =>
    !(items.any fun other => other.contactType = entry.1.contactType && other.isPrimary) &&
      (items.findIdx fun other => other.contactType = entry.1.contactType) = entry.2

/-- The rows of `_add_contacts` for one table, under the ids drawn for them. -/
def newContacts {τ ν : Type} [DecidableEq τ] (now : Time) (groupId customerId : Uuid)
    (ids : List Uuid) (items : List (ContactCreate τ ν)) : List (Uuid × ContactRow τ ν) :=
  ids.zip ((items.zip (defaultPrimaryFlags items)).map fun entry =>
    entry.1.row now groupId customerId (entry.1.isPrimary || entry.2))

/-! ### The system -/

/-- The committed tables, with the locks of `Customers.Shared`.  `drawn` are the
ids contact rows have had so far: `uuid7()` gives none of them again. -/
structure Desk (ι : Type) where
  base : Shared ι
  contacts : ContactDb := {}
  drawn : List Uuid := []

/-- What a merge has read of the contacts so far, the phones before the
e-mails and the survivor's rows before the duplicate's. -/
inductive Phase where
  | phoneKeys
  | phoneRows (targetKeys : List String)
  | emailKeys (phones : List (Uuid × RowFate))
  | emailRows (phones : List (Uuid × RowFate)) (targetKeys : List String)
  | planned (phones emails : List (Uuid × RowFate))

inductive Session where
  | idle
  | merging (call : MergeCall) (lo : MergeLocal) (phase : Phase)
  | creating (ch : Channel) (groupId customerId : Uuid) (data : ContactCreate ch.Kind String)
  | guarding (ch : Channel) (id : Uuid) (loaded : ch.Row) (op : Op ch)
  | counting (ch : Channel) (id : Uuid) (loaded : ch.Row) (op : Op ch) (phones : ℕ)
  | writing (ch : Channel) (id : Uuid) (loaded : ch.Row) (op : Op ch)

inductive Choice where
  | createCustomer (groupId customerId : Uuid) (phoneIds emailIds : List Uuid)
      (data : CustomerCreate)
  | merge (groupId duplicateId targetId : Uuid) (actorId : Option Uuid) (ifMatch : ℕ)
  | create (ch : Channel) (groupId customerId : Uuid) (data : ContactCreate ch.Kind String)
  | change (ch : Channel) (groupId customerId id : Uuid) (op : Op ch)
  | insert (id : Uuid)
  | go
  | fail
  | tick (now : Time)

section

variable {ι : Type} [DecidableEq ι]

/-- The next statement of `_repoint_contacts`, for the phones and then the
e-mails. -/
def readContacts (call : MergeCall) (contacts : ContactDb) : Phase → Phase
  | .phoneKeys => .phoneRows ((rowsOf contacts.phones call.targetId).map (·.2.value))
  | .phoneRows targetKeys =>
    .emailKeys (planContacts (·.value) targetKeys (rowsOf contacts.phones call.duplicateId))
  | .emailKeys phones =>
    .emailRows phones ((rowsOf contacts.emails call.targetId).map (·.2.value))
  | .emailRows phones targetKeys =>
    .planned phones (planContacts (·.value) targetKeys (rowsOf contacts.emails call.duplicateId))
  | .planned phones emails => .planned phones emails

def flushContacts (call : MergeCall) (phones emails : List (Uuid × RowFate))
    (contacts : ContactDb) : Result ContactDb := do
  let phoneRows ← flushPlan phoneTable call.targetId phones contacts.phones
  let emailRows ← flushPlan emailTable call.targetId emails contacts.emails
  pure ⟨phoneRows, emailRows⟩

/-- One statement of a merge.  The contacts are read after the party rows are
written and before the earlier merges are re-pointed. -/
def mergeContactsStep (i : ι) (call : MergeCall) (sh : Desk ι) :
    MergeLocal → Phase → Option (Desk ι × Session)
  | .committing writes earlier copies, .planned phones emails =>
    match flushContacts call phones emails sh.contacts with
    | .ok contacts =>
      if UniqueScope (mergedParties call writes copies sh.base.db.parties) then
        some ({ sh with base := commitMerge i call writes earlier copies sh.base
                        contacts := contacts }, .idle)
      else some ({ sh with base := rollback i sh.base }, .idle)
    | .error _ => some ({ sh with base := rollback i sh.base }, .idle)
  | .committing .., _ => none
  | .readingEarlier writes, .planned phones emails =>
    (mergeStep i call sh.base (.readingEarlier writes)).map fun out =>
      ({ sh with base := out.1 }, match out.2 with
        | some lo => .merging call lo (.planned phones emails)
        | none => .idle)
  | .readingEarlier writes, phase =>
    some (sh, .merging call (.readingEarlier writes) (readContacts call sh.contacts phase))
  | lo, phase => (mergeStep i call sh.base lo).map fun out =>
    ({ sh with base := out.1 }, match out.2 with
      | some lo => .merging call lo phase
      | none => .idle)

/-- A new customer with its contacts, in one transaction of new rows. -/
def createCustomer (groupId customerId : Uuid) (phoneIds emailIds : List Uuid)
    (data : CustomerCreate) (sh : Desk ι) : Desk ι where
  base := { sh.base with db := { sh.base.db with
    customers := sh.base.db.customers.insert customerId {
      groupId := groupId
      customerType := data.customerType
      lifecycleStatus := data.lifecycleStatus
      columns := data.columns } } }
  contacts := {
    phones := sh.contacts.phones.insertAll
      (newContacts sh.base.now groupId customerId phoneIds data.phones)
    emails := sh.contacts.emails.insertAll
      (newContacts sh.base.now groupId customerId emailIds data.emails) }
  drawn := phoneIds ++ emailIds ++ sh.drawn

def step (i : ι) : Choice → Desk ι → Session → Option (Desk ι × Session)
  | .createCustomer groupId customerId phoneIds emailIds data, sh, .idle =>
    if (sh.base.db.customers.lookup customerId).isNone ∧ phoneIds.length = data.phones.length ∧
        emailIds.length = data.emails.length ∧ (phoneIds ++ emailIds).Nodup ∧
        ∀ id ∈ phoneIds ++ emailIds, id ∉ sh.drawn then
      some (createCustomer groupId customerId phoneIds emailIds data sh, .idle)
    else none
  | .merge groupId duplicateId targetId actorId ifMatch, sh, .idle =>
    match startMerge sh.base groupId duplicateId targetId actorId ifMatch with
    | .ok call => some (sh, .merging call (.reading [] false) .phoneKeys)
    | .error _ => none
  | .create ch groupId customerId data, sh, .idle =>
    match getCustomerOr404 sh.base.db.customers groupId customerId with
    | .ok _ => some (sh, .creating ch groupId customerId data)
    | .error _ => none
  | .change ch groupId customerId id op, sh, .idle =>
    match getContactOr404 ch (sh.contacts.rows ch) groupId customerId id with
    | .ok loaded =>
      some (sh, if op.guarded loaded then .guarding ch id loaded op else .writing ch id loaded op)
    | .error _ => none
  | .insert id, sh, .creating ch groupId customerId data =>
    if id ∉ sh.drawn then
      match createContact ch.table (sh.contacts.rows ch) sh.base.now groupId customerId id data with
      | .ok rows => some ({ sh with contacts := sh.contacts.set ch rows, drawn := id :: sh.drawn },
          .idle)
      | .error _ => some (sh, .idle)
    else none
  | .go, sh, .merging call lo phase => mergeContactsStep i call sh lo phase
  | .go, sh, .guarding ch id loaded op =>
    some (sh, .counting ch id loaded op (usableCount sh.contacts.phones loaded.customerId id))
  | .go, sh, .counting ch id loaded op phones =>
    match assertNotLastContactPoint phones (usableCount sh.contacts.emails loaded.customerId id)
        ch.removing with
    | .ok _ => some (sh, .writing ch id loaded op)
    | .error _ => some (sh, .idle)
  | .go, sh, .writing ch id loaded op =>
    match op.run id loaded (sh.contacts.rows ch) with
    | .ok rows => some ({ sh with contacts := sh.contacts.set ch rows }, .idle)
    | .error _ => some (sh, .idle)
  | .fail, sh, _ => some ({ sh with base := rollback i sh.base }, .idle)
  | .tick now, sh, lo => some ({ sh with base := tick now sh.base }, lo)
  | _, _, _ => none

def ContactDb.ids (db : ContactDb) : List Uuid := db.phones.keys ++ db.emails.keys

def opening (db : CustomerDb) (contacts : ContactDb) : Config ι (Desk ι) Session :=
  ⟨{ base := { db := db }, contacts := contacts, drawn := contacts.ids }, fun _ => .idle⟩

end

/-! ### The property and the condition -/

/-- The customer is reachable, unless there is none or it is merged. -/
def Kept {ι : Type} (customerId : Uuid) (sh : Desk ι) : Prop :=
  ∀ c, sh.base.db.customers.lookup customerId = some c → c.lifecycleStatus ≠ .merged →
    Reachable sh.contacts customerId

/-- What a request leaves of the row that is there by then. -/
def Op.leaves {ch : Channel} (op : Op ch) (loaded stored : ch.Row) : Option ch.Row :=
  match op with
  | .update data => some (data.write false loaded stored)
  | .delete => none

/-- **The condition on a step**: a usable row is taken away only while the guard
would still count another one. -/
def LeavesOne {ι : Type} (ch : Choice) (sh : Desk ι) : Session → Prop
  | .writing chan id loaded op => ch matches .go →
    (op.run id loaded (sh.contacts.rows chan)).isOk = true →
    ∀ stored ∈ (sh.contacts.rows chan).lookup id, stored.isUsableRow = true →
      (op.leaves loaded stored).any (·.isUsableRow) = true ∨
        usableCount sh.contacts.phones stored.customerId id +
          usableCount sh.contacts.emails stored.customerId id ≠ 0
  | .idle | .merging .. | .creating .. | .guarding .. | .counting .. => True

/-! ### Rows and owners -/

/-- The row under this id, if there is one, is the customer's. -/
def Mine {ι : Type} (sh : Desk ι) (customerId : Uuid) (ch : Channel) (id : Uuid) : Prop :=
  id ∈ sh.drawn ∧ ∀ row, (sh.contacts.rows ch).lookup id = some row → row.customerId = customerId

theorem unflagged_eq {τ ν : Type} {row row' : ContactRow τ ν} (h : row'.unflagged = row.unflagged) :
    row'.customerId = row.customerId ∧ row'.isUsableRow = row.isUsableRow := by
  have hcustomer : row'.unflagged.customerId = row.unflagged.customerId := by rw [h]
  have husable : row'.unflagged.isUsableRow = row.unflagged.isUsableRow := by rw [h]
  exact ⟨hcustomer, husable⟩

variable {id : Uuid} {op : Op ch} {loaded : ch.Row} {rows : Table Uuid ch.Row}

/-- A PATCH that does not close or mark a usable row leaves it usable. -/
theorem isUsableRow_write {τ ν : Type} [DecidableEq τ] [DecidableEq ν] {data : ContactUpdate τ ν}
    {row : ContactRow τ ν} (husable : row.isUsableRow = true)
    (hkeeps : data.becomesUnusable row = false) : (data.write false row row).isUsableRow = true := by
  simp only [ContactRow.isUsableRow, Bool.and_eq_true, Option.isNone_iff_eq_none,
    Bool.not_eq_true'] at husable ⊢
  obtain ⟨hopen, hmarked⟩ := husable
  simp only [ContactUpdate.becomesUnusable, hopen, hmarked, Option.isNone_none, Bool.and_true,
    Bool.not_false, Bool.or_eq_false_iff, Option.isSome_eq_false_iff, Option.isNone_iff_eq_none,
    decide_eq_false_iff_not] at hkeeps
  obtain ⟨hto, huse⟩ := hkeeps
  simp only [ContactUpdate.write, setColumn_same, hopen, hmarked]
  constructor
  · rw [← hto]
    cases data.validTo <;> rfl
  · cases hsent : data.doNotUse.join with
    | none => rfl
    | some doNotUse =>
      cases doNotUse with
      | false => rfl
      | true => exact absurd hsent huse

/-- A removal with nothing written between its reads and its commit meets the condition, by the guard. -/
theorem leavesOne_of_guard {ι : Type} {sh : Desk ι}
    {groupId customerId : Uuid}
    (hread : getContactOr404 ch (sh.contacts.rows ch) groupId customerId id = .ok loaded)
    (hguard : op.guarded loaded = true →
      assertNotLastContactPoint (usableCount sh.contacts.phones loaded.customerId id)
        (usableCount sh.contacts.emails loaded.customerId id) ch.removing = .ok ()) :
    LeavesOne .go sh (.writing ch id loaded op) := by
  intro _ _ stored hstored husable
  obtain ⟨row, hrow, hread⟩ := Result.of_bind hread
  have hloaded : stored = loaded := by
    split at hread
    · cases hread
      have hfound := (Option.filter_eq_some_iff.mp (orNotFound_eq_ok.mp hrow)).1
      exact Option.mem_unique hstored hfound
    · cases hread
  subst hloaded
  cases hguarded : op.guarded stored with
  | true =>
    right
    have hcounts := hguard hguarded
    unfold assertNotLastContactPoint at hcounts
    split at hcounts
    · cases hcounts
    · next hne => exact hne
  | false =>
    left
    unfold Op.guarded at hguarded
    rw [husable, Bool.true_and] at hguarded
    cases op with
    | delete => cases hguarded
    | update data =>
      exact isUsableRow_write husable hguarded
theorem Op.run_eq_ok {rows' : Table Uuid ch.Row} (h : op.run id loaded rows = .ok rows') :
    ∃ written, FlagsOnly written rows' ∧ ∀ id', written.lookup id' =
      if id' = id then (rows.lookup id').bind (op.leaves loaded) else rows.lookup id' := by
  cases op with
  | update data =>
    refine ⟨_, updateContact_eq_ok h, fun id' => ?_⟩
    rw [Table.lookup_modify]
    split
    · rcases rows.lookup id' with _ | row <;> rfl
    · rfl
  | delete =>
    cases h
    refine ⟨_, deleteContact_flags loaded, fun id' => ?_⟩
    split
    · next heq =>
      subst heq
      rw [AList.lookup_erase]
      rcases rows.lookup id' with _ | row <;> rfl
    · next hne => exact AList.lookup_erase_ne hne

theorem Op.leaves_customerId {stored row : ch.Row} (h : op.leaves loaded stored = some row) :
    row.customerId = stored.customerId := by
  cases op with
  | update data =>
    cases h
    rfl
  | delete => cases h

section Written

variable {ch : Channel} {op : Op ch} {id : Uuid} {loaded : ch.Row} {contacts : ContactDb}
  {rows : Table Uuid ch.Row} {ch' : Channel} {id' : Uuid}

theorem written_other (h : op.run id loaded (contacts.rows ch) = .ok rows) {row : ch'.Row}
    (hrow : (contacts.rows ch').lookup id' = some row) (hne : ch' = ch → id' ≠ id) :
    ∃ row', ((contacts.set ch rows).rows ch').lookup id' = some row' ∧
      row'.customerId = row.customerId ∧ row'.isUsableRow = row.isUsableRow := by
  by_cases hch : ch' = ch
  · subst hch
    obtain ⟨written, hflags, hwritten⟩ := Op.run_eq_ok h
    have hold : written.lookup id' = some row := by rw [hwritten, if_neg (hne rfl), hrow]
    obtain ⟨row', hrow', hsame⟩ := hflags.lookup hold
    rw [ContactDb.rows_set_self]
    exact ⟨row', hrow', unflagged_eq hsame⟩
  · rw [ContactDb.rows_set_ne _ hch]
    exact ⟨row, hrow, rfl, rfl⟩

theorem written_origin (h : op.run id loaded (contacts.rows ch) = .ok rows) {row' : ch'.Row}
    (hrow' : ((contacts.set ch rows).rows ch').lookup id' = some row') :
    ∃ row, (contacts.rows ch').lookup id' = some row ∧ row'.customerId = row.customerId := by
  by_cases hch : ch' = ch
  · subst hch
    rw [ContactDb.rows_set_self] at hrow'
    obtain ⟨written, hflags, hwritten⟩ := Op.run_eq_ok h
    have hback : FlagsOnly rows written := fun id => (hflags id).symm
    obtain ⟨row, hrow, hsame⟩ := hback.lookup hrow'
    rw [hwritten] at hrow
    have hcustomer := (unflagged_eq hsame).1
    split at hrow
    · obtain ⟨stored, hstored, hleaves⟩ := Option.bind_eq_some_iff.mp hrow
      exact ⟨stored, hstored, hcustomer.symm.trans (Op.leaves_customerId hleaves)⟩
    · exact ⟨row, hrow, hcustomer.symm⟩
  · rw [ContactDb.rows_set_ne _ hch] at hrow'
    exact ⟨row', hrow', rfl⟩

end Written

variable {customerId : Uuid}

theorem exists_of_usableCount {τ ν : Type} {rows : Table Uuid (ContactRow τ ν)}
    (h : usableCount rows customerId id ≠ 0) :
    ∃ id' row, rows.lookup id' = some row ∧ row.customerId = customerId ∧ id' ≠ id ∧
      row.isUsableRow = true := by
  have hpos : 0 < usableCount rows customerId id := Nat.pos_of_ne_zero h
  obtain ⟨e, he, hp⟩ := List.countP_pos_iff.mp hpos
  simp only [decide_eq_true_eq] at hp
  exact ⟨e.1, e.2, Table.lookup_eq_some_iff_mem.mpr he, hp⟩

theorem reachable_written {contacts : ContactDb}
    (h : op.run id loaded (contacts.rows ch) = .ok rows)
    (hok : ∀ stored ∈ (contacts.rows ch).lookup id, stored.isUsableRow = true →
      (op.leaves loaded stored).any (·.isUsableRow) = true ∨
        usableCount contacts.phones stored.customerId id +
          usableCount contacts.emails stored.customerId id ≠ 0)
    (hreach : Reachable contacts customerId) : Reachable (contacts.set ch rows) customerId := by
  have hother : ∀ ch' id' (row : ch'.Row), (contacts.rows ch').lookup id' = some row → id' ≠ id →
      row.customerId = customerId → row.isUsableRow = true →
      Reachable (contacts.set ch rows) customerId := by
    intro ch' id' row hrow hne hof husable
    obtain ⟨row', hrow', hcustomer, hsame⟩ := written_other h hrow fun _ => hne
    exact ⟨ch', id', row', hrow', hcustomer.trans hof, hsame.trans husable⟩
  obtain ⟨ch', id', row, hrow, rfl, husable⟩ := hreach
  by_cases hthis : ch' = ch ∧ id' = id
  · -- the row written is the one the customer was reachable by
    obtain ⟨rfl, rfl⟩ := hthis
    rcases hok row hrow husable with hleaves | hcount
    · obtain ⟨written, hflags, hwritten⟩ := Op.run_eq_ok h
      obtain ⟨left, hleft, hleftUsable⟩ := (Option.any_eq_true _ _).mp hleaves
      have hold : written.lookup id' = some left := by rw [hwritten, if_pos rfl, hrow]; exact hleft
      obtain ⟨row', hrow', hsame⟩ := hflags.lookup hold
      obtain ⟨hcustomer, hsameUsable⟩ := unflagged_eq hsame
      refine ⟨ch', id', row', ?_, hcustomer.trans (Op.leaves_customerId hleft),
        hsameUsable.trans hleftUsable⟩
      rw [ContactDb.rows_set_self]
      exact hrow'
    · by_cases hphones : usableCount contacts.phones row.customerId id' = 0
      · have hemails : usableCount contacts.emails row.customerId id' ≠ 0 := by omega
        obtain ⟨id₁, row₁, hrow₁, hof₁, hne₁, husable₁⟩ := exists_of_usableCount hemails
        exact hother .email id₁ row₁ hrow₁ hne₁ hof₁ husable₁
      · obtain ⟨id₁, row₁, hrow₁, hof₁, hne₁, husable₁⟩ := exists_of_usableCount hphones
        exact hother .phone id₁ row₁ hrow₁ hne₁ hof₁ husable₁
  · obtain ⟨row', hrow', hcustomer, hsame⟩ :=
      written_other h hrow fun hch hid => hthis ⟨hch, hid⟩
    exact ⟨ch', id', row', hrow', hcustomer, hsame.trans husable⟩

section Knows

variable {ι : Type}

/-- From its second customer row on, a merge has locked its duplicate. -/
def DuplicateHeld (i : ι) (call : MergeCall) (grants : List (Grant ι Resource)) : MergeLocal → Prop
  | .reading _ false | .advising _ _ _ false | .firstRow _ => True
  | .secondRow _ => Held grants i (.customer call.first) (call.mode call.first)
  | .checking _ | .reading _ true | .advising _ _ _ true | .readingKeys | .readingRows _
  | .lockingRows .. | .readingEarlier _ | .lockingEarlier .. | .lockingCopies ..
  | .committing .. => Held grants i (.customer call.duplicateId) .noKeyUpdate

def Phase.plan : Phase → Channel → List (Uuid × RowFate)
  | .phoneKeys, _ | .phoneRows _, _ | .emailKeys _, .email | .emailRows _ _, .email => []
  | .emailKeys phones, .phone | .emailRows phones _, .phone | .planned phones _, .phone => phones
  | .planned _ emails, .email => emails

/-- The planned rows are the duplicate's, and it is locked. -/
def PlanKnown (i : ι) (call : MergeCall) (sh : Desk ι) (phase : Phase) : Prop :=
  ∀ ch id fate, (id, fate) ∈ phase.plan ch →
    Held sh.base.grants i (.customer call.duplicateId) .noKeyUpdate ∧
      Mine sh call.duplicateId ch id

def Knows (i : ι) (sh : Desk ι) : Session → Prop
  | .merging call lo phase => DuplicateHeld i call sh.base.grants lo ∧ PlanKnown i call sh phase
  | .idle | .creating .. | .guarding .. | .counting .. | .writing .. => True

/-- What holds of the tables and the locks. -/
structure Sound (sh : Desk ι) : Prop where
  compatible : Compatible sh.base.grants
  drawn : ∀ ch id row, (sh.contacts.rows ch).lookup id = some row → id ∈ sh.drawn

/-- What a session may assume of the others' steps. -/
structure Respects (i : ι) (sh sh' : Desk ι) : Prop where
  grants : ∀ r m, Held sh.base.grants i r m → Held sh'.base.grants i r m
  mine : ∀ d, Held sh.base.grants i (.customer d) .noKeyUpdate → ∀ ch id,
    Mine sh d ch id → Mine sh' d ch id

variable {i : ι}

theorem knows_respects {sh sh' : Desk ι} {lo : Session} (h : Knows i sh lo)
    (hrespects : Respects i sh sh') : Knows i sh' lo := by
  cases lo with
  | merging call lo phase =>
    obtain ⟨hheld, hplan⟩ := h
    refine ⟨?_, fun ch id fate hmem => ?_⟩
    · cases lo with
      | reading held rowsLocked => cases rowsLocked with
        | false => trivial
        | true => exact hrespects.grants _ _ hheld
      | advising held pending late rowsLocked => cases rowsLocked with
        | false => trivial
        | true => exact hrespects.grants _ _ hheld
      | firstRow => trivial
      | secondRow | checking | readingKeys | readingRows | lockingRows | readingEarlier
      | lockingEarlier | lockingCopies | committing => exact hrespects.grants _ _ hheld
    · obtain ⟨hdup, hmine⟩ := hplan ch id fate hmem
      exact ⟨hrespects.grants _ _ hdup, hrespects.mine _ hdup ch id hmine⟩
  | idle | creating | guarding | counting | writing => trivial

theorem duplicateHeld_move [DecidableEq ι] {call : MergeCall} {sh sh' : Shared ι}
    {lo lo' : MergeLocal} (h : DuplicateHeld i call sh.grants lo)
    (hmove : MergeMoves i call sh lo sh' (some lo')) : DuplicateHeld i call sh'.grants lo' := by
  have hkeep : ∀ r m, Held sh.grants i r m → Held sh'.grants i r m := fun r m => hmove.held_own
  cases hmove with
  | pairsHeld held rowsLocked hnone => cases rowsLocked with
    | false => trivial
    | true => exact h
  | pairsMissing held rowsLocked => cases rowsLocked with
    | false => trivial
    | true => exact h
  | pairsRead held late rowsLocked => cases rowsLocked with
    | false => trivial
    | true => exact h
  | pair held pending pair late rowsLocked hfree => cases rowsLocked with
    | false => trivial
    | true => exact hkeep _ _ h
  | first held hfree => exact held_take.mpr (.inl ⟨rfl, rfl, rfl⟩)
  | second held hfree =>
    -- the duplicate is one of the two rows, in its own mode
    have hmode : call.mode call.duplicateId = .noKeyUpdate := if_pos rfl
    rw [DuplicateHeld, ← hmode]
    have hdup : call.duplicateId = call.first ∨ call.duplicateId = call.second :=
      first_or_second.mpr (.inl rfl)
    rcases hdup with heq | heq
    · rw [heq]
      exact hkeep _ _ h
    · rw [heq]
      exact held_take.mpr (.inl ⟨rfl, rfl, rfl⟩)
  | checked | keys | rows | planned | earlier | earlierHeld => exact h
  | row | earlierRow | copies => exact hkeep _ _ h

end Knows

section New

variable {ι : Type} {sh : Desk ι} {groupId customerId id : Uuid} {now : Time} {ids : List Uuid}

theorem mem_newContacts {τ ν : Type} [DecidableEq τ] {items : List (ContactCreate τ ν)}
    {row : ContactRow τ ν} (h : (id, row) ∈ newContacts now groupId customerId ids items) :
    id ∈ ids ∧ row.customerId = customerId ∧ row.isUsableRow = true := by
  obtain ⟨hid, hrow⟩ := List.of_mem_zip h
  obtain ⟨entry, -, rfl⟩ := List.mem_map.mp hrow
  exact ⟨hid, rfl, rfl⟩

theorem newContacts_ne_nil {τ ν : Type} [DecidableEq τ] {items : List (ContactCreate τ ν)}
    (hitems : items ≠ []) (hlength : ids.length = items.length) :
    newContacts now groupId customerId ids items ≠ [] := by
  intro hnil
  have hzero : (newContacts now groupId customerId ids items).length = 0 := by rw [hnil]; rfl
  simp only [newContacts, List.length_zip, List.length_map, defaultPrimaryFlags,
    List.length_zipIdx, hlength, min_self] at hzero
  exact hitems (List.length_eq_zero_iff.mp hzero)

variable {phoneIds emailIds : List Uuid} {data : CustomerCreate} {chan : Channel}

theorem created_origin {row : chan.Row}
    (h : ((createCustomer groupId customerId phoneIds emailIds data sh).contacts.rows chan).lookup id
      = some row) : id ∈ phoneIds ++ emailIds ∨ (sh.contacts.rows chan).lookup id = some row := by
  cases chan with
  | phone =>
    rcases Table.lookup_insertAll_cases h with hnew | ⟨-, hold⟩
    · exact .inl (List.mem_append_left _ (mem_newContacts hnew).1)
    · exact .inr hold
  | email =>
    rcases Table.lookup_insertAll_cases h with hnew | ⟨-, hold⟩
    · exact .inl (List.mem_append_right _ (mem_newContacts hnew).1)
    · exact .inr hold

theorem created_kept (hfresh : id ∉ phoneIds ++ emailIds) :
    ((createCustomer groupId customerId phoneIds emailIds data sh).contacts.rows chan).lookup id
      = (sh.contacts.rows chan).lookup id := by
  have hmem : ∀ {τ ν : Type} [DecidableEq τ] (ids : List Uuid) (items : List (ContactCreate τ ν)),
      id ∉ ids → id ∉ (newContacts sh.base.now groupId customerId ids items).map Prod.fst := by
    intro τ ν _ ids items hids hmap
    obtain ⟨⟨id', row⟩, hnew, rfl⟩ := List.mem_map.mp hmap
    exact hids (mem_newContacts hnew).1
  cases chan with
  | phone =>
    exact Table.lookup_insertAll_of_notMem
      (hmem _ _ fun h => hfresh (List.mem_append_left _ h))
  | email =>
    exact Table.lookup_insertAll_of_notMem
      (hmem _ _ fun h => hfresh (List.mem_append_right _ h))

theorem reachable_created (hphones : phoneIds.length = data.phones.length)
    (hemails : emailIds.length = data.emails.length) :
    Reachable (createCustomer groupId customerId phoneIds emailIds data sh).contacts customerId := by
  rcases data.contact with hsome | hsome
  · obtain ⟨⟨id, row⟩, hmem, hrow⟩ := Table.exists_lookup_insertAll
      (newContacts_ne_nil hsome hphones) sh.contacts.phones
    obtain ⟨-, hof, husable⟩ := mem_newContacts hmem
    exact ⟨.phone, id, row, hrow, hof, husable⟩
  · obtain ⟨⟨id, row⟩, hmem, hrow⟩ := Table.exists_lookup_insertAll
      (newContacts_ne_nil hsome hemails) sh.contacts.emails
    obtain ⟨-, hof, husable⟩ := mem_newContacts hmem
    exact ⟨.email, id, row, hrow, hof, husable⟩

end New

section Written

variable {contacts contacts' : ContactDb} {chan ch : Channel} {id id' : Uuid} {now : Time}
  {groupId customerId : Uuid} {data : ContactCreate chan.Kind String} {rows : Table Uuid chan.Row}
  {row' : ch.Row}

theorem inserted_origin
    (h : createContact chan.table (contacts.rows chan) now groupId customerId id data = .ok rows)
    (hrow' : ((contacts.set chan rows).rows ch).lookup id' = some row') :
    id' = id ∨ ∃ row, (contacts.rows ch).lookup id' = some row ∧ row'.customerId = row.customerId := by
  by_cases hch : ch = chan
  · subst hch
    rw [ContactDb.rows_set_self] at hrow'
    obtain ⟨isPrimary, hflags⟩ := createContact_eq_ok h
    have hback : FlagsOnly rows ((contacts.rows ch).insert id _) := fun id => (hflags id).symm
    obtain ⟨row, hrow, hsame⟩ := hback.lookup hrow'
    rcases Table.lookup_insert_cases hrow with ⟨heq, -⟩ | ⟨-, hold⟩
    · exact .inl heq
    · exact .inr ⟨row, hold, (unflagged_eq hsame).1.symm⟩
  · rw [ContactDb.rows_set_ne _ hch] at hrow'
    exact .inr ⟨row', hrow', rfl⟩

theorem reachable_inserted {customerId' : Uuid}
    (h : createContact chan.table (contacts.rows chan) now groupId customerId id data = .ok rows)
    (hnew : (contacts.rows chan).lookup id = none) (hreach : Reachable contacts customerId') :
    Reachable (contacts.set chan rows) customerId' := by
  obtain ⟨ch, id', row, hrow, hof, husable⟩ := hreach
  by_cases hch : ch = chan
  · subst hch
    obtain ⟨isPrimary, hflags⟩ := createContact_eq_ok h
    have hne : id' ≠ id := by
      rintro rfl
      rw [hnew] at hrow
      cases hrow
    obtain ⟨row', hrow', hsame⟩ := hflags.lookup ((AList.lookup_insert_ne hne).trans hrow)
    obtain ⟨hcustomer, hsameUsable⟩ := unflagged_eq hsame
    refine ⟨ch, id', row', ?_, hcustomer.trans hof, hsameUsable.trans husable⟩
    rw [ContactDb.rows_set_self]
    exact hrow'
  · refine ⟨ch, id', row, ?_, hof, husable⟩
    rw [ContactDb.rows_set_ne _ hch]
    exact hrow

variable {call : MergeCall} {phones emails : List (Uuid × RowFate)}

theorem flushContacts_eq_ok (h : flushContacts call phones emails contacts = .ok contacts')
    (ch : Channel) :
    FlagsOnly (repointRows call.targetId ((Phase.planned phones emails).plan ch) (contacts.rows ch))
      (contacts'.rows ch) := by
  obtain ⟨phoneRows, hphones, h⟩ := Result.of_bind h
  obtain ⟨emailRows, hemails, h⟩ := Result.of_bind h
  cases h
  cases ch with
  | phone => exact flushPlan_eq_ok hphones
  | email => exact flushPlan_eq_ok hemails

theorem flushed_kept (h : flushContacts call phones emails contacts = .ok contacts')
    (hplan : ∀ fate, (id, fate) ∉ (Phase.planned phones emails).plan ch) {row : ch.Row}
    (hrow : (contacts.rows ch).lookup id = some row) :
    ∃ row', (contacts'.rows ch).lookup id = some row' ∧ row'.customerId = row.customerId ∧
      row'.isUsableRow = row.isUsableRow := by
  obtain ⟨row', hrow', hsame⟩ := (flushContacts_eq_ok h ch).lookup
    ((lookup_repointRows_of_notMem hplan).trans hrow)
  exact ⟨row', hrow', unflagged_eq hsame⟩

theorem flushed_origin (h : flushContacts call phones emails contacts = .ok contacts')
    (hrow' : (contacts'.rows ch).lookup id = some row') :
    ∃ row, (contacts.rows ch).lookup id = some row ∧
      ((∀ fate, (id, fate) ∉ (Phase.planned phones emails).plan ch) →
        row'.customerId = row.customerId) := by
  have hflags := flushContacts_eq_ok h ch
  have hback : FlagsOnly (contacts'.rows ch) (repointRows call.targetId
      ((Phase.planned phones emails).plan ch) (contacts.rows ch)) := fun id => (hflags id).symm
  obtain ⟨written, hwritten, hsame⟩ := hback.lookup hrow'
  rcases hrow : (contacts.rows ch).lookup id with _ | row
  · rw [repointRows, Table.lookup_updateAll, Table.lookup_keep, hrow] at hwritten
    cases hwritten
  · refine ⟨row, rfl, fun hplan => ?_⟩
    rw [lookup_repointRows_of_notMem hplan, hrow] at hwritten
    cases hwritten
    exact (unflagged_eq hsame).1.symm

end Written

section Moves

variable {ι : Type} [DecidableEq ι] {i j : ι} {sh sh' : Desk ι} {lo lo' : Session} {ch : Choice}

inductive Moves (i : ι) (sh : Desk ι) : Choice → Session → Desk ι → Session → Prop
  | createCustomer (groupId customerId : Uuid) (phoneIds emailIds : List Uuid)
      (data : CustomerCreate) :
      phoneIds.length = data.phones.length → emailIds.length = data.emails.length →
      (∀ id ∈ phoneIds ++ emailIds, id ∉ sh.drawn) →
      Moves i sh (.createCustomer groupId customerId phoneIds emailIds data) .idle
        (createCustomer groupId customerId phoneIds emailIds data sh) .idle
  | startMerge (ch : Choice) (call : MergeCall) :
      Moves i sh ch .idle sh (.merging call (.reading [] false) .phoneKeys)
  | quiet (ch : Choice) (lo lo' : Session) : (∀ call l phase, lo' ≠ .merging call l phase) →
      Moves i sh ch lo sh lo'
  | insert (id : Uuid) (chan : Channel) (groupId customerId : Uuid)
      (data : ContactCreate chan.Kind String) (rows : Table Uuid chan.Row) : id ∉ sh.drawn →
      createContact chan.table (sh.contacts.rows chan) sh.base.now groupId customerId id data
        = .ok rows →
      Moves i sh (.insert id) (.creating chan groupId customerId data)
        { sh with contacts := sh.contacts.set chan rows, drawn := id :: sh.drawn } .idle
  | statement (call : MergeCall) (lo : MergeLocal) (phase : Phase) (base : Shared ι)
      (lo' : Option MergeLocal) : MergeMoves i call sh.base lo base lo' →
      Moves i sh .go (.merging call lo phase) { sh with base := base } (match lo' with
        | some lo => .merging call lo phase
        | none => .idle)
  | read (call : MergeCall) (writes : List (Uuid × RowWrite)) (phase : Phase) :
      Moves i sh .go (.merging call (.readingEarlier writes) phase) sh
        (.merging call (.readingEarlier writes) (readContacts call sh.contacts phase))
  | commit (call : MergeCall) (writes : List (Uuid × RowWrite)) (earlier copies : List Uuid)
      (phones emails : List (Uuid × RowFate)) (contacts : ContactDb) :
      flushContacts call phones emails sh.contacts = .ok contacts →
      Moves i sh .go (.merging call (.committing writes earlier copies) (.planned phones emails))
        { sh with
          base := rollback i { sh.base with
            db := {
              customers := mergedCustomers call earlier sh.base.db.customers
              parties := mergedParties call writes copies sh.base.db.parties }
            merges := sh.base.merges ++ [(call.duplicateId, call.targetId)] }
          contacts := contacts } .idle
  | written (chan : Channel) (id : Uuid) (loaded : chan.Row) (op : Op chan)
      (rows : Table Uuid chan.Row) : op.run id loaded (sh.contacts.rows chan) = .ok rows →
      Moves i sh .go (.writing chan id loaded op)
        { sh with contacts := sh.contacts.set chan rows } .idle
  | rollback (ch : Choice) (lo : Session) :
      Moves i sh ch lo { sh with base := rollback i sh.base } .idle
  | tick (now : Time) (lo : Session) : Moves i sh (.tick now) lo { sh with base := tick now sh.base } lo

variable {call : MergeCall} {l : MergeLocal} {phase : Phase}

theorem moves_of_merge (h : mergeContactsStep i call sh l phase = some (sh', lo')) :
    Moves i sh .go (.merging call l phase) sh' lo' := by
  have hstatement : ∀ l' phase', (mergeStep i call sh.base l').map (fun out =>
      ({ sh with base := out.1 }, match out.2 with
        | some lo => Session.merging call lo phase'
        | none => .idle)) = some (sh', lo') → Moves i sh .go (.merging call l' phase') sh' lo' := by
    intro l' phase' h
    obtain ⟨⟨base, lo₁⟩, hstep, h⟩ := Option.map_eq_some_iff.mp h
    cases h
    exact .statement call l' phase' base lo₁ (mergeMoves_of_step hstep)
  unfold mergeContactsStep at h
  split at h
  · next writes earlier copies phones emails =>
    split at h
    · next contacts hcontacts =>
      split at h
      · next hscope =>
        cases h
        rw [commitMerge, if_pos hscope]
        exact .commit call writes earlier copies phones emails contacts hcontacts
      · cases h
        exact .rollback _ _
    · cases h
      exact .rollback _ _
  · cases h
  · exact hstatement _ _ h
  · cases h
    exact .read call _ _
  · exact hstatement _ _ h

theorem moves_of_step (h : step i ch sh lo = some (sh', lo')) : Moves i sh ch lo sh' lo' := by
  unfold step at h
  split at h
  · split at h
    · next hguard =>
      cases h
      obtain ⟨-, hphones, hemails, -, hfresh⟩ := hguard
      exact .createCustomer _ _ _ _ _ hphones hemails hfresh
    · cases h
  · split at h
    · next call hcall =>
      cases h
      exact .startMerge _ call
    · cases h
  · split at h
    · cases h
      exact .quiet _ _ _ fun _ _ _ => nofun
    · cases h
  · split at h
    · cases h
      refine .quiet _ _ _ fun call l phase => ?_
      split
      · nofun
      · nofun
    · cases h
  · split at h
    · next hfresh =>
      split at h
      · next rows hrows =>
        cases h
        exact .insert _ _ _ _ _ rows hfresh hrows
      · cases h
        exact .quiet _ _ _ fun _ _ _ => nofun
    · cases h
  · exact moves_of_merge h
  · cases h
    exact .quiet _ _ _ fun _ _ _ => nofun
  · split at h
    · cases h
      exact .quiet _ _ _ fun _ _ _ => nofun
    · cases h
      exact .quiet _ _ _ fun _ _ _ => nofun
  · split at h
    · next rows hrows =>
      cases h
      exact .written _ _ _ _ rows hrows
    · cases h
      exact .quiet _ _ _ fun _ _ _ => nofun
  · cases h
    exact .rollback _ _
  · cases h
    exact .tick _ _
  · cases h

/-! ### One step -/

theorem sound_moves (hsound : Sound sh) (h : Moves i sh ch lo sh' lo') : Sound sh' := by
  obtain ⟨hcompatible, hdrawn⟩ := hsound
  cases h with
  | createCustomer groupId customerId phoneIds emailIds data hphones hemails hfresh =>
    refine ⟨hcompatible, fun chan id row hrow => ?_⟩
    rcases created_origin hrow with hnew | hold
    · exact List.mem_append_left _ hnew
    · exact List.mem_append_right _ (hdrawn chan id row hold)
  | startMerge | quiet | read => exact ⟨hcompatible, hdrawn⟩
  | insert id chan groupId customerId data rows hfresh hrows =>
    refine ⟨hcompatible, fun chan' id' row' hrow' => ?_⟩
    rcases inserted_origin hrows hrow' with rfl | ⟨row, hrow, -⟩
    · exact List.mem_cons_self
    · exact List.mem_cons_of_mem _ (hdrawn chan' id' row hrow)
  | statement call l phase base l' hmove => exact ⟨hmove.compatible hcompatible, hdrawn⟩
  | commit call writes earlier copies phones emails contacts hcontacts =>
    refine ⟨hcompatible.release, fun chan id row' hrow' => ?_⟩
    obtain ⟨row, hrow, -⟩ := flushed_origin hcontacts hrow'
    exact hdrawn chan id row hrow
  | written chan id loaded op rows hrows =>
    refine ⟨hcompatible, fun chan' id' row' hrow' => ?_⟩
    obtain ⟨row, hrow, -⟩ := written_origin hrows hrow'
    exact hdrawn chan' id' row hrow
  | rollback => exact ⟨hcompatible.release, hdrawn⟩
  | tick => exact ⟨hcompatible, hdrawn⟩

variable {base : Shared ι}

theorem held_of_release {r : Resource} {m : Mode} (hij : j ≠ i) (h : Held base.grants j r m) :
    Held (Customers.rollback i base).grants j r m :=
  held_release.mpr ⟨h, hij⟩

variable {id : Uuid}

omit [DecidableEq ι] in
theorem mine_of_commit {phones emails : List (Uuid × RowFate)} {contacts : ContactDb} {d : Uuid}
    (hij : j ≠ i) (hsound : Sound sh) (hplan : PlanKnown i call sh (.planned phones emails))
    (hcontacts : flushContacts call phones emails sh.contacts = .ok contacts)
    (hheld : Held sh.base.grants j (.customer d) .noKeyUpdate) {chan : Channel}
    (hmine : Mine sh d chan id) {row' : chan.Row}
    (hrow' : (contacts.rows chan).lookup id = some row') : row'.customerId = d := by
  obtain ⟨row, hrow, hsame⟩ := flushed_origin hcontacts hrow'
  have hof : row.customerId = d := hmine.2 row hrow
  refine (hsame fun fate hmem => ?_).trans hof
  obtain ⟨hdup, -, hown⟩ := hplan chan id fate hmem
  rw [hown row hrow] at hof
  rw [hof] at hdup
  exact hij (hsound.compatible j i _ _ _ hheld hdup rfl)

theorem respects_moves (hij : j ≠ i) (hsound : Sound sh) (hknows : Knows i sh lo)
    (h : Moves i sh ch lo sh' lo') : Respects j sh sh' := by
  cases h with
  | createCustomer groupId customerId phoneIds emailIds data hphones hemails hfresh =>
    refine ⟨fun _ _ h => h, fun d _ chan id hmine => ⟨List.mem_append_right _ hmine.1, ?_⟩⟩
    intro row hrow
    rw [created_kept fun hmem => hfresh id hmem hmine.1] at hrow
    exact hmine.2 row hrow
  | startMerge | quiet | read => exact ⟨fun _ _ h => h, fun _ _ _ _ h => h⟩
  | insert id chan groupId customerId data rows hfresh hrows =>
    refine ⟨fun _ _ h => h, fun d _ chan' id' hmine => ⟨List.mem_cons_of_mem _ hmine.1, ?_⟩⟩
    intro row' hrow'
    rcases inserted_origin hrows hrow' with rfl | ⟨row, hrow, hsame⟩
    · exact (hfresh hmine.1).elim
    · exact hsame.trans (hmine.2 row hrow)
  | statement call l phase base l' hmove =>
    exact ⟨fun _ _ h => (hmove.held_other hij).mpr h, fun _ _ _ _ h => h⟩
  | commit call writes earlier copies phones emails contacts hcontacts =>
    refine ⟨fun _ _ h => held_of_release hij h, fun d hheld chan id hmine => ⟨hmine.1, ?_⟩⟩
    exact fun row' hrow' => mine_of_commit hij hsound hknows.2 hcontacts hheld hmine hrow'
  | written chan id loaded op rows hrows =>
    refine ⟨fun _ _ h => h, fun d _ chan' id' hmine => ⟨hmine.1, fun row' hrow' => ?_⟩⟩
    obtain ⟨row, hrow, hsame⟩ := written_origin hrows hrow'
    exact hsame.trans (hmine.2 row hrow)
  | rollback => exact ⟨fun _ _ h => held_of_release hij h, fun _ _ _ _ h => h⟩
  | tick => exact ⟨fun _ _ h => h, fun _ _ _ _ h => h⟩

omit [DecidableEq ι] in
theorem planKnown_read (hsound : Sound sh)
    (hheld : Held sh.base.grants i (.customer call.duplicateId) .noKeyUpdate)
    (h : PlanKnown i call sh phase) :
    PlanKnown i call sh (readContacts call sh.contacts phase) := by
  have hread : ∀ (chan : Channel) (keys : List String) (id : Uuid) (fate : RowFate),
      (id, fate) ∈ planContacts (·.value) keys (rowsOf (sh.contacts.rows chan) call.duplicateId) →
      Held sh.base.grants i (.customer call.duplicateId) .noKeyUpdate ∧
        Mine sh call.duplicateId chan id := by
    intro chan keys id fate hmem
    obtain ⟨row, hrow⟩ := mem_planContacts hmem
    obtain ⟨hlookup, hof⟩ := mem_rowsOf.mp hrow
    refine ⟨hheld, hsound.drawn chan id row hlookup, fun row' hrow' => ?_⟩
    obtain rfl := Option.mem_unique hlookup hrow'
    exact hof
  intro chan id fate hmem
  cases phase with
  | phoneKeys => exact h chan id fate (by cases chan <;> exact hmem)
  | phoneRows keys => cases chan with
    | phone => exact hread .phone keys id fate hmem
    | email => cases hmem
  | emailKeys phones => exact h chan id fate (by cases chan <;> exact hmem)
  | emailRows phones keys => cases chan with
    | phone => exact h .phone id fate hmem
    | email => exact hread .email keys id fate hmem
  | planned phones emails => exact h chan id fate hmem

theorem knows_moves (hsound : Sound sh) (hknows : Knows i sh lo) (h : Moves i sh ch lo sh' lo') :
    Knows i sh' lo' := by
  cases h with
  | createCustomer | insert | commit | written | rollback => trivial
  | startMerge ch call => exact ⟨trivial, fun chan id fate hmem => by cases chan <;> cases hmem⟩
  | quiet ch lo lo' hlo' => cases lo' with
    | merging call l phase => exact (hlo' call l phase rfl).elim
    | idle | creating | guarding | counting | writing => trivial
  | statement call l phase base l' hmove =>
    cases l' with
    | none => trivial
    | some l' =>
      refine ⟨duplicateHeld_move hknows.1 hmove, fun chan id fate hmem => ?_⟩
      obtain ⟨hheld, hmine⟩ := hknows.2 chan id fate hmem
      exact ⟨hmove.held_own hheld, hmine⟩
  | read call writes phase => exact ⟨hknows.1, planKnown_read hsound hknows.1 hknows.2⟩
  | tick now lo => exact knows_respects hknows ⟨fun _ _ h => h, fun _ _ _ _ h => h⟩

variable {c' : CustomerRow}

theorem mergedCustomers_live {customers : Table Uuid CustomerRow} {earlier : List Uuid}
    (hc' : (mergedCustomers call earlier customers).lookup id = some c')
    (hlive : c'.lifecycleStatus ≠ .merged) : id ≠ call.duplicateId ∧
      ∃ c, customers.lookup id = some c ∧ c.lifecycleStatus ≠ .merged := by
  rw [lookup_mergedCustomers] at hc'
  obtain ⟨c, hc, rfl⟩ := Option.map_eq_some_iff.mp hc'
  by_cases hid : id = call.duplicateId
  · simp only [hid, if_true] at hlive
    exact (hlive rfl).elim
  · refine ⟨hid, c, hc, ?_⟩
    by_cases hmem : id ∈ earlier
    · simp only [hid, if_false, hmem, if_true] at hlive
      exact hlive
    · simp only [hid, if_false, hmem] at hlive
      exact hlive

theorem live_of_statement {l' : Option MergeLocal} {base' : Shared ι}
    (h : MergeMoves i call base l base' l') (hc' : base'.db.customers.lookup id = some c')
    (hlive : c'.lifecycleStatus ≠ .merged) :
    ∃ c, base.db.customers.lookup id = some c ∧ c.lifecycleStatus ≠ .merged := by
  cases h with
  | commit writes earlier copies => exact (mergedCustomers_live hc' hlive).2
  | copies writes earlier copies hcopies hfree =>
    rw [takeAll_db.1] at hc'
    exact ⟨c', hc', hlive⟩
  | pair | first | second | row | earlierRow | rollback | pairsHeld | pairsMissing | pairsRead
  | checked | keys | rows | planned | earlier | earlierHeld => exact ⟨c', hc', hlive⟩

theorem kept_moves (hsound : Sound sh) (hknows : Knows i sh lo) (hok : LeavesOne ch sh lo)
    (h : Moves i sh ch lo sh' lo') (hkept : Kept customerId sh) : Kept customerId sh' := by
  intro c' hc' hlive
  cases h with
  | createCustomer groupId newId phoneIds emailIds data hphones hemails hfresh =>
    rcases Table.lookup_insert_cases hc' with ⟨rfl, -⟩ | ⟨-, hold⟩
    · exact reachable_created hphones hemails
    · obtain ⟨chan, id, row, hrow, hof, husable⟩ := hkept c' hold hlive
      refine ⟨chan, id, row, ?_, hof, husable⟩
      rw [created_kept fun hmem => hfresh id hmem (hsound.drawn chan id row hrow)]
      exact hrow
  | startMerge | quiet | read | rollback | tick => exact hkept c' hc' hlive
  | insert id chan groupId owner data rows hfresh hrows =>
    refine reachable_inserted hrows ?_ (hkept c' hc' hlive)
    rw [Option.eq_none_iff_forall_ne_some]
    exact fun row hrow => hfresh (hsound.drawn chan id row hrow)
  | statement call l phase base l' hmove =>
    obtain ⟨c, hc, hclive⟩ := live_of_statement hmove hc' hlive
    exact hkept c hc hclive
  | commit call writes earlier copies phones emails contacts hcontacts =>
    obtain ⟨hne, c, hc, hclive⟩ := mergedCustomers_live hc' hlive
    obtain ⟨chan, id, row, hrow, hof, husable⟩ := hkept c hc hclive
    -- the merge writes rows of its duplicate only
    have hplan : ∀ fate, (id, fate) ∉ (Phase.planned phones emails).plan chan := by
      intro fate hmem
      obtain ⟨-, -, hown⟩ := hknows.2 chan id fate hmem
      exact hne (hof.symm.trans (hown row hrow))
    obtain ⟨row', hrow', hcustomer, hsame⟩ := flushed_kept hcontacts hplan hrow
    exact ⟨chan, id, row', hrow', hcustomer.trans hof, hsame.trans husable⟩
  | written chan id loaded op rows hrows =>
    refine reachable_written hrows (hok rfl ?_) (hkept c' hc' hlive)
    rw [hrows]
    rfl

end Moves

/-! ### Runs -/

abbrev Ok {ι : Type} (c : Config ι (Desk ι) Session) (a : ι × Choice) : Prop :=
  LeavesOne a.2 c.shared (c.locals a.1)

theorem opening_holds {ι : Type} (db : CustomerDb) (contacts : ContactDb) :
    Holds Sound Knows (opening db contacts : Config ι (Desk ι) Session) := by
  refine ⟨⟨Compatible.nil, fun chan id row hrow => ?_⟩, fun i => trivial⟩
  have hkey : id ∈ (contacts.rows chan).keys :=
    AList.mem_keys.mpr (AList.lookup_isSome.mp (Option.isSome_iff_exists.mpr ⟨row, hrow⟩))
  cases chan with
  | phone => exact List.mem_append_left _ hkey
  | email => exact List.mem_append_right _ hkey

theorem move_holds {ι : Type} [DecidableEq ι] {c : Config ι (Desk ι) Session} {a : ι × Choice}
    (hc : Holds Sound Knows c) : Holds Sound Knows (move step c a) := by
  refine noninterference_all (G := Sound) (L := Knows)
    (fun i ch sh lo sh' lo' hG hL h => ?_) (fun i j ch sh lo lo' sh' lo'' hij hG hLi hLj h => ?_) hc a
  · exact ⟨sound_moves hG (moves_of_step h), knows_moves hG hL (moves_of_step h)⟩
  · exact knows_respects hLj (respects_moves hij.symm hG hLi (moves_of_step h))

/-- **A customer stays reachable.**  In every run whose deletions, closings and
do-not-use marks still leave a usable phone or e-mail when they commit, a
customer that is reachable at the start, or is created on the way, is reachable
in every state in which it is not merged. -/
theorem customers_stay_reachable {ι : Type} [DecidableEq ι] (db : CustomerDb)
    (contacts : ContactDb) (actions : List (ι × Choice)) (customerId : Uuid)
    (hstart : Kept customerId (opening db contacts : Config ι (Desk ι) Session).shared)
    (hok : Run.Along (move step) Ok (opening db contacts) actions) :
    Kept customerId (actions.foldl (move step) (opening db contacts)).shared := by
  have hstep : ∀ (c : Config ι (Desk ι) Session) (a : ι × Choice),
      (Holds Sound Knows c ∧ Kept customerId c.shared) → Ok c a →
      Holds Sound Knows (move step c a) ∧ Kept customerId (move step c a).shared := by
    rintro c a ⟨hc, hkept⟩ ha
    refine ⟨move_holds hc, move_shared hkept fun sh' lo' h => ?_⟩
    exact kept_moves hc.1 (hc.2 a.1) ha (moves_of_step h) hkept
  exact (Run.invariant_along hstep ⟨opening_holds db contacts, hstart⟩ hok).2

instance {ι : Type} (sh : Desk ι) : ∀ ch lo, Decidable (LeavesOne ch sh lo)
  | .go, .writing chan id loaded op => inferInstanceAs (Decidable (true = true →
      (op.run id loaded (sh.contacts.rows chan)).isOk = true →
      ∀ stored ∈ (sh.contacts.rows chan).lookup id, stored.isUsableRow = true →
        (op.leaves loaded stored).any (·.isUsableRow) = true ∨
          usableCount sh.contacts.phones stored.customerId id +
            usableCount sh.contacts.emails stored.customerId id ≠ 0))
  | .createCustomer .., .writing .. | .merge .., .writing .. | .create .., .writing ..
  | .change .., .writing .. | .insert _, .writing .. | .fail, .writing .. | .tick _, .writing .. =>
    .isTrue nofun
  | _, .idle | _, .merging .. | _, .creating .. | _, .guarding .. | _, .counting .. =>
    inferInstanceAs (Decidable True)

instance (db : ContactDb) (customerId : Uuid) : Decidable (Reachable db customerId) :=
  decidable_of_iff
    ((∃ e ∈ db.phones.entries, e.2.customerId = customerId ∧ e.2.isUsableRow = true) ∨
      ∃ e ∈ db.emails.entries, e.2.customerId = customerId ∧ e.2.isUsableRow = true) <| by
    constructor
    · rintro (⟨e, he, h⟩ | ⟨e, he, h⟩)
      · exact ⟨.phone, e.1, e.2, Table.lookup_eq_some_iff_mem.mpr he, h⟩
      · exact ⟨.email, e.1, e.2, Table.lookup_eq_some_iff_mem.mpr he, h⟩
    · rintro ⟨chan, id, row, hrow, h⟩
      cases chan with
      | phone => exact .inl ⟨⟨id, row⟩, Table.lookup_eq_some_iff_mem.mp hrow, h⟩
      | email => exact .inr ⟨⟨id, row⟩, Table.lookup_eq_some_iff_mem.mp hrow, h⟩

def go (i n : ℕ) : List (ℕ × Choice) := List.replicate n (i, .go)

def oneMobile (value : String) : CustomerCreate where
  phones := [{ contactType := .mobile, value := value }]
  contact := .inl (List.cons_ne_nil _ _)
  once := by simp
  unmerged := by decide

/-- Two customers with one number; the first gets an e-mail, its phone is
deleted, and the second is merged into it. -/
def phoneReplaced : List (ℕ × Choice) :=
  [(0, .createCustomer 7 1 [10] [] (oneMobile "+41791234567")),
    (0, .createCustomer 7 2 [11] [] (oneMobile "+41791234567")),
    (0, .create .email 7 1 { contactType := .personal, value := "a@b.ch" }), (0, .insert 20),
    (1, .change .phone 7 1 10 .delete)] ++ go 1 3 ++
  (0, .merge 7 2 1 none 1) :: go 0 16

theorem customers_stay_reachable_phoneReplaced :
    ((phoneReplaced.foldl (move step) (opening {} {})).shared.contacts.phones.entries.map
      fun e => (e.1, e.2.customerId)) = [(11, 1)] ∧
    ((phoneReplaced.foldl (move step) (opening {} {})).shared.base.db.customers.lookup 2).map
      (·.lifecycleStatus) = some .merged ∧
    Kept 1 (phoneReplaced.foldl (move step) (opening {} {})).shared := by
  have hok : Run.Along (move step) Ok (opening {} {}) phoneReplaced := by decide +kernel
  exact ⟨by decide +kernel, by decide +kernel,
    customers_stay_reachable {} {} phoneReplaced 1 (fun c hc => by cases hc) hok⟩

def phoneAndEmail : ContactDb where
  phones := (∅ : Table Uuid (ContactRow PhoneType String)).insert 10
    { groupId := 7, customerId := 1, contactType := .mobile, value := "+41791234567" }
  emails := (∅ : Table Uuid (ContactRow EmailType String)).insert 20
    { groupId := 7, customerId := 1, contactType := .personal, value := "a@b.ch" }

def oneCustomer : CustomerDb where
  customers := (∅ : Table Uuid CustomerRow).insert 1 { groupId := 7 }

/-- One session deletes the phone while another deletes the e-mail. -/
def twoDeletions : List (ℕ × Choice) :=
  [(0, .change .phone 7 1 10 .delete), (1, .change .email 7 1 20 .delete)] ++
    go 0 2 ++ go 1 2 ++ go 0 1 ++ go 1 1

/-- Two deletions that each count the other's row leave the customer with none. -/
theorem twoDeletions_unreachable :
    ¬ ∀ (db : CustomerDb) (contacts : ContactDb) (actions : List (ℕ × Choice)) (customerId : Uuid),
      Kept customerId (opening db contacts : Config ℕ (Desk ℕ) Session).shared →
      Kept customerId (actions.foldl (move step) (opening db contacts)).shared := by
  intro h
  have hstart : Reachable phoneAndEmail 1 := by decide
  have hend := h oneCustomer phoneAndEmail twoDeletions 1 fun _ _ _ => hstart
  have hlive : (twoDeletions.foldl (move step)
      (opening oneCustomer phoneAndEmail)).shared.base.db.customers.lookup 1 =
        some { groupId := 7 } := rfl
  have hnone : ¬ Reachable (twoDeletions.foldl (move step)
      (opening oneCustomer phoneAndEmail)).shared.contacts 1 := by
    decide +kernel
  exact hnone (hend _ hlive (by decide))

end Nexotec.ContactSessions
