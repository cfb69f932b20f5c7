/-
Phones, e-mails and addresses of a customer (`ContactChannelMixin`,
`app/customer/services/customer.py`).

The three tables have the same columns but for the type and what identifies a
row, so everything here is over a type `τ` of types and a type `ν` of values.
A row is usable when it is neither closed nor marked do-not-use; in each group
of one customer and one type, the usable rows have one primary
(`_fixup_single_primary`).

Every write settles the primaries of the groups it touched.  `FlagsOnly` says
that two tables differ in primaries only; with it each operation has one
lemma that says what it does to the other columns.
-/
import Mathlib.Data.List.Sort
import Nexotec.Core.Base

namespace Nexotec.Contacts

/-! ### Rows -/

/-- A row of one of the three tables, less its label, the reason of a
do-not-use mark and the consent record. -/
structure ContactRow (τ ν : Type) where
  groupId : Uuid
  customerId : Uuid
  contactType : τ
  value : ν
  isPrimary : Bool := false
  validTo : Option Time := none
  doNotUse : Bool := false
  createdAt : Time := 0

def ContactRow.isUsableRow {τ ν : Type} (row : ContactRow τ ν) : Bool :=
  row.validTo.isNone && !row.doNotUse

/-- What the three tables differ in: the noun in their messages, whether a
customer has each value once, and what an `IntegrityError` becomes. -/
structure ContactTable (ν : Type) where
  noun : String
  unique : Bool
  refusal : Option ν → AppError

def phoneTable : ContactTable String where
  noun := "phone"
  unique := true
  refusal := fun value => conflictError "This phone number is already on this customer."
    [("phoneE164", value.getD "None")]

def emailTable : ContactTable String where
  noun := "email"
  unique := true
  refusal := fun value => conflictError "This email address is already on this customer."
    [("emailAddress", value.getD "None")]

def UniqueValues {τ ν : Type} (rows : Table Uuid (ContactRow τ ν)) : Prop :=
  ∀ e ∈ rows.entries, ∀ e' ∈ rows.entries, e.2.customerId = e'.2.customerId →
    e.2.value = e'.2.value → e.1 = e'.1

instance {τ ν : Type} [DecidableEq ν] (rows : Table Uuid (ContactRow τ ν)) :
    Decidable (UniqueValues rows) :=
  inferInstanceAs (Decidable (∀ e ∈ rows.entries, ∀ e' ∈ rows.entries, _ → _ → _))

/-- A flush: the unique constraint holds, or the write raises. -/
def ContactTable.flush {τ ν : Type} [DecidableEq ν] (table : ContactTable ν) (value : Option ν)
    (rows : Table Uuid (ContactRow τ ν)) : Result (Table Uuid (ContactRow τ ν)) :=
  if table.unique ∧ ¬ UniqueValues rows then .error (table.refusal value) else .ok rows

section

variable {τ ν : Type} [DecidableEq τ]

/-- The row is in the group of the customer and the type. -/
def ContactRow.inGroup (customerId : Uuid) (typeValue : τ) (row : ContactRow τ ν) : Bool :=
  row.customerId = customerId ∧ row.contactType = typeValue

/-! ### Primaries -/

def groupRows (rows : Table Uuid (ContactRow τ ν)) (customerId : Uuid) (typeValue : τ) :
    List (Uuid × ContactRow τ ν) :=
  ((rows.entries.filter fun e => e.2.inGroup customerId typeValue).map fun e =>
    (e.1, e.2)).insertionSort fun a b => a.2.createdAt ≤ b.2.createdAt

/-- The primary a group is left with: its first usable primary, else its first
usable row. -/
def elected (group : List (Uuid × ContactRow τ ν)) : Option Uuid :=
  let usable := group.filter (·.2.isUsableRow)
  ((usable.find? (·.2.isPrimary)).or usable.head?).map (·.1)

/-- `_fixup_single_primary`: unusable rows and all primaries but the elected
one lose the flag. -/
def fixupSinglePrimary (customerId : Uuid) (rows : Table Uuid (ContactRow τ ν)) (typeValue : τ) :
    Table Uuid (ContactRow τ ν) :=
  rows.updateAll fun id row =>
    if row.inGroup customerId typeValue then
      { row with isPrimary := elected (groupRows rows customerId typeValue) = some id }
    else row

def hasUsablePrimary (rows : Table Uuid (ContactRow τ ν)) (customerId : Uuid) (typeValue : τ) :
    Bool :=
  (rows.search fun _ row => row.inGroup customerId typeValue && row.isPrimary &&
    row.isUsableRow).isSome

def unsetOtherPrimaries (rows : Table Uuid (ContactRow τ ν)) (customerId : Uuid) (typeValue : τ) :
    Table Uuid (ContactRow τ ν) :=
  rows.updateAll fun _ row =>
    if row.inGroup customerId typeValue then { row with isPrimary := false } else row

/-! ### Create -/

structure ContactCreate (τ ν : Type) where
  contactType : τ
  value : ν
  isPrimary : Bool := false

def ContactCreate.row (data : ContactCreate τ ν) (now : Time) (groupId customerId : Uuid)
    (isPrimary : Bool) : ContactRow τ ν where
  groupId := groupId
  customerId := customerId
  contactType := data.contactType
  value := data.value
  isPrimary := isPrimary
  createdAt := now

/-- `create_customer_phone` and its kin: an existing usable primary stays
unless the request says so. -/
def createContact [DecidableEq ν] (table : ContactTable ν) (rows : Table Uuid (ContactRow τ ν))
    (now : Time) (groupId customerId id : Uuid) (data : ContactCreate τ ν) :
    Result (Table Uuid (ContactRow τ ν)) :=
  let isPrimary := data.isPrimary || !hasUsablePrimary rows customerId data.contactType
  let rows := if isPrimary then unsetOtherPrimaries rows customerId data.contactType else rows
  table.flush (some data.value) (rows.insert id (data.row now groupId customerId isPrimary))

/-! ### Update -/

/-- A PATCH body.  The schema takes a `null` for every column. -/
structure ContactUpdate (τ ν : Type) where
  contactType : Option (Option τ) := none
  value : Option (Option ν) := none
  isPrimary : Option (Option Bool) := none
  validTo : Option (Option Time) := none
  doNotUse : Option (Option Bool) := none

/-- A `null` for a column that takes none. -/
def ContactUpdate.hasNull (data : ContactUpdate τ ν) : Bool :=
  data.contactType.any (·.isNone) || data.value.any (·.isNone) || data.isPrimary.any (·.isNone) ||
    data.doNotUse.any (·.isNone)

def ContactUpdate.becomesUnusable (data : ContactUpdate τ ν) (row : ContactRow τ ν) : Bool :=
  (data.validTo.join.isSome && row.validTo.isNone) ||
    (data.doNotUse.join = some true && !row.doNotUse)

/-- `usable_after`: the row as the PATCH leaves it. -/
def ContactUpdate.usableAfter (data : ContactUpdate τ ν) (row : ContactRow τ ν) : Bool :=
  (data.validTo.getD row.validTo).isNone &&
    !((data.doNotUse.getD (some row.doNotUse)).getD false)

/-- `_prepare_primary_change`: the groups to settle, the rows once the other
primaries are unset, and whether the row itself is demoted. -/
def preparePrimaryChange (rows : Table Uuid (ContactRow τ ν)) (row : ContactRow τ ν)
    (data : ContactUpdate τ ν) (noun : String) :
    Result (List τ × Table Uuid (ContactRow τ ν) × Bool) :=
  let newType := data.contactType.join.getD row.contactType
  let moves := newType ≠ row.contactType
  let groups :=
    if moves then [row.contactType, newType]
    else if row.isUsableRow ≠ data.usableAfter row ∨ data.isPrimary.isSome then [newType]
    else []
  if data.isPrimary.join = some true then
    if (!row.isPrimary || moves) && data.usableAfter row then
      .ok (groups, unsetOtherPrimaries rows row.customerId newType, false)
    else .ok (groups, rows, false)
  else if data.isPrimary.join = some false && row.isPrimary then
    .error (badRequestError
      s!"Cannot unset the primary {noun} directly — mark a different {noun} as primary instead.")
  else .ok (groups, rows,
    moves && row.isPrimary && hasUsablePrimary rows row.customerId newType)

/-- A column after the `UPDATE`: only one that differs from what was loaded is
written. -/
def setColumn {α : Type} [DecidableEq α] (new : Option α) (loaded stored : α) : α :=
  match new with
  | some v => if v = loaded then stored else v
  | none => stored

theorem setColumn_same {α : Type} [DecidableEq α] (new : Option α) (x : α) :
    setColumn new x x = new.getD x := by
  cases new with
  | none => rfl
  | some v =>
    unfold setColumn
    dsimp only
    split
    · next heq => exact heq.symm
    · rfl

/-- The `UPDATE` of a row: `loaded` as the session read it, `stored` as it is. -/
def ContactUpdate.write [DecidableEq ν] (data : ContactUpdate τ ν) (demoted : Bool)
    (loaded stored : ContactRow τ ν) : ContactRow τ ν :=
  { stored with
    contactType := setColumn data.contactType.join loaded.contactType stored.contactType
    value := setColumn data.value.join loaded.value stored.value
    isPrimary := setColumn (data.isPrimary.join.or (if demoted then some false else none))
      loaded.isPrimary stored.isPrimary
    validTo := setColumn data.validTo loaded.validTo stored.validTo
    doNotUse := setColumn data.doNotUse.join loaded.doNotUse stored.doNotUse }

/-- `update_customer_phone` and its kin once the guard has passed.  A row that
is gone by then raises. -/
def updateContact [DecidableEq ν] (table : ContactTable ν) (rows : Table Uuid (ContactRow τ ν))
    (id : Uuid) (loaded : ContactRow τ ν) (data : ContactUpdate τ ν) :
    Result (Table Uuid (ContactRow τ ν)) := do
  let (groups, rows, demoted) ← preparePrimaryChange rows loaded data table.noun
  if data.hasNull then .error (table.refusal data.value.join)
  else if (rows.lookup id).isNone then .error (internalError "the row to update is gone")
  else
    let rows ← table.flush data.value.join (rows.modify id (data.write demoted loaded))
    pure (groups.foldl (fixupSinglePrimary loaded.customerId) rows)

/-! ### Delete -/

/-- `delete_customer_phone` and its kin once the guard has passed; the row may
be gone by then. -/
def deleteContact (rows : Table Uuid (ContactRow τ ν)) (id : Uuid) (loaded : ContactRow τ ν) :
    Table Uuid (ContactRow τ ν) :=
  fixupSinglePrimary loaded.customerId (rows.erase id) loaded.contactType

/-! ### Merge (`_repoint_contacts`) -/

/-- What a merge does with a row of the duplicate. -/
inductive RowFate where
  | move
  | drop
  deriving DecidableEq

def rowsOf (rows : Table Uuid (ContactRow τ ν)) (customerId : Uuid) :
    List (Uuid × ContactRow τ ν) :=
  (rows.entries.filter fun e => e.2.customerId = customerId).map fun e => (e.1, e.2)

/-- The loop: a row whose identifying fields the survivor has by now is
dropped. -/
def planContacts {κ : Type} [DecidableEq κ] (key : ContactRow τ ν → κ) :
    List κ → List (Uuid × ContactRow τ ν) → List (Uuid × RowFate)
  | _, [] => []
  | targetKeys, (id, row) :: rows =>
    if key row ∈ targetKeys then (id, .drop) :: planContacts key targetKeys rows
    else (id, .move) :: planContacts key (key row :: targetKeys) rows

/-- The `UPDATE`s and `DELETE`s of the loop. -/
def repointRows (targetId : Uuid) (plan : List (Uuid × RowFate))
    (rows : Table Uuid (ContactRow τ ν)) : Table Uuid (ContactRow τ ν) :=
  (rows.keep fun id _ => plan.lookup id ≠ some .drop).updateAll fun id row =>
    if plan.lookup id = some .move then { row with customerId := targetId } else row

def settleTarget (targetId : Uuid) (plan : List (Uuid × RowFate))
    (rows : Table Uuid (ContactRow τ ν)) : Table Uuid (ContactRow τ ν) :=
  if plan.any (·.2 = .move) then
    ((rowsOf rows targetId).map (·.2.contactType)).dedup.foldl (fixupSinglePrimary targetId) rows
  else rows

/-- The loop's writes at the flush.  A row to move that is gone by then raises. -/
def flushPlan [DecidableEq ν] (table : ContactTable ν) (targetId : Uuid)
    (plan : List (Uuid × RowFate)) (rows : Table Uuid (ContactRow τ ν)) :
    Result (Table Uuid (ContactRow τ ν)) :=
  if plan.any fun w => w.2 = .move && (rows.lookup w.1).isNone then
    .error (internalError "the row to update is gone")
  else do
    let rows ← table.flush none (repointRows targetId plan rows)
    pure (settleTarget targetId plan rows)

end

section Flags

variable {τ ν : Type}

def ContactRow.unflagged (row : ContactRow τ ν) : ContactRow τ ν :=
  { row with isPrimary := false }

def FlagsOnly (rows rows' : Table Uuid (ContactRow τ ν)) : Prop :=
  ∀ id, (rows'.lookup id).map ContactRow.unflagged = (rows.lookup id).map ContactRow.unflagged

variable {rows rows' rows'' : Table Uuid (ContactRow τ ν)}

theorem FlagsOnly.refl (rows : Table Uuid (ContactRow τ ν)) : FlagsOnly rows rows := fun _ => rfl

theorem FlagsOnly.trans (h : FlagsOnly rows rows') (h' : FlagsOnly rows' rows'') :
    FlagsOnly rows rows'' := fun id => (h' id).trans (h id)

theorem FlagsOnly.lookup (h : FlagsOnly rows rows') {id : Uuid} {row : ContactRow τ ν}
    (hrow : rows.lookup id = some row) :
    ∃ row', rows'.lookup id = some row' ∧ row'.unflagged = row.unflagged := by
  have hid := h id
  rw [hrow, Option.map_some] at hid
  exact Option.map_eq_some_iff.mp hid

theorem FlagsOnly.insert (h : FlagsOnly rows rows') (id : Uuid) (row : ContactRow τ ν) :
    FlagsOnly (rows.insert id row) (rows'.insert id row) := by
  intro id'
  rw [Table.lookup_insert_iff, Table.lookup_insert_iff]
  split
  · rfl
  · exact h id'

theorem FlagsOnly.modify (h : FlagsOnly rows rows') (id : Uuid)
    {f : ContactRow τ ν → ContactRow τ ν}
    (hf : ∀ row row', row'.unflagged = row.unflagged → (f row').unflagged = (f row).unflagged) :
    FlagsOnly (rows.modify id f) (rows'.modify id f) := by
  intro id'
  rw [Table.lookup_modify, Table.lookup_modify]
  split
  · have hid := h id'
    rcases hrow : rows.lookup id' with _ | row
    · rw [hrow, Option.map_none, Option.map_eq_none_iff] at hid
      rw [hid]
    · obtain ⟨row', hrow', hsame⟩ := h.lookup hrow
      rw [hrow', Option.map_some, Option.map_some, Option.map_some, Option.map_some, hf row row' hsame]
  · exact h id'

theorem flagsOnly_updateAll {f : Uuid → ContactRow τ ν → ContactRow τ ν}
    (hf : ∀ id row, (f id row).unflagged = row.unflagged) : FlagsOnly rows (rows.updateAll f) := by
  intro id
  rw [Table.lookup_updateAll, Option.map_map]
  rcases rows.lookup id with _ | row
  · rfl
  · exact congrArg some (hf id row)

variable [DecidableEq τ]

theorem flagsOnly_unset (customerId : Uuid) (typeValue : τ) :
    FlagsOnly rows (unsetOtherPrimaries rows customerId typeValue) := by
  refine flagsOnly_updateAll fun id row => ?_
  split <;> rfl

theorem flagsOnly_fixup (customerId : Uuid) (typeValue : τ) :
    FlagsOnly rows (fixupSinglePrimary customerId rows typeValue) := by
  refine flagsOnly_updateAll fun id row => ?_
  split <;> rfl

theorem flagsOnly_settle (customerId : Uuid) (groups : List τ) :
    FlagsOnly rows (groups.foldl (fixupSinglePrimary customerId) rows) := by
  induction groups generalizing rows with
  | nil => exact .refl rows
  | cons typeValue groups ih => exact (flagsOnly_fixup customerId typeValue).trans ih

end Flags

section Plan

variable {τ ν : Type} {rows : Table Uuid (ContactRow τ ν)} {id : Uuid}

theorem mem_rowsOf {customerId : Uuid} {row : ContactRow τ ν} :
    (id, row) ∈ rowsOf rows customerId ↔ rows.lookup id = some row ∧ row.customerId = customerId := by
  rw [rowsOf, Table.mem_map_filter, decide_eq_true_eq]

theorem mem_planContacts {κ : Type} [DecidableEq κ] {key : ContactRow τ ν → κ}
    {targetKeys : List κ} {given : List (Uuid × ContactRow τ ν)} {fate : RowFate}
    (h : (id, fate) ∈ planContacts key targetKeys given) : ∃ row, (id, row) ∈ given := by
  induction given generalizing targetKeys with
  | nil => cases h
  | cons entry given ih =>
    obtain ⟨id', row⟩ := entry
    rw [planContacts] at h
    split at h
    · rcases List.mem_cons.mp h with heq | hmem
      · obtain ⟨rfl, -⟩ := Prod.mk.inj heq
        exact ⟨row, List.mem_cons_self⟩
      · obtain ⟨row', hrow'⟩ := ih hmem
        exact ⟨row', List.mem_cons_of_mem _ hrow'⟩
    · rcases List.mem_cons.mp h with heq | hmem
      · obtain ⟨rfl, -⟩ := Prod.mk.inj heq
        exact ⟨row, List.mem_cons_self⟩
      · obtain ⟨row', hrow'⟩ := ih hmem
        exact ⟨row', List.mem_cons_of_mem _ hrow'⟩

theorem lookup_repointRows_of_notMem {targetId : Uuid} {plan : List (Uuid × RowFate)}
    (hid : ∀ fate, (id, fate) ∉ plan) : (repointRows targetId plan rows).lookup id = rows.lookup id := by
  have hnone : plan.lookup id = none := by
    rw [List.lookup_eq_none_iff]
    rintro ⟨id', fate⟩ hmem
    simp only [bne_iff_ne]
    rintro rfl
    exact hid fate hmem
  rw [repointRows, Table.lookup_updateAll, Table.lookup_keep, hnone]
  rcases rows.lookup id with _ | row
  · rfl
  · rfl

end Plan

section Operations

variable {τ ν : Type} [DecidableEq τ] {table : ContactTable ν} {rows rows' : Table Uuid (ContactRow τ ν)}
  {id : Uuid}

theorem preparePrimaryChange_eq_ok {row : ContactRow τ ν} {data : ContactUpdate τ ν}
    {noun : String} {groups : List τ} {demoted : Bool}
    (h : preparePrimaryChange rows row data noun = .ok (groups, rows', demoted)) :
    FlagsOnly rows rows' := by
  simp only [preparePrimaryChange] at h
  split at h
  · split at h
    · obtain ⟨-, h⟩ := Prod.mk.inj (Except.ok.inj h)
      obtain ⟨rfl, -⟩ := Prod.mk.inj h
      exact flagsOnly_unset _ _
    · obtain ⟨-, h⟩ := Prod.mk.inj (Except.ok.inj h)
      obtain ⟨rfl, -⟩ := Prod.mk.inj h
      exact .refl rows
  · split at h
    · cases h
    · obtain ⟨-, h⟩ := Prod.mk.inj (Except.ok.inj h)
      obtain ⟨rfl, -⟩ := Prod.mk.inj h
      exact .refl rows

theorem deleteContact_flags (loaded : ContactRow τ ν) :
    FlagsOnly (rows.erase id) (deleteContact rows id loaded) :=
  flagsOnly_fixup loaded.customerId loaded.contactType

variable [DecidableEq ν]

omit [DecidableEq τ] in
theorem flush_eq_ok {value : Option ν} (h : table.flush value rows = .ok rows') : rows' = rows := by
  unfold ContactTable.flush at h
  split at h
  · cases h
  · exact (Except.ok.inj h).symm

theorem createContact_eq_ok {now : Time} {groupId customerId : Uuid} {data : ContactCreate τ ν}
    (h : createContact table rows now groupId customerId id data = .ok rows') :
    ∃ isPrimary, FlagsOnly (rows.insert id (data.row now groupId customerId isPrimary)) rows' := by
  unfold createContact at h
  obtain rfl := flush_eq_ok h
  refine ⟨_, FlagsOnly.insert ?_ id _⟩
  split
  · exact flagsOnly_unset customerId data.contactType
  · exact .refl rows

theorem updateContact_eq_ok {loaded : ContactRow τ ν} {data : ContactUpdate τ ν}
    (h : updateContact table rows id loaded data = .ok rows') :
    FlagsOnly (rows.modify id (data.write false loaded)) rows' := by
  obtain ⟨⟨groups, rows₁, demoted⟩, hprepare, h⟩ := Result.of_bind h
  have hflags : FlagsOnly rows rows₁ := preparePrimaryChange_eq_ok hprepare
  simp only at h
  split at h
  · cases h
  · split at h
    · cases h
    · obtain ⟨rows₂, hflush, h⟩ := Result.of_bind h
      obtain rfl := flush_eq_ok hflush
      cases h
      refine FlagsOnly.trans ?_ (flagsOnly_settle loaded.customerId groups)
      refine (hflags.modify id fun row row' hsame => ?_).trans fun id' => ?_
      · -- the other columns of the write do not look at the flag
        obtain ⟨_, _, _, _, _, _, _, _⟩ := row
        obtain ⟨_, _, _, _, _, _, _, _⟩ := row'
        simp only [ContactRow.unflagged, ContactRow.mk.injEq] at hsame
        obtain ⟨rfl, rfl, rfl, rfl, -, rfl, rfl, rfl⟩ := hsame
        rfl
      · rw [Table.lookup_modify, Table.lookup_modify]
        split
        · rw [Option.map_map, Option.map_map]
          rfl
        · rfl

theorem flushPlan_eq_ok {targetId : Uuid} {plan : List (Uuid × RowFate)}
    (h : flushPlan table targetId plan rows = .ok rows') :
    FlagsOnly (repointRows targetId plan rows) rows' := by
  unfold flushPlan at h
  split at h
  · cases h
  · obtain ⟨rows₁, hflush, h⟩ := Result.of_bind h
    obtain rfl := flush_eq_ok hflush
    cases h
    unfold settleTarget
    split
    · exact flagsOnly_settle targetId _
    · exact .refl _

end Operations

end Nexotec.Contacts
