/-
The answer to a plate, live and from the cache (`app/vehicle/services/identification.py`,
`_lookup_plate`, `_is_conflict`, `_identify_plate`; `app/vehicle/services/plate_lookup_cache.py`).

A live answer is stored row by row and read back without repetitions, in another order.  Storing
deletes what there is for the plate at that statement, and two first lookups can both store theirs.

* `run_whole`, `freshRows_records` — in every run the cache has just the records that the provider returns.

One record twice reads as two cars: `sameTwice_differs`.
-/
import Mathlib.Data.Finset.Card
import Mathlib.Data.List.Sort
import Nexotec.Core.Base
import Nexotec.Lib.Interleaving

namespace Nexotec.PlateCache

open Interleaving

/-! ### Records and the catalogue -/

structure Date where
  year : ℤ
  month : ℕ
  day : ℕ
  deriving DecidableEq

structure PlateInfoData where
  vehicleKindCode : String
  brandName : String
  modelDescription : String
  productionFrom : Option ℤ
  productionTo : Option ℤ
  typeApprovalNumber : String
  firstRegistrationDate : Option Date
  stammnummer : String
  deriving DecidableEq

instance : LawfulBEq PlateInfoData := inferInstance

structure ModelVariant where
  brandDisplayName : Option String
  modelGroupName : Option String
  name : String
  modelYearFrom : ℤ
  modelYearTo : Option ℤ
  ps : Option ℤ
  kw : Option ℤ
  basePrice : Option Decimal
  basePriceYear : Option ℤ
  deriving DecidableEq

/-- What an identification reads of the mirror. -/
structure Catalogue where
  variants : Table Uuid ModelVariant := ∅
  typeApprovals : Table Uuid String := ∅
  variantTypeApprovals : List (Uuid × Uuid) := []
  variantPrices : List (Uuid × ℤ × Decimal) := []

structure VariantCandidate where
  catalogueVariantId : Uuid
  variant : ModelVariant
  newPriceForYear : Option Decimal

def findModelVariantsByTypeApproval (catalogue : Catalogue) (typeApprovalNumber : String) :
    List (Uuid × ModelVariant) :=
  ((catalogue.variants.entries.filter fun e => catalogue.variantTypeApprovals.any fun link =>
      link.1 = e.1 && catalogue.typeApprovals.lookup link.2 = some typeApprovalNumber).map
    fun e => (e.1, e.2)).insertionSort
      fun a b => a.2.name < b.2.name ∨ (a.2.name = b.2.name ∧ a.1 ≤ b.1)

def candidate (catalogue : Catalogue) (firstRegistrationDate : Option Date)
    (variant : Uuid × ModelVariant) : VariantCandidate where
  catalogueVariantId := variant.1
  variant := variant.2
  newPriceForYear := firstRegistrationDate.bind fun date =>
    (catalogue.variantPrices.find? fun price => price.1 = variant.1 ∧ price.2.1 = date.year).map (·.2.2)

/-! ### The answer -/

inductive Outcome where
  | existingVehicle
  | variants
  | plateRecords
  | none
  deriving DecidableEq

inductive Note where
  | noProviderConnection
  | plateLookupNotEntitled
  | plateLookupFailed
  | plateCacheHit
  | plateNotFound

structure ObservedIdentity where
  licencePlate : Option String := none
  stammnummer : Option String := none
  typeApprovalNumber : Option String := none
  firstRegistrationDate : Option Date := none

structure IdentificationResult where
  outcome : Outcome
  observed : ObservedIdentity
  variants : List VariantCandidate := []
  plateRecords : List PlateInfoData := []
  plateRecordsInterchangeable : Bool := false
  plateRecordsConflict : Bool := false
  bestMatchAvailable : Bool := false
  notes : List Note := []

/-- `_is_conflict`: one Stammnummer with two Typenscheine. -/
def isConflict (records : List PlateInfoData) : Bool :=
  (records.map (·.stammnummer)).any fun stammnummer =>
    1 < ((records.filter fun r => r.stammnummer = stammnummer).map (·.typeApprovalNumber)).toFinset.card

def typenscheinResult (catalogue : Catalogue) (typeApprovalNumber : String) (observed : ObservedIdentity)
    (notes : List Note) : IdentificationResult :=
  let variants := (findModelVariantsByTypeApproval catalogue typeApprovalNumber).map
    (candidate catalogue observed.firstRegistrationDate)
  { outcome := if variants = [] then .none else .variants
    observed := { observed with typeApprovalNumber := some typeApprovalNumber }
    variants := variants
    bestMatchAvailable := variants.length ≠ 1
    notes := notes }

/-- `_identify_plate`, once the plate is looked up. -/
def identifyPlate (catalogue : Catalogue) (plate : String) (records : List PlateInfoData)
    (notes : List Note) : IdentificationResult :=
  let observed : ObservedIdentity := { licencePlate := some plate }
  match records with
  | [] => { outcome := .none, observed, notes := if notes = [] then [.plateNotFound] else notes }
  | [record] => typenscheinResult catalogue record.typeApprovalNumber
      { observed with
        stammnummer := some record.stammnummer
        firstRegistrationDate := record.firstRegistrationDate } notes
  | records => {
      outcome := .plateRecords
      observed
      plateRecords := records
      plateRecordsInterchangeable := !isConflict records
      plateRecordsConflict := isConflict records
      notes }

/-! ### The cache -/

/-- A row; `store` is the number of the commit that wrote it. -/
structure CacheEntry where
  tenantId : Uuid
  plate : String
  record : PlateInfoData
  fetchedAt : Time
  store : ℕ := 0

abbrev Cache := Table Uuid CacheEntry

def toRow (tenantId : Uuid) (plate : String) (fetchedAt : Time) (store : ℕ) (record : PlateInfoData) :
    CacheEntry :=
  { tenantId, plate, record, fetchedAt, store }

/-- `PLATE_LOOKUP_CACHE_TTL`: 30 days. -/
def plateLookupCacheTtl : Time := 30 * 24 * 3600 * 1000000

def freshAfter (now : Time) : Time := now - plateLookupCacheTtl

def CacheEntry.keyed (tenantId : Uuid) (plate : String) (row : CacheEntry) : Bool :=
  row.tenantId = tenantId ∧ row.plate = plate

def freshRows (cache : Cache) (tenantId : Uuid) (plate : String) (now : Time) :
    List (Uuid × CacheEntry) :=
  ((cache.entries.filter fun e => e.2.keyed tenantId plate && decide (freshAfter now < e.2.fetchedAt)).map
    fun e => (e.1, e.2)).insertionSort fun a b =>
      a.2.record.stammnummer < b.2.record.stammnummer ∨
        (a.2.record.stammnummer = b.2.record.stammnummer ∧ a.1 ≤ b.1)

/-- The fresh rows, each record once. -/
def cachedRecordsForPlate (cache : Cache) (tenantId : Uuid) (plate : String) (now : Time) :
    Option (List PlateInfoData) :=
  match freshRows cache tenantId plate now with
  | [] => none
  | rows => some (rows.map (·.2.record)).eraseDups

/-! ### Lookups of one plate -/

structure Shared where
  cache : Cache := ∅
  stores : ℕ := 1

/-- Where a lookup is; a `stored` one has deleted the rows of the stores before `before`. -/
inductive Phase where
  | idle
  | missed
  | answered (records : List PlateInfoData)
  | deleted (records : List PlateInfoData) (fetchedAt : Time) (before : ℕ)

inductive Choice where
  | look (now : Time)
  | reply (records : List PlateInfoData)
  | delete (fetchedAt : Time)
  | commit (ids : List Uuid)
  | purge (now : Time)
  | fail

/-- Two lists of the same records, in any order and with any repetitions. -/
def SameRecords (records records' : List PlateInfoData) : Prop :=
  records ⊆ records' ∧ records' ⊆ records

instance (records records' : List PlateInfoData) : Decidable (SameRecords records records') :=
  inferInstanceAs (Decidable (_ ∧ _))

/-- The next statement of a lookup that begins at `since` or later.  The provider has the records of
`answer` for the plate; a failure leaves the cache as it is. -/
def step {ι : Type} (tenantId : Uuid) (plate : String) (answer : List PlateInfoData) (since : Time)
    (_ : ι) (ch : Choice) (sh : Shared) (phase : Phase) : Option (Shared × Phase) :=
  match phase, ch with
  | .idle, .look now =>
    if since ≤ now then
      match cachedRecordsForPlate sh.cache tenantId plate now with
      | some _ => some (sh, .idle)
      | none => some (sh, .missed)
    else none
  | .missed, .reply records =>
    if SameRecords records answer then some (sh, if records = [] then .idle else .answered records)
    else none
  | .answered records, .delete fetchedAt =>
    if since ≤ fetchedAt then some (sh, .deleted records fetchedAt sh.stores) else none
  | .deleted records fetchedAt before, .commit ids =>
    if ids.Nodup ∧ ids.length = records.length ∧ ∀ id ∈ ids, (sh.cache.lookup id).isNone then
      -- the rows that the DELETE saw go, and its own come
      let kept := sh.cache.keep fun _ row => !(row.keyed tenantId plate && decide (row.store < before))
      some (⟨kept.insertAll (ids.zip (records.map (toRow tenantId plate fetchedAt sh.stores))),
        sh.stores + 1⟩, .idle)
    else none
  | .idle, .purge now =>
    if since ≤ now then
      some ({ sh with cache := sh.cache.keep fun _ row => decide (freshAfter now < row.fetchedAt) }, .idle)
    else none
  | .missed, .fail | .answered _, .fail | .deleted .., .fail => some (sh, .idle)
  | _, _ => none

/-- The start: what there is for the plate has expired. -/
structure Expired (tenantId : Uuid) (plate : String) (since : Time) (cache : Cache) : Prop where
  stores : ∀ id row, cache.lookup id = some row → row.store = 0
  fetched : ∀ id row, cache.lookup id = some row → row.keyed tenantId plate = true →
    row.fetchedAt ≤ freshAfter since

def opening {ι : Type} (cache : Cache) : Config ι Shared Phase := ⟨{ cache }, fun _ => .idle⟩

section Rows

variable {tenantId : Uuid} {plate : String} {answer records : List PlateInfoData}
  {since now fetchedAt : Time} {sh sh' : Shared} {cache : Cache} {phase phase' : Phase}

/-- **The rows of one store** are all there or all gone, and hold what the provider returned. -/
structure Whole (tenantId : Uuid) (plate : String) (answer : List PlateInfoData) (since : Time)
    (sh : Shared) : Prop where
  numbered : ∀ id row, sh.cache.lookup id = some row → row.store < sh.stores
  old : ∀ id row, sh.cache.lookup id = some row → row.keyed tenantId plate = true → row.store = 0 →
    row.fetchedAt ≤ freshAfter since
  whole : ∀ id row, sh.cache.lookup id = some row → row.keyed tenantId plate = true → row.store ≠ 0 →
    row.record ∈ answer ∧ ∀ r ∈ answer, ∃ id' row', sh.cache.lookup id' = some row' ∧
      row'.keyed tenantId plate = true ∧ row'.store = row.store ∧ row'.fetchedAt = row.fetchedAt ∧
      row'.record = r

def Phase.Holds (answer : List PlateInfoData) : Phase → Prop
  | .idle | .missed => True
  | .answered records | .deleted records _ _ => SameRecords records answer

theorem opening_whole (h : Expired tenantId plate since cache) :
    Whole tenantId plate answer since { cache } := by
  refine ⟨fun id row hrow => ?_, fun id row hrow hkeyed _ => h.fetched id row hrow hkeyed,
    fun id row hrow _ hstore => absurd (h.stores id row hrow) hstore⟩
  rw [h.stores id row hrow]
  exact Nat.zero_lt_one

theorem Whole.keep (h : Whole tenantId plate answer since sh) {p : CacheEntry → Bool}
    (hp : ∀ row row', row.keyed tenantId plate = true → row'.keyed tenantId plate = true →
      row'.store = row.store → row'.fetchedAt = row.fetchedAt → p row = true → p row' = true) :
    Whole tenantId plate answer since { sh with cache := sh.cache.keep fun _ row => p row } := by
  have hkept : ∀ id row, (sh.cache.keep fun _ row => p row).lookup id = some row ↔
      sh.cache.lookup id = some row ∧ p row = true := by
    intro id row
    rw [Table.lookup_keep, Option.filter_eq_some_iff]
  refine ⟨fun id row hrow => ?_, fun id row hrow => ?_, fun id row hrow hkeyed hstore => ?_⟩
  · exact h.numbered id row ((hkept id row).mp hrow).1
  · exact h.old id row ((hkept id row).mp hrow).1
  · obtain ⟨hrow, hpass⟩ := (hkept id row).mp hrow
    obtain ⟨hmem, hall⟩ := h.whole id row hrow hkeyed hstore
    refine ⟨hmem, fun r hr => ?_⟩
    obtain ⟨id', row', hrow', hkeyed', hstore', hfetched', hrecord⟩ := hall r hr
    have hpass' := hp row row' hkeyed hkeyed' hstore' hfetched' hpass
    exact ⟨id', row', (hkept id' row').mpr ⟨hrow', hpass'⟩, hkeyed', hstore', hfetched', hrecord⟩

theorem exists_zip {ids : List Uuid} {f : PlateInfoData → CacheEntry} {r : PlateInfoData}
    (hlength : ids.length = records.length) (hr : r ∈ records) :
    ∃ id, (id, f r) ∈ ids.zip (records.map f) := by
  obtain ⟨i, hi⟩ := List.mem_iff_getElem?.mp hr
  obtain ⟨hlt, -⟩ := List.getElem?_eq_some_iff.mp hi
  rw [← hlength] at hlt
  refine ⟨ids[i], List.mem_iff_getElem?.mpr ⟨i, List.getElem?_zip_eq_some.mpr ⟨?_, ?_⟩⟩⟩
  · exact List.getElem?_eq_getElem hlt
  · rw [List.getElem?_map, hi]
    rfl

theorem Whole.insert (h : Whole tenantId plate answer since sh) {ids : List Uuid}
    (hsame : SameRecords records answer) (hids : ids.Nodup) (hlength : ids.length = records.length)
    (hfresh : ∀ id ∈ ids, sh.cache.lookup id = none) (hpositive : sh.stores ≠ 0) :
    Whole tenantId plate answer since
      ⟨sh.cache.insertAll (ids.zip (records.map (toRow tenantId plate fetchedAt sh.stores))),
        sh.stores + 1⟩ := by
  have hkeys : (ids.zip (records.map (toRow tenantId plate fetchedAt sh.stores))).map Prod.fst = ids := by
    rw [List.map_fst_zip]
    rw [List.length_map, hlength]
  have hnodup : ((ids.zip (records.map (toRow tenantId plate fetchedAt sh.stores))).map Prod.fst).Nodup := by
    rw [hkeys]
    exact hids
  -- a row found is a new one, or was there
  have hcases : ∀ id row, (sh.cache.insertAll (ids.zip (records.map
      (toRow tenantId plate fetchedAt sh.stores)))).lookup id = some row →
      (∃ record ∈ records, row = toRow tenantId plate fetchedAt sh.stores record) ∨
        sh.cache.lookup id = some row := by
    intro id row hrow
    rcases Table.lookup_insertAll_cases hrow with hnew | ⟨-, hold⟩
    · obtain ⟨record, hrecord, rfl⟩ := List.mem_map.mp (List.of_mem_zip hnew).2
      exact .inl ⟨record, hrecord, rfl⟩
    · exact .inr hold
  refine ⟨fun id row hrow => ?_, fun id row hrow hkeyed hstore => ?_, fun id row hrow hkeyed hstore => ?_⟩
  · rcases hcases id row hrow with ⟨record, -, rfl⟩ | hold
    · exact Nat.lt_succ_self _
    · exact (h.numbered id row hold).trans (Nat.lt_succ_self _)
  · rcases hcases id row hrow with ⟨record, -, rfl⟩ | hold
    · exact absurd hstore hpositive
    · exact h.old id row hold hkeyed hstore
  · rcases hcases id row hrow with ⟨record, hrecord, rfl⟩ | hold
    · refine ⟨hsame.1 hrecord, fun r hr => ?_⟩
      have hmem : ∃ id', (id', toRow tenantId plate fetchedAt sh.stores r) ∈
          ids.zip (records.map (toRow tenantId plate fetchedAt sh.stores)) :=
        exists_zip hlength (hsame.2 hr)
      obtain ⟨id', hmem⟩ := hmem
      exact ⟨id', _, Table.lookup_insertAll_of_mem hnodup hmem, hkeyed, rfl, rfl, rfl⟩
    · obtain ⟨hmem, hall⟩ := h.whole id row hold hkeyed hstore
      refine ⟨hmem, fun r hr => ?_⟩
      obtain ⟨id', row', hrow', hrest⟩ := hall r hr
      refine ⟨id', row', ?_, hrest⟩
      have hnot : id' ∉ ids := by
        intro hmem'
        rw [hfresh id' hmem'] at hrow'
        cases hrow'
      rw [← hkeys] at hnot
      exact (Table.lookup_insertAll_of_notMem hnot).trans hrow'

theorem whole_step {ι : Type} {i : ι} {ch : Choice} (h : Whole tenantId plate answer since sh)
    (hpositive : sh.stores ≠ 0) (hholds : phase.Holds answer)
    (hstep : step tenantId plate answer since i ch sh phase = some (sh', phase')) :
    (Whole tenantId plate answer since sh' ∧ sh'.stores ≠ 0) ∧ phase'.Holds answer := by
  unfold step at hstep
  split at hstep
  · -- the cache is read
    split at hstep
    · split at hstep
      · cases hstep
        exact ⟨⟨h, hpositive⟩, trivial⟩
      · cases hstep
        exact ⟨⟨h, hpositive⟩, trivial⟩
    · cases hstep
  · split at hstep
    · next hsame =>
      cases hstep
      refine ⟨⟨h, hpositive⟩, ?_⟩
      split
      · trivial
      · exact hsame
    · cases hstep
  · split at hstep
    · cases hstep
      exact ⟨⟨h, hpositive⟩, hholds⟩
    · cases hstep
  · -- the commit of a store
    next records fetchedAt before ids =>
    split at hstep
    · next hids =>
      obtain ⟨hnodup, hlength, hfresh⟩ := hids
      cases hstep
      have hkept : Whole tenantId plate answer since ⟨sh.cache.keep fun _ row =>
          !(row.keyed tenantId plate && decide (row.store < before)), sh.stores⟩ := by
        refine Whole.keep h fun row row' hkeyed hkeyed' hstore _ hpass => ?_
        rw [hkeyed, Bool.true_and] at hpass
        rw [hkeyed', Bool.true_and, hstore]
        exact hpass
      refine ⟨⟨hkept.insert hholds hnodup hlength (fun id hid => ?_) hpositive, Nat.succ_ne_zero _⟩,
        trivial⟩
      have hnone : sh.cache.lookup id = none := Option.isNone_iff_eq_none.mp (hfresh id hid)
      dsimp only
      rw [Table.lookup_keep, hnone]
      rfl
    · cases hstep
  · split at hstep
    · cases hstep
      refine ⟨⟨h.keep fun row row' _ _ _ hfetched hpass => ?_, hpositive⟩, trivial⟩
      rw [hfetched]
      exact hpass
    · cases hstep
  all_goals first
    | cases hstep
      exact ⟨⟨h, hpositive⟩, trivial⟩
    | cases hstep

theorem mem_freshRows {e : Uuid × CacheEntry} : e ∈ freshRows cache tenantId plate now ↔
    cache.lookup e.1 = some e.2 ∧ e.2.keyed tenantId plate = true ∧ freshAfter now < e.2.fetchedAt := by
  obtain ⟨id, row⟩ := e
  rw [freshRows, List.mem_insertionSort, Table.mem_map_filter, Bool.and_eq_true, decide_eq_true_eq]

theorem freshRows_records (h : Whole tenantId plate answer since sh) (hnow : since ≤ now)
    (hsome : freshRows sh.cache tenantId plate now ≠ []) :
    SameRecords ((freshRows sh.cache tenantId plate now).map (·.2.record)) answer := by
  -- a fresh row is of one of the stores
  have hstored : ∀ e ∈ freshRows sh.cache tenantId plate now, e.2.store ≠ 0 := by
    intro e he hstore
    obtain ⟨hlookup, hkeyed, hfresh⟩ := mem_freshRows.mp he
    have hexpired := h.old e.1 e.2 hlookup hkeyed hstore
    have hlater : freshAfter since ≤ freshAfter now := sub_le_sub_right hnow _
    exact absurd (hfresh.trans_le (hexpired.trans hlater)) (lt_irrefl _)
  constructor
  · intro r hr
    obtain ⟨e, he, rfl⟩ := List.mem_map.mp hr
    obtain ⟨hlookup, hkeyed, -⟩ := mem_freshRows.mp he
    exact (h.whole e.1 e.2 hlookup hkeyed (hstored e he)).1
  · intro r hr
    obtain ⟨e, he⟩ := List.exists_mem_of_ne_nil _ hsome
    obtain ⟨hlookup, hkeyed, hfresh⟩ := mem_freshRows.mp he
    obtain ⟨id, row, hrow, hkeyed', -, hfetched, rfl⟩ :=
      (h.whole e.1 e.2 hlookup hkeyed (hstored e he)).2 r hr
    rw [← hfetched] at hfresh
    exact List.mem_map.mpr ⟨(id, row), mem_freshRows.mpr ⟨hrow, hkeyed', hfresh⟩, rfl⟩

end Rows

section Answers

variable {answer cached records records' : List PlateInfoData} {catalogue : Catalogue} {plate : String}
  {x y : PlateInfoData}

theorem isConflict_iff : isConflict records = true ↔ ∃ r ∈ records, ∃ r' ∈ records,
    r'.stammnummer = r.stammnummer ∧ r.typeApprovalNumber ≠ r'.typeApprovalNumber := by
  unfold isConflict
  rw [List.any_eq_true]
  simp only [List.mem_map, decide_eq_true_eq, Finset.one_lt_card, List.mem_toFinset, List.mem_filter]
  constructor
  · rintro ⟨_, -, _, ⟨r, ⟨hr, rfl⟩, rfl⟩, _, ⟨r', ⟨hr', hsame⟩, rfl⟩, hne⟩
    exact ⟨r, hr, r', hr', hsame, hne⟩
  · rintro ⟨r, hr, r', hr', hsame, hne⟩
    exact ⟨r.stammnummer, ⟨r, hr, rfl⟩, _, ⟨r, ⟨hr, rfl⟩, rfl⟩, _, ⟨r', ⟨hr', hsame⟩, rfl⟩, hne⟩

theorem isConflict_congr (h : SameRecords records records') : isConflict records = isConflict records' := by
  rw [Bool.eq_iff_iff, isConflict_iff, isConflict_iff]
  constructor
  · rintro ⟨r, hr, r', hr', hrest⟩
    exact ⟨r, h.1 hr, r', h.1 hr', hrest⟩
  · rintro ⟨r, hr, r', hr', hrest⟩
    exact ⟨r, h.2 hr, r', h.2 hr', hrest⟩

def Repeats (records : List PlateInfoData) : Prop :=
  2 ≤ records.length ∧ ∃ r, ∀ x ∈ records, x = r

/-- The answers are the same but for the notes and the order of the records. -/
structure Agrees (a b : IdentificationResult) : Prop where
  outcome : a.outcome = b.outcome
  observed : a.observed = b.observed
  variants : a.variants = b.variants
  records : ∀ r, r ∈ a.plateRecords ↔ r ∈ b.plateRecords
  interchangeable : a.plateRecordsInterchangeable = b.plateRecordsInterchangeable
  conflict : a.plateRecordsConflict = b.plateRecordsConflict
  bestMatch : a.bestMatchAvailable = b.bestMatchAvailable

theorem exists_cons_cons (hx : x ∈ records) (hy : y ∈ records) (hne : x ≠ y) :
    ∃ a b rest, records = a :: b :: rest := by
  rcases records with _ | ⟨a, _ | ⟨b, rest⟩⟩
  · cases hx
  · rw [List.mem_singleton] at hx hy
    exact absurd (hx.trans hy.symm) hne
  · exact ⟨a, b, rest, rfl⟩

theorem identifyPlate_several (notes : List Note) (hx : x ∈ records) (hy : y ∈ records) (hne : x ≠ y) :
    identifyPlate catalogue plate records notes = {
      outcome := .plateRecords
      observed := { licencePlate := some plate }
      plateRecords := records
      plateRecordsInterchangeable := !isConflict records
      plateRecordsConflict := isConflict records
      notes } := by
  obtain ⟨a, b, rest, rfl⟩ := exists_cons_cons hx hy hne
  rfl

theorem identifyPlate_one_outcome (catalogue : Catalogue) (plate : String) (r : PlateInfoData)
    (notes : List Note) : (identifyPlate catalogue plate [r] notes).outcome ≠ .plateRecords := by
  unfold identifyPlate typenscheinResult
  dsimp only
  split
  · exact fun h => by cases h
  · exact fun h => by cases h

theorem eraseDups_same {r : PlateInfoData} (hne : records ≠ []) (hsame : ∀ x ∈ records, x = r) :
    records.eraseDups = [r] := by
  cases records with
  | nil => exact absurd rfl hne
  | cons x xs =>
    have hnone : xs.filter (fun b => !b == x) = [] := by
      rw [List.filter_eq_nil_iff]
      intro y hy
      rw [hsame y (List.mem_cons_of_mem x hy), hsame x List.mem_cons_self]
      simp
    rw [List.eraseDups_cons, hnone, List.eraseDups_nil, hsame x List.mem_cons_self]

theorem agrees_iff (hne : records ≠ []) (h : SameRecords records answer) :
    Agrees (identifyPlate catalogue plate records.eraseDups [.plateCacheHit])
      (identifyPlate catalogue plate answer []) ↔ ¬ Repeats answer := by
  obtain ⟨r, hr⟩ := List.exists_mem_of_ne_nil _ hne
  by_cases hall : ∀ x ∈ answer, x = r
  · rw [eraseDups_same hne fun x hx => hall x (h.1 hx)]
    rcases answer with _ | ⟨a, _ | ⟨b, rest⟩⟩
    · exact absurd (h.1 hr) List.not_mem_nil
    · obtain rfl := hall a List.mem_cons_self
      refine ⟨fun _ hrepeats => absurd hrepeats.1 (Nat.not_succ_le_self 1), fun _ => ?_⟩
      exact ⟨rfl, rfl, rfl, fun _ => Iff.rfl, rfl, rfl, rfl⟩
    · -- the live answer shows a picker
      have hrepeats : Repeats (a :: b :: rest) := ⟨by simp, r, hall⟩
      refine ⟨fun hagrees => ?_, fun hnot => absurd hrepeats hnot⟩
      exact absurd hagrees.outcome (identifyPlate_one_outcome catalogue plate r [.plateCacheHit])
  · obtain ⟨x, hx, hother⟩ : ∃ x ∈ answer, x ≠ r := by
      by_contra hnone
      exact hall fun x hx => by_contra fun hxr => hnone ⟨x, hx, hxr⟩
    have hcached : SameRecords records.eraseDups answer :=
      ⟨fun y hy => h.1 (List.mem_eraseDups.mp hy), fun y hy => List.mem_eraseDups.mpr (h.2 hy)⟩
    rw [identifyPlate_several [.plateCacheHit] (hcached.2 hx) (hcached.2 (h.1 hr)) hother,
      identifyPlate_several [] hx (h.1 hr) hother]
    refine ⟨fun _ hrepeats => ?_, fun _ => ⟨rfl, rfl, rfl, fun y => ⟨fun hy => hcached.1 hy,
      fun hy => hcached.2 hy⟩, ?_, isConflict_congr hcached, rfl⟩⟩
    · obtain ⟨-, same, hsame⟩ := hrepeats
      exact hother ((hsame x hx).trans (hsame r (h.1 hr)).symm)
    · dsimp only
      rw [isConflict_congr hcached]

end Answers

section Runs

variable {ι : Type} [DecidableEq ι]

theorem run_whole {tenantId : Uuid} {plate : String} {answer : List PlateInfoData} {since : Time}
    {cache : Cache} (hexpired : Expired tenantId plate since cache) (actions : List (ι × Choice)) :
    Whole tenantId plate answer since
      (actions.foldl (move (step tenantId plate answer since)) (opening cache)).shared := by
  have hopening : Holds (fun sh => Whole tenantId plate answer since sh ∧ sh.stores ≠ 0)
      (fun _ _ phase => phase.Holds answer) (opening cache : Config ι Shared Phase) :=
    ⟨⟨opening_whole hexpired, Nat.one_ne_zero⟩, fun _ => trivial⟩
  have hmove : ∀ (c : Config ι Shared Phase) (a : ι × Choice),
      Holds (fun sh => Whole tenantId plate answer since sh ∧ sh.stores ≠ 0)
        (fun _ _ phase => phase.Holds answer) c →
      Holds (fun sh => Whole tenantId plate answer since sh ∧ sh.stores ≠ 0)
        (fun _ _ phase => phase.Holds answer) (move (step tenantId plate answer since) c a) :=
    fun c a hc => noninterference_all
      (fun i ch sh lo sh' lo' hG hL hstep => whole_step hG.1 hG.2 hL hstep)
      (fun i j ch sh lo lo' sh' lo'' _ _ _ hL _ => hL) hc a
  exact (Run.invariant hmove hopening actions).1.1

/-- **The cached answer and the live one.**  In every run of lookups of a plate, any number at once,
that begins when the cache holds nothing fresh for it: an answer from the cache agrees with the live
answer, unless the provider has returned one record several times. -/
theorem cached_agrees_iff (catalogue : Catalogue) (tenantId : Uuid) (plate : String)
    (answer : List PlateInfoData) (since : Time) (cache : Cache)
    (hexpired : Expired tenantId plate since cache) (actions : List (ι × Choice)) (now : Time)
    (hnow : since ≤ now) (cached : List PlateInfoData) (hcached : cachedRecordsForPlate
      (actions.foldl (move (step tenantId plate answer since)) (opening cache)).shared.cache
      tenantId plate now = some cached) :
    Agrees (identifyPlate catalogue plate cached [.plateCacheHit])
      (identifyPlate catalogue plate answer []) ↔ ¬ Repeats answer := by
  unfold cachedRecordsForPlate at hcached
  split at hcached
  · cases hcached
  · next hrows =>
    cases hcached
    refine agrees_iff (fun hnil => hrows (List.map_eq_nil_iff.mp hnil)) ?_
    exact freshRows_records (run_whole hexpired actions) hnow hrows

end Runs

def car : PlateInfoData where
  vehicleKindCode := "1"
  brandName := "FIAT"
  modelDescription := "Panda"
  productionFrom := some 2012
  productionTo := none
  typeApprovalNumber := "1FA123"
  firstRegistrationDate := some ⟨2014, 3, 1⟩
  stammnummer := "123456789"

def motorcycle : PlateInfoData where
  vehicleKindCode := "4"
  brandName := "DUCATI"
  modelDescription := "Monster"
  productionFrom := none
  productionTo := none
  typeApprovalNumber := "6DA456"
  firstRegistrationDate := none
  stammnummer := "987654321"

/-- Two first lookups at once, both of which store what they were told. -/
def bothStore : List (ℕ × Choice) :=
  [(0, .look 0), (1, .look 1), (0, .reply [car, motorcycle]), (1, .reply [motorcycle, car]),
    (0, .delete 2), (1, .delete 3), (0, .commit [1, 2]), (1, .commit [3, 4])]

theorem expired_empty (tenantId : Uuid) (plate : String) (since : Time) :
    Expired tenantId plate since ∅ := by
  refine ⟨fun id row hrow => ?_, fun id row hrow => ?_⟩
  · cases hrow
  · cases hrow

theorem bothStore_agrees : Agrees (identifyPlate {} "ZH123456" [car, motorcycle] [.plateCacheHit])
      (identifyPlate {} "ZH123456" [motorcycle, car] []) ↔ ¬ Repeats [motorcycle, car] :=
  cached_agrees_iff {} 9 "ZH123456" [motorcycle, car] 0 ∅ (expired_empty 9 "ZH123456" 0) bothStore 10
    (by decide) [car, motorcycle] (by decide +kernel)

def sameTwice : List (ℕ × Choice) :=
  [(0, .look 0), (0, .reply [car, car]), (0, .delete 2), (0, .commit [1, 2])]

/-- **One record twice** is shown as two cars that share the plate, and from the cache as one. -/
theorem sameTwice_differs :
    cachedRecordsForPlate (sameTwice.foldl (move (step 9 "ZH123456" [car, car] 0)) (opening ∅)).shared.cache
        9 "ZH123456" 10 = some [car] ∧
      (identifyPlate {} "ZH123456" [car] [.plateCacheHit]).outcome = .none ∧
      (identifyPlate {} "ZH123456" [car, car] []).outcome = .plateRecords ∧
      (identifyPlate {} "ZH123456" [car, car] []).plateRecordsInterchangeable = true ∧
      ¬ Agrees (identifyPlate {} "ZH123456" [car] [.plateCacheHit])
        (identifyPlate {} "ZH123456" [car, car] []) := by
  have hone : (identifyPlate {} "ZH123456" [car] [.plateCacheHit]).outcome = .none := by decide +kernel
  refine ⟨by decide +kernel, hone, rfl, by decide +kernel, fun hagrees => ?_⟩
  have houtcome := hagrees.outcome
  rw [hone] at houtcome
  cases houtcome

end Nexotec.PlateCache
