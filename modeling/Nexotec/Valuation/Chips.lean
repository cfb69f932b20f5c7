/-
The chips of the valuation list (`app/valuation/services/valuation.py`).

The status of a valuation is derived when it is read, by tests in a fixed order.  The
list filters by conditions of its own, one set for each chip.

* `chipCriteria`, `listValuations` — the conditions, and the list with its pages.
-/
import Nexotec.Core.SortedPages
import Nexotec.Valuation.Valuation

namespace Nexotec

open Sql Pagination

/-- A valuation with the columns by which the list filters. -/
structure ValuationRow extends Valuation where
  vehiclePlate : Option String := none
  customerId : Option Uuid := none
  customerLabel : Option String := none
  createdBy : Option Uuid := none

abbrev ListedValuation := Uuid × ValuationRow

def valuationRows (valuations : Table Uuid ValuationRow) : List ListedValuation :=
  valuations.entries.map fun e => (e.1, e.2)

/-- `EXPIRING_SOON_WINDOW_DAYS`, as a time. -/
def expiringSoonWindow : Time := 14 * (24 * 60 * 60 * 1000000)

/-- `column >= value`. -/
def atLeast (column value : Time) : Truth := some (decide (value ≤ column))

def chipCriteria (now : Time) (createdBy : Option Uuid) (chip : Option String) :
    List (ListedValuation → Truth) :=
  match chip with
  | some "valid" =>
    [fun r => isNull r.2.usedAt, fun r => some !r.2.isDraft, fun r => atLeast r.2.validUntil now]
  | some "expiring_soon" =>
    [fun r => isNull r.2.usedAt, fun r => some !r.2.isDraft, fun r => atLeast r.2.validUntil now,
      fun r => some (decide (r.2.validUntil ≤ now + expiringSoonWindow))]
  | some "expired" =>
    [fun r => isNull r.2.usedAt, fun r => Sql.lt (some r.2.validUntil) now]
  | some "unattached" => [fun r => isNull r.2.customerId]
  | some "mine" =>
    match createdBy with
    | some user => [fun r => Sql.eq r.2.createdBy user]
    | none => [fun r => isNull r.2.createdBy]
  | _ => []

/-- What a search text asks for; `ilike` is the match of the database. -/
def searchCriteria (ilike : String → String → Bool) (q : Option String) :
    List (ListedValuation → Truth) :=
  match q with
  | none => []
  | some q =>
    if q = "" then []
    else
      let pattern := s!"%{q}%"
      [anyOf [fun r => some (ilike r.2.valuationNumber pattern),
        fun r => r.2.vehicleVin.map (ilike · pattern),
        fun r => r.2.vehiclePlate.map (ilike · pattern),
        fun r => r.2.customerLabel.map (ilike · pattern)]]

section

variable [LinearOrder SortValue] (lib : Libraries) (ilike : String → String → Bool)

/-- The statement of `list_valuations`, without order and limit. -/
def valuationCriteria (now : Time) (tenantId : Uuid) (chip q : Option String)
    (createdBy : Option Uuid) : List (ListedValuation → Truth) :=
  (fun r => Sql.eq (some r.2.tenantId) tenantId) ::
    (chipCriteria now createdBy chip ++ searchCriteria ilike q)

def countCapped (n threshold : ℕ) : ℕ × Bool :=
  if threshold < min n (threshold + 1) then (threshold, true) else (min n (threshold + 1), false)

/-- `list_valuations`, on a clock that shows `now`. -/
def listValuations (threshold : ℕ) (valuations : Table Uuid ValuationRow) (now : Time)
    (tenantId : Uuid) (chip q : Option String) (createdBy : Option Uuid)
    (sortFields : List (SortField ListedValuation)) (limit : ℕ) (cursor : Option Cursor) :
    Result (List ListedValuation × Option Cursor × ℕ × Bool) := do
  let stmt := statement (valuationCriteria ilike now tenantId chip q createdBy)
  let total := countCapped ((valuationRows valuations).filter stmt.selects).length threshold
  let (items, nextCursor) ←
    listPage lib Prod.fst (valuationRows valuations) stmt sortFields limit cursor
  pure (items, nextCursor, total)

def Listed (threshold : ℕ) (sortFields : List (SortField ListedValuation))
    (valuations : Table Uuid ValuationRow) (now : Time) (tenantId : Uuid) (chip q : Option String)
    (createdBy : Option Uuid) (r : ListedValuation) : Prop :=
  ∃ limit cursor page, listValuations lib ilike threshold valuations now tenantId chip q createdBy
    sortFields limit cursor = .ok page ∧ r ∈ page.1

end

def ValuationRow.status (row : ValuationRow) (now : Time) : ValuationStatus :=
  deriveStatus row.toValuation now

section Pages

variable {ρ : Type} [LinearOrder SortValue] {lib : Libraries} {id : ρ → Uuid} {stmt : Select ρ}
  {table rows page : List ρ} {next : Option Cursor}

omit [LinearOrder SortValue] in
theorem mem_run {r : ρ} (h : r ∈ stmt.run table) : r ∈ table ∧ stmt.selects r = true := by
  have hall : r ∈ (table.filter stmt.selects).mergeSort
      fun a b => (Select.compareBy stmt.order a b).isLE := by
    unfold Select.run at h
    cases hlimit : stmt.limit with
    | none =>
      rw [hlimit] at h
      exact h
    | some n =>
      rw [hlimit] at h
      exact List.mem_of_mem_take h
  exact List.mem_filter.mp (List.mem_mergeSort.mp hall)

omit [LinearOrder SortValue] in
theorem mem_buildSortedPage {params : SortPageParams ρ}
    (h : buildSortedPage lib id rows params = .ok (page, next)) : ∀ r ∈ page, r ∈ rows := by
  have htake : page = rows.take params.limit := by
    unfold buildSortedPage at h
    dsimp only at h
    split at h
    · split at h
      · obtain ⟨cursor, -, h⟩ := Result.of_bind h
        cases h
        rfl
      · cases h
        rfl
    · cases h
      rfl
  intro r hr
  rw [htake] at hr
  exact List.mem_of_mem_take hr

theorem selects_of_paginateQuerySorted {params : SortPageParams ρ} {query : Select ρ}
    (h : paginateQuerySorted lib id stmt params = .ok query) {r : ρ}
    (hr : query.selects r = true) : stmt.selects r = true := by
  unfold paginateQuerySorted at h
  dsimp only at h
  split at h
  · cases h
    exact hr
  · obtain ⟨clauses, -, h⟩ := Result.of_bind h
    obtain ⟨after, -, h⟩ := Result.of_bind h
    cases h
    rw [Select.selects_limitTo, Select.selects_where, Bool.and_eq_true] at hr
    exact hr.1

theorem mem_listPage {fields : List (SortField ρ)} {limit : ℕ} {cursor : Option Cursor}
    (h : listPage lib id table stmt fields limit cursor = .ok (page, next)) :
    ∀ r ∈ page, r ∈ table ∧ stmt.selects r = true := by
  have hpage : ∀ position : Option SortCursorPosition, ((do
      let query ← paginateQuerySorted lib id stmt ⟨limit, position, fields⟩
      buildSortedPage lib id (query.run table) ⟨limit, position, fields⟩ :
        Result (List ρ × Option Cursor)) = .ok (page, next)) →
      ∀ r ∈ page, r ∈ table ∧ stmt.selects r = true := by
    intro position h r hr
    obtain ⟨query, hquery, h⟩ := Result.of_bind h
    obtain ⟨hmem, hselects⟩ := mem_run (mem_buildSortedPage h r hr)
    exact ⟨hmem, selects_of_paginateQuerySorted hquery hselects⟩
  unfold listPage at h
  cases cursor with
  | none => exact hpage none h
  | some c =>
    obtain ⟨position, -, h⟩ := Result.of_bind h
    exact hpage _ h

theorem listPage_all (fields : List (SortField ρ)) (criteria : List (ρ → Truth)) :
    listPage lib id table (statement criteria) fields
        (table.filter (statement criteria).selects).length none =
      .ok (unpaged id table (statement criteria) fields, none) := by
  have hlength : (unpaged id table (statement criteria) fields).length =
      (table.filter (statement criteria).selects).length := (unpaged_perm id).length_eq
  have hrun : (((statement criteria).orderBy (orderTerms id fields)).limitTo
      ((table.filter (statement criteria).selects).length + 1)).run table =
      unpaged id table (statement criteria) fields := by
    change List.take _ (unpaged id table (statement criteria) fields) = _
    rw [List.take_of_length_le]
    rw [hlength]
    exact Nat.le_succ _
  change buildSortedPage lib id ((((statement criteria).orderBy (orderTerms id fields)).limitTo
    ((table.filter (statement criteria).selects).length + 1)).run table) _ = _
  rw [hrun]
  exact buildSortedPage_last lib id (Nat.le_of_eq hlength)

end Pages

section

variable [LinearOrder SortValue] {lib : Libraries} {ilike : String → String → Bool}
  {threshold : ℕ} {sortFields : List (SortField ListedValuation)}
  {valuations : Table Uuid ValuationRow} {now : Time} {tenantId : Uuid} {chip q : Option String}
  {createdBy : Option Uuid} {r : ListedValuation}

/-- A row is on some page just when it is selected. -/
theorem listed_iff :
    Listed lib ilike threshold sortFields valuations now tenantId chip q createdBy r ↔
      r ∈ valuationRows valuations ∧
        ∀ condition ∈ valuationCriteria ilike now tenantId chip q createdBy,
          condition r = some true := by
  constructor
  · rintro ⟨limit, cursor, page, h, hr⟩
    obtain ⟨⟨items, next⟩, hpage, h⟩ := Result.of_bind h
    cases h
    obtain ⟨hmem, hselects⟩ := mem_listPage hpage r hr
    exact ⟨hmem, Select.selects_iff.mp hselects⟩
  · rintro ⟨hmem, hconditions⟩
    have hselected : r ∈ (valuationRows valuations).filter
        (statement (valuationCriteria ilike now tenantId chip q createdBy)).selects :=
      List.mem_filter.mpr ⟨hmem, Select.selects_iff.mpr hconditions⟩
    refine ⟨((valuationRows valuations).filter
      (statement (valuationCriteria ilike now tenantId chip q createdBy)).selects).length, none, ?_⟩
    unfold listValuations
    dsimp only
    rw [listPage_all]
    exact ⟨_, rfl, (unpaged_perm Prod.fst).mem_iff.mpr hselected⟩

theorem listed_chip_iff :
    Listed lib ilike threshold sortFields valuations now tenantId chip q createdBy r ↔
      Listed lib ilike threshold sortFields valuations now tenantId none q createdBy r ∧
        ∀ condition ∈ chipCriteria now createdBy chip, condition r = some true := by
  rw [listed_iff, listed_iff]
  unfold valuationCriteria
  simp only [List.mem_cons, List.mem_append, or_imp, forall_and]
  have hnone : chipCriteria now createdBy none = [] := rfl
  rw [hnone]
  simp only [List.not_mem_nil, false_imp_iff, implies_true, true_and]
  tauto

theorem listed_none_iff :
    Listed lib ilike threshold sortFields valuations now tenantId none none createdBy r ↔
      r ∈ valuationRows valuations ∧ r.2.tenantId = tenantId := by
  rw [listed_iff]
  simp [valuationCriteria, chipCriteria, searchCriteria]

omit [LinearOrder SortValue] in
theorem chip_valid_iff :
    (∀ condition ∈ chipCriteria now createdBy (some "valid"), condition r = some true) ↔
      r.2.status now = .valid := by
  simp only [chipCriteria, List.forall_mem_cons, isNull_eq_true]
  unfold ValuationRow.status deriveStatus atLeast
  cases r.2.usedAt <;> cases r.2.isDraft <;> simp

omit [LinearOrder SortValue] in
theorem chip_expiringSoon_iff :
    (∀ condition ∈ chipCriteria now createdBy (some "expiring_soon"), condition r = some true) ↔
      r.2.status now = .valid ∧ r.2.validUntil ≤ now + expiringSoonWindow := by
  have hvalid : (∀ condition ∈ chipCriteria now createdBy (some "valid"), condition r = some true) ↔
      r.2.status now = .valid := chip_valid_iff
  rw [← hvalid]
  simp only [chipCriteria, List.forall_mem_cons, List.not_mem_nil, false_imp_iff, implies_true,
    and_true, Option.some.injEq, decide_eq_true_eq, and_assoc]

omit [LinearOrder SortValue] in
theorem chip_expired_iff :
    (∀ condition ∈ chipCriteria now createdBy (some "expired"), condition r = some true) ↔
      r.2.usedAt = none ∧ r.2.validUntil < now := by
  simp [chipCriteria]

omit [LinearOrder SortValue] in
theorem status_expired_iff {row : ValuationRow} : row.status now = .expired ↔
      row.usedAt = none ∧ row.isDraft = false ∧ row.validUntil < now := by
  unfold ValuationRow.status deriveStatus
  cases row.usedAt <;> cases row.isDraft <;> simp

end

section Agreement

variable [LinearOrder SortValue] (lib : Libraries) (ilike : String → String → Bool)
  (threshold : ℕ) (sortFields : List (SortField ListedValuation))
  (valuations : Table Uuid ValuationRow) (now : Time)

/-- What the status chips promise, for one list. -/
structure ChipsMatch (tenantId : Uuid) (q : Option String) (createdBy : Option Uuid) : Prop where
  valid : ∀ r, Listed lib ilike threshold sortFields valuations now tenantId (some "valid") q
      createdBy r ↔
    Listed lib ilike threshold sortFields valuations now tenantId none q createdBy r ∧
      r.2.status now = .valid
  expired : ∀ r, Listed lib ilike threshold sortFields valuations now tenantId (some "expired") q
      createdBy r ↔
    Listed lib ilike threshold sortFields valuations now tenantId none q createdBy r ∧
      r.2.status now = .expired
  expiringSoon : ∀ r, Listed lib ilike threshold sortFields valuations now tenantId
      (some "expiring_soon") q createdBy r →
    Listed lib ilike threshold sortFields valuations now tenantId (some "valid") q createdBy r
  disjoint : ∀ r, ¬ (Listed lib ilike threshold sortFields valuations now tenantId (some "valid") q
      createdBy r ∧
    Listed lib ilike threshold sortFields valuations now tenantId (some "expired") q createdBy r)

def VehicleListMatches : Prop :=
  ∀ tenantId vehicleId createdBy id v,
    (id, v) ∈ listValidValuationsForVehicle
        (valuations.mapRows fun _ row => row.toValuation) tenantId vehicleId now ↔
      ∃ row, row.toValuation = v ∧ row.vehicleId = some vehicleId ∧
        Listed lib ilike threshold sortFields valuations now tenantId (some "valid") none createdBy
          (id, row)

def NoLapsedDraft : Prop :=
  ∀ r ∈ valuationRows valuations, r.2.isDraft = true → r.2.usedAt = none → now ≤ r.2.validUntil

variable {lib ilike threshold sortFields valuations now}

omit [LinearOrder SortValue] in
theorem mem_mapRows {f : Uuid → ValuationRow → Valuation} {id : Uuid} {v : Valuation} :
    (⟨id, v⟩ : (_ : Uuid) × Valuation) ∈ (valuations.mapRows f).entries ↔
      ∃ row, (id, row) ∈ valuationRows valuations ∧ f id row = v := by
  simp only [Table.mapRows, valuationRows, List.mem_map, Prod.mk.injEq]
  constructor
  · rintro ⟨⟨k, row⟩, hmem, heq⟩
    cases heq
    exact ⟨row, ⟨_, hmem, rfl, rfl⟩, rfl⟩
  · rintro ⟨row, ⟨⟨k, row'⟩, hmem, hk, hrow⟩, rfl⟩
    cases hk
    cases hrow
    exact ⟨_, hmem, rfl⟩

theorem vehicleList_matches :
    VehicleListMatches lib ilike threshold sortFields valuations now := by
  intro tenantId vehicleId createdBy id v
  simp only [listValidValuationsForVehicle, List.mem_map, List.mem_filter, List.mem_mergeSort,
    decide_eq_true_eq]
  constructor
  · rintro ⟨⟨k, r⟩, ⟨⟨hmem, htenant, hvehicle⟩, hvalid⟩, heq⟩
    cases heq
    obtain ⟨row, hrow, rfl⟩ := mem_mapRows.mp hmem
    refine ⟨row, rfl, hvehicle, listed_chip_iff.mpr ⟨listed_none_iff.mpr ⟨hrow, htenant⟩, ?_⟩⟩
    exact chip_valid_iff.mpr hvalid
  · rintro ⟨row, rfl, hvehicle, hlisted⟩
    obtain ⟨hnone, hchip⟩ := listed_chip_iff.mp hlisted
    obtain ⟨hrow, htenant⟩ := listed_none_iff.mp hnone
    exact ⟨⟨id, row.toValuation⟩, ⟨⟨mem_mapRows.mpr ⟨row, hrow, rfl⟩, htenant, hvehicle⟩,
      chip_valid_iff.mp hchip⟩, rfl⟩

end Agreement

/-- **The chips and the derived status agree** for every search just when no draft that
is unused is past its validity.  The list of a car agrees in any case. -/
theorem chips_match_status_iff [LinearOrder SortValue] (lib : Libraries)
    (ilike : String → String → Bool) (threshold : ℕ)
    (sortFields : List (SortField ListedValuation)) (valuations : Table Uuid ValuationRow)
    (now : Time) :
    ((∀ tenantId q createdBy,
        ChipsMatch lib ilike threshold sortFields valuations now tenantId q createdBy) ∧
      VehicleListMatches lib ilike threshold sortFields valuations now) ↔
      NoLapsedDraft valuations now := by
  constructor
  · rintro ⟨h, -⟩ r hmem hdraft hunused
    -- a lapsed draft has the chip, and its status is draft
    by_contra hlapsed
    have hlisted : Listed lib ilike threshold sortFields valuations now r.2.tenantId none none
        none r := listed_none_iff.mpr ⟨hmem, rfl⟩
    have hexpired := ((h r.2.tenantId none none).expired r).mp
      (listed_chip_iff.mpr ⟨hlisted, chip_expired_iff.mpr ⟨hunused, not_le.mp hlapsed⟩⟩)
    obtain ⟨-, hnodraft, -⟩ := status_expired_iff.mp hexpired.2
    rw [hdraft] at hnodraft
    cases hnodraft
  · intro h
    refine ⟨fun tenantId q createdBy => ?_, vehicleList_matches⟩
    have hexpired : ∀ r, Listed lib ilike threshold sortFields valuations now tenantId
        (some "expired") q createdBy r ↔
        Listed lib ilike threshold sortFields valuations now tenantId none q createdBy r ∧
          r.2.status now = .expired := by
      intro r
      rw [listed_chip_iff, chip_expired_iff, status_expired_iff]
      constructor
      · rintro ⟨hlisted, hunused, hlapsed⟩
        refine ⟨hlisted, hunused, ?_, hlapsed⟩
        by_contra hdraft
        have hrow := (listed_iff.mp hlisted).1
        exact not_lt.mpr (h r hrow (Bool.of_not_eq_false hdraft) hunused) hlapsed
      · rintro ⟨hlisted, hunused, -, hlapsed⟩
        exact ⟨hlisted, hunused, hlapsed⟩
    have hvalid : ∀ r, Listed lib ilike threshold sortFields valuations now tenantId
        (some "valid") q createdBy r ↔
        Listed lib ilike threshold sortFields valuations now tenantId none q createdBy r ∧
          r.2.status now = .valid := by
      intro r
      rw [listed_chip_iff, chip_valid_iff]
    refine ⟨hvalid, hexpired, fun r hsoon => ?_, fun r hboth => ?_⟩
    · obtain ⟨hlisted, hchip⟩ := listed_chip_iff.mp hsoon
      exact (hvalid r).mpr ⟨hlisted, (chip_expiringSoon_iff.mp hchip).1⟩
    · have h1 := ((hvalid r).mp hboth.1).2
      have h2 := ((hexpired r).mp hboth.2).2
      rw [h1] at h2
      cases h2

section Drafts

attribute [local instance] valueOrder

def lapsedDraft : ValuationRow where
  tenantId := 1
  finalOffer := 0
  isDraft := true
  validUntil := 5

def oneRow (row : ValuationRow) : Table Uuid ValuationRow := Table.insertAll [(7, row)] ∅

theorem valuationRows_oneRow (row : ValuationRow) : valuationRows (oneRow row) = [(7, row)] := rfl

/-- A draft past its date is listed as expired. -/
theorem lapsedDraft_listed_as_expired :
    Listed plainLibraries (fun _ _ => true) 1000 [] (oneRow lapsedDraft) 6 1 (some "expired")
        none none (7, lapsedDraft) ∧ lapsedDraft.status 6 = .draft ∧
      ¬ ∀ tenantId q createdBy, ChipsMatch plainLibraries (fun _ _ => true) 1000 []
        (oneRow lapsedDraft) 6 tenantId q createdBy := by
  have hrow : (7, lapsedDraft) ∈ valuationRows (oneRow lapsedDraft) := by
    rw [valuationRows_oneRow]
    exact List.mem_singleton_self _
  have hlisted : Listed plainLibraries (fun _ _ => true) 1000 [] (oneRow lapsedDraft) 6 1
      (some "expired") none none (7, lapsedDraft) :=
    listed_chip_iff.mpr ⟨listed_none_iff.mpr ⟨hrow, rfl⟩, chip_expired_iff.mpr ⟨rfl, by decide⟩⟩
  refine ⟨hlisted, by decide, fun hall => ?_⟩
  have hexpired := (((hall 1 none none).expired _).mp hlisted).2
  revert hexpired
  decide

end Drafts

end Nexotec
