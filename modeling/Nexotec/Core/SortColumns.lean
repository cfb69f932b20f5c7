/-
The columns by which the lists of deals and of valuations are sorted
(`app/sales/api/deals.py`, `app/valuation/api/valuations.py`), and the cursors made
of them.

A column is named in an allow-list; what of it goes into a cursor is decided by the
Python type of the value.
-/
import Nexotec.Core.SortedPages

namespace Nexotec.Pagination

/-! ### The allow-lists -/

/-- The sortable columns of `sales_deal`. -/
structure SalesDeal where
  id : Uuid
  number : String
  customerLabel : Option String
  vehicleLabel : Option String
  ownerLabel : Option String
  grossPrice : Option Decimal
  updatedAt : Time
  createdAt : Time

/-- `DEAL_SORT_FIELDS`. -/
inductive DealSortField where
  | number
  | customerLabel
  | vehicleLabel
  | ownerLabel
  | grossPrice
  | updatedAt
  | createdAt
  deriving DecidableEq

def DealSortField.column : DealSortField → SalesDeal → Option SortValue
  | .number, deal => some (.str deal.number)
  | .customerLabel, deal => deal.customerLabel.map .str
  | .vehicleLabel, deal => deal.vehicleLabel.map .str
  | .ownerLabel, deal => deal.ownerLabel.map .str
  | .grossPrice, deal => deal.grossPrice.map .decimal
  | .updatedAt, deal => some (.datetime deal.updatedAt)
  | .createdAt, deal => some (.datetime deal.createdAt)

/-- The sortable columns of `valuation`. -/
structure SortedValuation where
  id : Uuid
  valuationNumber : String
  validUntil : Time
  mileage : Option ℤ
  finalOffer : Decimal
  createdAt : Time

/-- `VALUATION_SORT_FIELDS`. -/
inductive ValuationSortField where
  | valuationNumber
  | validUntil
  | mileage
  | finalOffer
  | createdAt
  deriving DecidableEq

def ValuationSortField.column : ValuationSortField → SortedValuation → Option SortValue
  | .valuationNumber, valuation => some (.str valuation.valuationNumber)
  | .validUntil, valuation => some (.datetime valuation.validUntil)
  | .mileage, valuation => valuation.mileage.map .int
  | .finalOffer, valuation => some (.decimal valuation.finalOffer)
  | .createdAt, valuation => some (.datetime valuation.createdAt)

/-- What `?sort=` asks for, or the default where it asks for nothing. -/
def sortOrDefault {κ ρ : Type} (column : κ → ρ → Option SortValue) (default : κ × Direction)
    (sort : List (κ × Direction)) : List (SortField ρ) :=
  (if sort = [] then [default] else sort).map fun field => ⟨column field.1, field.2⟩

/-- `parse_sort(sort, allowed=DEAL_SORT_FIELDS) or _DEFAULT_DEAL_SORT`. -/
def dealSort (sort : List (DealSortField × Direction)) : List (SortField SalesDeal) :=
  sortOrDefault DealSortField.column (.updatedAt, .desc) sort

/-- `parse_sort(sort, allowed=VALUATION_SORT_FIELDS) or _DEFAULT_VALUATION_SORT`. -/
def valuationSort (sort : List (ValuationSortField × Direction)) : List (SortField SortedValuation) :=
  sortOrDefault ValuationSortField.column (.createdAt, .desc) sort

/-! ### The next cursor -/

/-- The page of these rows ends with `row` and gets a cursor, and the cursor is read back as
that row's values, NULLs included, and its id. -/
def CursorCarries {ρ : Type} (lib : Libraries) (id : ρ → Uuid) (fields : List (SortField ρ))
    (rows : List ρ) (limit : ℕ) (position : Option SortCursorPosition) (row : ρ) : Prop :=
  ∃ page cursor, buildSortedPage lib id rows ⟨limit, position, fields⟩ = .ok (page, some cursor) ∧
    decodeSortCursor lib cursor =
      .ok ⟨fields.map fun field => field.column row, some (.uuid (id row))⟩

/-- The page has a successor, and `row` is its last row. -/
structure EndsWith {ρ : Type} (rows : List ρ) (limit : ℕ) (row : ρ) : Prop where
  positive : 0 < limit
  more : limit < rows.length
  last : rows[limit - 1]? = some row

section

variable {ρ κ : Type} {lib : Libraries} {id : ρ → Uuid} {fields : List (SortField ρ)} {rows : List ρ}
  {limit : ℕ} {position : Option SortCursorPosition} {row : ρ}

theorem cursorCarries_iff (h : EndsWith rows limit row) :
    CursorCarries lib id fields rows limit position row ↔
      ∀ field ∈ fields, serializes (field.column row) = true := by
  have hpage := buildSortedPage_more lib id (show (⟨limit, position, fields⟩ : SortPageParams ρ).limit <
    rows.length from h.more) h.last h.positive
  unfold CursorCarries
  rw [hpage]
  dsimp only
  constructor
  · rintro ⟨page, cursor, hcursor, -⟩
    by_contra hnot
    push Not at hnot
    obtain ⟨field, hfield, hvalue⟩ := hnot
    obtain ⟨e, he⟩ := encodeSortCursor_error lib (fields.map fun field => field.column row) (id row)
      ⟨field.column row, List.mem_map.mpr ⟨field, hfield, rfl⟩, Bool.of_not_eq_true hvalue⟩
    rw [he] at hcursor
    cases hcursor
  · intro hall
    obtain ⟨cursor, hencode, hdecode⟩ := encodeSortCursor_spec lib
      (fields.map fun field => field.column row) (id row) (List.forall_mem_map.mpr hall)
    rw [hencode]
    exact ⟨_, cursor, rfl, hdecode⟩

variable [DecidableEq κ] {column : κ → ρ → Option SortValue} {default : κ × Direction}
  {sort : List (κ × Direction)}

theorem forall_sortOrDefault_iff {amount : κ} (hdefault : default.1 ≠ amount)
    (htags : ∀ k, k ≠ amount → serializes (column k row) = true) :
    (∀ field ∈ sortOrDefault column default sort, serializes (field.column row) = true) ↔
      (amount ∈ sort.map Prod.fst → serializes (column amount row) = true) := by
  unfold sortOrDefault
  rw [List.forall_mem_map]
  rcases eq_or_ne sort [] with rfl | hne
  · rw [if_pos rfl]
    refine iff_of_true (fun field hfield => ?_) fun hmem => by cases hmem
    rw [List.mem_singleton.mp hfield]
    exact htags _ hdefault
  · rw [if_neg hne]
    constructor
    · intro h hmem
      obtain ⟨field, hfield, rfl⟩ := List.mem_map.mp hmem
      exact h field hfield
    · intro h field hfield
      by_cases hamount : field.1 = amount
      · rw [hamount]
        exact h (List.mem_map.mpr ⟨field, hfield, hamount⟩)
      · exact htags _ hamount

end

theorem serializes_map {α : Type} {f : α → SortValue} (h : ∀ a, serializes (some (f a)) = true)
    (column : Option α) : serializes (column.map f) = true := by
  cases column with
  | none => rfl
  | some a => exact h a

theorem deal_column_serializes (deal : SalesDeal) (field : DealSortField)
    (h : field ≠ .grossPrice) : serializes (field.column deal) = true := by
  cases field with
  | grossPrice => exact absurd rfl h
  | customerLabel => exact serializes_map (fun _ => rfl) _
  | vehicleLabel => exact serializes_map (fun _ => rfl) _
  | ownerLabel => exact serializes_map (fun _ => rfl) _
  | number | updatedAt | createdAt => rfl

theorem grossPrice_serializes_iff (deal : SalesDeal) :
    serializes (DealSortField.grossPrice.column deal) = true ↔ deal.grossPrice = none := by
  change serializes (deal.grossPrice.map .decimal) = true ↔ deal.grossPrice = none
  cases deal.grossPrice with
  | none => exact iff_of_true rfl rfl
  | some price => exact iff_of_false Bool.false_ne_true fun h => by cases h

theorem valuation_column_serializes (valuation : SortedValuation) (field : ValuationSortField)
    (h : field ≠ .finalOffer) : serializes (field.column valuation) = true := by
  cases field with
  | finalOffer => exact absurd rfl h
  | mileage => exact serializes_map (fun _ => rfl) _
  | valuationNumber | validUntil | createdAt => rfl

/-- **A list of deals goes on** just when its pages end with deals that have no gross price
or it is not sorted by it, **and a list of valuations** just when it is not sorted by the
final offer. -/
theorem next_cursor_iff (lib : Libraries) (limit : ℕ) (position : Option SortCursorPosition) :
    (∀ sort rows deal, EndsWith rows limit deal →
      (CursorCarries lib SalesDeal.id (dealSort sort) rows limit position deal ↔
        (DealSortField.grossPrice ∈ sort.map Prod.fst → deal.grossPrice = none))) ∧
    (∀ sort rows valuation, EndsWith rows limit valuation →
      (CursorCarries lib SortedValuation.id (valuationSort sort) rows limit position valuation ↔
        ValuationSortField.finalOffer ∉ sort.map Prod.fst)) := by
  constructor
  · intro sort rows deal hends
    rw [cursorCarries_iff hends, dealSort, forall_sortOrDefault_iff (by decide)
      (deal_column_serializes deal), grossPrice_serializes_iff]
  · intro sort rows valuation hends
    rw [cursorCarries_iff hends, valuationSort, forall_sortOrDefault_iff (by decide)
      (valuation_column_serializes valuation)]
    exact imp_congr_right fun _ => iff_of_false Bool.false_ne_true not_false

section

attribute [local instance] valueOrder

def emptyDeal (id : Uuid) : SalesDeal := ⟨id, "O-1", none, none, none, none, 5, 4⟩

theorem next_cursor_iff_emptyDeals :
    CursorCarries plainLibraries SalesDeal.id (dealSort [(.grossPrice, .asc), (.number, .desc)])
      [emptyDeal 1, emptyDeal 2] 1 none (emptyDeal 1) :=
  ((next_cursor_iff plainLibraries 1 none).1 _ _ _ ⟨by decide, by decide, rfl⟩).mpr fun _ => rfl

def valued (id : Uuid) (finalOffer : Decimal) : SortedValuation :=
  ⟨id, "B-000001", 9, some 40000, finalOffer, 3⟩

/-- Two valuations by final offer, one to a page: the first page raises. -/
theorem finalOffer_has_no_cursor : EndsWith [valued 1 12000, valued 2 15000] 1 (valued 1 12000) ∧
      ¬ CursorCarries plainLibraries SortedValuation.id (valuationSort [(.finalOffer, .asc)])
        [valued 1 12000, valued 2 15000] 1 none (valued 1 12000) ∧
      ∃ e, buildSortedPage plainLibraries SortedValuation.id [valued 1 12000, valued 2 15000]
        ⟨1, none, valuationSort [(.finalOffer, .asc)]⟩ = .error e := by
  have hends : EndsWith [valued 1 12000, valued 2 15000] 1 (valued 1 12000) :=
    ⟨by decide, by decide, rfl⟩
  refine ⟨hends, fun h => ?_, ⟨_, rfl⟩⟩
  have hoffer := (cursorCarries_iff hends).mp h ⟨ValuationSortField.finalOffer.column, .asc⟩
    (List.mem_singleton_self _)
  cases hoffer

end

end Nexotec.Pagination
