/-
Sorted cursor pagination (`app/core/pagination.py`, `SortField` of
`app/core/sorting.py`).

A list endpoint orders its rows by the columns the caller names, NULLs last and
the row id last of all, fetches one row more than the limit, and hands out the
last row's sort values as an opaque cursor: base64 of a JSON list of tagged values.
The next request turns the cursor into a predicate "after this row".

Base64 and JSON carry the tagged list without loss, so a cursor is that list.
`Libraries` has what the code takes from elsewhere: the texts of instants and keys,
and which values the query builder lets stand on the right of `<` and `>`.
-/
import Nexotec.Core.Base
import Nexotec.Lib.Sql
import Nexotec.Lib.Keyset

namespace Nexotec.Pagination

open Sql

/-! ### Values of sort columns -/

/-- A non-NULL value of a sort column, as the row object has it. An enumeration
member is its string. -/
inductive SortValue where
  | datetime (t : Time)
  | uuid (u : Uuid)
  | bool (b : Bool)
  | int (n : ℤ)
  | str (s : String)
  | decimal (d : Decimal)
  | date (day : ℤ)

/-- A JSON value, of those a cursor has. -/
inductive Json where
  | null
  | bool (b : Bool)
  | int (n : ℤ)
  | text (s : String)

/-- `[tag, value]`. -/
structure Tagged where
  tag : String
  value : Json

abbrev Cursor := List Tagged

/-- What the code takes from the standard library and from the query builder. -/
structure Libraries where
  /-- `datetime.isoformat`. -/
  isoformat : Time → String
  /-- `datetime.fromisoformat`; `none` is a `ValueError`. -/
  fromisoformat : String → Option Time
  fromisoformat_isoformat : ∀ t, fromisoformat (isoformat t) = some t
  /-- `str(uuid)`. -/
  uuidText : Uuid → String
  /-- `uuid.UUID(text)`; `none` is a `ValueError`. -/
  parseUuid : String → Option Uuid
  parseUuid_uuidText : ∀ u, parseUuid (uuidText u) = some u
  /-- `column < value` and `column > value` can be built for this value; else they
  raise an `ArgumentError`. -/
  orders : Option SortValue → Bool
  orders_uuid : ∀ u, orders (some (.uuid u)) = true

section

variable (lib : Libraries)

def serializeSortValue : Option SortValue → Result Tagged
  | none => .ok ⟨"null", .null⟩
  | some (.datetime t) => .ok ⟨"dt", .text (lib.isoformat t)⟩
  | some (.uuid u) => .ok ⟨"uuid", .text (lib.uuidText u)⟩
  | some (.bool b) => .ok ⟨"bool", .bool b⟩
  | some (.int n) => .ok ⟨"int", .int n⟩
  | some (.str s) => .ok ⟨"str", .text s⟩
  | some _ => .error (internalError "Unsupported cursor value type for sorted pagination")

def malformedCursor : AppError := badRequestError "Cursor is malformed or invalid."

def Json.toValue : Json → Option SortValue
  | .null => none
  | .bool b => some (.bool b)
  | .int n => some (.int n)
  | .text s => some (.str s)

/-- `_deserialize_sort_value`, its `ValueError` and `TypeError` as `decode_sort_cursor`
turns them. -/
def deserializeSortValue (tagged : Tagged) : Result (Option SortValue) :=
  if tagged.tag = "null" then .ok none
  else if tagged.tag = "dt" then
    match tagged.value with
    | .text s =>
      match lib.fromisoformat s with
      | some t => .ok (some (.datetime t))
      | none => .error malformedCursor
    | _ => .error malformedCursor
  else if tagged.tag = "uuid" then
    match tagged.value with
    | .text s =>
      match lib.parseUuid s with
      | some u => .ok (some (.uuid u))
      | none => .error malformedCursor
    | .null => .error malformedCursor
    -- `UUID(5)` is an `AttributeError`, which nothing catches
    | _ => .error (internalError "AttributeError")
  else if tagged.tag = "bool" ∨ tagged.tag = "int" ∨ tagged.tag = "str" then
    .ok tagged.value.toValue
  else .error malformedCursor

/-- `SortCursorPosition`: one value per active sort field and the row id. -/
structure SortCursorPosition where
  values : List (Option SortValue)
  id : Option SortValue

/-- `encode_sort_cursor` of the position of a row. -/
def encodeSortCursor (values : List (Option SortValue)) (id : Uuid) : Result Cursor := do
  let items ← values.mapM (serializeSortValue lib)
  return items ++ [⟨"uuid", .text (lib.uuidText id)⟩]

def decodeSortCursor (cursor : Cursor) : Result SortCursorPosition :=
  match cursor.getLast? with
  | none => .error malformedCursor
  | some idItem => do
    let values ← cursor.dropLast.mapM (deserializeSortValue lib)
    let id ← deserializeSortValue lib idItem
    return ⟨values, id⟩

end

/-! ### The query -/

/-- `"asc"` or `"desc"`. -/
inductive Direction where
  | asc
  | desc

/-- `SortField`: the column's value on a row, and the direction. -/
structure SortField (ρ : Type) where
  column : ρ → Option SortValue
  direction : Direction

/-- `SortPageParams`. -/
structure SortPageParams (ρ : Type) where
  limit : ℕ
  cursor : Option SortCursorPosition
  sortFields : List (SortField ρ)

section

variable {ρ : Type} [LinearOrder SortValue] (lib : Libraries) (id : ρ → Uuid)

/-- `model.id`, never NULL. -/
def idColumn (row : ρ) : Option SortValue := some (.uuid (id row))

/-- `field.column.asc().nulls_last()` or `field.column.desc().nulls_last()`. -/
def SortField.orderTerm (field : SortField ρ) (a b : ρ) : Ordering :=
  match field.direction with
  | .desc => nullsLast Sql.desc (field.column a) (field.column b)
  | .asc => nullsLast Sql.asc (field.column a) (field.column b)

/-- The order terms, `model.id.asc()` last. -/
def orderTerms (sortFields : List (SortField ρ)) : List (ρ → ρ → Ordering) :=
  sortFields.map SortField.orderTerm ++ [fun a b => nullsLast Sql.asc (idColumn id a) (idColumn id b)]

/-- `strictly_after`: the column is NULL, or past the cursor's value. -/
def strictlyAfter (field : SortField ρ) (cursorValue : SortValue) : Result (ρ → Truth) :=
  if lib.orders (some cursorValue) then
    match field.direction with
    | .desc => .ok fun row => (isNull (field.column row)).or (Sql.lt (field.column row) cursorValue)
    | .asc => .ok fun row => (isNull (field.column row)).or (Sql.gt (field.column row) cursorValue)
  else .error (internalError "operators can be used with None/True/False")

/-- `and_(*conditions)`. -/
def allOf (conditions : List (ρ → Truth)) (row : ρ) : Truth :=
  conj (conditions.map fun condition => condition row)

/-- `or_(*conditions)`. -/
def anyOf (conditions : List (ρ → Truth)) (row : ρ) : Truth :=
  disj (conditions.map fun condition => condition row)

/-- The loop over the sort fields and the cursor's values: `clauses` and
`equal_so_far`. -/
def keysetClauses : List (SortField ρ × Option SortValue) → List (ρ → Truth) → List (ρ → Truth) →
    Result (List (ρ → Truth) × List (ρ → Truth))
  | [], clauses, equalSoFar => .ok (clauses, equalSoFar)
  -- ties among NULLs are for the next field to break: no clause of its own
  | (field, none) :: rest, clauses, equalSoFar =>
    keysetClauses rest clauses (equalSoFar ++ [fun row => isNull (field.column row)])
  | (field, some cursorValue) :: rest, clauses, equalSoFar => do
    let after ← strictlyAfter lib field cursorValue
    keysetClauses rest (clauses ++ [allOf (equalSoFar ++ [after])])
      (equalSoFar ++ [fun row => Sql.eq (field.column row) cursorValue])

/-- `model.id > cursor.id`. -/
def idAfter (cursorId : Option SortValue) : Result (ρ → Truth) :=
  match cursorId with
  | some value =>
    if lib.orders cursorId then .ok fun row => Sql.gt (idColumn id row) value
    else .error (internalError "operators can be used with None/True/False")
  | none => .error (internalError "operators can be used with None/True/False")

def paginateQuerySorted (stmt : Select ρ) (params : SortPageParams ρ) : Result (Select ρ) :=
  let ordered := stmt.orderBy (orderTerms id params.sortFields)
  match params.cursor with
  | none => .ok (ordered.limitTo (params.limit + 1))
  | some position => do
    let (clauses, equalSoFar) ←
      keysetClauses lib (params.sortFields.zip position.values) [] []
    let after ← idAfter lib id position.id
    return (ordered.where_ (anyOf (clauses ++ [allOf (equalSoFar ++ [after])]))).limitTo
      (params.limit + 1)

omit [LinearOrder SortValue] in
/-- `build_sorted_page`. -/
def buildSortedPage (rows : List ρ) (params : SortPageParams ρ) :
    Result (List ρ × Option Cursor) :=
  let hasMore := rows.length > params.limit
  let pageRows := rows.take params.limit
  match pageRows.getLast? with
  | some last =>
    if hasMore then do
      let cursor ← encodeSortCursor lib
        (params.sortFields.map fun field => field.column last) (id last)
      return (pageRows, some cursor)
    else .ok (pageRows, none)
  | none => .ok (pageRows, none)

/-- One request of a list endpoint: the cursor decoded, the query run over the
table's rows, the page built. -/
def listPage (table : List ρ) (stmt : Select ρ) (sortFields : List (SortField ρ)) (limit : ℕ)
    (cursor : Option Cursor) : Result (List ρ × Option Cursor) := do
  let position ← match cursor with
    | some c => (decodeSortCursor lib c).map some
    | none => .ok none
  let params : SortPageParams ρ := ⟨limit, position, sortFields⟩
  let query ← paginateQuerySorted lib id stmt params
  buildSortedPage lib id (query.run table) params

/-- The unpaged list: the same statement in the same order, without a limit. -/
def unpaged (table : List ρ) (stmt : Select ρ) (sortFields : List (SortField ρ)) : List ρ :=
  (stmt.orderBy (orderTerms id sortFields)).run table

end

end Nexotec.Pagination
