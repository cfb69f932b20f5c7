/-
What becomes of a cursor that a client made up (`decode_cursor` and
`decode_sort_cursor` of `app/core/pagination.py`).

The payload is any JSON value.  The functions take it apart without a schema and turn
some exceptions into a bad request; the others are a server error.

* `decodeCursor`, `decodeSortCursor` — the functions, with the exceptions that Python
  raises on the way.
-/
import Mathlib
import Nexotec.Core.Base
import Nexotec.Core.Json

namespace Nexotec.CursorDecoding

/-! ### Values and exceptions -/

/-- A `datetime` with a time zone, or without one. -/
inductive Instant where
  | aware (t : Time)
  | naive (t : Time)

/-- A value of Python that a cursor can become. -/
inductive PyValue where
  | datetime (instant : Instant)
  | uuid (id : Uuid)
  | json (value : Json)

inductive PyException where
  | valueError
  | keyError
  | typeError
  | attributeError
  | recursionError
  deriving DecidableEq

/-- What the code takes from the standard library. -/
structure Libraries where
  /-- `json.loads(base64.urlsafe_b64decode(cursor.encode("ascii")))`. -/
  loads : PyText → Except PyException Json
  /-- A text that is not ASCII, not base64, not UTF-8 or not JSON is a `ValueError`; one
  that is nested too deep is a `RecursionError`. -/
  loads_error : ∀ cursor e, loads cursor = .error e → e = .valueError ∨ e = .recursionError
  /-- `datetime.fromisoformat` of a text; `none` is a `ValueError`. -/
  fromisoformat : PyText → Option Instant
  /-- `uuid.UUID` of a text; `none` is a `ValueError`. -/
  parseUuid : PyText → Option Uuid

/-- `BadRequestError`, or an exception that nothing catches. -/
inductive Raised where
  | badRequestError
  | escaped (e : PyException)

/-- `except (...) as exc: raise BadRequestError(...) from exc`. -/
def handle {α : Type} (caught : List PyException) : Except PyException α → Except Raised α
  | .ok a => .ok a
  | .error e => .error (if e ∈ caught then .badRequestError else .escaped e)

variable (lib : Libraries)

/-- `datetime.fromisoformat(value)`. -/
def fromisoformat : Json → Except PyException Instant
  | .str t =>
    match lib.fromisoformat t with
    | some instant => .ok instant
    | none => .error .valueError
  | _ => .error .typeError

/-- `uuid.UUID(value)`: the constructor asks for an argument, and then for its `replace`. -/
def parseUuid : Json → Except PyException Uuid
  | .str t =>
    match lib.parseUuid t with
    | some id => .ok id
    | none => .error .valueError
  | .null => .error .typeError
  | _ => .error .attributeError

/-! ### The cursor of a creation time and an id -/

/-- `tag, value = tagged`: a list, a text and an object are taken apart. -/
def unpack : Json → Except PyException (Json × Json)
  | .list [tag, value] => .ok (tag, value)
  | .list _ => .error .valueError
  | .str [tag, value] => .ok (.str [tag], .str [value])
  | .str _ => .error .valueError
  | .object [(tag, _), (value, _)] => .ok (.str tag, .str value)
  | .object _ => .error .valueError
  | _ => .error .typeError

/-- `("bool", "int", "str")`. -/
def plainTags : List PyText := [text "bool", text "int", text "str"]

def deserializeSortValue (tagged : Json) : Except PyException PyValue := do
  let (tag, value) ← unpack tagged
  match tag with
  | .str tag =>
    if tag = text "null" then pure (.json .null)
    else if tag = text "dt" then return .datetime (← fromisoformat lib value)
    else if tag = text "uuid" then return .uuid (← parseUuid lib value)
    else if tag ∈ plainTags then pure (.json value)
    else .error .valueError
  | _ => .error .valueError

structure SortCursorPosition where
  values : List PyValue
  id : PyValue

/-- `decode_sort_cursor` before its `except`. -/
def readSortCursor (cursor : PyText) : Except PyException SortCursorPosition := do
  match ← lib.loads cursor with
  | .list items =>
    match items.getLast? with
    | none => .error .valueError
    | some idItem => do
      let values ← items.dropLast.mapM (deserializeSortValue lib)
      let id ← deserializeSortValue lib idItem
      pure ⟨values, id⟩
  | _ => .error .valueError

def decodeSortCursor (cursor : PyText) : Except Raised SortCursorPosition :=
  handle [.valueError, .keyError, .typeError] (readSortCursor lib cursor)

/-! ### What fits a request -/

/-- The type of a column that can be sorted by. -/
inductive ColumnType where
  | datetime
  | uuid
  | bool
  | int
  | str
  | decimal
  | date

def PyValue.isNone : PyValue → Bool
  | .json .null => true
  | _ => false

section Items

variable {lib : Libraries} {item : Json} {tag : PyText} {value : Json} {e : PyException}

variable {instant : Instant}

variable {id : Uuid}

end Items

section Lists

variable {α β ε : Type} {f : α → Except ε β} {l : List α}

variable {a : α}

variable {R : α → β → Prop} {l : List α} {bs : List β}

end Lists

section Cursors

variable {lib : Libraries} {cursor : PyText} {caught : List PyException}

variable {e : PyException}

variable {fields : List (PyText × Json)}

variable {columns : List ColumnType}

end Cursors

end Nexotec.CursorDecoding
