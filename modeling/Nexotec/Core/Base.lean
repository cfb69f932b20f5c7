/-
What every context of the program shares: keys, instants, decimals, the error
taxonomy (`app/core/errors.py`) and the optimistic version check
(`app/core/concurrency.py`).

Decimals are exact: `Decimal` is ℚ, and the one rounding the pricing code
asks for, `quantize(Decimal("0.01"))`, is the default half-even rounding of
Python's decimal context.
-/
import Mathlib.Data.Rat.Floor
import Mathlib.Algebra.Order.Field.Rat
import Nexotec.Lib.Table

namespace Nexotec

abbrev Uuid := ℕ

instance : LawfulBEq (Uuid × Uuid) := inferInstance

abbrev Time := ℤ

/-- `decimal.Decimal`, computed exactly. -/
abbrev Decimal := ℚ

/-- The nearest integer, a tie going to the even neighbour. -/
def roundHalfEven (x : ℚ) : ℤ :=
  if x - ⌊x⌋ < 1 / 2 then ⌊x⌋
  else if 1 / 2 < x - ⌊x⌋ then ⌊x⌋ + 1
  else if ⌊x⌋ % 2 = 0 then ⌊x⌋ else ⌊x⌋ + 1

/-- `Decimal.quantize(Decimal("0.01"))`. -/
def quantizeCents (x : Decimal) : Decimal := (roundHalfEven (x * 100) : ℚ) / 100

/-- The subclasses of `AppError` the modelled services raise, and the plain
exceptions (`IntegrityError`, a lost connection, …) that reach the caller as
a server error. -/
inductive ErrorCode where
  | notFound
  | badRequest
  | unauthorized
  | forbidden
  | conflict
  | unprocessableEntity
  | internal
  deriving DecidableEq

/-- `AppError`: the HTTP class, the message and `details`. -/
structure AppError where
  code : ErrorCode
  message : String
  details : List (String × String) := []
  deriving DecidableEq

namespace AppError

/-- `details.get("reason")`. -/
def reason (e : AppError) : Option String := e.details.lookup "reason"

end AppError

def notFoundError (message : String) : AppError := ⟨.notFound, message, []⟩

def badRequestError (message : String) (details : List (String × String) := []) : AppError :=
  ⟨.badRequest, message, details⟩

def unauthorizedError (message : String) (details : List (String × String) := []) : AppError :=
  ⟨.unauthorized, message, details⟩

def forbiddenError (message : String) (details : List (String × String) := []) : AppError :=
  ⟨.forbidden, message, details⟩

def conflictError (message : String) (details : List (String × String) := []) : AppError :=
  ⟨.conflict, message, details⟩

def unprocessableEntityError (message : String) (details : List (String × String) := []) :
    AppError :=
  ⟨.unprocessableEntity, message, details⟩

def internalError (message : String) : AppError := ⟨.internal, message, []⟩

/-- A service call: its result, or the exception it raises. -/
abbrev Result (α : Type*) := Except AppError α

/-- `check_version`: the row's version against the caller's `If-Match`. -/
def checkVersion (currentVersion ifMatchVersion : ℕ) (entityName : String) : Result Unit :=
  if currentVersion = ifMatchVersion then .ok ()
  else .error (conflictError
    s!"{entityName} has been modified since If-Match version {ifMatchVersion} (current version is {currentVersion})."
    [("currentVersion", toString currentVersion), ("ifMatchVersion", toString ifMatchVersion)])

/-- A row that must exist: `…_or_404`. -/
def orNotFound {α : Type*} (row : Option α) (message : String) : Result α :=
  match row with
  | some a => .ok a
  | none => .error (notFoundError message)

/-- `INSERT`: a row under a key that is taken raises. -/
def insertRow {ρ : Type} (table : Table Uuid ρ) (id : Uuid) (row : ρ) : Result (Table Uuid ρ) :=
  if (table.lookup id).isSome then .error (internalError "duplicate key")
  else .ok (table.insert id row)

section

variable {α β : Type}

theorem Result.bind_eq_ok {x : Result α} {f : α → Result β} {b : β} :
    (x >>= f) = .ok b ↔ ∃ a, x = .ok a ∧ f a = .ok b := by
  cases x with
  | error e => simp [bind, Except.bind]
  | ok a => simp [bind, Except.bind]

theorem Result.of_bind {x : Result α} {f : α → Result β} {b : β} (h : (x >>= f) = .ok b) :
    ∃ a, x = .ok a ∧ f a = .ok b :=
  Result.bind_eq_ok.mp h

/-- What a step leaves, of one that is taken. -/
theorem some_inj {σ τ : Type*} {s s' : σ} {l l' : τ} (h : some (s, l) = some (s', l')) :
    s = s' ∧ l = l' :=
  Prod.mk.inj (Option.some.inj h)

theorem Result.map_eq_ok {x : Result α} {f : α → β} {b : β} :
    Except.map f x = .ok b ↔ ∃ a, x = .ok a ∧ f a = b := by
  cases x with
  | error e => simp [Except.map]
  | ok a => simp [Except.map]

theorem orNotFound_eq_ok {row : Option α} {message : String} {a : α} :
    orNotFound row message = .ok a ↔ row = some a := by
  cases row <;> simp [orNotFound]

theorem insertRow_eq_ok {ρ : Type} {table table' : Table Uuid ρ} {id : Uuid} {row : ρ}
    (h : insertRow table id row = .ok table') :
    table.lookup id = none ∧ table' = table.insert id row := by
  unfold insertRow at h
  split at h
  · cases h
  · next hnone =>
    cases h
    exact ⟨by simpa using hnone, rfl⟩

end

end Nexotec
