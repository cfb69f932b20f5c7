/-
The part of a `SELECT` that lists need: a `WHERE` in three values, an `ORDER BY`
and a `LIMIT`.

A comparison with NULL is neither true nor false, and a row is selected only where
the condition is true. The order terms say of themselves where NULLs go.

* `conj_eq_true`, `disj_eq_true` — when AND and OR of many conditions are true;
* `Select`, `Select.run` — a statement over one table and its rows;
* `Select.perm_run`, `Select.pairwise_run` — the answer without a limit is an
  arrangement of the selected rows in the order asked for;
* `Select.run_where` — a further condition filters the answer.
-/
import Mathlib.Order.Lattice
import Mathlib.Data.List.Basic

namespace Sql

/-! ### Three truth values -/

/-- True, false, or unknown. -/
abbrev Truth := Option Bool

namespace Truth

def and : Truth → Truth → Truth
  | some false, _ => some false
  | _, some false => some false
  | some true, some true => some true
  | _, _ => none

def or : Truth → Truth → Truth
  | some true, _ => some true
  | _, some true => some true
  | some false, some false => some false
  | _, _ => none

@[simp] theorem and_eq_true {a b : Truth} :
    a.and b = some true ↔ a = some true ∧ b = some true := by
  rcases a with _ | _ | _ <;> rcases b with _ | _ | _ <;> simp [and]

@[simp] theorem or_eq_true {a b : Truth} : a.or b = some true ↔ a = some true ∨ b = some true := by
  rcases a with _ | _ | _ <;> rcases b with _ | _ | _ <;> simp [or]

end Truth

/-- `AND` of a list of conditions. -/
def conj (ts : List Truth) : Truth := ts.foldr Truth.and (some true)

/-- `OR` of a list of conditions. -/
def disj (ts : List Truth) : Truth := ts.foldr Truth.or (some false)

theorem conj_eq_true {ts : List Truth} : conj ts = some true ↔ ∀ t ∈ ts, t = some true := by
  induction ts with
  | nil => simp [conj]
  | cons t ts ih =>
    have hcons : conj (t :: ts) = t.and (conj ts) := rfl
    rw [hcons, Truth.and_eq_true, ih]
    simp

theorem disj_eq_true {ts : List Truth} : disj ts = some true ↔ ∃ t ∈ ts, t = some true := by
  induction ts with
  | nil => simp [disj]
  | cons t ts ih =>
    have hcons : disj (t :: ts) = t.or (disj ts) := rfl
    rw [hcons, Truth.or_eq_true, ih]
    simp [eq_comm]

section Comparisons

variable {α : Type*} [LinearOrder α]

/-- `column < value`: unknown on NULL. -/
def lt (column : Option α) (value : α) : Truth := column.map fun x => decide (x < value)

/-- `column > value`: unknown on NULL. -/
def gt (column : Option α) (value : α) : Truth := column.map fun x => decide (value < x)

/-- `column = value`: unknown on NULL. -/
def eq (column : Option α) (value : α) : Truth := column.map fun x => decide (x = value)

/-- `column IS NULL`. -/
def isNull (column : Option α) : Truth := some column.isNone

@[simp] theorem lt_eq_true {column : Option α} {value : α} :
    lt column value = some true ↔ ∃ x, column = some x ∧ x < value := by
  cases column <;> simp [lt]

@[simp] theorem gt_eq_true {column : Option α} {value : α} :
    gt column value = some true ↔ ∃ x, column = some x ∧ value < x := by
  cases column <;> simp [gt]

@[simp] theorem eq_eq_true {column : Option α} {value : α} :
    eq column value = some true ↔ column = some value := by
  cases column <;> simp [eq]

omit [LinearOrder α] in
@[simp] theorem isNull_eq_true {column : Option α} : isNull column = some true ↔ column = none := by
  cases column <;> simp [isNull]

/-! ### Order terms -/

/-- `… NULLS LAST`: the values in the order given, the NULLs after them. -/
def nullsLast (order : α → α → Ordering) : Option α → Option α → Ordering
  | none, none => .eq
  | none, some _ => .gt
  | some _, none => .lt
  | some x, some y => order x y

/-- `column ASC`. -/
def asc (x y : α) : Ordering := compare x y

/-- `column DESC`. -/
def desc (x y : α) : Ordering := compare y x

instance : Std.TransCmp (asc (α := α)) := inferInstanceAs (Std.TransCmp (compare (α := α)))

instance : Std.TransCmp (desc (α := α)) :=
  inferInstanceAs (Std.TransCmp fun x y : α => compare y x)

omit [LinearOrder α] in
theorem isLE_nullsLast_some {order : α → α → Ordering} {x : α} {b : Option α} :
    (nullsLast order (some x) b).isLE = true ↔ ∀ y ∈ b, (order x y).isLE = true := by
  cases b <;> simp [nullsLast]

omit [LinearOrder α] in
theorem isLE_nullsLast_none {order : α → α → Ordering} {b : Option α} :
    (nullsLast order none b).isLE = true ↔ b = none := by
  cases b <;> simp [nullsLast]

omit [LinearOrder α] in
instance (order : α → α → Ordering) [Std.TransCmp order] : Std.TransCmp (nullsLast order) where
  eq_swap {a b} := by
    cases a with
    | none => cases b <;> rfl
    | some x =>
      cases b with
      | none => rfl
      | some y => exact (Std.OrientedCmp.eq_swap : order x y = (order y x).swap)
  isLE_trans {a b c} hab hbc := by
    cases a with
    | none =>
      rw [isLE_nullsLast_none] at hab ⊢
      rwa [hab, isLE_nullsLast_none] at hbc
    | some x =>
      rw [isLE_nullsLast_some] at hab ⊢
      intro z hz
      cases b with
      | none =>
        rw [isLE_nullsLast_none.mp hbc] at hz
        cases hz
      | some y => exact Std.TransCmp.isLE_trans (hab y rfl) (isLE_nullsLast_some.mp hbc z hz)

end Comparisons

theorem transCmp_column {ρ β : Type*} {order : β → β → Ordering} (horder : Std.TransCmp order)
    (column : ρ → β) : Std.TransCmp fun a b => order (column a) (column b) where
  eq_swap := horder.eq_swap
  isLE_trans := horder.isLE_trans

/-! ### Statements -/

variable {ρ : Type*}

/-- A `SELECT` over one table: the conditions, all of which must be true, the order
terms, the first of which decides, and the limit. -/
structure Select (ρ : Type*) where
  criteria : List (ρ → Truth) := []
  order : List (ρ → ρ → Ordering) := []
  limit : Option ℕ := none

namespace Select

/-- `stmt.where(condition)`. -/
def where_ (q : Select ρ) (condition : ρ → Truth) : Select ρ :=
  { q with criteria := q.criteria ++ [condition] }

/-- `stmt.order_by(*terms)`. -/
def orderBy (q : Select ρ) (terms : List (ρ → ρ → Ordering)) : Select ρ :=
  { q with order := q.order ++ terms }

/-- `stmt.limit(n)`. -/
def limitTo (q : Select ρ) (n : ℕ) : Select ρ := { q with limit := some n }

/-- The row is selected. -/
def selects (q : Select ρ) (row : ρ) : Bool :=
  decide (conj (q.criteria.map fun condition => condition row) = some true)

/-- The order terms, the first of which decides. -/
def compareBy (terms : List (ρ → ρ → Ordering)) : ρ → ρ → Ordering :=
  terms.foldr compareLex fun _ _ => .eq

/-- The selected rows in order, as many as the limit lets through. -/
def run (q : Select ρ) (table : List ρ) : List ρ :=
  let rows := (table.filter q.selects).mergeSort fun a b => (compareBy q.order a b).isLE
  match q.limit with
  | some n => rows.take n
  | none => rows

theorem selects_iff {q : Select ρ} {row : ρ} :
    q.selects row = true ↔ ∀ condition ∈ q.criteria, condition row = some true := by
  simp [selects, conj_eq_true]

@[simp] theorem selects_where (q : Select ρ) (condition : ρ → Truth) (row : ρ) :
    (q.where_ condition).selects row = (q.selects row && decide (condition row = some true)) := by
  rw [Bool.eq_iff_iff, Bool.and_eq_true, decide_eq_true_eq, selects_iff, selects_iff]
  constructor
  · intro h
    exact ⟨fun c hc => h c (List.mem_append_left _ hc), h condition (by simp [where_])⟩
  · rintro ⟨h, hlast⟩ c hc
    rcases List.mem_append.mp hc with hc | hc
    · exact h c hc
    · rw [List.mem_singleton.mp hc]
      exact hlast

@[simp] theorem selects_limitTo (q : Select ρ) (n : ℕ) : (q.limitTo n).selects = q.selects := rfl

theorem transCmp_compareBy {terms : List (ρ → ρ → Ordering)}
    (hterms : ∀ term ∈ terms, Std.TransCmp term) : Std.TransCmp (compareBy terms) := by
  induction terms with
  | nil =>
    exact { eq_swap := rfl, isLE_trans := fun _ _ => rfl }
  | cons term terms ih =>
    have hfirst := hterms term (by simp)
    have hrest := ih fun t ht => hterms t (by simp [ht])
    exact inferInstanceAs (Std.TransCmp (compareLex term (compareBy terms)))

/-- Without a limit, the answer is an arrangement of the selected rows. -/
theorem perm_run {q : Select ρ} (hlimit : q.limit = none) (table : List ρ) :
    (q.run table).Perm (table.filter q.selects) := by
  simp only [run, hlimit]
  exact List.mergeSort_perm _ _

/-- Without a limit, the answer is in the order asked for. -/
theorem pairwise_run {q : Select ρ} (hlimit : q.limit = none)
    (hterms : ∀ term ∈ q.order, Std.TransCmp term) (table : List ρ) :
    (q.run table).Pairwise fun a b => (compareBy q.order a b).isLE = true := by
  have htrans := transCmp_compareBy hterms
  simp only [run, hlimit]
  refine List.pairwise_mergeSort ?_ ?_ _
  · intro a b c hab hbc
    exact Std.TransCmp.isLE_trans hab hbc
  · intro a b
    have hswap : compareBy q.order b a = (compareBy q.order a b).swap := Std.OrientedCmp.eq_swap
    rw [hswap]
    cases compareBy q.order a b <;> rfl

/-- Rows that the order does not tell apart are one row. -/
def Separates (terms : List (ρ → ρ → Ordering)) (table : List ρ) : Prop :=
  ∀ a ∈ table, ∀ b ∈ table, compareBy terms a b = .eq → a = b

/-- **A further condition filters the answer**, where the order tells all rows apart. -/
theorem run_where {q : Select ρ} (hlimit : q.limit = none)
    (hterms : ∀ term ∈ q.order, Std.TransCmp term) {table : List ρ}
    (hsep : Separates q.order table) (condition : ρ → Truth) : (q.where_ condition).run table =
      (q.run table).filter fun row => decide (condition row = some true) := by
  have htrans := transCmp_compareBy hterms
  have hleft := pairwise_run (q := q.where_ condition) hlimit hterms table
  have hright := (pairwise_run hlimit hterms table).filter
    fun row => decide (condition row = some true)
  have hmem : ∀ row ∈ (q.where_ condition).run table, row ∈ table := fun row hrow =>
    List.mem_of_mem_filter ((perm_run (q := q.where_ condition) hlimit table).subset hrow)
  refine List.Perm.eq_of_pairwise ?_ hleft hright ?_
  · intro a b ha hb hab hba
    have hb' : b ∈ table :=
      List.mem_of_mem_filter ((perm_run hlimit table).subset (List.mem_of_mem_filter hb))
    exact hsep a (hmem a ha) b hb' (Std.OrientedCmp.isLE_antisymm hab hba)
  · have hselects : table.filter (q.where_ condition).selects =
        (table.filter q.selects).filter fun row => decide (condition row = some true) := by
      rw [List.filter_filter]
      refine List.filter_congr fun row _ => ?_
      rw [selects_where, Bool.and_comm]
    have hfiltered := perm_run (q := q.where_ condition) hlimit table
    rw [hselects] at hfiltered
    exact hfiltered.trans ((perm_run hlimit table).filter _).symm

theorem strict_run {q : Select ρ} (hlimit : q.limit = none)
    (hterms : ∀ term ∈ q.order, Std.TransCmp term) {table : List ρ} (hnodup : table.Nodup)
    (hsep : Separates q.order table) :
    (q.run table).Pairwise fun a b => compareBy q.order a b = .lt := by
  have hperm := perm_run hlimit table
  have hnodup' : (q.run table).Nodup := hperm.nodup_iff.mpr (hnodup.filter _)
  have hmem : ∀ row ∈ q.run table, row ∈ table := fun row hrow =>
    List.mem_of_mem_filter (hperm.subset hrow)
  refine ((pairwise_run hlimit hterms table).and hnodup').imp_of_mem ?_
  rintro a b ha hb ⟨hle, hne⟩
  cases hcmp : compareBy q.order a b with
  | lt => rfl
  | eq => exact absurd (hsep a (hmem a ha) b (hmem b hb) hcmp) hne
  | gt => rw [hcmp] at hle; cases hle

end Select

end Sql
