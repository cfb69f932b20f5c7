/-
Rows written by difference.

A session of an object-relational mapper remembers a row as it read it, and its
flush sends only what has changed since: an `INSERT` for a row that was not there,
a `DELETE` for one that is to go, and an `UPDATE` of the columns that differ.
Meanwhile the stored row may have changed, and the statement meets that one.

* `writeColumn`, `writeRow`, `writeRows` — what a flush makes of the stored rows,
  and when it fails;
* `writeRow_base`, `writeRows_base` — nobody has changed the row: it is the new one;
* `writeRow_same` — a row that is to stay as it was read is left alone.
-/
import Mathlib.Logic.Basic

namespace RowWrites

/-- A column that did not change is not in the `UPDATE`. -/
def writeColumn {α : Type*} [DecidableEq α] (base new stored : α) : α :=
  if new = base then stored else new

theorem writeColumn_base {α : Type*} [DecidableEq α] (base new : α) :
    writeColumn base new base = new := by
  unfold writeColumn
  split
  · next heq => exact heq.symm
  · rfl

section

variable {ρ : Type*} [DecidableEq ρ] (columns : ρ → ρ → ρ → ρ)

/-- The stored row after the flush; `none` is a unique key that is taken or an
`UPDATE` that finds no row. -/
def writeRow (base new stored : Option ρ) : Option (Option ρ) :=
  if base = new then some stored
  else
    match base, new, stored with
    | _, none, _ => some none
    | none, some n, none => some (some n)
    | none, some _, some _ => none
    | some _, some _, none => none
    | some b, some n, some s => some (some (columns b n s))

@[simp] theorem writeRow_same (base stored : Option ρ) :
    writeRow columns base base stored = some stored := if_pos rfl

/-- A row nobody has changed since it was read becomes the new one. -/
theorem writeRow_base (hcolumns : ∀ b n, columns b n b = n) (base new : Option ρ) :
    writeRow columns base new base = some new := by
  unfold writeRow
  split
  · next heq => rw [heq]
  · match base, new with
    | _, none => rfl
    | none, some n => rfl
    | some b, some n => simp only [hcolumns]

variable {κ : Type*}

/-- The rows of one object, `keys` being those whose statement can fail. -/
def writeRows (keys : List κ) (base new stored : κ → Option ρ) : Option (κ → Option ρ) :=
  if ∀ k ∈ keys, writeRow columns (base k) (new k) (stored k) ≠ none then
    some fun k => (writeRow columns (base k) (new k) (stored k)).getD (stored k)
  else none

theorem writeRows_base (hcolumns : ∀ b n, columns b n b = n) (keys : List κ)
    (base new : κ → Option ρ) : writeRows columns keys base new base = some new := by
  unfold writeRows
  rw [if_pos]
  · simp only [writeRow_base columns hcolumns, Option.getD_some]
  · intro k _
    rw [writeRow_base columns hcolumns]
    exact Option.some_ne_none _

variable {columns} {keys : List κ} {base new stored rows : κ → Option ρ}

theorem writeRows_apply (h : writeRows columns keys base new stored = some rows) (k : κ) :
    rows k = (writeRow columns (base k) (new k) (stored k)).getD (stored k) := by
  unfold writeRows at h
  split at h
  · cases h
    rfl
  · cases h

theorem writeRows_of_same (h : writeRows columns keys base new stored = some rows) {k : κ}
    (hk : base k = new k) : rows k = stored k := by
  rw [writeRows_apply h, hk, writeRow_same, Option.getD_some]

end

end RowWrites
