/-
Rows rewritten one by one under a unique constraint.

An `UPDATE` of one row, told by its key, fails if two rows then have one slot; a flush sends
several, one after the other, and the constraint is checked at each.

* `putRow`, `write`, `writes` — one row, one statement, a flush;
* `writes_nodup` — the slots stay distinct;
* `writes_eq` — a flush that succeeds has put in every row what it has for it;
* `writes_isSome` — a flush to slots that are free, and distinct, succeeds;
* `perm_range'` — distinct numbers from `1` to their count are all of these.
-/
import Mathlib.Data.List.Dedup
import Mathlib.Data.List.Perm.Subperm

namespace SlotWrites

variable {α β κ σ : Type*} [DecidableEq κ]

/-! ### Rows -/

/-- The row of one key rewritten. -/
def putRow (key : α → κ) (put : β → α → α) (u : κ × β) (rows : List α) : List α :=
  rows.map fun row => if key row = u.1 then put u.2 row else row

section

variable {key : α → κ} {slot : α → σ} {put : β → α → α} {rows : List α} {u : κ × β}
  {us : List (κ × β)}

theorem lookup_of_mem {k : κ} {b : β} (hus : (us.map Prod.fst).Nodup) (h : (k, b) ∈ us) :
    us.lookup k = some b := by
  induction us with
  | nil => cases h
  | cons u us ih =>
    rw [List.map_cons, List.nodup_cons] at hus
    rcases List.mem_cons.mp h with rfl | h
    · exact List.lookup_cons_self
    · have hne : (k == u.1) = false := by
        simp only [beq_eq_false_iff_ne]
        rintro rfl
        exact hus.1 (List.mem_map.mpr ⟨_, h, rfl⟩)
      rw [List.lookup_cons, hne]
      exact ih hus.2 h

theorem lookup_of_notMem {k : κ} (h : k ∉ us.map Prod.fst) : us.lookup k = none := by
  rw [List.lookup_eq_none_iff]
  intro v hv
  have hne : k ≠ v.1 := fun heq => h (heq ▸ List.mem_map_of_mem hv)
  simpa using hne

theorem write_isSome {t : σ} (hkeys : (rows.map key).Nodup) (hslots : (rows.map slot).Nodup)
    (ht : ∀ row ∈ rows, key row = u.1 → slot (put u.2 row) = t) (hfree : t ∉ rows.map slot) :
    ((putRow key put u rows).map slot).Nodup := by
  unfold putRow
  rw [List.map_map]
  refine (hkeys.of_map key).map_on fun a ha b hb heq => ?_
  simp only [Function.comp_apply] at heq
  by_cases hau : key a = u.1
  · by_cases hbu : key b = u.1
    · exact List.inj_on_of_nodup_map hkeys ha hb (hau.trans hbu.symm)
    · rw [if_pos hau, if_neg hbu, ht a ha hau] at heq
      exact absurd (List.mem_map.mpr ⟨b, hb, heq.symm⟩) hfree
  · by_cases hbu : key b = u.1
    · rw [if_neg hau, if_pos hbu, ht b hb hbu] at heq
      exact absurd (List.mem_map.mpr ⟨a, ha, heq⟩) hfree
    · rw [if_neg hau, if_neg hbu] at heq
      exact List.inj_on_of_nodup_map hslots ha hb heq

end

/-! ### Flushes -/

variable [DecidableEq σ]

section

variable (key : α → κ) (slot : α → σ) (put : β → α → α)

/-- One statement, and the constraint. -/
def write (rows : List α) (u : κ × β) : Option (List α) :=
  if ((putRow key put u rows).map slot).Nodup then some (putRow key put u rows) else none

/-- A flush. -/
def writes (us : List (κ × β)) (rows : List α) : Option (List α) :=
  us.foldlM (write key slot put) rows

end

variable {key : α → κ} {slot : α → σ} {put : β → α → α} {rows rows' : List α} {u : κ × β}
  {us : List (κ × β)}

theorem write_eq_some (h : write key slot put rows u = some rows') :
    rows' = putRow key put u rows ∧ (rows'.map slot).Nodup := by
  unfold write at h
  split at h
  · next hnodup =>
    cases h
    exact ⟨rfl, hnodup⟩
  · cases h

theorem writes_cons (h : writes key slot put (u :: us) rows = some rows') :
    ((putRow key put u rows).map slot).Nodup ∧
      writes key slot put us (putRow key put u rows) = some rows' := by
  have hbind : (write key slot put rows u).bind (fun rows => writes key slot put us rows) =
      some rows' := h
  obtain ⟨rows₁, hfirst, hrest⟩ := Option.bind_eq_some_iff.mp hbind
  obtain ⟨rfl, hnodup⟩ := write_eq_some hfirst
  exact ⟨hnodup, hrest⟩

/-- **The constraint** holds after a flush. -/
theorem writes_nodup (hslots : (rows.map slot).Nodup)
    (h : writes key slot put us rows = some rows') : (rows'.map slot).Nodup := by
  induction us generalizing rows with
  | nil =>
    cases h
    exact hslots
  | cons u us ih =>
    obtain ⟨hnodup, hrest⟩ := writes_cons h
    exact ih hnodup hrest

variable (hkey : ∀ b row, key (put b row) = key row)

include hkey

theorem key_putRow (u : κ × β) (row : α) :
    key (if key row = u.1 then put u.2 row else row) = key row := by
  split
  · exact hkey _ _
  · rfl

theorem map_key_putRow (u : κ × β) (rows : List α) :
    (putRow key put u rows).map key = rows.map key := by
  unfold putRow
  rw [List.map_map]
  exact List.map_congr_left fun row _ => key_putRow hkey u row

/-- **A flush that succeeds** has put in each row what it has for the row's key. -/
theorem writes_eq (hus : (us.map Prod.fst).Nodup) (h : writes key slot put us rows = some rows') :
    rows' = rows.map fun row => (us.lookup (key row)).elim row fun b => put b row := by
  induction us generalizing rows with
  | nil =>
    cases h
    simp
  | cons u us ih =>
    obtain ⟨-, hrest⟩ := writes_cons h
    rw [List.map_cons, List.nodup_cons] at hus
    rw [ih hus.2 hrest, putRow, List.map_map]
    refine List.map_congr_left fun row _ => ?_
    by_cases hrow : key row = u.1
    · -- no later statement is for this row
      have hnone : us.lookup u.1 = none := lookup_of_notMem hus.1
      obtain ⟨k, b⟩ := u
      have hfirst : ((k, b) :: us).lookup k = some b := by simp
      simp only [Function.comp_apply, hrow, if_true, hkey, hnone, hfirst, Option.elim_none,
        Option.elim_some]
    · obtain ⟨k, b⟩ := u
      have hskip : ((k, b) :: us).lookup (key row) = us.lookup (key row) := by
        rw [List.lookup_cons]
        have hbeq : (key row == k) = false := by simpa using hrow
        rw [hbeq]
      simp only [Function.comp_apply, hrow, if_false, hskip]

/-- **A flush to free and distinct slots** succeeds. -/
theorem writes_isSome {t : κ × β → σ} (hkeys : (rows.map key).Nodup)
    (hslots : (rows.map slot).Nodup) (hus : (us.map Prod.fst).Nodup) (htargets : (us.map t).Nodup)
    (ht : ∀ u ∈ us, ∀ row ∈ rows, key row = u.1 → slot (put u.2 row) = t u)
    (hfree : ∀ u ∈ us, t u ∉ rows.map slot) : ∃ rows', writes key slot put us rows = some rows' := by
  induction us generalizing rows with
  | nil => exact ⟨rows, rfl⟩
  | cons u us ih =>
    rw [List.map_cons, List.nodup_cons] at hus htargets
    have hu := List.mem_cons_self (a := u) (l := us)
    have hnodup := write_isSome hkeys hslots (ht u hu) (hfree u hu)
    have hfirst : write key slot put rows u = some (putRow key put u rows) := if_pos hnodup
    have hkeys' : ((putRow key put u rows).map key).Nodup := by
      rw [map_key_putRow hkey]
      exact hkeys
    have hrest : ∃ rows', writes key slot put us (putRow key put u rows) = some rows' := by
      refine ih hkeys' hnodup hus.2 htargets.2 ?_ ?_
      · -- the other statements are for other rows
        intro v hv row hrow hkeyv
        obtain ⟨old, hold, rfl⟩ := List.mem_map.mp hrow
        rw [key_putRow hkey] at hkeyv
        have hne : key old ≠ u.1 := by
          rw [hkeyv]
          exact fun heq => hus.1 (heq ▸ List.mem_map_of_mem hv)
        rw [if_neg hne]
        exact ht v (List.mem_cons_of_mem u hv) old hold hkeyv
      · intro v hv hmem
        obtain ⟨row, hrow, hslot⟩ := List.mem_map.mp hmem
        obtain ⟨old, hold, rfl⟩ := List.mem_map.mp hrow
        by_cases holdu : key old = u.1
        · rw [if_pos holdu, ht u hu old hold holdu] at hslot
          exact htargets.1 (hslot ▸ List.mem_map_of_mem hv)
        · rw [if_neg holdu] at hslot
          exact hfree v (List.mem_cons_of_mem u hv) (List.mem_map.mpr ⟨old, hold, hslot⟩)
    obtain ⟨rows', hrest⟩ := hrest
    have hbind : (write key slot put rows u).bind (fun rows => writes key slot put us rows) =
        some rows' := by rw [hfirst]; exact hrest
    exact ⟨rows', hbind⟩

omit hkey

/-- Distinct numbers from `1` to their count are all of these. -/
theorem perm_range' {l : List ℕ} (hnodup : l.Nodup) (h : ∀ n ∈ l, 1 ≤ n ∧ n ≤ l.length) :
    l.Perm (List.range' 1 l.length) := by
  have hsub : l ⊆ List.range' 1 l.length := by
    intro n hn
    obtain ⟨hone, hlast⟩ := h n hn
    rw [List.mem_range'_1]
    omega
  have hlength : (List.range' 1 l.length).length ≤ l.length :=
    Nat.le_of_eq List.length_range'
  exact (List.subperm_of_subset hnodup hsub).perm_of_length_le hlength

end SlotWrites
