/-
Rows of a list that are told apart by a key.

`replaceRow key new rows` puts `new` in the place of every row with its key.  Where
the keys are distinct that is one row at most:

* `map_key_replaceRow` — the keys stay, in order;
* `replaceRow_cons_self`, `filter_replaceRow`, `filter_replaceRow_of_not` — the row that is
  replaced, and what the replacement does to the rows of one kind;
* `mergeSort_eq_of_perm` — rows with distinct ranks have one order;
* `forall₂_of_keys` — the same keys, row by row.
-/
import Mathlib.Data.List.Dedup
import Mathlib.Data.List.Sort

namespace KeyedRows

open List

variable {α κ : Type*} {key : α → κ} {rows : List α} {old new : α}

theorem eq_of_key_eq (hnodup : (rows.map key).Nodup) {a b : α} (ha : a ∈ rows) (hb : b ∈ rows)
    (h : key a = key b) : a = b :=
  List.inj_on_of_nodup_map hnodup ha hb h

section Forall₂

variable {β γ : Type*} {R : β → α → Prop} {S : α → α → Prop} {rows' : List α}

/-- Two lists with the same distinct keys correspond row by row, when each row of one
corresponds to the row of the other with its key. -/
theorem forall₂_of_keys (hnodup : (rows.map key).Nodup) (hkeys : rows'.map key = rows.map key)
    (h : ∀ row' ∈ rows', ∃ row ∈ rows, key row' = key row ∧ S row row') :
    List.Forall₂ S rows rows' := by
  have hlength : rows.length = rows'.length := by
    have hmapped := congrArg List.length hkeys
    rw [List.length_map, List.length_map] at hmapped
    exact hmapped.symm
  refine List.forall₂_iff_get.mpr ⟨hlength, fun i hi hi' => ?_⟩
  obtain ⟨row, hrow, hkey, hS⟩ := h rows'[i] (List.getElem_mem hi')
  have hsame : key rows'[i] = key rows[i] := by
    have hat : (rows'.map key)[i]? = (rows.map key)[i]? := by rw [hkeys]
    rw [List.getElem?_map, List.getElem?_map, List.getElem?_eq_getElem hi,
      List.getElem?_eq_getElem hi'] at hat
    exact Option.some.inj hat
  obtain rfl : row = rows[i] :=
    eq_of_key_eq hnodup hrow (List.getElem_mem hi) (hkey.symm.trans hsame)
  exact hS

theorem map_eq_of_forall₂ {f : α → γ} (h : List.Forall₂ S rows rows')
    (hf : ∀ row row', S row row' → f row' = f row) : rows'.map f = rows.map f := by
  induction h with
  | nil => rfl
  | cons hrow _ ih => rw [List.map_cons, List.map_cons, hf _ _ hrow, ih]

theorem forall₂_trans {l : List β} (h : List.Forall₂ R l rows) (h' : List.Forall₂ S rows rows')
    (hcomp : ∀ b row row', R b row → S row row' → R b row') : List.Forall₂ R l rows' := by
  induction h generalizing rows' with
  | nil =>
    cases h'
    exact .nil
  | cons hrow _ ih =>
    cases h' with
    | cons hrow' hrest => exact .cons (hcomp _ _ _ hrow hrow') (ih hrest)

end Forall₂

variable [DecidableEq κ]

/-- `new` in the place of the rows with its key. -/
def replaceRow (key : α → κ) (new : α) (rows : List α) : List α :=
  rows.map fun row => if key row = key new then new else row

theorem map_key_replaceRow (key : α → κ) (new : α) (rows : List α) :
    (replaceRow key new rows).map key = rows.map key := by
  rw [replaceRow, List.map_map]
  refine List.map_congr_left fun row _ => ?_
  rw [Function.comp_apply]
  split
  · next h => exact h.symm
  · rfl

theorem replaceRow_of_notMem (h : key new ∉ rows.map key) : replaceRow key new rows = rows := by
  refine (List.map_congr_left fun row hrow => ?_).trans (List.map_id rows)
  rw [if_neg]
  · rfl
  · intro heq
    exact h (heq ▸ List.mem_map_of_mem hrow)

theorem replaceRow_cons_self (hold : key old = key new) (h : key new ∉ rows.map key) :
    replaceRow key new (old :: rows) = new :: rows := by
  calc replaceRow key new (old :: rows) = new :: replaceRow key new rows := by
        rw [replaceRow, List.map_cons, if_pos hold]
        rfl
    _ = new :: rows := by rw [replaceRow_of_notMem h]

section

variable {p : α → Bool}

/-- A row of the kind that is replaced by another one is replaced among them. -/
theorem filter_replaceRow (hnew : p new = true) (hsame : ∀ row ∈ rows, key row = key new → p row = true) :
    (replaceRow key new rows).filter p = replaceRow key new (rows.filter p) := by
  induction rows with
  | nil => rfl
  | cons row rows ih =>
    have hrest := ih fun r hr => hsame r (List.mem_cons_of_mem row hr)
    rw [replaceRow, List.map_cons, ← replaceRow]
    by_cases hkey : key row = key new
    · rw [if_pos hkey, List.filter_cons_of_pos hnew, hrest,
        List.filter_cons_of_pos (hsame row List.mem_cons_self hkey)]
      rw [replaceRow, replaceRow, List.map_cons, if_pos hkey]
    · rw [if_neg hkey]
      cases hp : p row with
      | true =>
        rw [List.filter_cons_of_pos hp, List.filter_cons_of_pos hp, hrest]
        rw [replaceRow, replaceRow, List.map_cons, if_neg hkey]
      | false =>
        rw [List.filter_cons_of_neg (by simp [hp]), List.filter_cons_of_neg (by simp [hp]), hrest]

/-- A replacement among the other rows leaves those of the kind. -/
theorem filter_replaceRow_of_not (hnew : p new = false)
    (hother : ∀ row ∈ rows, key row = key new → p row = false) :
    (replaceRow key new rows).filter p = rows.filter p := by
  induction rows with
  | nil => rfl
  | cons row rows ih =>
    have hrest := ih fun r hr => hother r (List.mem_cons_of_mem row hr)
    rw [replaceRow, List.map_cons, ← replaceRow]
    by_cases hkey : key row = key new
    · have hrow := hother row List.mem_cons_self hkey
      rw [if_pos hkey, List.filter_cons_of_neg (by simp [hnew]), hrest,
        List.filter_cons_of_neg (by simp [hrow])]
    · rw [if_neg hkey, List.filter_cons, List.filter_cons, hrest]

end

/-- Rows with increasing ranks are the sorted order of their permutations. -/
theorem mergeSort_eq_of_perm (rank : α → ℕ) {l : List α} (h : l ~ rows)
    (hrank : rows.Pairwise fun a b => rank a < rank b) :
    l.mergeSort (fun a b => decide (rank a ≤ rank b)) = rows := by
  have htrans : ∀ a b c : α, decide (rank a ≤ rank b) = true → decide (rank b ≤ rank c) = true →
      decide (rank a ≤ rank c) = true :=
    fun a b c hab hbc => decide_eq_true ((of_decide_eq_true hab).trans (of_decide_eq_true hbc))
  have htotal : ∀ a b : α, (decide (rank a ≤ rank b) || decide (rank b ≤ rank a)) = true := by
    intro a b
    rw [Bool.or_eq_true, decide_eq_true_eq, decide_eq_true_eq]
    exact le_total (rank a) (rank b)
  have hsorted : (l.mergeSort fun a b => decide (rank a ≤ rank b)).Pairwise
      fun a b => rank a ≤ rank b :=
    (List.pairwise_mergeSort htrans htotal l).imp of_decide_eq_true
  have hperm : l.mergeSort (fun a b => decide (rank a ≤ rank b)) ~ rows :=
    (List.mergeSort_perm l _).trans h
  refine hperm.eq_of_pairwise (fun a b ha hb hab hba => ?_) hsorted (hrank.imp le_of_lt)
  -- two rows of one rank are the same
  have hnodup : (rows.map rank).Nodup := by
    rw [List.Nodup, List.pairwise_map]
    exact hrank.imp ne_of_lt
  exact List.inj_on_of_nodup_map hnodup (hperm.subset ha) hb (le_antisymm hab hba)

/-- Distinct entries among the members of a list are no more than its length, and
all of them only where nothing is repeated there. -/
theorem nodup_of_length_le [DecidableEq α] {l m : List α} (hl : l.Nodup) (hsub : l ⊆ m)
    (hlen : m.length ≤ l.length) : m.Nodup := by
  have hdedup : l.length ≤ m.dedup.length :=
    (List.subperm_of_subset hl fun a ha => List.mem_dedup.mpr (hsub ha)).length_le
  have heq : m.dedup = m := (List.dedup_sublist m).eq_of_length
    (le_antisymm (List.dedup_sublist m).length_le (hlen.trans hdedup))
  exact List.dedup_eq_self.mp heq

end KeyedRows
