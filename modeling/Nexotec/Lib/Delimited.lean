/-
Texts of parts that each end with a separator.

A text is split at a separator from left to right, without overlaps.  The part after
the last separator is empty where every part is terminated.

* `split`, `intercalate_split` — the parts, and that they make up the text again;
* `terminate`, `terminated` — the text of terminated parts, and its parts;
* `terminated_terminate` — parts that are free of the separator's first letter are read
  back;
* `terminate_inj` — two lists of parts of the same lengths with one text are the same.
-/
import Mathlib.Data.List.Basic

namespace Delimited

variable {α : Type*} [DecidableEq α]

/-- The parts of a text between occurrences of `sep`, once `skip` letters are left out. -/
def split (sep : List α) : ℕ → List α → List (List α)
  | _, [] => [[]]
  | skip + 1, _ :: rest => split sep skip rest
  | 0, a :: rest =>
    if sep.isPrefixOf (a :: rest) then [] :: split sep (sep.length - 1) rest
    else (split sep 0 rest).modifyHead (List.cons a)

variable {sep : List α} {x : α} {s p text : List α} {parts parts' : List (List α)}

theorem split_cons (sep : List α) (a : α) (rest : List α) : split sep 0 (a :: rest) =
      if sep.isPrefixOf (a :: rest) then [] :: split sep (sep.length - 1) rest
      else (split sep 0 rest).modifyHead (List.cons a) := rfl

theorem split_ne_nil (sep : List α) (skip : ℕ) (text : List α) : split sep skip text ≠ [] := by
  induction text generalizing skip with
  | nil => cases skip <;> exact List.cons_ne_nil _ _
  | cons a rest ih =>
    cases skip with
    | zero =>
      rw [split_cons]
      split
      · exact List.cons_ne_nil _ _
      · intro h
        rw [List.modifyHead_eq_nil_iff] at h
        exact ih 0 h
    | succ skip => exact ih skip

omit [DecidableEq α] in
theorem intercalate_modifyHead (a : α) (h : parts ≠ []) :
    sep.intercalate (parts.modifyHead (List.cons a)) = a :: sep.intercalate parts := by
  cases parts with
  | nil => exact absurd rfl h
  | cons p ps =>
    cases ps with
    | nil => simp [List.modifyHead, List.intercalate]
    | cons q qs => simp [List.modifyHead, List.intercalate]

omit [DecidableEq α] in
theorem intercalate_cons (h : parts ≠ []) :
    sep.intercalate (p :: parts) = p ++ sep ++ sep.intercalate parts := by
  cases parts with
  | nil => exact absurd rfl h
  | cons q qs => simp [List.intercalate]

/-- **The parts make up the text**, without the letters that are left out. -/
theorem intercalate_split (hsep : sep ≠ []) (skip : ℕ) (text : List α) :
    sep.intercalate (split sep skip text) = text.drop skip := by
  induction text generalizing skip with
  | nil => cases skip <;> simp [split, List.intercalate]
  | cons a rest ih =>
    cases skip with
    | zero =>
      rw [split_cons]
      split
      · next hprefix =>
        obtain ⟨tail, htail⟩ := List.isPrefixOf_iff_prefix.mp hprefix
        have hlength : sep.length ≠ 0 := fun h => hsep (List.length_eq_zero_iff.mp h)
        have hrest : rest.drop (sep.length - 1) = tail := by
          have hdrop : (a :: rest).drop sep.length = tail := by rw [← htail, List.drop_left]
          obtain ⟨n, hn⟩ := Nat.exists_eq_succ_of_ne_zero hlength
          rw [hn, List.drop_succ_cons] at hdrop
          rw [hn]
          exact hdrop
        rw [intercalate_cons (split_ne_nil _ _ _), ih, hrest, List.nil_append, htail]
        rfl
      · rw [intercalate_modifyHead a (split_ne_nil _ _ _), ih]
        rfl
    | succ skip => exact ih skip

theorem split_skip (sep : List α) (skipped rest : List α) :
    split sep skipped.length (skipped ++ rest) = split sep 0 rest := by
  induction skipped with
  | nil => rfl
  | cons a skipped ih => exact ih

theorem split_append (rest : List α) (hp : x ∉ p) :
    split (x :: s) 0 (p ++ (x :: s) ++ rest) = p :: split (x :: s) 0 rest := by
  induction p with
  | nil =>
    have hprefix : (x :: s).isPrefixOf (x :: (s ++ rest)) = true :=
      List.isPrefixOf_iff_prefix.mpr ⟨rest, rfl⟩
    change split (x :: s) 0 (x :: (s ++ rest)) = _
    rw [split_cons, if_pos hprefix]
    exact congrArg (List.cons []) (split_skip (x :: s) s rest)
  | cons a p ih =>
    obtain ⟨hne, hp⟩ : x ≠ a ∧ x ∉ p := by rwa [List.mem_cons, not_or] at hp
    have hprefix : ¬ (x :: s).isPrefixOf (a :: (p ++ (x :: s) ++ rest)) = true := by
      intro h
      obtain ⟨tail, htail⟩ := List.isPrefixOf_iff_prefix.mp h
      exact hne (List.cons.inj htail).1
    change split (x :: s) 0 (a :: (p ++ (x :: s) ++ rest)) = _
    rw [split_cons, if_neg hprefix, ih hp]
    rfl

/-- Each part with the separator behind it. -/
def terminate (sep : List α) (parts : List (List α)) : List α := (parts.map (· ++ sep)).flatten

/-- The parts of a text that ends with the separator. -/
def terminated (sep text : List α) : Option (List (List α)) :=
  if (split sep 0 text).getLast? = some [] then some (split sep 0 text).dropLast else none

omit [DecidableEq α] in
theorem terminate_cons (sep p : List α) (parts : List (List α)) :
    terminate sep (p :: parts) = p ++ sep ++ terminate sep parts := rfl

omit [DecidableEq α] in
theorem intercalate_concat_nil (parts : List (List α)) :
    sep.intercalate (parts ++ [[]]) = terminate sep parts := by
  induction parts with
  | nil => simp [List.intercalate, terminate]
  | cons p parts ih =>
    rw [List.cons_append, terminate_cons, ← ih]
    cases parts with
    | nil => simp [List.intercalate]
    | cons q qs => simp [List.intercalate]

omit [DecidableEq α] in
/-- A text joined at the separator, and one more at its end. -/
theorem intercalate_append_sep (h : parts ≠ []) :
    sep.intercalate parts ++ sep = terminate sep parts := by
  induction parts with
  | nil => exact absurd rfl h
  | cons p parts ih =>
    rcases eq_or_ne parts [] with rfl | hne
    · simp [List.intercalate, terminate]
    · rw [intercalate_cons hne, List.append_assoc, ih hne, terminate_cons]

theorem terminate_of_terminated (hsep : sep ≠ [])
    (h : terminated sep text = some parts) : terminate sep parts = text := by
  unfold terminated at h
  split at h
  · next hlast =>
    cases h
    have hparts : (split sep 0 text).dropLast ++ [[]] = split sep 0 text := by
      obtain ⟨init, hinit⟩ := List.getLast?_eq_some_iff.mp hlast
      rw [hinit, List.dropLast_concat]
    rw [← intercalate_concat_nil, hparts, intercalate_split hsep, List.drop_zero]
  · cases h

/-- **Parts that are free of the separator's first letter are read back.** -/
theorem terminated_terminate
    (h : ∀ p ∈ parts, x ∉ p) : terminated (x :: s) (terminate (x :: s) parts) = some parts := by
  have hsplit : split (x :: s) 0 (terminate (x :: s) parts) = parts ++ [[]] := by
    induction parts with
    | nil => rfl
    | cons p parts ih =>
      rw [terminate_cons, split_append _ (h p List.mem_cons_self),
        ih fun q hq => h q (List.mem_cons_of_mem p hq)]
      rfl
  unfold terminated
  rw [hsplit, if_pos List.getLast?_concat, List.dropLast_concat]

omit [DecidableEq α] in
theorem length_terminate (h : List.Forall₂ (fun p p' => p.length = p'.length) parts parts') :
    (terminate sep parts).length = (terminate sep parts').length := by
  induction h with
  | nil => rfl
  | cons hp _ ih =>
    rw [terminate_cons, terminate_cons, List.length_append, List.length_append, List.length_append,
      List.length_append, hp, ih]

omit [DecidableEq α] in
theorem mem_terminate {a : α} (h : a ∈ terminate sep parts) : a ∈ sep ∨ ∃ p ∈ parts, a ∈ p := by
  obtain ⟨q, hq, ha⟩ := List.mem_flatten.mp h
  obtain ⟨p, hp, rfl⟩ := List.mem_map.mp hq
  rcases List.mem_append.mp ha with ha | ha
  · exact .inr ⟨p, hp, ha⟩
  · exact .inl ha

omit [DecidableEq α] in
theorem mem_terminate_of_mem {a : α} (hp : p ∈ parts) (ha : a ∈ p) : a ∈ terminate sep parts :=
  List.mem_flatten.mpr ⟨p ++ sep, List.mem_map.mpr ⟨p, hp, rfl⟩, List.mem_append_left sep ha⟩

omit [DecidableEq α] in
/-- Parts of the same lengths that make up one text are the same. -/
theorem terminate_inj (hlength : List.Forall₂ (fun p p' => p.length = p'.length) parts parts')
    (h : terminate sep parts = terminate sep parts') : parts = parts' := by
  induction hlength with
  | nil => rfl
  | @cons p p' parts parts' hp _ ih =>
    rw [terminate_cons, terminate_cons] at h
    have hlengths : (p ++ sep).length = (p' ++ sep).length := by
      rw [List.length_append, List.length_append, hp]
    obtain ⟨hpart, hrest⟩ := List.append_inj h hlengths
    rw [(List.append_inj hpart hp).1, ih hrest]

end Delimited
