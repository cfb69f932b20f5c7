/-
Patterns of counted classes: each piece of a text is so many letters of one class.

One class is left open.  What it stands for is given with the pattern, so that a grammar can be
compared under two readings of it.
-/
import Mathlib.Data.List.Basic

namespace Pieces

variable {α : Type*}

/-- A class of letters, or the open one. -/
inductive Cls (α : Type*) where
  | hole
  | of (holds : α → Bool)

/-- The class, once the open one is given. -/
def Cls.holds (hole : α → Bool) : Cls α → α → Bool
  | .hole => hole
  | .of f => f

/-- From `low` to `high` letters of one class. -/
structure Piece (α : Type*) where
  cls : Cls α
  low : ℕ
  high : ℕ

/-- The text is cut into one run for each piece. -/
inductive Matches (hole : α → Bool) : List (Piece α) → List α → Prop
  | nil : Matches hole [] []
  | cons {p : Piece α} {ps : List (Piece α)} {run rest : List α} (hlow : p.low ≤ run.length)
    (hhigh : run.length ≤ p.high) (hrun : ∀ c ∈ run, p.cls.holds hole c = true)
    (hrest : Matches hole ps rest) : Matches hole (p :: ps) (run ++ rest)

/-- The cuts, tried in turn. -/
def fullmatch (hole : α → Bool) : List (Piece α) → List α → Bool
  | [], t => t.isEmpty
  | p :: ps, t => (List.range (p.high + 1)).any fun n =>
    decide (p.low ≤ n ∧ n ≤ t.length) && (t.take n).all (p.cls.holds hole) &&
      fullmatch hole ps (t.drop n)

variable {hole hole' : α → Bool} {ps : List (Piece α)} {t : List α}

/-- Some cut the search tries is a match, and every match is one it tries. -/
theorem fullmatch_iff : fullmatch hole ps t = true ↔ Matches hole ps t := by
  induction ps generalizing t with
  | nil =>
    rw [fullmatch, List.isEmpty_iff]
    constructor
    · rintro rfl
      exact .nil
    · rintro ⟨⟩
      rfl
  | cons p ps ih =>
    simp only [fullmatch, List.any_eq_true, List.mem_range, Bool.and_eq_true, decide_eq_true_eq,
      List.all_eq_true, ih]
    constructor
    · rintro ⟨n, hn, ⟨⟨hlow, hle⟩, hrun⟩, hrest⟩
      rw [← List.take_append_drop n t]
      have hlength : (t.take n).length = n := List.length_take_of_le hle
      exact .cons (by omega) (by omega) hrun hrest
    · -- the length of the run is one of those tried
      intro h
      cases h with
      | cons hlow hhigh hrun hrest =>
        rename_i run rest
        refine ⟨run.length, by omega, ⟨⟨hlow, by simp⟩, ?_⟩, ?_⟩
        · simpa using hrun
        · simpa using hrest

/-- A pattern sees of the open class only the letters of the text. -/
theorem Matches.mono (h : Matches hole ps t)
    (hmono : ∀ c ∈ t, hole c = true → hole' c = true) : Matches hole' ps t := by
  induction h with
  | nil => exact .nil
  | @cons p ps run rest hlow hhigh hrun hrest ih =>
    refine .cons hlow hhigh ?_ (ih fun c hc => hmono c (List.mem_append_right run hc))
    intro c hc
    have hholds := hrun c hc
    -- only a run of the open class is read anew
    cases hcls : p.cls with
    | hole =>
      rw [hcls] at hholds
      exact hmono c (List.mem_append_left rest hc) hholds
    | of f =>
      rw [hcls] at hholds
      exact hholds

/-- Each letter is in the class of some piece. -/
theorem Matches.mem (h : Matches hole ps t) : ∀ c ∈ t, ∃ p ∈ ps, p.cls.holds hole c = true := by
  induction h with
  | nil =>
    intro c hc
    cases hc
  | cons hlow hhigh hrun hrest ih =>
    intro c hc
    rcases List.mem_append.mp hc with hc | hc
    · exact ⟨_, List.mem_cons_self, hrun c hc⟩
    · obtain ⟨p, hp, hholds⟩ := ih c hc
      exact ⟨p, List.mem_cons_of_mem _ hp, hholds⟩

end Pieces
