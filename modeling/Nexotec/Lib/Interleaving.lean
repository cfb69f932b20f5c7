/-
Interleaved sessions over shared state.

Any number of sessions share one state `Sh`; each has a local state `Lo` (its
program counter and what it has read).  `step i ch sh lo` is what session `i`
does next when the environment resolves its choices by `ch`; `none` means the
session cannot move (it waits for a lock, or the choice is not one it has).
`move` takes one session's step and leaves the other sessions' local states
alone, so a run of `move` is an arbitrary interleaving.

`noninterference` is the rule of Owicki and Gries in the form the lock-based
proofs need: a property `G` of the shared state together with one assertion
`L i` for each session is invariant, if every step re-establishes `G` and its
own session's assertion and does not falsify any other session's;
`noninterference_config` is the same rule for moves restricted by what every session is at.
-/
import Mathlib.Logic.Function.Basic
import Nexotec.Lib.Run

namespace Interleaving

variable {ι Sh Lo Ch : Type*}

/-- The shared state and the local state of every session. -/
structure Config (ι Sh Lo : Type*) where
  shared : Sh
  locals : ι → Lo

/-- The assertion `G` about the shared state with one assertion per session. -/
def Holds (G : Sh → Prop) (L : ι → Sh → Lo → Prop) (c : Config ι Sh Lo) : Prop :=
  G c.shared ∧ ∀ i, L i c.shared (c.locals i)

variable [DecidableEq ι]

/-- One session moves; a session that cannot move leaves everything as it is. -/
def move (step : ι → Ch → Sh → Lo → Option (Sh × Lo)) (c : Config ι Sh Lo)
    (a : ι × Ch) : Config ι Sh Lo :=
  match step a.1 a.2 c.shared (c.locals a.1) with
  | none => c
  | some (sh, lo) => ⟨sh, Function.update c.locals a.1 lo⟩

variable {step : ι → Ch → Sh → Lo → Option (Sh × Lo)} {c : Config ι Sh Lo} {a : ι × Ch}
  {G : Sh → Prop} {L : ι → Sh → Lo → Prop}

theorem move_none (h : step a.1 a.2 c.shared (c.locals a.1) = none) : move step c a = c := by
  simp [move, h]

theorem move_some {sh : Sh} {lo : Lo} (h : step a.1 a.2 c.shared (c.locals a.1) = some (sh, lo)) :
    move step c a = ⟨sh, Function.update c.locals a.1 lo⟩ := by
  simp [move, h]

theorem move_shared {P : Sh → Prop} (hP : P c.shared)
    (hstep : ∀ sh lo, step a.1 a.2 c.shared (c.locals a.1) = some (sh, lo) → P sh) :
    P (move step c a).shared := by
  cases h : step a.1 a.2 c.shared (c.locals a.1) with
  | none => rw [move_none h]; exact hP
  | some p => rw [move_some h]; exact hstep p.1 p.2 h

/-- **Non-interference.**  `ok` restricts the moves; it may look at every session. -/
theorem noninterference_config (ok : Config ι Sh Lo → ι × Ch → Prop)
    (own : ∀ sh' lo', G c.shared → L a.1 c.shared (c.locals a.1) → ok c a →
      step a.1 a.2 c.shared (c.locals a.1) = some (sh', lo') → G sh' ∧ L a.1 sh' lo')
    (others : ∀ j sh' lo', a.1 ≠ j → G c.shared → L a.1 c.shared (c.locals a.1) →
      L j c.shared (c.locals j) → ok c a →
      step a.1 a.2 c.shared (c.locals a.1) = some (sh', lo') → L j sh' (c.locals j))
    (hc : Holds G L c) (ha : ok c a) : Holds G L (move step c a) := by
  cases h : step a.1 a.2 c.shared (c.locals a.1) with
  | none => rw [move_none h]; exact hc
  | some p =>
    rw [move_some h]
    obtain ⟨hG, hL⟩ := own _ _ hc.1 (hc.2 a.1) ha h
    refine ⟨hG, fun j => ?_⟩
    by_cases hj : j = a.1
    · -- the session that moved
      subst hj
      simpa using hL
    · simp only [Function.update_of_ne hj]
      exact others j _ _ (Ne.symm hj) hc.1 (hc.2 a.1) (hc.2 j) ha h

/-- Non-interference where the restriction looks at the moving session only. -/
theorem noninterference (ok : ι → Ch → Sh → Lo → Prop)
    (own : ∀ i ch sh lo sh' lo', G sh → L i sh lo → ok i ch sh lo →
      step i ch sh lo = some (sh', lo') → G sh' ∧ L i sh' lo')
    (others : ∀ i j ch sh lo lo' sh' lo'', i ≠ j → G sh → L i sh lo → L j sh lo' →
      ok i ch sh lo → step i ch sh lo = some (sh', lo'') → L j sh' lo') (hc : Holds G L c)
    (ha : ok a.1 a.2 c.shared (c.locals a.1)) : Holds G L (move step c a) := by
  refine noninterference_config (fun c a => ok a.1 a.2 c.shared (c.locals a.1))
    (fun sh' lo' hG hL hok h => own _ _ _ _ _ _ hG hL hok h)
    (fun j sh' lo' hij hG hLi hLj hok h => others _ j _ _ _ _ _ _ hij hG hLi hLj hok h) hc ha

theorem noninterference_all (own : ∀ i ch sh lo sh' lo', G sh → L i sh lo →
      step i ch sh lo = some (sh', lo') → G sh' ∧ L i sh' lo')
    (others : ∀ i j ch sh lo lo' sh' lo'', i ≠ j → G sh → L i sh lo → L j sh lo' →
      step i ch sh lo = some (sh', lo'') → L j sh' lo') (hc : Holds G L c) (a : ι × Ch) :
    Holds G L (move step c a) := by
  exact noninterference (fun _ _ _ _ => True)
    (fun i ch sh lo sh' lo' hG hL _ => own i ch sh lo sh' lo' hG hL)
    (fun i j ch sh lo lo' sh' lo'' hij hG hLi hLj _ =>
      others i j ch sh lo lo' sh' lo'' hij hG hLi hLj) hc trivial

/-- What session `i` does on its own with one choice. -/
def alone (step : ι → Ch → Sh → Lo → Option (Sh × Lo)) (i : ι) (s : Sh × Lo) (ch : Ch) : Sh × Lo :=
  (step i ch s.1 s.2).getD s

theorem foldl_move_alone (i : ι) (chs : List Ch) (c : Config ι Sh Lo) :
    (chs.map fun ch => (i, ch)).foldl (move step) c =
      let s := chs.foldl (alone step i) (c.shared, c.locals i)
      ⟨s.1, Function.update c.locals i s.2⟩ := by
  induction chs generalizing c with
  | nil => simp
  | cons ch chs ih =>
    simp only [List.map_cons, List.foldl_cons]
    rw [ih]
    cases h : step i ch c.shared (c.locals i) with
    | none => rw [move_none h, alone, h, Option.getD_none]
    | some p =>
      rw [move_some h, alone, h, Option.getD_some]
      simp only [Function.update_self, Function.update_idem]

end Interleaving
