/-
Runs of a system of requests.

A system is a total function `next : σ → α → σ`: what one action does to the
state.  An action that is refused, blocked or not enabled leaves the state as
it is, so a run is a plain left fold over a list of actions and every list is
a run.  The file gives

* `Along next ok s as` — every action of the run `as` from `s` meets the
  condition `ok` in the state in which it is taken;
* `invariant_along` — the invariant rule for the runs that meet a condition,
  and `invariant`, the rule for all runs;
* `congr_of_invariant` — two conditions that agree under an invariant;
* `always_iff` — when a predicate holds in every state of a run;
* `all_done` — what each action of a run does and none undoes is done at the
  end;
* `exists_first` — the step at which a predicate first becomes true.
-/
import Mathlib.Data.List.Induction

namespace Run

variable {σ α : Type*} (next : σ → α → σ)

/-- Every action of the run meets `ok` where it is taken. -/
def Along (ok : σ → α → Prop) : σ → List α → Prop
  | _, [] => True
  | s, a :: as => ok s a ∧ Along ok (next s a) as

instance Along.decidable (ok : σ → α → Prop) [∀ s a, Decidable (ok s a)] :
    ∀ (s : σ) (as : List α), Decidable (Along next ok s as)
  | _, [] => inferInstanceAs (Decidable True)
  | s, a :: as =>
    haveI := Along.decidable ok (next s a) as
    inferInstanceAs (Decidable (ok s a ∧ Along next ok (next s a) as))

variable {next} {ok ok' : σ → α → Prop} {Inv P : σ → Prop} {s : σ} {as : List α}

theorem Along.append : ∀ {s : σ} {as bs : List α},
    Along next ok s (as ++ bs) ↔
      Along next ok s as ∧ Along next ok (as.foldl next s) bs
  | s, [], bs => by simp [Along]
  | s, a :: as, bs => by
    simp only [List.cons_append, Along, List.foldl_cons, and_assoc, Along.append]

theorem Along.mono (h : ∀ s a, ok s a → ok' s a)
    (has : Along next ok s as) : Along next ok' s as := by
  induction as generalizing s with
  | nil => trivial
  | cons a as ih => exact ⟨h s a has.1, ih has.2⟩

/-- A run that meets one condition meets another that it implies under an invariant both keep. -/
theorem Along.imp_of_invariant (hstep : ∀ s a, Inv s → ok s a → ok' s a → Inv (next s a))
    (h : ∀ s a, Inv s → ok s a → ok' s a) (hs : Inv s) (has : Along next ok s as) :
    Along next ok' s as := by
  induction as generalizing s with
  | nil => trivial
  | cons a as ih =>
    have hok' := h s a hs has.1
    exact ⟨hok', ih (hstep s a hs has.1 hok') has.2⟩

/-- Under an invariant that one of two conditions keeps, runs meet both or neither. -/
theorem Along.congr_of_invariant
    (hstep : ∀ s a, Inv s → ok' s a → Inv (next s a)) (h : ∀ s a, Inv s → (ok s a ↔ ok' s a))
    (hs : Inv s) : Along next ok s as ↔ Along next ok' s as := by
  constructor
  · exact Along.imp_of_invariant (fun s a hs _ hok' => hstep s a hs hok') (fun s a hs => (h s a hs).mp) hs
  · exact Along.imp_of_invariant (fun s a hs hok' _ => hstep s a hs hok') (fun s a hs => (h s a hs).mpr) hs

theorem Along.of_forall (h : ∀ s a, ok s a) (s : σ) (as : List α) : Along next ok s as := by
  induction as generalizing s with
  | nil => trivial
  | cons a as ih => exact ⟨h s a, ih (next s a)⟩

/-- The invariant rule: what every step that meets `ok` preserves holds at
the end of every run that meets `ok`. -/
theorem invariant_along (hstep : ∀ s a, Inv s → ok s a → Inv (next s a))
    (hs : Inv s) (has : Along next ok s as) : Inv (as.foldl next s) := by
  induction as generalizing s with
  | nil => exact hs
  | cons a as ih => exact ih (hstep s a hs has.1) has.2

/-- The invariant rule for all runs. -/
theorem invariant (hstep : ∀ s a, Inv s → Inv (next s a)) (hs : Inv s) (as : List α) :
    Inv (as.foldl next s) := by
  induction as generalizing s with
  | nil => exact hs
  | cons a as ih => exact ih (hstep s a hs)

/-- A predicate holds in every state of a run just when each step of it is one that
keeps the predicate. -/
theorem always_iff (hstep : ∀ s a, P s → (P (next s a) ↔ ok s a)) (hs : P s) :
    (∀ n, P ((as.take n).foldl next s)) ↔ Along next ok s as := by
  induction as generalizing s with
  | nil => exact ⟨fun _ => trivial, fun _ n => by rw [List.take_nil]; exact hs⟩
  | cons a as ih =>
    constructor
    · intro h
      have hnext : P (next s a) := h 1
      exact ⟨(hstep s a hs).mp hnext, (ih hnext).mp fun n => h (n + 1)⟩
    · rintro ⟨hok, has⟩ n
      have hnext := (hstep s a hs).mpr hok
      cases n with
      | zero => exact hs
      | succ n => exact (ih hnext).mpr has n

/-- What each action of a run does, and no later one undoes, is done at the end. -/
theorem all_done {Q : α → σ → Prop} (hinv : ∀ s a, Inv s → Inv (next s a))
    (hstable : ∀ s a b, Inv s → Q b s → Q b (next s a)) (hs : Inv s)
    (hdone : ∀ s a, a ∈ as → Inv s → Q a (next s a)) : ∀ a ∈ as, Q a (as.foldl next s) := by
  induction as generalizing s with
  | nil => exact fun a ha => by cases ha
  | cons b as ih =>
    have hrest : ∀ s a, a ∈ as → Inv s → Q a (next s a) :=
      fun s a ha => hdone s a (List.mem_cons_of_mem b ha)
    intro a ha
    rcases List.mem_cons.mp ha with rfl | ha
    · -- done by the first action, and kept by the others
      have hboth : ∀ s b, (Inv s ∧ Q a s) → Inv (next s b) ∧ Q a (next s b) :=
        fun s b h => ⟨hinv s b h.1, hstable s b a h.1 h.2⟩
      exact (invariant hboth ⟨hinv s a hs, hdone s a List.mem_cons_self hs⟩ as).2
    · exact ih (hinv s b hs) hrest a ha

/-- A predicate that is false at the start and true at the end of a run
became true at some action, and the run splits there. -/
theorem exists_first (hs : ¬ P s) : ∀ {as : List α}, P (as.foldl next s) →
      ∃ pre a post, as = pre ++ a :: post ∧ ¬ P (pre.foldl next s) ∧
        P (next (pre.foldl next s) a) := by
  intro as
  induction as using List.reverseRecOn with
  | nil => exact fun h => absurd h hs
  | append_singleton as a ih =>
    intro h
    rw [List.foldl_append] at h
    by_cases hP : P (as.foldl next s)
    · -- true before the last action: the induction hypothesis splits the shorter run
      obtain ⟨pre, b, post, rfl, h1, h2⟩ := ih hP
      exact ⟨pre, b, post ++ [a], by simp, h1, h2⟩
    · exact ⟨as, a, [], by simp, hP, h⟩

end Run
