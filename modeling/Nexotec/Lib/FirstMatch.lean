/-
Texts judged by the first of several tests, after a rewriting letter by letter.

* `erase_congr` — texts that agree but for letters that the rewriting drops or maps alike are
  rewritten to one text;
* `trim_left`, `trim_right` — a trim of dropped letters is not seen;
* `settled` — a text of fixed letters is its own rewriting;
* `firstMatch_perm` — tests of which no two accept one text may be tried in any order.
-/
import Mathlib.Data.List.DropRight
import Mathlib.Data.List.Perm.Basic

namespace FirstMatch

section
variable {α β : Type*} {f : α → List β} {drops : α → Bool} {l l' : List α}

theorem flatMap_filter (hdrops : ∀ a, drops a = true → f a = []) :
    (l.filter fun a => !drops a).flatMap f = l.flatMap f := by
  induction l with
  | nil => rfl
  | cons a l ih =>
    rw [List.flatMap_cons, List.filter_cons, ← ih]
    by_cases ha : drops a = true
    · rw [if_neg (by simp [ha]), hdrops a ha, List.nil_append]
    · rw [if_pos (by simp [ha]), List.flatMap_cons]

/-- **A rewriting sees neither what it drops nor what it maps alike.** -/
theorem erase_congr {g : α → α} (hdrops : ∀ a, drops a = true → f a = []) (hg : ∀ a, f (g a) = f a)
    (h : (l.filter fun a => !drops a).map g = (l'.filter fun a => !drops a).map g) :
    l.flatMap f = l'.flatMap f := by
  have through : ∀ t : List α, (t.map g).flatMap f = t.flatMap f := fun t => by
    rw [List.flatMap_map]
    exact congrArg (fun k => t.flatMap k) (funext hg)
  calc l.flatMap f
      = ((l.filter fun a => !drops a).map g).flatMap f := by rw [through, flatMap_filter hdrops]
    _ = ((l'.filter fun a => !drops a).map g).flatMap f := by rw [h]
    _ = l'.flatMap f := by rw [through, flatMap_filter hdrops]

theorem trim_left (hdrops : ∀ a, drops a = true → f a = []) :
    (l.dropWhile drops).flatMap f = l.flatMap f := by
  have hcut : (l.takeWhile drops).flatMap f = [] :=
    List.flatMap_eq_nil_iff.mpr fun a ha => hdrops a (List.mem_takeWhile_imp ha)
  rw [← List.takeWhile_append_dropWhile (p := drops) (l := l), List.flatMap_append, hcut]
  simp

theorem trim_right (hdrops : ∀ a, drops a = true → f a = []) :
    (l.rdropWhile drops).flatMap f = l.flatMap f := by
  have hcut : (l.rtakeWhile drops).flatMap f = [] :=
    List.flatMap_eq_nil_iff.mpr fun a ha => hdrops a (List.mem_rtakeWhile_imp ha)
  have hsplit : l.rdropWhile drops ++ l.rtakeWhile drops = l := List.rdropWhile_append_rtakeWhile
  calc (l.rdropWhile drops).flatMap f
      = (l.rdropWhile drops ++ l.rtakeWhile drops).flatMap f := by
        rw [List.flatMap_append, hcut, List.append_nil]
    _ = l.flatMap f := by rw [hsplit]

end

theorem settled {α : Type*} {f : α → List α} {l : List α} (h : ∀ a ∈ l, f a = [a]) :
    l.flatMap f = l := by
  induction l with
  | nil => rfl
  | cons a l ih =>
    rw [List.flatMap_cons, h a List.mem_cons_self,
      ih fun b hb => h b (List.mem_cons_of_mem a hb), List.singleton_append]

variable {α β : Type*} {tests tests' : List (α → Option β)} {a : α}

/-- The answer of the first test that has one. -/
def firstMatch (tests : List (α → Option β)) (a : α) : Option β :=
  tests.findSome? fun test => test a

/-- No two of the tests accept `a`. -/
def Apart (a : α) (tests : List (α → Option β)) : Prop :=
  tests.Pairwise fun p q => p a = none ∨ q a = none

/-- **Tests of which no two accept a text may be tried in any order.** -/
theorem firstMatch_perm (hperm : tests.Perm tests') (happart : Apart a tests) :
    firstMatch tests a = firstMatch tests' a := by
  have symm : ∀ {p q : α → Option β}, p a = none ∨ q a = none → q a = none ∨ p a = none :=
    fun h => h.symm
  unfold firstMatch
  induction hperm with
  | nil => rfl
  | cons test _ ih =>
    rw [List.findSome?_cons, List.findSome?_cons, ih (List.Pairwise.of_cons happart)]
  | swap p q rest =>
    have hpq := (List.pairwise_cons.mp happart).1 p List.mem_cons_self
    rw [List.findSome?_cons, List.findSome?_cons, List.findSome?_cons, List.findSome?_cons]
    rcases hpq with hq | hp
    · rw [hq]
    · rw [hp]
  | trans hleft _ ihleft ihright =>
    exact (ihleft happart).trans (ihright ((hleft.pairwise_iff symm).mp happart))

end FirstMatch
