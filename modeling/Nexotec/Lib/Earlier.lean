/-
Which element of a list comes before which.

A scan that compares every new element with those before meets each pair in one order only.

* `before_concat` — one more element at the end;
* `before_or_before` — two elements of a list stand in one order or the other;
* `exists_order` — and some order of the list has them the way round that is asked for.
-/
import Mathlib.Data.List.Basic
import Mathlib.Data.List.Perm.Basic

namespace Earlier

variable {α : Type*} {l : List α} {x y z : α}

/-- `x` stands before `y`. -/
def Before (l : List α) (x y : α) : Prop := [x, y].Sublist l

theorem Before.left (h : Before l x y) : x ∈ l := h.subset List.mem_cons_self

theorem Before.right (h : Before l x y) : y ∈ l :=
  h.subset (List.mem_cons_of_mem x List.mem_cons_self)

/-- **One more element** comes after all of them. -/
theorem before_concat : Before (l ++ [z]) x y ↔ Before l x y ∨ (x ∈ l ∧ y = z) := by
  unfold Before
  have hback : [x, y].Sublist l ↔ [y, x].Sublist l.reverse := List.reverse_sublist.symm
  rw [hback, ← List.reverse_sublist, List.reverse_append, List.reverse_singleton,
    List.singleton_append]
  refine List.sublist_cons_iff.trans (or_congr Iff.rfl ?_)
  constructor
  · rintro ⟨rest, heq, hrest⟩
    obtain ⟨rfl, rfl⟩ := List.cons.inj heq
    exact ⟨List.mem_reverse.mp (List.singleton_sublist.mp hrest), rfl⟩
  · rintro ⟨hx, rfl⟩
    exact ⟨[x], rfl, List.singleton_sublist.mpr (List.mem_reverse.mpr hx)⟩

theorem before_or_before (hx : x ∈ l) (hy : y ∈ l) (hne : x ≠ y) : Before l x y ∨ Before l y x := by
  obtain ⟨s, t, rfl⟩ := List.append_of_mem hx
  rcases List.mem_append.mp hy with hleft | hright
  · right
    exact (List.singleton_sublist.mpr hleft).append (List.singleton_sublist.mpr List.mem_cons_self)
  · left
    have hy' : y ∈ t := (List.mem_cons.mp hright).resolve_left hne.symm
    exact ((List.singleton_sublist.mpr hy').cons_cons x).trans (List.sublist_append_right s _)

/-- **Some order** has the two the way round that is asked for. -/
theorem exists_order (hx : x ∈ l) (hy : y ∈ l) (hne : x ≠ y) : ∃ order, order.Perm l ∧ Before order x y := by
  obtain ⟨s, t, rfl⟩ := List.append_of_mem hx
  have hperm : (x :: (s ++ t)).Perm (s ++ x :: t) := List.perm_middle.symm
  have hy' : y ∈ s ++ t := (List.mem_cons.mp (hperm.mem_iff.mpr hy)).resolve_left hne.symm
  exact ⟨x :: (s ++ t), hperm, (List.singleton_sublist.mpr hy').cons_cons x⟩

end Earlier
