/-
Decimal grids and rounding.

The numbers with `d` decimals are the multiples of `1 / 10 ^ d`; more generally
`OnGrid n` are the multiples of `1 / n`.  They are closed under sums,
differences and integer multiples, and rounding to the grid leaves them alone:

* `OnGrid.add`, `.sub`, `.neg`, `.mul_intCast`, `.sum` — the closure rules;
* `roundHalfAway` — the nearest integer, a tie going away from zero;
* `quantize n` — rounding to the grid, with `onGrid_quantize` and
  `quantize_of_onGrid`.
-/
import Mathlib.Algebra.Order.Round
import Mathlib.Algebra.BigOperators.Group.List.Basic
import Mathlib.Tactic.Linarith
import Mathlib.Tactic.FieldSimp
import Mathlib.Tactic.Ring

namespace Rounding

variable {K : Type*} [Field K]

/-! ### Grids -/

/-- A multiple of `1 / n`. -/
def OnGrid (n : ℕ) (x : K) : Prop := ∃ z : ℤ, x * n = z

section

variable {n : ℕ} {x y : K}

theorem onGrid_zero : OnGrid n (0 : K) := ⟨0, by simp⟩

theorem OnGrid.add (hx : OnGrid n x) (hy : OnGrid n y) : OnGrid n (x + y) := by
  obtain ⟨a, ha⟩ := hx
  obtain ⟨b, hb⟩ := hy
  exact ⟨a + b, by push_cast; rw [add_mul, ha, hb]⟩

theorem OnGrid.neg (hx : OnGrid n x) : OnGrid n (-x) := by
  obtain ⟨a, ha⟩ := hx
  exact ⟨-a, by push_cast; rw [neg_mul, ha]⟩

theorem OnGrid.sub (hx : OnGrid n x) (hy : OnGrid n y) : OnGrid n (x - y) := by
  rw [sub_eq_add_neg]
  exact hx.add hy.neg

theorem OnGrid.mul_intCast (hx : OnGrid n x) (k : ℤ) : OnGrid n (x * k) := by
  obtain ⟨a, ha⟩ := hx
  refine ⟨a * k, ?_⟩
  calc x * k * n = x * n * k := by ring
    _ = a * k := by rw [ha]
    _ = ((a * k : ℤ) : K) := by push_cast; rfl

theorem onGrid_sum {l : List K} (h : ∀ x ∈ l, OnGrid n x) : OnGrid n l.sum := by
  induction l with
  | nil => exact onGrid_zero
  | cons x l ih =>
    rw [List.sum_cons]
    exact (h x List.mem_cons_self).add (ih fun y hy => h y (List.mem_cons_of_mem x hy))

theorem onGrid_intCast_div [CharZero K] (hn : n ≠ 0) (z : ℤ) : OnGrid n ((z : K) / n) :=
  ⟨z, div_mul_cancel₀ _ (Nat.cast_ne_zero.mpr hn)⟩

end

variable [LinearOrder K] [IsStrictOrderedRing K] [FloorRing K]

theorem onGrid_iff_floor {n : ℕ} {x : K} : OnGrid n x ↔ (⌊x * n⌋ : K) = x * n := by
  constructor
  · rintro ⟨z, hz⟩
    rw [hz, Int.floor_intCast]
  · exact fun h => ⟨⌊x * n⌋, h.symm⟩

instance [DecidableEq K] (n : ℕ) (x : K) : Decidable (OnGrid n x) :=
  decidable_of_iff _ onGrid_iff_floor.symm

/-! ### Rounding -/

/-- The nearest integer, a tie going away from zero. -/
def roundHalfAway (x : K) : ℤ := if 0 ≤ x then ⌊x + 1 / 2⌋ else -⌊-x + 1 / 2⌋

/-- `x` rounded to a multiple of `1 / n`. -/
def quantize (n : ℕ) (x : K) : K := roundHalfAway (x * n) / n

section

variable {n : ℕ} {x y : K}

theorem roundHalfAway_intCast (z : ℤ) : roundHalfAway (z : K) = z := by
  have hhalf : ∀ w : ℤ, ⌊(w : K) + 1 / 2⌋ = w := by
    intro w
    rw [Int.floor_eq_iff]
    constructor
    · linarith [one_half_pos (α := K)]
    · linarith [one_half_lt_one (α := K)]
  unfold roundHalfAway
  split
  · exact hhalf z
  · have hneg := hhalf (-z)
    push_cast at hneg
    rw [hneg, neg_neg]

theorem roundHalfAway_nonneg (hx : 0 ≤ x) : 0 ≤ roundHalfAway x := by
  rw [roundHalfAway, if_pos hx]
  exact Int.floor_nonneg.mpr (by positivity)

theorem roundHalfAway_nonpos (hx : x ≤ 0) : roundHalfAway x ≤ 0 := by
  rcases hx.lt_or_eq with hlt | rfl
  · rw [roundHalfAway, if_neg (not_le.mpr hlt)]
    have hnonneg : 0 ≤ ⌊-x + 1 / 2⌋ := Int.floor_nonneg.mpr (by linarith [one_half_pos (α := K)])
    omega
  · have hzero := roundHalfAway_intCast (K := K) 0
    rw [Int.cast_zero] at hzero
    exact hzero.le

theorem abs_sub_roundHalfAway_le (x : K) : |x - roundHalfAway x| ≤ 1 / 2 := by
  unfold roundHalfAway
  split
  · have hle := Int.floor_le (x + 1 / 2)
    have hlt := Int.lt_floor_add_one (x + 1 / 2)
    rw [abs_le]
    constructor <;> linarith
  · have hle := Int.floor_le (-x + 1 / 2)
    have hlt := Int.lt_floor_add_one (-x + 1 / 2)
    push_cast
    rw [abs_le]
    constructor <;> linarith

theorem roundHalfAway_eq_of_abs_lt {z : ℤ} (h : |x - z| < 1 / 2) : roundHalfAway x = z := by
  have hround := abs_sub_roundHalfAway_le x
  have hclose : |((roundHalfAway x - z : ℤ) : K)| < 1 := by
    push_cast
    calc |(roundHalfAway x : K) - z| = |(x - z) - (x - roundHalfAway x)| := by
          congr 1
          ring
      _ ≤ |x - z| + |x - roundHalfAway x| := abs_sub _ _
      _ < 1 := by linarith
  have hzero : |roundHalfAway x - z| < 1 := by exact_mod_cast hclose
  exact sub_eq_zero.mp (Int.abs_lt_one_iff.mp hzero)

theorem roundHalfAway_eq_of_close {a d : ℤ} (hd : 0 < d)
    (htie : ∀ z : ℤ, (a : K) / d = z + 1 / 2 → y = a / d)
    (hclose : |y - a / d| < 1 / (2 * d)) : roundHalfAway y = roundHalfAway ((a : K) / d) := by
  have hdpos : (0 : K) < d := Int.cast_pos.mpr hd
  by_cases hz : ∃ z : ℤ, (a : K) / d = z + 1 / 2
  · obtain ⟨z, hz⟩ := hz
    rw [htie z hz]
  · set m := roundHalfAway ((a : K) / d) with hm
    have hround : |(a : K) / d - m| ≤ 1 / 2 := abs_sub_roundHalfAway_le _
    have hne : |(a : K) / d - m| ≠ 1 / 2 := by
      intro heq
      rcases (abs_eq (by positivity)).mp heq with hup | hdown
      · exact hz ⟨m, by linarith⟩
      · exact hz ⟨m - 1, by push_cast; linarith⟩
    -- the distance to `m` is a multiple of `1 / d`
    have hscale : |(a : K) / d - m| * (2 * d) = ((2 * |a - m * d| : ℤ) : K) := by
      have habs : |(a : K) / d - m| * d = |(a : K) - m * d| := by
        rw [← abs_of_pos hdpos, ← abs_mul, abs_of_pos hdpos, sub_mul, div_mul_cancel₀ _ hdpos.ne']
      push_cast
      rw [← habs]
      ring
    have hint : 2 * |a - m * d| < d := by
      have hlt : |(a : K) / d - m| * (2 * d) < d := by
        have hstrict := lt_of_le_of_ne hround hne
        calc |(a : K) / d - m| * (2 * d) < 1 / 2 * (2 * d) := by gcongr
          _ = d := by ring
      rw [hscale] at hlt
      exact_mod_cast hlt
    have hgap : |(a : K) / d - m| ≤ 1 / 2 - 1 / (2 * d) := by
      have hle : ((2 * |a - m * d| : ℤ) : K) ≤ ((d - 1 : ℤ) : K) := Int.cast_le.mpr (by omega)
      rw [← hscale, Int.cast_sub, Int.cast_one] at hle
      have htwo : (0 : K) < 2 * d := by positivity
      calc |(a : K) / d - m| ≤ (d - 1) / (2 * d) := (le_div_iff₀ htwo).mpr hle
        _ = 1 / 2 - 1 / (2 * d) := by field_simp
    refine roundHalfAway_eq_of_abs_lt ?_
    calc |y - m| = |(y - a / d) + (a / d - m)| := by rw [sub_add_sub_cancel]
      _ ≤ |y - a / d| + |(a : K) / d - m| := abs_add_le _ _
      _ < 1 / 2 := by linarith

theorem roundHalfAway_nonneg_iff : 0 ≤ roundHalfAway x ↔ -(1 / 2) < x := by
  constructor
  · intro h
    by_contra hx
    have hneg : ¬ 0 ≤ x := by linarith [one_half_pos (α := K)]
    rw [roundHalfAway, if_neg hneg, neg_nonneg, Int.floor_le_iff] at h
    push_cast at h
    linarith
  · intro h
    rcases le_or_gt 0 x with hx | hx
    · exact roundHalfAway_nonneg hx
    · rw [roundHalfAway, if_neg (not_le.mpr hx), neg_nonneg, Int.floor_le_iff]
      push_cast
      linarith

theorem roundHalfAway_le_iff {z : ℤ} (hx : 0 ≤ x) : roundHalfAway x ≤ z ↔ x < z + 1 / 2 := by
  rw [roundHalfAway, if_pos hx, Int.floor_le_iff]
  constructor <;> intro h <;> linarith

omit [IsStrictOrderedRing K] in
theorem onGrid_quantize (hn : n ≠ 0) (x : K) : OnGrid n (quantize n x) :=
  onGrid_intCast_div hn _

/-- Rounding leaves the points of the grid alone. -/
theorem quantize_of_onGrid (hn : n ≠ 0) (h : OnGrid n x) : quantize n x = x := by
  obtain ⟨z, hz⟩ := h
  rw [quantize, hz, roundHalfAway_intCast, ← hz,
    mul_div_cancel_right₀ x (Nat.cast_ne_zero.mpr hn)]

end

end Rounding
