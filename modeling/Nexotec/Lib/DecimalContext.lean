/-
Decimal arithmetic in a context.

A result is rounded to the significant digits of the context; one whose exponent
is too large, a division by zero and a rescaled number with too many digits are
signals, and a trapped signal gives no result.

* `Context.round` — rounding to the digits of the context;
* `Context.round_of_onGrid` — a number with few enough digits is kept;
* `Context.abs_round_sub_le` — the relative error of one rounding;
* `Context.mul`, `Context.add`, `Context.div`, `Context.rescale` — the operations.
-/
import Nexotec.Lib.Rounding
import Mathlib.Data.Int.Log
import Mathlib.Data.Rat.Floor

namespace Rounding

/-- The digits and the largest exponent of a decimal arithmetic, and its way of
rounding to an integer. -/
structure Context where
  prec : ℕ
  emax : ℤ
  nearest : ℚ → ℤ
  prec_pos : 0 < prec
  nearest_intCast : ∀ z : ℤ, nearest z = z
  abs_sub_nearest_le : ∀ x, |x - nearest x| ≤ 1 / 2

namespace Context

variable (c : Context)

/-- The place of the last digit of `x` that the context keeps. -/
def ulp (x : ℚ) : ℚ := 10 ^ (Int.log 10 |x| + 1 - c.prec)

/-- `x` to the digits of the context. -/
def round (x : ℚ) : ℚ := c.nearest (x / c.ulp x) * c.ulp x

/-- The result of an operation, unless it overflows. -/
def result (x : ℚ) : Option ℚ :=
  if Int.log 10 |c.round x| ≤ c.emax then some (c.round x) else none

def add (x y : ℚ) : Option ℚ := c.result (x + y)

def mul (x y : ℚ) : Option ℚ := c.result (x * y)

def div (x y : ℚ) : Option ℚ := if y = 0 then none else c.result (x / y)

/-- `x` rounded to a multiple of `1 / 10 ^ k`, a tie going away from zero: the
digits must fit the context. -/
def rescale (k : ℕ) (x : ℚ) : Option ℚ :=
  if |roundHalfAway (x * (10 ^ k : ℕ))| < 10 ^ c.prec then some (quantize (10 ^ k) x) else none

theorem ulp_pos (x : ℚ) : 0 < c.ulp x := zpow_pos (by norm_num) _

theorem round_zero : c.round 0 = 0 := by
  have hnearest := c.nearest_intCast 0
  rw [Int.cast_zero] at hnearest
  simp only [round, zero_div, hnearest, Int.cast_zero, zero_mul]

/-- One rounding moves a number by half a unit of its last digit. -/
theorem abs_round_sub_le (x : ℚ) : |c.round x - x| ≤ |x| * 10 ^ (1 - (c.prec : ℤ)) / 2 := by
  rcases eq_or_ne x 0 with rfl | hx
  · rw [c.round_zero]
    simp
  · have hulp := c.ulp_pos x
    have hle : c.ulp x ≤ |x| * 10 ^ (1 - (c.prec : ℤ)) := by
      have hlog := Int.zpow_log_le_self (b := 10) (by norm_num) (abs_pos.mpr hx)
      calc c.ulp x = (10 : ℚ) ^ Int.log 10 |x| * 10 ^ (1 - (c.prec : ℤ)) := by
            rw [← zpow_add₀ (by norm_num : (10 : ℚ) ≠ 0), ulp, add_sub_assoc]
        _ ≤ |x| * 10 ^ (1 - (c.prec : ℤ)) :=
            mul_le_mul_of_nonneg_right (by exact_mod_cast hlog) (zpow_pos (by norm_num) _).le
    calc |c.round x - x| = |x / c.ulp x - c.nearest (x / c.ulp x)| * c.ulp x := by
          rw [← abs_of_pos hulp, ← abs_mul, abs_of_pos hulp, sub_mul, div_mul_cancel₀ _ hulp.ne',
            abs_sub_comm]
          rfl
      _ ≤ 1 / 2 * c.ulp x := by
          gcongr
          exact c.abs_sub_nearest_le _
      _ ≤ |x| * 10 ^ (1 - (c.prec : ℤ)) / 2 := by linarith

/-- A number with few enough digits is kept. -/
theorem round_of_onGrid {k : ℕ} {x : ℚ} (h : OnGrid (10 ^ k) x) (hx : |x| * 10 ^ k < 10 ^ c.prec) :
    c.round x = x := by
  obtain ⟨z, hz⟩ := h
  push_cast at hz
  rcases eq_or_ne x 0 with rfl | hne
  · exact c.round_zero
  · have hten : (10 : ℚ) ≠ 0 := by norm_num
    -- the first digit stands before the place `prec - k`
    have hlog : Int.log 10 |x| < c.prec - k := by
      rw [← Int.lt_zpow_iff_log_lt (by norm_num) (abs_pos.mpr hne)]
      push_cast
      rw [zpow_sub₀ hten, zpow_natCast, zpow_natCast, lt_div_iff₀ (by positivity)]
      exact hx
    obtain ⟨m, hm⟩ : ∃ m : ℕ, -(k : ℤ) - (Int.log 10 |x| + 1 - c.prec) = m :=
      Int.eq_ofNat_of_zero_le (by omega)
    have hint : x / c.ulp x = ((z * 10 ^ m : ℤ) : ℚ) := by
      rw [ulp, div_eq_iff (zpow_pos (by norm_num) _).ne']
      push_cast
      rw [← zpow_natCast (10 : ℚ) m, ← hm, mul_assoc, ← zpow_add₀ hten, sub_add_cancel, ← hz,
        zpow_neg, zpow_natCast, mul_assoc, mul_inv_cancel₀ (by positivity), mul_one]
    rw [round, hint, c.nearest_intCast, ← hint, div_mul_cancel₀ _ (c.ulp_pos x).ne']

theorem result_of_onGrid {k : ℕ} {x : ℚ} (h : OnGrid (10 ^ k) x) (hx : |x| * 10 ^ k < 10 ^ c.prec)
    (hemax : (c.prec : ℤ) ≤ c.emax) : c.result x = some x := by
  have hround := c.round_of_onGrid h hx
  have hlog : Int.log 10 |x| ≤ c.emax := by
    rcases eq_or_ne x 0 with rfl | hne
    · rw [abs_zero, Int.log_zero_right]
      omega
    · have hlt : |x| < (10 : ℚ) ^ (c.prec : ℤ) := by
        rw [zpow_natCast]
        refine lt_of_le_of_lt ?_ hx
        have hone : (1 : ℚ) ≤ 10 ^ k := one_le_pow₀ (by norm_num)
        nlinarith [abs_nonneg x]
      have := (Int.lt_zpow_iff_log_lt (b := 10) (by norm_num) (abs_pos.mpr hne)).mp (by
        push_cast
        exact hlt)
      omega
  rw [result, hround, if_pos hlog]

end Context

end Rounding
