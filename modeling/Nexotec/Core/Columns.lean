/-
Money columns and money arithmetic.

An amount is a `DECIMAL(12, 2)` column: PostgreSQL rounds what it is given to two
decimals, a tie going away from zero, and refuses more than ten digits before the
point.  Python computes in the default context of `decimal`: 28 digits, a tie
going to the even neighbour.

* `column`, `fitsColumn` — what a column holds, and what it has room for.
-/
import Nexotec.Core.Base
import Nexotec.Lib.DecimalContext

namespace Nexotec

open Rounding

/-! ### Columns -/

abbrev Cents (x : Decimal) : Prop := OnGrid 100 x

/-- What a `DECIMAL(12, 2)` column holds of a number. -/
def column (x : Decimal) : Decimal := quantize 100 x

def fitsColumn (x : Decimal) : Bool := |column x| < 10 ^ 10

theorem cents_column (x : Decimal) : Cents (column x) := onGrid_quantize (by decide) x

theorem column_of_cents {x : Decimal} (h : Cents x) : column x = x :=
  quantize_of_onGrid (by decide) h

theorem cents_quantizeCents (x : Decimal) : Cents (quantizeCents x) :=
  onGrid_intCast_div (n := 100) (by decide) _

/-! ### The context -/

theorem roundHalfEven_intCast (z : ℤ) : roundHalfEven z = z := by
  unfold roundHalfEven
  rw [Int.floor_intCast, sub_self, if_pos (by norm_num)]

theorem abs_sub_roundHalfEven_le (x : ℚ) : |x - roundHalfEven x| ≤ 1 / 2 := by
  have hle := Int.floor_le x
  have hlt := Int.lt_floor_add_one x
  unfold roundHalfEven
  split
  · rw [abs_le]
    constructor <;> linarith
  · split
    · push_cast
      rw [abs_le]
      constructor <;> linarith
    · split
      · rw [abs_le]
        constructor <;> linarith
      · push_cast
        rw [abs_le]
        constructor <;> linarith

/-- `decimal.DefaultContext`. -/
def decimalContext : Context where
  prec := 28
  emax := 999999
  nearest := roundHalfEven
  prec_pos := by decide
  nearest_intCast := roundHalfEven_intCast
  abs_sub_nearest_le := abs_sub_roundHalfEven_le

/-- A trapped signal of `decimal` raises. -/
def orDecimalException {α : Type} (x : Option α) : Result α :=
  match x with
  | some a => .ok a
  | none => .error (internalError "decimal.DecimalException")

theorem orDecimalException_eq_ok {α : Type} {x : Option α} {a : α} :
    orDecimalException x = .ok a ↔ x = some a := by
  cases x with
  | none => exact ⟨nofun, nofun⟩
  | some x => exact ⟨fun h => congrArg some (Except.ok.inj h), fun h => by cases h; rfl⟩

/-! ### The share of the tax -/

/-- `(price * rate / (Decimal(100) + rate)).quantize(Decimal("0.01"), rounding=ROUND_HALF_UP)`. -/
def vatShare (price rate : Decimal) : Result Decimal :=
  orDecimalException do
    let product ← decimalContext.mul price rate
    let base ← decimalContext.add 100 rate
    let share ← decimalContext.div product base
    decimalContext.rescale 2 share

def exactShare (price rate : Decimal) : Decimal := quantize 100 (price * rate / (100 + rate))

/-- A rate as `DECIMAL(5, 2)` holds it. -/
def fitsRate (rate : Decimal) : Bool := |column rate| < 1000

section

variable {price rate : Decimal}

theorem rescale_round {x : ℚ} {a d : ℤ} (hd : 0 < d) (ha : |a| ≤ 10 ^ 17) (hx : x * 100 = a / d) :
    decimalContext.rescale 2 (decimalContext.round x) = some (quantize 100 x) := by
  have hdpos : (1 : ℚ) ≤ d := by exact_mod_cast hd
  have habs : |(a : ℚ)| ≤ 10 ^ 17 := by exact_mod_cast ha
  have hsize : |x * 100| ≤ 10 ^ 17 / d := by
    rw [hx, abs_div, abs_of_pos (by linarith : (0 : ℚ) < d)]
    gcongr
  have hbound : |x * 100| ≤ 10 ^ 17 := hsize.trans (div_le_self (by norm_num) hdpos)
  have herror := decimalContext.abs_round_sub_le x
  have hround : roundHalfAway (decimalContext.round x * 100) = roundHalfAway (x * 100) := by
    rw [hx]
    refine roundHalfAway_eq_of_close hd (fun z hz => ?_) ?_
    · -- a tie has three decimals and is kept
      have hgrid : OnGrid (10 ^ 3) x := ⟨10 * z + 5, by push_cast; linarith⟩
      have hdigits : |x| * 10 ^ 3 < 10 ^ decimalContext.prec := by
        rw [abs_mul] at hbound
        norm_num [decimalContext] at hbound ⊢
        linarith
      rw [decimalContext.round_of_onGrid hgrid hdigits, hx]
    · rw [← hx, ← sub_mul, abs_mul]
      have hhundred : |(100 : ℚ)| = 100 := abs_of_pos (by norm_num)
      rw [abs_mul, hhundred] at hsize
      rw [hhundred]
      have hprec : (10 : ℚ) ^ (1 - (decimalContext.prec : ℤ)) = 1 / 10 ^ 27 := by
        norm_num [decimalContext]
      rw [hprec] at herror
      calc |decimalContext.round x - x| * 100 ≤ |x| * (1 / 10 ^ 27) / 2 * 100 := by gcongr
        _ = |x| * 100 * (1 / (2 * 10 ^ 27)) := by ring
        _ ≤ 10 ^ 17 / d * (1 / (2 * 10 ^ 27)) := by gcongr
        _ = 1 / (2 * d) * (1 / 10 ^ 10) := by field_simp
        _ < 1 / (2 * d) * 1 := by gcongr; norm_num
        _ = 1 / (2 * d) := mul_one _
  have hfits : |roundHalfAway (x * 100)| < 10 ^ 28 := by
    have hhalf := abs_sub_roundHalfAway_le (x * 100)
    have hcast : |(roundHalfAway (x * 100) : ℚ)| < 10 ^ 28 := by
      calc |(roundHalfAway (x * 100) : ℚ)|
          = |x * 100 - (x * 100 - roundHalfAway (x * 100))| := by rw [sub_sub_cancel]
        _ ≤ |x * 100| + |x * 100 - roundHalfAway (x * 100)| := abs_sub _ _
        _ < 10 ^ 28 := by
          have hnumbers : (10 : ℚ) ^ 17 + 1 / 2 < 10 ^ 28 := by norm_num
          linarith
    exact_mod_cast hcast
  unfold Context.rescale quantize
  simp only [show ((10 ^ 2 : ℕ) : ℚ) = 100 by norm_num, hround]
  rw [if_pos (show |roundHalfAway (x * 100)| < 10 ^ decimalContext.prec from hfits), Nat.cast_ofNat]

theorem result_eq_round {x : ℚ} (hx : |x| ≤ 10 ^ 15) :
    decimalContext.result x = some (decimalContext.round x) := by
  have herror := decimalContext.abs_round_sub_le x
  have hprec : (10 : ℚ) ^ (1 - (decimalContext.prec : ℤ)) ≤ 1 := by norm_num [decimalContext]
  have hround : |decimalContext.round x| < (10 : ℚ) ^ (20 : ℤ) := by
    calc |decimalContext.round x| = |decimalContext.round x - x + x| := by rw [sub_add_cancel]
      _ ≤ |decimalContext.round x - x| + |x| := abs_add_le _ _
      _ ≤ |x| * 1 / 2 + |x| := by
        gcongr
        exact herror.trans (by gcongr)
      _ < (10 : ℚ) ^ (20 : ℤ) := by
        norm_num
        linarith
  have hlog : Int.log 10 |decimalContext.round x| ≤ decimalContext.emax := by
    rcases eq_or_ne (decimalContext.round x) 0 with hzero | hne
    · rw [hzero, abs_zero, Int.log_zero_right]
      decide
    · have hlt : Int.log 10 |decimalContext.round x| < 20 := by
        rw [← Int.lt_zpow_iff_log_lt (by norm_num) (abs_pos.mpr hne), Nat.cast_ofNat]
        exact hround
      exact hlt.le.trans (by decide)
  rw [Context.result, if_pos hlog]

/-- On amounts and rates out of columns it is the exact share, rounded half up. -/
theorem vatShare_eq (hprice : Cents price) (hfits : fitsColumn price = true) (hrate : Cents rate)
    (hfitsRate : fitsRate rate = true) (hbase : 100 + rate ≠ 0) :
    vatShare price rate = .ok (exactShare price rate) := by
  obtain ⟨n, hn⟩ := id hprice
  obtain ⟨r, hr⟩ := id hrate
  rw [Nat.cast_ofNat] at hn hr
  simp only [fitsColumn, fitsRate, column_of_cents hprice, column_of_cents hrate,
    decide_eq_true_eq] at hfits hfitsRate
  have hn' : |n| ≤ 10 ^ 12 := by
    have hcast : |(n : ℚ)| ≤ 10 ^ 12 := by
      rw [← hn, abs_mul, abs_of_pos (by norm_num : (0 : ℚ) < 100)]
      linarith
    exact_mod_cast hcast
  have hr' : |r| ≤ 10 ^ 5 := by
    have hcast : |(r : ℚ)| ≤ 10 ^ 5 := by
      rw [← hr, abs_mul, abs_of_pos (by norm_num : (0 : ℚ) < 100)]
      linarith
    exact_mod_cast hcast
  have hnr : |n * r| ≤ 10 ^ 17 := by
    rw [abs_mul]
    calc |n| * |r| ≤ 10 ^ 12 * 10 ^ 5 := by gcongr
      _ = 10 ^ 17 := by norm_num
  have hemax : ((decimalContext.prec : ℕ) : ℤ) ≤ decimalContext.emax := by decide
  -- the product and the sum are exact
  have hproduct : decimalContext.mul price rate = some (price * rate) := by
    have hscaled : price * rate * 10 ^ 4 = ((n * r : ℤ) : ℚ) := by
      push_cast
      rw [← hn, ← hr]
      ring
    refine decimalContext.result_of_onGrid (k := 4) ⟨n * r, by push_cast at hscaled ⊢; exact hscaled⟩
      ?_ hemax
    have hsize : |price * rate| * 10 ^ 4 = |((n * r : ℤ) : ℚ)| := by
      rw [← hscaled, abs_mul (price * rate), abs_of_pos (by norm_num : (0 : ℚ) < 10 ^ 4)]
    rw [hsize]
    calc |((n * r : ℤ) : ℚ)| ≤ 10 ^ 17 := by exact_mod_cast hnr
      _ < 10 ^ decimalContext.prec := by norm_num [decimalContext]
  have hsum : decimalContext.add 100 rate = some (100 + rate) := by
    refine decimalContext.result_of_onGrid (k := 2)
      ⟨10000 + r, by push_cast; rw [← hr]; ring⟩ ?_ hemax
    have habs : |100 + rate| ≤ 100 + |rate| := by
      calc |100 + rate| ≤ |(100 : ℚ)| + |rate| := abs_add_le _ _
        _ = 100 + |rate| := by norm_num
    norm_num [decimalContext]
    linarith
  -- the quotient is a fraction in hundredths
  have hfraction : ∃ a d : ℤ, 0 < d ∧ |a| ≤ 10 ^ 17 ∧
      price * rate / (100 + rate) * 100 = (a : ℚ) / d := by
    have hd : ((10000 + r : ℤ) : ℚ) = (100 + rate) * 100 := by
      push_cast
      rw [← hr]
      ring
    have hquotient : price * rate / (100 + rate) * 100 = ((n * r : ℤ) : ℚ) / (10000 + r : ℤ) := by
      rw [hd]
      push_cast
      rw [← hn, ← hr]
      field_simp
    rcases lt_trichotomy (10000 + r) 0 with hneg | hzero | hpos
    · refine ⟨-(n * r), -(10000 + r), by omega, by rwa [abs_neg], ?_⟩
      rw [hquotient, Int.cast_neg, Int.cast_neg, neg_div_neg_eq]
    · refine absurd ?_ hbase
      rw [hzero, Int.cast_zero] at hd
      linarith
    · exact ⟨n * r, 10000 + r, hpos, hnr, hquotient⟩
  obtain ⟨a, d, hd, ha, hx⟩ := hfraction
  have hbound : |price * rate / (100 + rate)| ≤ 10 ^ 15 := by
    have hdpos : (1 : ℚ) ≤ d := by exact_mod_cast hd
    have hsize : |price * rate / (100 + rate) * 100| ≤ 10 ^ 17 := by
      rw [hx, abs_div, abs_of_pos (by linarith : (0 : ℚ) < d)]
      exact (div_le_self (abs_nonneg _) hdpos).trans (by exact_mod_cast ha)
    rw [abs_mul, abs_of_pos (by norm_num : (0 : ℚ) < 100)] at hsize
    linarith
  have hshare : decimalContext.div (price * rate) (100 + rate) =
      some (decimalContext.round (price * rate / (100 + rate))) := by
    rw [Context.div, if_neg hbase, result_eq_round hbound]
  unfold vatShare
  rw [hproduct, hsum]
  simp only [Option.bind_eq_bind, Option.bind_some, hshare, rescale_round hd ha hx]
  rfl

theorem vatShare_minus_hundred (price : Decimal) :
    vatShare price (-100) = .error (internalError "decimal.DecimalException") := by
  have hsum : decimalContext.add 100 (-100) = some 0 := by
    have hzero : (100 : ℚ) + -100 = 0 := by norm_num
    rw [Context.add, hzero]
    exact decimalContext.result_of_onGrid (k := 0) onGrid_zero (by norm_num) (by decide)
  unfold vatShare
  rw [hsum]
  cases decimalContext.mul price (-100) with
  | none => rfl
  | some product => rfl

theorem cents_vatShare {share : Decimal} (h : vatShare price rate = .ok share) : Cents share := by
  obtain ⟨product, -, hshare⟩ := Option.bind_eq_some_iff.mp (orDecimalException_eq_ok.mp h)
  obtain ⟨base, -, hshare⟩ := Option.bind_eq_some_iff.mp hshare
  obtain ⟨quotient, -, hshare⟩ := Option.bind_eq_some_iff.mp hshare
  unfold Context.rescale at hshare
  split at hshare
  · cases hshare
    exact onGrid_quantize (by norm_num) quotient
  · cases hshare

/-- **The rates that leave the share between zero and the price**: those from
zero on, and below zero those that a rounding brings back. -/
def RateInRange (price rate : Decimal) : Prop :=
  0 ≤ rate ∨ 200 * price * -rate < 100 + rate ∨ 20000 * price < -(100 + rate)

theorem exactShare_nonneg_iff : 0 ≤ exactShare price rate ↔ -(1 / 2) < price * rate / (100 + rate) * 100 := by
  rw [← roundHalfAway_nonneg_iff, exactShare, quantize, Nat.cast_ofNat]
  rw [le_div_iff₀ (by norm_num), zero_mul]
  exact Int.cast_nonneg_iff

theorem exactShare_le_iff (hprice : Cents price) (hshare : 0 ≤ price * rate / (100 + rate)) :
    exactShare price rate ≤ price ↔ price * rate / (100 + rate) * 100 < price * 100 + 1 / 2 := by
  obtain ⟨n, hn⟩ := hprice
  rw [Nat.cast_ofNat] at hn
  rw [exactShare, quantize, Nat.cast_ofNat, div_le_iff₀ (by norm_num), hn, Int.cast_le]
  exact roundHalfAway_le_iff (by positivity)

theorem exactShare_bounds_iff (hprice : Cents price) (hnonneg : 0 ≤ price) (hbase : 100 + rate ≠ 0) :
    (0 ≤ exactShare price rate ∧ exactShare price rate ≤ price) ↔ RateInRange price rate := by
  unfold RateInRange
  rcases le_or_gt 0 rate with hrate | hrate
  · -- a share of the price
    have hpos : 0 < 100 + rate := by linarith
    have hshare : 0 ≤ price * rate / (100 + rate) := by positivity
    have hle : price * rate / (100 + rate) ≤ price := by
      rw [div_le_iff₀ hpos]
      nlinarith
    rw [exactShare_nonneg_iff, exactShare_le_iff hprice hshare]
    constructor
    · exact fun _ => .inl hrate
    · exact fun _ => ⟨by linarith, by linarith⟩
  · rcases lt_or_gt_of_ne hbase with hneg | hpos
    · -- more than the price
      have hshare : price * rate / (100 + rate) = price + price * 100 / -(100 + rate) := by
        field_simp
        ring
      have hexcess : 0 ≤ price * 100 / -(100 + rate) :=
        div_nonneg (by linarith) (by linarith)
      have hnonnegShare : 0 ≤ price * rate / (100 + rate) := by rw [hshare]; linarith
      rw [exactShare_nonneg_iff, exactShare_le_iff hprice hnonnegShare]
      have hiff : price * rate / (100 + rate) * 100 < price * 100 + 1 / 2 ↔
          20000 * price < -(100 + rate) := by
        rw [hshare, add_mul, add_lt_add_iff_left, div_mul_eq_mul_div, div_lt_iff₀ (by linarith)]
        constructor <;> intro h <;> linarith
      rw [hiff]
      constructor
      · exact fun h => .inr (.inr h.2)
      · rintro (h | h | h)
        · linarith
        · have hproduct : 0 ≤ 200 * price * -rate := by
            have : 0 ≤ price * -rate := mul_nonneg hnonneg (by linarith)
            linarith
          linarith
        · exact ⟨by linarith, h⟩
    · -- below zero
      have hshare : price * rate / (100 + rate) * 100 = -(100 * price * -rate / (100 + rate)) := by
        ring
      have hle : exactShare price rate ≤ price := by
        have hnonpos : price * rate / (100 + rate) * 100 ≤ 0 := by
          have hproduct : 0 ≤ 100 * price * -rate / (100 + rate) :=
            div_nonneg (by nlinarith) hpos.le
          linarith
        have hround : ((roundHalfAway (price * rate / (100 + rate) * 100) : ℤ) : ℚ) ≤ 0 := by
          exact_mod_cast roundHalfAway_nonpos hnonpos
        rw [exactShare, quantize, Nat.cast_ofNat, div_le_iff₀ (by norm_num)]
        linarith
      rw [exactShare_nonneg_iff, hshare, neg_lt_neg_iff, div_lt_iff₀ hpos]
      constructor
      · exact fun h => .inr (.inl (by linarith [h.1]))
      · rintro (h | h | h)
        · linarith
        · exact ⟨by linarith, hle⟩
        · linarith

end

end Nexotec
