/-
The Ed25519 key policy (`_is_ed25519_point` of `app/platform/services/mfa.py`).

A passkey's key is 32 bytes.  The check recovers x² from the y-coordinate and asks whether it has a
root; the sources never build a curve point.
-/
import Mathlib.Data.Nat.Digits.Lemmas
import Mathlib.Tactic.LinearCombination
import Mathlib.Tactic.NormNum.Prime
import Nexotec.Lib.ModPow

namespace Nexotec.Ed25519

open ModPow

/-- `_ED25519_P` -/
def ed25519P : ℕ := 2 ^ 255 - 19

/-- `_ED25519_D` -/
def ed25519D : Option ℕ := do
  let inverse ← invMod 121666 ed25519P
  return (-121665 * inverse % ed25519P : ℤ).toNat

/-- `int.from_bytes(encoded, "little")` -/
def fromBytes (encoded : Vector UInt8 32) : ℕ :=
  Nat.ofDigits 256 (encoded.toList.map UInt8.toNat)

/-- `_is_ed25519_point`; `none` stands for an exception. -/
def isEd25519Point (encoded : Vector UInt8 32) : Option Bool := do
  let d ← ed25519D
  let y := fromBytes encoded &&& (2 ^ 255 - 1)
  if y ≥ ed25519P then return false
  let y2 := y * y % ed25519P
  let u := ((y2 - 1) % ed25519P : ℤ).toNat
  let v := (d * y2 + 1) % ed25519P
  let inverse ← invMod v ed25519P
  let x2 := u * inverse % ed25519P
  -- x = 0 exists only with the sign bit clear
  if x2 = 0 then return encoded[31] >>> 7 == 0
  return powMod x2 ((ed25519P - 1) / 2) ed25519P == 1

/-- 2²⁵⁵ - 19 is prime. -/
theorem prime_ed25519P : ed25519P.Prime := by
  -- the factors of p - 1, and of theirs, from the least on
  have h₁ : Nat.Prime 2773320623 :=
    prime_of_root 5 [2, 2437, 569003] (by norm_num) (by norm_num) (by norm_num)
      (by decide +kernel) (by decide +kernel)
  have h₂ : Nat.Prime 72106336199 :=
    prime_of_root 7 [2773320623, 2, 13] (by norm_num)
      (List.forall_mem_cons.mpr ⟨h₁, by norm_num⟩) (by norm_num)
      (by decide +kernel) (by decide +kernel)
  have h₃ : Nat.Prime 8574133 :=
    prime_of_root 2 [2, 2, 3, 7, 103, 991] (by norm_num) (by norm_num) (by norm_num)
      (by decide +kernel) (by decide +kernel)
  have h₄ : Nat.Prime 1919519569386763 :=
    prime_of_root 2 [8574133, 2, 3, 7, 19, 47, 47, 127] (by norm_num)
      (List.forall_mem_cons.mpr ⟨h₃, by norm_num⟩) (by norm_num)
      (by decide +kernel) (by decide +kernel)
  have h₅ : Nat.Prime 31757755568855353 :=
    prime_of_root 10 [2, 2, 2, 3, 31, 107, 223, 4153, 430751] (by norm_num) (by norm_num)
      (by norm_num) (by decide +kernel) (by decide +kernel)
  have h₆ : Nat.Prime 75445702479781427272750846543864801 :=
    prime_of_root 7 [72106336199, 1919519569386763, 2, 2, 2, 2, 2, 3, 3, 5, 5, 75707]
      (by norm_num)
      (List.forall_mem_cons.mpr ⟨h₂, List.forall_mem_cons.mpr ⟨h₄, by norm_num⟩⟩)
      (by norm_num) (by decide +kernel) (by decide +kernel)
  have h₇ : Nat.Prime 74058212732561358302231226437062788676166966415465897661863160754340907 :=
    prime_of_root 2 [31757755568855353, 75445702479781427272750846543864801, 2, 3, 353, 57467,
        132049, 1923133] (by norm_num)
      (List.forall_mem_cons.mpr ⟨h₅, List.forall_mem_cons.mpr ⟨h₆, by norm_num⟩⟩)
      (by norm_num) (by decide +kernel) (by decide +kernel)
  exact prime_of_root 2
    [74058212732561358302231226437062788676166966415465897661863160754340907, 2, 2, 3, 65147]
    (by norm_num [ed25519P]) (List.forall_mem_cons.mpr ⟨h₇, by norm_num⟩)
    (by norm_num [ed25519P]) (by decide +kernel) (by decide +kernel)

instance : Fact ed25519P.Prime := ⟨prime_ed25519P⟩

abbrev Field : Type := ZMod ed25519P

def curveD : Field := -121665 / 121666

def OnCurve (x y : Field) : Prop := -x ^ 2 + y ^ 2 = 1 + curveD * x ^ 2 * y ^ 2

section

variable {x y : Field}

theorem natCast_ne_zero {n : ℕ} (hpos : 0 < n) (hlt : n < ed25519P) : (n : Field) ≠ 0 := by
  intro h
  have hdvd := (ZMod.natCast_eq_zero_iff n ed25519P).mp h
  exact absurd (Nat.le_of_dvd hpos hdvd) (by omega)

theorem curveD_mul : (121666 : Field) * curveD = -121665 := by
  have h : ((121666 : ℕ) : Field) ≠ 0 := natCast_ne_zero (by norm_num) (by norm_num [ed25519P])
  rw [curveD, mul_div_cancel₀]
  exact_mod_cast h

theorem not_isSquare : ¬ IsSquare ((121665 * 121666 : ℕ) : Field) := by
  rw [← isSquare_iff_powMod (natCast_ne_zero (by norm_num) (by norm_num [ed25519P]))]
  decide +kernel

/-- -1/d is not a square, so there is always an inverse to take. -/
theorem denominator_ne_zero (y : Field) : curveD * y ^ 2 + 1 ≠ 0 := by
  intro h
  -- a root would make 121665 * 121666 the square of 121665 * y
  refine not_isSquare ⟨121665 * y, ?_⟩
  push_cast
  linear_combination 121665 * 121666 * h - 121665 * y ^ 2 * curveD_mul

theorem onCurve_iff {q : Field} (hq : (curveD * y ^ 2 + 1) * q = 1) :
    OnCurve x y ↔ x ^ 2 = (y ^ 2 - 1) * q := by
  unfold OnCurve
  constructor
  · intro h
    linear_combination (-q) * h - x ^ 2 * hq
  · intro h
    linear_combination (-(curveD * y ^ 2 + 1)) * h - (y ^ 2 - 1) * hq

theorem ed25519D_spec : ∃ d, ed25519D = some d ∧ (d : Field) = curveD := by
  have hsome : (invMod 121666 ed25519P).isSome := invMod_isSome.mpr (by norm_num [ed25519P])
  obtain ⟨inverse, hinverse⟩ := Option.isSome_iff_exists.mp hsome
  have hone : ((121666 : ℕ) : Field) * inverse = 1 :=
    invMod_spec prime_ed25519P.one_lt hinverse
  have hpos : (0 : ℤ) < ed25519P := by exact_mod_cast prime_ed25519P.pos
  refine ⟨_, by rw [ed25519D, hinverse]; rfl, ?_⟩
  rw [← Int.cast_natCast, Int.toNat_of_nonneg (Int.emod_nonneg _ hpos.ne'), ZMod.intCast_mod]
  push_cast at hone ⊢
  linear_combination curveD * hone - inverse * curveD_mul

end

section

def yBits (encoded : Vector UInt8 32) : ℕ := fromBytes encoded % 2 ^ 255

def signBit (encoded : Vector UInt8 32) : ℕ := encoded[31].toNat / 128

/-- RFC 8032: the bytes are y in the low 255 bits, and the parity of x above it. -/
def Encodes (encoded : Vector UInt8 32) (x y : Field) : Prop :=
  fromBytes encoded = y.val + 2 ^ 255 * (x.val % 2)

variable (encoded : Vector UInt8 32)

theorem fromBytes_eq : fromBytes encoded = yBits encoded + 2 ^ 255 * signBit encoded := by
  have hlast : encoded.toList = encoded.toList.take 31 ++ [encoded[31]] := by
    rw [← List.take_append_drop 31 encoded.toList]
    congr 1
    · simp
    · rw [List.drop_eq_getElem_cons (by simp)]
      simp
  have hlength : ((encoded.toList.take 31).map UInt8.toNat).length = 31 := by simp
  have hlow : Nat.ofDigits 256 ((encoded.toList.take 31).map UInt8.toNat) < 256 ^ 31 := by
    conv_rhs => rw [← hlength]
    refine Nat.ofDigits_lt_base_pow_length (b := 256) (by norm_num) ?_
    intro n hn
    obtain ⟨byte, -, rfl⟩ := List.mem_map.mp hn
    exact byte.toNat_lt
  have hsplit : fromBytes encoded =
      Nat.ofDigits 256 ((encoded.toList.take 31).map UInt8.toNat) +
        256 ^ 31 * encoded[31].toNat := by
    unfold fromBytes
    conv_lhs => rw [hlast, List.map_append, Nat.ofDigits_append, hlength]
    simp
  unfold yBits signBit
  rw [hsplit]
  omega

theorem signBit_le : signBit encoded ≤ 1 := by
  have h := encoded[31].toNat_lt
  unfold signBit
  omega

theorem shiftRight_eq_zero : (encoded[31] >>> 7 == 0) = decide (signBit encoded = 0) := by
  unfold signBit
  generalize encoded[31] = byte
  rw [Bool.eq_iff_iff, beq_iff_eq, decide_eq_true_iff, ← UInt8.toNat_inj]
  simp [Nat.shiftRight_eq_div_pow]

/-- The check as a statement of the field. -/
theorem isEd25519Point_spec : ∃ b, isEd25519Point encoded = some b ∧
    (b = true ↔ yBits encoded < ed25519P ∧
      ∃ x : Field, OnCurve x (yBits encoded) ∧ (x = 0 → signBit encoded = 0)) := by
  obtain ⟨d, hd, hcurve⟩ := ed25519D_spec
  have hlow : fromBytes encoded &&& (2 ^ 255 - 1) = yBits encoded :=
    Nat.and_two_pow_sub_one_eq_mod _ _
  unfold isEd25519Point
  rw [hd]
  simp only [Option.bind_eq_bind, Option.bind_some, hlow, shiftRight_eq_zero]
  generalize yBits encoded = y
  generalize signBit encoded = sign
  by_cases hcanonical : y ≥ ed25519P
  · rw [if_pos hcanonical]
    refine ⟨false, rfl, ⟨fun h => absurd h Bool.false_ne_true, fun h => ?_⟩⟩
    omega
  rw [if_neg hcanonical]
  have hpos : (0 : ℤ) < ed25519P := by exact_mod_cast prime_ed25519P.pos
  have hu : ((((((y * y % ed25519P : ℕ) : ℤ) - 1) % ed25519P).toNat : ℕ) : Field) =
      (y : Field) ^ 2 - 1 := by
    rw [← Int.cast_natCast, Int.toNat_of_nonneg (Int.emod_nonneg _ hpos.ne'), ZMod.intCast_mod]
    simp [pow_two]
  have hv : (((d * (y * y % ed25519P) + 1) % ed25519P : ℕ) : Field) =
      curveD * (y : Field) ^ 2 + 1 := by
    simp [hcurve, pow_two]
  generalize (((y * y % ed25519P : ℕ) : ℤ) - 1) % ed25519P = u at hu
  generalize (d * (y * y % ed25519P) + 1) % ed25519P = v at hv
  -- the denominator is invertible, so `pow` does not raise
  have hcoprime : v.Coprime ed25519P := by
    rw [Nat.coprime_comm, prime_ed25519P.coprime_iff_not_dvd, ← ZMod.natCast_eq_zero_iff, hv]
    exact denominator_ne_zero _
  obtain ⟨inverse, hinverse⟩ := Option.isSome_iff_exists.mp (invMod_isSome.mpr hcoprime)
  have hone := invMod_spec prime_ed25519P.one_lt hinverse
  rw [hv] at hone
  have hsquare : ∀ x : Field, OnCurve x y ↔ x ^ 2 = ((u.toNat * inverse % ed25519P : ℕ) : Field) := by
    intro x
    rw [onCurve_iff hone, ZMod.natCast_mod, Nat.cast_mul, hu]
  have hlt : u.toNat * inverse % ed25519P < ed25519P := Nat.mod_lt _ prime_ed25519P.pos
  simp only [hinverse, Option.bind_some, hsquare]
  generalize u.toNat * inverse % ed25519P = x2 at hlt
  by_cases hzero : x2 = 0
  · rw [if_pos hzero]
    refine ⟨_, rfl, ?_⟩
    rw [decide_eq_true_iff, hzero, Nat.cast_zero]
    constructor
    · intro hsign
      exact ⟨by omega, 0, by ring, fun _ => hsign⟩
    · rintro ⟨-, x, hx, hsign⟩
      exact hsign (pow_eq_zero_iff two_ne_zero |>.mp hx)
  · rw [if_neg hzero]
    have hne : (x2 : Field) ≠ 0 := natCast_ne_zero (by omega) hlt
    refine ⟨_, rfl, ?_⟩
    rw [beq_iff_eq, show (ed25519P - 1) / 2 = ed25519P / 2 by norm_num [ed25519P],
      isSquare_iff_powMod hne]
    constructor
    · rintro ⟨x, hx⟩
      refine ⟨by omega, x, by rw [hx, pow_two], fun h => ?_⟩
      rw [h, mul_zero] at hx
      exact absurd hx hne
    · rintro ⟨-, x, hx, -⟩
      exact ⟨x, by rw [← hx, pow_two]⟩

theorem exists_parity {x y : Field} (hx : OnCurve x y) {sign : ℕ} (hle : sign ≤ 1)
    (hsign : x = 0 → sign = 0) : ∃ x', OnCurve x' y ∧ x'.val % 2 = sign := by
  by_cases hparity : x.val % 2 = sign
  · exact ⟨x, hx, hparity⟩
  have hne : x ≠ 0 := by
    rintro rfl
    exact hparity (by rw [ZMod.val_zero, hsign rfl])
  have hodd : ed25519P % 2 = 1 := by norm_num [ed25519P]
  have hlt := ZMod.val_lt x
  have : NeZero x := ⟨hne⟩
  refine ⟨-x, by unfold OnCurve at *; rw [neg_pow_two]; exact hx, ?_⟩
  rw [ZMod.val_neg_of_ne_zero]
  omega

theorem exists_encodes_iff : (∃ x y, OnCurve x y ∧ Encodes encoded x y) ↔ yBits encoded < ed25519P ∧
      ∃ x : Field, OnCurve x (yBits encoded) ∧ (x = 0 → signBit encoded = 0) := by
  have hbits := fromBytes_eq encoded
  have hy : yBits encoded < 2 ^ 255 := Nat.mod_lt _ (by norm_num)
  have hP : ed25519P < 2 ^ 255 := by norm_num [ed25519P]
  have hle := signBit_le encoded
  constructor
  · rintro ⟨x, y, hcurve, hencodes⟩
    have hlt := ZMod.val_lt y
    have hval : yBits encoded = y.val ∧ signBit encoded = x.val % 2 := by
      rw [Encodes, hbits] at hencodes
      omega
    refine ⟨by omega, x, ?_, ?_⟩
    · rw [hval.1, ZMod.natCast_zmod_val]
      exact hcurve
    · rintro rfl
      rw [hval.2, ZMod.val_zero]
  · rintro ⟨hlt, x, hcurve, hsign⟩
    obtain ⟨x', hx', hparity⟩ := exists_parity hcurve hle hsign
    refine ⟨x', yBits encoded, hx', ?_⟩
    rw [Encodes, hbits, hparity, ZMod.val_natCast_of_lt hlt]

/-- **The Ed25519 key check.**  It never raises, and lets through exactly the canonical encodings of
points: y < p, some x is on the curve with it, and the sign bit is clear when x = 0. -/
theorem is_ed25519_point : isEd25519Point encoded ≠ none ∧
    (isEd25519Point encoded = some true ↔ ∃ x y, OnCurve x y ∧ Encodes encoded x y) ∧
    (isEd25519Point encoded = some true ↔ yBits encoded < ed25519P ∧
      ∃ x : Field, OnCurve x (yBits encoded) ∧ (x = 0 → signBit encoded = 0)) := by
  obtain ⟨b, hb, htrue⟩ := isEd25519Point_spec encoded
  rw [exists_encodes_iff, hb, Option.some_inj]
  exact ⟨Option.some_ne_none b, htrue, htrue⟩

end

end Nexotec.Ed25519
