/-
Powers and inverses modulo a number, computed as Python's `pow` does.

`powMod` runs over the binary digits of the exponent, so the kernel evaluates it at numbers of
hundreds of digits; this gives Lucas's primality test and Euler's criterion as computations.

* `powMod_eq` — square-and-multiply is the power;
* `invMod_spec`, `invMod_isSome` — the inverse, and when there is one;
* `prime_of_root` — Lucas's test from a primitive root and the factors of `n - 1`;
* `isSquare_iff_powMod` — Euler's criterion.
-/
import Mathlib.Data.Int.GCD
import Mathlib.Data.List.Prime
import Mathlib.NumberTheory.LegendreSymbol.Basic
import Mathlib.NumberTheory.LucasPrimality

namespace ModPow

/-- `acc * a ^ n` modulo `m`, over `bits` binary digits of `n`. -/
def powLoop (m : ℕ) : ℕ → ℕ → ℕ → ℕ → ℕ
  | 0, acc, _, _ => acc
  | bits + 1, acc, a, n =>
    powLoop m bits (if n % 2 = 1 then acc * a % m else acc) (a * a % m) (n / 2)

/-- `pow(a, n, m)` -/
def powMod (a n m : ℕ) : ℕ := powLoop m (n.log2 + 1) (1 % m) a n

theorem powLoop_mod (m : ℕ) : ∀ (bits acc a n : ℕ), n < 2 ^ bits →
    powLoop m bits (acc % m) a n = acc * a ^ n % m := by
  intro bits
  induction bits with
  | zero =>
    intro acc a n h
    have hn : n = 0 := by simpa using h
    simp [powLoop, hn]
  | succ bits ih =>
    intro acc a n h
    have hhalf : n / 2 < 2 ^ bits := by
      rw [pow_succ] at h
      omega
    have hsquare : (a * a % m) ^ (n / 2) ≡ a ^ (2 * (n / 2)) [MOD m] := by
      rw [pow_mul, pow_two]
      exact (Nat.mod_modEq _ _).pow _
    rcases Nat.mod_two_eq_zero_or_one n with heven | hodd
    · have hn : 2 * (n / 2) = n := by omega
      rw [powLoop, if_neg (by omega), ih acc _ _ hhalf]
      rw [hn] at hsquare
      exact hsquare.mul_left acc
    · have hn : n = 2 * (n / 2) + 1 := by omega
      have hacc : acc % m * a % m = acc * a % m := Nat.mod_mul_mod acc a m
      rw [powLoop, if_pos hodd, hacc, ih (acc * a) _ _ hhalf]
      calc acc * a * (a * a % m) ^ (n / 2) % m
          = acc * a * a ^ (2 * (n / 2)) % m := hsquare.mul_left (acc * a)
        _ = acc * a ^ (2 * (n / 2) + 1) % m := by ring_nf
        _ = acc * a ^ n % m := by rw [← hn]

theorem powMod_eq (a n m : ℕ) : powMod a n m = a ^ n % m := by
  rw [powMod, powLoop_mod m _ 1 a n Nat.lt_log2_self, one_mul]

theorem powMod_eq_one {m : ℕ} (hm : 1 < m) (a n : ℕ) : powMod a n m = 1 ↔ (a : ZMod m) ^ n = 1 := by
  rw [powMod_eq, ← Nat.cast_pow, ← Nat.cast_one (R := ZMod m), ZMod.natCast_eq_natCast_iff',
    Nat.mod_eq_of_lt hm]

/-- `pow(a, -1, m)`; `none` stands for its `ValueError`. -/
def invMod (a m : ℕ) : Option ℕ :=
  if a.gcd m = 1 then some (a.gcdA m % m).toNat else none

theorem invMod_isSome {a m : ℕ} : (invMod a m).isSome ↔ a.Coprime m := by
  unfold invMod Nat.Coprime
  split <;> simp_all

theorem invMod_spec {a m b : ℕ} (hm : 1 < m) (h : invMod a m = some b) : (a : ZMod m) * b = 1 := by
  unfold invMod at h
  split at h
  · rename_i hgcd
    cases h
    have hnonneg : 0 ≤ a.gcdA m % (m : ℤ) := Int.emod_nonneg _ (by omega)
    have hbezout : ((a.gcd m : ℕ) : ℤ) = a * a.gcdA m + m * a.gcdB m := Nat.gcd_eq_gcd_ab a m
    have hcast : (((a.gcdA m % (m : ℤ)).toNat : ℕ) : ZMod m) = (a.gcdA m : ZMod m) := by
      rw [← Int.cast_natCast, Int.toNat_of_nonneg hnonneg, ZMod.intCast_mod]
    rw [hcast]
    have hone := congrArg (Int.cast (R := ZMod m)) hbezout
    rw [hgcd] at hone
    push_cast at hone
    simpa using hone.symm
  · cases h

theorem prime_of_root {n : ℕ} (a : ℕ) (factors : List ℕ) (hn : 1 < n)
    (hprime : ∀ q ∈ factors, q.Prime) (hprod : factors.prod = n - 1)
    (hone : powMod a (n - 1) n = 1) (hne : ∀ q ∈ factors, powMod a ((n - 1) / q) n ≠ 1) :
    n.Prime := by
  refine lucas_primality n (a : ZMod n) ((powMod_eq_one hn _ _).mp hone) ?_
  intro q hq hdvd
  rw [← hprod] at hdvd
  -- a prime that divides the product is one of the factors
  obtain ⟨r, hr, hqr⟩ := (Prime.dvd_prod_iff hq.prime).mp hdvd
  obtain rfl : q = r := (Nat.prime_dvd_prime_iff_eq hq (hprime r hr)).mp hqr
  intro h
  exact hne q hr ((powMod_eq_one hn _ _).mpr h)

theorem isSquare_iff_powMod {p : ℕ} [Fact p.Prime] {a : ℕ} (ha : (a : ZMod p) ≠ 0) :
    powMod a (p / 2) p = 1 ↔ IsSquare (a : ZMod p) := by
  rw [powMod_eq_one (Fact.out : p.Prime).one_lt, ZMod.euler_criterion p ha]

end ModPow
