import Mathlib.Algebra.Order.Field.Power
import Mathlib.Data.Rat.Floor
import Mathlib.Tactic.FieldSimp
import Mathlib.Tactic.Linarith
import Mathlib.Tactic.Ring

/-!
# Numbers of a binary floating-point format

A format has a number of significant bits and a smallest exponent. `nearest` is the
number of the format that lies nearest to a rational, the even one of two, as far as
the bits and the smallest exponent go; where the format ends at the top is left to whoever
uses it, and `abs_nearest_le_top` is what that needs: below the midpoint between the last
number of an exponent and the power of two after it, rounding does not reach the power.

Everything is computed by integers, so that a number can be rounded in a proof.
-/

namespace Floating

/-- `2 ^ e`, in a form that is quick to evaluate. -/
def twoPow (e : ℤ) : ℚ :=
  if 0 ≤ e then ((2 ^ e.toNat : ℕ) : ℚ) else 1 / ((2 ^ (-e).toNat : ℕ) : ℚ)

/-- The exponent of a number: `2 ^ e ≤ |q| < 2 ^ (e + 1)`, unless it is zero. -/
def exponent (q : ℚ) : ℤ :=
  let e : ℤ := (q.num.natAbs.log2 : ℤ) - q.den.log2
  if twoPow e ≤ |q| then e else e - 1

/-- The nearest integer, the even one of two. -/
def roundEven (x : ℚ) : ℤ :=
  if x - ⌊x⌋ < 1 / 2 ∨ (x - ⌊x⌋ = 1 / 2 ∧ ⌊x⌋ % 2 = 0) then ⌊x⌋ else ⌊x⌋ + 1

structure Format where
  precision : ℕ
  minExponent : ℤ

namespace Format

/-- The distance of the numbers around `q`. -/
def unitExponent (f : Format) (q : ℚ) : ℤ := max (exponent q + 1 - f.precision) f.minExponent

def nearest (f : Format) (q : ℚ) : ℚ :=
  roundEven (q / twoPow (f.unitExponent q)) * twoPow (f.unitExponent q)

end Format

/-! ## Powers and exponents -/

theorem twoPow_eq (e : ℤ) : twoPow e = 2 ^ e := by
  rw [twoPow]
  split
  · next h =>
      conv_rhs => rw [← Int.toNat_of_nonneg h]
      rw [zpow_natCast]
      push_cast
      rfl
  · next h =>
      have he : e = -((-e).toNat : ℤ) := by omega
      conv_rhs => rw [he]
      rw [zpow_neg, zpow_natCast, one_div]
      push_cast
      rfl

theorem twoPow_pos (e : ℤ) : 0 < twoPow e := by
  rw [twoPow_eq]
  exact zpow_pos (by norm_num) e

theorem twoPow_le {d e : ℤ} (h : d ≤ e) : twoPow d ≤ twoPow e := by
  rw [twoPow_eq, twoPow_eq]
  exact zpow_le_zpow_right₀ (by norm_num) h

theorem twoPow_add (d e : ℤ) : twoPow (d + e) = twoPow d * twoPow e := by
  rw [twoPow_eq, twoPow_eq, twoPow_eq, zpow_add₀ (by norm_num)]

theorem twoPow_add_one (e : ℤ) : twoPow (e + 1) = 2 * twoPow e := by
  rw [twoPow_add, mul_comm]
  rfl

theorem twoPow_natCast (n : ℕ) : twoPow n = 2 ^ n := by
  rw [twoPow_eq, zpow_natCast]

theorem abs_eq_div (q : ℚ) : |q| = q.num.natAbs / q.den := by
  have hpos : (0 : ℚ) < q.den := by exact_mod_cast q.den_pos
  conv_lhs => rw [← Rat.num_div_den q]
  rw [abs_div, abs_of_pos hpos, Nat.cast_natAbs, Int.cast_abs]

/-- A number is below the power after its exponent. -/
theorem abs_lt_twoPow (q : ℚ) : |q| < twoPow (exponent q + 1) := by
  rw [exponent]
  split
  · have hnum : (q.num.natAbs : ℚ) < 2 ^ (q.num.natAbs.log2 + 1) := by
      exact_mod_cast Nat.lt_log2_self
    have hden : (2 ^ q.den.log2 : ℚ) ≤ q.den := by
      exact_mod_cast Nat.log2_self_le q.den_nz
    have hpos : (0 : ℚ) < q.den := by exact_mod_cast q.den_pos
    have hexp : ((q.num.natAbs.log2 : ℤ) - q.den.log2 + 1)
        = ((q.num.natAbs.log2 + 1 : ℕ) : ℤ) - (q.den.log2 : ℕ) := by
      push_cast
      ring
    rw [abs_eq_div, div_lt_iff₀ hpos, hexp, twoPow_eq, zpow_sub₀ (by norm_num), zpow_natCast,
      zpow_natCast]
    calc (q.num.natAbs : ℚ) < 2 ^ (q.num.natAbs.log2 + 1) := hnum
      _ = 2 ^ (q.num.natAbs.log2 + 1) / 2 ^ q.den.log2 * 2 ^ q.den.log2 := by field_simp
      _ ≤ 2 ^ (q.num.natAbs.log2 + 1) / 2 ^ q.den.log2 * q.den :=
          mul_le_mul_of_nonneg_left hden (by positivity)
  · next h => rwa [sub_add_cancel, ← not_le]

/-- It reaches the power of its exponent. -/
theorem twoPow_exponent_le {q : ℚ} (hq : q ≠ 0) : twoPow (exponent q) ≤ |q| := by
  rw [exponent]
  split
  · next h => exact h
  · have hnum : (2 ^ q.num.natAbs.log2 : ℚ) ≤ q.num.natAbs := by
      have hne : q.num.natAbs ≠ 0 := by
        rw [ne_eq, Int.natAbs_eq_zero, Rat.num_eq_zero]
        exact hq
      exact_mod_cast Nat.log2_self_le hne
    have hden : (q.den : ℚ) < 2 ^ (q.den.log2 + 1) := by
      exact_mod_cast Nat.lt_log2_self
    have hpos : (0 : ℚ) < q.den := by exact_mod_cast q.den_pos
    have hexp : ((q.num.natAbs.log2 : ℤ) - q.den.log2 - 1)
        = ((q.num.natAbs.log2 : ℕ) : ℤ) - ((q.den.log2 + 1 : ℕ) : ℤ) := by
      push_cast
      ring
    rw [abs_eq_div, le_div_iff₀ hpos, hexp, twoPow_eq, zpow_sub₀ (by norm_num), zpow_natCast,
      zpow_natCast]
    calc (2 : ℚ) ^ q.num.natAbs.log2 / 2 ^ (q.den.log2 + 1) * q.den
        ≤ 2 ^ q.num.natAbs.log2 / 2 ^ (q.den.log2 + 1) * 2 ^ (q.den.log2 + 1) :=
          mul_le_mul_of_nonneg_left hden.le (by positivity)
      _ = 2 ^ q.num.natAbs.log2 := by field_simp
      _ ≤ q.num.natAbs := hnum

/-! ## The nearest integer -/

theorem abs_roundEven_sub_le (x : ℚ) : |(roundEven x : ℚ) - x| ≤ 1 / 2 := by
  have hlo := Int.floor_le x
  have hhi := Int.lt_floor_add_one x
  rw [roundEven, abs_le]
  split
  · next h =>
      have hhalf : x - ⌊x⌋ ≤ 1 / 2 := by
        rcases h with h | ⟨h, _⟩
        · exact h.le
        · exact h.le
      exact ⟨by linarith, by linarith⟩
  · next h =>
      rw [not_or, not_lt] at h
      push_cast
      exact ⟨by linarith [h.1], by linarith [h.1]⟩

theorem roundEven_intCast (n : ℤ) : roundEven n = n := by
  rw [roundEven, Int.floor_intCast, sub_self, if_pos (.inl (by norm_num))]

/-! ## The nearest number -/

section nearest

variable {f : Format} {q : ℚ}

theorem abs_nearest_sub_le (f : Format) (q : ℚ) :
    |f.nearest q - q| ≤ twoPow (f.unitExponent q) / 2 := by
  have hpos := twoPow_pos (f.unitExponent q)
  have h := abs_roundEven_sub_le (q / twoPow (f.unitExponent q))
  have hsplit : f.nearest q - q
      = ((roundEven (q / twoPow (f.unitExponent q)) : ℚ) - q / twoPow (f.unitExponent q))
        * twoPow (f.unitExponent q) := by
    rw [Format.nearest, sub_mul, div_mul_cancel₀ _ hpos.ne']
  rw [hsplit, abs_mul, abs_of_pos hpos]
  calc |(roundEven (q / twoPow (f.unitExponent q)) : ℚ) - q / twoPow (f.unitExponent q)|
        * twoPow (f.unitExponent q)
      ≤ 1 / 2 * twoPow (f.unitExponent q) := mul_le_mul_of_nonneg_right h hpos.le
    _ = twoPow (f.unitExponent q) / 2 := by ring

theorem unitExponent_le {e : ℤ} (he : 0 ≤ e) (hq : |q| < twoPow e) :
    f.unitExponent q ≤ max (e - f.precision) f.minExponent := by
  refine max_le_max ?_ le_rfl
  by_cases hzero : q = 0
  · have hexp : exponent 0 = -1 := by decide +kernel
    rw [hzero, hexp]
    omega
  · have hlt : exponent q < e := by
      by_contra hno
      have hle : twoPow e ≤ twoPow (exponent q) := twoPow_le (by omega)
      have hreach := twoPow_exponent_le hzero
      linarith
    omega

/-- What rounding costs below a power of two. -/
theorem abs_nearest_sub_le_of_lt {e : ℤ} (he : 0 ≤ e) (hmin : f.minExponent ≤ e - f.precision)
    (hq : |q| < twoPow e) : |f.nearest q - q| ≤ twoPow (e - f.precision) / 2 := by
  have hunit : twoPow (f.unitExponent q) ≤ twoPow (e - f.precision) := by
    have hle := @unitExponent_le f q e he hq
    rw [max_eq_left hmin] at hle
    exact twoPow_le hle
  have hnear := abs_nearest_sub_le f q
  linarith

/-- A multiple of the distance is a number of the format. -/
theorem nearest_of_multiple {n : ℤ} (h : q = n * twoPow (f.unitExponent q)) :
    f.nearest q = q := by
  have hpos := twoPow_pos (f.unitExponent q)
  have hdiv : q / twoPow (f.unitExponent q) = n := by
    rw [div_eq_iff hpos.ne']
    exact h
  rw [Format.nearest, hdiv, roundEven_intCast, ← h]

/-- Rounding costs less than the number itself, or than the smallest distance. -/
theorem abs_nearest_le (hprecision : 0 < f.precision) (hmin : f.minExponent ≤ 1) (q : ℚ) :
    |f.nearest q| ≤ 2 * |q| + 1 := by
  have hnear := abs_nearest_sub_le f q
  have htriangle : |f.nearest q| ≤ |f.nearest q - q| + |q| := by
    have h := abs_add_le (f.nearest q - q) q
    rwa [sub_add_cancel] at h
  have hq := abs_nonneg q
  have hunit : twoPow (f.unitExponent q) / 2 ≤ |q| + 1 := by
    rcases max_choice (exponent q + 1 - f.precision) f.minExponent with h | h
    · rw [Format.unitExponent, h]
      by_cases hzero : q = 0
      · subst hzero
        have hle : twoPow (exponent 0 + 1 - f.precision) ≤ twoPow 1 := by
          have hexp : exponent 0 = -1 := by decide +kernel
          exact twoPow_le (by omega)
        have hone : twoPow 1 = 2 := rfl
        rw [hone] at hle
        linarith
      · have hle : twoPow (exponent q + 1 - f.precision) ≤ twoPow (exponent q) :=
          twoPow_le (by omega)
        have hreach := twoPow_exponent_le hzero
        have := twoPow_pos (exponent q + 1 - f.precision)
        linarith
    · rw [Format.unitExponent, h]
      have hle : twoPow f.minExponent ≤ twoPow 1 := twoPow_le hmin
      have hone : twoPow 1 = 2 := rfl
      rw [hone] at hle
      linarith
  linarith

/-- Below the midpoint before a power of two, rounding does not reach the power. -/
theorem abs_nearest_le_top (hprecision : 2 ≤ f.precision) {top : ℤ}
    (hmin : f.minExponent ≤ top - f.precision)
    (hq : |q| < twoPow top - twoPow (top - f.precision) / 2) :
    |f.nearest q| ≤ twoPow top - twoPow (top - f.precision) := by
  obtain ⟨U, hU⟩ : ∃ U, U = twoPow (top - f.precision) := ⟨_, rfl⟩
  obtain ⟨u, hu⟩ : ∃ u, u = twoPow (f.unitExponent q) := ⟨_, rfl⟩
  have hUpos : 0 < U := hU ▸ twoPow_pos _
  have hupos : 0 < u := hu ▸ twoPow_pos _
  have htop : twoPow top = 2 ^ f.precision * U := by
    rw [hU, ← twoPow_natCast, ← twoPow_add, add_sub_cancel]
  have hquarter : 4 * U ≤ twoPow top := by
    have hfour : (4 : ℚ) ≤ 2 ^ f.precision := by
      calc (4 : ℚ) = 2 ^ 2 := by norm_num
        _ ≤ 2 ^ f.precision := pow_le_pow_right₀ (by norm_num) hprecision
    rw [htop]
    exact mul_le_mul_of_nonneg_right hfour hUpos.le
  rw [← hU] at hq ⊢
  have hnear := abs_nearest_sub_le f q
  rw [← hu] at hnear
  have htriangle : |f.nearest q| ≤ |f.nearest q - q| + |q| := by
    have h := abs_add_le (f.nearest q - q) q
    rwa [sub_add_cancel] at h
  by_cases hzero : q = 0
  · subst hzero
    rw [nearest_of_multiple (n := 0) (by rw [Int.cast_zero, zero_mul]), abs_zero]
    linarith
  have hexponent : exponent q + 1 ≤ top := by
    by_contra hno
    have hle : twoPow top ≤ twoPow (exponent q) := twoPow_le (by omega)
    have hreach := twoPow_exponent_le hzero
    linarith
  have hlast : f.unitExponent q ≤ top - f.precision := max_le (by omega) hmin
  rcases hlast.eq_or_lt with hsame | hbelow
  · -- The numbers around `q` are multiples of `U`, and the power of two is one of them.
    have huU : u = U := by rw [hu, hU, hsame]
    obtain ⟨N, hN⟩ : ∃ N, N = roundEven (q / u) := ⟨_, rfl⟩
    have hvalue : f.nearest q = N * u := by rw [Format.nearest, hN, hu]
    have hbound : |(N : ℚ)| < 2 ^ f.precision := by
      have herr := abs_roundEven_sub_le (q / u)
      rw [← hN] at herr
      have hadd : |(N : ℚ)| ≤ |(N : ℚ) - q / u| + |q / u| := by
        have h := abs_add_le ((N : ℚ) - q / u) (q / u)
        rwa [sub_add_cancel] at h
      have hdiv : |q / u| < 2 ^ f.precision - 1 / 2 := by
        rw [abs_div, abs_of_pos hupos, div_lt_iff₀ hupos, sub_mul, huU, ← htop]
        linarith
      linarith
    have hint : |N| ≤ 2 ^ f.precision - 1 := by
      have hcast : |N| < 2 ^ f.precision := by exact_mod_cast hbound
      omega
    have hrat : |(N : ℚ)| ≤ 2 ^ f.precision - 1 := by exact_mod_cast hint
    rw [hvalue, abs_mul, abs_of_pos hupos, huU]
    calc |(N : ℚ)| * U ≤ (2 ^ f.precision - 1) * U := mul_le_mul_of_nonneg_right hrat hUpos.le
      _ = twoPow top - U := by rw [htop]; ring
  · -- Otherwise `q` is so far below the power that no rounding takes it there.
    have hhalf : 2 * u ≤ U := by
      rw [hu, hU, ← twoPow_add_one]
      exact twoPow_le (by omega)
    have hfar : 2 * |q| ≤ twoPow top := by
      have hreach : exponent q + 1 ≤ f.unitExponent q + f.precision := by
        have := le_max_left (exponent q + 1 - f.precision) f.minExponent
        rw [Format.unitExponent]
        omega
      have hlt := abs_lt_twoPow q
      have hle : twoPow (exponent q + 1) ≤ twoPow (top - 1) := twoPow_le (by omega)
      have hdouble := twoPow_add_one (top - 1)
      rw [sub_add_cancel] at hdouble
      linarith
    linarith

end nearest

end Floating
