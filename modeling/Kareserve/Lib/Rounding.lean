/-
Correct rounding to a binary floating-point format: to the nearest number
of the format, and halfway cases to the one with the even significand.

# The format

A format has a precision and a least exponent, and no greatest one: the
range is a matter of its own. The numbers of the format around `q` are the
multiples of `unit q`, a power of two that is as small as the precision
allows (`exponent`).

# Quotients of integers

Rounding moves a number by at most half a unit (`abs_round_sub_le`). For a
quotient of integers below `2 ^ precision` that is less than its distance
to an integer, if it is none itself, so the ceiling stays the same
(`ceil_round_div`).
-/
import Mathlib.Algebra.Order.Archimedean.Basic
import Mathlib.Algebra.Order.Field.Rat
import Mathlib.Data.Int.Log
import Mathlib.Data.Rat.Floor
import Mathlib.Tactic.FieldSimp
import Mathlib.Tactic.Linarith
import Mathlib.Tactic.Positivity
import Mathlib.Tactic.Ring

namespace Rounding

-- ============================================================== integers

/-- To the nearest integer, halves to the even one. -/
def nearestEven (q : ℚ) : ℤ :=
  let low := ⌊q⌋
  if q - low < 1 / 2 then low
  else if 1 / 2 < q - low then low + 1
  else if Even low then low
  else low + 1

/-- An integer is its own nearest. -/
theorem nearestEven_intCast (n : ℤ) : nearestEven n = n := by
  unfold nearestEven
  dsimp only
  rw [Int.floor_intCast, sub_self, if_pos (by norm_num)]

/-- Nothing moves by more than a half. -/
theorem abs_nearestEven_sub_le (q : ℚ) : |(nearestEven q : ℚ) - q| ≤ 1 / 2 := by
  have hlow := Int.floor_le q
  have hhigh := Int.lt_floor_add_one q
  unfold nearestEven
  dsimp only
  rw [abs_le]
  split
  · constructor <;> linarith
  split
  · push_cast
    constructor <;> linarith
  split
  · constructor <;> linarith
  · push_cast
    constructor <;> linarith

theorem nearestEven_nonneg {q : ℚ} (h : 0 ≤ q) : 0 ≤ nearestEven q := by
  have hlow : 0 ≤ ⌊q⌋ := Int.floor_nonneg.mpr h
  unfold nearestEven
  dsimp only
  split
  · exact hlow
  split
  · exact hlow.trans (by omega)
  split
  · exact hlow
  · exact hlow.trans (by omega)

/-- A binary format: the bits of a significand, and the exponent of the
least positive number. The reciprocal of an integer that fits a significand
is far from that number. -/
structure Format where
  precision : ℕ
  minExponent : ℤ
  precision_pos : 0 < precision
  minExponent_le : minExponent ≤ 1 - 2 * precision

/-- The format of a double. -/
def binary64 : Format where
  precision := 53
  minExponent := -1074
  precision_pos := by decide
  minExponent_le := by decide

namespace Format

variable (f : Format)

/-- The exponent of the last place of numbers like `q`. -/
def exponent (q : ℚ) : ℤ :=
  max (Int.log 2 |q| + 1 - f.precision) f.minExponent

/-- The unit in the last place of numbers like `q`. -/
def unit (q : ℚ) : ℚ := 2 ^ f.exponent q

/-- The number of the format that is nearest to `q`. -/
def round (q : ℚ) : ℚ := nearestEven (q / f.unit q) * f.unit q

theorem unit_pos (q : ℚ) : 0 < f.unit q := zpow_pos two_pos _

theorem round_zero : f.round 0 = 0 := by
  have hzero : nearestEven 0 = 0 := nearestEven_intCast 0
  unfold round
  rw [zero_div, hzero, Int.cast_zero, zero_mul]

theorem round_nonneg {q : ℚ} (h : 0 ≤ q) : 0 ≤ f.round q :=
  mul_nonneg
    (Int.cast_nonneg (nearestEven_nonneg (div_nonneg h (f.unit_pos q).le)))
    (f.unit_pos q).le

/-- Rounding moves a number by half a unit at most. -/
theorem abs_round_sub_le (q : ℚ) : |f.round q - q| ≤ f.unit q / 2 := by
  have hunit := f.unit_pos q
  have hscaled : f.round q - q
      = (nearestEven (q / f.unit q) - q / f.unit q) * f.unit q := by
    rw [sub_mul, div_mul_cancel₀ q hunit.ne']
    rfl
  have hmoved := abs_nearestEven_sub_le (q / f.unit q)
  rw [hscaled, abs_mul, abs_of_pos hunit]
  calc |(nearestEven (q / f.unit q) : ℚ) - q / f.unit q| * f.unit q
      ≤ 1 / 2 * f.unit q := mul_le_mul_of_nonneg_right hmoved hunit.le
    _ = f.unit q / 2 := by ring

/-- A multiple of its own unit is a number of the format. -/
theorem round_of_mul {q : ℚ} {n : ℤ} (h : q = n * f.unit q) :
    f.round q = q := by
  have hquotient : q / f.unit q = n := by
    rw [div_eq_iff (f.unit_pos q).ne']
    exact h
  unfold round
  rw [hquotient, nearestEven_intCast]
  exact h.symm

variable {f}

/-- An integer of fewer bits than a significand has. -/
theorem round_intCast {n : ℤ} (h : |n| < 2 ^ f.precision) :
    f.round n = n := by
  have hprecision := f.precision_pos
  have hmin := f.minExponent_le
  rcases eq_or_ne n 0 with rfl | hn
  · rw [Int.cast_zero]
    exact f.round_zero
  have hpos : (0 : ℚ) < |(n : ℚ)| := abs_pos.mpr (Int.cast_ne_zero.mpr hn)
  have hlog : Int.log 2 |(n : ℚ)| < f.precision := by
    rw [← Int.lt_zpow_iff_log_lt one_lt_two hpos, zpow_natCast]
    exact_mod_cast h
  have hexponent : f.exponent n ≤ 0 := max_le (by omega) (by omega)
  -- a negative power of two divides every integer
  apply f.round_of_mul (n := n * 2 ^ (-f.exponent n).toNat)
  have hpower : (2 : ℚ) ^ (-f.exponent n).toNat * f.unit n = 1 := by
    unfold unit
    rw [← zpow_natCast, Int.toNat_of_nonneg (by omega),
      ← zpow_add₀ two_ne_zero, neg_add_cancel, zpow_zero]
  push_cast
  rw [mul_assoc, hpower, mul_one]

/-- Above the least exponents, a unit is small beside its number. -/
theorem unit_le {q : ℚ} (hq : q ≠ 0)
    (h : f.minExponent ≤ Int.log 2 |q| + 1 - f.precision) :
    f.unit q ≤ |q| * 2 ^ (1 - f.precision : ℤ) := by
  have hpower : (2 : ℚ) ^ Int.log 2 |q| ≤ |q| :=
    Int.zpow_log_le_self one_lt_two (abs_pos.mpr hq)
  unfold unit exponent
  rw [max_eq_left h, add_sub_assoc, zpow_add₀ two_ne_zero]
  exact mul_le_mul_of_nonneg_right hpower (zpow_nonneg zero_le_two _)

end Format

-- ============================================================= quotients

/-- A quotient that is no integer is away from each by its denominator's
share at least. -/
theorem inv_le_abs_sub {a b n : ℤ} (hb : 0 < b) (h : (a : ℚ) / b ≠ n) :
    (b : ℚ)⁻¹ ≤ |(a : ℚ) / b - n| := by
  have hb' : (0 : ℚ) < b := Int.cast_pos.mpr hb
  have hscaled : (a : ℚ) / b - n = (a - n * b : ℤ) / b := by
    push_cast
    field_simp
  have hne : a - n * b ≠ 0 := by
    intro hzero
    apply h
    rw [div_eq_iff hb'.ne', ← Int.cast_mul, ← sub_eq_zero.mp hzero]
  have hone : (1 : ℚ) ≤ |((a - n * b : ℤ) : ℚ)| := by
    exact_mod_cast Int.one_le_abs hne
  rw [hscaled, abs_div, abs_of_pos hb', ← one_div]
  exact div_le_div_of_nonneg_right hone hb'.le

variable {f : Format}

/-- A quotient of integers below `2 ^ precision` moves by less than its
denominator's share. -/
theorem abs_round_div_sub_lt {a b : ℤ} (hb : 0 < b)
    (ha : |a| < 2 ^ f.precision) (hsize : b < 2 ^ f.precision) :
    |f.round ((a : ℚ) / b) - (a : ℚ) / b| < (b : ℚ)⁻¹ := by
  have hmin := f.minExponent_le
  have hb' : (0 : ℚ) < b := Int.cast_pos.mpr hb
  rcases eq_or_ne a 0 with rfl | hne
  · rw [Int.cast_zero, zero_div, f.round_zero, sub_zero, abs_zero]
    exact inv_pos.mpr hb'
  have hq : (a : ℚ) / b ≠ 0 :=
    div_ne_zero (Int.cast_ne_zero.mpr hne) hb'.ne'
  have habs : |(a : ℚ) / b| = |(a : ℚ)| / b := by
    rw [abs_div, abs_of_pos hb']
  -- the quotient is at least `2 ^ -precision`, far above the least exponent
  have hlog : -(f.precision : ℤ) ≤ Int.log 2 |(a : ℚ) / b| := by
    rw [← Int.zpow_le_iff_le_log one_lt_two (abs_pos.mpr hq), habs, Nat.cast_two,
      zpow_neg, zpow_natCast]
    have hone : (1 : ℚ) ≤ |(a : ℚ)| := by exact_mod_cast Int.one_le_abs hne
    have hpower : (b : ℚ) ≤ 2 ^ f.precision := by exact_mod_cast hsize.le
    calc ((2 : ℚ) ^ f.precision)⁻¹ ≤ (b : ℚ)⁻¹ := inv_anti₀ hb' hpower
      _ = 1 / b := (one_div _).symm
      _ ≤ |(a : ℚ)| / b := div_le_div_of_nonneg_right hone hb'.le
  have hunit := Format.unit_le hq (f := f) (by omega)
  have hbits : |(a : ℚ)| < 2 ^ f.precision := by exact_mod_cast ha
  calc |f.round ((a : ℚ) / b) - (a : ℚ) / b|
      ≤ f.unit ((a : ℚ) / b) / 2 := f.abs_round_sub_le _
    _ ≤ |(a : ℚ) / b| * 2 ^ (1 - f.precision : ℤ) / 2 := by linarith
    _ = |(a : ℚ)| * (2 ^ f.precision)⁻¹ * (b : ℚ)⁻¹ := by
        rw [habs, zpow_sub₀ two_ne_zero, zpow_one, zpow_natCast]
        field_simp
    _ < 1 * (b : ℚ)⁻¹ := by
        apply mul_lt_mul_of_pos_right _ (inv_pos.mpr hb')
        rwa [← div_eq_mul_inv, div_lt_one (by positivity)]
    _ = (b : ℚ)⁻¹ := one_mul _

/-- The ceiling of a rounded quotient of integers below `2 ^ precision` is
that of the quotient. -/
theorem ceil_round_div {a b : ℤ} (hb : 0 < b) (ha : |a| < 2 ^ f.precision)
    (hsize : b < 2 ^ f.precision) :
    ⌈f.round ((a : ℚ) / b)⌉ = ⌈(a : ℚ) / b⌉ := by
  by_cases hint : (a : ℚ) / b = (⌈(a : ℚ) / b⌉ : ℤ)
  · -- an integer quotient is a number of the format
    have hle : |⌈(a : ℚ) / b⌉| ≤ |a| := by
      have hb' : (1 : ℚ) ≤ b := by exact_mod_cast hb
      have habs : |((⌈(a : ℚ) / b⌉ : ℤ) : ℚ)| ≤ |(a : ℚ)| := by
        rw [← hint, abs_div, abs_of_pos (by linarith : (0 : ℚ) < b)]
        exact div_le_self (abs_nonneg _) hb'
      exact_mod_cast habs
    rw [hint, Format.round_intCast (lt_of_le_of_lt hle ha)]
  · have hmoved := abs_round_div_sub_lt hb ha hsize
    have hupper := inv_le_abs_sub hb hint
    have hbelow : (a : ℚ) / b ≠ (⌈(a : ℚ) / b⌉ - 1 : ℤ) := by
      have hlt := Int.ceil_lt_add_one ((a : ℚ) / b)
      push_cast
      intro heq
      linarith
    have hlower := inv_le_abs_sub hb hbelow
    have hle := Int.le_ceil ((a : ℚ) / b)
    have hlt := Int.ceil_lt_add_one ((a : ℚ) / b)
    push_cast at hlower
    rw [abs_of_nonpos (by linarith)] at hupper
    rw [abs_of_nonneg (by linarith)] at hlower
    rw [abs_lt] at hmoved
    rw [Int.ceil_eq_iff]
    constructor <;> linarith [hmoved.1, hmoved.2]

/-- Beyond, it need not: the quotient is 1/16 above this ceiling. -/
example : ⌈binary64.round (9007199254740993 / 16)⌉ = 562949953421312 := by
  decide +kernel

end Rounding
