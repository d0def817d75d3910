/-
Least squares for predictions of any kind, and for lines with an
intercept.

`squaredError` is what a fit makes least. Of a family of predictions the
best is exact wherever any of them is (`exact_of_best`), whatever the
family. For lines the least is known: with `x` and `y` counted from their
means it is a line through the origin (`line_minimises`).
-/
import Mathlib.Algebra.BigOperators.Group.List.Basic
import Mathlib.Algebra.Order.BigOperators.Group.List
import Mathlib.Algebra.Order.Field.Basic
import Mathlib.Tactic.FieldSimp
import Mathlib.Tactic.LinearCombination
import Mathlib.Tactic.Ring

namespace Regression

variable {K : Type*} [Field K] {α : Type*}

/-- The sum of the squared errors of a prediction. -/
def squaredError (samples : List α) (observed predicted : α → K) : K :=
  (samples.map fun s => (observed s - predicted s) ^ 2).sum

-- =============================================================== lines

/-- The mean of a list. -/
def mean (l : List K) : K := l.sum / l.length

def meanX (points : List (K × K)) : K := mean (points.map Prod.fst)

def meanY (points : List (K × K)) : K := mean (points.map Prod.snd)

/-- The sum of the squared distances of `x` from its mean. -/
def spread (points : List (K × K)) : K :=
  (points.map fun p => (p.1 - meanX points) ^ 2).sum

/-- The slope of the best line. -/
def slope (points : List (K × K)) : K :=
  (points.map fun p =>
    (p.1 - meanX points) * (p.2 - meanY points)).sum / spread points

/-- The intercept of the best line. -/
def intercept (points : List (K × K)) : K :=
  meanY points - slope points * meanX points

/-- A line. -/
def line (a b : K) (p : K × K) : K := a * p.1 + b

/-- What a line misses, by what it misses as a line through the means. -/
theorem squaredError_line (points : List (K × K)) (a b mx my : K) :
    squaredError points Prod.snd (line a b)
      = (points.map fun p => (p.2 - my) ^ 2).sum
        - 2 * a * (points.map fun p => (p.1 - mx) * (p.2 - my)).sum
        + a ^ 2 * (points.map fun p => (p.1 - mx) ^ 2).sum
        - 2 * (b + a * mx - my)
          * ((points.map fun p => p.2 - my).sum
            - a * (points.map fun p => p.1 - mx).sum)
        + points.length * (b + a * mx - my) ^ 2 := by
  unfold squaredError line
  induction points with
  | nil => simp
  | cons p points ih =>
      simp only [List.map_cons, List.sum_cons, List.length_cons, ih]
      push_cast
      ring

theorem sum_sub (points : List (K × K)) (f : K × K → K) (c : K) :
    (points.map fun p => f p - c).sum
      = (points.map f).sum - points.length * c := by
  induction points with
  | nil => simp
  | cons p points ih =>
      simp only [List.map_cons, List.sum_cons, List.length_cons, ih]
      push_cast
      ring

/-- The distances from a mean cancel out. -/
theorem sum_sub_mean {points : List (K × K)}
    (hlength : (points.length : K) ≠ 0) (f : K × K → K) :
    (points.map fun p => f p - mean (points.map f)).sum = 0 := by
  rw [sum_sub]
  unfold mean
  rw [List.length_map, mul_div_cancel₀ _ hlength, sub_self]

/-- How much more than the best line another misses. -/
theorem squaredError_sub {points : List (K × K)}
    (hlength : (points.length : K) ≠ 0) (hspread : spread points ≠ 0)
    (a b : K) :
    squaredError points Prod.snd (line a b)
        - squaredError points Prod.snd (line (slope points) (intercept points))
      = spread points * (a - slope points) ^ 2
        + points.length * (b + a * meanX points - meanY points) ^ 2 := by
  have hx : (points.map fun p => p.1 - meanX points).sum = 0 :=
    sum_sub_mean hlength Prod.fst
  have hy : (points.map fun p => p.2 - meanY points).sum = 0 :=
    sum_sub_mean hlength Prod.snd
  have hslope : (points.map fun p =>
      (p.1 - meanX points) * (p.2 - meanY points)).sum
        = slope points * spread points := by
    unfold slope
    rw [div_mul_cancel₀ _ hspread]
  rw [squaredError_line points a b (meanX points) (meanY points),
    squaredError_line points _ _ (meanX points) (meanY points), hx, hy, hslope]
  unfold intercept
  rw [show (points.map fun p => (p.1 - meanX points) ^ 2).sum = spread points
    from rfl]
  ring

-- ============================================================ the minima

variable [LinearOrder K] [IsStrictOrderedRing K] {samples : List α}
  {observed predicted : α → K}

theorem squaredError_nonneg : 0 ≤ squaredError samples observed predicted := by
  refine List.sum_nonneg fun x hx => ?_
  obtain ⟨s, -, rfl⟩ := List.mem_map.mp hx
  exact sq_nonneg _

/-- Nothing is missed just where every prediction is right. -/
theorem squaredError_eq_zero_iff :
    squaredError samples observed predicted = 0
      ↔ ∀ s ∈ samples, predicted s = observed s := by
  induction samples with
  | nil => simp [squaredError]
  | cons s samples ih =>
      have hsum : squaredError (s :: samples) observed predicted
          = (observed s - predicted s) ^ 2
            + squaredError samples observed predicted := by
        simp [squaredError]
      rw [hsum, add_eq_zero_iff_of_nonneg (sq_nonneg _) squaredError_nonneg, ih,
        List.forall_mem_cons, sq_eq_zero_iff, sub_eq_zero, eq_comm]

/-- The best of a family is right wherever one of the family is. -/
theorem exact_of_best {best other : α → K}
    (hbest : squaredError samples observed best
      ≤ squaredError samples observed other)
    (hother : ∀ s ∈ samples, other s = observed s) :
    ∀ s ∈ samples, best s = observed s := by
  rw [squaredError_eq_zero_iff.mpr hother] at hbest
  exact squaredError_eq_zero_iff.mp (le_antisymm hbest squaredError_nonneg)

section Lines

variable {points : List (K × K)}

theorem length_pos_of_spread (h : 0 < spread points) :
    (0 : K) < points.length := by
  cases points with
  | nil => simp [spread] at h
  | cons p points => exact Nat.cast_pos.mpr (Nat.succ_pos _)

/-- No line misses less. -/
theorem line_minimises (h : 0 < spread points) (a b : K) :
    squaredError points Prod.snd (line (slope points) (intercept points))
      ≤ squaredError points Prod.snd (line a b) := by
  have hlength := length_pos_of_spread h
  rw [← sub_nonneg, squaredError_sub (ne_of_gt hlength) (ne_of_gt h)]
  exact add_nonneg (mul_nonneg (le_of_lt h) (sq_nonneg _))
    (mul_nonneg (le_of_lt hlength) (sq_nonneg _))

/-- Points of one line have no other. -/
theorem line_of_exact (h : 0 < spread points) {a b : K}
    (hexact : ∀ p ∈ points, line a b p = p.2) :
    slope points = a ∧ intercept points = b := by
  have hlength := length_pos_of_spread h
  have hnone := squaredError_eq_zero_iff.mpr hexact
  have hbest := exact_of_best (line_minimises h a b) hexact
  have hsub := squaredError_sub (ne_of_gt hlength) (ne_of_gt h) a b
  rw [hnone, squaredError_eq_zero_iff.mpr hbest, sub_zero] at hsub
  have hparts := (add_eq_zero_iff_of_nonneg
    (mul_nonneg (le_of_lt h) (sq_nonneg (a - slope points)))
    (mul_nonneg (le_of_lt hlength)
      (sq_nonneg (b + a * meanX points - meanY points)))).mp hsub.symm
  have hslope : a = slope points := by
    have hsq := (mul_eq_zero.mp hparts.1).resolve_left (ne_of_gt h)
    exact sub_eq_zero.mp (sq_eq_zero_iff.mp hsq)
  have hintercept : b + a * meanX points - meanY points = 0 := by
    have hsq := (mul_eq_zero.mp hparts.2).resolve_left (ne_of_gt hlength)
    exact sq_eq_zero_iff.mp hsq
  refine ⟨hslope.symm, ?_⟩
  unfold intercept
  rw [← hslope]
  linear_combination -hintercept

/-- Two points apart are enough. -/
theorem spread_pos {p q : K × K} (hp : p ∈ points) (hq : q ∈ points)
    (hne : p.1 ≠ q.1) : 0 < spread points := by
  have hnonneg : ∀ x ∈ points.map fun p => (p.1 - meanX points) ^ 2, 0 ≤ x := by
    intro x hx
    obtain ⟨r, -, rfl⟩ := List.mem_map.mp hx
    exact sq_nonneg _
  have hle : ∀ r ∈ points, (r.1 - meanX points) ^ 2 ≤ spread points :=
    fun r hr => List.single_le_sum hnonneg _ (List.mem_map.mpr ⟨r, hr, rfl⟩)
  refine lt_of_le_of_ne (List.sum_nonneg hnonneg) fun hzero => hne ?_
  have hmean : ∀ r ∈ points, r.1 = meanX points := by
    intro r hr
    have hsq := le_antisymm ((hle r hr).trans (le_of_eq hzero.symm)) (sq_nonneg _)
    exact sub_eq_zero.mp (sq_eq_zero_iff.mp hsq)
  rw [hmean p hp, hmean q hq]

end Lines

end Regression
