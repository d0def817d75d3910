/-
Least squares for a line through the origin: samples `(x, y)` and the one
parameter `s` of `y = s * x`.

The residual is a parabola in `s` (`residual_eq`) with its vertex at
`momentXY / momentXX` (`residual_sub`), which is where it is least
(`ratio_minimises`). Where no `x` and no `y` is negative the vertex is not
negative either (`ratio_nonneg`), so cutting it off at zero changes
nothing.
-/
import Mathlib.Algebra.BigOperators.Group.List.Basic
import Mathlib.Algebra.Order.BigOperators.Group.List
import Mathlib.Algebra.Order.Field.Basic
import Mathlib.Tactic.FieldSimp
import Mathlib.Tactic.Ring

namespace LeastSquares

variable {K : Type*} [Field K]

-- ============================================================== moments

/-- The sum of `x * x`. -/
def momentXX (samples : List (K × K)) : K :=
  (samples.map fun p => p.1 * p.1).sum

/-- The sum of `x * y`. -/
def momentXY (samples : List (K × K)) : K :=
  (samples.map fun p => p.1 * p.2).sum

/-- The sum of `y * y`. -/
def momentYY (samples : List (K × K)) : K :=
  (samples.map fun p => p.2 * p.2).sum

/-- The sum of squared errors of a slope. -/
def residual (samples : List (K × K)) (s : K) : K :=
  (samples.map fun p => (p.2 - s * p.1) ^ 2).sum

/-- The residual is a parabola. -/
theorem residual_eq (samples : List (K × K)) (s : K) :
    residual samples s
      = momentYY samples - 2 * s * momentXY samples
        + s ^ 2 * momentXX samples := by
  induction samples with
  | nil => simp [residual, momentXX, momentXY, momentYY]
  | cons p samples ih =>
      simp only [residual, momentXX, momentXY, momentYY, List.map_cons,
        List.sum_cons] at ih ⊢
      rw [ih]
      ring

/-- How far a slope is above the vertex. -/
theorem residual_sub {samples : List (K × K)} (h : momentXX samples ≠ 0)
    (s : K) :
    residual samples s
        - residual samples (momentXY samples / momentXX samples)
      = momentXX samples * (s - momentXY samples / momentXX samples) ^ 2 := by
  rw [residual_eq, residual_eq]
  field_simp
  ring

-- ============================================================ the minima

variable [LinearOrder K] [IsStrictOrderedRing K]

theorem momentXX_nonneg (samples : List (K × K)) : 0 ≤ momentXX samples := by
  refine List.sum_nonneg fun x hx => ?_
  obtain ⟨p, -, rfl⟩ := List.mem_map.mp hx
  exact mul_self_nonneg p.1

/-- One sample that is not at the origin is enough. -/
theorem momentXX_pos {samples : List (K × K)} {p : K × K} (hp : p ∈ samples)
    (hx : p.1 ≠ 0) : 0 < momentXX samples := by
  induction samples with
  | nil => cases hp
  | cons q samples ih =>
      have hrest : 0 ≤ momentXX samples := momentXX_nonneg samples
      have hhead : 0 ≤ q.1 * q.1 := mul_self_nonneg q.1
      have hcons : momentXX (q :: samples) = q.1 * q.1 + momentXX samples := by
        simp [momentXX]
      rw [hcons]
      rcases List.mem_cons.mp hp with rfl | hp
      · exact add_pos_of_pos_of_nonneg (mul_self_pos.mpr hx) hrest
      · exact add_pos_of_nonneg_of_pos hhead (ih hp)

theorem momentXY_nonneg {samples : List (K × K)}
    (h : ∀ p ∈ samples, 0 ≤ p.1 ∧ 0 ≤ p.2) : 0 ≤ momentXY samples := by
  refine List.sum_nonneg fun x hx => ?_
  obtain ⟨p, hp, rfl⟩ := List.mem_map.mp hx
  exact mul_nonneg (h p hp).1 (h p hp).2

theorem ratio_nonneg {samples : List (K × K)}
    (h : ∀ p ∈ samples, 0 ≤ p.1 ∧ 0 ≤ p.2) :
    0 ≤ momentXY samples / momentXX samples :=
  div_nonneg (momentXY_nonneg h) (momentXX_nonneg samples)

/-- The vertex is the least residual. -/
theorem ratio_minimises {samples : List (K × K)} (h : 0 < momentXX samples)
    (s : K) :
    residual samples (momentXY samples / momentXX samples)
      ≤ residual samples s := by
  rw [← sub_nonneg, residual_sub (ne_of_gt h)]
  exact mul_nonneg (le_of_lt h) (sq_nonneg _)

end LeastSquares
