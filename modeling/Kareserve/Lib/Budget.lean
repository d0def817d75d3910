/-
A budget that is drawn on past its end: a draw takes what it asks for or,
where less is left, all that is left. `granted` is what was asked for by
the draws that were covered in full when they were made. However the
draws come, it stays within the budget (`granted_le`).
-/
import Mathlib.Algebra.Order.Group.Defs
import Mathlib.Algebra.Order.Monoid.Unbundled.Basic
import Mathlib.Algebra.Order.Group.Unbundled.Basic

namespace Budget

variable {α : Type*} [AddCommGroup α] [LinearOrder α]

/-- What one draw leaves. -/
def draw (left amount : α) : α := max 0 (left - amount)

/-- What a list of draws leaves. -/
def remaining (budget : α) (draws : List α) : α := draws.foldl draw budget

/-- The sum of the draws that were covered. -/
def granted : α → List α → α
  | _, [] => 0
  | left, amount :: draws =>
      (if amount ≤ left then amount else 0) + granted (draw left amount) draws

@[simp] theorem granted_cons (left amount : α) (draws : List α) :
    granted left (amount :: draws)
      = (if amount ≤ left then amount else 0)
        + granted (draw left amount) draws := rfl

theorem draw_nonneg (left amount : α) : 0 ≤ draw left amount :=
  le_max_left _ _

theorem remaining_nonneg {budget : α} (h : 0 ≤ budget) (draws : List α) :
    0 ≤ remaining budget draws := by
  induction draws generalizing budget with
  | nil => exact h
  | cons amount draws ih => exact ih (draw_nonneg budget amount)

variable [IsOrderedAddMonoid α]

/-- A draw that is covered takes what it asks for, and one that is not
leaves nothing. -/
theorem draw_add_granted_le {left amount : α} (h : 0 ≤ left) :
    draw left amount + (if amount ≤ left then amount else 0) ≤ left := by
  unfold draw
  split
  case isTrue hle =>
    rw [max_eq_right (sub_nonneg.mpr hle), sub_add_cancel]
  case isFalse hlt =>
    have hnone : left - amount ≤ 0 :=
      sub_nonpos.mpr (le_of_lt (not_le.mp hlt))
    rw [max_eq_left hnone, add_zero]
    exact h

/-- What was granted and what is left never exceed the budget. -/
theorem granted_add_remaining_le {budget : α} (h : 0 ≤ budget)
    (draws : List α) :
    granted budget draws + remaining budget draws ≤ budget := by
  induction draws generalizing budget with
  | nil =>
      show 0 + budget ≤ budget
      rw [zero_add]
  | cons amount draws ih =>
      have hrest := ih (draw_nonneg budget amount)
      have hhead : draw budget amount
          + (if amount ≤ budget then amount else 0) ≤ budget :=
        draw_add_granted_le h
      calc granted budget (amount :: draws)
              + remaining budget (amount :: draws)
          = (if amount ≤ budget then amount else 0)
              + (granted (draw budget amount) draws
                + remaining (draw budget amount) draws) := add_assoc _ _ _
        _ ≤ (if amount ≤ budget then amount else 0) + draw budget amount :=
            add_le_add_right hrest _
        _ ≤ budget := by
            rw [add_comm]
            exact hhead

theorem granted_le {budget : α} (h : 0 ≤ budget) (draws : List α) :
    granted budget draws ≤ budget :=
  le_trans (le_add_of_nonneg_right (remaining_nonneg h draws))
    (granted_add_remaining_le h draws)

/-- A draw of something that is not negative leaves no more. -/
theorem draw_le {left amount : α} (hleft : 0 ≤ left) (hamount : 0 ≤ amount) :
    draw left amount ≤ left :=
  max_le hleft (sub_le_self left hamount)

end Budget
