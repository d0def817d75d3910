/-
Greedy balancing: units are given one at a time to a place that carries
least at that moment.

`Greedy places start chosen` says that every unit of `chosen` went where
the load was least among `places`. The load that counts is the one of the
moment: what the places carried at the start and the units given so far.
Nothing is asked of the start, nor that the chosen places are themselves
among `places`.

`Greedy.load_le` is the balance: a place that was given a unit carries at
most one more than any place. When it was given its last unit it was least,
and since then the others have only grown.
-/
import Mathlib.Algebra.Order.Ring.Nat
import Mathlib.Data.Nat.Cast.Order.Ring

namespace Greedy

variable {ι K : Type*} [DecidableEq ι]

/-- What a place carries once the units of `chosen` are given. -/
def load [AddMonoidWithOne K] (start : ι → K) (chosen : List ι) (i : ι) : K :=
  start i + (chosen.count i : K)

theorem load_snoc_self [AddMonoidWithOne K] (start : ι → K)
    (chosen : List ι) (i : ι) :
    load start (chosen ++ [i]) i = load start chosen i + 1 := by
  unfold load
  rw [List.count_append, List.count_singleton_self, Nat.cast_add,
    Nat.cast_one, add_assoc]

theorem load_snoc_of_ne [AddMonoidWithOne K] (start : ι → K)
    (chosen : List ι) {i j : ι} (h : i ≠ j) :
    load start (chosen ++ [i]) j = load start chosen j := by
  unfold load
  rw [List.count_append, List.count_singleton, if_neg (by simpa using h),
    Nat.add_zero]

variable [Ring K] [LinearOrder K] [IsStrictOrderedRing K]

/-- A unit lowers no load. -/
theorem load_le_snoc (start : ι → K) (chosen : List ι) (i j : ι) :
    load start chosen j ≤ load start (chosen ++ [i]) j := by
  by_cases h : i = j
  · rw [h, load_snoc_self]
    exact le_add_of_nonneg_right zero_le_one
  · rw [load_snoc_of_ne start chosen h]

end Greedy

/-- Every unit went to a least loaded place. -/
inductive Greedy {ι K : Type*} [DecidableEq ι] [AddMonoidWithOne K] [LE K]
    (places : Set ι) (start : ι → K) : List ι → Prop
  | nil : Greedy places start []
  | snoc {chosen : List ι} {i : ι} (before : Greedy places start chosen)
      (least : ∀ j ∈ places,
        Greedy.load start chosen i ≤ Greedy.load start chosen j) :
      Greedy places start (chosen ++ [i])

namespace Greedy

variable {ι K : Type*} [DecidableEq ι] [Ring K] [LinearOrder K]
  [IsStrictOrderedRing K] {places : Set ι} {start : ι → K} {chosen : List ι}

/-- A place that was given a unit carries at most one more than any. -/
theorem load_le (h : Greedy places start chosen) {i j : ι}
    (hi : i ∈ chosen) (hj : j ∈ places) :
    load start chosen i ≤ load start chosen j + 1 := by
  induction h with
  | nil => cases hi
  | @snoc chosen k before least ih =>
      have hgrown : load start chosen j + 1
          ≤ load start (chosen ++ [k]) j + 1 :=
        add_le_add_left (load_le_snoc start chosen k j) 1
      refine le_trans ?_ hgrown
      by_cases hk : k = i
      · -- the last unit: before it the place was least
        subst hk
        rw [load_snoc_self]
        exact add_le_add_left (least j hj) 1
      · -- an earlier unit: the place has not grown since
        rw [load_snoc_of_ne start chosen hk]
        refine ih ?_
        rcases List.mem_append.mp hi with hi | hi
        · exact hi
        · exact absurd (List.mem_singleton.mp hi).symm hk

end Greedy
