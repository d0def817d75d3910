/-
A window over a growing list: its last `n` elements (`List.rtake n`). The
next window is known from the window and the new element alone
(`rtake_concat_rtake`), which is what a queue of bounded length keeps.
-/
import Mathlib.Data.List.DropRight

namespace Window

variable {α : Type*}

theorem length_rtake (l : List α) (n : ℕ) :
    (l.rtake n).length = min l.length n := by
  rw [List.rtake, List.length_drop]
  omega

/-- The next window, from the window and what is new. -/
theorem rtake_concat_rtake (l : List α) (x : α) (n : ℕ) :
    (l.rtake n ++ [x]).rtake n = (l ++ [x]).rtake n := by
  have hdropped : l.length - n ≤ l.length := Nat.sub_le _ _
  show ((l.drop (l.length - n) ++ [x]).drop
    ((l.drop (l.length - n) ++ [x]).length - n)) = _
  rw [← List.drop_append_of_le_length hdropped, List.drop_drop,
    List.length_drop]
  show _ = (l ++ [x]).drop ((l ++ [x]).length - n)
  rw [List.length_append, List.length_singleton]
  congr 1
  omega

/-- A window that is longer than the list shows all of it. -/
theorem rtake_min_length (l : List α) (n : ℕ) :
    l.rtake (min l.length n) = l.rtake n := by
  unfold List.rtake
  congr 1
  omega

theorem mem_of_mem_rtake {l : List α} {n : ℕ} {x : α} (h : x ∈ l.rtake n) :
    x ∈ l :=
  List.mem_of_mem_drop h

end Window
