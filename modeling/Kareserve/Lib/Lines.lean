/-
A stream of bytes as lines: what each separator ends, and what is left
open at the end.

`lines` is read off the whole stream. What a reader of the stream does is
cut off one line at a time at the first separator (`split_of_idxOf`), on
whatever it has of the stream so far: `split_append` says that this gives
the lines of the whole stream, as long as the open end is kept for the
next read.
-/
import Mathlib.Algebra.GroupWithZero.Nat
import Mathlib.Data.List.Basic

namespace Lines

variable {α : Type*}

/-- What a list of ended lines takes of the stream. -/
def extent (lines : List (List α)) : ℕ :=
  (lines.map fun line => line.length + 1).sum

@[simp] theorem extent_nil : extent ([] : List (List α)) = 0 := rfl

@[simp] theorem extent_cons (line : List α) (lines : List (List α)) :
    extent (line :: lines) = line.length + 1 + extent lines := rfl

@[simp] theorem extent_append (ls ls' : List (List α)) :
    extent (ls ++ ls') = extent ls + extent ls' := by
  unfold extent
  rw [List.map_append, List.sum_append]

variable [DecidableEq α] (sep : α)

/-- The ended lines of a stream, without their separators, and its open
end. -/
def split : List α → List (List α) × List α
  | [] => ([], [])
  | a :: stream =>
      if a = sep then ([] :: (split stream).1, (split stream).2)
      else
        match (split stream).1 with
        | [] => ([], a :: (split stream).2)
        | line :: lines => ((a :: line) :: lines, (split stream).2)

/-- The ended lines. -/
def lines (stream : List α) : List (List α) := (split sep stream).1

/-- The open end. -/
def rest (stream : List α) : List α := (split sep stream).2

variable {sep}

theorem split_cons_sep (stream : List α) :
    split sep (sep :: stream)
      = ([] :: lines sep stream, rest sep stream) := by
  rw [split, if_pos rfl]
  rfl

theorem split_cons_of_ne {a : α} (h : a ≠ sep) (stream : List α) :
    split sep (a :: stream)
      = match lines sep stream with
        | [] => ([], a :: rest sep stream)
        | line :: ls => ((a :: line) :: ls, rest sep stream) := by
  rw [split, if_neg h]
  rfl

/-- With more of the stream, the lines that were ended stay as they are and
the open end goes on. -/
theorem split_append (x y : List α) :
    split sep (x ++ y)
      = (lines sep x ++ lines sep (rest sep x ++ y),
        rest sep (rest sep x ++ y)) := by
  induction x with
  | nil => rfl
  | cons a x ih =>
      by_cases ha : a = sep
      · subst ha
        rw [List.cons_append, split_cons_sep, lines, rest, ih]
        unfold lines rest
        rw [split_cons_sep]
        rfl
      · rw [List.cons_append, split_cons_of_ne ha, lines, rest, ih]
        unfold lines rest
        rw [split_cons_of_ne ha]
        unfold lines rest
        cases hx : (split sep x).1 with
        | nil =>
            dsimp only [List.nil_append]
            rw [List.cons_append, split_cons_of_ne ha]
            unfold lines rest
            rfl
        | cons line ls => rfl

/-- The lines of two pieces: those of the first, and those of what it left
open followed by the second. -/
theorem lines_append (x y : List α) :
    lines sep (x ++ y) = lines sep x ++ lines sep (rest sep x ++ y) := by
  rw [lines, split_append]

/-- Without a separator there is nothing but an open end. -/
theorem split_of_not_mem {stream : List α} (h : sep ∉ stream) :
    split sep stream = ([], stream) := by
  induction stream with
  | nil => rfl
  | cons a stream ih =>
      rw [List.mem_cons, not_or] at h
      rw [split_cons_of_ne (Ne.symm h.1), lines, rest, ih h.2]

/-- Without a separator there is no whole line. -/
theorem lines_of_not_mem {stream : List α} (h : sep ∉ stream) :
    lines sep stream = [] := by
  rw [lines, split_of_not_mem h]

/-- The first separator ends the first line. -/
theorem split_first {line : List α} (h : sep ∉ line) (stream : List α) :
    split sep (line ++ sep :: stream)
      = (line :: lines sep stream, rest sep stream) := by
  induction line with
  | nil => exact split_cons_sep stream
  | cons a line ih =>
      rw [List.mem_cons, not_or] at h
      rw [List.cons_append, split_cons_of_ne (Ne.symm h.1), lines, rest,
        ih h.2]

/-- The open rest of a text has no separator. -/
theorem not_mem_rest (stream : List α) : sep ∉ rest sep stream := by
  induction stream with
  | nil => exact List.not_mem_nil
  | cons a stream ih =>
      by_cases ha : a = sep
      · subst ha
        rw [rest, split_cons_sep]
        exact ih
      · rw [rest, split_cons_of_ne ha]
        cases lines sep stream with
        | nil =>
            rw [List.mem_cons, not_or]
            exact ⟨Ne.symm ha, ih⟩
        | cons line ls => exact ih

/-- Lines and open end make up the stream. -/
theorem extent_add_length_rest (stream : List α) :
    extent (lines sep stream) + (rest sep stream).length = stream.length := by
  induction stream with
  | nil => rfl
  | cons a stream ih =>
      unfold lines rest
      by_cases ha : a = sep
      · subst ha
        rw [split_cons_sep]
        simp only [extent_cons, List.length_nil, List.length_cons]
        omega
      · rw [split_cons_of_ne ha]
        cases hlines : lines sep stream with
        | nil =>
            rw [hlines] at ih
            simp only [extent_nil, List.length_cons] at ih ⊢
            omega
        | cons line ls =>
            rw [hlines] at ih
            simp only [extent_cons, List.length_cons] at ih ⊢
            omega

/-- An open end is part of the line that ends it. -/
theorem length_le_of_lines_append {x y line : List α} {ls : List (List α)}
    (hx : sep ∉ x) (h : lines sep (x ++ y) = line :: ls) :
    x.length ≤ line.length := by
  induction x generalizing line ls with
  | nil => exact Nat.zero_le _
  | cons a x ih =>
      rw [List.mem_cons, not_or] at hx
      rw [List.cons_append, lines, split_cons_of_ne (Ne.symm hx.1)] at h
      cases hlines : lines sep (x ++ y) with
      | nil =>
          rw [hlines] at h
          cases h
      | cons line' ls' =>
          rw [hlines] at h
          have hle := ih hx.2 hlines
          simp only [List.cons.injEq] at h
          rw [← h.1, List.length_cons, List.length_cons]
          omega

-- ========================================================= one at a time

/-- What comes before the first separator. -/
theorem split_of_idxOf {stream : List α} {i : ℕ}
    (h : stream.idxOf? sep = some i) :
    split sep stream
      = (stream.take i :: lines sep (stream.drop (i + 1)),
        rest sep (stream.drop (i + 1))) := by
  induction stream generalizing i with
  | nil => cases h
  | cons a stream ih =>
      rw [List.idxOf?_cons] at h
      by_cases ha : a = sep
      · subst ha
        simp only [beq_self_eq_true, if_true, Option.some.injEq] at h
        subst h
        exact split_cons_sep stream
      · simp only [beq_iff_eq, ha, if_false, Option.map_eq_some_iff] at h
        obtain ⟨j, hj, rfl⟩ := h
        rw [split_cons_of_ne ha, lines, rest, ih hj]
        rfl

/-- `find` that finds nothing leaves all of it open. -/
theorem split_of_idxOf_eq_none {stream : List α}
    (h : stream.idxOf? sep = none) : split sep stream = ([], stream) :=
  split_of_not_mem (List.idxOf?_eq_none_iff.mp h)

end Lines
