/-
Scanning text with patterns: munches, `search`, and `findall` of a pattern
that starts at a line start.

A pattern is a function from the text at a position to the capture and what
follows the match. `findAllFrom` walks the text once, as a regular
expression engine does: the match at a line start that is found first is
taken, and the walk goes on behind it.

# By lines

A match may in general run over line ends. On a text all of whose lines
are matched up to their end or not at all, `findall` is the list of the
lines' captures (`findAll_lines`).
-/
import Mathlib.Data.List.Infix
import Mathlib.Data.List.Basic

namespace Scan

variable {α β γ : Type*}

-- =============================================================== munches

/-- The text does not go on with an element of `p`. -/
def Stops (p : α → Bool) (text : List α) : Prop :=
  ∀ a ∈ text.head?, p a = false

theorem stops_nil (p : α → Bool) : Stops p [] := by
  intro a ha
  cases ha

theorem stops_cons {p : α → Bool} {a : α} {text : List α} :
    Stops p (a :: text) ↔ p a = false := by
  constructor
  · intro h
    exact h a rfl
  · intro h b hb
    injection hb with hb
    rw [← hb]
    exact h

/-- A text that goes on with one of two texts. -/
theorem Stops.append {p : α → Bool} {l r : List α}
    (hl : ∀ a ∈ l, p a = false) (hr : Stops p r) : Stops p (l ++ r) := by
  cases l with
  | nil => exact hr
  | cons a l => exact stops_cons.mpr (hl a (List.mem_cons_self ..))

/-- The longest run of `p` ends where the text stops. -/
theorem takeWhile_of_stops {p : α → Bool} {l r : List α} (hl : ∀ a ∈ l, p a)
    (hr : Stops p r) : (l ++ r).takeWhile p = l := by
  rw [List.takeWhile_append_of_pos hl]
  cases r with
  | nil => exact List.append_nil l
  | cons a r =>
      rw [List.takeWhile_cons_of_neg (by rw [stops_cons.mp hr]; decide)]
      exact List.append_nil l

theorem dropWhile_of_stops {p : α → Bool} {l r : List α} (hl : ∀ a ∈ l, p a)
    (hr : Stops p r) : (l ++ r).dropWhile p = r := by
  rw [List.dropWhile_append_of_pos hl]
  cases r with
  | nil => rfl
  | cons a r =>
      exact List.dropWhile_cons_of_neg (by rw [stops_cons.mp hr]; decide)

/-- A run cannot go past an element that is not in `p`. -/
theorem dropWhile_append_cons {p : α → Bool} {a : α} (ha : p a = false)
    (l r : List α) :
    (l ++ a :: r).dropWhile p = l.dropWhile p ++ a :: r := by
  rw [List.dropWhile_append]
  split
  · rename_i h
    rw [List.isEmpty_iff.mp h,
      List.dropWhile_cons_of_neg (by rw [ha]; decide)]
    rfl
  · rfl

-- ============================================================== literals

section Literal

variable [DecidableEq α]

/-- A literal at a position. -/
theorem dropPrefix_eq_some {text literal rest : List α} :
    text.dropPrefix? literal = some rest ↔ text = literal ++ rest := by
  rw [List.dropPrefix?_eq_some_iff]
  constructor
  · rintro ⟨literal', heq, hbeq⟩
    rw [← eq_of_beq hbeq]
    exact heq
  · intro heq
    exact ⟨literal, heq, beq_self_eq_true literal⟩

theorem dropPrefix_append (literal rest : List α) :
    (literal ++ rest).dropPrefix? literal = some rest :=
  dropPrefix_eq_some.mpr rfl

/-- A literal that starts with another element. -/
theorem dropPrefix_of_head {a b : α} (h : a ≠ b) (text literal : List α) :
    (a :: text).dropPrefix? (b :: literal) = none := by
  rw [List.dropPrefix?, if_neg (by simpa using h)]

/-- A literal of elements of `p`, before a text that starts with none or
goes on behind a run of them. -/
theorem dropPrefix_run {p : α → Bool} {run rest literal : List α}
    (hliteral : ∀ a ∈ literal, p a) (hrest : Stops p rest) :
    (run ++ rest).dropPrefix? literal
      = (run.dropPrefix? literal).map (· ++ rest) := by
  induction literal generalizing run with
  | nil => rw [List.dropPrefix?_nil, List.dropPrefix?_nil, Option.map_some]
  | cons a literal ih =>
      cases run with
      | nil =>
          cases rest with
          | nil => rfl
          | cons b rest =>
              have ha : p a = true := hliteral a (List.mem_cons_self ..)
              have hb : p b = false := stops_cons.mp hrest
              refine dropPrefix_of_head ?_ rest literal
              rintro rfl
              rw [ha] at hb
              cases hb
      | cons b run =>
          rw [List.cons_append, List.dropPrefix?, List.dropPrefix?]
          split
          · exact ih fun c hc => hliteral c (List.mem_cons_of_mem _ hc)
          · rfl

end Literal

-- ================================================================ search

/-- The match of a pattern at the first position that has one. -/
def search (m : List α → Option β) : List α → Option β
  | [] => m []
  | a :: text => (m (a :: text)).or (search m text)

theorem search_of_none {m : List α → Option β} {a : α} {text : List α}
    (h : m (a :: text) = none) : search m (a :: text) = search m text := by
  rw [search, h, Option.none_or]

theorem search_of_some {m : List α → Option β} {a : α} {text : List α} {b : β}
    (h : m (a :: text) = some b) : search m (a :: text) = some b := by
  rw [search, h, Option.some_or]

/-- A part of the text at none of whose positions the pattern matches. -/
theorem search_append {m : List α → Option β} {l : List α} (r : List α)
    (h : ∀ a l', (a :: l') <:+ l → m (a :: l' ++ r) = none) :
    search m (l ++ r) = search m r := by
  induction l with
  | nil => rfl
  | cons a l ih =>
      have hnone := h a l (List.suffix_refl _)
      rw [List.cons_append] at hnone ⊢
      rw [search_of_none hnone]
      exact ih fun b l' hl' =>
        h b l' (hl'.trans (List.suffix_cons _ _))

-- =============================================================== findall

section FindAll

variable [DecidableEq α] (m : List α → Option (β × List α)) (sep : α)

/-- The matches from a position on, the first `skip` elements of which
belong to a match already taken. -/
def findAllFrom : ℕ → Bool → List α → List β
  | _, _, [] => []
  | skip + 1, _, a :: text => findAllFrom skip (decide (a = sep)) text
  | 0, false, a :: text => findAllFrom 0 (decide (a = sep)) text
  | 0, true, a :: text =>
      match m (a :: text) with
      | some (capture, rest) =>
          capture :: findAllFrom (text.length - rest.length)
            (decide (a = sep)) text
      | none => findAllFrom 0 (decide (a = sep)) text

/-- All matches at line starts, none overlapping another. -/
def findAll (text : List α) : List β := findAllFrom m sep 0 true text

variable {m sep}

/-- Inside a line. -/
theorem findAllFrom_line {line : List α} (hline : sep ∉ line) {skip : ℕ}
    (hskip : skip ≤ line.length) (rest : List α) :
    findAllFrom m sep skip false (line ++ sep :: rest)
      = findAllFrom m sep 0 true rest := by
  induction line generalizing skip with
  | nil =>
      rw [Nat.le_zero.mp hskip, List.nil_append, findAllFrom, decide_eq_true rfl]
  | cons a line ih =>
      rw [List.mem_cons, not_or] at hline
      have ha : decide (a = sep) = false := decide_eq_false (Ne.symm hline.1)
      cases skip with
      | zero =>
          rw [List.cons_append, findAllFrom, ha]
          exact ih hline.2 (Nat.zero_le _)
      | succ skip =>
          rw [List.cons_append, findAllFrom, ha]
          exact ih hline.2 (Nat.le_of_succ_le_succ hskip)

/-- A line that is not matched. -/
theorem findAll_line_none {line : List α} (hline : sep ∉ line) {rest : List α}
    (h : m (line ++ sep :: rest) = none) :
    findAll m sep (line ++ sep :: rest) = findAll m sep rest := by
  unfold findAll
  cases line with
  | nil =>
      rw [List.nil_append] at h ⊢
      rw [findAllFrom, h, decide_eq_true rfl]
  | cons a line =>
      rw [List.mem_cons, not_or] at hline
      rw [List.cons_append] at h ⊢
      rw [findAllFrom, h, decide_eq_false (Ne.symm hline.1)]
      exact findAllFrom_line hline.2 (Nat.zero_le _) rest

/-- A line that is matched to its end. -/
theorem findAll_line_some {line : List α} (hline : sep ∉ line) {rest : List α}
    {capture : β} (h : m (line ++ sep :: rest) = some (capture, sep :: rest)) :
    findAll m sep (line ++ sep :: rest) = capture :: findAll m sep rest := by
  unfold findAll
  cases line with
  | nil =>
      rw [List.nil_append] at h ⊢
      rw [findAllFrom, h, decide_eq_true rfl]
      dsimp only
      rw [List.length_cons, Nat.sub_eq_zero_of_le (Nat.le_succ _)]
  | cons a line =>
      rw [List.mem_cons, not_or] at hline
      rw [List.cons_append] at h ⊢
      rw [findAllFrom, h, decide_eq_false (Ne.symm hline.1)]
      dsimp only
      rw [List.length_append, Nat.add_sub_cancel]
      rw [findAllFrom_line hline.2 (Nat.le_refl _) rest]

/-- A text of lines each of which is matched to its end or not at all. -/
theorem findAll_lines {lines : List γ} {text : γ → List α}
    {capture : γ → Option β} (hsep : ∀ line ∈ lines, sep ∉ text line)
    (h : ∀ line ∈ lines, ∀ rest, m (text line ++ sep :: rest)
      = (capture line).map fun b => (b, sep :: rest)) :
    findAll m sep (lines.flatMap fun line => text line ++ [sep])
      = lines.filterMap capture := by
  induction lines with
  | nil => rfl
  | cons line lines ih =>
      have hfirst := h line (List.mem_cons_self ..)
        (lines.flatMap fun line => text line ++ [sep])
      have hline := hsep line (List.mem_cons_self ..)
      have hrest := ih (fun l hl => hsep l (List.mem_cons_of_mem _ hl))
        fun l hl => h l (List.mem_cons_of_mem _ hl)
      rw [List.flatMap_cons, List.append_assoc, List.singleton_append]
      cases hcapture : capture line with
      | none =>
          rw [hcapture] at hfirst
          rw [findAll_line_none hline hfirst, hrest,
            List.filterMap_cons_none hcapture]
      | some b =>
          rw [hcapture] at hfirst
          rw [findAll_line_some hline hfirst, hrest,
            List.filterMap_cons_some hcapture]

end FindAll

end Scan
