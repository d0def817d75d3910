/-
The text format metrics are exposed in, without timestamps: pages as their
lines, with every spelling the format allows, and the text of a page.

Blanks may stand between any two tokens of a sample. A label value is any
text; in the page its backslashes, quotes and line ends are escaped, so no
text of a line has a line end and the quote that closes a value is the
first that no backslash precedes.
-/
import Kareserve.Lib.PyFloat

namespace Exposition

-- ================================================================ tokens

/-- A blank of the format. -/
def isBlank (c : Char) : Bool := c = ' ' || c = '\t'

/-- The characters of a metric name. -/
def isNameChar (c : Char) : Bool := c.isAlphanum || c = '_' || c = ':'

/-- The characters of a label name. -/
def isLabelChar (c : Char) : Bool := c.isAlphanum || c = '_'

/-- A run of blanks. -/
structure Blanks where
  text : List Char
  chars : ∀ c ∈ text, isBlank c

def Blanks.none : Blanks := ⟨[], List.forall_mem_nil _⟩

/-- A name of characters of `p`; it does not start with a digit. -/
structure Name (p : Char → Bool) where
  text : List Char
  ne_nil : text ≠ []
  start : ∀ c ∈ text.head?, c.isDigit = false
  chars : ∀ c ∈ text, p c

/-- The characters of a value. -/
def isValueChar (c : Char) : Bool := c.isAlphanum || c ∈ ['+', '-', '.', '_']

/-- A number that is no decimal: a hexadecimal one, an infinity, NaN. -/
structure Word where
  text : List Char
  chars : ∀ c ∈ text, isValueChar c
  letter : ∃ c ∈ text, c.isAlpha ∧ c ≠ 'e' ∧ c ≠ 'E'

/-- The value of a sample. -/
inductive Value where
  | decimal (d : PyJson.Decimal)
  /-- With what it stands for, if that is a number. -/
  | word (w : Word) (number : Option ℚ)

/-- How a value is written. -/
def Value.text : Value → List Char
  | .decimal d => d.text
  | .word w _ => w.text

/-- The number it stands for, if it is one. -/
def Value.number : Value → Option ℚ
  | .decimal d => some d.value
  | .word _ number => number

-- ================================================================ labels

/-- How a character of a label is written. -/
def escapeChar (c : Char) : List Char :=
  if c = '\\' then ['\\', '\\']
  else if c = '"' then ['\\', '"']
  else if c = '\n' then ['\\', 'n']
  else [c]

def escape (value : List Char) : List Char := value.flatMap escapeChar

/-- `name="value"`, with the blanks around its tokens. -/
structure Label where
  lead : Blanks
  name : Name isLabelChar
  beforeEquals : Blanks
  afterEquals : Blanks
  value : List Char
  trail : Blanks

/-- From the quote that opens the value on. -/
def Label.quoted (l : Label) : List Char :=
  '"' :: (escape l.value ++ '"' :: l.trail.text)

/-- How a label is written, with the blanks the format allows. -/
def Label.text (l : Label) : List Char :=
  l.lead.text ++ (l.name.text ++ (l.beforeEquals.text
    ++ '=' :: (l.afterEquals.text ++ l.quoted)))

/-- Labels with their commas, before the text that ends them. -/
def labelsText : List Label → List Char → List Char
  | [], tail => tail
  | [l], tail => l.text ++ tail
  | l :: l' :: ls, tail => l.text ++ ',' :: labelsText (l' :: ls) tail

/-- The labels of a sample in their braces. -/
structure Braces where
  gap : Blanks
  labels : List Label
  comma : Bool
  tail : Blanks
  comma_labels : comma → labels ≠ []

/-- What is between the braces. -/
def Braces.inside (b : Braces) : List Char :=
  labelsText b.labels ((if b.comma then [','] else []) ++ b.tail.text)

-- ================================================================= pages

/-- A sample: a name, labels perhaps, a value, and a time stamp perhaps. -/
structure Sample where
  lead : Blanks
  name : Name isNameChar
  braces : Option Braces
  gap : Blanks
  value : Value
  trail : Blanks
  separated : braces = none → gap.text ≠ []

/-- From the blanks before the value on. -/
def Sample.valueText (s : Sample) : List Char :=
  s.gap.text ++ (s.value.text ++ s.trail.text)

/-- From the end of the name on. -/
def Sample.tail (s : Sample) : List Char :=
  match s.braces with
  | none => s.valueText
  | some b => b.gap.text ++ '{' :: (b.inside ++ '}' :: s.valueText)

/-- How it is written. -/
def Sample.text (s : Sample) : List Char :=
  s.lead.text ++ (s.name.text ++ s.tail)

def Sample.labels (s : Sample) : List Label :=
  s.braces.elim [] Braces.labels

/-- A line of a page. -/
inductive Line where
  | blank (blanks : Blanks)
  | comment (lead : Blanks) (text : List Char) (closed : '\n' ∉ text)
  | sample (s : Sample)

/-- How it is written, without its newline. -/
def Line.text : Line → List Char
  | .blank blanks => blanks.text
  | .comment lead text _ => lead.text ++ '#' :: text
  | .sample s => s.text

/-- The sample of a line, if it has one. -/
def Line.sample? : Line → Option Sample
  | .sample s => some s
  | _ => none

/-- The text of a page; each line is ended. -/
def pageText (lines : List Line) : List Char :=
  lines.flatMap fun line => line.text ++ ['\n']

/-- The samples of a page. -/
def samples (lines : List Line) : List Sample := lines.filterMap Line.sample?

-- ============================================================ characters

theorem not_nameChar_of_isBlank {c : Char} (h : isBlank c) :
    isNameChar c = false := by
  unfold isBlank at h
  rw [Bool.or_eq_true, decide_eq_true_eq, decide_eq_true_eq] at h
  rcases h with rfl | rfl <;> decide

theorem not_labelChar_of_isBlank {c : Char} (h : isBlank c) :
    isLabelChar c = false := by
  unfold isBlank at h
  rw [Bool.or_eq_true, decide_eq_true_eq, decide_eq_true_eq] at h
  rcases h with rfl | rfl <;> decide

/-- A character that no blanks have. -/
theorem Blanks.not_mem (b : Blanks) {c : Char} (h : isBlank c = false) :
    c ∉ b.text := by
  intro hc
  rw [b.chars c hc] at h
  cases h

/-- Before a text that starts with no blank there are no blanks. -/
theorem Blanks.eq_nil {b : Blanks} {c : Char} (hc : isBlank c = false)
    {text rest : List Char} (h : b.text ++ text = c :: rest) : b.text = [] := by
  cases hblanks : b.text with
  | nil => rfl
  | cons c' blanks =>
      rw [hblanks] at h
      injection h with h _
      have hmem : c ∈ b.text := by
        rw [hblanks, h]
        exact List.mem_cons_self ..
      exact absurd hmem (b.not_mem hc)

/-- Blanks that there are start with a blank. -/
theorem Blanks.stops {b : Blanks} (hne : b.text ≠ []) {p : Char → Bool}
    (hp : ∀ c, isBlank c → p c = false) (rest : List Char) :
    Scan.Stops p (b.text ++ rest) := by
  cases htext : b.text with
  | nil => exact absurd htext hne
  | cons c text =>
      refine Scan.stops_cons.mpr (hp c (b.chars c ?_))
      rw [htext]
      exact List.mem_cons_self ..

theorem Name.not_mem {p : Char → Bool} (n : Name p) {c : Char}
    (h : p c = false) : c ∉ n.text := by
  intro hc
  rw [n.chars c hc] at h
  cases h

theorem escape_cons (c : Char) (value : List Char) :
    escape (c :: value) = escapeChar c ++ escape value := rfl

/-- What escapes a character is that character or starts with a
backslash. -/
theorem escapeChar_cases (c : Char) :
    escapeChar c = [c] ∨ ∃ x, escapeChar c = ['\\', x] := by
  unfold escapeChar
  split
  · exact .inr ⟨_, rfl⟩
  split
  · exact .inr ⟨_, rfl⟩
  split
  · exact .inr ⟨_, rfl⟩
  · exact .inl rfl

/-- A literal without backslashes and quotes that has a quote behind it
takes the value up to the quote that closes it. -/
theorem escape_eq_literal {literal : List Char} (hquote : '"' ∉ literal)
    (hbackslash : '\\' ∉ literal) {value rest rest' : List Char}
    (h : escape value ++ '"' :: rest = literal ++ '"' :: rest') :
    rest' = rest := by
  induction literal generalizing value with
  | nil =>
      cases value with
      | nil =>
          injection h with _ h
          exact h.symm
      | cons c value =>
          -- an escaped character is itself, or begins with a backslash, and
          -- the literal has neither a quote nor a backslash
          rw [escape_cons, List.append_assoc] at h
          rcases escapeChar_cases c with hc | ⟨x, hc⟩
          · rw [hc] at h
            injection h with h _
            rw [h] at hc
            exact absurd hc (by decide)
          · rw [hc] at h
            injection h with h _
            exact absurd h (by decide)
  | cons p literal ih =>
      rw [List.mem_cons, not_or] at hquote hbackslash
      cases value with
      | nil =>
          injection h with h _
          exact absurd h hquote.1
      | cons c value =>
          rw [escape_cons, List.append_assoc] at h
          rcases escapeChar_cases c with hc | ⟨x, hc⟩
          · rw [hc] at h
            injection h with _ h
            exact ih hquote.2 hbackslash.2 h
          · rw [hc] at h
            injection h with h _
            exact absurd h hbackslash.1

/-- What an escaped label contains. -/
theorem mem_escape {c : Char} {value : List Char} (h : c ∈ escape value) :
    c ∈ value ∧ c ≠ '\n' ∨ c ∈ ['\\', 'n'] := by
  unfold escape at h
  obtain ⟨a, ha, hc⟩ := List.mem_flatMap.mp h
  unfold escapeChar at hc
  split at hc
  · exact .inr (by simp_all)
  split at hc
  · rename_i hquote
    rw [List.mem_cons, List.mem_singleton] at hc
    rcases hc with rfl | rfl
    · exact .inr (by decide)
    · exact .inl ⟨hquote ▸ ha, by decide⟩
  split at hc
  · exact .inr (by simpa using hc)
  · rename_i hnewline
    rw [List.mem_singleton] at hc
    exact .inl ⟨hc ▸ ha, hc ▸ hnewline⟩

theorem mem_escape_of_mem {c : Char} {value : List Char} (h : c ∈ value)
    (hne : c ≠ '\n') : c ∈ escape value := by
  unfold escape
  refine List.mem_flatMap.mpr ⟨c, h, ?_⟩
  unfold escapeChar
  split
  · rename_i heq
    rw [heq]
    exact List.mem_cons_self ..
  split
  · rename_i heq
    rw [heq]
    exact List.mem_cons_of_mem _ (List.mem_cons_self ..)
  · exact List.mem_cons_self ..

theorem isValueChar_of_isNumberChar {c : Char} (h : PyJson.isNumberChar c) :
    isValueChar c := by
  unfold PyJson.isNumberChar at h
  unfold isValueChar Char.isAlphanum
  rw [Bool.or_eq_true] at h
  rcases h with h | h
  · rw [h, Bool.or_true, Bool.true_or]
  · revert h
    simp only [decide_eq_true_eq, List.mem_cons, List.not_mem_nil, or_false]
    rintro (rfl | rfl | rfl | rfl | rfl) <;> decide

theorem Value.chars (v : Value) : ∀ c ∈ v.text, isValueChar c := by
  cases v with
  | decimal d =>
      intro c hc
      exact isValueChar_of_isNumberChar (d.text_isNumberChar c hc)
  | word w number => exact w.chars

theorem Value.text_ne_nil (v : Value) : v.text ≠ [] := by
  cases v with
  | decimal d => exact d.text_ne_nil
  | word w number =>
      intro hnil
      obtain ⟨c, hc, -⟩ := w.letter
      rw [show w.text = [] from hnil] at hc
      cases hc

theorem Value.not_mem (v : Value) {c : Char} (h : isValueChar c = false) :
    c ∉ v.text := by
  intro hc
  rw [v.chars c hc] at h
  cases h

/-- A value starts with one of its characters. -/
theorem Value.stops (v : Value) {p : Char → Bool}
    (hp : ∀ c, isValueChar c → p c = false) (rest : List Char) :
    Scan.Stops p (v.text ++ rest) := by
  cases htext : v.text with
  | nil => exact absurd htext v.text_ne_nil
  | cons c text =>
      refine Scan.stops_cons.mpr (hp c (v.chars c ?_))
      rw [htext]
      exact List.mem_cons_self ..

-- ============================================================ line ends

/-- An escaped text has no newline left in it. -/
theorem escape_newline_not_mem (value : List Char) : '\n' ∉ escape value := by
  intro h
  rcases mem_escape h with ⟨-, hne⟩ | h
  · exact hne rfl
  · exact absurd h (by decide)

theorem Label.newline_not_mem (l : Label) : '\n' ∉ l.text := by
  unfold text quoted
  simp only [List.mem_append, List.mem_cons, not_or]
  exact ⟨l.lead.not_mem (by decide), l.name.not_mem (by decide),
    l.beforeEquals.not_mem (by decide), by decide,
    l.afterEquals.not_mem (by decide), by decide,
    escape_newline_not_mem _, by decide, l.trail.not_mem (by decide)⟩

/-- What a character between the braces belongs to. -/
theorem mem_labelsText {c : Char} {ls : List Label} {tail : List Char}
    (h : c ∈ labelsText ls tail) :
    c = ',' ∨ c ∈ tail ∨ ∃ l ∈ ls, c ∈ l.text := by
  fun_induction labelsText ls tail with
  | case1 tail => exact .inr (.inl h)
  | case2 l tail =>
      rcases List.mem_append.mp h with h | h
      · exact .inr (.inr ⟨l, List.mem_cons_self .., h⟩)
      · exact .inr (.inl h)
  | case3 l l' ls tail ih =>
      rcases List.mem_append.mp h with h | h
      · exact .inr (.inr ⟨l, List.mem_cons_self .., h⟩)
      rcases List.mem_cons.mp h with h | h
      · exact .inl h
      rcases ih h with h | h | ⟨m, hm, h⟩
      · exact .inl h
      · exact .inr (.inl h)
      · exact .inr (.inr ⟨m, List.mem_cons_of_mem _ hm, h⟩)

theorem mem_labelsText_of_mem {c : Char} {ls : List Label} (tail : List Char)
    {l : Label} (hl : l ∈ ls) (h : c ∈ l.text) : c ∈ labelsText ls tail := by
  fun_induction labelsText ls tail with
  | case1 tail => cases hl
  | case2 m tail =>
      rw [List.mem_singleton.mp hl] at h
      exact List.mem_append_left _ h
  | case3 m m' ls tail ih =>
      rcases List.mem_cons.mp hl with rfl | hl
      · exact List.mem_append_left _ h
      · exact List.mem_append_right _ (List.mem_cons_of_mem _ (ih hl))

/-- The end of what is between the braces is blanks and a comma. -/
theorem Braces.mem_inside {b : Braces} {c : Char} (h : c ∈ b.inside) :
    c = ',' ∨ c ∈ b.tail.text ∨ ∃ l ∈ b.labels, c ∈ l.text := by
  unfold inside at h
  rcases mem_labelsText h with h | h | h
  · exact .inl h
  · rcases List.mem_append.mp h with h | h
    · revert h
      cases b.comma <;> simp
      exact .inl
    · exact .inr (.inl h)
  · exact .inr (.inr h)

theorem Braces.newline_not_mem (b : Braces) : '\n' ∉ b.inside := by
  intro h
  rcases mem_inside h with h | h | ⟨l, -, h⟩
  · exact absurd h (by decide)
  · exact b.tail.not_mem (by decide) h
  · exact l.newline_not_mem h

theorem Sample.valueText_newline_not_mem (s : Sample) :
    '\n' ∉ s.valueText := by
  unfold valueText
  simp only [List.mem_append, not_or]
  exact ⟨s.gap.not_mem (by decide), s.value.not_mem (by decide),
    s.trail.not_mem (by decide)⟩

theorem Sample.tail_newline_not_mem (s : Sample) : '\n' ∉ s.tail := by
  unfold tail
  cases s.braces with
  | none => exact s.valueText_newline_not_mem
  | some b =>
      simp only [List.mem_append, List.mem_cons, not_or]
      exact ⟨b.gap.not_mem (by decide), by decide, b.newline_not_mem,
        by decide, s.valueText_newline_not_mem⟩

/-- A line of the page has its newline only at its end. -/
theorem Line.newline_not_mem (l : Line) : '\n' ∉ l.text := by
  cases l with
  | blank blanks => exact blanks.not_mem (by decide)
  | comment lead text closed =>
      simp only [Line.text, List.mem_append, List.mem_cons, not_or]
      exact ⟨lead.not_mem (by decide), by decide, closed⟩
  | sample s =>
      simp only [Line.text, Sample.text, List.mem_append, not_or]
      exact ⟨s.lead.not_mem (by decide), s.name.not_mem (by decide),
        s.tail_newline_not_mem⟩

-- =============================================================== braces

/-- Only the value of a label can have a closing brace. -/
theorem Label.brace_mem_iff (l : Label) : '}' ∈ l.text ↔ '}' ∈ l.value := by
  constructor
  · intro h
    unfold text quoted at h
    simp only [List.mem_append, List.mem_cons] at h
    rcases h with h | h | h | h | h | h | h | h | h
    · exact absurd h (l.lead.not_mem (by decide))
    · exact absurd h (l.name.not_mem (by decide))
    · exact absurd h (l.beforeEquals.not_mem (by decide))
    · exact absurd h (by decide)
    · exact absurd h (l.afterEquals.not_mem (by decide))
    · exact absurd h (by decide)
    · rcases mem_escape h with ⟨h, -⟩ | h
      · exact h
      · exact absurd h (by decide)
    · exact absurd h (by decide)
    · exact absurd h (l.trail.not_mem (by decide))
  · intro h
    have hescaped := mem_escape_of_mem h (by decide)
    unfold text quoted
    simp only [List.mem_append, List.mem_cons]
    exact .inr (.inr (.inr (.inr (.inr (.inr (.inl hescaped))))))

/-- A closing brace inside is one in a label's value: it is not escaped. -/
theorem Braces.brace_mem_iff (b : Braces) :
    '}' ∈ b.inside ↔ ∃ l ∈ b.labels, '}' ∈ l.value := by
  constructor
  · intro h
    rcases mem_inside h with h | h | ⟨l, hl, h⟩
    · exact absurd h (by decide)
    · exact absurd h (b.tail.not_mem (by decide))
    · exact ⟨l, hl, l.brace_mem_iff.mp h⟩
  · rintro ⟨l, hl, h⟩
    exact mem_labelsText_of_mem _ hl (l.brace_mem_iff.mpr h)

/-- Behind every closing brace there is a quote. -/
def QuoteFollows (text : List Char) : Prop :=
  ∀ before after, text = before ++ '}' :: after → '"' ∈ after

theorem quoteFollows_of_not_mem {text : List Char} (h : '}' ∉ text) :
    QuoteFollows text := by
  rintro before after rfl
  exact absurd (List.mem_append_right _ (List.mem_cons_self ..)) h

theorem quoteFollows_append {x y : List Char} (hx : QuoteFollows x)
    (hy : QuoteFollows y) : QuoteFollows (x ++ y) := by
  intro before after heq
  rcases List.append_eq_append_iff.mp heq with ⟨l, -, hl⟩ | ⟨l, hl, hafter⟩
  · exact hy l after hl
  · cases l with
    | nil => exact hy [] after hafter.symm
    | cons c l =>
        rw [List.cons_append] at hafter
        injection hafter with hc hafter
        rw [hafter]
        exact List.mem_append_left _ (hx before l (hc ▸ hl))

/-- A closing brace in a value is before the quote that closes it. -/
theorem quoteFollows_quoted (x : List Char) {y : List Char} (hy : '}' ∉ y) :
    QuoteFollows (x ++ '"' :: y) := by
  induction x with
  | nil => exact quoteFollows_of_not_mem (by simp [hy])
  | cons c x ih =>
      intro before after heq
      cases before with
      | nil =>
          injection heq with hc heq
          rw [← heq]
          exact List.mem_append_right _ (List.mem_cons_self ..)
      | cons b before =>
          injection heq with hb heq
          exact ih before after heq

theorem Label.quoteFollows (l : Label) : QuoteFollows l.text := by
  unfold text quoted
  refine quoteFollows_append (quoteFollows_of_not_mem
    (l.lead.not_mem (by decide))) ?_
  refine quoteFollows_append (quoteFollows_of_not_mem
    (l.name.not_mem (by decide))) ?_
  refine quoteFollows_append (quoteFollows_of_not_mem
    (l.beforeEquals.not_mem (by decide))) ?_
  have hrest := quoteFollows_quoted
    ('=' :: (l.afterEquals.text ++ '"' :: escape l.value))
    (l.trail.not_mem (c := '}') (by decide))
  simpa using hrest

theorem quoteFollows_labelsText (ls : List Label) {tail : List Char}
    (htail : '}' ∉ tail) : QuoteFollows (labelsText ls tail) := by
  fun_induction labelsText ls tail with
  | case1 tail => exact quoteFollows_of_not_mem htail
  | case2 l tail =>
      exact quoteFollows_append l.quoteFollows (quoteFollows_of_not_mem htail)
  | case3 l l' ls tail ih =>
      refine quoteFollows_append l.quoteFollows ?_
      exact quoteFollows_append (x := [',']) (quoteFollows_of_not_mem (by decide))
        (ih htail)

/-- Between the braces, up to the first closing brace and behind it. -/
theorem Braces.quoteFollows (b : Braces) : QuoteFollows b.inside := by
  refine quoteFollows_labelsText b.labels ?_
  rw [List.mem_append, not_or]
  refine ⟨?_, b.tail.not_mem (by decide)⟩
  cases b.comma <;> decide

end Exposition
