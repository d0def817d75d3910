/-
What the patterns of `update_metrics_text` match on a page in the text
format.

# Samples

A pattern matches a sample up to the end of its line or not at all. It
matches the samples that are plain (`plainBraces`, `plainNumber`): no
blanks before the name, between name and braces or at the end, some before
the value, a decimal value, and no closing brace in a label value. Of a
sample with a closing brace in a value the pattern takes the labels up to
that brace, and what follows is no number (`matchValue_of_quote`).
-/
import Kareserve.Lib.Exposition
import Kareserve.Tracker.Metrics
import Mathlib.Data.List.TakeWhile

namespace Kareserve

open Exposition
open PyJson (isNumberChar)

-- ============================================================ characters

/-- The blanks of the format are spaces of the pattern. -/
theorem isSpace_of_isBlank {c : Char} (h : isBlank c) : isSpace c := by
  unfold isBlank at h
  rw [Bool.or_eq_true, decide_eq_true_eq, decide_eq_true_eq] at h
  rcases h with rfl | rfl <;> decide

theorem not_numberChar_of_isBlank {c : Char} (h : isBlank c) :
    isNumberChar c = false := by
  unfold isBlank at h
  rw [Bool.or_eq_true, decide_eq_true_eq, decide_eq_true_eq] at h
  rcases h with rfl | rfl <;> decide

/-- A printable character of ASCII is no blank. -/
theorem not_isSpace_of_range {c : Char} (hlow : 33 ≤ c.toNat)
    (hhigh : c.toNat ≤ 126) : isSpace c = false := by
  unfold isSpace
  simp only [Bool.or_eq_false_iff, Bool.and_eq_false_iff,
    decide_eq_false_iff_not, List.mem_cons, List.not_mem_nil, or_false]
  omega

theorem toNat_range_of_isAlphanum {c : Char} (h : c.isAlphanum) :
    33 ≤ c.toNat ∧ c.toNat ≤ 126 := by
  delta Char.isAlphanum Char.isAlpha Char.isUpper Char.isLower
    Char.isDigit at h
  simp only [Bool.or_eq_true, Bool.and_eq_true, decide_eq_true_eq,
    UInt32.le_iff_toNat_le] at h
  have hval : c.toNat = c.val.toNat := rfl
  simp at h
  omega

theorem not_isSpace_of_isAlphanum {c : Char} (h : c.isAlphanum) :
    isSpace c = false :=
  not_isSpace_of_range (toNat_range_of_isAlphanum h).1
    (toNat_range_of_isAlphanum h).2

/-- Neither a value -/
theorem not_isSpace_of_valueChar {c : Char} (h : isValueChar c) :
    isSpace c = false := by
  unfold isValueChar at h
  rw [Bool.or_eq_true] at h
  rcases h with h | h
  · exact not_isSpace_of_isAlphanum h
  · revert h
    simp only [decide_eq_true_eq, List.mem_cons, List.not_mem_nil, or_false]
    rintro (rfl | rfl | rfl | rfl) <;> decide

/-- A name has no space. -/
theorem not_isSpace_of_nameChar {c : Char} (h : isNameChar c) :
    isSpace c = false := by
  unfold isNameChar at h
  rw [Bool.or_eq_true, Bool.or_eq_true, decide_eq_true_eq,
    decide_eq_true_eq] at h
  rcases h with (h | rfl) | rfl
  · exact not_isSpace_of_isAlphanum h
  · decide
  · decide

theorem not_numberChar_of_letter {c : Char}
    (h : c.isAlpha ∧ c ≠ 'e' ∧ c ≠ 'E') : isNumberChar c = false := by
  obtain ⟨halpha, he, hE⟩ := h
  have hdigit : c.isDigit = false := by
    delta Char.isAlpha Char.isUpper Char.isLower at halpha
    delta Char.isDigit
    simp only [Bool.or_eq_true, Bool.and_eq_true, decide_eq_true_eq,
      UInt32.le_iff_toNat_le] at halpha
    simp only [Bool.and_eq_false_iff, decide_eq_false_iff_not,
      UInt32.le_iff_toNat_le]
    simp at halpha ⊢
    omega
  unfold isNumberChar
  rw [hdigit, Bool.false_or, decide_eq_false_iff_not]
  simp only [List.mem_cons, List.not_mem_nil, or_false]
  rintro (rfl | rfl | rfl | h | h)
  · exact absurd halpha (by decide)
  · exact absurd halpha (by decide)
  · exact absurd halpha (by decide)
  · exact he h
  · exact hE h

-- =============================================================== values

/-- The number of a sample, if the pattern of a value matches it. -/
def plainNumber (s : Sample) : Option (List Char) :=
  match s.value with
  | .decimal d =>
      if s.gap.text ≠ [] ∧ s.trail.text = [] then some d.text else none
  | .word .. => none

/-- The run of number characters of a word ends inside it. -/
theorem word_not_atLineEnd (w : Word) (rest : List Char) :
    atLineEnd ((w.text ++ rest).dropWhile isNumberChar) = false := by
  have hne : w.text.dropWhile isNumberChar ≠ [] := by
    intro hnil
    obtain ⟨c, hc, hletter⟩ := w.letter
    have hall := List.dropWhile_eq_nil_iff.mp hnil c hc
    rw [not_numberChar_of_letter hletter] at hall
    cases hall
  rw [List.dropWhile_append, if_neg (by simpa using hne)]
  cases hdrop : w.text.dropWhile isNumberChar with
  | nil => exact absurd hdrop hne
  | cons c text =>
      have hmem : c ∈ w.text :=
        (List.dropWhile_suffix _).subset (hdrop ▸ List.mem_cons_self ..)
      show decide (c = '\n') = false
      refine decide_eq_false ?_
      rintro rfl
      exact absurd (w.chars _ hmem) (by decide)

/-- The value of a sample, behind its gap, up to the end of its line. -/
theorem matchValue_run {gap text : List Char} (hgap : ∀ c ∈ gap, isSpace c)
    (htext : Scan.Stops isSpace text) :
    matchValue (gap ++ text)
      = if gap ≠ [] ∧ text.takeWhile isNumberChar ≠ []
            ∧ atLineEnd (text.dropWhile isNumberChar) then
          some (text.takeWhile isNumberChar, text.dropWhile isNumberChar)
        else none := by
  unfold matchValue
  rw [Scan.takeWhile_of_stops hgap htext, Scan.dropWhile_of_stops hgap htext]

/-- A decimal on its line. -/
theorem matchValue_decimal {gap trail : List Char}
    (hgap : ∀ c ∈ gap, isSpace c) (htrail : ∀ c ∈ trail, isBlank c)
    (d : PyJson.Decimal) (rest : List Char) :
    matchValue (gap ++ (d.text ++ (trail ++ '\n' :: rest)))
      = if gap ≠ [] ∧ trail = [] then some (d.text, '\n' :: rest) else none := by
  have hstops : Scan.Stops isNumberChar (trail ++ '\n' :: rest) :=
    .append (fun c hc => not_numberChar_of_isBlank (htrail c hc))
      (Scan.stops_cons.mpr (by decide))
  have hend : atLineEnd (trail ++ '\n' :: rest) = true ↔ trail = [] := by
    cases trail with
    | nil => exact iff_of_true rfl rfl
    | cons c trail =>
        refine iff_of_false ?_ (List.cons_ne_nil _ _)
        have hc := htrail c (List.mem_cons_self ..)
        intro hnewline
        rw [of_decide_eq_true hnewline] at hc
        exact absurd hc (by decide)
  have hvalue : Scan.Stops isSpace (d.text ++ (trail ++ '\n' :: rest)) :=
    (Value.decimal d).stops (fun _ => not_isSpace_of_valueChar) _
  rw [matchValue_run hgap hvalue,
    Scan.takeWhile_of_stops d.text_isNumberChar hstops,
    Scan.dropWhile_of_stops d.text_isNumberChar hstops]
  by_cases hplain : gap ≠ [] ∧ trail = []
  · rw [if_pos ⟨hplain.1, d.text_ne_nil, hend.mpr hplain.2⟩, if_pos hplain,
      hplain.2]
    rfl
  · rw [if_neg fun h => hplain ⟨h.1, hend.mp h.2.2⟩, if_neg hplain]

/-- A value on its line. -/
theorem matchValue_valueText (s : Sample) (rest : List Char) :
    matchValue (s.valueText ++ '\n' :: rest)
      = (plainNumber s).map fun number => (number, '\n' :: rest) := by
  have hgap : ∀ c ∈ s.gap.text, isSpace c := fun c hc =>
    isSpace_of_isBlank (s.gap.chars c hc)
  unfold Sample.valueText plainNumber
  rw [List.append_assoc, List.append_assoc]
  cases s.value with
  | word w number =>
      rw [matchValue_run hgap
        ((Value.word w number).stops (fun _ => not_isSpace_of_valueChar) _)]
      refine if_neg fun h => ?_
      exact absurd h.2.2 (Bool.eq_false_iff.mp (word_not_atLineEnd w _))
  | decimal d =>
      refine (matchValue_decimal hgap s.trail.chars d rest).trans ?_
      dsimp only
      split <;> rfl

/-- No value goes on to a quote. -/
theorem matchValue_of_quote {text : List Char} (h : '\n' ∉ text)
    (rest : List Char) : matchValue (text ++ '"' :: rest) = none := by
  unfold matchValue
  dsimp only
  rw [Scan.dropWhile_append_cons (by decide),
    Scan.dropWhile_append_cons (by decide)]
  refine if_neg fun hmatch => ?_
  have hend := hmatch.2.2
  cases hdrop : (text.dropWhile isSpace).dropWhile isNumberChar with
  | nil =>
      rw [hdrop] at hend
      have hquote : '"' = '\n' := of_decide_eq_true hend
      exact absurd hquote (by decide)
  | cons c drop =>
      rw [hdrop] at hend
      have hmem : c ∈ text :=
        ((List.dropWhile_suffix _).trans (List.dropWhile_suffix _)).subset
          (hdrop ▸ List.mem_cons_self ..)
      rw [of_decide_eq_true hend] at hmem
      exact h hmem

-- ================================================================ braces

/-- The braces of a sample, as the patterns match them. -/
def plainBraces (b : Braces) : Bool :=
  decide (b.gap.text = []) && b.labels.all fun l => decide ('}' ∉ l.value)

/-- Braces the pattern can see have no gap before them and no closing brace
inside. -/
theorem plainBraces_iff (b : Braces) :
    plainBraces b = true ↔ b.gap.text = [] ∧ '}' ∉ b.inside := by
  unfold plainBraces
  rw [Bool.and_eq_true, decide_eq_true_eq, List.all_eq_true,
    b.brace_mem_iff]
  simp

/-- Without an opening brace there are no labels. -/
theorem matchLabels_of_stops {text : List Char}
    (h : Scan.Stops (· = '{') text) : matchLabels text = none := by
  unfold matchLabels
  split
  · exact absurd (Scan.stops_cons.mp h) (by decide)
  · rfl

/-- With one they end at the first closing brace. -/
theorem matchLabels_brace {inside : List Char} (h : '}' ∉ inside)
    (rest : List Char) :
    matchLabels ('{' :: (inside ++ '}' :: rest)) = some (inside, rest) := by
  have hinside : ∀ c ∈ inside, decide (c ≠ '}') = true := by
    intro c hc
    refine decide_eq_true ?_
    rintro rfl
    exact h hc
  have hstops : Scan.Stops (fun c => decide (c ≠ '}')) ('}' :: rest) :=
    Scan.stops_cons.mpr (by decide)
  rw [matchLabels, Scan.dropWhile_of_stops hinside hstops]
  dsimp only
  rw [Scan.takeWhile_of_stops hinside hstops]

/-- Neither blanks nor a value start with a brace. -/
theorem matchLabels_valueText (s : Sample) (rest : List Char) :
    matchLabels (s.valueText ++ rest) = none := by
  refine matchLabels_of_stops ?_
  unfold Sample.valueText
  rw [List.append_assoc, List.append_assoc]
  refine .append (fun c hc => decide_eq_false ?_) (s.value.stops ?_ _)
  · rintro rfl
    exact s.gap.not_mem (c := '{') (by decide) hc
  · intro c hc
    refine decide_eq_false ?_
    rintro rfl
    exact absurd hc (by decide)

/-- The first closing brace is inside a label value. -/
theorem matchLabels_inside {b : Braces} (h : '}' ∈ b.inside)
    (rest : List Char) :
    ∃ labels text text', '\n' ∉ text
      ∧ matchLabels ('{' :: (b.inside ++ '}' :: rest))
        = some (labels, text ++ '"' :: text') := by
  obtain ⟨labels, after, hinside, hfirst⟩ := List.eq_append_cons_of_mem h
  have hquote := b.quoteFollows labels after hinside
  obtain ⟨text, text', hafter⟩ := List.append_of_mem hquote
  refine ⟨labels, text, text' ++ '}' :: rest, ?_, ?_⟩
  · intro hnewline
    refine b.newline_not_mem ?_
    rw [hinside, hafter]
    simp [hnewline]
  · rw [hinside, hafter]
    have hmatch := matchLabels_brace hfirst (text ++ '"' :: (text' ++ '}' :: rest))
    simpa using hmatch

-- =================================================== behind the name

/-- The start time of a sample. -/
def processStartCapture (s : Sample) : Option (List Char) :=
  if s.braces.isNone then plainNumber s else none

/-- The value of a sample. -/
def metricCapture (s : Sample) : Option (List Char) :=
  if s.braces.all plainBraces then plainNumber s else none

/-- The labels of a sample. -/
def configCapture (s : Sample) : Option (List Char) :=
  s.braces.bind fun b =>
    if plainBraces b then (plainNumber s).map fun _ => b.inside else none

theorem blanks_isSpace (b : Blanks) : ∀ c ∈ b.text, isSpace c :=
  fun c hc => isSpace_of_isBlank (b.chars c hc)

/-- Blanks before the braces leave no value to be matched. -/
theorem matchValue_brace (b : Blanks) (rest : List Char) :
    matchValue (b.text ++ '{' :: rest) = none := by
  rw [matchValue_run (blanks_isSpace b) (Scan.stops_cons.mpr (by decide))]
  refine if_neg fun h => ?_
  exact h.2.1 (List.takeWhile_cons_of_neg (by decide))

/-- Behind a gap the labels are not seen. -/
theorem matchLabels_gap {b : Blanks} (hne : b.text ≠ []) (rest : List Char) :
    matchLabels (b.text ++ rest) = none := by
  refine matchLabels_of_stops (Blanks.stops hne ?_ rest)
  intro c hc
  refine decide_eq_false ?_
  rintro rfl
  exact absurd hc (by decide)

/-- The start-time pattern, on the tail of a sample. -/
theorem matchValue_tail (s : Sample) (rest : List Char) :
    matchValue (s.tail ++ '\n' :: rest)
      = (processStartCapture s).map fun number => (number, '\n' :: rest) := by
  unfold Sample.tail processStartCapture
  cases s.braces with
  | none => exact matchValue_valueText s rest
  | some b =>
      dsimp only
      rw [List.append_assoc, List.cons_append]
      exact matchValue_brace b.gap _

/-- The labels in plain braces. -/
theorem matchLabels_plain {b : Braces} (h : plainBraces b) (rest : List Char) :
    matchLabels (b.gap.text ++ '{' :: (b.inside ++ '}' :: rest))
      = some (b.inside, rest) := by
  obtain ⟨hgap, hbrace⟩ := (plainBraces_iff b).mp h
  rw [hgap]
  exact matchLabels_brace hbrace rest

/-- Of other braces either no labels are matched, or labels with no value
behind them. -/
theorem matchLabels_not_plain {b : Braces} (h : ¬ plainBraces b)
    (rest : List Char) :
    matchLabels (b.gap.text ++ '{' :: (b.inside ++ '}' :: rest)) = none
      ∨ ∃ labels text,
        matchLabels (b.gap.text ++ '{' :: (b.inside ++ '}' :: rest))
          = some (labels, text) ∧ matchValue text = none := by
  by_cases hgap : b.gap.text = []
  · have hbrace : '}' ∈ b.inside := by
      by_contra hbrace
      exact h ((plainBraces_iff b).mpr ⟨hgap, hbrace⟩)
    obtain ⟨labels, text, text', hnewline, hmatch⟩ :=
      matchLabels_inside hbrace rest
    refine .inr ⟨labels, _, ?_, matchValue_of_quote hnewline text'⟩
    rw [hgap]
    exact hmatch
  · exact .inl (matchLabels_gap hgap _)

/-- The pattern of a metric, on the tail of a sample. -/
theorem matchMetric_tail (s : Sample) (rest : List Char) :
    matchMetric (s.tail ++ '\n' :: rest)
      = (metricCapture s).map fun number => (number, '\n' :: rest) := by
  unfold matchMetric Sample.tail metricCapture
  cases s.braces with
  | none =>
      dsimp only
      rw [matchLabels_valueText]
      exact matchValue_valueText s rest
  | some b =>
      dsimp only
      rw [List.append_assoc, List.cons_append, List.append_assoc,
        List.cons_append, Option.all_some]
      by_cases hplain : plainBraces b
      · rw [matchLabels_plain hplain, if_pos hplain]
        exact matchValue_valueText s rest
      · rw [if_neg hplain, Option.map_none]
        rcases matchLabels_not_plain hplain (s.valueText ++ '\n' :: rest) with
          hnone | ⟨labels, text, hsome, hvalue⟩
        · rw [hnone]
          exact matchValue_brace b.gap _
        · rw [hsome]
          exact hvalue

/-- The pattern of the configuration, on the tail of a sample. -/
theorem matchConfig_tail (s : Sample) (rest : List Char) :
    matchConfig (s.tail ++ '\n' :: rest)
      = (configCapture s).map fun labels => (labels, '\n' :: rest) := by
  unfold matchConfig Sample.tail configCapture
  cases s.braces with
  | none =>
      dsimp only
      rw [matchLabels_valueText]
      rfl
  | some b =>
      dsimp only
      rw [List.append_assoc, List.cons_append, List.append_assoc,
        List.cons_append, Option.bind_some]
      by_cases hplain : plainBraces b
      · rw [matchLabels_plain hplain, if_pos hplain, Option.bind_some,
          matchValue_valueText]
        cases plainNumber s <;> rfl
      · rw [if_neg hplain, Option.map_none]
        rcases matchLabels_not_plain hplain (s.valueText ++ '\n' :: rest) with
          hnone | ⟨labels, text, hsome, hvalue⟩
        · rw [hnone]
          rfl
        · rw [hsome, Option.bind_some, hvalue]
          rfl

-- =============================================================== on pages

/-- Behind a name that goes on there is no match. -/
def NameEnds {β : Type} (k : List Char → Option (β × List Char)) : Prop :=
  ∀ c text, isNameChar c → k (c :: text) = none

/-- All three want the name to end where it ends: -/
theorem matchValue_nameEnds : NameEnds matchValue := by
  intro c text hc
  have hspace := not_isSpace_of_nameChar hc
  unfold matchValue
  dsimp only
  refine if_neg fun h => h.1 ?_
  exact List.takeWhile_cons_of_neg (by rw [hspace]; decide)

/-- Labels do not begin with a character of a name. -/
theorem matchLabels_nameChar {c : Char} (hc : isNameChar c)
    (text : List Char) : matchLabels (c :: text) = none := by
  refine matchLabels_of_stops (Scan.stops_cons.mpr (decide_eq_false ?_))
  rintro rfl
  exact absurd hc (by decide)

theorem matchMetric_nameEnds : NameEnds matchMetric := by
  intro c text hc
  unfold matchMetric
  rw [matchLabels_nameChar hc]
  exact matchValue_nameEnds c text hc

theorem matchConfig_nameEnds : NameEnds matchConfig := by
  intro c text hc
  unfold matchConfig
  rw [matchLabels_nameChar hc]
  rfl

section Page

variable {β : Type} {k : List Char → Option (β × List Char)}
  {capture : Sample → Option β} {metric : String}

theorem dropPrefix_of_stops (hne : metric.toList ≠ [])
    (hchars : ∀ c ∈ metric.toList, isNameChar c) {text : List Char}
    (h : Scan.Stops isNameChar text) :
    text.dropPrefix? metric.toList = none := by
  have hrun : ([] ++ text).dropPrefix? metric.toList
      = ([].dropPrefix? metric.toList).map (· ++ text) :=
    Scan.dropPrefix_run hchars h
  rw [List.nil_append] at hrun
  rw [hrun]
  cases hmetric : metric.toList with
  | nil => exact absurd hmetric hne
  | cons c metric => rfl

/-- Text behind blanks that is no name. -/
theorem stops_nameChar_blanks (b : Blanks) {text : List Char}
    (h : Scan.Stops isNameChar text) :
    Scan.Stops isNameChar (b.text ++ text) :=
  .append (fun c hc => not_nameChar_of_isBlank (b.chars c hc)) h

/-- The name of a sample ends. -/
theorem stops_nameChar_tail (s : Sample) (rest : List Char) :
    Scan.Stops isNameChar (s.tail ++ rest) := by
  unfold Sample.tail
  cases hbraces : s.braces with
  | none =>
      dsimp only [Sample.valueText]
      rw [List.append_assoc]
      exact Blanks.stops (s.separated hbraces)
        (fun _ => not_nameChar_of_isBlank) _
  | some b =>
      dsimp only
      rw [List.append_assoc]
      exact stops_nameChar_blanks b.gap (Scan.stops_cons.mpr (by decide))

/-- A metric's name at the start of a sample. -/
theorem bind_name (hchars : ∀ c ∈ metric.toList, isNameChar c)
    (hends : NameEnds k) (s : Sample) (rest : List Char) :
    ((s.name.text ++ (s.tail ++ rest)).dropPrefix? metric.toList).bind k
      = if s.name.text = metric.toList then k (s.tail ++ rest) else none := by
  rw [Scan.dropPrefix_run hchars (stops_nameChar_tail s rest)]
  cases hname : s.name.text.dropPrefix? metric.toList with
  | none =>
      refine (if_neg fun heq => ?_).symm
      rw [heq] at hname
      have hself := Scan.dropPrefix_append metric.toList []
      rw [List.append_nil, hname] at hself
      cases hself
  | some more =>
      have heq := Scan.dropPrefix_eq_some.mp hname
      rw [Option.map_some, Option.bind_some]
      cases more with
      | nil =>
          rw [List.append_nil] at heq
          rw [if_pos heq, List.nil_append]
      | cons c more =>
          rw [if_neg]
          · refine hends c _ (s.name.chars c ?_)
            rw [heq]
            exact List.mem_append_right _ (List.mem_cons_self ..)
          · intro heq'
            rw [heq'] at heq
            have hlength := congrArg List.length heq
            rw [List.length_append, List.length_cons] at hlength
            omega

/-- The pattern on one line. -/
theorem pattern_line (hne : metric.toList ≠ [])
    (hchars : ∀ c ∈ metric.toList, isNameChar c) (hends : NameEnds k)
    (htail : ∀ s rest, k (s.tail ++ '\n' :: rest)
      = (capture s).map fun b => (b, '\n' :: rest))
    (line : Line) (rest : List Char) :
    ((line.text ++ '\n' :: rest).dropPrefix? metric.toList).bind k
      = (line.sample?.bind fun s =>
          if s.lead.text = [] ∧ s.name.text = metric.toList then capture s
          else none).map fun b => (b, '\n' :: rest) := by
  cases line with
  | blank blanks =>
      rw [dropPrefix_of_stops hne hchars]
      · rfl
      · exact stops_nameChar_blanks blanks (Scan.stops_cons.mpr (by decide))
  | comment lead text closed =>
      rw [dropPrefix_of_stops hne hchars]
      · rfl
      · dsimp only [Line.text]
        rw [List.append_assoc]
        exact stops_nameChar_blanks lead (Scan.stops_cons.mpr (by decide))
  | sample s =>
      dsimp only [Line.text, Line.sample?, Sample.text]
      rw [Option.bind_some, List.append_assoc, List.append_assoc]
      by_cases hlead : s.lead.text = []
      · rw [hlead, List.nil_append, bind_name hchars hends]
        by_cases hname : s.name.text = metric.toList
        · rw [if_pos hname, if_pos ⟨rfl, hname⟩]
          exact htail s rest
        · rw [if_neg hname, if_neg fun h => hname h.2]
          rfl
      · rw [dropPrefix_of_stops hne hchars
          (Blanks.stops hlead (fun _ => not_nameChar_of_isBlank) _),
          if_neg fun h => hlead h.1]
        rfl

/-- What `findall` finds on a page. -/
theorem findall_page (hne : metric.toList ≠ [])
    (hchars : ∀ c ∈ metric.toList, isNameChar c) (hends : NameEnds k)
    (htail : ∀ s rest, k (s.tail ++ '\n' :: rest)
      = (capture s).map fun b => (b, '\n' :: rest)) (lines : List Line) :
    findall (fun text => (text.dropPrefix? metric.toList).bind k)
        (pageText lines)
      = (samples lines).filterMap fun s =>
          if s.lead.text = [] ∧ s.name.text = metric.toList then capture s
          else none := by
  unfold findall pageText samples
  rw [Scan.findAll_lines (fun line _ => line.newline_not_mem)
    (fun line _ rest => pattern_line hne hchars hends htail line rest)]
  exact (List.filterMap_filterMap ..).symm

end Page

end Kareserve
