/-
What the searches of `update_metrics_text` find between the braces of a
sample in the text format.

`re.search` of `name="(\d+)"` takes the first label whose name ends in the
name searched for, if there are no blanks around its equals sign and its
value is a number (`search_inside`). It takes no label value for a label:
the quotes in a value are escaped, and behind the quote that closes it
there is no digit.

A search tries the pattern at every position. The proof goes along the text
with it: past blanks, past a value, past a name that does not end in the one
searched for, each time by showing that no position in between matches
(`search_skip`). What remains is the first label whose name does end in it,
where the pattern matches at the position the name searched for begins.
-/
import Kareserve.Lib.Exposition
import Kareserve.Tracker.Metrics

namespace Kareserve

open Exposition

-- ================================================================ values

section Label

variable {digits : DecimalDigits} {name : String}

/-- Among ASCII characters only the ten digits count. -/
theorem DecimalDigits.isDigit_of_ascii {c : Char} (h : c.toNat < 128) :
    digits.isDigit c = c.isDigit := by
  unfold isDigit
  rw [digits.ascii c h]
  cases c.isDigit <;> rfl

theorem not_isDigit_of_isBlank {c : Char} (h : isBlank c) :
    digits.isDigit c = false := by
  unfold isBlank at h
  rw [Bool.or_eq_true, decide_eq_true_eq, decide_eq_true_eq] at h
  rcases h with rfl | rfl <;>
    exact DecimalDigits.isDigit_of_ascii (by decide)

/-- A number as value, and no blanks around the equals sign. -/
def searchable (digits : DecimalDigits) (l : Label) : Bool :=
  decide (l.beforeEquals.text = []) && decide (l.afterEquals.text = [])
    && decide (l.value ≠ []) && l.value.all digits.isDigit

/-- A label the search can see: no blanks around the sign, and a value of
digits. -/
theorem searchable_iff {l : Label} :
    searchable digits l = true
      ↔ l.beforeEquals.text = [] ∧ l.afterEquals.text = [] ∧ l.value ≠ []
        ∧ l.value.all digits.isDigit = true := by
  unfold searchable
  simp only [Bool.and_eq_true, decide_eq_true_eq, and_assoc]

/-- The number of a label, if the search takes this label. -/
def labelDigits (digits : DecimalDigits) (name : String) (l : Label) :
    Option (List Char) :=
  if name.toList <:+ l.name.text ∧ searchable digits l then some l.value
  else none

/-- Digits are written as they are. -/
theorem escapeChar_of_isDigit {c : Char} (h : digits.isDigit c) :
    escapeChar c = [c] := by
  have hne : ∀ x : Char, x.toNat < 128 → x.isDigit = false → c ≠ x := by
    rintro x hascii hdigit rfl
    rw [DecimalDigits.isDigit_of_ascii hascii, hdigit] at h
    cases h
  unfold escapeChar
  rw [if_neg (hne '\\' (by decide) (by decide)),
    if_neg (hne '"' (by decide) (by decide)),
    if_neg (hne '\n' (by decide) (by decide))]

/-- The first character of what escapes a character that is no digit is
neither a digit nor a quote. -/
theorem escapeChar_of_not_isDigit {c : Char} (h : digits.isDigit c = false) :
    ∃ x text, escapeChar c = x :: text ∧ digits.isDigit x = false ∧ x ≠ '"' := by
  have hbackslash : digits.isDigit '\\' = false :=
    DecimalDigits.isDigit_of_ascii (by decide)
  unfold escapeChar
  split
  · exact ⟨_, _, rfl, hbackslash, by decide⟩
  split
  · exact ⟨_, _, rfl, hbackslash, by decide⟩
  split
  · exact ⟨_, _, rfl, hbackslash, by decide⟩
  · rename_i hquote _
    exact ⟨_, _, rfl, h, hquote⟩

/-- The digits of a value of digits. -/
theorem escape_of_all {value : List Char} (h : value.all digits.isDigit) :
    escape value = value := by
  induction value with
  | nil => rfl
  | cons c value ih =>
      rw [List.all_cons, Bool.and_eq_true] at h
      rw [escape_cons, escapeChar_of_isDigit h.1, ih h.2]
      rfl

/-- Behind the digits that a value starts with, the quote follows if and
only if there is nothing else in it. -/
theorem quote_behind_digits (value rest : List Char) :
    ((escape value ++ '"' :: rest).dropWhile digits.isDigit).head? = some '"'
      ↔ value.all digits.isDigit := by
  have hquote : digits.isDigit '"' = false :=
    DecimalDigits.isDigit_of_ascii (by decide)
  induction value with
  | nil =>
      refine iff_of_true ?_ rfl
      show (('"' :: rest).dropWhile digits.isDigit).head? = some '"'
      rw [List.dropWhile_cons_of_neg (by rw [hquote]; decide)]
      rfl
  | cons c value ih =>
      rw [escape_cons, List.all_cons, List.append_assoc]
      cases hc : digits.isDigit c with
      | true =>
          rw [escapeChar_of_isDigit hc, Bool.true_and, List.singleton_append,
            List.dropWhile_cons_of_pos hc]
          exact ih
      | false =>
          obtain ⟨x, text, hx, hdigit, hne⟩ := escapeChar_of_not_isDigit hc
          rw [hx, Bool.false_and, List.cons_append,
            List.dropWhile_cons_of_neg (by rw [hdigit]; decide)]
          exact iff_of_false (fun h => hne (Option.some.inj h)) (by decide)

/-- The pattern fails where no digit follows the quote. -/
theorem digitsPattern_none {text : List Char}
    (h : ∀ rest, text = name.toList ++ '=' :: '"' :: rest →
      Scan.Stops digits.isDigit rest) :
    digitsPattern digits name text = none := by
  unfold digitsPattern
  cases hdrop : text.dropPrefix? (name.toList ++ ['=', '"']) with
  | none => rfl
  | some rest =>
      have heq := Scan.dropPrefix_eq_some.mp hdrop
      rw [List.append_assoc] at heq
      refine if_neg fun hand => hand.1 ?_
      exact Scan.takeWhile_of_stops (l := []) (by simp) (h rest heq)

-- =============================================================== labels

/-- What there is behind the name of a label. -/
def behindName (l : Label) (rest : List Char) : List Char :=
  l.beforeEquals.text ++ '=' :: (l.afterEquals.text ++ (l.quoted ++ rest))

theorem stops_behindName (l : Label) (rest : List Char) :
    Scan.Stops isLabelChar (behindName l rest) :=
  .append (fun c hc => not_labelChar_of_isBlank (l.beforeEquals.chars c hc))
    (Scan.stops_cons.mpr (by decide))

/-- A label that goes on behind its name as the pattern does. -/
theorem behindName_eq {l : Label} {rest rest' : List Char}
    (h : behindName l rest = ['=', '"'] ++ rest') :
    l.beforeEquals.text = [] ∧ l.afterEquals.text = []
      ∧ rest' = escape l.value ++ '"' :: (l.trail.text ++ rest) := by
  unfold behindName at h
  have hbefore := Blanks.eq_nil (by decide) h
  rw [hbefore] at h
  injection h with _ h
  have hafter := Blanks.eq_nil (by decide) h
  rw [hafter] at h
  injection h with _ h
  refine ⟨hbefore, hafter, h.symm.trans ?_⟩
  exact List.append_assoc ..

/-- The digits in front of the quote of a value of digits. -/
theorem digits_of_all {value : List Char} (h : value.all digits.isDigit)
    (rest : List Char) :
    (escape value ++ '"' :: rest).takeWhile digits.isDigit = value := by
  have hquote : digits.isDigit '"' = false :=
    DecimalDigits.isDigit_of_ascii (by decide)
  rw [escape_of_all h, Scan.takeWhile_of_stops (List.all_eq_true.mp h)
    (Scan.stops_cons.mpr hquote)]

/-- The match at the name of a label. -/
theorem digitsPattern_name (name : String) {l : Label} (hread : searchable digits l)
    (rest : List Char) :
    digitsPattern digits name (name.toList ++ behindName l rest)
      = some l.value := by
  obtain ⟨hbefore, hafter, hvalue, hall⟩ := searchable_iff.mp hread
  have hbehind : behindName l rest
      = ['=', '"'] ++ (escape l.value ++ '"' :: (l.trail.text ++ rest)) := by
    unfold behindName Label.quoted
    rw [hbefore, hafter]
    simp
  unfold digitsPattern
  rw [hbehind, ← List.append_assoc, Scan.dropPrefix_append, Option.bind_some]
  dsimp only
  rw [digits_of_all hall, if_pos]
  exact ⟨hvalue, (quote_behind_digits l.value _).mpr hall⟩

/-- The name of a label, as one searches for it. -/
structure IsLabelName (name : String) : Prop where
  ne_nil : name.toList ≠ []
  chars : ∀ c ∈ name.toList, isLabelChar c

section Name

variable (hname : IsLabelName name)

include hname

/-- It also fails where no label name begins. -/
theorem digitsPattern_of_stops {text : List Char}
    (h : Scan.Stops isLabelChar text) :
    digitsPattern digits name text = none := by
  refine digitsPattern_none fun rest heq => ?_
  cases hchars : name.toList with
  | nil => exact absurd hchars hname.ne_nil
  | cons c chars =>
      have hc := hname.chars c (by rw [hchars]; exact List.mem_cons_self ..)
      rw [heq, hchars] at h
      rw [Scan.stops_cons.mp h] at hc
      cases hc

/-- No match starts at a character that is in no label name. -/
theorem search_skip {text : List Char}
    (h : ∀ c ∈ text, isLabelChar c = false) (rest : List Char) :
    Scan.search (digitsPattern digits name) (text ++ rest)
      = Scan.search (digitsPattern digits name) rest := by
  refine Scan.search_append rest fun c text' hsuffix => ?_
  refine digitsPattern_of_stops hname (Scan.stops_cons.mpr (h c ?_))
  exact hsuffix.subset (List.mem_cons_self ..)

/-- The search goes past blanks. -/
theorem search_skip_blanks (b : Blanks) (rest : List Char) :
    Scan.search (digitsPattern digits name) (b.text ++ rest)
      = Scan.search (digitsPattern digits name) rest :=
  search_skip hname (fun c hc => not_labelChar_of_isBlank (b.chars c hc)) rest

/-- The search goes past anything that is not in a label name. -/
theorem search_skip_char {c : Char} (h : isLabelChar c = false)
    (rest : List Char) :
    Scan.search (digitsPattern digits name) (c :: rest)
      = Scan.search (digitsPattern digits name) rest :=
  Scan.search_of_none (digitsPattern_of_stops hname (Scan.stops_cons.mpr h))

/-- At a position inside a value the pattern could only go on to the quote
that closes it, and behind that is no digit. -/
theorem digitsPattern_in_value (c : Char) (value : List Char)
    {rest : List Char} (hrest : Scan.Stops digits.isDigit rest) :
    digitsPattern digits name (c :: (escape value ++ '"' :: rest)) = none := by
  refine digitsPattern_none fun rest' heq => ?_
  cases hchars : name.toList with
  | nil => exact absurd hchars hname.ne_nil
  | cons n chars =>
      rw [hchars] at heq
      injection heq with _ heq
      have hliteral : escape value ++ '"' :: rest
          = (chars ++ ['=']) ++ '"' :: rest' := by
        rw [heq, List.append_assoc]
        rfl
      have hnot : ∀ x, isLabelChar x = false → x ≠ '=' → x ∉ chars ++ ['='] := by
        intro x hx hequals hmem
        rcases List.mem_append.mp hmem with hmem | hmem
        · have hxname := hname.chars x
            (by rw [hchars]; exact List.mem_cons_of_mem _ hmem)
          rw [hx] at hxname
          cases hxname
        · exact hequals (List.mem_singleton.mp hmem)
      rw [escape_eq_literal (hnot '"' (by decide) (by decide))
        (hnot '\\' (by decide) (by decide)) hliteral]
      exact hrest

/-- No match starts in a value. -/
theorem search_value (value : List Char) {rest : List Char}
    (hrest : Scan.Stops digits.isDigit rest) :
    Scan.search (digitsPattern digits name) (escape value ++ '"' :: rest)
      = Scan.search (digitsPattern digits name) rest := by
  induction value with
  | nil => exact search_skip_char hname (by decide) rest
  | cons c value ih =>
      rw [escape_cons, List.append_assoc]
      rcases escapeChar_cases c with hc | ⟨x, hc⟩
      · rw [hc, List.singleton_append,
          Scan.search_of_none (digitsPattern_in_value hname c value hrest)]
        exact ih
      · rw [hc, List.cons_append, search_skip_char hname (by decide),
          List.singleton_append,
          Scan.search_of_none (digitsPattern_in_value hname x value hrest)]
        exact ih

/-- Elsewhere in the name of a label there is no match. -/
theorem digitsPattern_not_name {text : List Char}
    (htext : ∀ c ∈ text, isLabelChar c) {l : Label}
    (h : ¬ (text = name.toList ∧ searchable digits l)) (rest : List Char) :
    digitsPattern digits name (text ++ behindName l rest) = none := by
  unfold digitsPattern
  cases hdrop : (text ++ behindName l rest).dropPrefix?
      (name.toList ++ ['=', '"']) with
  | none => rfl
  | some rest' =>
      have heq := Scan.dropPrefix_eq_some.mp hdrop
      rw [List.append_assoc] at heq
      have hequals : Scan.Stops isLabelChar (['=', '"'] ++ rest') :=
        Scan.stops_cons.mpr (by decide)
      have htextName : text = name.toList := by
        rw [← Scan.takeWhile_of_stops htext (stops_behindName l rest), heq,
          Scan.takeWhile_of_stops hname.chars hequals]
      rw [htextName] at heq
      obtain ⟨hbefore, hafter, hrest⟩ :=
        behindName_eq (List.append_cancel_left heq)
      refine if_neg fun hmatch => h ⟨htextName, searchable_iff.mpr ?_⟩
      have hall : l.value.all digits.isDigit := by
        rw [← quote_behind_digits l.value (l.trail.text ++ rest), ← hrest]
        exact hmatch.2
      refine ⟨hbefore, hafter, ?_, hall⟩
      rw [← digits_of_all hall (l.trail.text ++ rest), ← hrest]
      exact hmatch.1

/-- The search from a position of a label's name on. -/
theorem search_name {text : List Char} (htext : ∀ c ∈ text, isLabelChar c)
    (l : Label) (rest : List Char) :
    Scan.search (digitsPattern digits name) (text ++ behindName l rest)
      = if name.toList <:+ text ∧ searchable digits l then some l.value
        else Scan.search (digitsPattern digits name) (behindName l rest) := by
  induction text with
  | nil =>
      refine (if_neg fun h => ?_).symm
      exact hname.ne_nil (List.suffix_nil.mp h.1)
  | cons c text ih =>
      have hrest := ih fun x hx => htext x (List.mem_cons_of_mem _ hx)
      by_cases hhere : c :: text = name.toList ∧ searchable digits l
      · have hmatch := digitsPattern_name name hhere.2 rest
        rw [← hhere.1] at hmatch ⊢
        rw [if_pos ⟨List.suffix_refl _, hhere.2⟩]
        exact Scan.search_of_some hmatch
      · have hnone := digitsPattern_not_name hname htext hhere rest
        refine (Scan.search_of_none hnone).trans (hrest.trans ?_)
        refine if_congr ?_ rfl rfl
        rw [List.suffix_cons_iff]
        constructor
        · rintro ⟨hsuffix, hread⟩
          exact ⟨.inr hsuffix, hread⟩
        · rintro ⟨hsuffix | hsuffix, hread⟩
          · exact absurd ⟨hsuffix.symm, hread⟩ hhere
          · exact ⟨hsuffix, hread⟩

/-- The search over one label. -/
theorem search_label (l : Label) {rest : List Char}
    (hrest : Scan.Stops digits.isDigit rest) :
    Scan.search (digitsPattern digits name) (l.text ++ rest)
      = (labelDigits digits name l).or
        (Scan.search (digitsPattern digits name) rest) := by
  have htext : l.text ++ rest
      = l.lead.text ++ (l.name.text ++ behindName l rest) := by
    unfold Label.text behindName
    simp
  have htrail : Scan.Stops digits.isDigit (l.trail.text ++ rest) :=
    .append (fun c hc => not_isDigit_of_isBlank (l.trail.chars c hc)) hrest
  have hbehind : Scan.search (digitsPattern digits name) (behindName l rest)
      = Scan.search (digitsPattern digits name) rest := by
    unfold behindName Label.quoted
    rw [search_skip_blanks hname, search_skip_char hname (by decide),
      search_skip_blanks hname, List.cons_append,
      search_skip_char hname (by decide), List.append_assoc, List.cons_append,
      search_value hname l.value htrail, search_skip_blanks hname]
  rw [htext, search_skip_blanks hname, search_name hname l.name.chars, hbehind]
  unfold labelDigits
  split <;> rfl

/-- The search over all labels takes the first that it can. -/
theorem search_labelsText (ls : List Label) {tail : List Char}
    (hlabel : ∀ c ∈ tail, isLabelChar c = false)
    (hdigit : Scan.Stops digits.isDigit tail) :
    Scan.search (digitsPattern digits name) (labelsText ls tail)
      = ls.findSome? (labelDigits digits name) := by
  have htail : Scan.search (digitsPattern digits name) tail = none := by
    have hskip : Scan.search (digitsPattern digits name) (tail ++ [])
        = Scan.search (digitsPattern digits name) [] :=
      search_skip hname hlabel []
    rw [List.append_nil] at hskip
    rw [hskip]
    exact digitsPattern_of_stops hname (Scan.stops_nil _)
  have hcons : ∀ l ls, (l :: ls).findSome? (labelDigits digits name)
      = (labelDigits digits name l).or (ls.findSome? (labelDigits digits name)) := by
    intro l ls
    rw [List.findSome?_cons]
    cases labelDigits digits name l <;> rfl
  fun_induction labelsText ls tail with
  | case1 tail => exact htail
  | case2 l tail => rw [search_label hname l hdigit, htail, hcons, List.findSome?_nil]
  | case3 l l' ls tail ih =>
      have hcomma : Scan.Stops digits.isDigit
          (',' :: labelsText (l' :: ls) tail) :=
        Scan.stops_cons.mpr (DecimalDigits.isDigit_of_ascii (by decide))
      rw [search_label hname l hcomma, search_skip_char hname (by decide),
        ih hlabel hdigit htail, hcons l]

/-- The search between the braces of a sample. -/
theorem search_inside (b : Braces) :
    Scan.search (digitsPattern digits name) b.inside
      = b.labels.findSome? (labelDigits digits name) := by
  have hcomma : ∀ c ∈ (if b.comma then [','] else []), c = ',' := by
    cases b.comma <;> simp
  refine search_labelsText hname b.labels ?_ ?_
  · intro c hc
    rcases List.mem_append.mp hc with hc | hc
    · rw [hcomma c hc]
      decide
    · exact not_labelChar_of_isBlank (b.tail.chars c hc)
  · refine .append (fun c hc => ?_) fun c hc => ?_
    · rw [hcomma c hc]
      exact DecimalDigits.isDigit_of_ascii (by decide)
    · exact not_isDigit_of_isBlank (b.tail.chars c (List.mem_of_mem_head? hc))

end Name

end Label

end Kareserve
