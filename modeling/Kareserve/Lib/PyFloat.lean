/-
Floats as Python computes with them: sums, `max`, `int(x)`, and `float(s)`
of a number.

# Rounding

A finite float is the rational it stands for and arithmetic is exact. What
is kept of the format is its range: from `limit` on a result is an
infinity, and operations on infinities can give NaN.

# Numbers

`parse` reads a text of digits, signs, points and the letters `e` and `E`;
what else `float(s)` takes (blanks, underscores, words) is left out.
`Decimal` has the texts it accepts with the values they stand for.
-/
import Kareserve.Lib.PyJson
import Kareserve.Lib.Scan
import Mathlib.Algebra.BigOperators.Group.List.Basic
import Mathlib.Algebra.Order.Field.Rat
import Mathlib.Tactic.NormNum

namespace PyJson

namespace Float

-- ============================================================ operations

/-- From here on a number rounds to an infinity: half a unit in the last
place above the greatest float. -/
def limit : ℚ := 2 ^ 1024 - 2 ^ 970

/-- The float of a rational. -/
def ofRat (q : ℚ) : Float :=
  if |q| < limit then .finite q else .infinite (decide (q < 0))

/-- `x + y`. -/
def add : Float → Float → Float
  | .finite p, .finite q => ofRat (p + q)
  | .nan, _ => .nan
  | _, .nan => .nan
  | .infinite s, .infinite t => if s = t then .infinite s else .nan
  | .infinite s, .finite _ => .infinite s
  | .finite _, .infinite s => .infinite s

/-- `sum(items)`. -/
def sum (items : List Float) : Float := items.foldl add (.finite 0)

/-- `x * y`. -/
def mul : Float → Float → Float
  | .finite p, .finite q => ofRat (p * q)
  | .nan, _ => .nan
  | _, .nan => .nan
  | .infinite s, .infinite t => .infinite (s != t)
  | .infinite s, .finite q =>
      if q = 0 then .nan else .infinite (s != decide (q < 0))
  | .finite q, .infinite s =>
      if q = 0 then .nan else .infinite (s != decide (q < 0))

/-- `x < y`. -/
def lt : Float → Float → Bool
  | .finite p, .finite q => decide (p < q)
  | .nan, _ => false
  | _, .nan => false
  | .infinite s, .infinite t => s && !t
  | .infinite s, .finite _ => s
  | .finite _, .infinite s => !s

/-- `max` of a first item and the others. -/
def max (item : Float) (items : List Float) : Float :=
  items.foldl (fun best item => if lt best item then item else best) item

/-- `int(x)`. -/
def toInt : Float → Except Exc ℤ
  | .finite q => .ok (q.num.tdiv q.den)
  | .nan => .error .valueError
  | .infinite _ => .error .overflowError

/-- `float(x)`; what is read from a text is a parameter. -/
def ofJson (parseFloat : String → Option Float) : Json → Except Exc Float
  | .bool value => .ok (.finite (if value then 1 else 0))
  | .int value =>
      if |(value : ℚ)| < limit then .ok (.finite value)
      else .error .overflowError
  | .float x => .ok x
  | .string s =>
      match parseFloat s with
      | some x => .ok x
      | none => .error .valueError
  | _ => .error .typeError

/-- A rational in range is a float. -/
theorem ofRat_of_lt {q : ℚ} (h : |q| < limit) : ofRat q = .finite q :=
  if_pos h

-- ================================================================== sums

/-- Every partial sum is in the range of a float. -/
def InRange (acc : ℚ) : List ℚ → Prop
  | [] => True
  | q :: qs => |acc + q| < limit ∧ InRange (acc + q) qs

instance InRange.decidable (acc : ℚ) (qs : List ℚ) :
    Decidable (InRange acc qs) :=
  match qs with
  | [] => .isTrue trivial
  | q :: qs =>
      have := InRange.decidable (acc + q) qs
      inferInstanceAs (Decidable (|acc + q| < limit ∧ InRange (acc + q) qs))

/-- What is infinite stays so, whatever is added. -/
theorem foldl_add_infinite (s : Bool) (qs : List ℚ) :
    (qs.map Float.finite).foldl add (.infinite s) = .infinite s := by
  induction qs with
  | nil => rfl
  | cons q qs ih => exact ih

/-- A sum in range is exact, and any other is an infinity. -/
theorem foldl_add_finite (acc : ℚ) (qs : List ℚ) :
    (InRange acc qs
        ∧ (qs.map Float.finite).foldl add (.finite acc)
          = .finite (acc + qs.sum))
      ∨ (¬ InRange acc qs
        ∧ ∃ s, (qs.map Float.finite).foldl add (.finite acc)
          = .infinite s) := by
  induction qs generalizing acc with
  | nil => exact .inl ⟨trivial, by rw [List.sum_nil, add_zero]; rfl⟩
  | cons q qs ih =>
      rw [List.map_cons, List.foldl_cons, List.sum_cons, ← add_assoc]
      by_cases hq : |acc + q| < limit
      · have hadd : add (.finite acc) (.finite q) = .finite (acc + q) :=
          ofRat_of_lt hq
        rw [hadd]
        rcases ih (acc + q) with ⟨hrange, heq⟩ | ⟨hrange, hinf⟩
        · exact .inl ⟨⟨hq, hrange⟩, heq⟩
        · exact .inr ⟨fun h => hrange h.2, hinf⟩
      · have hadd : add (.finite acc) (.finite q)
            = .infinite (decide (acc + q < 0)) := if_neg hq
        rw [hadd]
        exact .inr ⟨fun h => hq h.1, _, foldl_add_infinite _ qs⟩

/-- A sum is finite if all its partial sums are in range. -/
theorem sum_of_inRange {qs : List ℚ} (h : InRange 0 qs) :
    sum (qs.map Float.finite) = .finite qs.sum := by
  rcases foldl_add_finite 0 qs with ⟨-, heq⟩ | ⟨hnot, -⟩
  · rw [zero_add] at heq
    exact heq
  · exact absurd h hnot

/-- A sum that once leaves the range is infinite. -/
theorem sum_of_not_inRange {qs : List ℚ} (h : ¬ InRange 0 qs) :
    ∃ s, sum (qs.map Float.finite) = .infinite s := by
  rcases foldl_add_finite 0 qs with ⟨hrange, -⟩ | ⟨-, hinf⟩
  · exact absurd hrange h
  · exact hinf

theorem sum_eq_finite_iff {qs : List ℚ} {q : ℚ} :
    sum (qs.map Float.finite) = .finite q ↔ InRange 0 qs ∧ qs.sum = q := by
  by_cases h : InRange 0 qs
  · rw [sum_of_inRange h, Float.finite.injEq]
    exact (and_iff_right h).symm
  · obtain ⟨s, hs⟩ := sum_of_not_inRange h
    rw [hs]
    exact iff_of_false (fun heq => by cases heq) fun hand => h hand.1

/-- `max` of finite floats. -/
theorem max_finite (q : ℚ) (qs : List ℚ) :
    max (.finite q) (qs.map Float.finite)
      = .finite (qs.foldl (fun best q => Max.max best q) q) := by
  unfold max
  induction qs generalizing q with
  | nil => rfl
  | cons r qs ih =>
      rw [List.map_cons, List.foldl_cons, List.foldl_cons, ← ih]
      congr 1
      show (if decide (q < r) then Float.finite r else .finite q) = _
      by_cases h : q < r
      · rw [if_pos (decide_eq_true h), max_eq_right h.le]
      · rw [if_neg (by simpa using h), max_eq_left (not_lt.mp h)]

/-- `max` of finite floats is the greatest of them. -/
theorem max_eq_finite_iff {q m : ℚ} {qs : List ℚ} :
    max (.finite q) (qs.map Float.finite) = .finite m
      ↔ m ∈ q :: qs ∧ ∀ r ∈ q :: qs, r ≤ m := by
  rw [max_finite, Float.finite.injEq, ← List.max?_eq_some_iff,
    List.max?_cons', Option.some.injEq]

-- =============================================================== numbers

/-- The sign of a number, and whether it is a minus. -/
def readSign : List Char → Bool × List Char
  | '-' :: s => (true, s)
  | '+' :: s => (false, s)
  | s => (false, s)

/-- A number with its sign. -/
def signed {R : Type*} [Neg R] (minus : Bool) (x : R) : R :=
  if minus then -x else x

/-- The exponent at the end of a number. -/
def readExponent : List Char → Option ℤ
  | [] => some 0
  | c :: s =>
      if c = 'e' ∨ c = 'E' then
        let (minus, digits) := readSign s
        if digits ≠ [] ∧ digits.all Char.isDigit then
          some (signed minus (Nat.ofDigitChars 10 digits 0 : ℤ))
        else none
      else none

/-- The digits behind a point. -/
def readFraction : List Char → List Char × List Char
  | '.' :: s => (s.takeWhile Char.isDigit, s.dropWhile Char.isDigit)
  | s => ([], s)

/-- What a number stands for. -/
def decimalValue (minus : Bool) (whole fraction : List Char)
    (exponent : ℤ) : ℚ :=
  signed minus ((Nat.ofDigitChars 10 (whole ++ fraction) 0 : ℚ)
    * 10 ^ (exponent - fraction.length))

/-- `float(s)` of a text of digits, signs, points and exponent letters. -/
def parse (s : List Char) : Option Float :=
  let (minus, s) := readSign s
  let whole := s.takeWhile Char.isDigit
  let (fraction, s) := readFraction (s.dropWhile Char.isDigit)
  if whole = [] ∧ fraction = [] then none
  else
    (readExponent s).map fun exponent =>
      ofRat (decimalValue minus whole fraction exponent)

end Float

-- ============================================================== decimals

/-- The sign before a number, as it is written. -/
inductive Sign where
  | none
  | plus
  | minus
  deriving DecidableEq

/-- How a sign is written. -/
def Sign.text : Sign → List Char
  | .none => []
  | .plus => ['+']
  | .minus => ['-']

def Sign.isMinus (sign : Sign) : Bool := decide (sign = .minus)

/-- An exponent, as it may be written. -/
structure Exponent where
  upper : Bool
  sign : Sign
  digits : List Char
  digits_ne : digits ≠ []
  isDigit : ∀ c ∈ digits, c.isDigit

def Exponent.text (e : Exponent) : List Char :=
  (if e.upper then 'E' else 'e') :: (e.sign.text ++ e.digits)

def Exponent.value (e : Exponent) : ℤ :=
  Float.signed e.sign.isMinus (Nat.ofDigitChars 10 e.digits 0 : ℤ)

/-- A decimal number as it is written, with digits before or behind the
point or both. -/
structure Decimal where
  sign : Sign
  whole : List Char
  /-- The digits behind the point, if there is a point. -/
  fraction : Option (List Char)
  exponent : Option Exponent
  digits_ne : whole ≠ [] ∨ fraction.getD [] ≠ []
  whole_isDigit : ∀ c ∈ whole, c.isDigit
  fraction_isDigit : ∀ c ∈ fraction.getD [], c.isDigit

namespace Decimal

/-- How a fraction is written. -/
def fractionText (d : Decimal) : List Char :=
  d.fraction.elim [] fun digits => '.' :: digits

/-- How an exponent is written, with its sign. -/
def exponentText (d : Decimal) : List Char := d.exponent.elim [] Exponent.text

/-- How a decimal is written. -/
def text (d : Decimal) : List Char :=
  d.sign.text ++ (d.whole ++ (d.fractionText ++ d.exponentText))

/-- What a decimal stands for. -/
def value (d : Decimal) : ℚ :=
  Float.decimalValue d.sign.isMinus d.whole (d.fraction.getD [])
    (d.exponent.elim 0 Exponent.value)

end Decimal

/-- The characters of a decimal number. -/
def isNumberChar (c : Char) : Bool :=
  c.isDigit || c ∈ ['-', '+', '.', 'e', 'E']

theorem isNumberChar_of_isDigit {c : Char} (h : c.isDigit) :
    isNumberChar c := by
  unfold isNumberChar
  rw [h, Bool.true_or]

def isSign (c : Char) : Bool := c = '-' || c = '+'

theorem isSign_of_isDigit {c : Char} (h : c.isDigit) : isSign c = false := by
  unfold isSign
  rw [Bool.or_eq_false_iff, decide_eq_false_iff_not, decide_eq_false_iff_not]
  constructor
  · rintro rfl
    exact absurd h (by decide)
  · rintro rfl
    exact absurd h (by decide)

theorem Sign.text_isNumberChar (sign : Sign) :
    ∀ c ∈ sign.text, isNumberChar c := by
  refine List.all_eq_true.mp ?_
  cases sign <;> rfl

/-- A sign is told from the digits or the point behind it. -/
theorem Float.readSign_text (sign : Sign) {s : List Char}
    (h : Scan.Stops isSign s) :
    Float.readSign (sign.text ++ s) = (sign.isMinus, s) := by
  cases sign with
  | plus => rfl
  | minus => rfl
  | none =>
      show Float.readSign s = (false, s)
      unfold Float.readSign
      split
      · exact absurd (Scan.stops_cons.mp h) (by decide)
      · exact absurd (Scan.stops_cons.mp h) (by decide)
      · rfl

namespace Exponent

theorem text_isNumberChar (e : Exponent) : ∀ c ∈ e.text, isNumberChar c := by
  intro c hc
  unfold text at hc
  rcases List.mem_cons.mp hc with rfl | hc
  · cases e.upper <;> decide
  · rcases List.mem_append.mp hc with hc | hc
    · exact e.sign.text_isNumberChar c hc
    · exact isNumberChar_of_isDigit (e.isDigit c hc)

/-- An exponent that is written is read back. -/
theorem readExponent_text (e : Exponent) :
    Float.readExponent e.text = some e.value := by
  have hall : e.digits.all Char.isDigit = true := List.all_eq_true.mpr e.isDigit
  have hletter : (if e.upper then 'E' else 'e') = 'e'
      ∨ (if e.upper then 'E' else 'e') = 'E' := by
    cases e.upper
    · exact .inl rfl
    · exact .inr rfl
  have hdigits : Scan.Stops isSign e.digits := fun c hc =>
    isSign_of_isDigit (e.isDigit c (List.mem_of_mem_head? hc))
  unfold text
  rw [Float.readExponent, if_pos hletter, Float.readSign_text e.sign hdigits]
  exact if_pos ⟨e.digits_ne, hall⟩

end Exponent

namespace Decimal

variable (d : Decimal)

theorem exponentText_isNumberChar : ∀ c ∈ d.exponentText, isNumberChar c := by
  intro c hc
  unfold exponentText at hc
  cases hexp : d.exponent with
  | none =>
      rw [hexp] at hc
      cases hc
  | some e =>
      rw [hexp] at hc
      exact e.text_isNumberChar c hc

theorem fractionText_isNumberChar : ∀ c ∈ d.fractionText, isNumberChar c := by
  intro c hc
  unfold fractionText at hc
  cases hfraction : d.fraction with
  | none =>
      rw [hfraction] at hc
      cases hc
  | some digits =>
      have hdigits := d.fraction_isDigit
      rw [hfraction] at hc hdigits
      rcases List.mem_cons.mp hc with rfl | hc
      · decide
      · exact isNumberChar_of_isDigit (hdigits c hc)

theorem text_isNumberChar : ∀ c ∈ d.text, isNumberChar c := by
  intro c hc
  unfold text at hc
  rcases List.mem_append.mp hc with hc | hc
  · exact d.sign.text_isNumberChar c hc
  rcases List.mem_append.mp hc with hc | hc
  · exact isNumberChar_of_isDigit (d.whole_isDigit c hc)
  rcases List.mem_append.mp hc with hc | hc
  · exact d.fractionText_isNumberChar c hc
  · exact d.exponentText_isNumberChar c hc

theorem text_ne_nil : d.text ≠ [] := by
  intro h
  unfold text fractionText at h
  rw [List.append_eq_nil_iff, List.append_eq_nil_iff,
    List.append_eq_nil_iff] at h
  obtain ⟨-, hwhole, hfraction, -⟩ := h
  rcases d.digits_ne with hne | hne
  · exact hne hwhole
  · cases hd : d.fraction with
    | none =>
        rw [hd] at hne
        exact hne rfl
    | some digits =>
        rw [hd] at hfraction
        cases hfraction

/-- The exponent starts with a letter. -/
theorem stops_exponentText : Scan.Stops Char.isDigit d.exponentText := by
  unfold exponentText
  cases d.exponent with
  | none => exact Scan.stops_nil _
  | some e =>
      refine Scan.stops_cons.mpr ?_
      cases e.upper <;> decide

theorem stops_fractionText :
    Scan.Stops Char.isDigit (d.fractionText ++ d.exponentText) := by
  unfold fractionText
  cases d.fraction with
  | none => exact d.stops_exponentText
  | some digits => exact Scan.stops_cons.mpr (by decide)

theorem readExponent_exponentText :
    Float.readExponent d.exponentText
      = some (d.exponent.elim 0 Exponent.value) := by
  unfold exponentText
  cases d.exponent with
  | none => rfl
  | some e => exact e.readExponent_text

/-- A written fraction is read back. -/
theorem readFraction_text :
    Float.readFraction (d.fractionText ++ d.exponentText)
      = (d.fraction.getD [], d.exponentText) := by
  have hdigits := d.fraction_isDigit
  have hstops := d.stops_exponentText
  unfold fractionText
  cases hfraction : d.fraction with
  | none =>
      show Float.readFraction d.exponentText = ([], d.exponentText)
      unfold exponentText
      cases d.exponent with
      | none => rfl
      | some e =>
          show Float.readFraction e.text = ([], e.text)
          unfold Exponent.text
          cases e.upper <;> rfl
  | some digits =>
      rw [hfraction, Option.getD_some] at hdigits
      show ((digits ++ d.exponentText).takeWhile Char.isDigit,
          (digits ++ d.exponentText).dropWhile Char.isDigit)
        = (digits, d.exponentText)
      rw [Scan.takeWhile_of_stops hdigits hstops]
      rw [Scan.dropWhile_of_stops hdigits hstops]

/-- `float(s)` of a decimal number. -/
theorem parse_text : Float.parse d.text = some (Float.ofRat d.value) := by
  have hbody : Scan.Stops isSign
      (d.whole ++ (d.fractionText ++ d.exponentText)) := by
    cases hwhole : d.whole with
    | cons c whole =>
        refine Scan.stops_cons.mpr (isSign_of_isDigit ?_)
        exact d.whole_isDigit c (by rw [hwhole]; exact List.mem_cons_self ..)
    | nil =>
        have hne := d.digits_ne
        unfold fractionText
        cases hfraction : d.fraction with
        | none =>
            rw [hwhole, hfraction] at hne
            rcases hne with hne | hne <;> exact absurd rfl hne
        | some digits => exact Scan.stops_cons.mpr (by decide)
  unfold Float.parse text
  rw [Float.readSign_text d.sign hbody]
  dsimp only
  rw [Scan.takeWhile_of_stops d.whole_isDigit d.stops_fractionText,
    Scan.dropWhile_of_stops d.whole_isDigit d.stops_fractionText,
    d.readFraction_text]
  dsimp only
  rw [if_neg, d.readExponent_exponentText]
  · rfl
  · rintro ⟨hwhole, hfraction⟩
    exact d.digits_ne.elim (fun h => h hwhole) fun h => h hfraction

end Decimal

end PyJson
