/-
JSON values as Python reads them: what `json.loads` can return, and the
operations of untyped code on such a value. An operation on a value of the
wrong shape raises, and which exception it raises depends on the shape.

# Numbers

An integer is unbounded. A float is a rational or one of the three values
`json.loads` also accepts, NaN and the two infinities; a literal too large
for a float is an infinity.

# Parameters

`Builtins` has what depends on Unicode tables and on the printing of
floats: `int(s)` of a string, and `str(x)` of what is no string.
-/
import Kareserve.Lib.Dict
import Kareserve.Lib.Fault
import Mathlib.Data.Rat.Defs

namespace PyJson

/-- A float. -/
inductive Float where
  | finite (value : ℚ)
  | nan
  | infinite (negative : Bool)
  deriving DecidableEq

/-- What `json.loads` returns. -/
inductive Json where
  | null
  | bool (value : Bool)
  | int (value : ℤ)
  | float (value : Float)
  | string (value : String)
  | list (items : List Json)
  /-- The members in the order of the text; of two with one name the later
  counts. -/
  | dict (members : List (String × Json))

/-- The exceptions of built-in operations on such a value. -/
inductive Exc where
  | attributeError
  | typeError
  | overflowError
  | valueError
  deriving DecidableEq

/-- What of Python's built-in functions depends on a table that is not
modelled. -/
structure Builtins where
  /-- `int(s)`, where it does not raise. -/
  parseInt : String → Option ℤ
  /-- `str(x)` of a value that is no string. -/
  render : Json → String

namespace Json

-- ============================================================ operations

/-- A member of a dict. -/
def member (members : List (String × Json)) (name : String) : Option Json :=
  (PyDict.ofList members).get name

/-- `x.get(name, default)`. -/
def get (x : Json) (name : String) (default : Json) : Except Exc Json :=
  match x with
  | .dict members => .ok ((member members name).getD default)
  | _ => .error .attributeError

/-- A read of a dict whose names are distinct. -/
theorem get_of_mem {members : List (String × Json)}
    (hnodup : (members.map Prod.fst).Nodup) {name : String} {value : Json}
    (hmem : (name, value) ∈ members) (default : Json) :
    (Json.dict members).get name default = .ok value := by
  show Except.ok (((PyDict.ofList members).get name).getD default) = .ok value
  rw [(PyDict.get_ofList_eq_some hnodup).mpr hmem]
  rfl

/-- `list(x)`: what a loop over `x` goes through. -/
def iter : Json → Except Exc (List Json)
  | .list items => .ok items
  | .string s => .ok (s.toList.map fun c => .string (String.singleton c))
  | .dict members => .ok ((PyDict.ofList members).keys.map .string)
  | _ => .error .typeError

/-- `x.items()`. -/
def pairs : Json → Except Exc (List (String × Json))
  | .dict members => .ok (PyDict.ofList members).items
  | _ => .error .attributeError

/-- `x[name]`; `none` is a `KeyError`. -/
def item (x : Json) (name : String) : Except Exc (Option Json) :=
  match x with
  | .dict members => .ok (member members name)
  | _ => .error .typeError

/-- `bool(x)`. -/
def truthy : Json → Bool
  | .null => false
  | .bool value => value
  | .int value => decide (value ≠ 0)
  | .float (.finite value) => decide (value ≠ 0)
  | .float _ => true
  | .string s => decide (s ≠ "")
  | .list items => !items.isEmpty
  | .dict members => !members.isEmpty

/-- `x == s` for a string. -/
def isString (x : Json) (s : String) : Bool :=
  match x with
  | .string t => decide (t = s)
  | _ => false

variable (b : Builtins)

/-- `int(x)`. -/
def toInt : Json → Except Exc ℤ
  | .bool value => .ok (if value then 1 else 0)
  | .int value => .ok value
  | .float (.finite value) => .ok (value.num.tdiv value.den)
  | .float .nan => .error .valueError
  | .float (.infinite _) => .error .overflowError
  | .string s =>
      match b.parseInt s with
      | some n => .ok n
      | none => .error .valueError
  | _ => .error .typeError

/-- `str(x)`. -/
def toStr : Json → String
  | .string s => s
  | x => b.render x

end Json

/-- What the elements of a set are told apart by. Numbers of different
types are one element, and so are the NaNs of a text, which are one
object. -/
inductive HashKey where
  | null
  | number (value : ℚ)
  | nan
  | infinite (negative : Bool)
  | string (value : String)
  deriving DecidableEq

namespace Json

/-- `x` as an element of a set. -/
def hashKey : Json → Except Exc HashKey
  | .null => .ok .null
  | .bool value => .ok (.number (if value then 1 else 0))
  | .int value => .ok (.number value)
  | .float (.finite value) => .ok (.number value)
  | .float .nan => .ok .nan
  | .float (.infinite negative) => .ok (.infinite negative)
  | .string s => .ok (.string s)
  | _ => .error .typeError

/-- An element of a sequence that `dict` is given. -/
def pair (x : Json) : Except Exc (HashKey × Json) := do
  match ← x.iter with
  | [key, value] => return (← key.hashKey, value)
  | _ => throw .valueError

/-- `dict(x)`. -/
def toDict (x : Json) : Except Exc (PyDict HashKey Json) :=
  match x with
  | .dict members =>
      .ok (.ofList (members.map fun p => (.string p.1, p.2)))
  | x => do
      let elements ← x.iter
      return .ofList (← elements.mapM pair)

-- ================================================================ faults

variable (b : Builtins)

/-- The fault of `x.get`. -/
def getFaults : Json → List Exc
  | .dict _ => []
  | _ => [.attributeError]

/-- The fault of a loop over `x`. -/
def iterFaults : Json → List Exc
  | .list _ | .string _ | .dict _ => []
  | _ => [.typeError]

/-- The fault of `int(x)`. -/
def toIntFaults : Json → List Exc
  | .bool _ | .int _ | .float (.finite _) => []
  | .float .nan => [.valueError]
  | .float (.infinite _) => [.overflowError]
  | .string s => if (b.parseInt s).isSome then [] else [.valueError]
  | _ => [.typeError]

/-- What `x.get` returns, where it returns. -/
def field (x : Json) (name : String) (default : Json) : Json :=
  match x with
  | .dict members => (member members name).getD default
  | _ => default

/-- What a loop over `x` goes through, where there is one. -/
def elements : Json → List Json
  | .list items => items
  | .string s => s.toList.map fun c => .string (String.singleton c)
  | .dict members => (PyDict.ofList members).keys.map .string
  | _ => []

theorem eq_field {x : Json} {name : String} {default value : Json}
    (h : x.get name default = .ok value) : value = x.field name default := by
  cases x with
  | dict members =>
      injection h with h
      exact h.symm
  | _ => cases h

theorem eq_elements {x : Json} {items : List Json} (h : x.iter = .ok items) :
    items = x.elements := by
  cases x with
  | list items' =>
      injection h with h
      exact h.symm
  | string s =>
      injection h with h
      exact h.symm
  | dict members =>
      injection h with h
      exact h.symm
  | _ => cases h

/-- `get` fails with the fault of a value that is no object, or returns. -/
theorem get_failsFirst (x : Json) (name : String) (default : Json) :
    Fault.FailsFirst (x.get name default) x.getFaults := by
  cases x with
  | dict members => exact .ok _
  | _ => rfl

/-- Iterating fails with the fault of what has no elements, or returns. -/
theorem iter_failsFirst (x : Json) :
    Fault.FailsFirst x.iter x.iterFaults := by
  cases x with
  | list items => exact .ok _
  | string s => exact .ok _
  | dict members => exact .ok _
  | _ => rfl

/-- `int` fails with the fault of what it cannot convert, or returns. -/
theorem toInt_failsFirst (x : Json) :
    Fault.FailsFirst (x.toInt b) (x.toIntFaults b) := by
  cases x with
  | bool value => exact .ok _
  | int value => exact .ok _
  | float value =>
      cases value with
      | finite value => exact .ok _
      | nan => exact .error _ _
      | infinite negative => exact .error _ _
  | string s =>
      simp only [toInt, toIntFaults]
      cases b.parseInt s with
      | some n => exact .ok _
      | none => rfl
  | _ => rfl

-- ================================================================= dicts

/-- `dict(x)` has these entries, under texts: `x` is an object, a list of
things with two elements, or the text without any. -/
def ReadsAs (x : Json) (entries : List (String × Json)) : Prop :=
  match x with
  | .dict members => entries = members
  | .list items => List.Forall₂
      (fun item p => item.iter = .ok [.string p.1, p.2]) items entries
  | .string s => s = "" ∧ entries = []
  | _ => False

/-- A text is its own key, and no other value has its key. -/
theorem hashKey_eq_string {x : Json} {name : String} :
    x.hashKey = .ok (.string name) ↔ x = .string name := by
  constructor
  · intro h
    cases x with
    | string s =>
        injection h with h
        injection h with h
        rw [h]
    | bool value => cases h
    | int value => cases h
    | null => cases h
    | list items => cases h
    | dict members => cases h
    | float value => cases value <;> cases h
  · rintro rfl
    rfl

theorem pair_eq_string {x value : Json} {name : String} :
    x.pair = .ok (.string name, value) ↔ x.iter = .ok [.string name, value] := by
  constructor
  · intro h
    unfold pair at h
    obtain ⟨elements, helements, h⟩ := Fault.exists_of_bind h
    rw [helements]
    split at h
    next key value' =>
      obtain ⟨hash, hhash, h⟩ := Fault.exists_of_bind h
      injection h with h
      injection h with hkey hvalue
      rw [hkey] at hhash
      rw [hashKey_eq_string.mp hhash, hvalue]
    next => cases h
  · intro h
    unfold pair
    rw [Fault.bind_ok h]
    rfl

/-- A character is no pair. -/
theorem not_pair_char (c : Char) :
    (Json.string (String.singleton c)).pair = .error .valueError := by
  have hiter : (Json.string (String.singleton c)).iter
      = .ok [.string (String.singleton c)] := by
    show Except.ok ((String.singleton c).toList.map _) = _
    rw [String.toList_singleton]
    rfl
  unfold pair
  rw [Fault.bind_ok hiter]
  rfl

/-- Pairs under texts are entries. -/
theorem exists_entries {P : String → Prop} {items : List Json}
    {pairs : List (HashKey × Json)}
    (hpairs : List.Forall₂ (fun item p => item.pair = .ok p) items pairs)
    (htexts : ∀ p ∈ pairs, ∃ name, p.1 = .string name ∧ P name) :
    ∃ entries, (list items).ReadsAs entries ∧ ∀ p ∈ entries, P p.1 := by
  induction hpairs with
  | nil => exact ⟨[], .nil, fun p hp => by cases hp⟩
  | @cons item p items pairs hitem _ ih =>
      obtain ⟨entries, hentries, hrest⟩ :=
        ih fun q hq => htexts q (List.mem_cons_of_mem _ hq)
      obtain ⟨name, hname, hP⟩ := htexts p (List.mem_cons_self ..)
      obtain ⟨key, value⟩ := p
      dsimp only at hname
      subst hname
      refine ⟨(name, value) :: entries,
        .cons (pair_eq_string.mp hitem) hentries, fun q hq => ?_⟩
      rcases List.mem_cons.mp hq with rfl | hq
      · exact hP
      · exact hrest q hq

/-- What is read as a dict under texts alone. -/
theorem toDict_texts_iff {x : Json} {P : String → Prop} :
    (∃ d, x.toDict = .ok d ∧ ∀ key ∈ d.keys, ∃ name, key = .string name ∧ P name)
      ↔ ∃ entries, x.ReadsAs entries ∧ ∀ p ∈ entries, P p.1 := by
  -- the keys of a dict are the first parts of the pairs it was built from
  have hkeys : ∀ {l : List (HashKey × Json)},
      (∀ key ∈ (PyDict.ofList l).keys, ∃ name, key = .string name ∧ P name)
        ↔ ∀ p ∈ l, ∃ name, p.1 = .string name ∧ P name := by
    intro l
    constructor
    · intro h p hp
      exact h p.1 (PyDict.mem_keys_iff.mpr
        (PyDict.exists_get_ofList (List.mem_map.mpr ⟨p, hp, rfl⟩)))
    · intro h key hkey
      obtain ⟨value, hget⟩ := PyDict.mem_keys_iff.mp hkey
      exact h (key, value) (PyDict.mem_of_get_ofList hget)
  cases x with
  | dict members =>
      constructor
      · rintro ⟨d, hd, hall⟩
        injection hd with hd
        subst hd
        refine ⟨members, rfl, fun p hp => ?_⟩
        obtain ⟨name, hname, hP⟩ := hkeys.mp hall _
          (List.mem_map.mpr ⟨p, hp, rfl⟩)
        injection hname with hname
        rw [hname]
        exact hP
      · rintro ⟨entries, rfl, hall⟩
        refine ⟨_, rfl, hkeys.mpr fun p hp => ?_⟩
        obtain ⟨q, hq, rfl⟩ := List.mem_map.mp hp
        exact ⟨q.1, rfl, hall q hq⟩
  | list items =>
      constructor
      · rintro ⟨d, hd, hall⟩
        obtain ⟨elements, helements, hd⟩ := Fault.exists_of_bind hd
        injection helements with helements
        subst helements
        obtain ⟨pairs, hpairs, hd⟩ := Fault.exists_of_bind hd
        injection hd with hd
        subst hd
        exact exists_entries (Fault.forall₂_of_mapM hpairs) (hkeys.mp hall)
      · rintro ⟨entries, hentries, hall⟩
        have hpairs : items.mapM pair
            = .ok (entries.map fun p => (.string p.1, p.2)) := by
          apply Fault.mapM_of_forall₂
          rw [List.forall₂_map_right_iff]
          exact List.Forall₂.imp (fun _ _ h => pair_eq_string.mpr h) hentries
        refine ⟨_, Fault.bind_ok hpairs _, hkeys.mpr fun p hp => ?_⟩
        obtain ⟨q, hq, rfl⟩ := List.mem_map.mp hp
        exact ⟨q.1, rfl, hall q hq⟩
  | string s =>
      constructor
      · rintro ⟨d, hd, -⟩
        obtain ⟨elements, helements, hd⟩ := Fault.exists_of_bind hd
        injection helements with helements
        subst helements
        obtain ⟨pairs, hpairs, -⟩ := Fault.exists_of_bind hd
        refine ⟨[], ⟨?_, rfl⟩, fun p hp => by cases hp⟩
        -- a text is read character by character, and a character is no pair:
        -- only the empty one passes
        by_contra hs
        obtain ⟨c, hc⟩ := List.exists_mem_of_ne_nil s.toList fun hnil =>
          hs (String.toList_inj.mp hnil)
        obtain ⟨p, hp⟩ := Fault.exists_ok_of_mapM hpairs
          (List.mem_map.mpr ⟨c, hc, rfl⟩)
        rw [not_pair_char] at hp
        cases hp
      · rintro ⟨entries, ⟨rfl, rfl⟩, -⟩
        exact ⟨.empty, rfl, fun key hkey => by cases hkey⟩
  -- what cannot be iterated is read as nothing
  | null => exact iff_of_false (fun ⟨d, hd, _⟩ => by cases hd) fun ⟨_, h, _⟩ => h
  | bool value =>
      exact iff_of_false (fun ⟨d, hd, _⟩ => by cases hd) fun ⟨_, h, _⟩ => h
  | int value =>
      exact iff_of_false (fun ⟨d, hd, _⟩ => by cases hd) fun ⟨_, h, _⟩ => h
  | float value =>
      exact iff_of_false (fun ⟨d, hd, _⟩ => by cases hd) fun ⟨_, h, _⟩ => h

/-- What `dict` raises. -/
theorem toDict_error {x : Json} {exc : Exc} (h : x.toDict = .error exc) :
    exc = .typeError ∨ exc = .valueError := by
  -- what cannot be iterated
  have hiter : ∀ {y : Json}, y.iter = .error exc → exc = .typeError := by
    intro y hy
    cases y with
    | list items => cases hy
    | string s => cases hy
    | dict members => cases hy
    | _ =>
        injection hy with hy
        exact hy.symm
  -- an element that is no pair, or a pair whose key cannot be hashed
  have helements : ∀ {elements : List Json},
      elements.mapM pair = .error exc → exc = .typeError ∨ exc = .valueError := by
    intro elements hmapM
    obtain ⟨y, -, hy⟩ := Fault.error_of_mapM hmapM
    rcases Fault.error_of_bind hy with hy | ⟨items, -, hy⟩
    · exact Or.inl (hiter hy)
    · split at hy
      next key value =>
        rcases Fault.error_of_bind hy with hy | ⟨hash, -, hy⟩
        · left
          cases key with
          | list items =>
              injection hy with hy
              exact hy.symm
          | dict members =>
              injection hy with hy
              exact hy.symm
          | float value => cases value <;> cases hy
          | _ => cases hy
        · cases hy
      next =>
        injection hy with hy
        exact Or.inr hy.symm
  cases x with
  | dict members => cases h
  | _ =>
      rcases Fault.error_of_bind h with h | ⟨elements, -, h⟩
      · exact Or.inl (hiter h)
      · rcases Fault.error_of_bind h with h | ⟨pairs, -, h⟩
        · exact helements h
        · cases h

end Json

end PyJson
