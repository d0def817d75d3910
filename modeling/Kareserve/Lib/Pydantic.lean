/-
Records validated from JSON, as pydantic validates them.

A record reads its fields by name from a dict: a field that is missing has
its default or is an error, and any other is converted to the type it is
declared with. Names that are not declared are passed over.

What a conversion makes of a value of another type (a text of digits for an
`int`) is left open. `Conversions` holds what every use relies on: a value
that is of the type already comes through as it is.
-/
import Kareserve.Lib.PyJson

namespace Pydantic

open PyJson (Json)

/-- The conversions to the types a field can have. -/
structure Conversions where
  int : Json → Option ℤ
  float : Json → Option PyJson.Float
  str : Json → Option String
  int_int : ∀ n, int (.int n) = some n
  float_float : ∀ x, float (.float x) = some x
  str_string : ∀ s, str (.string s) = some s

variable {α : Type} (convert : Json → Option α)

/-- A field of a record; without a default it is required. -/
def field (x : Json) (name : String) (default : Option α) : Option α :=
  match x with
  | .dict members =>
      match Json.member members name with
      | some value => convert value
      | none => default
  | _ => none

/-- A list of values of one type. -/
def listOf : Json → Option (List α)
  | .list items => items.mapM convert
  | _ => none

variable {convert}

/-- A field that is there. -/
theorem field_of_mem {members : List (String × Json)}
    (hnodup : (members.map Prod.fst).Nodup) {name : String} {value : Json}
    (hmem : (name, value) ∈ members) (default : Option α) :
    field convert (.dict members) name default = convert value := by
  have hmember : Json.member members name = some value :=
    (PyDict.get_ofList_eq_some hnodup).mpr hmem
  unfold field
  dsimp only
  rw [hmember]

/-- A list of values of which each is converted. -/
theorem listOf_map {β : Type} {f : β → Json} {g : β → α} {l : List β}
    (h : ∀ b ∈ l, convert (f b) = some (g b)) :
    listOf convert (.list (l.map f)) = some (l.map g) := by
  show (l.map f).mapM convert = some (l.map g)
  rw [List.mapM_map]
  exact Fault.mapM_of_forall_some h

end Pydantic
