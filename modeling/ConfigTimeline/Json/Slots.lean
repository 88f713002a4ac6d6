import ConfigTimeline.Json.Value

/-!
Records inside JSON values. A record with declared fields is written as an object, whose members
may come in any order with others between them, or as an array of its fields in order of
declaration. Both are read into one slot per declared field; what an absent field means is for the
record to say: it may be required, optional, or have a default.
-/

namespace ConfigTimeline.Json

/-- One slot per declared field: the value of the field, or `none` where it is absent. A declared
field may not be repeated in an object, no name in it may be half of a surrogate pair, and an array
may not be longer than the declaration. -/
def slots (fields : List String) : Json → Option (List (Option Json))
  | .obj members =>
      if members.all (·.1.isSome) ∧
          fields.all (fun f => (members.filter (·.1 == some f)).length ≤ 1) then
        some (fields.map fun f => (members.find? (·.1 == some f)).map (·.2))
      else none
  | .arr items =>
      if items.length ≤ fields.length then
        some (items.map some ++ List.replicate (fields.length - items.length) none)
      else none
  | _ => none

def required {α : Type} (read : Json → Option α) (slot : Option Json) : Option α :=
  slot.bind read

/-- A field that may be absent or null. -/
def optional {α : Type} (read : Json → Option α) : Option Json → Option (Option α)
  | none => some none
  | some .null => some none
  | some j => (read j).map some

/-- A field that may be absent, and then has a value of its own. -/
def defaulted {α : Type} (value : α) (read : Json → Option α) : Option Json → Option α
  | none => some value
  | some j => read j

def listOf {α : Type} (read : Json → Option α) (j : Json) : Option (List α) :=
  j.items?.bind fun items => items.mapM read

/-- The name of a case of an enumeration: a string, or an object whose only member has that name
and is null. -/
def caseName? : Json → Option String
  | .str s => s
  | .obj [(name, .null)] => name
  | _ => none

/-- A field in an object that is written only if it has a value. -/
def present {α : Type} (name : String) (write : α → Json) : Option α → List (String × Json)
  | some a => [(name, write a)]
  | none => []

def orNull {α : Type} (write : α → Json) : Option α → Json
  | some a => write a
  | none => .null

/-- A list in an object that is written only if it is not empty. -/
def presentList {α : Type} (name : String) (write : α → Json) : List α → List (String × Json)
  | [] => []
  | items => [(name, .arr (items.map write))]

end ConfigTimeline.Json
