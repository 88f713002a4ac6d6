/-!
TOML values by what settings can hold of them. Floating-point numbers and points in time are read
but never looked at.
-/

namespace ConfigTimeline

inductive Toml
  | text (s : String)
  | integer (n : Int)
  | float
  | bool (b : Bool)
  /-- A date, a time of day, or both. -/
  | moment
  | array (items : List Toml)
  | table (entries : List (String × Toml))
deriving Inhabited

namespace Toml

/-- One slot per declared field of a record: the value of the field, or `none` where it is absent. A
record may be written as a table, where other keys are passed over, or as an array of its fields in
order of declaration, where more are passed over. A point in time counts as a table of none of the
fields. -/
def slots (fields : List String) : Toml → Option (List (Option Toml))
  | .table entries => some (fields.map fun f => (entries.find? (·.1 == f)).map (·.2))
  | .array items =>
      some (((items.take fields.length).map some) ++
        List.replicate (fields.length - items.length) none)
  | .moment => some (fields.map fun _ => none)
  | _ => none

def isVoid : Toml → Bool
  | .array [] => true
  | .table [] => true
  | _ => false

/-- The name of a case of an enumeration: a text, or the only key of a table if there is nothing
under it. -/
def caseName? : Toml → Option String
  | .text s => some s
  | .table [(name, v)] => if v.isVoid then some name else none
  | _ => none

def text? : Toml → Option String
  | .text s => some s
  | _ => none

def nat? : Toml → Option Nat
  | .integer n => if 0 ≤ n then some n.toNat else none
  | _ => none

end Toml

end ConfigTimeline
