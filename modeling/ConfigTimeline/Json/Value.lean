/-!
JSON values as they are written. An object keeps the order and the repetitions of its members. A
number is known exactly if it is an integer written in digits alone, which is all that records
hold. A string literal is known as text unless one of its escapes is half of a surrogate pair.
-/

namespace ConfigTimeline

/-- The text of a string literal; `none` for a literal with an unpaired half of a surrogate pair,
which is well formed and stands for no text. -/
abbrev Json.Literal := Option String

/-- A number by what records can hold of it. -/
inductive Json.Number
  /-- An integer written in digits alone, and not as negative zero. -/
  | integer (n : Int)
  /-- Any other number: one with a fraction or an exponent, or negative zero. -/
  | other
deriving DecidableEq

inductive Json
  | null
  | bool (b : Bool)
  | num (n : Json.Number)
  | str (s : Json.Literal)
  | arr (items : List Json)
  | obj (members : List (Json.Literal × Json))
deriving Inhabited

namespace Json

def text (s : String) : Json := .str (some s)

def nat (n : Nat) : Json := .num (.integer n)

/-- An object with the given members, in order. -/
def record (members : List (String × Json)) : Json :=
  .obj (members.map fun (name, j) => (some name, j))

/-- The member of an object with a given name; of several the last. -/
def member? (name : String) : Json → Option Json
  | .obj members => (members.reverse.find? fun m => m.1 == some name).map (·.2)
  | _ => none

def text? : Json → Option String
  | .str s => s
  | _ => none

/-- A natural number of at most the given size. -/
def natUpTo? (bound : Nat) : Json → Option Nat
  | .num (.integer n) => if 0 ≤ n ∧ n ≤ bound then some n.toNat else none
  | _ => none

def items? : Json → Option (List Json)
  | .arr items => some items
  | _ => none

end Json

end ConfigTimeline
