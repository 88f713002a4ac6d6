import ConfigTimeline.Text.Pattern.Flags
import ConfigTimeline.Text.Positional

/-!
The parts of a pattern that stand for one character: escapes, and sets in brackets, which may hold
sets and join them by operations. A set is read along with its depth, the number of sets, operations
and lists of members that lie within each other in it.
-/

namespace ConfigTimeline.Text.Pattern

inductive Escape
  | char (c : Char)
  /-- A class of characters. -/
  | set
  /-- A place between characters. -/
  | place

/-- The letters of escapes for control characters, with what they stand for. -/
def controls : List (Char × Char) :=
  [('a', '\x07'), ('f', '\x0c'), ('t', '\t'), ('n', '\n'), ('r', '\r'), ('v', '\x0b')]

def readDigits (f : Flags) : (width : Nat) → List Char → Option (List Nat × List Char)
  | 0, cs => some ([], cs)
  | width + 1, cs =>
      match f.skip cs with
      | [] => none
      | c :: cs => do
          let d ← Positional.hex? c
          let (ds, rest) ← readDigits f width cs
          some (d :: ds, rest)

/-- A code point of exactly `width` hexadecimal digits. -/
def readCode (f : Flags) (width : Nat) (cs : List Char) : Option (Char × List Char) := do
  let (ds, rest) ← readDigits f width cs
  let code := Positional.value 16 ds
  if code.isValidChar then some (Char.ofNat code, rest) else none

def readEscape (f : Flags) : List Char → Option (Escape × List Char)
  | [] => none
  | c :: cs =>
      match controls.lookup c with
      | some control => some (.char control, cs)
      | none =>
          if c = 'x' then do
            let (code, rest) ← readCode f 2 cs
            if f.unicode || code.toNat < 128 then some (.char code, rest) else none
          else if c = 'u' then (readCode f 4 cs).map fun (code, rest) => (.char code, rest)
          else if c = 'U' then (readCode f 8 cs).map fun (code, rest) => (.char code, rest)
          else if c = 'A' ∨ c = 'z' then some (.place, cs)
          else if ['b', 'B', '<', '>'].contains c then if f.unicode then none else some (.place, cs)
          else if ['d', 's', 'w'].contains c then if f.unicode then none else some (.set, cs)
          else if c.isAlphanum ∨ 128 ≤ c.toNat then none
          else some (.char c, cs)

/-- The names of the classes that are written between colons. -/
def classNames : List String :=
  ["alnum", "alpha", "ascii", "blank", "cntrl", "digit", "graph", "lower", "print", "punct", "space",
    "upper", "word", "xdigit"]

/-- The text after a class between colons, from the character after its bracket, and whether the
class is negated. -/
def readNamedClass (cs : List Char) : Option (Bool × List Char) :=
  match cs with
  | ':' :: cs =>
      let negated := cs.head? = some '^'
      let cs := if negated then cs.tail else cs
      let name := cs.takeWhile (· != ':')
      match cs.drop name.length with
      | ':' :: ']' :: rest =>
          if classNames.contains (String.ofList name) then some (negated, rest) else none
      | _ => none
  | _ => none

/-- A member of a set, which may be a class but not a place. -/
def readMember (f : Flags) (cs : List Char) : Option (Option Char × List Char) := do
  let (member, rest) ←
    match cs with
    | [] => none
    | '\\' :: cs =>
        match readEscape f cs with
        | some (.char c, rest) => some (some c, rest)
        | some (.set, rest) => some (none, rest)
        | _ => none
    | c :: cs => some (some c, cs)
  if member.all fun c => f.allowsLiteral && (f.unicode || c.toNat < 128) then some (member, rest)
  else none

/-- A member of a set, or a range of members in ascending order. A hyphen before the closing bracket
or another hyphen makes no range. -/
def readRange (f : Flags) (cs : List Char) : Option (List Char) := do
  let (first, rest) ← readMember f cs
  match f.skip rest with
  | '-' :: after =>
      if (f.peek? after).any fun c => c == ']' || c == '-' then some ('-' :: after)
      else
        match first, ← readMember f (f.skip after) with
        | some a, (some b, rest) => if a ≤ b then some rest else none
        | _, _ => none
  | rest => some rest

/-- How deep things lie in a list of things of some depths. One thing alone makes no list. -/
def listDepth : List Nat → Nat
  | [] => 0
  | [depth] => depth
  | depths => depths.foldl max 0 + 1

structure OpenSet where
  /-- The depth of what stands before the last operation. -/
  before : Option Nat
  /-- The depths of the members since then. -/
  members : List Nat
  /-- Nothing but hyphens has been read, so that a hyphen is a member. -/
  atStart : Bool

namespace OpenSet

def fresh : OpenSet := ⟨none, [], true⟩

def add (s : OpenSet) (depth : Nat) : OpenSet := ⟨s.before, depth :: s.members, false⟩

def depth (s : OpenSet) : Nat :=
  match s.before with
  | none => listDepth s.members
  | some depth => max depth (listDepth s.members) + 1

def operate (s : OpenSet) : OpenSet := ⟨some s.depth, [], false⟩

end OpenSet

/-- The text inside a set, from the character after its opening bracket. -/
def enterSet (f : Flags) (cs : List Char) : Option (List Char) :=
  match f.skip cs with
  | '^' :: cs => if f.unicode then some cs else none
  | cs => some cs

/-- Reads up to the end of a set, which lies within others, and returns its depth and the text after
it. A hyphen or a closing bracket that stands first is a member. The first argument bounds the number
of steps. -/
def readSets (f : Flags) : (fuel : Nat) → (set : OpenSet) → (around : List OpenSet) → List Char →
    Option (Nat × List Char)
  | 0, _, _, _ => none
  | fuel + 1, set, around, cs =>
      let next (set : OpenSet) (cs : List Char) := readSets f fuel set around cs
      match f.skip cs with
      | [] => none
      | '-' :: cs =>
          if set.atStart then
            if f.allowsLiteral then next { set.add 0 with atStart := true } cs else none
          else if cs.head? = some '-' then next set.operate cs.tail
          else (readRange f ('-' :: cs)).bind (next (set.add 0))
      | ']' :: cs =>
          if set.atStart ∧ set.members.isEmpty then
            if f.allowsLiteral then next (set.add 0) cs else none
          else
            match around with
            | [] => some (set.depth + 1, cs)
            | outer :: around => readSets f fuel (outer.add (set.depth + 1)) around cs
      | '[' :: cs =>
          match readNamedClass cs with
          | some (negated, rest) =>
              if f.allowsLiteral && (f.unicode || !negated) then next (set.add 0) rest else none
          | none =>
              (enterSet f cs).bind (readSets f fuel .fresh ({ set with atStart := false } :: around))
      | '&' :: '&' :: cs => next set.operate cs
      | '~' :: '~' :: cs => next set.operate cs
      | cs => (readRange f cs).bind (next (set.add 0))

/-- The depth of a set and the text after it, from the character after its opening bracket. -/
def readSet (f : Flags) (cs : List Char) : Option (Nat × List Char) :=
  (enterSet f cs).bind (readSets f (cs.length + 1) .fresh [])

end ConfigTimeline.Text.Pattern
