import ConfigTimeline.Text.Alphanumeric
import ConfigTimeline.Text.Pattern.Set

/-!
Which texts are regular expressions that match UTF-8 text without tables of characters. The flag `u`
is in force at first; with it there are no named classes such as `\d`, no edges of words, and no
flag `i` over a character, since all of these ask a table. Without it a part that could match less
than a whole character is refused. Counted repetitions and names in braces are not among the
patterns read here: a pattern that is itself in braces holds no closing brace.

Parts of a pattern may lie within each other no more than `deepest` deep.
-/

namespace ConfigTimeline.Text.Pattern

/-- How deep the parts of a pattern may lie within each other. -/
def deepest : Nat := 250

structure Part where
  depth : Nat
  repeatable : Bool

/-- What a group holds so far. -/
structure Branches where
  /-- The depths of the alternatives before the present one. -/
  before : List Nat
  /-- The parts of the present alternative, last first. -/
  parts : List Part

namespace Branches

def none : Branches := ⟨[], []⟩

def presentDepth (b : Branches) : Nat := listDepth (b.parts.map Part.depth)

def depth (b : Branches) : Nat := listDepth (b.presentDepth :: b.before)

def add (b : Branches) (part : Part) : Branches := { b with parts := part :: b.parts }

def divide (b : Branches) : Branches := ⟨b.presentDepth :: b.before, []⟩

def repeated (b : Branches) : Option Branches :=
  match b.parts with
  | part :: parts =>
      if part.repeatable then some { b with parts := ⟨part.depth + 1, true⟩ :: parts } else Option.none
  | [] => Option.none

end Branches

/-- What has been read: the flags in force, what the innermost open group holds, the same of the
groups around it, innermost first, and the names of groups. -/
structure Reader where
  flags : Flags
  here : Branches
  around : List (Flags × Branches)
  names : List (List Char)

def Reader.fresh : Reader := ⟨.standard, .none, [], []⟩

def isGroupName : List Char → Bool
  | [] => false
  | c :: cs =>
      (c == '_' || isAlphabetic c) &&
        cs.all fun c => ['_', '.', '[', ']'].contains c || isAlphanumeric c

namespace Reader

def add (r : Reader) (depth : Nat) : Reader := { r with here := r.here.add ⟨depth, true⟩ }

/-- Opens a group within which other flags may be in force. -/
def enter (r : Reader) (flags : Flags) : Reader :=
  { r with flags, here := .none, around := (r.flags, r.here) :: r.around }

def leave (r : Reader) : Option Reader :=
  match r.around with
  | (flags, here) :: around => some ({ r with flags, here, around }.add (r.here.depth + 1))
  | [] => none

def enterNamed (r : Reader) (cs : List Char) : Option (Reader × List Char) :=
  let name := cs.takeWhile (· != '>')
  match cs.drop name.length with
  | _ :: rest =>
      if isGroupName name ∧ !r.names.contains name then
        some ({ r.enter r.flags with names := name :: r.names }, rest)
      else none
  | [] => none

/-- What follows the opening parenthesis of a group: a name, flags for the group or for what comes
after, or neither. -/
def group (r : Reader) : List Char → Option (Reader × List Char)
  | '?' :: 'P' :: '<' :: cs => r.enterNamed cs
  | '?' :: '<' :: cs => r.enterNamed cs
  | '?' :: cs =>
      let word := cs.takeWhile fun c => c != ':' && c != ')'
      match cs.drop word.length, r.flags.change word with
      | ':' :: rest, some flags => some (r.enter flags, rest)
      | ')' :: rest, some flags =>
          if word.isEmpty then none
          else some ({ r with flags, here := r.here.add ⟨0, false⟩ }, rest)
      | _, _ => none
  | cs => some (r.enter r.flags, cs)

/-- Repeats the last part. A question mark right after the sign of a repetition belongs to it. -/
def again (r : Reader) (cs : List Char) : Option (Reader × List Char) :=
  r.here.repeated.map fun here =>
    ({ r with here }, if cs.head? = some '?' then cs.tail else cs)

/-- Reads one part of a pattern, which starts with the given character. -/
def next (r : Reader) (c : Char) (cs : List Char) : Option (Reader × List Char) :=
  match c with
  | '(' => r.group (r.flags.skip cs)
  | ')' => r.leave.map (·, cs)
  | '|' => some ({ r with here := r.here.divide }, cs)
  | '[' => (readSet r.flags cs).map fun (depth, rest) => (r.add depth, rest)
  | '?' => r.again cs
  | '*' => r.again cs
  | '+' => r.again cs
  | '\x7b' => none
  | '.' => if r.flags.unicode then some (r.add 0, cs) else none
  | '^' => some (r.add 0, cs)
  | '$' => some (r.add 0, cs)
  | '\\' =>
      match readEscape r.flags cs with
      | some (.char _, rest) => if r.flags.allowsLiteral then some (r.add 0, rest) else none
      | some (_, rest) => some (r.add 0, rest)
      | none => none
  | _ => if r.flags.allowsLiteral then some (r.add 0, cs) else none

/-- Whether the rest of a pattern can be read. The first argument bounds the number of parts. -/
def completes : (fuel : Nat) → Reader → List Char → Bool
  | fuel, r, cs =>
      match fuel, r.flags.skip cs with
      | _, [] => r.around.isEmpty && r.here.depth ≤ deepest
      | 0, _ => false
      | fuel + 1, c :: cs =>
          match r.next c cs with
          | some (r, rest) => completes fuel r rest
          | none => false

end Reader

def isValid (cs : List Char) : Bool := Reader.completes cs.length .fresh cs

end ConfigTimeline.Text.Pattern
