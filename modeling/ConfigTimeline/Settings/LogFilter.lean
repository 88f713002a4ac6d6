import ConfigTimeline.Text.Blank
import ConfigTimeline.Text.Bytes
import ConfigTimeline.Text.Pattern

/-!
Which texts are filters of log lines: directives with commas between them. A directive is a level, a
target, or a target, spans in brackets and a level after a sign of equality, where any part may be
absent; within the brackets a field may stand in braces.

A directive is read without the blanks around it, but its parts are cut out of the text with the
blanks, at the same number of bytes from the front. So blanks in front move every part, and a
directive with blanks in front has no level after a sign of equality. A part that is cut out may
start or end within a character, which is a flaw of its own. The directives are read in order, and
the first flaw counts.
-/

namespace ConfigTimeline.LogFilter

inductive Flaw
  | malformed
  /-- A part starts or ends within a character. -/
  | splitCharacter
deriving DecidableEq

/-- Where in a directive the reader is. The number is the place at which a part starts. -/
inductive Place
  /-- Before the first character. -/
  | start
  /-- In a level or a target. -/
  | name
  | span (first : Nat)
  | field (first : Nat)
  /-- After a field. -/
  | fields
  /-- After a span. -/
  | target
  /-- In a level after a sign of equality. -/
  | level (first : Nat)

/-- The words of levels, which may be written in any case. -/
def levels : List String := ["trace", "debug", "info", "warn", "error", "off"]

/-- Digits, with or without a sign, for one of the levels from off to trace. -/
def isLevelNumber (cs : List Char) : Bool :=
  let digits := if cs.head? = some '+' then cs.tail else cs
  (Positional.natural? digits).any (· < levels.length)

/-- Whether a text is a level. No text at all is one. -/
def isLevel (cs : List Char) : Bool :=
  cs.isEmpty || isLevelNumber cs || levels.contains (String.ofList (cs.map Char.toLower))

def dropDigits (cs : List Char) : List Char := cs.dropWhile Char.isDigit

/-- Whether a text is an exponent: digits with or without a sign. -/
def isExponent (cs : List Char) : Bool :=
  let digits := if cs.head? = some '+' ∨ cs.head? = some '-' then cs.tail else cs
  (Positional.natural? digits).isSome

/-- Whether a text is a decimal number without a sign: digits before or after a point or both, and
perhaps an exponent. -/
def isDecimal (cs : List Char) : Bool :=
  let afterWhole := dropDigits cs
  let part := if afterWhole.head? = some '.' then afterWhole.tail else afterWhole
  let rest := dropDigits part
  (afterWhole.length < cs.length || rest.length < part.length) &&
    match rest with
    | [] => true
    | c :: exponent => (c == 'e' || c == 'E') && isExponent exponent

/-- The words for numbers that are not finite, which may be written in any case. -/
def unboundedNumbers : List String := ["inf", "infinity", "nan"]

/-- Whether a text is a number with a plus in front. -/
def isPositiveNumber (cs : List Char) : Bool :=
  match cs with
  | '+' :: cs =>
      isDecimal cs || unboundedNumbers.contains (String.ofList (cs.map Char.toLower))
  | _ => false

/-- Whether a text can be the value of a field: a number, or a pattern for its text. All numbers but
those with a plus in front are patterns too. -/
def isFieldValue (cs : List Char) : Bool := isPositiveNumber cs || Text.Pattern.isValid cs

/-- Whether a text is a field: a name, and perhaps a value after a sign of equality. What follows a
second one does not count. -/
def isField (cs : List Char) : Bool :=
  !cs.isEmpty &&
    match cs.dropWhile (· != '=') with
    | [] => true
    | _ :: rest => isFieldValue (rest.takeWhile (· != '='))

/-- Whether a directive may start with a character. -/
def startsName (c : Char) : Bool := c == '-' || c == ':' || c == '_' || Text.isAlphanumeric c

def cut (first stop : Nat) (cs : List Char) : Except Flaw (List Char) :=
  match Text.slice? first stop cs with
  | some part => .ok part
  | none => .error .splitCharacter

def require (condition : Bool) : Except Flaw Unit :=
  if condition then .ok () else .error .malformed

/-- The place after one more character, which stands `i` bytes behind the first one. Parts are cut
out of `cs`. -/
def Place.next (cs : List Char) (i : Nat) (c : Char) : Place → Except Flaw Place
  | .start =>
      if c = '[' then .ok (.span (i + 1)) else (require (startsName c)).map fun _ => .name
  | .name =>
      if c = '=' then (cut 0 i cs).map fun _ => .level (i + 1)
      else if c = '[' then (cut 0 i cs).map fun _ => .span (i + 1)
      else .ok .name
  | .span first =>
      if c = ']' then (cut first i cs).map fun _ => .target
      else if c = '\x7b' then (cut first i cs).map fun _ => .field (i + 1)
      else .ok (.span first)
  | .field first =>
      if c = '\x7d' then do
        require (isField (← cut first i cs))
        .ok .fields
      else .ok (.field first)
  | .fields => if c = ']' then .ok .target else .error .malformed
  | .target => if c = '=' then .ok (.level (i + 1)) else .error .malformed
  | .level first => .ok (.level first)

/-- The place after a text, whose first character stands `i` bytes behind the first one of all. -/
def Place.after (cs : List Char) (i : Nat) (place : Place) : List Char → Except Flaw Place
  | [] => .ok place
  | c :: rest => do Place.after cs (i + c.utf8Size) (← place.next cs i c) rest

/-- Checks that a directive may end at a place. -/
def Place.checkEnd (cs : List Char) : Place → Except Flaw Unit
  | .name => .ok ()
  | .target => .ok ()
  | .level first => do require (isLevel (← cut first (Text.byteCount cs) cs))
  | _ => .error .malformed

def checkDirective (cs : List Char) : Except Flaw Unit := do
  (← Place.after cs 0 .start (Text.trimBlank cs)).checkEnd cs

/-- Checks that a text is a filter. Nothing between two commas is no directive and does no harm. -/
def check (s : String) : Except Flaw Unit :=
  (s.toList.splitOn ',').forM fun cs => if cs.isEmpty then .ok () else checkDirective cs

end ConfigTimeline.LogFilter
