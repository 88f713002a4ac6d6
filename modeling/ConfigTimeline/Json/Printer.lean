import ConfigTimeline.Json.Value
import ConfigTimeline.Text.Positional

/-!
JSON text of values: a compact form on one line and an indented form. Characters are written as they
are, except the quotation mark, the backslash and the control characters. Each function writes in
front of a text that is given, so that text written before never has to be copied.
-/

namespace ConfigTimeline.Json

def charChars (c : Char) : List Char :=
  if c = '"' then ['\\', '"']
  else if c = '\\' then ['\\', '\\']
  else if c = '\n' then ['\\', 'n']
  else if c = '\r' then ['\\', 'r']
  else if c = '\t' then ['\\', 't']
  else if c.toNat = 8 then ['\\', 'b']
  else if c.toNat = 12 then ['\\', 'f']
  else if c.toNat < 32 then
    '\\' :: 'u' :: (Positional.digits 16 4 c.toNat).map Positional.hexChar
  else [c]

/-- A string literal in front of a text. A literal that stands for no text is written as one
unpaired half. -/
def writeLiteral (s : Literal) (rest : List Char) : List Char :=
  match s with
  | some s => '"' :: s.toList.flatMap charChars ++ '"' :: rest
  | none => '"' :: '\\' :: 'u' :: 'd' :: '8' :: '0' :: '0' :: '"' :: rest

/-- A number in front of a text. A number that is not known exactly is written as one half. -/
def writeNumber (n : Number) (rest : List Char) : List Char :=
  match n with
  | .integer (.ofNat n) => Positional.plain n ++ rest
  | .integer (.negSucc n) => '-' :: Positional.plain (n + 1) ++ rest
  | .other => '0' :: '.' :: '5' :: rest

mutual

/-- A value on one line, in front of a text. -/
def write : Json → List Char → List Char
  | .null, rest => 'n' :: 'u' :: 'l' :: 'l' :: rest
  | .bool true, rest => 't' :: 'r' :: 'u' :: 'e' :: rest
  | .bool false, rest => 'f' :: 'a' :: 'l' :: 's' :: 'e' :: rest
  | .num n, rest => writeNumber n rest
  | .str s, rest => writeLiteral s rest
  | .arr [], rest => '[' :: ']' :: rest
  | .arr (item :: items), rest => '[' :: write item (writeItems items rest)
  | .obj [], rest => '\x7b' :: '\x7d' :: rest
  | .obj ((name, item) :: members), rest =>
      '\x7b' :: writeLiteral name (':' :: write item (writeMembers members rest))

/-- The elements of an array after the first, and its end. -/
def writeItems : List Json → List Char → List Char
  | [], rest => ']' :: rest
  | item :: items, rest => ',' :: write item (writeItems items rest)

/-- The members of an object after the first, and its end. -/
def writeMembers : List (Literal × Json) → List Char → List Char
  | [], rest => '\x7d' :: rest
  | (name, item) :: members, rest =>
      ',' :: writeLiteral name (':' :: write item (writeMembers members rest))

end

def render (j : Json) : String := String.ofList (j.write [])

/-- The start of a line at a depth of nesting. -/
def newLine (depth : Nat) (rest : List Char) : List Char :=
  '\n' :: List.replicate (2 * depth) ' ' ++ rest

mutual

/-- A value over several lines, two blanks deeper at each level, in front of a text. -/
def writeDeep (depth : Nat) : Json → List Char → List Char
  | .null, rest => 'n' :: 'u' :: 'l' :: 'l' :: rest
  | .bool true, rest => 't' :: 'r' :: 'u' :: 'e' :: rest
  | .bool false, rest => 'f' :: 'a' :: 'l' :: 's' :: 'e' :: rest
  | .num n, rest => writeNumber n rest
  | .str s, rest => writeLiteral s rest
  | .arr [], rest => '[' :: ']' :: rest
  | .arr (item :: items), rest =>
      '[' :: newLine (depth + 1) (writeDeep (depth + 1) item (writeDeepItems depth items rest))
  | .obj [], rest => '\x7b' :: '\x7d' :: rest
  | .obj ((name, item) :: members), rest =>
      '\x7b' :: newLine (depth + 1) (writeLiteral name (':' :: ' ' ::
        writeDeep (depth + 1) item (writeDeepMembers depth members rest)))

def writeDeepItems (depth : Nat) : List Json → List Char → List Char
  | [], rest => newLine depth (']' :: rest)
  | item :: items, rest =>
      ',' :: newLine (depth + 1) (writeDeep (depth + 1) item (writeDeepItems depth items rest))

def writeDeepMembers (depth : Nat) : List (Literal × Json) → List Char → List Char
  | [], rest => newLine depth ('\x7d' :: rest)
  | (name, item) :: members, rest =>
      ',' :: newLine (depth + 1) (writeLiteral name (':' :: ' ' ::
        writeDeep (depth + 1) item (writeDeepMembers depth members rest)))

end

def renderDeep (j : Json) : String := String.ofList (j.writeDeep 0 [])

end ConfigTimeline.Json
