import ConfigTimeline.Text.Positional
import ConfigTimeline.Toml.Tables

/-!
The words of TOML: blanks, comments, line ends, strings and keys. Strings stand in quotation marks
with escapes or in apostrophes without, on one line, or over several between three marks.
-/

namespace ConfigTimeline.Toml

def isSpace (c : Char) : Bool := c == ' ' || c == '\t'

/-- A character that comments and strings may hold: no control character but the tab. -/
def isPlain (c : Char) : Bool := c == '\t' || (32 ≤ c.toNat && c.toNat != 127)

def skipSpace (cs : List Char) : List Char := cs.dropWhile isSpace

def newline? : List Char → Option (List Char)
  | '\n' :: rest => some rest
  | '\r' :: '\n' :: rest => some rest
  | _ => none

/-- The text after a comment, where there is one. -/
def skipComment : List Char → List Char
  | '#' :: rest => rest.dropWhile isPlain
  | cs => cs

/-- The text after the end of a line: blanks, perhaps a comment, and a line end or the end of the
text. -/
def endLine (cs : List Char) : Option (List Char) :=
  match skipComment (skipSpace cs) with
  | [] => some []
  | rest => newline? rest

/-- A character in front of a text that is being read. -/
def consTo (c : Char) : Option (List Char × List Char) → Option (List Char × List Char)
  | some (cs, rest) => some (c :: cs, rest)
  | none => none

/-- The character of a hexadecimal code: any but half of a surrogate pair. -/
def scalar? (cs : List Char) : Option Char :=
  ((cs.mapM Positional.hex?).map (Positional.value 16)).bind fun n =>
    if n < 0xD800 ∨ (0xDFFF < n ∧ n < 0x110000) then some (Char.ofNat n) else none

def escape? (c : Char) : Option Char :=
  if c = 'b' then some (Char.ofNat 8)
  else if c = 't' then some '\t'
  else if c = 'n' then some '\n'
  else if c = 'f' then some (Char.ofNat 12)
  else if c = 'r' then some '\r'
  else if c = '"' then some '"'
  else if c = '\\' then some '\\'
  else none

/-- An escape after its backslash: its character, and the text after it. -/
def readEscape : List Char → Option (Char × List Char)
  | [] => none
  | e :: rest =>
      if e = 'u' then
        if rest.length < 4 then none else (scalar? (rest.take 4)).map (·, rest.drop 4)
      else if e = 'U' then
        if rest.length < 8 then none else (scalar? (rest.take 8)).map (·, rest.drop 8)
      else (escape? e).map (·, rest)

def skipLines : Nat → List Char → List Char
  | 0, cs => cs
  | fuel + 1, cs =>
      match newline? (skipSpace cs) with
      | some rest => skipLines fuel rest
      | none => skipSpace cs

/-- The text after a backslash that ends a line within a string: with the blanks and line ends that
follow. -/
def skipLineEnd? (cs : List Char) : Option (List Char) :=
  (newline? (skipSpace cs)).map fun rest => skipLines rest.length rest

/-- A string with escapes, on one line, after its opening mark. The first argument bounds the number
of characters. -/
def readBasic : Nat → List Char → Option (List Char × List Char)
  | 0, _ => none
  | _ + 1, [] => none
  | fuel + 1, c :: rest =>
      if c = '"' then some ([], rest)
      else if c = '\\' then
        match readEscape rest with
        | some (e, rest) => consTo e (readBasic fuel rest)
        | none => none
      else if isPlain c then consTo c (readBasic fuel rest)
      else none

/-- A string without escapes, on one line, after its opening mark. -/
def readLiteral : List Char → Option (List Char × List Char)
  | [] => none
  | c :: rest =>
      if c = '\'' then some ([], rest)
      else if isPlain c then consTo c (readLiteral rest)
      else none

/-- Up to two marks in front of the three that close a string belong to it: what is left of a run of
marks after its first three, as far as it belongs to the string, and the text after the run. -/
def closeRun (mark : Char) (rest : List Char) : List Char × List Char :=
  let extra := (rest.take 2).takeWhile (· == mark)
  (extra, rest.drop extra.length)

def startsTwo (mark : Char) : List Char → Bool
  | a :: b :: _ => a == mark && b == mark
  | _ => false

/-- A string with escapes, over several lines, after its opening marks. -/
def readBasicLines : Nat → List Char → Option (List Char × List Char)
  | 0, _ => none
  | _ + 1, [] => none
  | fuel + 1, c :: rest =>
      if c = '"' then
        if startsTwo '"' rest then some (closeRun '"' (rest.drop 2))
        else consTo c (readBasicLines fuel rest)
      else if c = '\\' then
        match skipLineEnd? rest with
        | some rest => readBasicLines fuel rest
        | none =>
            match readEscape rest with
            | some (e, rest) => consTo e (readBasicLines fuel rest)
            | none => none
      else
        match newline? (c :: rest) with
        | some rest => consTo '\n' (readBasicLines fuel rest)
        | none => if isPlain c then consTo c (readBasicLines fuel rest) else none

/-- A string without escapes, over several lines, after its opening marks. -/
def readLiteralLines : Nat → List Char → Option (List Char × List Char)
  | 0, _ => none
  | _ + 1, [] => none
  | fuel + 1, c :: rest =>
      if c = '\'' then
        if startsTwo '\'' rest then some (closeRun '\'' (rest.drop 2))
        else consTo c (readLiteralLines fuel rest)
      else
        match newline? (c :: rest) with
        | some rest => consTo '\n' (readLiteralLines fuel rest)
        | none => if isPlain c then consTo c (readLiteralLines fuel rest) else none

/-- The text after the line end that may follow the opening marks of a string over several lines. -/
def skipFirstNewline (cs : List Char) : List Char := (newline? cs).getD cs

/-- A string that is a value, from its opening mark on. -/
def readString (cs : List Char) : Option (List Char × List Char) :=
  match cs with
  | '"' :: rest =>
      if startsTwo '"' rest then
        let body := skipFirstNewline (rest.drop 2)
        readBasicLines (body.length + 1) body
      else readBasic (rest.length + 1) rest
  | '\'' :: rest =>
      if startsTwo '\'' rest then
        let body := skipFirstNewline (rest.drop 2)
        readLiteralLines (body.length + 1) body
      else readLiteral rest
  | _ => none

def isBare (c : Char) : Bool := c.isAlphanum || c == '-' || c == '_'

def readKeyPart (cs : List Char) : Option (String × List Char) :=
  match cs with
  | '"' :: rest => (readBasic (rest.length + 1) rest).map fun (s, rest) => (String.ofList s, rest)
  | '\'' :: rest => (readLiteral rest).map fun (s, rest) => (String.ofList s, rest)
  | _ =>
      let bare := cs.takeWhile isBare
      if bare.isEmpty then none else some (String.ofList bare, cs.drop bare.length)

/-- How deep values may be nested and how many parts a key may have, plus one. -/
def nestingLimit : Nat := 80

/-- The parts of a key, with points between them and blanks around them. -/
def readKeyParts : Nat → List Char → Option (List String × List Char)
  | 0, _ => none
  | fuel + 1, cs =>
      match readKeyPart (skipSpace cs) with
      | none => none
      | some (part, rest) =>
          match skipSpace rest with
          | '.' :: rest =>
              (readKeyParts fuel rest).map fun (parts, rest) => (part :: parts, rest)
          | rest => some ([part], rest)

def readKey (cs : List Char) : Option (DottedKey × List Char) :=
  match readKeyParts (cs.length + 1) cs with
  | some (parts, rest) =>
      if nestingLimit ≤ parts.length then none
      else parts.getLast?.map fun key => (⟨parts.dropLast, key⟩, rest)
  | none => none

end ConfigTimeline.Toml
