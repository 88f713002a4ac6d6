import ConfigTimeline.Json.Value
import ConfigTimeline.Text.Positional

/-!
JSON values of a text. Only the four JSON blanks may stand around tokens. Numbers may be of any
size and nesting of any depth. A string literal may not hold a raw control character, and each of
its escapes has to be one of the format's; whether halves of surrogate pairs fit together is looked
at only to tell what text the literal stands for.
-/

namespace ConfigTimeline.Json

def isSpace (c : Char) : Bool := c == ' ' || c == '\n' || c == '\t' || c == '\r'

/-- The text from its first character that is not a blank. -/
def skipSpace (cs : List Char) : List Char := cs.dropWhile isSpace

/-- A piece of a string literal: a character, or half of a surrogate pair. -/
inductive Piece
  | char (c : Char)
  | half (unit : Nat)
deriving DecidableEq

def unit? (a b c d : Char) : Option Nat :=
  ([a, b, c, d].mapM Positional.hex?).map (Positional.value 16)

def pieceOfUnit (unit : Nat) : Piece :=
  if 0xD800 ≤ unit ∧ unit ≤ 0xDFFF then .half unit else .char (Char.ofNat unit)

/-- The character of an escape with one letter. -/
def escape? (c : Char) : Option Char :=
  if c = '"' then some '"'
  else if c = '\\' then some '\\'
  else if c = '/' then some '/'
  else if c = 'b' then some (Char.ofNat 8)
  else if c = 'f' then some (Char.ofNat 12)
  else if c = 'n' then some '\n'
  else if c = 'r' then some '\r'
  else if c = 't' then some '\t'
  else none

/-- The pieces of a string literal up to its closing quotation mark, and the text after it. -/
def readPieces : List Char → Option (List Piece × List Char)
  | [] => none
  | '"' :: rest => some ([], rest)
  | '\\' :: 'u' :: a :: b :: c :: d :: rest =>
      match unit? a b c d, readPieces rest with
      | some unit, some (pieces, after) => some (pieceOfUnit unit :: pieces, after)
      | _, _ => none
  | '\\' :: e :: rest =>
      match escape? e, readPieces rest with
      | some c, some (pieces, after) => some (.char c :: pieces, after)
      | _, _ => none
  | c :: rest =>
      if c = '\\' ∨ c.toNat < 32 then none
      else
        match readPieces rest with
        | some (pieces, after) => some (.char c :: pieces, after)
        | none => none

/-- The text of pieces: a first half is followed by a second one, and both are one character. -/
def joinPieces : List Piece → Option (List Char)
  | [] => some []
  | .char c :: rest => (joinPieces rest).map (c :: ·)
  | .half high :: .half low :: rest =>
      if high < 0xDC00 ∧ 0xDC00 ≤ low then
        (joinPieces rest).map
          (Char.ofNat (0x10000 + (high - 0xD800) * 0x400 + (low - 0xDC00)) :: ·)
      else none
  | .half _ :: _ => none

/-- A string literal after its opening quotation mark. -/
def readLiteral (cs : List Char) : Option (Literal × List Char) :=
  (readPieces cs).map fun (pieces, rest) => ((joinPieces pieces).map String.ofList, rest)

def isDigit (c : Char) : Bool := (Positional.decimal? c).isSome

def dropDigits (cs : List Char) : Option (List Char) :=
  match cs with
  | c :: rest => if isDigit c then some (rest.dropWhile isDigit) else none
  | [] => none

/-- Drops the fraction of a number, if there is one, and tells whether there was one. -/
def dropFraction (cs : List Char) : Option (Bool × List Char) :=
  match cs with
  | '.' :: rest => (dropDigits rest).map (true, ·)
  | _ => some (false, cs)

def dropExponent (cs : List Char) : Option (Bool × List Char) :=
  match cs with
  | c :: rest =>
      if c = 'e' ∨ c = 'E' then
        match rest with
        | s :: digits =>
            if s = '+' ∨ s = '-' then (dropDigits digits).map (true, ·)
            else (dropDigits rest).map (true, ·)
        | [] => none
      else some (false, cs)
  | [] => some (false, cs)

/-- A number without its sign: no zero in front of other digits, at least one digit before and
after a point and in an exponent. -/
def readMagnitude (negative : Bool) (cs : List Char) : Option (Number × List Char) :=
  let ds := cs.takeWhile isDigit
  if ds = [] ∨ (ds.head? = some '0' ∧ ds.length ≠ 1) then none
  else
    match dropFraction (cs.drop ds.length) with
    | none => none
    | some (fraction, rest) =>
        match dropExponent rest with
        | none => none
        | some (exponent, rest) =>
            let n := Positional.value 10 (ds.filterMap Positional.decimal?)
            if fraction || exponent || (negative && n == 0) then some (.other, rest)
            else some (.integer (if negative then -(n : Int) else n), rest)

def readNumber (cs : List Char) : Option (Number × List Char) :=
  match cs with
  | '-' :: rest => readMagnitude true rest
  | _ => readMagnitude false cs

def dropWord (word cs : List Char) : Option (List Char) :=
  if word.isPrefixOf cs then some (cs.drop word.length) else none

mutual

/-- A value, with blanks in front of it, and the text after it. The first argument bounds the
number of steps. -/
def readValue : Nat → List Char → Option (Json × List Char)
  | 0, _ => none
  | fuel + 1, cs =>
      match skipSpace cs with
      | [] => none
      | '"' :: rest => (readLiteral rest).map fun (s, rest) => (.str s, rest)
      | '[' :: rest =>
          match skipSpace rest with
          | ']' :: rest => some (.arr [], rest)
          | _ => (readItems fuel rest).map fun (items, rest) => (.arr items, rest)
      | '\x7b' :: rest =>
          match skipSpace rest with
          | '\x7d' :: rest => some (.obj [], rest)
          | _ => (readMembers fuel rest).map fun (members, rest) => (.obj members, rest)
      | 'n' :: rest => (dropWord "ull".toList rest).map (.null, ·)
      | 't' :: rest => (dropWord "rue".toList rest).map (.bool true, ·)
      | 'f' :: rest => (dropWord "alse".toList rest).map (.bool false, ·)
      | rest => (readNumber rest).map fun (n, rest) => (.num n, rest)

/-- At least one element of an array, and its end. -/
def readItems : Nat → List Char → Option (List Json × List Char)
  | 0, _ => none
  | fuel + 1, cs =>
      match readValue fuel cs with
      | none => none
      | some (item, rest) =>
          match skipSpace rest with
          | ',' :: rest => (readItems fuel rest).map fun (items, rest) => (item :: items, rest)
          | ']' :: rest => some ([item], rest)
          | _ => none

/-- At least one member of an object, and its end. -/
def readMembers : Nat → List Char → Option (List (Literal × Json) × List Char)
  | 0, _ => none
  | fuel + 1, cs =>
      match skipSpace cs with
      | '"' :: rest =>
          match readLiteral rest with
          | none => none
          | some (name, rest) =>
              match skipSpace rest with
              | ':' :: rest =>
                  match readValue fuel rest with
                  | none => none
                  | some (item, rest) =>
                      match skipSpace rest with
                      | ',' :: rest =>
                          (readMembers fuel rest).map fun (members, rest) =>
                            ((name, item) :: members, rest)
                      | '\x7d' :: rest => some ([(name, item)], rest)
                      | _ => none
              | _ => none
      | _ => none

end

def parseChars (cs : List Char) : Option Json :=
  match readValue (2 * cs.length + 2) cs with
  | some (j, rest) => if skipSpace rest = [] then some j else none
  | none => none

def parse (s : String) : Option Json := parseChars s.toList

end ConfigTimeline.Json
