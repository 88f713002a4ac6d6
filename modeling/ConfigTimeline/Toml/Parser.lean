import ConfigTimeline.Toml.Number
import ConfigTimeline.Toml.Text

/-!
TOML documents. Each line of a document is blank, a comment, a header or a pair; the lines are read
first, and then build the table of the document. A document that breaks a rule, be it of spelling or
of what may be opened twice, has no table.
-/

namespace ConfigTimeline.Toml

/-- The text after blanks, line ends and comments, which may stand between the elements of an
array. -/
def skipLoose : Nat → List Char → List Char
  | 0, cs => cs
  | fuel + 1, cs =>
      let rest := skipComment (skipSpace cs)
      match newline? rest with
      | some rest => skipLoose fuel rest
      | none => rest

/-- The text after blanks, line ends and comments. -/
def skipBetween (cs : List Char) : List Char := skipLoose cs.length cs

def dropWord (word cs : List Char) : Option (List Char) :=
  if word.isPrefixOf cs then some (cs.drop word.length) else none

def readAssigned (cs : List Char) : Option (DottedKey × List Char) :=
  match readKey cs with
  | some (key, '=' :: rest) => some (key, skipSpace rest)
  | _ => none

mutual

/-- A value, and the text after it. The first argument bounds the number of steps, the second is the
number of arrays and tables that may be opened within each other. -/
def readValue : Nat → Nat → List Char → Option (Toml × List Char)
  | 0, _, _ => none
  | fuel + 1, depth, cs =>
      match cs with
      | [] => none
      | '[' :: rest =>
          if depth = 0 then none
          else
            match skipBetween rest with
            | ']' :: rest => some (.array [], rest)
            | _ => (readItems fuel (depth - 1) rest).map fun (items, rest) => (.array items, rest)
      | '\x7b' :: rest =>
          if depth = 0 then none
          else
            match skipSpace rest with
            | '\x7d' :: rest => some (.table [], rest)
            | _ =>
                match readPairs fuel (depth - 1) rest with
                | some (pairs, rest) => (ofPairs pairs).map (·, rest)
                | none => none
      | '"' :: _ => (readString cs).map fun (s, rest) => (.text (String.ofList s), rest)
      | '\'' :: _ => (readString cs).map fun (s, rest) => (.text (String.ofList s), rest)
      | 't' :: rest => (dropWord "rue".toList rest).map (.bool true, ·)
      | 'f' :: rest => (dropWord "alse".toList rest).map (.bool false, ·)
      | _ => readNumber cs

/-- At least one element of an array, and its end. A comma may follow the last element. -/
def readItems : Nat → Nat → List Char → Option (List Toml × List Char)
  | 0, _, _ => none
  | fuel + 1, depth, cs =>
      match readValue fuel depth (skipBetween cs) with
      | none => none
      | some (item, rest) =>
          match skipBetween rest with
          | ']' :: rest => some ([item], rest)
          | ',' :: rest =>
              match skipBetween rest with
              | ']' :: rest => some ([item], rest)
              | _ => (readItems fuel depth rest).map fun (items, rest) => (item :: items, rest)
          | _ => none

/-- At least one pair of an inline table, and its end, all on one line. -/
def readPairs : Nat → Nat → List Char → Option (List (DottedKey × Toml) × List Char)
  | 0, _, _ => none
  | fuel + 1, depth, cs =>
      match readAssigned cs with
      | none => none
      | some (key, rest) =>
          match readValue fuel depth rest with
          | none => none
          | some (v, rest) =>
              match skipSpace rest with
              | '\x7d' :: rest => some ([(key, v)], rest)
              | ',' :: rest =>
                  (readPairs fuel depth rest).map fun (pairs, rest) => ((key, v) :: pairs, rest)
              | _ => none

end

def readHeader (cs : List Char) : Option (Statement × List Char) :=
  match readKey cs with
  | some (key, ']' :: rest) => some (.header key, rest)
  | _ => none

/-- The header of an element of an array of tables, after its opening brackets. -/
def readElement (cs : List Char) : Option (Statement × List Char) :=
  match readKey cs with
  | some (key, ']' :: ']' :: rest) => some (.element key, rest)
  | _ => none

def readPairLine (cs : List Char) : Option (Statement × List Char) :=
  match readAssigned cs with
  | some (key, rest) =>
      (readValue (2 * rest.length + 2) (nestingLimit - 1) rest).map fun (v, rest) =>
        (.pair key v, rest)
  | none => none

/-- A line that says something, without its end. -/
def readStatement (cs : List Char) : Option (Statement × List Char) :=
  match cs with
  | '[' :: '[' :: rest => readElement rest
  | '[' :: rest => readHeader rest
  | _ => readPairLine cs

/-- The lines of a document that say something. The first argument bounds the number of lines. -/
def readStatements : Nat → List Char → Option (List Statement)
  | 0, _ => none
  | fuel + 1, cs =>
      match skipSpace cs with
      | [] => some []
      | c :: rest =>
          if c = '#' ∨ c = '\n' ∨ c = '\r' then (endLine (c :: rest)).bind (readStatements fuel)
          else
            match readStatement (c :: rest) with
            | none => none
            | some (statement, rest) =>
                match endLine rest with
                | none => none
                | some rest => (readStatements fuel rest).map (statement :: ·)

/-- The text after the mark of byte order that it may start with. -/
def skipByteOrderMark : List Char → List Char
  | c :: rest => if c.toNat = 0xFEFF then rest else c :: rest
  | [] => []

def parse (s : String) : Option Toml :=
  let cs := skipByteOrderMark s.toList
  (readStatements (cs.length + 1) cs).bind ofStatements

end ConfigTimeline.Toml
