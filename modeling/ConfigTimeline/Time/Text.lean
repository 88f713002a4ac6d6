import ConfigTimeline.Text.Blank
import ConfigTimeline.Text.Bytes
import ConfigTimeline.Text.Positional
import ConfigTimeline.Time.Instant

/-!
RFC 3339 text of points in time. Written text is in UTC with a `Z`; the fraction of the second has
the fewest of 0, 3, 6 or 9 digits that lose nothing, or always nine. Text is read in two ways: a
strict one, which names the flaw of a text it refuses, and a lenient one, which allows blanks
between the parts, short fields and signed years.
-/

namespace ConfigTimeline.Instant

open Positional

/-- The year in four digits; outside 0 to 9999 with a sign in front. -/
def yearChars (year : Int) : List Char :=
  if 0 ≤ year ∧ year ≤ 9999 then padded 4 year.toNat
  else
    let mark := if year < 0 then '-' else '+'
    let size := year.natAbs
    mark :: (if size < 10000 then padded 4 size else plain size)

/-- The point in time with a given text for the fraction of the second. -/
def chars (t : Instant) (fraction : List Char) : List Char :=
  yearChars t.date.year ++ '-' :: padded 2 t.date.month ++ '-' :: padded 2 t.date.day ++
    'T' :: padded 2 t.time.hour ++ ':' :: padded 2 t.time.minute ++ ':' ::
    padded 2 t.time.shownSecond ++ fraction ++ ['Z']

/-- The fewest of 0, 3, 6 or 9 digits that give the nanoseconds in full. -/
def shortFraction (nano : Nat) : List Char :=
  if nano = 0 then []
  else if nano % 1000000 = 0 then '.' :: padded 3 (nano / 1000000)
  else if nano % 1000 = 0 then '.' :: padded 6 (nano / 1000)
  else '.' :: padded 9 nano

def text (t : Instant) : String := String.ofList (t.chars (shortFraction t.time.shownNano))

/-- The text form of stored rows: always nine digits of the second. -/
def fullText (t : Instant) : String := String.ofList (t.chars ('.' :: padded 9 t.time.shownNano))

inductive Flaw
  | tooShort
  | invalid
  | outOfRange
  | trailing
deriving DecidableEq

def Flaw.message : Flaw → String
  | .tooShort => "premature end of input"
  | .invalid => "input contains invalid characters"
  | .outOfRange => "input is out of range"
  | .trailing => "trailing input"

def readPadded : (width : Nat) → List Char → Except Flaw (Nat × List Char)
  | 0, cs => .ok (0, cs)
  | _ + 1, [] => .error .invalid
  | width + 1, c :: cs =>
      match decimal? c with
      | none => .error .invalid
      | some d => (readPadded width cs).map fun (n, rest) => (d * Nat.pow 10 width + n, rest)

def readOne (allowed : List Char) : List Char → Except Flaw (List Char)
  | c :: cs => if c ∈ allowed then .ok cs else .error .invalid
  | [] => .error .tooShort

/-- A number of at least one and at most `width` digits. -/
def readNumber (width : Nat) (cs : List Char) : Except Flaw (Nat × List Char) :=
  let ds := (cs.take width).takeWhile fun c => (decimal? c).isSome
  match cs with
  | [] => .error .tooShort
  | _ =>
      if ds.isEmpty then .error .invalid
      else .ok (value 10 (ds.filterMap decimal?), cs.drop ds.length)

/-- A fraction of a second after its point, as nanoseconds; digits past the ninth are dropped. -/
def readFraction (cs : List Char) : Except Flaw (Nat × List Char) :=
  match readNumber 9 cs with
  | .error flaw => .error flaw
  | .ok (n, rest) =>
      .ok (n * Nat.pow 10 (9 - (cs.length - rest.length)), rest.dropWhile fun c => (decimal? c).isSome)

/-- Two digits of an offset. Less than two bytes are too short whatever they are. -/
def readOffsetPair (cs : List Char) : Except Flaw (Nat × List Char) :=
  if Text.byteCount cs < 2 then .error .tooShort
  else
    match cs with
    | a :: b :: rest =>
        match decimal? a, decimal? b with
        | some x, some y => .ok (x * 10 + y, rest)
        | _, _ => .error .invalid
    | _ => .error .invalid

/-- An offset in minutes ahead of UTC: `Z`, or a sign, hours, what `separator` takes away, and
minutes. A minus is a hyphen or the character U+2212. Hours may run to 99; a caller refuses what is a
day or more. -/
def readOffset (separator : List Char → Except Flaw (List Char)) :
    List Char → Except Flaw (Int × List Char)
  | [] => .error .tooShort
  | c :: cs =>
      if c = 'Z' ∨ c = 'z' then .ok (0, cs)
      else if c = '+' ∨ c = '-' ∨ c = '\u2212' then do
        let (hours, cs) ← readOffsetPair cs
        let cs ← separator cs
        let (minutes, cs) ← readOffsetPair cs
        if 60 ≤ minutes then .error .outOfRange
        else
          let size : Int := hours * 60 + minutes
          .ok (if c = '+' then size else -size, cs)
      else .error .invalid

def checkOffset (offset : Int) : Except Flaw Unit :=
  if offset.natAbs < 1440 then .ok () else .error .outOfRange

def orFlaw {α : Type} (flaw : Flaw) : Option α → Except Flaw α
  | some a => .ok a
  | none => .error flaw

/-- The strict form: fields of full width, `T`, `t` or a blank between date and time, and `Z`, `z`
or an offset with a colon. Less than nineteen bytes are too short whatever they are. -/
def parseStrict (s : String) : Except Flaw Instant := do
  if s.utf8ByteSize < 19 then .error .tooShort
  else
    let (year, cs) ← readPadded 4 s.toList
    let cs ← readOne ['-'] cs
    let (month, cs) ← readPadded 2 cs
    let cs ← readOne ['-'] cs
    let (day, cs) ← readPadded 2 cs
    let date ← orFlaw .outOfRange (Date.of? year month day)
    let cs ← readOne ['T', 't', ' '] cs
    let (hour, cs) ← readPadded 2 cs
    let cs ← readOne [':'] cs
    let (minute, cs) ← readPadded 2 cs
    let cs ← readOne [':'] cs
    let (second, cs) ← readPadded 2 cs
    let (nano, cs) ←
      match cs with
      | '.' :: rest => readFraction rest
      | _ => .ok (0, cs)
    let time ← orFlaw .outOfRange (TimeOfDay.ofShown? hour minute second nano)
    let (offset, cs) ← readOffset (readOne [':']) cs
    if cs ≠ [] then .error .trailing
    else
      checkOffset offset
      .ok (ofLocal date time offset)

/-- A year that may have a sign, and then any number of digits. -/
def readYear : List Char → Except Flaw (Int × List Char)
  | '-' :: cs => (readNumber cs.length cs).map fun (n, rest) => (-(n : Int), rest)
  | '+' :: cs => (readNumber cs.length cs).map fun (n, rest) => ((n : Int), rest)
  | cs => (readNumber 4 cs).map fun (n, rest) => ((n : Int), rest)

/-- A field of up to two digits after blanks. -/
def readField (cs : List Char) : Except Flaw (Nat × List Char) := readNumber 2 (Text.dropBlank cs)

def readMark (c : Char) (cs : List Char) : Except Flaw (List Char) := readOne [c] (Text.dropBlank cs)

def knownYear (year : Int) : Bool := decide (-262143 ≤ year ∧ year ≤ 262142)

/-- Colons and blanks between the hours and the minutes of an offset. -/
def dropColonOrBlank (cs : List Char) : List Char :=
  cs.dropWhile fun c => c == ':' || Text.isBlankChar c

/-- The lenient form: blanks may stand between the parts, fields may be short, a year may have a
sign, and the offset may lack its colon or be the word `UTC`. -/
def parseLenient (s : String) : Except Flaw Instant := do
  let (year, cs) ← readYear (Text.dropBlank s.toList)
  let cs ← readMark '-' cs
  let (month, cs) ← readField cs
  let cs ← readMark '-' cs
  let (day, cs) ← readField cs
  let cs ← readOne ['T', 't', ' '] cs
  let (hour, cs) ← readField cs
  let cs ← readMark ':' cs
  let (minute, cs) ← readField cs
  let cs ← readMark ':' cs
  let (second, cs) ← readField cs
  let (nano, cs) ←
    match cs with
    | '.' :: rest => readFraction rest
    | _ => .ok (0, cs)
  let cs := Text.dropBlank cs
  let (offset, cs) ←
    if (cs.take 3).map Char.toUpper = "UTC".toList then .ok (0, cs.drop 3)
    else readOffset (fun cs => .ok (dropColonOrBlank cs)) cs
  if Text.dropBlank cs ≠ [] then .error .trailing
  else
    checkOffset offset
    let date ← orFlaw .outOfRange (Date.of? year month day)
    let time ← orFlaw .outOfRange (TimeOfDay.ofShown? hour minute second nano)
    let at_ := ofLocal date time offset
    if knownYear date.year && knownYear at_.date.year then .ok at_ else .error .outOfRange

end ConfigTimeline.Instant
