import ConfigTimeline.Text.Positional
import ConfigTimeline.Time.Instant
import ConfigTimeline.Toml.Value

/-!
The numbers of TOML, and its points in time. An underscore may stand between two digits. Integers are
signed 64-bit numbers, in base ten, or in base 16, 8 or 2 without a sign. A floating-point number may
be too small but not too great to be told from infinity.
-/

namespace ConfigTimeline.Toml

def digitIn? (base : Nat) (c : Char) : Option Nat :=
  (Positional.hex? c).filter (· < base)

/-- Digits after a first one, each perhaps after an underscore, and the text after them. -/
def readDigits (base : Nat) : List Char → Option (List Nat × List Char)
  | [] => some ([], [])
  | '_' :: c :: rest =>
      match digitIn? base c with
      | some d => (readDigits base rest).map fun (ds, rest) => (d :: ds, rest)
      | none => none
  | c :: rest =>
      match digitIn? base c with
      | some d => (readDigits base rest).map fun (ds, rest) => (d :: ds, rest)
      | none => if c = '_' then none else some ([], c :: rest)

def readSomeDigits (base : Nat) : List Char → Option (List Nat × List Char)
  | c :: rest =>
      match digitIn? base c with
      | some d => (readDigits base rest).map fun (ds, rest) => (d :: ds, rest)
      | none => none
  | [] => none

/-- At least one digit, and no zero in front of another. -/
def readPlainDigits (cs : List Char) : Option (List Nat × List Char) :=
  match cs with
  | '0' :: rest => some ([0], rest)
  | _ => readSomeDigits 10 cs

/-- The text after a sign, and whether it was a minus. -/
def dropSign : List Char → Bool × List Char
  | '-' :: rest => (true, rest)
  | '+' :: rest => (false, rest)
  | cs => (false, cs)

/-- The integer, if it is a signed 64-bit number. -/
def integer? (n : Int) : Option Toml :=
  if -(1 <<< 63) ≤ n ∧ n < 1 <<< 63 then some (.integer n) else none

/-- An integer in the base that two characters announce. -/
def readBased (base : Nat) (cs : List Char) : Option (Toml × List Char) :=
  match readSomeDigits base cs with
  | some (ds, rest) => (integer? (Positional.value base ds)).map (·, rest)
  | none => none

def readInteger (cs : List Char) : Option (Toml × List Char) :=
  match cs with
  | '0' :: 'x' :: rest => readBased 16 rest
  | '0' :: 'o' :: rest => readBased 8 rest
  | '0' :: 'b' :: rest => readBased 2 rest
  | _ =>
      let (negative, rest) := dropSign cs
      match readPlainDigits rest with
      | some (ds, rest) =>
          let n : Int := Positional.value 10 ds
          (integer? (if negative then -n else n)).map (·, rest)
      | none => none

/-- The least number that is nearer to infinity than to any floating-point number. -/
def overflowBound : Nat := 1 <<< 1024 - 1 <<< 970

/-- Whether a number of the given digits, times ten to a power, is as good as infinite. -/
def overflows (ds : List Nat) (exponent : Int) : Bool :=
  let ds := ds.dropWhile (· == 0)
  let size : Int := ds.length + exponent
  if ds.isEmpty then false
  else if 310 < size then true
  else if size < 308 then false
  else
    let n := Positional.value 10 ds
    if 0 ≤ exponent then decide (overflowBound ≤ n * Nat.pow 10 exponent.toNat)
    else decide (overflowBound * Nat.pow 10 (-exponent).toNat ≤ n)

def readFraction : List Char → Option (List Nat × List Char)
  | '.' :: rest => readSomeDigits 10 rest
  | _ => none

def readExponent : List Char → Option (Int × List Char)
  | c :: rest =>
      if c = 'e' ∨ c = 'E' then
        let (negative, rest) := dropSign rest
        (readSomeDigits 10 rest).map fun (ds, rest) =>
          let n : Int := Positional.value 10 ds
          (if negative then -n else n, rest)
      else none
  | [] => none

/-- A floating-point number of digits: with a fraction, with an exponent, or with both. -/
def readDigitFloat (cs : List Char) : Option (Toml × List Char) :=
  let (negative, rest) := dropSign cs
  match readPlainDigits rest with
  | none => none
  | some (whole, rest) =>
      let (fraction, afterFraction) := (readFraction rest).getD ([], rest)
      let (exponent, after) := (readExponent afterFraction).getD (0, afterFraction)
      if after.length = rest.length then none
      else if !negative && overflows (whole ++ fraction) (exponent - fraction.length) then none
      else some (.float, after)

def readSpecialFloat (cs : List Char) : Option (Toml × List Char) :=
  match (dropSign cs).2 with
  | 'i' :: 'n' :: 'f' :: rest => some (.float, rest)
  | 'n' :: 'a' :: 'n' :: rest => some (.float, rest)
  | _ => none

def readPair : List Char → Option (Nat × List Char)
  | a :: b :: rest =>
      match Positional.decimal? a, Positional.decimal? b with
      | some x, some y => some (x * 10 + y, rest)
      | _, _ => none
  | _ => none

def dropChar (c : Char) : List Char → Option (List Char)
  | d :: rest => if d = c then some rest else none
  | [] => none

/-- The text after a date of the calendar. -/
def skipDate (cs : List Char) : Option (List Char) := do
  let (century, cs) ← readPair cs
  let (year, cs) ← readPair cs
  let cs ← dropChar '-' cs
  let (month, cs) ← readPair cs
  let cs ← dropChar '-' cs
  let (day, cs) ← readPair cs
  let _ ← Date.of? ((century * 100 + year : Nat) : Int) month day
  some cs

/-- The text after a fraction of a second, where there is one. -/
def skipSecondFraction (cs : List Char) : List Char :=
  match cs with
  | '.' :: rest =>
      let ds := rest.takeWhile fun c => (Positional.decimal? c).isSome
      if ds.isEmpty then cs else rest.drop ds.length
  | _ => cs

def skipTime (cs : List Char) : Option (List Char) := do
  let (hour, cs) ← readPair cs
  let cs ← dropChar ':' cs
  let (minute, cs) ← readPair cs
  let cs ← dropChar ':' cs
  let (second, cs) ← readPair cs
  if hour < 24 ∧ minute < 60 ∧ second ≤ 60 then some (skipSecondFraction cs) else none

def skipOffset : List Char → Option (List Char)
  | c :: cs =>
      if c = 'Z' ∨ c = 'z' then some cs
      else if c = '+' ∨ c = '-' then do
        let (hour, cs) ← readPair cs
        let cs ← dropChar ':' cs
        let (minute, cs) ← readPair cs
        if hour < 24 ∧ minute < 60 then some cs else none
      else none
  | [] => none

/-- The text after what may follow a date: a time of day, perhaps with an offset. -/
def skipTimeOfDate (cs : List Char) : List Char :=
  match cs with
  | c :: rest =>
      if c = 'T' ∨ c = 't' ∨ c = ' ' then
        match skipTime rest with
        | some rest => (skipOffset rest).getD rest
        | none => cs
      else cs
  | [] => []

/-- A date, a time of day, or both. -/
def readMoment (cs : List Char) : Option (Toml × List Char) :=
  match skipDate cs with
  | some rest => some (.moment, skipTimeOfDate rest)
  | none => (skipTime cs).map (.moment, ·)

def readNumber (cs : List Char) : Option (Toml × List Char) :=
  (((readMoment cs).orElse fun _ => readDigitFloat cs).orElse fun _ => readSpecialFloat cs).orElse
    fun _ => readInteger cs

end ConfigTimeline.Toml
