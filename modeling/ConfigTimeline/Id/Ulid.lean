import ConfigTimeline.Text.Positional

/-!
Sortable identifiers. A `Ulid` is a 128-bit number: 48 bits of milliseconds since the Unix epoch
above 80 random bits, so the order of the numbers is the order of creation. Its text is the number
in 26 base-32 digits of the Crockford alphabet. 26 digits carry 130 bits, and reading drops the two
bits in excess, so a text that starts with a digit above 7 wraps around.
-/

namespace ConfigTimeline

/-- A 128-bit identifier whose order is the order of creation. -/
structure Ulid where
  toNat : Nat
  toNat_lt : toNat < 1 <<< 128
deriving DecidableEq

namespace Ulid

/-- The identifier with the last 128 bits of a number. -/
def ofNat (n : Nat) : Ulid := ⟨n % 1 <<< 128, Nat.mod_lt _ (by decide)⟩

instance : Inhabited Ulid := ⟨ofNat 0⟩

@[ext] theorem ext {a b : Ulid} (h : a.toNat = b.toNat) : a = b := by
  cases a; cases b; cases h; rfl

@[simp] theorem toNat_ofNat (n : Nat) : (ofNat n).toNat = n % 1 <<< 128 := rfl

@[simp] theorem ofNat_toNat (u : Ulid) : ofNat u.toNat = u :=
  ext (Nat.mod_eq_of_lt u.toNat_lt)

instance : LT Ulid := ⟨fun a b => a.toNat < b.toNat⟩
instance : LE Ulid := ⟨fun a b => a.toNat ≤ b.toNat⟩
instance (a b : Ulid) : Decidable (a < b) := inferInstanceAs (Decidable (a.toNat < b.toNat))
instance (a b : Ulid) : Decidable (a ≤ b) := inferInstanceAs (Decidable (a.toNat ≤ b.toNat))

theorem lt_def {a b : Ulid} : a < b ↔ a.toNat < b.toNat := Iff.rfl
theorem le_def {a b : Ulid} : a ≤ b ↔ a.toNat ≤ b.toNat := Iff.rfl

def randomBits : Nat := 80

/-- An identifier stamped with milliseconds since the epoch (their last 48 bits) over a random
part (its last 80 bits). -/
def ofParts (millis random : Nat) : Ulid :=
  ofNat (millis % 1 <<< 48 * 1 <<< randomBits + random % 1 <<< randomBits)

def millis (u : Ulid) : Nat := u.toNat / 1 <<< randomBits

def random (u : Ulid) : Nat := u.toNat % 1 <<< randomBits

/-- The next identifier of the same millisecond. There is none after a random part of all ones:
the stamp never changes on the way. -/
def next? (u : Ulid) : Option Ulid :=
  if u.random = 1 <<< randomBits - 1 then none else some (ofNat (u.toNat + 1))

/-- The Crockford alphabet: the digits and the upper-case letters without I, L, O and U. -/
def alphabet : List Char := "0123456789ABCDEFGHJKMNPQRSTVWXYZ".toList

def digitChar (d : Nat) : Char := alphabet.getD d '0'

/-- The base-32 digit of a character, in either case. -/
def digit? (c : Char) : Option Nat := alphabet.findIdx? (· == c.toUpper)

def textLength : Nat := 26

def chars (u : Ulid) : List Char := (Positional.digits 32 textLength u.toNat).map digitChar

/-- The text form: 26 base-32 digits, most significant first. -/
def text (u : Ulid) : String := String.ofList u.chars

instance : ToString Ulid := ⟨text⟩

/-- Why a text is not an identifier. The length is looked at first. -/
inductive Flaw
  | length
  | character
deriving DecidableEq

def Flaw.message : Flaw → String
  | .length => "invalid length"
  | .character => "invalid character"

/-- The identifier a text stands for: 26 bytes, all of the alphabet in either case. -/
def parse (s : String) : Except Flaw Ulid :=
  if s.utf8ByteSize ≠ textLength then .error .length
  else match s.toList.mapM digit? with
    | none => .error .character
    | some ds => .ok (ofNat (Positional.value 32 ds))

def hex (u : Ulid) : String := String.ofList ((Positional.digits 16 32 u.toNat).map Positional.hexChar)

theorem digit?_digitChar {d : Nat} (h : d < 32) : digit? (digitChar d) = some d := by
  have all : ∀ d < 32, digit? (digitChar d) = some d := by decide
  exact all d h

end Ulid

end ConfigTimeline
