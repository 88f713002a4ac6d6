import ConfigTimeline.Id.Ulid

/-!
Identifiers by what they identify. Blueprints, value rows, environment pins and configs have
`Ulid`s, told apart by the type `Id kind`; projects have the UUIDs of the directory that owns them.
-/

namespace ConfigTimeline

inductive IdKind
  | blueprint
  | value
  | environment
  | config
deriving DecidableEq

def IdKind.label : IdKind → String
  | .blueprint => "blueprint id"
  | .value => "value id"
  | .environment => "environment id"
  | .config => "config id"

structure Id (kind : IdKind) where
  ulid : Ulid
deriving DecidableEq, Inhabited

abbrev BlueprintId := Id .blueprint
abbrev ValueId := Id .value
abbrev EnvId := Id .environment
abbrev ConfigId := Id .config

/-- A text that was to name something and does not. -/
structure IdError where
  label : String
  text : String
  reason : String
deriving DecidableEq

/-- The wording of the error names the kind, the text and the reason. -/
def IdError.message (e : IdError) : String :=
  "invalid " ++ e.label ++ " '" ++ e.text ++ "': " ++ e.reason

namespace Id

variable {kind : IdKind}

instance : LT (Id kind) := ⟨fun a b => a.ulid < b.ulid⟩
instance : LE (Id kind) := ⟨fun a b => a.ulid ≤ b.ulid⟩
instance (a b : Id kind) : Decidable (a < b) := inferInstanceAs (Decidable (a.ulid < b.ulid))
instance (a b : Id kind) : Decidable (a ≤ b) := inferInstanceAs (Decidable (a.ulid ≤ b.ulid))

def text (id : Id kind) : String := id.ulid.text

instance : ToString (Id kind) := ⟨text⟩

def parse (kind : IdKind) (s : String) : Except IdError (Id kind) :=
  match Ulid.parse s with
  | .ok u => .ok ⟨u⟩
  | .error flaw => .error ⟨kind.label, s, flaw.message⟩

end Id

/-- A project identifier: a UUID, as a number of 32 hexadecimal digits. -/
structure ProjectId where
  toNat : Nat
  toNat_lt : toNat < Nat.pow 16 32
deriving DecidableEq

namespace ProjectId

/-- The identifier with the last 32 hexadecimal digits of a number. -/
def ofNat (n : Nat) : ProjectId := ⟨n % Nat.pow 16 32, Nat.mod_lt _ (by decide)⟩

instance : Inhabited ProjectId := ⟨ofNat 0⟩

/-- The lengths of the groups of the hyphenated form. -/
def groups : List Nat := [8, 4, 4, 4, 12]

/-- The characters cut into groups of the given lengths with a hyphen between two groups. -/
def hyphenate : List Nat → List Char → List Char
  | [], cs => cs
  | [_], cs => cs
  | n :: rest, cs => cs.take n ++ '-' :: hyphenate rest (cs.drop n)

/-- The characters without the hyphens between groups of exactly the given lengths. -/
def unhyphenate : List Nat → List Char → Option (List Char)
  | [], [] => some []
  | [], _ :: _ => none
  | [n], cs => if cs.length = n then some cs else none
  | n :: rest, cs =>
      match cs.drop n with
      | '-' :: tail => (unhyphenate rest tail).map (cs.take n ++ ·)
      | _ => none

def chars (p : ProjectId) : List Char :=
  hyphenate groups ((Positional.digits 16 32 p.toNat).map Positional.hexChar)

/-- The text form: lower-case hexadecimal digits in hyphenated groups. -/
def text (p : ProjectId) : String := String.ofList p.chars

instance : ToString ProjectId := ⟨text⟩

def ofHex (cs : List Char) : Option ProjectId :=
  if cs.length = 32 then (cs.mapM Positional.hex?).map fun ds => ofNat (Positional.value 16 ds)
  else none

/-- The identifier of hyphenated groups of hexadecimal digits. -/
def ofGroups (cs : List Char) : Option ProjectId := (unhyphenate groups cs).bind ofHex

/-- The characters that may stand before a hyphenated form, in either case. -/
def urnMark : List Char := "urn:uuid:".toList

/-- A UUID is written as 32 hexadecimal digits, as hyphenated groups, as groups in braces, or as
groups after `urn:uuid:`. Letters may be of either case throughout. -/
def ofChars (cs : List Char) : Option ProjectId :=
  if cs.length = 32 then ofHex cs
  else if cs.length = 36 then ofGroups cs
  else if cs.length = 38 then
    if cs.head? = some '{' ∧ cs.getLast? = some '}' then ofGroups (cs.tail.dropLast) else none
  else if cs.length = 45 then
    if (cs.take 9).map Char.toLower = urnMark then ofGroups (cs.drop 9) else none
  else none

def label : String := "project id"

def parse (s : String) : Except IdError ProjectId :=
  match ofChars s.toList with
  | some p => .ok p
  | none => .error ⟨label, s, "invalid UUID"⟩

end ProjectId

end ConfigTimeline
