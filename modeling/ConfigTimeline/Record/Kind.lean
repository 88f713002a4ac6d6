/-!
The two closed vocabularies of stored records: what a blueprint is, and what a value is declared to
be. Both are written as lower-case words, and any other word is refused.
-/

namespace ConfigTimeline

structure UnknownWord where
  vocabulary : String
  word : String
deriving DecidableEq

def UnknownWord.message (e : UnknownWord) : String :=
  "unknown " ++ e.vocabulary ++ ": '" ++ e.word ++ "'"

inductive BlueprintKind
  /-- One step in the history of the project's configuration. -/
  | blueprint
  /-- A reusable overlay, never part of the history. -/
  | mask
deriving DecidableEq

namespace BlueprintKind

def text : BlueprintKind → String
  | .blueprint => "blueprint"
  | .mask => "mask"

def ofText? (s : String) : Option BlueprintKind :=
  if s = "blueprint" then some .blueprint else if s = "mask" then some .mask else none

def parse (s : String) : Except UnknownWord BlueprintKind :=
  match ofText? s with
  | some kind => .ok kind
  | none => .error ⟨"blueprint type", s⟩

theorem ofText?_text (kind : BlueprintKind) : ofText? kind.text = some kind := by
  cases kind <;> decide

end BlueprintKind

/-- What a value is declared to be. The declaration is not checked against the value. -/
inductive ValueKind
  | string
  | integer
  | float
  | boolean
  /-- A reference to a prompt. -/
  | prompt
  /-- A reference to one commit of a prompt. -/
  | promptCommit
deriving DecidableEq

namespace ValueKind

def all : List ValueKind := [.string, .integer, .float, .boolean, .prompt, .promptCommit]

def text : ValueKind → String
  | .string => "string"
  | .integer => "integer"
  | .float => "float"
  | .boolean => "boolean"
  | .prompt => "prompt"
  | .promptCommit => "prompt_commit"

def ofText? (s : String) : Option ValueKind := all.find? (·.text == s)

def parse (s : String) : Except UnknownWord ValueKind :=
  match ofText? s with
  | some kind => .ok kind
  | none => .error ⟨"value type", s⟩

theorem ofText?_text (kind : ValueKind) : ofText? kind.text = some kind := by
  cases kind <;> decide

end ValueKind

end ConfigTimeline
