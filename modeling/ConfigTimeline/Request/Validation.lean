import ConfigTimeline.Request.Basic
import ConfigTimeline.Text.Blank

/-!
The rules that a request keeps before anything is stored. A request with several faults is refused
for the first one: of the project reference, the description, the number of values, and then value
by value its key, its value, and the repetition of a key.
-/

namespace ConfigTimeline

/-- The bounds of request fields, in characters and in items. -/
structure Limits where
  key : Nat
  value : Nat
  description : Nat
  minValues : Nat
  maxValues : Nat
  envName : Nat
  minEnvs : Nat
  maxEnvs : Nat

def limits : Limits := ⟨255, 512, 255, 1, 250, 50, 1, 100⟩

/-- A field of a request, by its path. -/
inductive RequestField
  | projectName
  | description
  | key (index : Nat)
  | value (index : Nat)
  | envName (index : Nat)
deriving DecidableEq

def RequestField.path : RequestField → String
  | .projectName => "project_name"
  | .description => "description"
  | .key i => "values[" ++ toString i ++ "].key"
  | .value i => "values[" ++ toString i ++ "].value"
  | .envName i => "envs[" ++ toString i ++ "].env_name"

inductive ValidationError
  | missingProject
  | ambiguousProject
  | blank (field : RequestField)
  | tooLong (field : RequestField) (max : Nat)
  | valueCount (min max actual : Nat)
  | duplicateKey (key : String)
  | envCount (min max actual : Nat)
  | duplicateEnv (env : String)
  | invalidPage (page : Nat)
  | invalidPageSize (size : Nat)
  | blueprintIdTaken (id : BlueprintId)
  | blueprintIdNotNewer (requested latest : BlueprintId)
  | blueprintIdInFuture (requested : BlueprintId) (maxSkewMillis : Nat)
  | configIdTaken (id : ConfigId)
deriving DecidableEq

namespace ValidationError

def message : ValidationError → String
  | .missingProject => "either project_id or project_name must be provided"
  | .ambiguousProject => "only one of project_id or project_name may be provided"
  | .blank field => field.path ++ " must not be blank"
  | .tooLong field max => field.path ++ " cannot exceed " ++ toString max ++ " characters"
  | .valueCount min max actual =>
      "blueprint must have between " ++ toString min ++ " and " ++ toString max ++
        " values, got " ++ toString actual
  | .duplicateKey key => "duplicate key '" ++ key ++ "' in blueprint values"
  | .envCount min max actual =>
      "envs must contain between " ++ toString min ++ " and " ++ toString max ++
        " items, got " ++ toString actual
  | .duplicateEnv env => "duplicate environment '" ++ env ++ "' in request"
  | .invalidPage page => "page must be at least 1, got " ++ toString page
  | .invalidPageSize size => "size must be at least 1, got " ++ toString size
  | .blueprintIdTaken id => "blueprint id '" ++ id.text ++ "' already exists"
  | .blueprintIdNotNewer requested latest =>
      "blueprint id '" ++ requested.text ++ "' must be newer than latest blueprint '" ++
        latest.text ++ "'"
  | .blueprintIdInFuture requested maxSkew =>
      "blueprint id '" ++ requested.text ++ "' is timestamped more than " ++ toString maxSkew ++
        " ms in the future"
  | .configIdTaken id => "config id '" ++ id.text ++ "' already exists"

end ValidationError

def checkLength (field : RequestField) (s : String) (max : Nat) : Except ValidationError Unit :=
  if max < s.length then .error (.tooLong field max) else .ok ()

def checkText (field : RequestField) (s : String) (max : Nat) : Except ValidationError Unit :=
  if Text.isBlank s then .error (.blank field) else checkLength field s max

namespace Draft

/-- Checks values from an index on, given the keys before it. -/
def checkValues (index : Nat) (seen : List String) : List NewValue → Except ValidationError Unit
  | [] => .ok ()
  | v :: rest => do
      checkText (.key index) v.key limits.key
      checkText (.value index) v.value limits.value
      if v.key ∈ seen then .error (.duplicateKey v.key)
      else checkValues (index + 1) (v.key :: seen) rest

def validate (d : Draft) : Except ValidationError Unit := do
  match d.description with
  | some s => checkLength .description s limits.description
  | none => .ok ()
  if d.values.length < limits.minValues ∨ limits.maxValues < d.values.length then
    .error (.valueCount limits.minValues limits.maxValues d.values.length)
  else checkValues 0 [] d.values

end Draft

namespace CreateRequest

def projectRef (r : CreateRequest) : Except ValidationError ProjectRef :=
  match r.project, r.projectName with
  | some _, some _ => .error .ambiguousProject
  | none, none => .error .missingProject
  | some id, none => .ok (.id id)
  | none, some name => if Text.isBlank name then .error (.blank .projectName) else .ok (.name name)

/-- The project reference of a request that breaks no rule. -/
def validate (r : CreateRequest) : Except ValidationError ProjectRef := do
  let ref ← r.projectRef
  r.draft.validate
  .ok ref

end CreateRequest

namespace PinRequest

/-- Checks targets from an index on, given the environment names before it. -/
def checkTargets (index : Nat) (seen : List String) : List PinTarget → Except ValidationError Unit
  | [] => .ok ()
  | t :: rest => do
      checkText (.envName index) t.env limits.envName
      if t.env ∈ seen then .error (.duplicateEnv t.env)
      else checkTargets (index + 1) (t.env :: seen) rest

def validate (r : PinRequest) : Except ValidationError Unit :=
  if r.targets.length < limits.minEnvs ∨ limits.maxEnvs < r.targets.length then
    .error (.envCount limits.minEnvs limits.maxEnvs r.targets.length)
  else checkTargets 0 [] r.targets

end PinRequest

namespace PageRequest

/-- The request for a page and a size that both count from one. -/
def of (page size : Nat) : Except ValidationError PageRequest :=
  if page < 1 then .error (.invalidPage page)
  else if size < 1 then .error (.invalidPageSize size)
  else .ok ⟨page, size⟩

end PageRequest

end ConfigTimeline
