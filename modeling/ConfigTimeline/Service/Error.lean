import ConfigTimeline.Directory.Basic
import ConfigTimeline.Request.Validation
import ConfigTimeline.Store.Error

/-!
Why the service refuses a call. Callers tell three classes apart: an argument that is refused, a
thing that is not there, and a failure inside, which is a broken invariant of what is stored, a
failure of the store or a failure of the project directory.
-/

namespace ConfigTimeline

inductive NotFound
  | project (project : ProjectId)
  | config (project : ProjectId)
  | blueprint (blueprint : BlueprintId)
  /-- The project has no blueprint that is not a mask. -/
  | latest (project : ProjectId)
  | mask (mask : BlueprintId) (project : ProjectId)
  | environment (env : String)
  /-- The environment is pinned to something that resolves to no values. -/
  | pinnedToMask (env : String) (mask : BlueprintId)
  | blueprints (missing : List BlueprintId)
  | masksAsTargets (masks : List BlueprintId)
deriving DecidableEq

def bracketed (ids : List BlueprintId) : String :=
  "[" ++ ", ".intercalate (ids.map Id.text) ++ "]"

def NotFound.message : NotFound → String
  | .project p => "Project '" ++ p.text ++ "' not found"
  | .config p => "No configuration found for project '" ++ p.text ++ "'"
  | .blueprint b => "Blueprint '" ++ b.text ++ "' not found"
  | .latest p => "No blueprint found for project '" ++ p.text ++ "'"
  | .mask m p => "Mask blueprint '" ++ m.text ++ "' not found in project '" ++ p.text ++ "'"
  | .environment name => "No blueprint found for environment '" ++ name ++ "'"
  | .pinnedToMask name m => "Environment '" ++ name ++ "' is pinned to mask '" ++ m.text ++ "'"
  | .blueprints ids => "Blueprints not found: " ++ bracketed ids
  | .masksAsTargets ids => "Environments cannot be pinned to masks: " ++ bracketed ids

/-- How stored records break an invariant. -/
inductive Violation
  /-- A write that should have been free to go through clashed. -/
  | clash (clash : Clash)
  /-- Two rows of one key are effective at a blueprint. -/
  | overlap (key : String) (blueprint : BlueprintId)
  /-- The latest blueprint has the last id of its millisecond. -/
  | noIdAfter (latest : BlueprintId)
  /-- Pins that had just been read were gone when they were to be moved. -/
  | updateCount (expected updated : Nat)
  | reported (text : String)
deriving DecidableEq

def Violation.message : Violation → String
  | .clash c => c.message
  | .overlap key b =>
      "key '" ++ key ++ "' has overlapping intervals at blueprint '" ++ b.text ++ "'"
  | .noIdAfter latest => "no blueprint id after '" ++ latest.text ++ "'"
  | .updateCount expected updated =>
      "expected to update " ++ toString expected ++ " environments, updated " ++ toString updated
  | .reported text => text

inductive ServiceError
  | invalid (reason : ValidationError)
  | notFound (what : NotFound)
  | violation (how : Violation)
  | store (e : StoreError)
  | directory (reason : String)
deriving DecidableEq

namespace ServiceError

def message : ServiceError → String
  | .invalid reason => "invalid argument: " ++ reason.message
  | .notFound what => what.message
  | .violation how => "invariant violation: " ++ how.message
  | .store e => "store error: " ++ e.message
  | .directory reason => "project directory error: " ++ reason

inductive Kind
  | invalidArgument
  | notFound
  | internal
deriving DecidableEq

def kind : ServiceError → Kind
  | .invalid _ => .invalidArgument
  | .notFound _ => .notFound
  | .violation _ | .store _ | .directory _ => .internal

/-- A refusal of the store, seen from the service: since the service checks before it writes, a clash
means that an invariant is broken. -/
def ofStore : StoreError → ServiceError
  | .conflict clash => .violation (.clash clash)
  | e => .store e

def ofDirectory : DirectoryError → ServiceError
  | .notFound project => .notFound (.project project)
  | .unavailable reason => .directory reason

end ServiceError

end ConfigTimeline
