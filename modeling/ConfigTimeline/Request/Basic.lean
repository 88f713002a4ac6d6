import ConfigTimeline.Record.Basic

/-!
What callers ask for: a blueprint or a mask to append to a project's config, environments to pin,
and a page of history.
-/

namespace ConfigTimeline

structure NewValue where
  key : String
  value : String
  kind : ValueKind
  description : Option String
deriving DecidableEq

/-- A blueprint to be made. Without an id of the caller's choice it gets a fresh one. -/
structure Draft where
  id : Option BlueprintId
  kind : BlueprintKind
  description : Option String
  values : List NewValue
deriving DecidableEq

namespace Draft

def keys (d : Draft) : List String := d.values.map (·.key)

end Draft

inductive ProjectRef
  /-- A project of the directory, by its id. -/
  | id (id : ProjectId)
  /-- A project by its name, made if there is none. -/
  | name (name : String)
deriving DecidableEq

/-- A request to append a draft to the config of a project, which is made if there is none, with the
given config id if there is one. -/
structure CreateRequest where
  project : Option ProjectId
  projectName : Option String
  config : Option ConfigId
  draft : Draft
deriving DecidableEq

structure PinTarget where
  env : String
  blueprint : BlueprintId
deriving DecidableEq

structure PinRequest where
  project : ProjectId
  targets : List PinTarget
deriving DecidableEq

namespace PinRequest

def names (r : PinRequest) : List String := r.targets.map (·.env)

/-- The blueprints asked for, each once, in the order in which they are first named. -/
def blueprints (r : PinRequest) : List BlueprintId :=
  r.targets.foldl
    (fun seen t => if t.blueprint ∈ seen then seen else seen ++ [t.blueprint]) []

end PinRequest

/-- Which page of what size, both counted from one, as 32-bit words. -/
structure PageRequest where
  page : Nat
  size : Nat
deriving DecidableEq

namespace PageRequest

/-- The number of records on the pages before. The page before is counted in 32-bit words. -/
def offset (r : PageRequest) : Nat := (r.page + (1 <<< 32 - 1)) % 1 <<< 32 * r.size

end PageRequest

end ConfigTimeline
