import ConfigTimeline.Service.Overlay
import ConfigTimeline.Service.Action

/-!
Reading configurations back: the values effective at a blueprint, those of the blueprint an
environment is pinned to, the values that one blueprint brought in, and the history of a project. A
key that is effective twice is reported, never hidden by picking one of its rows.
-/

namespace ConfigTimeline.Resolution

/-- The first key, in the order of the rows, that a row before had already. -/
def repeatedKey? (seen : List String) : List ValueRow → Option String
  | [] => none
  | row :: rest => if row.key ∈ seen then some row.key else repeatedKey? (row.key :: seen) rest

/-- The blueprint to resolve: the one asked for, or the latest. -/
def target (workspace : String) (project : ProjectId) : Option BlueprintId → Action Blueprint
  | some id => do
      let stored ← Action.ask workspace (.blueprintOfKind id project .blueprint)
      Action.found (.blueprint id) stored
  | none => do
      let stored ← Action.ask workspace (.latest project .blueprint)
      Action.found (.latest project) stored

/-- The values effective at a blueprint of a project, or at its latest one, with the environments
pinned to it. -/
def effective (workspace : String) (project : ProjectId) (at? : Option BlueprintId) :
    Action BlueprintView := do
  let _ ← Action.config workspace project
  let blueprint ← target workspace project at?
  let values ← Action.ask workspace (.effective project blueprint.id)
  match repeatedKey? [] values with
  | some key => .fail (.violation (.overlap key blueprint.id))
  | none =>
      let envs ← Action.ask workspace (.envsOf blueprint.id)
      pure ⟨blueprint, envs, values⟩

/-- Refuses a blueprint that is a mask, on behalf of the environment pinned to it. -/
def refuseMask (env : String) (id : BlueprintId) : Option Blueprint → Action Unit
  | some blueprint =>
      match blueprint.kind with
      | .mask => Action.missing (.pinnedToMask env id)
      | .blueprint => pure ()
  | none => pure ()

def atEnvironment (workspace : String) (project : ProjectId) (env : String) :
    Action BlueprintView := do
  let _ ← Action.config workspace project
  let pinned ← Action.ask workspace (.pinnedTo project env)
  let id ← Action.found (.environment env) pinned
  let stored ← Action.ask workspace (.blueprintById id)
  refuseMask env id stored
  effective workspace project (some id)

def atBlueprint (workspace : String) (id : BlueprintId) : Action BlueprintView := do
  let stored ← Action.ask workspace (.blueprintById id)
  let blueprint ← Action.found (.blueprint id) stored
  effective workspace blueprint.project (some id)

def delta (workspace : String) (id : BlueprintId) : Action BlueprintView := do
  let stored ← Action.ask workspace (.blueprintById id)
  let blueprint ← Action.found (.blueprint id) stored
  let values ← Action.ask workspace (.delta id)
  pure ⟨blueprint, [], values⟩

def history (workspace : String) (project : ProjectId) (page : PageRequest) : Action HistoryPage := do
  let _ ← Action.config workspace project
  let content ← Action.ask workspace (.history project page.size page.offset)
  let total ← Action.ask workspace (.count project)
  pure ⟨page.page, page.size, total, content⟩

/-- A resolved blueprint with a mask over its values, if there is one. -/
def masked (workspace : String) (mask : Option BlueprintId) (v : BlueprintView) :
    Action BlueprintView :=
  match mask with
  | none => pure v
  | some m => do
      let values ← Overlay.apply workspace v.values m v.blueprint.project
      pure { v with values }

end ConfigTimeline.Resolution
