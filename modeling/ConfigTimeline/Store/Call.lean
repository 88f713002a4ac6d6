import ConfigTimeline.Record.Basic
import ConfigTimeline.Request.Basic
import ConfigTimeline.Store.Error

/-!
The calls that a store answers within a unit of work. Each call is made in a workspace and sees
nothing of the others. `Call.Answer` is the type of the answer of each call; six of the calls write.
-/

namespace ConfigTimeline

inductive Mode
  | read
  | write
deriving DecidableEq

inductive Call
  | configOf (project : ProjectId)
  | configById (id : ConfigId)
  | insertConfig (config : Config)
  /-- Stores a blueprint under a config. -/
  | insertBlueprint (config : ConfigId) (blueprint : Blueprint)
  | blueprintById (id : BlueprintId)
  /-- A blueprint by its id, if it is one of the project and of the kind. -/
  | blueprintOfKind (id : BlueprintId) (project : ProjectId) (kind : BlueprintKind)
  /-- The blueprint of the project and the kind with the greatest id. -/
  | latest (project : ProjectId) (kind : BlueprintKind)
  /-- The kinds of those of the given blueprints that are of the project. -/
  | kinds (project : ProjectId) (ids : List BlueprintId)
  /-- Blueprints of the project that are not masks, newest first, with the environments pinned to
  them: at most `limit` of those after the first `offset`. -/
  | history (project : ProjectId) (limit offset : Nat)
  /-- The number of blueprints of the project that are not masks. -/
  | count (project : ProjectId)
  /-- Ends the open rows of the given keys; the answer is their number. -/
  | closeValues (project : ProjectId) (validTo : BlueprintId) (keys : List String)
  /-- Stores value rows under a config, one after another up to the first that clashes. -/
  | insertValues (config : ConfigId) (rows : List ValueRow)
  /-- The rows of the project that are effective at a blueprint. -/
  | effective (project : ProjectId) (blueprint : BlueprintId)
  | delta (blueprint : BlueprintId)
  | rows (project : ProjectId)
  | pinnedTo (project : ProjectId) (env : String)
  | envsOf (blueprint : BlueprintId)
  | pins (project : ProjectId) (envs : List String)
  /-- Stores pins, one after another up to the first that clashes. -/
  | insertPins (pins : List Pin)
  /-- Points stored pins elsewhere; the answer is the number of pins that were there. -/
  | updatePins (project : ProjectId) (user : String) (now : Instant) (targets : List PinTarget)

abbrev Call.Answer : Call → Type
  | .configOf _ => Option Config
  | .configById _ => Option Config
  | .insertConfig _ => Unit
  | .insertBlueprint _ _ => Unit
  | .blueprintById _ => Option Blueprint
  | .blueprintOfKind _ _ _ => Option Blueprint
  | .latest _ _ => Option Blueprint
  | .kinds _ _ => List (BlueprintId × BlueprintKind)
  | .history _ _ _ => List BlueprintView
  | .count _ => Nat
  | .closeValues _ _ _ => Nat
  | .insertValues _ _ => Unit
  | .effective _ _ => List ValueRow
  | .delta _ => List ValueRow
  | .rows _ => List ValueRow
  | .pinnedTo _ _ => Option BlueprintId
  | .envsOf _ => List String
  | .pins _ _ => List Pin
  | .insertPins _ => Unit
  | .updatePins _ _ _ _ => Nat

def Call.writes : Call → Bool
  | .insertConfig _ | .insertBlueprint _ _ | .closeValues _ _ _ | .insertValues _ _
  | .insertPins _ | .updatePins _ _ _ _ => true
  | _ => false

end ConfigTimeline
