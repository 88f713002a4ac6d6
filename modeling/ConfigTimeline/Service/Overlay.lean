import ConfigTimeline.Service.Action

/-!
Overlaying the values of a mask on resolved values. A row of the mask takes the place of the row of
its key, whole; rows of other keys are added. Of several rows of one key the last one counts.
-/

namespace ConfigTimeline

/-- The rows that no later row of the same key follows. -/
def lastPerKey : List ValueRow → List ValueRow
  | [] => []
  | row :: rest =>
      if rest.any (·.key == row.key) then lastPerKey rest else row :: lastPerKey rest

def overlay (base mask : List ValueRow) : List ValueRow := lastPerKey (base ++ mask)

namespace Overlay

/-- The values with those of a mask of the project over them. -/
def apply (workspace : String) (values : List ValueRow) (mask : BlueprintId)
    (project : ProjectId) : Action (List ValueRow) := do
  let stored ← Action.ask workspace (.blueprintOfKind mask project .mask)
  let _ ← Action.found (.mask mask project) stored
  let rows ← Action.ask workspace (.delta mask)
  pure (overlay values rows)

end Overlay

end ConfigTimeline
