import ConfigTimeline.Record.Order
import ConfigTimeline.Record.Wire
import ConfigTimeline.Store.Program

/-!
The overview of a project: what a store holds of it, read in one program. The value rows are read
first, then what stands above them, and the first refusal of the store ends the reading.
-/

namespace ConfigTimeline

structure Overview where
  config : Option Config
  /-- The number of blueprints that are not masks. -/
  count : Nat
  latest : Option Blueprint
  latestMask : Option Blueprint
  history : List BlueprintView
  rows : List ValueRow
deriving DecidableEq

namespace Overview

def historyLimit : Nat := 1000

def read {ε : Type} (refused : StoreError → ε) (workspace : String) (project : ProjectId) :
    Program ε Overview := do
  let rows ← Program.ask refused workspace (.rows project)
  let config ← Program.ask refused workspace (.configOf project)
  let count ← Program.ask refused workspace (.count project)
  let latest ← Program.ask refused workspace (.latest project .blueprint)
  let latestMask ← Program.ask refused workspace (.latest project .mask)
  let history ← Program.ask refused workspace (.history project historyLimit 0)
  pure { config, count, latest, latestMask, history, rows := ValueRow.listed rows }

def toJson (o : Overview) : Json :=
  .record [("config", Json.orNull Config.toJson o.config), ("count", .nat o.count),
    ("latest", Json.orNull (fun b => b.id.toJson) o.latest),
    ("latest_mask", Json.orNull (fun b => b.id.toJson) o.latestMask),
    ("history", .arr (o.history.map BlueprintView.toJson)),
    ("rows", .arr (o.rows.map ValueRow.toJson))]

end Overview

end ConfigTimeline
