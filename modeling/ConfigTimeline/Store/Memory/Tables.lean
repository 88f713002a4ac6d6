import ConfigTimeline.Order.Insertion
import ConfigTimeline.Store.Call
import ConfigTimeline.Store.Rows

/-!
Tables of typed records, in the order in which they were stored, and the questions that a store
answers from them.
-/

namespace ConfigTimeline.Memory

structure Tables where
  configs : List (Scoped Config)
  blueprints : List (Scoped Blueprint)
  values : List (Scoped ValueRow)
  pins : List (Scoped Pin)
deriving DecidableEq

namespace Tables

def empty : Tables := ⟨[], [], [], []⟩

variable (t : Tables) (workspace : String)

def configOf (project : ProjectId) : Option Config :=
  (recordsIn workspace t.configs).find? (·.project == project)

def configById (id : ConfigId) : Option Config :=
  (recordsIn workspace t.configs).find? (·.id == id)

def blueprintById (id : BlueprintId) : Option Blueprint :=
  (recordsIn workspace t.blueprints).find? (·.id == id)

def newestFirst (project : ProjectId) (kind : BlueprintKind) : List Blueprint :=
  sortBy (fun a b => decide (b.id ≤ a.id))
    ((recordsIn workspace t.blueprints).filter fun b => b.project == project && b.kind == kind)

def valuesOf (project : ProjectId) : List ValueRow :=
  (recordsIn workspace t.values).filter (·.project == project)

def envsOf (blueprint : BlueprintId) : List String :=
  sortBy (fun a b => decide (a ≤ b))
    (((recordsIn workspace t.pins).filter (·.blueprint == blueprint)).map (·.env))

def pinsOf (project : ProjectId) : List Pin :=
  (recordsIn workspace t.pins).filter (·.project == project)

/-- The kinds of those of the given blueprints that are of the project, in the order asked. -/
def kinds (project : ProjectId) (ids : List BlueprintId) : List (BlueprintId × BlueprintKind) :=
  ids.filterMap fun id =>
    ((t.blueprintById workspace id).filter (·.project == project)).map fun b => (b.id, b.kind)

/-- One page of the blueprints of a project that are not masks, with their environments. -/
def history (project : ProjectId) (limit offset : Nat) : List BlueprintView :=
  (((t.newestFirst workspace project .blueprint).drop offset).take limit).map fun b =>
    ⟨b, t.envsOf workspace b.id, []⟩

end Tables

end ConfigTimeline.Memory
