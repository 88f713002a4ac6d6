import ConfigTimeline.Id
import ConfigTimeline.Record.Kind
import ConfigTimeline.Time.Instant

/-!
The records of configuration history. A project has at most one `Config`; its `Blueprint`s are the
versions of the configuration, in order of their ids; a `ValueRow` holds one key and value over the
half-open interval of blueprints from `validFrom` up to `validTo`; a `Pin` names an environment and
the blueprint it runs. Workspaces are not part of the records: stores keep records by workspace.
-/

namespace ConfigTimeline

structure Identity where
  workspace : String
  user : String
deriving DecidableEq

structure Project where
  id : ProjectId
  name : String
deriving DecidableEq

structure Audit where
  createdBy : String
  createdAt : Instant
  updatedBy : String
  updatedAt : Instant
deriving DecidableEq

def Audit.made (user : String) (now : Instant) : Audit := ⟨user, now, user, now⟩

structure Config where
  id : ConfigId
  project : ProjectId
  audit : Audit
deriving DecidableEq

/-- One version of a configuration, or a mask. -/
structure Blueprint where
  id : BlueprintId
  project : ProjectId
  kind : BlueprintKind
  description : Option String
  audit : Audit
deriving DecidableEq

/-- A key and its value over the half-open interval from `validFrom` up to `validTo`. -/
structure ValueRow where
  id : ValueId
  project : ProjectId
  key : String
  value : String
  kind : ValueKind
  description : Option String
  validFrom : BlueprintId
  validTo : Option BlueprintId
deriving DecidableEq

namespace ValueRow

/-- No later blueprint has set the key anew. -/
def isOpen (v : ValueRow) : Bool := v.validTo.isNone

def effectiveAt (v : ValueRow) (b : BlueprintId) : Bool :=
  decide (v.validFrom ≤ b) && v.validTo.all fun ending => decide (b < ending)

def introducedBy (v : ValueRow) (b : BlueprintId) : Bool := decide (v.validFrom = b)

end ValueRow

structure Pin where
  id : EnvId
  project : ProjectId
  config : ConfigId
  env : String
  blueprint : BlueprintId
  audit : Audit
deriving DecidableEq

/-- A blueprint with the environments pinned to it and with values: those it resolves to, or those
it brought in, as the reader asked. -/
structure BlueprintView where
  blueprint : Blueprint
  envs : List String
  values : List ValueRow
deriving DecidableEq

namespace BlueprintView

def value? (v : BlueprintView) (key : String) : Option ValueRow :=
  v.values.find? (·.key == key)

end BlueprintView

/-- One page of the history of a project, newest blueprint first. -/
structure HistoryPage where
  page : Nat
  size : Nat
  total : Nat
  content : List BlueprintView
deriving DecidableEq

end ConfigTimeline
