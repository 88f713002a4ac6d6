import ConfigTimeline.Order.Insertion
import ConfigTimeline.Store.Call
import ConfigTimeline.Store.Database.Cells
import ConfigTimeline.Store.Rows

/-!
Tables of text cells, and the queries on them. Conditions and orders of a query look at the cells as
text; only the rows that a query selects are read back as records, and one that cannot be read makes
the query fail.
-/

namespace ConfigTimeline.Database

/-- The tables of configs and all that belongs to them, each in the order in which rows came. -/
structure Tables where
  configs : List ConfigCells
  blueprints : List BlueprintCells
  values : List ValueCells
  pins : List PinCells
deriving DecidableEq

inductive TableName
  | configs
  | blueprints
  | values
  | pins
deriving DecidableEq

def TableName.text : TableName → String
  | .configs => "agent_configs"
  | .blueprints => "agent_blueprints"
  | .values => "agent_config_values"
  | .pins => "agent_config_envs"

def TableName.ofText? (s : String) : Option TableName :=
  [TableName.configs, .blueprints, .values, .pins].find? (·.text == s)

theorem TableName.ofText?_text (t : TableName) : TableName.ofText? t.text = some t := by
  cases t <;> decide

/-- The record of the first row of a selection, if there is one. -/
def readFirst {ρ α : Type} (read : ρ → Except StoreError α) :
    List ρ → Except StoreError (Option α)
  | [] => .ok none
  | row :: _ => (read row).map some

namespace Tables

def empty : Tables := ⟨[], [], [], []⟩

variable (t : Tables) (workspace : String)

def configOf (project : ProjectId) : Except StoreError (Option Config) :=
  readFirst ConfigCells.read
    (t.configs.filter fun r => r.workspace == workspace && r.project == project.text)

def configById (id : ConfigId) : Except StoreError (Option Config) :=
  readFirst ConfigCells.read
    (t.configs.filter fun r => r.workspace == workspace && r.id == id.text)

def blueprintById (id : BlueprintId) : Except StoreError (Option Blueprint) :=
  readFirst BlueprintCells.read
    (t.blueprints.filter fun r => r.workspace == workspace && r.id == id.text)

/-- The blueprint with an id, if it is one of the project and of the kind. -/
def blueprintOfKind (id : BlueprintId) (project : ProjectId) (kind : BlueprintKind) :
    Except StoreError (Option Blueprint) :=
  readFirst BlueprintCells.read
    (t.blueprints.filter fun r =>
      r.workspace == workspace && r.id == id.text && r.project == project.text &&
        r.kind == kind.text)

/-- The rows of the blueprints of a project and a kind, newest first. -/
def newestFirst (project : ProjectId) (kind : BlueprintKind) : List BlueprintCells :=
  sortBy (fun a b => decide (b.id ≤ a.id))
    (t.blueprints.filter fun r =>
      r.workspace == workspace && r.project == project.text && r.kind == kind.text)

/-- The kinds of those of the given blueprints that are of the project, by kind and then by id. -/
def kinds (project : ProjectId) (ids : List BlueprintId) :
    Except StoreError (List (BlueprintId × BlueprintKind)) :=
  (sortBy (fun a b => decide (a.kind < b.kind ∨ a.kind = b.kind ∧ a.id ≤ b.id))
    (t.blueprints.filter fun r =>
      r.workspace == workspace && r.project == project.text &&
        (ids.map Id.text).contains r.id)).mapM BlueprintCells.readKind

/-- The environments pinned to a blueprint, in order of their names. -/
def envsOf (blueprint : BlueprintId) : List String :=
  sortBy (fun a b => decide (a ≤ b))
    ((t.pins.filter fun r => r.workspace == workspace && r.blueprint == blueprint.text).map (·.env))

/-- The greatest number of records that a query can be told to skip. -/
def maxOffset : Nat := 1 <<< 63 - 1

/-- One page of the blueprints of a project that are not masks, with their environments. -/
def history (project : ProjectId) (limit offset : Nat) : Except StoreError (List BlueprintView) :=
  if maxOffset < offset then .error (.backend (.offset offset))
  else do
    let page ← (((t.newestFirst workspace project .blueprint).drop offset).take limit).mapM
      BlueprintCells.read
    .ok (page.map fun b => ⟨b, t.envsOf workspace b.id, []⟩)

def valuesOf (project : ProjectId) : List ValueCells :=
  t.values.filter fun r => r.workspace == workspace && r.project == project.text

def effectiveAt (blueprint : String) (r : ValueCells) : Bool :=
  decide (r.validFrom ≤ blueprint) && r.validTo.all fun ending => decide (blueprint < ending)

/-- The rows of a project that are effective at a blueprint, from the earliest on. -/
def effective (project : ProjectId) (blueprint : BlueprintId) : Except StoreError (List ValueRow) :=
  (sortBy (fun a b => decide (a.validFrom ≤ b.validFrom))
    ((t.valuesOf workspace project).filter (effectiveAt blueprint.text))).mapM ValueCells.read

def delta (blueprint : BlueprintId) : Except StoreError (List ValueRow) :=
  (t.values.filter fun r =>
    r.workspace == workspace && r.validFrom == blueprint.text).mapM ValueCells.read

/-- Whether a row ends no later than another one. An open row counts as the earliest. -/
def endsBy (a b : ValueCells) : Bool :=
  match a.validTo, b.validTo with
  | none, _ => true
  | some _, none => false
  | some x, some y => decide (x ≤ y)

/-- Whether a row comes no later than another one: by key, by start and by end. -/
def comesBy (a b : ValueCells) : Bool :=
  if a.key = b.key then
    if a.validFrom = b.validFrom then endsBy a b else decide (a.validFrom < b.validFrom)
  else decide (a.key < b.key)

def rows (project : ProjectId) : Except StoreError (List ValueRow) :=
  (sortBy comesBy (t.valuesOf workspace project)).mapM ValueCells.read

def pinnedTo (project : ProjectId) (env : String) : Except StoreError (Option BlueprintId) :=
  match t.pins.find? fun r =>
      r.workspace == workspace && r.project == project.text && r.env == env with
  | none => .ok none
  | some r =>
      match Id.parse .blueprint r.blueprint with
      | .ok id => .ok (some id)
      | .error e => .error (.corrupt (.env env (.id e)))

/-- The pins of the given environments, in order of their names. -/
def pinsNamed (project : ProjectId) (envs : List String) : Except StoreError (List Pin) :=
  (sortBy (fun a b => decide (a.env ≤ b.env))
    (t.pins.filter fun r =>
      r.workspace == workspace && r.project == project.text &&
        envs.contains r.env)).mapM PinCells.read

end Tables

end ConfigTimeline.Database
