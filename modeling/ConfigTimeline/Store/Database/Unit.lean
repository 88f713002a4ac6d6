import ConfigTimeline.Store.Backend
import ConfigTimeline.Store.Database.Tables

/-!
A store that keeps text rows in a database. Each write is one statement, or one statement per row of
a batch; a statement that clashes with a uniqueness rule changes nothing. A unit of work that fails
puts the tables back as it found them. The database also holds the version of its schema.
-/

namespace ConfigTimeline

structure Database where
  version : Int
  tables : Database.Tables
deriving DecidableEq

namespace Database

/-- The version of the schema that this store reads and writes. -/
def schemaVersion : Int := 1

def blank : Database := ⟨0, .empty⟩

/-- The version that a database keeps when it is given one. It is kept in 32 bits with a sign; one that
does not fit is kept as zero. -/
def keptVersion (version : Int) : Int :=
  if -(1 <<< 31) ≤ version ∧ version < 1 <<< 31 then version else 0

/-- Opens a database. One without a version is given the schema; one of another version is
refused. -/
def opened (d : Database) : Except StoreError Database :=
  if d.version = 0 then .ok { d with version := schemaVersion }
  else if d.version = schemaVersion then .ok d
  else .error (.backend (.version d.version schemaVersion))

/-- The state within a unit of work: the database as it was, and its tables as changed so far. -/
structure Work where
  mode : Mode
  before : Database
  tables : Tables
deriving DecidableEq

def configClash (rows : List ConfigCells) (row : ConfigCells) : Option UniqueRule :=
  if rows.any fun r => r.workspace == row.workspace && r.project == row.project then
    some .configProject
  else if rows.any fun r => r.workspace == row.workspace && r.id == row.id then some .configId
  else none

def blueprintClash (rows : List BlueprintCells) (row : BlueprintCells) : Option UniqueRule :=
  if rows.any fun r => r.workspace == row.workspace && r.id == row.id then some .blueprintId
  else none

def valueClash (rows : List ValueCells) (row : ValueCells) : Option UniqueRule :=
  if row.validTo.isNone && rows.any fun r =>
      r.validTo.isNone && r.workspace == row.workspace && r.project == row.project &&
        r.key == row.key then
    some .openKey
  else if rows.any fun r => r.workspace == row.workspace && r.id == row.id then some .valueId
  else none

def pinClash (rows : List PinCells) (row : PinCells) : Option UniqueRule :=
  if rows.any fun r =>
      r.workspace == row.workspace && r.project == row.project && r.env == row.env then
    some .pinEnv
  else if rows.any fun r => r.workspace == row.workspace && r.id == row.id then some .pinId
  else none

/-- The answer to a write that may have broken a rule. -/
def answerOf : Option UniqueRule → Except StoreError Unit
  | none => .ok ()
  | some broken => .error (.conflict (.rule broken))

namespace Work

variable (work : Work) (workspace : String)

def insertConfig (config : Config) : Except StoreError Unit × Work :=
  let (configs, broken) :=
    appendUntilClash configClash work.tables.configs [.of workspace config]
  (answerOf broken, { work with tables := { work.tables with configs } })

def insertBlueprint (config : ConfigId) (blueprint : Blueprint) : Except StoreError Unit × Work :=
  let (blueprints, broken) :=
    appendUntilClash blueprintClash work.tables.blueprints [.of workspace config blueprint]
  (answerOf broken, { work with tables := { work.tables with blueprints } })

def closes (workspace project : String) (keys : List String) (r : ValueCells) : Bool :=
  r.workspace == workspace && r.project == project && r.validTo.isNone && keys.contains r.key

/-- Ends the open rows of the given keys. -/
def closeValues (project : ProjectId) (validTo : BlueprintId) (keys : List String) : Nat × Work :=
  let hit := closes workspace project.text keys
  (work.tables.values.countP hit, { work with
    tables := { work.tables with
      values := work.tables.values.map fun r =>
        if hit r then { r with validTo := some validTo.text } else r } })

/-- Inserts the rows of values, up to the first that breaks a rule. -/
def insertValues (config : ConfigId) (rows : List ValueRow) : Except StoreError Unit × Work :=
  let (values, broken) :=
    appendUntilClash valueClash work.tables.values (rows.map (ValueCells.of workspace config))
  (answerOf broken, { work with tables := { work.tables with values } })

/-- Inserts the rows of pins, up to the first that breaks a rule. -/
def insertPins (rows : List Pin) : Except StoreError Unit × Work :=
  let (pins, broken) :=
    appendUntilClash pinClash work.tables.pins (rows.map (PinCells.of workspace))
  (answerOf broken, { work with tables := { work.tables with pins } })

def names (workspace project env : String) (r : PinCells) : Bool :=
  r.workspace == workspace && r.project == project && r.env == env

def moved (user : String) (now : Instant) (blueprint : BlueprintId) (r : PinCells) : PinCells :=
  { r with
    blueprint := blueprint.text
    audit := { r.audit with updatedBy := user, updatedAt := now.fullText } }

/-- Points the rows of environments elsewhere, and tells how many there were. -/
def updatePins (project : ProjectId) (user : String) (now : Instant) :
    List PinTarget → Work → Nat × Work
  | [], work => (0, work)
  | target :: rest, work =>
      let hit := names workspace project.text target.env
      let found := work.tables.pins.countP hit
      let (count, work) := updatePins project user now rest { work with
        tables := { work.tables with
          pins := work.tables.pins.map fun r =>
            if hit r then moved user now target.blueprint r else r } }
      (found + count, work)

end Work

/-- The calls refused in a unit of work that may only read: those that would run a statement that
writes. Without keys there is nothing to close and no statement. -/
def needsWrite : Call → Bool
  | .closeValues _ _ keys => !keys.isEmpty
  | c => c.writes

def perform (workspace : String) (c : Call) (work : Work) : Except StoreError c.Answer × Work :=
  let t := work.tables
  if needsWrite c && work.mode == .read then (.error .readOnly, work)
  else
    match c with
    | .configOf project => (t.configOf workspace project, work)
    | .configById id => (t.configById workspace id, work)
    | .insertConfig config => work.insertConfig workspace config
    | .insertBlueprint config blueprint => work.insertBlueprint workspace config blueprint
    | .blueprintById id => (t.blueprintById workspace id, work)
    | .blueprintOfKind id project kind => (t.blueprintOfKind workspace id project kind, work)
    | .latest project kind =>
        (readFirst BlueprintCells.read (t.newestFirst workspace project kind), work)
    | .kinds project ids => (t.kinds workspace project ids, work)
    | .history project limit offset => (t.history workspace project limit offset, work)
    | .count project => (.ok (t.newestFirst workspace project .blueprint).length, work)
    | .closeValues project validTo keys =>
        let (count, work) := work.closeValues workspace project validTo keys
        (.ok count, work)
    | .insertValues config rows => work.insertValues workspace config rows
    | .effective project blueprint => (t.effective workspace project blueprint, work)
    | .delta blueprint => (t.delta workspace blueprint, work)
    | .rows project => (t.rows workspace project, work)
    | .pinnedTo project env => (t.pinnedTo workspace project env, work)
    | .envsOf blueprint => (.ok (t.envsOf workspace blueprint), work)
    | .pins project envs => (t.pinsNamed workspace project envs, work)
    | .insertPins pins => work.insertPins workspace pins
    | .updatePins project user now targets =>
        let (count, work) := Work.updatePins workspace project user now targets work
        (.ok count, work)

def backend : Backend where
  Store := Database
  Work := Work
  start mode d := ⟨mode, d, d.tables⟩
  perform := perform
  commit work := { work.before with tables := work.tables }
  rollback work := work.before

end Database

end ConfigTimeline
