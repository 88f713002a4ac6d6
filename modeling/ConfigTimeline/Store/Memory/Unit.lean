import ConfigTimeline.Store.Backend
import ConfigTimeline.Store.Memory.Undo

/-!
A store that keeps typed records in memory. Writes change the tables in place and note how to take
each change back; a unit of work that fails takes all of its changes back.
-/

namespace ConfigTimeline.Memory

/-- The state within a unit of work: the tables as changed so far, and the changes, newest first. -/
structure Work where
  mode : Mode
  tables : Tables
  changes : List Change
deriving DecidableEq

/-- A config clashes with one of its workspace that has its id or its project. -/
def configClash (rows : List (Scoped Config)) (row : Scoped Config) : Option Clash :=
  if rows.any fun r =>
      r.workspace == row.workspace &&
        (r.record.id == row.record.id || r.record.project == row.record.project) then
    some (.config row.record.id row.record.project)
  else none

/-- A blueprint clashes with one of its workspace that has its id. -/
def blueprintClash (rows : List (Scoped Blueprint)) (row : Scoped Blueprint) : Option Clash :=
  if rows.any fun r => r.workspace == row.workspace && r.record.id == row.record.id then
    some (.blueprint row.record.id)
  else none

/-- Two rows that may not both be stored: of one workspace, with one id or both open for one key of
a project. -/
def valuesClash (a b : Scoped ValueRow) : Bool :=
  a.workspace == b.workspace &&
    (a.record.id == b.record.id ||
      (b.record.isOpen && a.record.isOpen && a.record.project == b.record.project &&
        a.record.key == b.record.key))

/-- A value row clashes with the first stored row that it may not be stored with. -/
def valueClash (rows : List (Scoped ValueRow)) (row : Scoped ValueRow) : Option Clash :=
  (rows.find? fun r => valuesClash r row).map fun r =>
    if r.record.id = row.record.id then .value row.record.id else .openKey row.record.key

/-- A pin clashes with one of its workspace that has its id, or its project and environment. -/
def pinClash (rows : List (Scoped Pin)) (row : Scoped Pin) : Option Clash :=
  if rows.any fun r =>
      r.workspace == row.workspace &&
        (r.record.id == row.record.id ||
          (r.record.project == row.record.project && r.record.env == row.record.env)) then
    some (.env row.record.env)
  else none

def answerOf : Option Clash → Except StoreError Unit
  | none => .ok ()
  | some clash => .error (.conflict clash)

namespace Work

variable (work : Work) (workspace : String)

def insertConfig (config : Config) : Except StoreError Unit × Work :=
  match configClash work.tables.configs ⟨workspace, config⟩ with
  | some clash => (.error (.conflict clash), work)
  | none =>
      (.ok (), { work with
        tables := { work.tables with configs := work.tables.configs ++ [⟨workspace, config⟩] }
        changes := .configAdded :: work.changes })

def insertBlueprint (blueprint : Blueprint) : Except StoreError Unit × Work :=
  match blueprintClash work.tables.blueprints ⟨workspace, blueprint⟩ with
  | some clash => (.error (.conflict clash), work)
  | none =>
      (.ok (), { work with
        tables := { work.tables with
          blueprints := work.tables.blueprints ++ [⟨workspace, blueprint⟩] }
        changes := .blueprintAdded workspace blueprint.id :: work.changes })

def closes (workspace : String) (project : ProjectId) (keys : List String)
    (row : Scoped ValueRow) : Bool :=
  row.workspace == workspace && row.record.project == project && row.record.isOpen &&
    keys.contains row.record.key

/-- Ends the open rows of the given keys. -/
def closeValues (project : ProjectId) (validTo : BlueprintId) (keys : List String) : Nat × Work :=
  let hit := closes workspace project keys
  let indices := work.tables.values.zipIdx.filterMap fun (row, index) =>
    if hit row then some index else none
  (indices.length, { work with
    tables := { work.tables with
      values := work.tables.values.map fun row =>
        if hit row then { row with record := { row.record with validTo := some validTo } }
        else row }
    changes := (indices.map Change.valueClosed).reverse ++ work.changes })

def insertValues (rows : List ValueRow) : Except StoreError Unit × Work :=
  let (values, clash) :=
    appendUntilClash valueClash work.tables.values (rows.map fun row => ⟨workspace, row⟩)
  (answerOf clash, { work with
    tables := { work.tables with values }
    changes :=
      List.replicate (values.length - work.tables.values.length) .valueAdded ++ work.changes })

def insertPins (rows : List Pin) : Except StoreError Unit × Work :=
  let (pins, clash) :=
    appendUntilClash pinClash work.tables.pins (rows.map fun row => ⟨workspace, row⟩)
  (answerOf clash, { work with
    tables := { work.tables with pins }
    changes :=
      List.replicate (pins.length - work.tables.pins.length) .pinAdded ++ work.changes })

def moved (user : String) (now : Instant) (blueprint : BlueprintId) (pin : Pin) : Pin :=
  { pin with blueprint, audit := { pin.audit with updatedBy := user, updatedAt := now } }

/-- Points one stored pin elsewhere, and tells whether it was there. -/
def updatePin (project : ProjectId) (user : String) (now : Instant) (target : PinTarget) :
    Bool × Work :=
  match work.tables.pins.zipIdx.find? fun (row, _) =>
      row.workspace == workspace && row.record.project == project && row.record.env == target.env
  with
  | none => (false, work)
  | some (row, index) =>
      (true, { work with
        tables := { work.tables with
          pins := work.tables.pins.modify index fun row =>
            { row with record := moved user now target.blueprint row.record } }
        changes := .pinMoved index row.record :: work.changes })

/-- Points stored pins elsewhere, and tells how many were there. -/
def updatePins (project : ProjectId) (user : String) (now : Instant) :
    List PinTarget → Work → Nat × Work
  | [], work => (0, work)
  | target :: rest, work =>
      let (found, work) := work.updatePin workspace project user now target
      let (count, work) := updatePins project user now rest work
      ((if found then 1 else 0) + count, work)

end Work

/-- The answer of a call. Calls that write are refused in a unit of work that may only read. -/
def perform (workspace : String) (c : Call) (work : Work) : Except StoreError c.Answer × Work :=
  let t := work.tables
  if c.writes && work.mode == .read then (.error .readOnly, work)
  else
    match c with
    | .configOf project => (.ok (t.configOf workspace project), work)
    | .configById id => (.ok (t.configById workspace id), work)
    | .insertConfig config => work.insertConfig workspace config
    | .insertBlueprint _ blueprint => work.insertBlueprint workspace blueprint
    | .blueprintById id => (.ok (t.blueprintById workspace id), work)
    | .blueprintOfKind id project kind =>
        (.ok ((t.blueprintById workspace id).filter fun b =>
          b.project == project && b.kind == kind), work)
    | .latest project kind => (.ok (t.newestFirst workspace project kind).head?, work)
    | .kinds project ids => (.ok (t.kinds workspace project ids), work)
    | .history project limit offset => (.ok (t.history workspace project limit offset), work)
    | .count project => (.ok (t.newestFirst workspace project .blueprint).length, work)
    | .closeValues project validTo keys =>
        let (count, work) := work.closeValues workspace project validTo keys
        (.ok count, work)
    | .insertValues _ rows => work.insertValues workspace rows
    | .effective project blueprint =>
        (.ok ((t.valuesOf workspace project).filter (·.effectiveAt blueprint)), work)
    | .delta blueprint =>
        (.ok ((recordsIn workspace t.values).filter (·.introducedBy blueprint)), work)
    | .rows project => (.ok (t.valuesOf workspace project), work)
    | .pinnedTo project env =>
        (.ok (((t.pinsOf workspace project).find? (·.env == env)).map (·.blueprint)), work)
    | .envsOf blueprint => (.ok (t.envsOf workspace blueprint), work)
    | .pins project envs =>
        (.ok ((t.pinsOf workspace project).filter fun pin => envs.contains pin.env), work)
    | .insertPins pins => work.insertPins workspace pins
    | .updatePins project user now targets =>
        let (count, work) := Work.updatePins workspace project user now targets work
        (.ok count, work)

def backend : Backend where
  Store := Tables
  Work := Work
  start mode tables := ⟨mode, tables, []⟩
  perform := perform
  commit work := work.tables
  rollback work := revertAll work.changes work.tables

end ConfigTimeline.Memory
