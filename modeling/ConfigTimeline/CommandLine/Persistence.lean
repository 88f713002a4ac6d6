import ConfigTimeline.CommandLine.Disk
import ConfigTimeline.Json.Parser
import ConfigTimeline.Json.Printer
import ConfigTimeline.Json.Slots

/-!
The text of a database file: a JSON document of its tables, each row an array of its cells.
-/

namespace ConfigTimeline.CommandLine

open Database

def cellJson : Option String → Json
  | some s => .text s
  | none => .null

def rowJson (cells : List (Option String)) : Json := .arr (cells.map cellJson)

def rowCells? (j : Json) : Option (List (Option String)) :=
  j.items?.bind fun items => items.mapM (Json.optional Json.text? ∘ some)

def auditCells (a : AuditCells) : List (Option String) :=
  [some a.createdBy, some a.createdAt, some a.updatedBy, some a.updatedAt]

def configRow (c : ConfigCells) : Json :=
  rowJson ([some c.workspace, some c.id, some c.project] ++ auditCells c.audit)

def configOfRow (j : Json) : Option ConfigCells :=
  match rowCells? j with
  | some [some workspace, some id, some project, some createdBy, some createdAt, some updatedBy,
      some updatedAt] =>
      some ⟨workspace, id, project, ⟨createdBy, createdAt, updatedBy, updatedAt⟩⟩
  | _ => none

def blueprintRow (c : BlueprintCells) : Json :=
  rowJson ([some c.workspace, some c.id, some c.project, some c.config, some c.kind,
    c.description] ++ auditCells c.audit)

def blueprintOfRow (j : Json) : Option BlueprintCells :=
  match rowCells? j with
  | some [some workspace, some id, some project, some config, some kind, description,
      some createdBy, some createdAt, some updatedBy, some updatedAt] =>
      some ⟨workspace, id, project, config, kind, description,
        ⟨createdBy, createdAt, updatedBy, updatedAt⟩⟩
  | _ => none

def valueRow (c : ValueCells) : Json :=
  rowJson [some c.workspace, some c.id, some c.project, some c.config, some c.key, some c.value,
    some c.kind, c.description, some c.validFrom, c.validTo]

def valueOfRow (j : Json) : Option ValueCells :=
  match rowCells? j with
  | some [some workspace, some id, some project, some config, some key, some value, some kind,
      description, some validFrom, validTo] =>
      some ⟨workspace, id, project, config, key, value, kind, description, validFrom, validTo⟩
  | _ => none

def pinRow (c : PinCells) : Json :=
  rowJson ([some c.workspace, some c.id, some c.project, some c.config, some c.env,
    some c.blueprint] ++ auditCells c.audit)

def pinOfRow (j : Json) : Option PinCells :=
  match rowCells? j with
  | some [some workspace, some id, some project, some config, some env, some blueprint,
      some createdBy, some createdAt, some updatedBy, some updatedAt] =>
      some ⟨workspace, id, project, config, env, blueprint,
        ⟨createdBy, createdAt, updatedBy, updatedAt⟩⟩
  | _ => none

def projectRow (c : ProjectCells) : Json := rowJson [some c.workspace, some c.id, some c.name]

def projectOfRow (j : Json) : Option ProjectCells :=
  match rowCells? j with
  | some [some workspace, some id, some name] => some ⟨workspace, id, name⟩
  | _ => none

namespace DatabaseFile

def fields : List String :=
  ["version", "complete", "logged", "fixed", "misnumbered", "room", "configs", "blueprints",
    "values", "pins", "projects"]

def toJson (f : DatabaseFile) : Json :=
  let t := f.database.tables
  .record [("version", .num (.integer f.database.version)),
    ("complete", .bool f.hasTables),
    ("logged", .bool f.logged),
    ("fixed", .bool f.fixed),
    ("misnumbered", .bool f.misnumbered),
    ("room", .arr [.num (.integer f.room.free), .num (.integer f.room.lost)]),
    ("configs", .arr (t.configs.map configRow)),
    ("blueprints", .arr (t.blueprints.map blueprintRow)),
    ("values", .arr (t.values.map valueRow)),
    ("pins", .arr (t.pins.map pinRow)),
    ("projects", match f.projects with
      | some rows => .arr (rows.map projectRow)
      | none => .null)]

def version? : Json → Option Int
  | .num (.integer n) => some n
  | _ => none

def truth? : Json → Option Bool
  | .bool b => some b
  | _ => none

def room? : Json → Option Room
  | .arr [.num (.integer free), .num (.integer lost)] => some ⟨free.toNat, lost.toNat⟩
  | _ => none

def ofJson (j : Json) : Option DatabaseFile :=
  match j.slots fields with
  | some [version, complete, logged, fixed, misnumbered, room, configs, blueprints, values, pins,
      projects] => do
      let tables : Tables :=
        ⟨← Json.required (Json.listOf configOfRow) configs,
          ← Json.required (Json.listOf blueprintOfRow) blueprints,
          ← Json.required (Json.listOf valueOfRow) values,
          ← Json.required (Json.listOf pinOfRow) pins⟩
      some ⟨⟨← Json.required version? version, tables⟩, ← Json.required truth? complete,
        ← Json.optional (Json.listOf projectOfRow) projects, ← Json.required truth? logged,
        ← Json.required truth? fixed, ← Json.required truth? misnumbered,
        ← Json.required room? room⟩
  | _ => none

def render (f : DatabaseFile) : String := f.toJson.render

def parse (s : String) : Option DatabaseFile := (Json.parse s).bind ofJson

end DatabaseFile

def Content.ofText (s : String) : Content :=
  match DatabaseFile.parse s with
  | some file => .database file
  | none => .text s

end ConfigTimeline.CommandLine
