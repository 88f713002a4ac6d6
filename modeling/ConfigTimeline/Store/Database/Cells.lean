import ConfigTimeline.Record.Basic
import ConfigTimeline.Store.Error

/-!
Rows of text cells, and the records they stand for. Identifiers are kept as their text form, so that
the order of the texts is the order of the identifiers, and points in time with nine digits of the
second. Reading a row back goes column by column and names the first that cannot be read; columns are
counted as the queries select them, which is without the workspace and, where no query needs it,
without the config.
-/

namespace ConfigTimeline.Database

def readId (kind : IdKind) (index : Nat) (cell : String) : Except StoreError (Id kind) :=
  match Id.parse kind cell with
  | .ok id => .ok id
  | .error e => .error (.corrupt (.column index (.id e)))

/-- The identifier in a column that may be empty. -/
def readIdIfAny (kind : IdKind) (index : Nat) : Option String → Except StoreError (Option (Id kind))
  | none => .ok none
  | some cell => (readId kind index cell).map some

def readProject (index : Nat) (cell : String) : Except StoreError ProjectId :=
  match ProjectId.parse cell with
  | .ok id => .ok id
  | .error e => .error (.corrupt (.column index (.id e)))

def readBlueprintKind (index : Nat) (cell : String) : Except StoreError BlueprintKind :=
  match BlueprintKind.parse cell with
  | .ok kind => .ok kind
  | .error e => .error (.corrupt (.column index (.word e)))

def readValueKind (index : Nat) (cell : String) : Except StoreError ValueKind :=
  match ValueKind.parse cell with
  | .ok kind => .ok kind
  | .error e => .error (.corrupt (.column index (.word e)))

def readInstant (index : Nat) (cell : String) : Except StoreError Instant :=
  match Instant.parseStrict cell with
  | .ok t => .ok t
  | .error flaw => .error (.corrupt (.column index (.time flaw)))

structure AuditCells where
  createdBy : String
  createdAt : String
  updatedBy : String
  updatedAt : String
deriving DecidableEq

def AuditCells.of (a : Audit) : AuditCells :=
  ⟨a.createdBy, a.createdAt.fullText, a.updatedBy, a.updatedAt.fullText⟩

def AuditCells.read (index : Nat) (c : AuditCells) : Except StoreError Audit := do
  let createdAt ← readInstant (index + 1) c.createdAt
  let updatedAt ← readInstant (index + 3) c.updatedAt
  .ok ⟨c.createdBy, createdAt, c.updatedBy, updatedAt⟩

structure ConfigCells where
  workspace : String
  id : String
  project : String
  audit : AuditCells
deriving DecidableEq

def ConfigCells.of (workspace : String) (c : Config) : ConfigCells :=
  ⟨workspace, c.id.text, c.project.text, .of c.audit⟩

def ConfigCells.read (c : ConfigCells) : Except StoreError Config := do
  let id ← readId .config 0 c.id
  let project ← readProject 1 c.project
  let audit ← c.audit.read 2
  .ok ⟨id, project, audit⟩

structure BlueprintCells where
  workspace : String
  id : String
  project : String
  config : String
  kind : String
  description : Option String
  audit : AuditCells
deriving DecidableEq

def BlueprintCells.of (workspace : String) (config : ConfigId) (b : Blueprint) : BlueprintCells :=
  ⟨workspace, b.id.text, b.project.text, config.text, b.kind.text, b.description, .of b.audit⟩

def BlueprintCells.read (c : BlueprintCells) : Except StoreError Blueprint := do
  let id ← readId .blueprint 0 c.id
  let project ← readProject 1 c.project
  let kind ← readBlueprintKind 2 c.kind
  let audit ← c.audit.read 4
  .ok ⟨id, project, kind, c.description, audit⟩

/-- The id and the kind of the blueprint of a row. -/
def BlueprintCells.readKind (c : BlueprintCells) :
    Except StoreError (BlueprintId × BlueprintKind) := do
  let id ← readId .blueprint 0 c.id
  let kind ← readBlueprintKind 1 c.kind
  .ok (id, kind)

structure ValueCells where
  workspace : String
  id : String
  project : String
  config : String
  key : String
  value : String
  kind : String
  description : Option String
  validFrom : String
  validTo : Option String
deriving DecidableEq

def ValueCells.of (workspace : String) (config : ConfigId) (v : ValueRow) : ValueCells :=
  ⟨workspace, v.id.text, v.project.text, config.text, v.key, v.value, v.kind.text, v.description,
    v.validFrom.text, v.validTo.map Id.text⟩

def ValueCells.read (c : ValueCells) : Except StoreError ValueRow := do
  let id ← readId .value 0 c.id
  let project ← readProject 1 c.project
  let kind ← readValueKind 4 c.kind
  let validFrom ← readId .blueprint 6 c.validFrom
  let validTo ← readIdIfAny .blueprint 7 c.validTo
  .ok ⟨id, project, c.key, c.value, kind, c.description, validFrom, validTo⟩

structure PinCells where
  workspace : String
  id : String
  project : String
  config : String
  env : String
  blueprint : String
  audit : AuditCells
deriving DecidableEq

def PinCells.of (workspace : String) (p : Pin) : PinCells :=
  ⟨workspace, p.id.text, p.project.text, p.config.text, p.env, p.blueprint.text, .of p.audit⟩

def PinCells.read (c : PinCells) : Except StoreError Pin := do
  let id ← readId .environment 0 c.id
  let project ← readProject 1 c.project
  let config ← readId .config 2 c.config
  let blueprint ← readId .blueprint 4 c.blueprint
  let audit ← c.audit.read 5
  .ok ⟨id, project, config, c.env, blueprint, audit⟩

end ConfigTimeline.Database
