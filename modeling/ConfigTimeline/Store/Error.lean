import ConfigTimeline.Id
import ConfigTimeline.Record.Kind
import ConfigTimeline.Time.Text

/-!
Why a store refuses a call. There are four kinds of refusal: the store cannot do what it is asked, a
write clashes with what is stored, a stored row cannot be read back, and a write comes within a unit
of work that may only read. Each has its causes, and each cause its wording.
-/

namespace ConfigTimeline

inductive StoreFault
  /-- More records are to be skipped than a signed 64-bit number can count. -/
  | offset (n : Nat)
  /-- The database was made under another version of the schema. -/
  | version (found expected : Int)
  /-- The path of the database names a directory. -/
  | directory (path : String)
  /-- The database has no table of a name. -/
  | noTable (name : String)
  /-- The database may only be read. -/
  | fixed
  /-- The text encoding of the database is not the one that it was opened with. -/
  | encoding
  | reported (text : String)
deriving DecidableEq

def StoreFault.message : StoreFault → String
  | .offset n => "offset " ++ toString n ++ " out of range"
  | .version found expected =>
      "unsupported schema version " ++ toString found ++ ", expected " ++ toString expected
  | .directory path => "store path '" ++ path ++ "' is a directory"
  | .noTable name => "no such table: " ++ name
  | .fixed => "attempt to write a readonly database"
  | .encoding => "attached databases must use the same text encoding as main database"
  | .reported text => text

/-- The uniqueness rules of the tables, each within a workspace. -/
inductive UniqueRule
  | configId
  | configProject
  | blueprintId
  | valueId
  /-- One row without end per project and key. -/
  | openKey
  | pinId
  | pinEnv
deriving DecidableEq

def UniqueRule.columns : UniqueRule → String
  | .configId => "agent_configs.workspace_id, agent_configs.id"
  | .configProject => "agent_configs.workspace_id, agent_configs.project_id"
  | .blueprintId => "agent_blueprints.workspace_id, agent_blueprints.id"
  | .valueId => "agent_config_values.workspace_id, agent_config_values.id"
  | .openKey =>
      "agent_config_values.workspace_id, agent_config_values.project_id, agent_config_values.key"
  | .pinId => "agent_config_envs.workspace_id, agent_config_envs.id"
  | .pinEnv =>
      "agent_config_envs.workspace_id, agent_config_envs.project_id, agent_config_envs.env_name"

/-- What a write clashes with. -/
inductive Clash
  | config (id : ConfigId) (project : ProjectId)
  | blueprint (id : BlueprintId)
  | value (id : ValueId)
  | openKey (key : String)
  | env (name : String)
  | rule (rule : UniqueRule)
  | reported (text : String)
deriving DecidableEq

def Clash.message : Clash → String
  | .config id project =>
      "config '" ++ id.text ++ "' or a config for project '" ++ project.text ++ "' already exists"
  | .blueprint id => "blueprint '" ++ id.text ++ "' already exists"
  | .value id => "value '" ++ id.text ++ "' already exists"
  | .openKey key => "key '" ++ key ++ "' already has an open row"
  | .env name => "environment '" ++ name ++ "' already exists"
  | .rule r => "UNIQUE constraint failed: " ++ r.columns
  | .reported text => text

/-- Why a stored cell cannot be read back. -/
inductive CellFlaw
  | id (e : IdError)
  | word (e : UnknownWord)
  | time (flaw : Instant.Flaw)
deriving DecidableEq

def CellFlaw.message : CellFlaw → String
  | .id e => e.message
  | .word e => e.message
  | .time flaw => flaw.message

/-- Where a stored row is damaged. -/
inductive Damage
  /-- In a column of what a query selects, counted from zero. -/
  | column (index : Nat) (flaw : CellFlaw)
  /-- In the blueprint of an environment. -/
  | env (name : String) (flaw : CellFlaw)
  | reported (text : String)
deriving DecidableEq

def Damage.message : Damage → String
  | .column index flaw => "column " ++ toString index ++ ": " ++ flaw.message
  | .env name flaw => "env '" ++ name ++ "': " ++ flaw.message
  | .reported text => text

inductive StoreError
  | backend (fault : StoreFault)
  | conflict (clash : Clash)
  | corrupt (damage : Damage)
  | readOnly
deriving DecidableEq

namespace StoreError

def message : StoreError → String
  | .backend fault => "storage backend error: " ++ fault.message
  | .conflict clash => "constraint violation: " ++ clash.message
  | .corrupt damage => "corrupt stored row: " ++ damage.message
  | .readOnly => "write attempted in a read-only transaction"

inductive Kind
  | backend
  | conflict
  | corrupt
  | readOnly
deriving DecidableEq

def kind : StoreError → Kind
  | .backend _ => .backend
  | .conflict _ => .conflict
  | .corrupt _ => .corrupt
  | .readOnly => .readOnly

/-- A refusal of a kind with a wording from elsewhere. -/
def reported (text : String) : Kind → StoreError
  | .backend => .backend (.reported text)
  | .conflict => .conflict (.reported text)
  | .corrupt => .corrupt (.reported text)
  | .readOnly => .readOnly

end StoreError

end ConfigTimeline
