import ConfigTimeline.Service.Pinning
import ConfigTimeline.Service.Resolution
import ConfigTimeline.Service.Versioning
import ConfigTimeline.Store.Backend

/-!
The operations of the service on a store and a project directory. Each runs as one unit of work, after
its arguments have been checked; the directory is asked before a unit that writes is started, so that
what it makes stays when the unit fails.
-/

namespace ConfigTimeline

inductive Operation
  /-- Appends a draft to the config of a project. -/
  | create (request : CreateRequest)
  /-- The latest blueprint of a project, with a mask over it if one is given. -/
  | latest (project : ProjectId) (mask : Option BlueprintId)
  /-- A blueprint, with a mask over it if one is given. -/
  | get (blueprint : BlueprintId) (mask : Option BlueprintId)
  /-- The blueprint of an environment, with a mask over it if one is given. -/
  | env (project : ProjectId) (env : String) (mask : Option BlueprintId)
  /-- What a blueprint or a mask brought in. -/
  | delta (blueprint : BlueprintId)
  | bind (request : PinRequest)
  | history (project : ProjectId) (page size : Nat)

inductive Reply
  | view (v : BlueprintView)
  | pins (pins : List Pin)
  | page (p : HistoryPage)
deriving DecidableEq

/-- What an operation takes from outside: the time, fresh identifiers, and an id for a project that
the directory may have to make. -/
structure Supply where
  now : Instant
  ids : Nat → Ulid
  candidate : ProjectId

structure Service (b : Backend) where
  store : b.Store
  directory : Directory

/-- The answer to an operation, the service after it, and the number of identifiers it drew. -/
structure Handled (b : Backend) where
  result : Except ServiceError Reply
  service : Service b
  drawn : Nat

namespace Service

variable {b : Backend}

def resolveProject (workspace : String) (candidate : ProjectId) :
    ProjectRef → Directory → Except DirectoryError Project × Directory
  | .id id, directory => (directory.get workspace id, directory)
  | .name name, directory => directory.getOrCreate workspace name candidate

def runAction (s : Service b) (mode : Mode) (ids : Nat → Ulid) (action : Action Reply) : Handled b :=
  let settled := b.inUnit mode ids action s.store
  ⟨settled.result, { s with store := settled.store }, settled.drawn⟩

/-- A refusal that leaves the service as it is. -/
def refused (s : Service b) (e : ServiceError) : Handled b := ⟨.error e, s, 0⟩

/-- Appends the draft of a request to the config of its project. -/
def create (who : Identity) (supply : Supply) (r : CreateRequest) (s : Service b) : Handled b :=
  match r.validate with
  | .error reason => s.refused (.invalid reason)
  | .ok ref =>
      let (project, directory) := resolveProject who.workspace supply.candidate ref s.directory
      let s := { s with directory }
      match project with
      | .error e => s.refused (.ofDirectory e)
      | .ok project =>
          s.runAction .write supply.ids
            (.view <$> Versioning.append who supply.now project.id r.config r.draft)

def bind (policy : MaskPolicy) (who : Identity) (supply : Supply) (r : PinRequest)
    (s : Service b) : Handled b :=
  match r.validate with
  | .error reason => s.refused (.invalid reason)
  | .ok () => s.runAction .write supply.ids (.pins <$> Pinning.bind policy who supply.now r)

def history (workspace : String) (supply : Supply) (project : ProjectId) (page size : Nat)
    (s : Service b) : Handled b :=
  match PageRequest.of page size with
  | .error reason => s.refused (.invalid reason)
  | .ok page => s.runAction .read supply.ids (.page <$> Resolution.history workspace project page)

/-- The answer of a read of one blueprint, with a mask over it if one is given. -/
def view (workspace : String) (supply : Supply) (action : Action BlueprintView)
    (mask : Option BlueprintId) (s : Service b) : Handled b :=
  s.runAction .read supply.ids (.view <$> (action >>= Resolution.masked workspace mask))

def handle (policy : MaskPolicy) (who : Identity) (supply : Supply) (s : Service b) :
    Operation → Handled b
  | .create r => s.create who supply r
  | .latest project mask =>
      s.view who.workspace supply (Resolution.effective who.workspace project none) mask
  | .get blueprint mask =>
      s.view who.workspace supply (Resolution.atBlueprint who.workspace blueprint) mask
  | .env project env mask =>
      s.view who.workspace supply (Resolution.atEnvironment who.workspace project env) mask
  | .delta blueprint =>
      s.view who.workspace supply (Resolution.delta who.workspace blueprint) none
  | .bind r => s.bind policy who supply r
  | .history project page size => s.history who.workspace supply project page size

end Service

end ConfigTimeline
