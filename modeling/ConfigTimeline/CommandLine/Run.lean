import ConfigTimeline.CommandLine.Arguments
import ConfigTimeline.CommandLine.Opening
import ConfigTimeline.Json.Parser
import ConfigTimeline.Json.Printer
import ConfigTimeline.Service.Operation
import ConfigTimeline.Settings.Basic
import ConfigTimeline.Settings.LogFilter
import ConfigTimeline.Store.Database.Connection

/-!
One run of the command line, as a function of its arguments, its surroundings and the files it sees.
The settings are read first, then logging is set up, the database is opened, the request is read, and
the operation is carried out; the first of these that fails ends the run. A filter of log lines that
is cut within a character, and a wait that is too long to be counted, break it off.
-/

namespace ConfigTimeline.CommandLine

def programName : String := "agentcfg"

def programVersion : String := "0.1.0"

structure Surroundings where
  /-- What can be read from standard input. -/
  input : String
  /-- The filter of the settings is in force, and not one set from outside. -/
  ownFilter : Bool
  supply : Supply

inductive Failure
  | unreadableSettings (path : String) (flaw : ReadFlaw)
  | invalidSettings
  | logging
  | unopened (path : String)
  | unreadableRequest (path : String)
  | invalidRequest (path : String)
  | service (e : ServiceError)

def Failure.message : Failure → String
  | .unreadableSettings path flaw =>
      "failed to read config '" ++ path ++ "': " ++ flaw.message
  | .invalidSettings => "invalid config"
  | .logging => "logging setup failed"
  | .unopened path => "failed to open database '" ++ path ++ "'"
  | .unreadableRequest path => "failed to read '" ++ path ++ "'"
  | .invalidRequest path => "invalid request in '" ++ path ++ "'"
  | .service e => e.message

structure Finished where
  exit : Nat
  output : String
  errors : String
  disk : Disk
  /-- The number of identifiers drawn. -/
  drawn : Nat

def answered (output : String) (disk : Disk) (drawn : Nat) : Finished :=
  ⟨0, output, "", disk, drawn⟩

def failed (f : Failure) (disk : Disk) (drawn : Nat) : Finished :=
  ⟨1, "", "Error: " ++ f.message ++ "\n", disk, drawn⟩

def abortCode : Nat := 101

/-- The end of a run that breaks off without a word on its output. -/
def aborted (disk : Disk) : Finished := ⟨abortCode, "", "aborted\n", disk, 0⟩

/-- The settings of a run. A database named by an option takes the place of the one in the
settings. -/
def Invocation.settings (i : Invocation) (disk : Disk) : Except Failure Settings := do
  let settings ←
    match i.config with
    | none => .ok .standard
    | some path =>
        match disk.readText path with
        | .error flaw => .error (.unreadableSettings path flaw)
        | .ok text =>
            match Settings.ofDocument text with
            | some settings => .ok settings
            | none => .error .invalidSettings
  match i.db with
  | none => .ok settings
  | some path => .ok { settings with database := { settings.database with path } }

/-- Whether a path stands for standard input: a hyphen, and then no more than steps that stay where
they are. -/
def isStandardInput (path : String) : Bool :=
  match pathSteps path with
  | step :: rest => step == "-" && rest.all staysPut
  | [] => false

/-- The text of a request: standard input, or a file. -/
def readRequest (input : String) (disk : Disk) (path : String) : Except Failure String :=
  if isStandardInput path then .ok input
  else
    match disk.readText path with
    | .ok text => .ok text
    | .error .notText => .error (.invalidRequest path)
    | .error _ => .error (.unreadableRequest path)

def requestOf {α : Type} (read : Json → Option α) (input : String) (disk : Disk) (path : String) :
    Except Failure α := do
  let text ← readRequest input disk path
  match (Json.parse text).bind read with
  | some request => .ok request
  | none => .error (.invalidRequest path)

def Command.operation (input : String) (disk : Disk) : Command → Except Failure Operation
  | .create file => do .ok (.create (← requestOf CreateRequest.ofJson input disk file))
  | .latest project mask => .ok (.latest project mask)
  | .get blueprint mask => .ok (.get blueprint mask)
  | .env project name mask => .ok (.env project name mask)
  | .delta blueprint => .ok (.delta blueprint)
  | .bind file => do .ok (.bind (← requestOf PinRequest.ofJson input disk file))
  | .history project page size => .ok (.history project page size)

def replyJson : Reply → Json
  | .view v => v.toJson
  | .pins pins => .arr (pins.map Pin.toJson)
  | .page p => p.toJson

/-- The project directory that is kept in an open database. A table that is not there is made first,
which needs leave to write. -/
def OpenDatabase.directory (db : OpenDatabase) (path : String) : Directory :=
  let table : TableDirectory := ⟨path, db.file.projects.getD []⟩
  if db.writable then
    if db.file.projects.isSome || db.file.admitsProjects then .table table
    else .unavailable (path ++ ": " ++ Disk.damagedReason)
  else if db.file.projects.isSome then .fixedTable table
  else .unavailable (path ++ ": " ++ TableDirectory.readOnlyReason)

def asksDirectory : Operation → Bool
  | .create r => r.validate.isOk
  | _ => false

/-- Whether the tables of a database are read again in the course of an operation: they have been
read once, and then the table of projects is added. -/
def OpenDatabase.rereads (db : OpenDatabase) (op : Operation) : Bool :=
  db.file.hasTables && db.file.projects.isNone && asksDirectory op

/-- The service on an open database, with the project directory that is kept beside the store. -/
def OpenDatabase.service (db : OpenDatabase) (path : String) (op : Operation) :
    Service Database.Connection.backend :=
  ⟨⟨db.file.database, db.file.hasTables, db.writable, db.file.misnumbered && db.rereads op⟩,
    db.directory path⟩

/-- The file of a database after an operation, from the service that it left behind. The table of
projects is made where the project directory is asked. -/
def OpenDatabase.fileAfter (db : OpenDatabase) (op : Operation)
    (s : Service Database.Connection.backend) : DatabaseFile :=
  let projects :=
    match s.directory with
    | .table d => if asksDirectory op then some d.rows else db.file.projects
    | _ => db.file.projects
  { db.file with database := s.store.database, projects }

def OpenDatabase.keep (db : OpenDatabase) (file : DatabaseFile) (disk : Disk) : Disk :=
  match db.place with
  | some p => if file = db.file then disk else disk.putDatabase p db.inUse.isEmpty file
  | none => disk

def OpenDatabase.around (db : OpenDatabase) (disk : Disk) : Disk :=
  match db.place with
  | some p => disk.withCompanions p db.inUse
  | none => disk

/-- Carries out an invocation on an open database. The files are those that are there once it is
closed. -/
def Invocation.carryOut (i : Invocation) (around : Surroundings) (settings : Settings)
    (db : OpenDatabase) (disk : Disk) : Finished :=
  match i.command.operation around.input (db.around disk) with
  | .error f => failed f disk 0
  | .ok op =>
      let service := db.service settings.database.path op
      let handled := service.handle settings.maskPolicy i.who around.supply op
      let disk := db.keep (db.fileAfter op handled.service) disk
      match handled.result with
      | .ok reply => answered ((replyJson reply).renderDeep ++ "\n") disk handled.drawn
      | .error e => failed (.service e) disk handled.drawn

def Invocation.run (i : Invocation) (around : Surroundings) (disk : Disk) : Finished :=
  match i.settings disk with
  | .error f => failed f disk 0
  | .ok settings =>
      let filter := if around.ownFilter then LogFilter.check settings.logging.filter else .ok ()
      match filter with
      | .error .splitCharacter => aborted disk
      | .error .malformed => failed .logging disk 0
      | .ok () =>
          let path := settings.database.path
          let opening := disk.openDatabase path settings.database.busyMillis
          match opening.outcome with
          | .error .endlessWait => aborted opening.disk
          | .error (.error _) => failed (.unopened path) opening.disk 0
          | .ok db => i.carryOut around settings db opening.disk

def helpText : String :=
  "Versioned agent configuration blueprints\n\nUsage: " ++ programName ++
    " [OPTIONS] <COMMAND>\n\nCommands:\n" ++
    String.join (CommandName.all.map fun c =>
      "  " ++ " ".intercalate (c.text :: c.operands.map OperandName.text) ++ "\n")

def run (args : List String) (around : Surroundings) (disk : Disk) : Finished :=
  match Invocation.parse args with
  | .ok i => i.run around disk
  | .error .version => answered (programName ++ " " ++ programVersion ++ "\n") disk 0
  | .error .help => answered helpText disk 0
  | .error (.usage e) => ⟨2, "", "error: " ++ e.message ++ "\n", disk, 0⟩

end ConfigTimeline.CommandLine
