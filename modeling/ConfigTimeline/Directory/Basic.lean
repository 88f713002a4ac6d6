import ConfigTimeline.Directory.Index
import ConfigTimeline.Record.Basic

/-!
The directory of projects, which belongs to no store. It looks projects up by id within a workspace,
and by name, where it makes a project that is not there under an id offered by the caller. There are
four kinds: one in memory with an index by name and one by id, one that is a table of text rows, one
that is such a table and may only be read, and one that cannot be reached.
-/

namespace ConfigTimeline

inductive DirectoryError
  | notFound (project : ProjectId)
  | unavailable (reason : String)
deriving DecidableEq

def DirectoryError.message : DirectoryError → String
  | .notFound project => "project '" ++ project.text ++ "' not found"
  | .unavailable reason => "project directory unavailable: " ++ reason

structure MemoryDirectory where
  byName : Index (String × String) Project
  byId : Index (String × ProjectId) Project
deriving DecidableEq

namespace MemoryDirectory

def empty : MemoryDirectory := ⟨.empty, .empty⟩

/-- Puts a project of a workspace under its name and under its id. -/
def insert (d : MemoryDirectory) (workspace : String) (project : Project) : MemoryDirectory :=
  ⟨d.byName.put (workspace, project.name) project, d.byId.put (workspace, project.id) project⟩

/-- The number of projects that can be looked up by id. -/
def size (d : MemoryDirectory) : Nat := d.byId.size

def get (d : MemoryDirectory) (workspace : String) (id : ProjectId) :
    Except DirectoryError Project :=
  match d.byId.get? (workspace, id) with
  | some project => .ok project
  | none => .error (.notFound id)

/-- What is found by an id after a project is put into both indexes. -/
theorem get_insert (d : MemoryDirectory) (workspace other : String) (project : Project)
    (id : ProjectId) :
    (d.insert workspace project).get other id =
      if other = workspace ∧ id = project.id then .ok project else d.get other id := by
  unfold get insert
  rw [Index.get?_put]
  by_cases hsame : other = workspace ∧ id = project.id
  · rw [if_pos hsame, if_pos (Prod.ext hsame.1 hsame.2)]
  · rw [if_neg hsame, if_neg fun h => hsame (Prod.mk.inj h)]

/-- The project of a workspace with a name; if there is none it is made with the candidate id. Either
way it can be looked up by its id from then on. -/
def getOrCreate (d : MemoryDirectory) (workspace name : String) (candidate : ProjectId) :
    Project × MemoryDirectory :=
  let project := (d.byName.get? (workspace, name)).getD ⟨candidate, name⟩
  (project, d.insert workspace project)

end MemoryDirectory

structure ProjectCells where
  workspace : String
  id : String
  name : String
deriving DecidableEq

/-- A directory that is a table, in a database at a path. -/
structure TableDirectory where
  path : String
  rows : List ProjectCells
deriving DecidableEq

namespace TableDirectory

/-- A failure of the database at its path. -/
def failed (d : TableDirectory) (reason : String) : DirectoryError :=
  .unavailable (d.path ++ ": " ++ reason)

def readOnlyReason : String := "attempt to write a readonly database"

def read (d : TableDirectory) (row : ProjectCells) : Except DirectoryError Project :=
  match ProjectId.parse row.id with
  | .ok id => .ok ⟨id, row.name⟩
  | .error e => .error (d.failed ("Conversion error from type Text at index: 0, " ++ e.message))

def get (d : TableDirectory) (workspace : String) (id : ProjectId) :
    Except DirectoryError Project :=
  match d.rows.find? fun row => row.workspace == workspace && row.id == id.text with
  | some row => d.read row
  | none => .error (.notFound id)

/-- The project of a workspace with a name; if there is none, a row with the candidate id is added. A
workspace cannot have two projects of one id. -/
def getOrCreate (d : TableDirectory) (workspace name : String) (candidate : ProjectId) :
    Except DirectoryError Project × TableDirectory :=
  match d.rows.find? fun row => row.workspace == workspace && row.name == name with
  | some row => (d.read row, d)
  | none =>
      if d.rows.any fun row => row.workspace == workspace && row.id == candidate.text then
        (.error (d.failed
          "UNIQUE constraint failed: agent_projects.workspace_id, agent_projects.id"), d)
      else
        (.ok ⟨candidate, name⟩, { d with rows := d.rows ++ [⟨workspace, candidate.text, name⟩] })

def setColumn (column text : String) (row : ProjectCells) : ProjectCells :=
  if column = "workspace_id" then { row with workspace := text }
  else if column = "id" then { row with id := text }
  else if column = "name" then { row with name := text }
  else row

/-- Sets the cell of a column in the rows with an id, and tells how many there were. -/
def setCell (column text id : String) (d : TableDirectory) : Nat × TableDirectory :=
  (d.rows.countP (·.id == id),
    { d with rows := d.rows.map fun row => if row.id = id then setColumn column text row else row })

end TableDirectory

inductive Directory
  | memory (d : MemoryDirectory)
  | table (d : TableDirectory)
  | fixedTable (d : TableDirectory)
  | unavailable (reason : String)
deriving DecidableEq

namespace Directory

def get (workspace : String) (id : ProjectId) : Directory → Except DirectoryError Project
  | .memory d => d.get workspace id
  | .table d => d.get workspace id
  | .fixedTable d => d.get workspace id
  | .unavailable reason => .error (.unavailable reason)

def getOrCreate (workspace name : String) (candidate : ProjectId) :
    Directory → Except DirectoryError Project × Directory
  | .memory d =>
      let (project, d) := d.getOrCreate workspace name candidate
      (.ok project, .memory d)
  | .table d =>
      let (outcome, d) := d.getOrCreate workspace name candidate
      (outcome, .table d)
  | .fixedTable d => (.error (d.failed TableDirectory.readOnlyReason), .fixedTable d)
  | .unavailable reason => (.error (.unavailable reason), .unavailable reason)

end Directory

end ConfigTimeline
