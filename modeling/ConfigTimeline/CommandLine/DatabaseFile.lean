import ConfigTimeline.CommandLine.DatabaseFile.Room
import ConfigTimeline.Directory.Basic
import ConfigTimeline.Store.Database.Unit

/-!
What a database file holds: the tables of the store and the table of projects, each if it has been
made, and what its format allows.
-/

namespace ConfigTimeline.CommandLine

structure DatabaseFile where
  database : Database
  /-- The tables of the store are there. -/
  hasTables : Bool
  /-- The table of projects, if it is there. -/
  projects : Option (List ProjectCells)
  /-- Changes go to a log beside the file first, and not to a journal. -/
  logged : Bool
  /-- No change can be made, since the format is one of a later kind that can only be read. -/
  fixed : Bool
  /-- The text encoding goes by a number that is not its own. -/
  misnumbered : Bool
  /-- The room for the rows that declare tables, before any of them is written. -/
  room : Room
deriving DecidableEq

namespace DatabaseFile

def freshPageSize : Nat := 4096

def freshRoom : Room := .ofPage freshPageSize freshPageSize

def blank : DatabaseFile := ⟨.blank, false, none, false, false, false, freshRoom⟩

def admitsTables (f : DatabaseFile) : Bool := f.room.holds storeDeclarations

def admitsProjects (f : DatabaseFile) : Bool :=
  f.room.holds <|
    if f.hasTables then storeDeclarations.append projectDeclarations else projectDeclarations

end DatabaseFile

end ConfigTimeline.CommandLine
