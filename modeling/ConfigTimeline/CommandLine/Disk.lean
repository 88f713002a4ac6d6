import ConfigTimeline.CommandLine.DatabaseFile.Header
import ConfigTimeline.CommandLine.Path
import ConfigTimeline.Directory.Index

/-!
The files that a run of the command line sees, by their positions.

A text is looked for step by step, so every step but the last has to lead into a directory. The path
of a database is put together from its steps first; after that no step before the last one may lead
below a file.
-/

namespace ConfigTimeline.CommandLine

inductive Content
  | text (s : String)
  | database (file : DatabaseFile)
  /-- Bytes that are neither. -/
  | bytes
  /-- A text that a device gives, which can keep nothing. -/
  | device (s : String)
deriving DecidableEq

/-- The database of a file. A file of at most one byte is a database with nothing in it. -/
def Content.database? : Content → Option DatabaseFile
  | .database file => some file
  | .text s => DatabaseFile.ofText? s
  | .bytes => none
  | .device _ => none

/-- The files. A directory is there where it holds a file. -/
abbrev Disk := Index Position Content

inductive ReadFlaw
  | noFile
  | notDirectory
  | directory
  | tooLong
  | notText
deriving DecidableEq

def ReadFlaw.message : ReadFlaw → String
  | .noFile => "No such file or directory (os error 2)"
  | .notDirectory => "Not a directory (os error 20)"
  | .directory => "Is a directory (os error 21)"
  | .tooLong => "File name too long (os error 36)"
  | .notText => "stream did not contain valid UTF-8"

namespace Disk

def isFolder (d : Disk) (p : Position) : Bool :=
  p.isStanding || d.entries.any fun (q, _) => q.isBelow p

/-- What is found by steps that start in a directory. -/
def find (d : Disk) (p : Position) : List String → Except ReadFlaw Content
  | [] => .error .directory
  | step :: rest =>
      if staysPut step then d.find p rest
      else if step = ".." then d.find p.up rest
      else if longestStep < stepSize step then .error .tooLong
      else
        match d.get? (p.down step) with
        | some content => if rest.isEmpty then .ok content else .error .notDirectory
        | none => if d.isFolder (p.down step) then d.find (p.down step) rest else .error .noFile

/-- What is found at a path. The empty path leads nowhere. -/
def content (d : Disk) (path : String) : Except ReadFlaw Content :=
  if path.isEmpty then .error .noFile
  else if longestPath < path.utf8ByteSize then .error .tooLong
  else d.find (.start path) (pathSteps path)

def leadsToFolder (d : Disk) (path : String) : Bool := d.content path matches .error .directory

def leadsSomewhere (d : Disk) (path : String) : Bool :=
  d.leadsToFolder path || (d.content path).isOk

def readText (d : Disk) (path : String) : Except ReadFlaw String := do
  match ← d.content path with
  | .text s => .ok s
  | .device s => .ok s
  | _ => .error .notText

/-- The position after one more step of the path of a database. -/
def nextPosition (d : Disk) (p : Position) (step : String) : Option Position :=
  if staysPut step ∨ step = ".." then some (p.next step)
  else if longestStep < stepSize step ∨ (d.get? p).isSome then none
  else if longestDatabasePath < (p.next step).size then none
  else some (p.next step)

/-- The position of a database file, which has to lie in a directory. -/
def position? (d : Disk) (path : String) : Option Position := do
  let p ← (pathSteps path).foldlM d.nextPosition (.start path)
  if !p.steps.isEmpty && d.isFolder p.up && !d.isFolder p then some p else none

end Disk

end ConfigTimeline.CommandLine
