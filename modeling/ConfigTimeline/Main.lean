import ConfigTimeline.CommandLine.Persistence
import ConfigTimeline.CommandLine.Run
import ConfigTimeline.Id.Generator

/-!
The program. It reads the files that its arguments name, takes the time and random bits, runs the
command line, and writes the output, the database and the files beside it.
-/

namespace ConfigTimeline.Main

open CommandLine

def numberOf (bytes : ByteArray) : Nat :=
  bytes.toList.foldl (fun n b => n * 256 + b.toNat) 0

/-- The time, as the file system stamps a new file. -/
def currentTime : IO Instant := do
  let (_, path) ← IO.FS.createTempFile
  let stamp := (← path.metadata).modified
  IO.FS.removeFile path
  return Instant.ofUnix stamp.sec stamp.nsec.toNat

/-- A random UUID: of version 4, and of the variant that the two top bits of its ninth byte name. -/
def randomProjectId : IO ProjectId := do
  let n := numberOf (← IO.getRandomBytes 16)
  let high := n / 1 <<< 80 * 1 <<< 16 + 0x4000 + n / 1 <<< 64 % 1 <<< 12
  return .ofNat (high * 1 <<< 64 + 1 <<< 63 + n % 1 <<< 62)

def currentSupply : IO Supply := do
  let now ← currentTime
  let random ← IO.getRandomBytes 10
  let spare ← IO.getRandomBytes 10
  let millis := now.unixMillis.toNat
  return ⟨now, Generator.idsAt ⟨millis, numberOf random⟩ ⟨millis, numberOf spare⟩,
    ← randomProjectId⟩

/-- Whether a path can be handed to the system. A byte that belongs to no character cannot. -/
def isReachable (path : String) : Bool := !path.toList.contains '\x00'

/-- The files seen so far with the file at one more path, if it can be read. -/
def look (disk : Disk) (path : String) : IO Disk := do
  if isReachable path then
    try
      return disk.put (.ofPath path) (.ofText (← IO.FS.readFile path))
    catch _ => return disk
  else return disk

partial def readAll (stream : IO.FS.Stream) (before : String) : IO String := do
  let line ← stream.getLine
  if line.isEmpty then return before else readAll stream (before ++ line)

def requestPath? : Command → Option String
  | .create file => some file
  | .bind file => some file
  | _ => none

def modelPath? (path : String) : Option String :=
  match Location.ofPath? path with
  | some (.file _ access) => access.model
  | _ => none

/-- The files that an invocation reads, the positions of its database and of the files beside it,
and its standard input. -/
def gather (i : Invocation) : IO (Disk × List Position × String) := do
  let disk ← i.config.toList.foldlM look .empty
  match i.settings disk with
  | .error _ => return (disk, [], "")
  | .ok settings =>
      let path := settings.database.path
      let positions := disk.databasePositions path
      let disk ← (positions.map Position.path ++ (modelPath? path).toList).foldlM look disk
      match requestPath? i.command with
      | none => return (disk, positions, "")
      | some file =>
          if isStandardInput file then return (disk, positions, ← readAll (← IO.getStdin) "")
          else return (← look disk file, positions, "")

/-- Makes a file hold something else, or nothing. -/
def change (path : String) : Option Content → IO Unit
  | some (.database file) => IO.FS.writeFile path file.render
  | some (.text s) => IO.FS.writeFile path s
  | some .bytes => return ()
  | some (.device _) => return ()
  | none => IO.FS.removeFile path

def keep (before after : Disk) (positions : List Position) : IO Unit :=
  positions.forM fun p =>
    if after.get? p = before.get? p || !isReachable p.path then return ()
    else change p.path (after.get? p)

def finish (f : Finished) : IO UInt32 := do
  IO.print f.output
  IO.eprint f.errors
  return f.exit.toUInt32

def program (args : List String) : IO UInt32 := do
  let supply ← currentSupply
  match Invocation.parse args with
  | .error _ => finish (run args ⟨"", true, supply⟩ .empty)
  | .ok i =>
      let (disk, positions, input) ← gather i
      let finished := run args ⟨input, true, supply⟩ disk
      keep disk finished.disk positions
      finish finished

end ConfigTimeline.Main

def main (args : List String) : IO UInt32 := ConfigTimeline.Main.program args
