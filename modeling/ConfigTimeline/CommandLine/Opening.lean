import ConfigTimeline.CommandLine.Disk
import ConfigTimeline.CommandLine.Location

/-!
How a database is opened. The file is found or made, what an earlier user left beside it is cleared
away, its changes are led through a log if its locks allow that, and it is given the tables of the
store if it has none. Each of these may fail, and what was done before stays done.

Three files may stand beside a database: a journal of a change that was broken off, a log of changes,
and an index of that log in shared memory. Journals and logs hold nothing here that the database
would need, but they decide whether it can be opened, and opening it takes them away.
-/

namespace ConfigTimeline.CommandLine

inductive Companion
  | journal
  | log
  | logIndex
  | lock
deriving DecidableEq

/-- What the name of a companion adds to the name of the database. -/
def Companion.suffix : Companion → String
  | .journal => "-journal"
  | .log => "-wal"
  | .logIndex => "-shm"
  | .lock => ".lock"

def Companion.all : List Companion := [.journal, .log, .logIndex, .lock]

def Companion.of (c : Companion) (p : Position) : Position := p.beside c.suffix

structure OpenDatabase where
  file : DatabaseFile
  /-- Where it is kept, if it is kept in a file. -/
  place : Option Position
  writable : Bool
  /-- The companions that are in use while it is open. -/
  inUse : List Companion

inductive Refusal
  | error (e : StoreError)
  /-- The time to wait for other users is too long to be counted. -/
  | endlessWait

/-- What comes of opening a database, and the files once it is closed again. -/
structure Opening where
  outcome : Except Refusal OpenDatabase
  disk : Disk

/-- The longest time to wait for other users, in milliseconds. -/
def longestWait : Nat := 1 <<< 31 - 1

def unopened (path : String) : StoreError :=
  .backend (.reported ("unable to open database file: " ++ path))

namespace Disk

/-- Whether there is a companion that counts. An empty file does not. -/
def hasCompanion (d : Disk) (c : Companion) (p : Position) : Bool :=
  d.isFolder (c.of p) ||
    match d.get? (c.of p) with
    | some (.text s) => !s.isEmpty
    | content => content.isSome

/-- Whether a journal is hot: it starts with a byte other than zero. -/
def isHot (d : Disk) (p : Position) : Bool :=
  match d.get? (Companion.journal.of p) with
  | some (.text s) => s.toList.head?.any (· != '\x00')
  | content => content.isSome

/-- The files after the journal of a database has been dealt with. -/
def settleJournal (d : Disk) (p : Position) (isBlank readOnly : Bool) : Option Disk :=
  let erased := d.erase (Companion.journal.of p)
  if !d.hasCompanion .journal p then some d
  else if isBlank then some (if readOnly then d else erased)
  else if d.isFolder (Companion.journal.of p) then none
  else if !d.isHot p then some d
  else if readOnly then none
  else some erased

/-- The files after the log of a database has been looked for, and whether it is in use. -/
def settleLog (d : Disk) (p : Position) (isBlank : Bool) (locking : Locking) :
    Option (Disk × Bool) :=
  if !d.hasCompanion .log p then some (d, false)
  else if d.isFolder (Companion.log.of p) then none
  else if isBlank then some (d.erase (Companion.log.of p), false)
  else if locking.allowsLog then some (d, true)
  else none

/-- Whether a log cannot be used, because a directory stands in the place of its index. -/
def blocksIndex (d : Disk) (p : Position) (access : Access) : Bool :=
  access.keepsIndex && d.isFolder (Companion.logIndex.of p)

/-- The files after a log has been in use. One who may only read, or cannot use the log, leaves it
behind. -/
def closeLog (d : Disk) (p : Position) (access : Access) : Disk :=
  let index := Companion.logIndex.of p
  let log := Companion.log.of p
  let isBlocked := d.blocksIndex p access
  if access.isReadOnly || isBlocked then
    let d := if (d.get? log).isSome then d else d.put log (.text "")
    if access.keepsIndex && !isBlocked then d.put index .bytes else d
  else
    let d := d.erase log
    if access.keepsIndex then d.erase index else d

def logCompanions (d : Disk) (p : Position) (access : Access) : List Companion :=
  if access.keepsIndex && !d.blocksIndex p access then [.log, .logIndex] else [.log]

def withCompanions (d : Disk) (p : Position) (inUse : List Companion) : Disk :=
  inUse.foldl (fun (d : Disk) (c : Companion) => d.put (c.of p) .bytes) d

/-- The bytes that the name of a database leaves for the names of the files kept beside it. -/
def companionSize : Nat := 8

def allowsJournal (d : Disk) (p : Position) : Bool :=
  (p.steps.head?.any fun name => stepSize name + companionSize ≤ longestStep) &&
    !d.isFolder (Companion.journal.of p)

def damagedReason : String := "database disk image is malformed"

/-- The file of a database with the tables of the store. One without a version is given them; one of
another version is refused. -/
def completed (file : DatabaseFile) (writable : Bool) : Except StoreError DatabaseFile := do
  let database ← file.database.opened
  if database = file.database then .ok file
  else if !file.admitsTables then .error (.backend (.reported damagedReason))
  else if writable then .ok { file with database, hasTables := true }
  else .error (.backend .fixed)

/-- The files after a change to the file of a database. One that goes through a journal takes away
the journal that was there. -/
def putDatabase (d : Disk) (p : Position) (journalled : Bool) (file : DatabaseFile) : Disk :=
  let d := if journalled then d.erase (Companion.journal.of p) else d
  d.put p (.database file)

/-- The files after a database has been made to lead its changes through a log. -/
def convert (d : Disk) (p : Position) (file : DatabaseFile) : Disk :=
  d.putDatabase p true { file with logged := true }

/-- A database with the tables of the store, and the files with it. A change goes through the log if
one is in use, and else through a journal. -/
def complete (d : Disk) (p : Position) (file : DatabaseFile) (writable inUse : Bool) :
    Except StoreError (DatabaseFile × Disk) := do
  let made ← completed file writable
  if made = file then .ok (made, d)
  else if inUse || d.allowsJournal p then .ok (made, d.putDatabase p (!inUse) made)
  else .error (unopened p.path)

/-- Opens a database from what its file holds, where a log is in use or not. Without one, a database
whose changes can go through a log is made to use one. -/
def openContent (d : Disk) (p : Position) (access : Access) (wait : Nat) (inUse : Bool)
    (content : Content) : Opening :=
  let readOnly := access.isReadOnly
  let close (d : Disk) (inUse : Bool) : Disk :=
    if inUse then d.closeLog p access else d
  let refuse (d : Disk) (inUse : Bool) : Opening :=
    ⟨.error (.error (unopened p.path)), close d inUse⟩
  match content.database? with
  | none => refuse d inUse
  | some file =>
      let converts := access.usesLog && !file.logged && !inUse
      let inUse := inUse || (access.usesLog && file.logged)
      let writable := !readOnly && !file.fixed
      if file.logged && !access.usesLog && !access.immutable then refuse d inUse
      else if converts && (!writable || !d.allowsJournal p) then refuse d inUse
      else
        let d := if converts then d.convert p file else d
        let file := if converts then { file with logged := true } else file
        if longestWait < wait then ⟨.error .endlessWait, close d inUse⟩
        else
          let inUse := inUse || converts
          let closed := close d inUse
          if inUse && !readOnly && d.blocksIndex p access then refuse d inUse
          else
            match closed.complete p file writable inUse with
            | .error e => ⟨.error (.error e), closed⟩
            | .ok (file, kept) =>
                ⟨.ok ⟨file, some p, writable, if inUse then d.logCompanions p access else []⟩, kept⟩

/-- Opens a file that is there, after its journal and its log have been dealt with. -/
def openContentOf (d : Disk) (p : Position) (access : Access) (wait : Nat) (content : Content) :
    Opening :=
  let refuse (d : Disk) : Opening := ⟨.error (.error (unopened p.path)), d⟩
  let isBlank := match content with
    | .text s => s.utf8ByteSize ≤ 1
    | _ => false
  if access.immutable then d.openContent p access wait false content
  else
    match d.settleJournal p isBlank access.isReadOnly with
    | none => refuse d
    | some d =>
        match d.settleLog p isBlank access.locking with
        | none => refuse d
        | some (d, inUse) => d.openContent p access wait inUse content

/-- Whether a database can be locked. A file that is there already stands for the lock of another
user. -/
def allowsLock (d : Disk) (p : Position) (access : Access) : Bool :=
  let lock := Companion.lock.of p
  access.locking != .lockFile || access.immutable ||
    ((lock.steps.head?.all fun name => stepSize name ≤ longestStep) && (d.get? lock).isNone &&
      !d.isFolder lock)

def openFile (d : Disk) (p : Position) (access : Access) (wait : Nat) : Opening :=
  let refuse (d : Disk) : Opening := ⟨.error (.error (unopened p.path)), d⟩
  if !access.model.all d.leadsSomewhere then refuse d
  else
    let content := (d.get? p).getD (.text "")
    if (d.get? p).isNone && access.mode != .creating then refuse d
    else
      let d : Disk := d.put p content
      if d.allowsLock p access then d.openContentOf p access wait content else refuse d

def openDatabase (d : Disk) (path : String) (wait : Nat) : Opening :=
  let refuse (e : StoreError) : Opening := ⟨.error (.error e), d⟩
  if d.leadsToFolder path then refuse (.backend (.directory path))
  else
    match Location.ofPath? path with
    | none => refuse (unopened path)
    | some (.transient writable) =>
        if longestWait < wait then ⟨.error .endlessWait, d⟩
        else
          match completed .blank writable with
          | .error e => refuse e
          | .ok file => ⟨.ok ⟨file, none, true, []⟩, d⟩
    | some (.file name access) =>
        match d.position? name with
        | none => refuse (unopened path)
        | some p => d.openFile p access wait

/-- The position at which the database of a path is kept, unless it is kept in no file. -/
def databasePosition? (d : Disk) (path : String) : Option Position :=
  match Location.ofPath? path with
  | some (.file name _) => d.position? name
  | _ => none

/-- The positions of the files that opening the database of a path may see or change. -/
def databasePositions (d : Disk) (path : String) : List Position :=
  match d.databasePosition? path with
  | some p => p :: Companion.all.map (·.of p)
  | none => []

end Disk

end ConfigTimeline.CommandLine
