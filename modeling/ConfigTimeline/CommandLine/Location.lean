import ConfigTimeline.Text.Bytes

/-!
Where a database is kept, and how it may be used there, as its path says. A path is the name of a
file, or a URI of the scheme `file` with options. Names and options are bytes, since a URI can spell
out any byte; they are kept as the texts of their bytes.
-/

namespace ConfigTimeline.CommandLine

inductive OpenMode
  /-- Only a file that is there, and only to read it. -/
  | readOnly
  /-- Only a file that is there. -/
  | existing
  /-- A file that is there, or a new one. -/
  | creating
  /-- No file at all. -/
  | memory
deriving DecidableEq

namespace OpenMode

def ofWord? (word : String) : Option OpenMode :=
  if word = "ro" then some .readOnly
  else if word = "rw" then some .existing
  else if word = "rwc" then some .creating
  else if word = "memory" then some .memory
  else none

def rank : OpenMode → Nat
  | .readOnly => 1
  | .existing => 2
  | .creating => 3
  | .memory => 4

/-- The mode after an option that asks for another one. A file may be asked for with less than was
allowed before, and not with more. -/
def change (before : OpenMode) (word : String) : Option OpenMode := do
  let mode ← ofWord? word
  if mode = .memory ∨ mode.rank ≤ before.rank then some mode else none

end OpenMode

/-- How the users of a file keep out of each other's way. -/
inductive Locking
  /-- By locks on the file, and by a file of shared memory beside it. -/
  | shared
  /-- By locks on the file that are held throughout. -/
  | exclusive
  /-- By a file beside it. -/
  | lockFile
  | unlocked
deriving DecidableEq

/-- Whether changes can be kept in a log beside the database before they are written to it. -/
def Locking.allowsLog : Locking → Bool
  | .shared => true
  | .exclusive => true
  | .lockFile => false
  | .unlocked => false

/-- Where files are: on disk, under some kind of locks, or in memory. -/
inductive FileSystem
  | disk (locking : Locking)
  | memory
deriving DecidableEq

def FileSystem.ofWord? (word : String) : Option FileSystem :=
  if word = "unix" then some (.disk .shared)
  else if word = "unix-excl" then some (.disk .exclusive)
  else if word = "unix-dotfile" then some (.disk .lockFile)
  else if word = "unix-none" then some (.disk .unlocked)
  else if word = "memdb" then some .memory
  else none

structure Access where
  mode : OpenMode
  locking : Locking
  /-- Nobody changes the file. -/
  immutable : Bool
  /-- The path of a file whose permissions a new file takes. -/
  model : Option String
deriving DecidableEq

namespace Access

def isReadOnly (a : Access) : Bool := a.mode == .readOnly || a.immutable

def usesLog (a : Access) : Bool := a.locking.allowsLog && !a.immutable

/-- Whether a file of shared memory is kept beside a log. Who holds the locks throughout needs none,
but only a writer can hold them. -/
def keepsIndex (a : Access) : Bool :=
  a.locking == .shared || (a.locking == .exclusive && a.mode == .readOnly)

end Access

/-- How the file of a plain name is opened. -/
def Access.standard : Access := ⟨.creating, .shared, false, none⟩

inductive Location
  /-- In no file, so that it ends with the run. -/
  | transient (writable : Bool)
  | file (path : String) (access : Access)
deriving DecidableEq

namespace Location

def isTransientName (name : String) : Bool := name == "" || name == ":memory:"

/-- The bytes of a part of a URI. A percent sign before two hexadecimal digits makes one byte of
them, and a byte of value zero ends the part. -/
def unescape : List Char → List UInt8
  | [] => []
  | '%' :: a :: b :: cs =>
      match Positional.hex? a, Positional.hex? b with
      | some high, some low =>
          if high * 16 + low = 0 then [] else UInt8.ofNat (high * 16 + low) :: unescape cs
      | _, _ => String.utf8EncodeChar '%' ++ unescape (a :: b :: cs)
  | c :: cs => String.utf8EncodeChar c ++ unescape cs

def partText (cs : List Char) : String := String.ofList (Text.ofBytes 0 (unescape cs))

/-- A text without the host in front, which may only be this one. -/
def dropHost? : List Char → Option (List Char)
  | '/' :: '/' :: cs =>
      let host := cs.takeWhile (· != '/')
      if host = [] ∨ host = "localhost".toList then some (cs.drop host.length) else none
  | cs => some cs

def readOption (option : List Char) : String × String :=
  let name := option.takeWhile (· != '=')
  (partText name, partText (option.drop (name.length + 1)))

/-- The options of a URI. One without a name does not count. -/
def readOptions (cs : List Char) : List (String × String) :=
  ((cs.splitOn '&').map readOption).filter (·.1 != "")

/-- The number that a text starts with, below `1 <<< 31` and in at most ten digits. -/
def leadingDecimal (cs : List Char) : Nat :=
  let digits := (cs.takeWhile Char.isDigit).dropWhile (· == '0')
  let n := (Positional.natural? digits).getD 0
  if digits.length ≤ 10 ∧ n < 1 <<< 31 then n else 0

/-- The number of the hexadecimal digits that a text starts with, below `1 <<< 31`. -/
def leadingHexadecimal (cs : List Char) : Nat :=
  let digits := ((cs.map Positional.hex?).takeWhile Option.isSome).filterMap id
  let n := Positional.value 16 digits
  if n < 1 <<< 31 then n else 0

/-- Whether the value of an option switches something on: a word in any case, or a number of which
the last eight bits count. -/
def isOn (value : String) : Bool :=
  match value.toList with
  | c :: cs =>
      if c.isDigit then
        let n :=
          match c, cs with
          | '0', x :: h :: rest =>
              if (x = 'x' ∨ x = 'X') ∧ (Positional.hex? h).isSome then leadingHexadecimal (h :: rest)
              else leadingDecimal (c :: cs)
          | _, _ => leadingDecimal (c :: cs)
        n % 256 != 0
      else ["on", "yes", "true"].contains (value.map Char.toLower)
  | [] => false

def switchedOn (options : List (String × String)) (name : String) : Bool :=
  (options.lookup name).any isOn

def nextMode (mode : OpenMode) : String × String → Option OpenMode
  | ("mode", word) => mode.change word
  | ("cache", word) => if word = "shared" ∨ word = "private" then some mode else none
  | _ => some mode

/-- The file system that the options ask for last. -/
def fileSystem? (options : List (String × String)) : Option FileSystem :=
  match options.reverse.lookup "vfs" with
  | none => some (.disk .shared)
  | some word => FileSystem.ofWord? word

def ofOptions? (name : String) (options : List (String × String)) : Option Location := do
  let mode ← options.foldlM nextMode .creating
  match ← fileSystem? options with
  | .disk locking =>
      if mode = .memory ∨ isTransientName name then some (.transient (mode != .readOnly))
      else
        some (.file name ⟨mode, if switchedOn options "nolock" then .unlocked else locking,
          switchedOn options "immutable", options.lookup "modeof"⟩)
  | .memory =>
      some (.transient (mode != .readOnly &&
        (mode == .memory || isTransientName name || !switchedOn options "immutable")))

/-- The location of a URI, from the text after its scheme. A number sign ends the URI. -/
def ofUri? (cs : List Char) : Option Location := do
  let cs ← dropHost? cs
  let cs := cs.takeWhile (· != '#')
  let nameChars := cs.takeWhile (· != '?')
  ofOptions? (partText nameChars) (readOptions (cs.drop (nameChars.length + 1)))

/-- The location that a path stands for. No path holds a NUL. -/
def ofPath? (path : String) : Option Location :=
  if path.toList.contains '\x00' then none
  else
    match path.toList with
    | 'f' :: 'i' :: 'l' :: 'e' :: ':' :: cs => ofUri? cs
    | _ => if isTransientName path then some (.transient true) else some (.file path .standard)

end Location

end ConfigTimeline.CommandLine
