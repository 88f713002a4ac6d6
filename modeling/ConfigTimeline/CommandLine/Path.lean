/-!
Paths, and the positions in the tree of directories that they lead to. A position is counted from
the root or from the working directory. `Position.ofPath` goes by the steps of a path alone, so that
a step back undoes the step before it, whatever that one leads to.
-/

namespace ConfigTimeline.CommandLine

/-- The steps of a path, which stand between slashes. -/
def pathSteps (path : String) : List String := (path.toList.splitOn '/').map String.ofList

def staysPut (step : String) : Bool := step == "" || step == "."

/-- The number of bytes of a step. A byte that belongs to no character is spelled out as NUL and two
digits. -/
def stepSize (step : String) : Nat :=
  step.utf8ByteSize - 2 * step.toList.count '\x00'

def longestStep : Nat := 255

def longestPath : Nat := 4095

/-- The most bytes that the path of a database may have, once it is put together. -/
def longestDatabasePath : Nat := 511

structure Position where
  /-- Counted from the root, and not from the working directory. -/
  rooted : Bool
  /-- The number of directories to leave at first. -/
  ups : Nat
  /-- The steps from there on, the last one first. -/
  steps : List String
deriving DecidableEq

namespace Position

def start (path : String) : Position := ⟨path.startsWith "/", 0, []⟩

/-- The directory around a position. The root has none around it. -/
def up (p : Position) : Position :=
  match p.steps with
  | _ :: steps => { p with steps }
  | [] => if p.rooted then p else { p with ups := p.ups + 1 }

def down (p : Position) (name : String) : Position := { p with steps := name :: p.steps }

def next (p : Position) (step : String) : Position :=
  if staysPut step then p else if step = ".." then p.up else p.down step

def ofPath (path : String) : Position := (pathSteps path).foldl next (start path)

/-- The position of the file beside this one whose name is longer by a suffix. -/
def beside (p : Position) (suffix : String) : Position :=
  match p.steps with
  | name :: steps => { p with steps := (name ++ suffix) :: steps }
  | [] => p

def path (p : Position) : String :=
  (if p.rooted then "/" else "") ++
    "/".intercalate (List.replicate p.ups ".." ++ p.steps.reverse)

/-- The number of bytes of the steps to a position, each with its slash. -/
def size (p : Position) : Nat :=
  (List.replicate p.ups ".." ++ p.steps).foldl (fun n step => n + 1 + stepSize step) 0

/-- Whether a position is a directory whatever files there are: the root, the working directory, one
around it, or the directory for temporary files. -/
def isStanding (p : Position) : Bool :=
  p.steps.isEmpty || (p.rooted && p.steps == ["tmp"])

def isBelow (p q : Position) : Bool :=
  p.rooted == q.rooted && p.ups == q.ups && q.steps.isSuffixOf p.steps && p.steps != q.steps

@[simp] theorem up_down (p : Position) (name : String) : (p.down name).up = p := rfl

end Position

end ConfigTimeline.CommandLine
