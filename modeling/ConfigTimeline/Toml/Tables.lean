import ConfigTimeline.Toml.Value

/-!
How the lines of a TOML document build its tables. A header opens a table, or one more element of an
array of tables; a pair puts a value under a key, and a dotted key goes through tables of its own. A
table is opened at most once: by a header, or by the dotted keys of one place. A table that was only
passed through on the way of a header may still be opened by a header of its own.
-/

namespace ConfigTimeline.Toml

inductive Origin
  /-- By a header of its own. -/
  | header
  /-- On the way of a longer header. -/
  | passed
  /-- By a dotted key. -/
  | dotted
deriving DecidableEq

/-- What is under a key while a document is read. -/
inductive Node
  | value (v : Toml)
  | table (origin : Origin) (entries : List (String × Node))
  /-- An array of tables, the last element first. -/
  | tables (elements : List (List (String × Node)))

/-- The keys of a table and what is under them. -/
abbrev Entries := List (String × Node)

namespace Entries

def node? (entries : Entries) (key : String) : Option Node :=
  (entries.find? (·.1 == key)).map (·.2)

/-- Puts something under a key, in the place of what is there. -/
def put (key : String) (node : Node) : Entries → Entries
  | [] => [(key, node)]
  | entry :: rest => if entry.1 = key then (key, node) :: rest else entry :: put key node rest

/-- Changes the table at the end of a path. Tables that are missing on the way are made, with the
given origin; where the way leads through an array of tables, it goes through the last element. A
dotted key may not go through a table with a header. -/
def update (made : Origin) (change : Origin → Entries → Option Entries) :
    List String → Origin → Entries → Option Entries
  | [], origin, entries => change origin entries
  | key :: path, _, entries =>
      match node? entries key with
      | none =>
          (update made change path made []).map fun inner => put key (.table made inner) entries
      | some (.value _) => none
      | some (.table origin inner) =>
          if made = .dotted ∧ origin = .header then none
          else
            (update made change path origin inner).map fun inner =>
              put key (.table origin inner) entries
      | some (.tables []) => none
      | some (.tables (last :: before)) =>
          (update made change path .header last).map fun last =>
            put key (.tables (last :: before)) entries

/-- Puts a value under a key that is free. A key at the end of a dotted one goes only into a table of
dotted keys, and any other key goes only into one that is not. -/
def addValue (isDotted : Bool) (key : String) (v : Toml) (origin : Origin) (entries : Entries) :
    Option Entries :=
  if (origin == .dotted) = isDotted ∧ (node? entries key).isNone then
    some (put key (.value v) entries)
  else none

def addPair (path : List String) (key : String) (v : Toml) :
    Origin → Entries → Option Entries :=
  update .dotted (addValue (!path.isEmpty) key v) path

def openTable (key : String) (entries : Entries) : Option Entries :=
  match node? entries key with
  | none => some (put key (.table .header []) entries)
  | some (.table .passed inner) => some (put key (.table .header inner) entries)
  | some _ => none

def openElement (key : String) (entries : Entries) : Option Entries :=
  match node? entries key with
  | none => some (put key (.tables [[]]) entries)
  | some (.tables elements) => some (put key (.tables ([] :: elements)) entries)
  | some _ => none

end Entries

mutual

def Node.finish : Node → Toml
  | .value v => v
  | .table _ entries => .table (finishEntries entries)
  | .tables elements => .array (finishElements elements).reverse

def finishEntries : List (String × Node) → List (String × Toml)
  | [] => []
  | (key, node) :: rest => (key, node.finish) :: finishEntries rest

def finishElements : List (List (String × Node)) → List Toml
  | [] => []
  | element :: rest => .table (finishEntries element) :: finishElements rest

end

/-- A key and the keys in front of it. -/
structure DottedKey where
  path : List String
  key : String

def ofPairs (pairs : List (DottedKey × Toml)) : Option Toml :=
  (pairs.foldlM (fun entries pair => Entries.addPair pair.1.path pair.1.key pair.2 .header entries)
    []).map fun entries => .table (finishEntries entries)

/-- A line of a document that says something. -/
inductive Statement
  | header (at_ : DottedKey)
  | element (at_ : DottedKey)
  | pair (at_ : DottedKey) (v : Toml)

/-- A document as far as it has been read, and the path of the header in force. -/
structure Reading where
  entries : Entries
  current : List String

namespace Reading

def take (r : Reading) : Statement → Option Reading
  | .header k =>
      (Entries.update .passed (fun _ entries => Entries.openTable k.key entries) k.path .header
        r.entries).map fun entries => ⟨entries, k.path ++ [k.key]⟩
  | .element k =>
      (Entries.update .passed (fun _ entries => Entries.openElement k.key entries) k.path .header
        r.entries).map fun entries => ⟨entries, k.path ++ [k.key]⟩
  | .pair k v =>
      (Entries.update .passed (Entries.addPair k.path k.key v) r.current .header
        r.entries).map fun entries => { r with entries }

end Reading

/-- The table of a document, from its lines. -/
def ofStatements (statements : List Statement) : Option Toml :=
  (statements.foldlM Reading.take ⟨[], []⟩).map fun r => .table (finishEntries r.entries)

end ConfigTimeline.Toml
