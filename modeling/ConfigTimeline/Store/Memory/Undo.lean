import ConfigTimeline.Store.Memory.Tables

/-!
Changes that can be taken back. A write returns the changed tables together with an entry for each
change, newest first; reverting the entries in that order restores the tables exactly.
-/

namespace ConfigTimeline.Memory

/-- A change of the tables, with what it takes to take it back. -/
inductive Change
  | configAdded
  | blueprintAdded (workspace : String) (id : BlueprintId)
  | valueAdded
  | valueClosed (index : Nat)
  | pinAdded
  | pinMoved (index : Nat) (before : Pin)
deriving DecidableEq

def Change.revert : Change → Tables → Tables
  | .configAdded, t => { t with configs := t.configs.dropLast }
  | .blueprintAdded workspace id, t =>
      { t with blueprints := t.blueprints.filter fun row =>
          !(row.workspace == workspace && row.record.id == id) }
  | .valueAdded, t => { t with values := t.values.dropLast }
  | .valueClosed index, t =>
      { t with values := t.values.modify index fun row =>
          { row with record := { row.record with validTo := none } } }
  | .pinAdded, t => { t with pins := t.pins.dropLast }
  | .pinMoved index before, t =>
      { t with pins := t.pins.modify index fun row => { row with record := before } }

def revertAll (changes : List Change) (t : Tables) : Tables :=
  changes.foldl (fun t change => change.revert t) t

end ConfigTimeline.Memory
