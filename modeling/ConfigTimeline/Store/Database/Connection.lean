import ConfigTimeline.Store.Database.Unit

/-!
A store on a database that may lack its tables, may only be read, or may have become unreadable. A
call fails where its first statement asks for a table that is not there, and where it has rows to
write and may not. All other calls are those of the database.
-/

namespace ConfigTimeline.Database

structure Connection where
  database : Database
  hasTables : Bool
  writable : Bool
  /-- The tables cannot be read any more, since their text encoding is in doubt. -/
  garbled : Bool
deriving DecidableEq

/-- The table of the first statement of a call. A call that asks for nothing has no statement. -/
def firstTable : Call → Option TableName
  | .configOf _ | .configById _ | .insertConfig _ => some .configs
  | .insertBlueprint _ _ | .blueprintById _ | .blueprintOfKind _ _ _ | .latest _ _ | .count _ =>
      some .blueprints
  | .kinds _ ids => if ids.isEmpty then none else some .blueprints
  | .history _ _ offset => if offset < 1 <<< 63 then some .blueprints else none
  | .closeValues _ _ keys => if keys.isEmpty then none else some .values
  | .insertValues _ _ | .effective _ _ | .delta _ | .rows _ => some .values
  | .pins _ envs => if envs.isEmpty then none else some .pins
  | .pinnedTo _ _ | .envsOf _ | .insertPins _ | .updatePins _ _ _ _ => some .pins

def writesRows : Call → Bool
  | .insertConfig _ | .insertBlueprint _ _ => true
  | .closeValues _ _ keys => !keys.isEmpty
  | .insertValues _ rows => !rows.isEmpty
  | .insertPins pins => !pins.isEmpty
  | .updatePins _ _ _ targets => !targets.isEmpty
  | _ => false

namespace Connection

/-- Why a call fails before it reaches the rows. -/
def refusal (c : Connection) (mode : Mode) (call : Call) : Option StoreError :=
  if needsWrite call && mode == .read then none
  else
    match firstTable call with
    | none => none
    | some table =>
        if c.garbled then some (.backend .encoding)
        else if !c.hasTables then some (.backend (.noTable table.text))
        else if writesRows call && !c.writable then some (.backend .fixed)
        else none

def perform (workspace : String) (call : Call) (state : Connection × Work) :
    Except StoreError call.Answer × Connection × Work :=
  match state.1.refusal state.2.mode call with
  | some e => (.error e, state)
  | none =>
      let (answer, work) := Database.perform workspace call state.2
      (answer, state.1, work)

def backend : Backend where
  Store := Connection
  Work := Connection × Work
  start mode c := (c, Database.backend.start mode c.database)
  perform := perform
  commit state := { state.1 with database := Database.backend.commit state.2 }
  rollback state := { state.1 with database := Database.backend.rollback state.2 }

/-- A connection with all tables that may be read and written refuses nothing of its own. -/
theorem refusal_eq_none {c : Connection} (h : c.hasTables = true) (hw : c.writable = true)
    (hg : c.garbled = false) (mode : Mode) (call : Call) : c.refusal mode call = none := by
  rw [refusal]
  split
  · rfl
  · split <;> simp [h, hw, hg]

end Connection

end ConfigTimeline.Database
