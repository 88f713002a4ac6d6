import ConfigTimeline.Store.Database.Unit

/-!
Edits of single cells, by the names of table and column, behind the back of the store. The text of an
edited cell may be anything.
-/

namespace ConfigTimeline.Database

def AuditCells.set? (column text : String) (c : AuditCells) : Option AuditCells :=
  if column = "created_by" then some { c with createdBy := text }
  else if column = "created_at" then some { c with createdAt := text }
  else if column = "last_updated_by" then some { c with updatedBy := text }
  else if column = "last_updated_at" then some { c with updatedAt := text }
  else none

def ConfigCells.set? (column text : String) (c : ConfigCells) : Option ConfigCells :=
  if column = "workspace_id" then some { c with workspace := text }
  else if column = "id" then some { c with id := text }
  else if column = "project_id" then some { c with project := text }
  else (c.audit.set? column text).map fun audit => { c with audit }

def BlueprintCells.set? (column text : String) (c : BlueprintCells) : Option BlueprintCells :=
  if column = "workspace_id" then some { c with workspace := text }
  else if column = "id" then some { c with id := text }
  else if column = "project_id" then some { c with project := text }
  else if column = "config_id" then some { c with config := text }
  else if column = "type" then some { c with kind := text }
  else if column = "description" then some { c with description := some text }
  else (c.audit.set? column text).map fun audit => { c with audit }

def ValueCells.set? (column text : String) (c : ValueCells) : Option ValueCells :=
  if column = "workspace_id" then some { c with workspace := text }
  else if column = "id" then some { c with id := text }
  else if column = "project_id" then some { c with project := text }
  else if column = "config_id" then some { c with config := text }
  else if column = "key" then some { c with key := text }
  else if column = "value" then some { c with value := text }
  else if column = "type" then some { c with kind := text }
  else if column = "description" then some { c with description := some text }
  else if column = "valid_from" then some { c with validFrom := text }
  else if column = "valid_to" then some { c with validTo := some text }
  else none

def PinCells.set? (column text : String) (c : PinCells) : Option PinCells :=
  if column = "workspace_id" then some { c with workspace := text }
  else if column = "id" then some { c with id := text }
  else if column = "project_id" then some { c with project := text }
  else if column = "config_id" then some { c with config := text }
  else if column = "env_name" then some { c with env := text }
  else if column = "blueprint_id" then some { c with blueprint := text }
  else (c.audit.set? column text).map fun audit => { c with audit }

/-- The rows with a cell set in those of an id, and the number of these. -/
def setIn {ρ : Type} (idOf : ρ → String) (set? : ρ → Option ρ) (id : String) (rows : List ρ) :
    Nat × List ρ :=
  (rows.countP (idOf · == id),
    rows.map fun row => if idOf row = id then (set? row).getD row else row)

/-- Sets the cell of a column in the rows of a table with an id, and tells how many there were. -/
def Tables.setCell (table : TableName) (column text id : String) (t : Tables) : Nat × Tables :=
  match table with
  | .configs =>
      let (count, configs) := setIn (·.id) (ConfigCells.set? column text) id t.configs
      (count, { t with configs })
  | .blueprints =>
      let (count, blueprints) := setIn (·.id) (BlueprintCells.set? column text) id t.blueprints
      (count, { t with blueprints })
  | .values =>
      let (count, values) := setIn (·.id) (ValueCells.set? column text) id t.values
      (count, { t with values })
  | .pins =>
      let (count, pins) := setIn (·.id) (PinCells.set? column text) id t.pins
      (count, { t with pins })

end ConfigTimeline.Database
