import ConfigTimeline.Json.Slots
import ConfigTimeline.Record.Basic
import ConfigTimeline.Time.Text

/-!
The JSON form of stored records. Fields are written in order of declaration; optional fields without
a value and the empty lists of a blueprint are left out. Reading takes objects and arrays alike.
-/

namespace ConfigTimeline

def Json.maxWord : Nat := 1 <<< 32 - 1

def Json.maxLong : Nat := 1 <<< 64 - 1

namespace Id

variable {kind : IdKind}

def toJson (id : Id kind) : Json := .text id.text

def ofJson (kind : IdKind) (j : Json) : Option (Id kind) :=
  j.text?.bind fun s => (Id.parse kind s).toOption

end Id

namespace ProjectId

def toJson (p : ProjectId) : Json := .text p.text

def ofJson (j : Json) : Option ProjectId := j.text?.bind fun s => (ProjectId.parse s).toOption

end ProjectId

namespace Instant

def toJson (t : Instant) : Json := .text t.text

/-- Points in time are read in the lenient form. -/
def ofJson (j : Json) : Option Instant := j.text?.bind fun s => (parseLenient s).toOption

end Instant

namespace BlueprintKind

def toJson (kind : BlueprintKind) : Json := .text kind.text

def ofJson (j : Json) : Option BlueprintKind := j.caseName?.bind ofText?

end BlueprintKind

namespace ValueKind

def toJson (kind : ValueKind) : Json := .text kind.text

def ofJson (j : Json) : Option ValueKind := j.caseName?.bind ofText?

end ValueKind

open Json (required optional defaulted present presentList listOf)

namespace Identity

def fields : List String := ["workspace_id", "user_name"]

def toJson (i : Identity) : Json :=
  .record [("workspace_id", .text i.workspace), ("user_name", .text i.user)]

def ofJson (j : Json) : Option Identity :=
  match j.slots fields with
  | some [workspace, user] => do
      some ⟨← required Json.text? workspace, ← required Json.text? user⟩
  | _ => none

end Identity

namespace Project

def fields : List String := ["id", "name"]

def toJson (p : Project) : Json := .record [("id", p.id.toJson), ("name", .text p.name)]

def ofJson (j : Json) : Option Project :=
  match j.slots fields with
  | some [id, name] => do some ⟨← required ProjectId.ofJson id, ← required Json.text? name⟩
  | _ => none

end Project

namespace Audit

def members (a : Audit) : List (String × Json) :=
  [("created_by", .text a.createdBy), ("created_at", a.createdAt.toJson),
   ("last_updated_by", .text a.updatedBy), ("last_updated_at", a.updatedAt.toJson)]

def ofSlots (createdBy createdAt updatedBy updatedAt : Option Json) : Option Audit := do
  some ⟨← required Json.text? createdBy, ← required Instant.ofJson createdAt,
    ← required Json.text? updatedBy, ← required Instant.ofJson updatedAt⟩

end Audit

namespace Config

def fields : List String :=
  ["id", "project_id", "created_by", "created_at", "last_updated_by", "last_updated_at"]

def toJson (c : Config) : Json :=
  .record ([("id", c.id.toJson), ("project_id", c.project.toJson)] ++ c.audit.members)

def ofJson (j : Json) : Option Config :=
  match j.slots fields with
  | some [id, project, createdBy, createdAt, updatedBy, updatedAt] => do
      some ⟨← required (Id.ofJson _) id, ← required ProjectId.ofJson project,
        ← Audit.ofSlots createdBy createdAt updatedBy updatedAt⟩
  | _ => none

end Config

namespace ValueRow

def fields : List String :=
  ["id", "project_id", "key", "value", "type", "description", "valid_from", "valid_to"]

def toJson (v : ValueRow) : Json :=
  .record ([("id", v.id.toJson), ("project_id", v.project.toJson), ("key", .text v.key),
      ("value", .text v.value), ("type", v.kind.toJson)] ++
    present "description" .text v.description ++ [("valid_from", v.validFrom.toJson)] ++
    present "valid_to" Id.toJson v.validTo)

def ofJson (j : Json) : Option ValueRow :=
  match j.slots fields with
  | some [id, project, key, value, kind, description, validFrom, validTo] => do
      some ⟨← required (Id.ofJson _) id, ← required ProjectId.ofJson project,
        ← required Json.text? key, ← required Json.text? value, ← required ValueKind.ofJson kind,
        ← optional Json.text? description, ← required (Id.ofJson _) validFrom,
        ← optional (Id.ofJson _) validTo⟩
  | _ => none

end ValueRow

namespace Pin

def fields : List String :=
  ["id", "project_id", "config_id", "env_name", "blueprint_id", "created_by", "created_at",
   "last_updated_by", "last_updated_at"]

def toJson (p : Pin) : Json :=
  .record ([("id", p.id.toJson), ("project_id", p.project.toJson), ("config_id", p.config.toJson),
    ("env_name", .text p.env), ("blueprint_id", p.blueprint.toJson)] ++ p.audit.members)

def ofJson (j : Json) : Option Pin :=
  match j.slots fields with
  | some [id, project, config, env, blueprint, createdBy, createdAt, updatedBy, updatedAt] => do
      some ⟨← required (Id.ofJson _) id, ← required ProjectId.ofJson project,
        ← required (Id.ofJson _) config, ← required Json.text? env,
        ← required (Id.ofJson _) blueprint, ← Audit.ofSlots createdBy createdAt updatedBy updatedAt⟩
  | _ => none

end Pin

namespace BlueprintView

def fields : List String :=
  ["id", "project_id", "type", "description", "envs", "created_by", "created_at",
   "last_updated_by", "last_updated_at", "values"]

def toJson (v : BlueprintView) : Json :=
  .record ([("id", v.blueprint.id.toJson), ("project_id", v.blueprint.project.toJson),
      ("type", v.blueprint.kind.toJson)] ++
    present "description" .text v.blueprint.description ++
    presentList "envs" .text v.envs ++ v.blueprint.audit.members ++
    presentList "values" ValueRow.toJson v.values)

def ofJson (j : Json) : Option BlueprintView :=
  match j.slots fields with
  | some [id, project, kind, description, envs, createdBy, createdAt, updatedBy, updatedAt,
      values] => do
      let blueprint : Blueprint :=
        ⟨← required (Id.ofJson _) id, ← required ProjectId.ofJson project,
          ← required BlueprintKind.ofJson kind, ← optional Json.text? description,
          ← Audit.ofSlots createdBy createdAt updatedBy updatedAt⟩
      some ⟨blueprint, ← defaulted [] (listOf Json.text?) envs,
        ← defaulted [] (listOf ValueRow.ofJson) values⟩
  | _ => none

end BlueprintView

namespace Blueprint

def bare (b : Blueprint) : BlueprintView := ⟨b, [], []⟩

def toJson (b : Blueprint) : Json := b.bare.toJson

end Blueprint

namespace HistoryPage

def fields : List String := ["page", "size", "total", "content"]

def toJson (p : HistoryPage) : Json :=
  .record [("page", .nat p.page), ("size", .nat p.size), ("total", .nat p.total),
    ("content", .arr (p.content.map BlueprintView.toJson))]

def ofJson (j : Json) : Option HistoryPage :=
  match j.slots fields with
  | some [page, size, total, content] => do
      some ⟨← required (Json.natUpTo? Json.maxWord) page,
        ← required (Json.natUpTo? Json.maxWord) size,
        ← required (Json.natUpTo? Json.maxLong) total,
        ← required (listOf BlueprintView.ofJson) content⟩
  | _ => none

end HistoryPage

end ConfigTimeline
