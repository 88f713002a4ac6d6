import ConfigTimeline.Record.Wire
import ConfigTimeline.Request.Basic

/-!
The JSON form of requests, under the same rules as that of stored records. Reading a request does
not validate it.
-/

namespace ConfigTimeline

open Json (required optional present listOf)

namespace NewValue

def fields : List String := ["key", "value", "type", "description"]

def toJson (v : NewValue) : Json :=
  .record ([("key", .text v.key), ("value", .text v.value), ("type", v.kind.toJson)] ++
    present "description" .text v.description)

def ofJson (j : Json) : Option NewValue :=
  match j.slots fields with
  | some [key, value, kind, description] => do
      some ⟨← required Json.text? key, ← required Json.text? value,
        ← required ValueKind.ofJson kind, ← optional Json.text? description⟩
  | _ => none

end NewValue

namespace Draft

def fields : List String := ["id", "type", "description", "values"]

def toJson (d : Draft) : Json :=
  .record (present "id" Id.toJson d.id ++ [("type", d.kind.toJson)] ++
    present "description" .text d.description ++ [("values", .arr (d.values.map NewValue.toJson))])

def ofJson (j : Json) : Option Draft :=
  match j.slots fields with
  | some [id, kind, description, values] => do
      some ⟨← optional (Id.ofJson _) id, ← required BlueprintKind.ofJson kind,
        ← optional Json.text? description, ← required (listOf NewValue.ofJson) values⟩
  | _ => none

end Draft

namespace CreateRequest

def fields : List String := ["project_id", "project_name", "id", "blueprint"]

def toJson (r : CreateRequest) : Json :=
  .record (present "project_id" ProjectId.toJson r.project ++
    present "project_name" .text r.projectName ++ present "id" Id.toJson r.config ++
    [("blueprint", r.draft.toJson)])

def ofJson (j : Json) : Option CreateRequest :=
  match j.slots fields with
  | some [project, projectName, config, draft] => do
      some ⟨← optional ProjectId.ofJson project, ← optional Json.text? projectName,
        ← optional (Id.ofJson _) config, ← required Draft.ofJson draft⟩
  | _ => none

end CreateRequest

namespace PinTarget

def fields : List String := ["env_name", "blueprint_id"]

def toJson (t : PinTarget) : Json :=
  .record [("env_name", .text t.env), ("blueprint_id", t.blueprint.toJson)]

def ofJson (j : Json) : Option PinTarget :=
  match j.slots fields with
  | some [env, blueprint] => do
      some ⟨← required Json.text? env, ← required (Id.ofJson _) blueprint⟩
  | _ => none

end PinTarget

namespace PinRequest

def fields : List String := ["project_id", "envs"]

def toJson (r : PinRequest) : Json :=
  .record [("project_id", r.project.toJson), ("envs", .arr (r.targets.map PinTarget.toJson))]

def ofJson (j : Json) : Option PinRequest :=
  match j.slots fields with
  | some [project, targets] => do
      some ⟨← required ProjectId.ofJson project, ← required (listOf PinTarget.ofJson) targets⟩
  | _ => none

end PinRequest

namespace PageRequest

def fields : List String := ["page", "size"]

def toJson (r : PageRequest) : Json := .record [("page", .nat r.page), ("size", .nat r.size)]

def ofJson (j : Json) : Option PageRequest :=
  match j.slots fields with
  | some [page, size] => do
      some ⟨← required (Json.natUpTo? Json.maxWord) page,
        ← required (Json.natUpTo? Json.maxWord) size⟩
  | _ => none

end PageRequest

end ConfigTimeline
