import ConfigTimeline.Json.Value

/-!
The strings inside a value: those it consists of, in the order in which they are written, and the
value with other strings in their places. The names of members are not among them. `texts_mapTexts`
says that changing strings changes what they are and neither their order nor their number.
-/

namespace ConfigTimeline.Json

mutual

def texts : Json → List String
  | .str (some s) => [s]
  | .arr items => textsItems items
  | .obj members => textsMembers members
  | .null | .bool _ | .num _ | .str none => []

def textsItems : List Json → List String
  | [] => []
  | item :: items => texts item ++ textsItems items

def textsMembers : List (Literal × Json) → List String
  | [] => []
  | (_, item) :: members => texts item ++ textsMembers members

end

mutual

/-- A value with every string changed. The change is told the name of the member that holds the
string, directly or in arrays; there is none outside of objects. -/
def mapTexts (change : Literal → String → String) (name : Literal) : Json → Json
  | .str (some s) => .str (some (change name s))
  | .arr items => .arr (mapItems change name items)
  | .obj members => .obj (mapMembers change members)
  | .null => .null
  | .bool b => .bool b
  | .num n => .num n
  | .str none => .str none

def mapItems (change : Literal → String → String) (name : Literal) : List Json → List Json
  | [] => []
  | item :: items => mapTexts change name item :: mapItems change name items

def mapMembers (change : Literal → String → String) :
    List (Literal × Json) → List (Literal × Json)
  | [] => []
  | (name, item) :: members => (name, mapTexts change name item) :: mapMembers change members

end

mutual

/-- The strings of a changed value are the changed strings, if the change looks at no name. -/
theorem texts_mapTexts (change : String → String) (name : Literal) :
    ∀ j : Json, (mapTexts (fun _ => change) name j).texts = j.texts.map change
  | .str (some s) => by simp [mapTexts, texts]
  | .arr items => by simp [mapTexts, texts, textsItems_mapItems change name items]
  | .obj members => by simp [mapTexts, texts, textsMembers_mapMembers change members]
  | .null => by simp [mapTexts, texts]
  | .bool b => by simp [mapTexts, texts]
  | .num n => by simp [mapTexts, texts]
  | .str none => by simp [mapTexts, texts]

theorem textsItems_mapItems (change : String → String) (name : Literal) :
    ∀ items : List Json,
      textsItems (mapItems (fun _ => change) name items) = (textsItems items).map change
  | [] => by simp [mapItems, textsItems]
  | item :: items => by
      simp [mapItems, textsItems, texts_mapTexts change name item,
        textsItems_mapItems change name items]

theorem textsMembers_mapMembers (change : String → String) :
    ∀ members : List (Literal × Json),
      textsMembers (mapMembers (fun _ => change) members) = (textsMembers members).map change
  | [] => by simp [mapMembers, textsMembers]
  | (name, item) :: members => by
      simp [mapMembers, textsMembers, texts_mapTexts change name item,
        textsMembers_mapMembers change members]

end

end ConfigTimeline.Json
