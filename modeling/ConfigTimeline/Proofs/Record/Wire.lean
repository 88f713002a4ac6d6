import Mathlib.Data.List.Nodup
import ConfigTimeline.Proofs.Json.RoundTrip
import ConfigTimeline.Proofs.Store.Cells
import ConfigTimeline.Proofs.Time.ShortText
import ConfigTimeline.Record.Wire

/-!
Stored records are read back from their JSON. A record is written member by member, in order of
declaration and without the fields that have nothing to say; reading gives one slot per field, and
an empty slot means just what was left out. A field with an empty text is written, and so is not
taken for an absent one.
-/

namespace ConfigTimeline

namespace Json

section Slots

variable {fields : List String} {slots : List (Option Json)}

/-- The members of a record whose fields have the given slots: those that are not empty. -/
def membersOf (fields : List String) (slots : List (Option Json)) : List (String × Json) :=
  (fields.zip slots).filterMap fun (name, slot) => slot.map (name, ·)

theorem names_membersOf (fields : List String) (slots : List (Option Json)) :
    ((membersOf fields slots).map (·.1)).Sublist fields := by
  induction fields generalizing slots with
  | nil => exact List.Sublist.refl []
  | cons name fields ih =>
      cases slots with
      | nil => simp [membersOf]
      | cons slot slots =>
          cases slot with
          | none => exact (ih slots).cons name
          | some j => exact (ih slots).cons_cons name

theorem find?_membersOf_of_not_mem {name : String} (h : name ∉ fields) :
    (membersOf fields slots).find? (·.1 == name) = none := by
  rw [List.find?_eq_none]
  intro m hm hname
  have hmem := (names_membersOf fields slots).subset (List.mem_map_of_mem hm)
  rw [beq_iff_eq.mp hname] at hmem
  exact h hmem

/-- A field is found in its own slot. -/
theorem find?_membersOf (hnodup : fields.Nodup) (hlength : slots.length = fields.length) :
    fields.map (fun name => ((membersOf fields slots).find? (·.1 == name)).map (·.2)) = slots := by
  induction fields generalizing slots with
  | nil => exact (List.length_eq_zero_iff.mp hlength).symm
  | cons name fields ih =>
      obtain ⟨slot, slots, rfl⟩ := List.exists_cons_of_length_eq_add_one hlength
      obtain ⟨hname, hnodup⟩ := List.nodup_cons.mp hnodup
      have hrest := ih hnodup (Nat.succ.inj hlength)
      rw [List.map_cons]
      cases slot with
      | none =>
          have hskip : membersOf (name :: fields) (none :: slots) = membersOf fields slots := rfl
          rw [hskip, find?_membersOf_of_not_mem hname, hrest]
          rfl
      | some j =>
          have hfirst : membersOf (name :: fields) (some j :: slots) =
              (name, j) :: membersOf fields slots := rfl
          have hown : ((name, j) :: membersOf fields slots).find? (·.1 == name) = some (name, j) :=
            List.find?_cons_of_pos (by simp)
          have hothers : fields.map (fun other =>
              (((name, j) :: membersOf fields slots).find? (·.1 == other)).map (·.2)) = slots := by
            refine Eq.trans (List.map_congr_left ?_) hrest
            intro other hother
            have hne : name ≠ other := by
              rintro rfl
              exact hname hother
            rw [List.find?_cons_of_neg (by simpa using hne)]
          rw [hfirst, hown, hothers]
          rfl

/-- A written record is read into the slots of its fields. -/
theorem slots_record {members : List (String × Json)} (hnodup : fields.Nodup)
    (hlength : slots.length = fields.length) (hmembers : members = membersOf fields slots) :
    (record members).slots fields = some slots := by
  have hnames : (members.map (·.1)).Nodup := by
    rw [hmembers]
    exact hnodup.sublist (names_membersOf fields slots)
  have hrecord : record members = .obj (members.map (Prod.map some id)) := rfl
  have hlook (name : String) :
      (members.map (Prod.map (some : String → Literal) id)).find? (·.1 == some name) =
        (members.find? (·.1 == name)).map (Prod.map some id) := by
    rw [List.find?_map]
    rfl
  have honce (name : String) :
      ((members.map (Prod.map (some : String → Literal) id)).filter
        (·.1 == some name)).length ≤ 1 := by
    have hcount := List.nodup_iff_count_le_one.mp hnames name
    rw [List.count_eq_countP, List.countP_map] at hcount
    rw [← List.countP_eq_length_filter, List.countP_map]
    exact hcount
  have hall : (members.map (Prod.map (some : String → Literal) id)).all (·.1.isSome) = true := by
    rw [List.all_map]
    exact List.all_eq_true.mpr fun _ _ => rfl
  have hfound := find?_membersOf hnodup hlength
  rw [← hmembers] at hfound
  rw [hrecord, Json.slots, if_pos]
  · simp only [hlook, Option.map_map]
    exact congrArg some hfound
  · refine ⟨hall, List.all_eq_true.mpr ?_⟩
    intro name _
    exact decide_eq_true (honce name)

end Slots

section Fields

variable {α : Type} {read : Json → Option α} {write : α → Json}

@[simp] theorem required_some (read : Json → Option α) (j : Json) : required read (some j) = read j :=
  rfl

/-- A field that is left out if it has no value is read back, since no value is written as null. -/
theorem optional_map (hread : ∀ a, read (write a) = some a) (hnull : ∀ a, write a ≠ .null)
    (o : Option α) : optional read (o.map write) = some o := by
  cases o with
  | none => rfl
  | some a =>
      have hvalue : optional read (some (write a)) = (read (write a)).map some :=
        optional.eq_3 read _ (hnull a)
      rw [Option.map_some, hvalue, hread, Option.map_some]

theorem listOf_map {items : List α} (hread : ∀ a ∈ items, read (write a) = some a) :
    listOf read (.arr (items.map write)) = some items := by
  have hmap : (items.map write).mapM read = some items := by
    induction items with
    | nil => rfl
    | cons a items ih =>
        have hfirst := hread a List.mem_cons_self
        have hrest := ih fun b hb => hread b (List.mem_cons_of_mem a hb)
        simp [hfirst, hrest]
  exact hmap

/-- The slot of a list that is left out if it is empty. -/
def listSlot (write : α → Json) : List α → Option Json
  | [] => none
  | items => some (.arr (items.map write))

theorem defaulted_listSlot {items : List α} (hread : ∀ a ∈ items, read (write a) = some a) :
    defaulted [] (listOf read) (listSlot write items) = some items := by
  cases items with
  | nil => rfl
  | cons a items => exact listOf_map hread

@[simp] theorem text?_text (s : String) : (text s).text? = some s := rfl

theorem natUpTo?_nat {bound n : Nat} (h : n ≤ bound) : natUpTo? bound (nat n) = some n := by
  have hrange : 0 ≤ (n : Int) ∧ (n : Int) ≤ bound := ⟨Int.natCast_nonneg n, Int.ofNat_le.mpr h⟩
  rw [nat, natUpTo?, if_pos hrange, Int.toNat_natCast]

@[simp] theorem optional_text (o : Option String) : optional text? (o.map text) = some o :=
  optional_map text?_text (fun _ h => by cases h) o

end Fields

end Json

open Json (membersOf slots_record listSlot)

@[simp] theorem Id.ofJson_toJson {kind : IdKind} (id : Id kind) :
    ofJson kind id.toJson = some id := by
  rw [ofJson, toJson, Json.text?_text, Option.bind_some, parse_text]
  rfl

@[simp] theorem Id.optional_toJson {kind : IdKind} (o : Option (Id kind)) :
    Json.optional (ofJson kind) (o.map toJson) = some o :=
  Json.optional_map ofJson_toJson (fun _ h => by cases h) o

@[simp] theorem ProjectId.ofJson_toJson (p : ProjectId) : ofJson p.toJson = some p := by
  rw [ofJson, toJson, Json.text?_text, Option.bind_some, parse_text]
  rfl

@[simp] theorem ProjectId.optional_toJson (o : Option ProjectId) :
    Json.optional ofJson (o.map toJson) = some o :=
  Json.optional_map ofJson_toJson (fun _ h => by cases h) o

theorem Instant.ofJson_toJson {t : Instant} (h : t.FourDigitYear) : ofJson t.toJson = some t := by
  rw [ofJson, toJson, Json.text?_text, Option.bind_some, parseLenient_text h]
  rfl

@[simp] theorem BlueprintKind.ofJson_toJson (kind : BlueprintKind) : ofJson kind.toJson = some kind :=
  ofText?_text kind

@[simp] theorem ValueKind.ofJson_toJson (kind : ValueKind) : ofJson kind.toJson = some kind :=
  ofText?_text kind

theorem Audit.ofSlots_members {a : Audit} (h : a.Dated) :
    ofSlots (some (.text a.createdBy)) (some a.createdAt.toJson) (some (.text a.updatedBy))
      (some a.updatedAt.toJson) = some a := by
  have hcreated := Instant.ofJson_toJson h.1
  have hupdated := Instant.ofJson_toJson h.2
  simp [ofSlots, hcreated, hupdated]

theorem Identity.ofJson_toJson (i : Identity) : ofJson i.toJson = some i := by
  have hslots : i.toJson.slots fields = some [some (.text i.workspace), some (.text i.user)] :=
    slots_record (by decide) rfl rfl
  simp [ofJson, hslots]

theorem Project.ofJson_toJson (p : Project) : ofJson p.toJson = some p := by
  have hslots : p.toJson.slots fields = some [some p.id.toJson, some (.text p.name)] :=
    slots_record (by decide) rfl rfl
  simp [ofJson, hslots]

theorem Config.ofJson_toJson {c : Config} (h : c.audit.Dated) : ofJson c.toJson = some c := by
  have hslots : c.toJson.slots fields = some [some c.id.toJson, some c.project.toJson,
      some (.text c.audit.createdBy), some c.audit.createdAt.toJson,
      some (.text c.audit.updatedBy), some c.audit.updatedAt.toJson] :=
    slots_record (by decide) rfl rfl
  simp [ofJson, hslots, Audit.ofSlots_members h]

theorem ValueRow.ofJson_toJson (v : ValueRow) : ofJson v.toJson = some v := by
  have hslots : v.toJson.slots fields = some [some v.id.toJson, some v.project.toJson,
      some (.text v.key), some (.text v.value), some v.kind.toJson, v.description.map .text,
      some v.validFrom.toJson, v.validTo.map Id.toJson] := by
    obtain ⟨id, project, key, value, kind, description, validFrom, validTo⟩ := v
    refine slots_record (by decide) rfl ?_
    cases description <;> cases validTo <;> rfl
  simp [ofJson, hslots]

theorem Pin.ofJson_toJson {p : Pin} (h : p.audit.Dated) : ofJson p.toJson = some p := by
  have hslots : p.toJson.slots fields = some [some p.id.toJson, some p.project.toJson,
      some p.config.toJson, some (.text p.env), some p.blueprint.toJson,
      some (.text p.audit.createdBy), some p.audit.createdAt.toJson,
      some (.text p.audit.updatedBy), some p.audit.updatedAt.toJson] :=
    slots_record (by decide) rfl rfl
  simp [ofJson, hslots, Audit.ofSlots_members h]

/-- A blueprint with any values and environments. Without any of them the lists are left out. -/
theorem BlueprintView.ofJson_toJson {v : BlueprintView} (h : v.blueprint.audit.Dated) :
    ofJson v.toJson = some v := by
  have hslots : v.toJson.slots fields = some [some v.blueprint.id.toJson,
      some v.blueprint.project.toJson, some v.blueprint.kind.toJson,
      v.blueprint.description.map .text, listSlot .text v.envs,
      some (.text v.blueprint.audit.createdBy), some v.blueprint.audit.createdAt.toJson,
      some (.text v.blueprint.audit.updatedBy), some v.blueprint.audit.updatedAt.toJson,
      listSlot ValueRow.toJson v.values] := by
    obtain ⟨⟨id, project, kind, description, audit⟩, envs, values⟩ := v
    refine slots_record (by decide) rfl ?_
    cases description <;> cases envs <;> cases values <;> rfl
  have henvs : Json.defaulted [] (Json.listOf Json.text?) (listSlot .text v.envs) = some v.envs :=
    Json.defaulted_listSlot fun s _ => Json.text?_text s
  have hvalues : Json.defaulted [] (Json.listOf ValueRow.ofJson)
      (listSlot ValueRow.toJson v.values) = some v.values :=
    Json.defaulted_listSlot fun row _ => row.ofJson_toJson
  simp [ofJson, hslots, Audit.ofSlots_members h, henvs, hvalues]

/-- The numbers of a page are words of the machine, and all its blueprints are dated. -/
structure HistoryPage.InRange (p : HistoryPage) : Prop where
  page : p.page ≤ Json.maxWord
  size : p.size ≤ Json.maxWord
  total : p.total ≤ Json.maxLong
  content : ∀ v ∈ p.content, v.blueprint.audit.Dated

theorem HistoryPage.ofJson_toJson {p : HistoryPage} (h : p.InRange) : ofJson p.toJson = some p := by
  have hslots : p.toJson.slots fields = some [some (.nat p.page), some (.nat p.size),
      some (.nat p.total), some (.arr (p.content.map BlueprintView.toJson))] :=
    slots_record (by decide) rfl rfl
  have hcontent : Json.listOf BlueprintView.ofJson (.arr (p.content.map BlueprintView.toJson)) =
      some p.content :=
    Json.listOf_map fun v hv => v.ofJson_toJson (h.content v hv)
  simp [ofJson, hslots, Json.natUpTo?_nat h.page, Json.natUpTo?_nat h.size,
    Json.natUpTo?_nat h.total, hcontent]

end ConfigTimeline
