import ConfigTimeline.Proofs.Record.Wire
import ConfigTimeline.Request.Wire

/-!
Requests are read back from their JSON as stored records are, and all of them from the texts that
their JSON is written as.
-/

namespace ConfigTimeline

open Json (slots_record)

theorem NewValue.ofJson_toJson (v : NewValue) : ofJson v.toJson = some v := by
  have hslots : v.toJson.slots fields = some [some (.text v.key), some (.text v.value),
      some v.kind.toJson, v.description.map .text] := by
    obtain ⟨key, value, kind, description⟩ := v
    refine slots_record (by decide) rfl ?_
    cases description <;> rfl
  simp [ofJson, hslots]

theorem Draft.ofJson_toJson (d : Draft) : ofJson d.toJson = some d := by
  have hslots : d.toJson.slots fields = some [d.id.map Id.toJson, some d.kind.toJson,
      d.description.map .text, some (.arr (d.values.map NewValue.toJson))] := by
    obtain ⟨id, kind, description, values⟩ := d
    refine slots_record (by decide) rfl ?_
    cases id <;> cases description <;> rfl
  have hvalues : Json.listOf NewValue.ofJson (.arr (d.values.map NewValue.toJson)) = some d.values :=
    Json.listOf_map fun v _ => v.ofJson_toJson
  simp [ofJson, hslots, hvalues]

theorem CreateRequest.ofJson_toJson (r : CreateRequest) : ofJson r.toJson = some r := by
  have hslots : r.toJson.slots fields = some [r.project.map ProjectId.toJson,
      r.projectName.map .text, r.config.map Id.toJson, some r.draft.toJson] := by
    obtain ⟨project, projectName, config, draft⟩ := r
    refine slots_record (by decide) rfl ?_
    cases project <;> cases projectName <;> cases config <;> rfl
  simp [ofJson, hslots, r.draft.ofJson_toJson]

theorem PinTarget.ofJson_toJson (t : PinTarget) : ofJson t.toJson = some t := by
  have hslots : t.toJson.slots fields = some [some (.text t.env), some t.blueprint.toJson] :=
    slots_record (by decide) rfl rfl
  simp [ofJson, hslots]

theorem PinRequest.ofJson_toJson (r : PinRequest) : ofJson r.toJson = some r := by
  have hslots : r.toJson.slots fields = some [some r.project.toJson,
      some (.arr (r.targets.map PinTarget.toJson))] :=
    slots_record (by decide) rfl rfl
  have htargets : Json.listOf PinTarget.ofJson (.arr (r.targets.map PinTarget.toJson)) =
      some r.targets :=
    Json.listOf_map fun t _ => t.ofJson_toJson
  simp [ofJson, hslots, htargets]

/-- Both texts of a value, on one line and over several, are read back as the value. -/
structure ReadsBack {α : Type} (toJson : α → Json) (ofJson : Json → Option α) (a : α) : Prop where
  line : (Json.parse (toJson a).render).bind ofJson = some a
  lines : (Json.parse (toJson a).renderDeep).bind ofJson = some a

theorem readsBack_of {α : Type} {toJson : α → Json} {ofJson : Json → Option α} {a : α}
    (h : ofJson (toJson a) = some a) : ReadsBack toJson ofJson a where
  line := by rw [Json.parse_render, Option.bind_some, h]
  lines := by rw [Json.parse_renderDeep, Option.bind_some, h]

/-- Every record and request is read back from its texts, whatever characters it holds. So no two
have one text, not even two that differ in that a text is absent from one and empty in the other.
Points in time have to be of years with four digits, as in any text of the format. -/
theorem texts_read_back :
    (∀ p : Project, ReadsBack Project.toJson Project.ofJson p) ∧
    (∀ c : Config, c.audit.Dated → ReadsBack Config.toJson Config.ofJson c) ∧
    (∀ v : BlueprintView, v.blueprint.audit.Dated →
      ReadsBack BlueprintView.toJson BlueprintView.ofJson v) ∧
    (∀ v : ValueRow, ReadsBack ValueRow.toJson ValueRow.ofJson v) ∧
    (∀ p : Pin, p.audit.Dated → ReadsBack Pin.toJson Pin.ofJson p) ∧
    (∀ p : HistoryPage, p.InRange → ReadsBack HistoryPage.toJson HistoryPage.ofJson p) ∧
    (∀ i : Identity, ReadsBack Identity.toJson Identity.ofJson i) ∧
    (∀ v : NewValue, ReadsBack NewValue.toJson NewValue.ofJson v) ∧
    (∀ d : Draft, ReadsBack Draft.toJson Draft.ofJson d) ∧
    (∀ r : CreateRequest, ReadsBack CreateRequest.toJson CreateRequest.ofJson r) ∧
    (∀ t : PinTarget, ReadsBack PinTarget.toJson PinTarget.ofJson t) ∧
    ∀ r : PinRequest, ReadsBack PinRequest.toJson PinRequest.ofJson r :=
  ⟨fun p => readsBack_of p.ofJson_toJson, fun _ h => readsBack_of (Config.ofJson_toJson h),
    fun _ h => readsBack_of (BlueprintView.ofJson_toJson h), fun v => readsBack_of v.ofJson_toJson,
    fun _ h => readsBack_of (Pin.ofJson_toJson h),
    fun _ h => readsBack_of (HistoryPage.ofJson_toJson h),
    fun i => readsBack_of i.ofJson_toJson, fun v => readsBack_of v.ofJson_toJson,
    fun d => readsBack_of d.ofJson_toJson, fun r => readsBack_of r.ofJson_toJson,
    fun t => readsBack_of t.ofJson_toJson, fun r => readsBack_of r.ofJson_toJson⟩

/-- Records of a leap second in the last year of four digits, with quotation marks, a control
character and empty texts. -/
theorem texts_read_back_leap :
    let leap : Instant :=
      ⟨⟨9999, 12, 31, by decide, by decide, by decide, by decide⟩,
        ⟨23, 59, 59, 1999999999, by decide, by decide, by decide, by decide, by decide⟩⟩
    let audit : Audit := ⟨"\"\\\u0001", leap, "", .ofUnix 1483228800 120000⟩
    let config : Config := ⟨⟨.ofNat 1⟩, .ofNat 2, audit⟩
    let mask : Blueprint := ⟨⟨.ofNat 3⟩, .ofNat 2, .mask, some "", audit⟩
    let value : ValueRow := ⟨⟨.ofNat 4⟩, .ofNat 2, "", "\n", .prompt, none, mask.id, none⟩
    let view : BlueprintView := ⟨mask, ["", "prod"], [value]⟩
    let pin : Pin := ⟨⟨.ofNat 5⟩, .ofNat 2, config.id, "prod", mask.id, audit⟩
    let page : HistoryPage := ⟨4294967295, 1, 18446744073709551615, [view, mask.bare]⟩
    ReadsBack Config.toJson Config.ofJson config ∧
      ReadsBack BlueprintView.toJson BlueprintView.ofJson view ∧
      ReadsBack Pin.toJson Pin.ofJson pin ∧
      ReadsBack HistoryPage.toJson HistoryPage.ofJson page := by
  intro leap audit config mask value view pin page
  have hdated : audit.Dated := by decide
  have hcontent : ∀ v ∈ [view, mask.bare], v.blueprint.audit.Dated := by
    simpa using ⟨hdated, hdated⟩
  have hpage : page.InRange := ⟨by decide, by decide, by decide, hcontent⟩
  exact ⟨texts_read_back.2.1 config hdated, texts_read_back.2.2.1 view hdated,
    texts_read_back.2.2.2.2.1 pin hdated, texts_read_back.2.2.2.2.2.1 page hpage⟩

end ConfigTimeline
