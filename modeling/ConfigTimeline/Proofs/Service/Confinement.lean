import ConfigTimeline.Proofs.Service.Targets
import ConfigTimeline.Proofs.Store.Replay
import ConfigTimeline.Service.Versioning

/-!
Where the actions that write make their calls: in the workspace of the caller, and about the project
that is written to. Only an id is looked up in whatever project it may be: that of a config or of a
blueprint that the caller has chosen, to see whether it is taken.
-/

namespace ConfigTimeline

namespace Versioning

variable {who : Identity} {now : Instant} {project : ProjectId}

def addConfig (who : Identity) (now : Instant) (project : ProjectId) (id : ConfigId) :
    Action Config := do
  let config : Config := ⟨id, project, .made who.user now⟩
  Action.ask who.workspace (.insertConfig config)
  pure config

section Config

variable {P : Call → Prop}

theorem makes_addConfig_of {id : ConfigId} (h : P (.insertConfig ⟨id, project, .made who.user now⟩)) :
    (addConfig who now project id).Makes who.workspace P :=
  Program.makes_bind (Program.makes_ask h) fun _ => trivial

theorem makes_ensureConfig_of (chosen : Option ConfigId) (hstored : P (.configOf project))
    (htaken : ∀ id, P (.configById id))
    (hadd : ∀ id, P (.insertConfig ⟨id, project, .made who.user now⟩)) :
    (ensureConfig who now project chosen).Makes who.workspace P := by
  refine Program.makes_bind (Program.makes_ask hstored) fun stored => ?_
  cases stored with
  | some config => trivial
  | none =>
      cases chosen with
      | none =>
          exact Program.makes_bind (fun u => trivial) fun u => makes_addConfig_of (hadd ⟨u⟩)
      | some id =>
          refine Program.makes_bind (Program.makes_ask (htaken id)) fun taken => ?_
          cases taken with
          | some other => trivial
          | none => exact makes_addConfig_of (hadd id)

end Config

theorem makes_addConfig (id : ConfigId) :
    (addConfig who now project id).Makes who.workspace (Call.PlainOf project) :=
  makes_addConfig_of ⟨.of_eq rfl rfl rfl, Or.inl rfl⟩

theorem makes_ensureConfig (chosen : Option ConfigId) :
    (ensureConfig who now project chosen).Makes who.workspace (Call.OfProject project) :=
  makes_ensureConfig_of chosen (.of_eq rfl rfl rfl)
    (fun _ => ⟨List.forall_mem_nil _, rfl, List.nodup_nil⟩) fun _ => .of_eq rfl rfl rfl

theorem makes_assignId_of {P : Call → Prop} {workspace : String} {now : Instant}
    {project : ProjectId} {draft : Draft}
    (htaken : ∀ id, draft.id = some id → P (.blueprintById id))
    (hlatest : P (.latest project .blueprint)) :
    (assignId workspace now project draft).Makes workspace P := by
  have hoffered : (offeredId workspace now draft).Makes workspace P := by
    unfold offeredId
    cases hid : draft.id with
    | none => exact fun u => trivial
    | some id =>
        dsimp only
        split
        · trivial
        · refine Program.makes_bind (Program.makes_ask (htaken id hid)) fun taken => ?_
          cases taken <;> trivial
  refine Program.makes_bind hoffered fun id => ?_
  cases draft.kind with
  | mask => trivial
  | blueprint =>
      refine Program.makes_bind (Program.makes_ask hlatest) fun latest => ?_
      cases latest with
      | none => trivial
      | some latest =>
          dsimp only
          split
          · trivial
          · split
            · trivial
            · split <;> trivial

/-- A call that is about a project, and looks up nothing but the blueprint of the caller's choice. -/
def Assigns (project : ProjectId) (draft : Draft) (c : Call) : Prop :=
  c.OfProject project ∧ ∀ x ∈ c.named, ∃ id, draft.id = some id ∧ x = (.blueprints, id.text)

theorem makes_assignId (workspace : String) (now : Instant) (project : ProjectId) (draft : Draft) :
    (assignId workspace now project draft).Makes workspace (Assigns project draft) := by
  refine makes_assignId_of ?_ ⟨.of_eq rfl rfl rfl, List.forall_mem_nil _⟩
  intro id hid
  exact ⟨⟨List.forall_mem_nil _, rfl, List.nodup_nil⟩, List.forall_mem_singleton.mpr ⟨id, hid, rfl⟩⟩

/-- What is left to be done once a draft has its config and its id. -/
def appendAs (who : Identity) (now : Instant) (project : ProjectId) (draft : Draft)
    (config : Config) (id : BlueprintId) : Action BlueprintView := do
  let blueprint : Blueprint := ⟨id, project, draft.kind, draft.description, .made who.user now⟩
  closeReplaced who.workspace project draft id
  Action.ask who.workspace (.insertBlueprint config.id blueprint)
  let rows ← Program.freshFor (rowOf project id (rowsEnd draft id)) draft.values
  Action.ask who.workspace (.insertValues config.id rows)
  pure ⟨blueprint, [], rows⟩

theorem append_eq (who : Identity) (now : Instant) (project : ProjectId) (chosen : Option ConfigId)
    (draft : Draft) :
    append who now project chosen draft =
      ensureConfig who now project chosen >>= fun config =>
        assignId who.workspace now project draft >>= appendAs who now project draft config := rfl

theorem makes_appendAs_of {P : Call → Prop} {draft : Draft} {config : Config} {id : BlueprintId}
    (hclose : P (.closeValues project id draft.keys))
    (hblueprint : P (.insertBlueprint config.id
      ⟨id, project, draft.kind, draft.description, .made who.user now⟩))
    (hvalues : ∀ rows : List ValueRow, (∀ row ∈ rows, row.project = project) →
      P (.insertValues config.id rows)) :
    (appendAs who now project draft config id).Makes who.workspace P := by
  have hreplaced : (closeReplaced who.workspace project draft id).Makes who.workspace P := by
    unfold closeReplaced
    cases draft.kind with
    | mask => trivial
    | blueprint => exact Program.makes_bind (Program.makes_ask hclose) fun _ => trivial
  refine Program.makes_bind hreplaced fun _ => ?_
  refine Program.makes_bind (Program.makes_ask hblueprint) fun _ => ?_
  refine Program.makes_bind_of_yields (Program.makes_freshFor _ _) (Program.yields_freshFor _ _)
    fun rows hrows => ?_
  refine Program.makes_bind (Program.makes_ask (hvalues rows ?_)) fun _ => trivial
  intro row hrow
  obtain ⟨u, v, rfl⟩ := hrows row hrow
  rfl

theorem makes_appendAs (draft : Draft) (config : Config) (id : BlueprintId) :
    (appendAs who now project draft config id).Makes who.workspace (Call.PlainOf project) :=
  makes_appendAs_of ⟨.of_eq rfl rfl rfl, Or.inl rfl⟩ ⟨.of_eq rfl rfl rfl, Or.inl rfl⟩
    fun _ hrows => ⟨⟨List.forall_mem_map.mpr hrows, rfl, List.nodup_nil⟩, Or.inl rfl⟩

/-- Appending a draft makes calls about the project alone. -/
theorem makes_append (who : Identity) (now : Instant) (project : ProjectId)
    (chosen : Option ConfigId) (draft : Draft) :
    (append who now project chosen draft).Makes who.workspace (Call.OfProject project) := by
  rw [append_eq]
  refine Program.makes_bind (makes_ensureConfig chosen) fun config => ?_
  have hassign := makes_assignId who.workspace now project draft
  refine Program.makes_bind (hassign.mono fun _ hc => hc.1) fun id => ?_
  exact (makes_appendAs draft config id).mono fun _ hc => hc.1

end Versioning

namespace Pinning

theorem makes_checkTargets (policy : MaskPolicy) (workspace : String) (r : PinRequest) :
    (checkTargets policy workspace r).Makes workspace (Call.PlainOf r.project) := by
  have hkinds : Call.PlainOf r.project (.kinds r.project r.blueprints) :=
    ⟨⟨List.forall_mem_singleton.mpr rfl, rfl, r.nodup_blueprints⟩, Or.inr rfl⟩
  refine Program.makes_bind (Program.makes_ask hkinds) fun kinds => ?_
  split
  · trivial
  · split <;> trivial

section Pins

variable {P : Call → Prop} {who : Identity} {now : Instant} {project : ProjectId}

theorem makes_insertNew_of {config : ConfigId} {targets : List PinTarget}
    (h : ∀ pins : List Pin, (∀ pin ∈ pins, pin.project = project ∧ pin.audit = .made who.user now) →
      P (.insertPins pins)) :
    (insertNew who now project config targets).Makes who.workspace P := by
  cases targets with
  | nil => trivial
  | cons target rest =>
      refine Program.makes_bind_of_yields (Program.makes_freshFor _ _) (Program.yields_freshFor _ _)
        fun pins hpins => ?_
      refine Program.makes_ask (h pins ?_)
      intro pin hpin
      obtain ⟨u, t, rfl⟩ := hpins pin hpin
      exact ⟨rfl, rfl⟩

theorem makes_moveStored_of {targets : List PinTarget}
    (h : P (.updatePins project who.user now targets)) :
    (moveStored who now project targets).Makes who.workspace P := by
  cases targets with
  | nil => trivial
  | cons target rest =>
      refine Program.makes_bind (Program.makes_ask h) fun moved => ?_
      split <;> trivial

end Pins

theorem makes_insertNew (who : Identity) (now : Instant) (project : ProjectId) (config : ConfigId)
    (targets : List PinTarget) :
    (insertNew who now project config targets).Makes who.workspace (Call.PlainOf project) :=
  makes_insertNew_of fun _ hpins =>
    ⟨⟨List.forall_mem_map.mpr fun pin hpin => (hpins pin hpin).1, rfl, List.nodup_nil⟩, Or.inl rfl⟩

theorem makes_moveStored (who : Identity) (now : Instant) (project : ProjectId)
    (targets : List PinTarget) :
    (moveStored who now project targets).Makes who.workspace (Call.PlainOf project) :=
  makes_moveStored_of ⟨.of_eq rfl rfl rfl, Or.inl rfl⟩

/-- Pinning environments makes calls about the project alone, and looks up no id. -/
theorem makes_bind (policy : MaskPolicy) (who : Identity) (now : Instant) (r : PinRequest) :
    (bind policy who now r).Makes who.workspace (Call.PlainOf r.project) := by
  have hpins : Call.PlainOf r.project (.pins r.project r.names) :=
    ⟨.of_eq rfl rfl rfl, Or.inr rfl⟩
  refine Program.makes_bind (Program.makes_bind
    (Program.makes_ask ⟨.of_eq rfl rfl rfl, Or.inr rfl⟩) fun _ => Program.makes_orFail)
    fun config => ?_
  refine Program.makes_bind (makes_checkTargets policy who.workspace r) fun _ => ?_
  refine Program.makes_bind (Program.makes_ask hpins) fun stored => ?_
  refine Program.makes_bind (makes_insertNew who now r.project config.id _) fun _ => ?_
  refine Program.makes_bind (makes_moveStored who now r.project _) fun _ => ?_
  exact Program.makes_bind (Program.makes_ask hpins) fun _ => trivial

end Pinning

end ConfigTimeline
