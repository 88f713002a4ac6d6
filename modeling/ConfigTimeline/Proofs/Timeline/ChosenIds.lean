import ConfigTimeline.Proofs.Service.Directories
import ConfigTimeline.Proofs.Service.Refusals
import ConfigTimeline.Proofs.Timeline.Creation

/-!
Blueprints and masks that are to be made under an id of the caller's choice. The verdict on them is
told from the tables before the call: the first check that fails gives the refusal, and where none
does the call goes through with the ids that were chosen, the identifiers drawn for it being unused.
-/

namespace ConfigTimeline

namespace Versioning

variable {who : Identity} {now : Instant} {project : ProjectId} {chosen : Option ConfigId}
  {draft : Draft} {t t' : Memory.Tables} {answer : BlueprintView}

/-- The config of a project once a draft has been appended to it. It has the id of the caller's choice
if it was made for the draft. -/
theorem Appended.exists_config (h : Appended who now project chosen draft t answer t') :
    ∃ config, t'.configOf who.workspace project = some config ∧
      (t.configOf who.workspace project = none → ∀ id, chosen = some id → config.id = id) := by
  obtain ⟨config, withConfig, hwith, hconfigs⟩ := h.config
  refine ⟨config, ?_, ?_⟩
  · unfold Memory.Tables.configOf
    rw [hconfigs]
    cases hwith with
    | found hfound => exact hfound
    | made hnone hproject haudit hchosen =>
        have hothers : (recordsIn who.workspace t.configs).find? (·.project == project) = none :=
          hnone
        simp [recordsIn_append, recordsIn_cons, List.find?_append, hothers, hproject]
  · intro hnone
    cases hwith with
    | found hfound =>
        rw [hfound] at hnone
        cases hnone
    | made _ _ _ hchosen => exact hchosen

end Versioning

section Create

variable {kind : StoreKind} {s : Service kind.backend} {t : Memory.Tables} {who : Identity}
  {supply : Supply} {r : CreateRequest} {ref : ProjectRef} {project : Project} {id : BlueprintId}

/-- A create under an id of the caller's choice ends by the verdict on it. -/
theorem StoreKind.create_decided (hstore : kind.tableModel.Holds s.store t)
    (hvalid : r.validate = .ok ref)
    (hproject : (Service.resolveProject who.workspace supply.candidate ref s.directory).1 =
      .ok project)
    (hsure : Versioning.Answered kind.tableModel.Sure who supply.now project.id r.config t)
    (hid : r.draft.id = some id) :
    (Versioning.verdict t who.workspace supply.now project.id r.config r.draft.kind id
        (supply.ids 0)).Decides Unrefused (s.create who supply r).result := by
  obtain ⟨result, hresult, hdecided⟩ := kind.tableModel.create_result hstore hvalid hproject
    (Versioning.ensures_append (m := Memory.backend.start .write t) rfl hid hsure)
  rw [hresult]
  exact hdecided.map Reply.view

/-- A create under an id that no check fails stores the blueprint under it. -/
theorem StoreKind.create_stored (hstore : kind.tableModel.Holds s.store t)
    (hvalid : r.validate = .ok ref)
    (hproject : (Service.resolveProject who.workspace supply.candidate ref s.directory).1 =
      .ok project)
    (hsure : Versioning.Answered kind.tableModel.Sure who supply.now project.id r.config t)
    (hclear : Versioning.Clear t supply.ids 0 who supply.now project.id r.config r.draft) :
    ∃ v t', (s.create who supply r).result = .ok (.view v) ∧
      kind.tableModel.Holds (s.create who supply r).service.store t' ∧
      Versioning.Appended who supply.now project.id r.config r.draft t v t' := by
  obtain ⟨v, t₁, hresult, happended⟩ :=
    StoreKind.create_of_clear hstore hvalid hproject hsure hclear
  obtain ⟨t', hstore', heffect⟩ : ∃ t',
      kind.tableModel.Holds (s.create who supply r).service.store t' ∧
        Effect .reject who supply t (.create r) (s.create who supply r).result t' :=
    kind.tableModel.create_effect hstore who supply r
  rw [hresult] at heffect
  cases heffect with
  | created _ other _ _ _ hother =>
      obtain rfl : other = project.id := hother.project_eq.symm.trans happended.project_eq
      exact ⟨v, t', hresult, hstore', hother⟩
  | read _ _ hcreate => exact absurd rfl (hcreate r)

end Create

/-- After any calls, on either kind of store, a create under an id of the caller's choice is refused
by the first check that fails. If the config of the project is to be made, the chosen id of one may be
taken, or the identifier drawn for one may clash. Then the blueprint id may be more than a minute ahead
of the clock, taken by any record of the workspace, or behind the latest blueprint of the project.
Where nothing is wrong, and the identifiers drawn for the values are unused, the call goes through
with the ids that were chosen. Whenever it fails, the store is left as it was. -/
theorem Service.create_with_id (kind : StoreKind) (directory : Directory)
    (calls : List ServiceCall) (policy : MaskPolicy) (who : Identity) (supply : Supply)
    (r : CreateRequest) (ref : ProjectRef) (project : Project) (id : BlueprintId)
    (hclock : kind = .database →
      supply.now.FourDigitYear ∧ ∀ call ∈ calls, call.supply.now.FourDigitYear)
    (hvalid : r.validate = .ok ref) (hid : r.draft.id = some id)
    (hproject : (Service.resolveProject who.workspace supply.candidate ref
      ((Service.new kind directory).run calls).2.directory).1 = .ok project) :
    let s := ((Service.new kind directory).run calls).2
    let created := s.handle policy who supply (.create r)
    ∃ t, kind.tableModel.Holds s.store t ∧
      let verdict := Versioning.verdict t who.workspace supply.now project.id r.config r.draft.kind
        id (supply.ids 0)
      (∀ reason, created.result = .error (.invalid reason) ↔ verdict = .refused reason) ∧
      (verdict = .clash → ∃ clash, created.result = .error (.violation (.clash clash))) ∧
      (verdict = .free →
        Versioning.ValuesUnused t who.workspace supply.ids
          (Versioning.configDraws t who.workspace project.id r.config) r.draft.values.length →
        ∃ v t' config, created.result = .ok (.view v) ∧ v.blueprint.id = id ∧
          kind.tableModel.Holds created.service.store t' ∧
          v.blueprint ∈ recordsIn who.workspace t'.blueprints ∧
          t'.configOf who.workspace project.id = some config ∧
          (t.configOf who.workspace project.id = none → ∀ given, r.config = some given →
            config.id = given)) ∧
      ∀ e, created.result = .error e → created.service.store = s.store := by
  intro s created
  obtain ⟨t, hstore, hrecorded⟩ := kind.run_recorded directory calls
  have hsure : Versioning.Answered kind.tableModel.Sure who supply.now project.id r.config t :=
    StoreKind.answered (fun hkind => (hclock hkind).1)
      (fun hkind => hrecorded.dated_of_clock (hclock hkind).2) r.config
  have hdecided := StoreKind.create_decided hstore hvalid hproject hsure hid
  refine ⟨t, hstore, ?_, ?_, ?_, ?_⟩
  · intro reason
    exact hdecided.invalid_iff
  · intro hclash
    rw [hclash] at hdecided
    exact hdecided
  · intro hfree hvalues
    obtain ⟨v, t', hresult, hstore', happended⟩ :=
      StoreKind.create_stored hstore hvalid hproject hsure
        (Versioning.clear_of_free hid (CreateRequest.nodup_keys hvalid) hfree hvalues)
    obtain ⟨config, hconfig, hchosen⟩ := happended.exists_config
    refine ⟨v, t', config, hresult, happended.given id hid, hstore', ?_, hconfig, hchosen⟩
    rw [mem_recordsIn, happended.blueprints]
    exact List.mem_append_right _ List.mem_cons_self
  · intro e herror
    exact Service.store_of_failed s policy who supply kind.sectors (.create r) herror

/-- An id in the future is not what is wrong where the identifier drawn for a config is that of another
project's. It is not wrong at all while the clock shows a time before 1970 and the id does not come a
minute after the first moment of 1970. And a database cannot look for anything wrong where it cannot
read the config, made at a time that its rows have no room for. -/
theorem Service.create_with_id_ahead :
    let who : Identity := ⟨"w", "u"⟩
    let request (name : String) (id : Option BlueprintId) : CreateRequest :=
      ⟨none, some name, none, ⟨id, .blueprint, none, [⟨"k", "v", .string, none⟩]⟩⟩
    let supply (seconds : Int) (first project : Nat) : Supply :=
      ⟨.ofUnix seconds 0, fun n => .ofNat (first + n), .ofNat project⟩
    let result (kind : StoreKind) (calls : List ServiceCall) (last : Supply) (name : String)
        (id : BlueprintId) : Except ServiceError Reply :=
      (((Service.new kind (.memory .empty)).run calls).2.handle .reject who last
        (.create (request name (some id)))).result
    let created (seconds : Int) : ServiceCall :=
      ⟨.reject, who, supply seconds 10 7, .create (request "p" none)⟩
    let ahead (last : Supply) (id : BlueprintId) : Prop :=
      last.now.unixMillis + 60000 < id.ulid.millis
    let future : BlueprintId := ⟨.ofParts 1800000000000 0⟩
    ahead (supply 1700000000 10 8) future ∧
      result .memory [created 1700000000] (supply 1700000000 10 8) "q" future =
        .error (.violation (.clash (.config ⟨.ofNat 10⟩ (.ofNat 8)))) ∧
      ahead (supply (-120) 10 7) ⟨.ofNat 50⟩ ∧
      (result .memory [] (supply (-120) 10 7) "p" ⟨.ofNat 50⟩).isOk = true ∧
      ahead (supply 1700000000 20 7) future ∧
      result .database [created 253402300800] (supply 1700000000 20 7) "p" future =
        .error (.store (.corrupt (.column 3 (.time .invalid)))) := by
  decide +kernel

/-- The first blueprint of a project is made under the ids that were chosen for it and its config, in a
workspace that has another project. -/
theorem Service.create_with_id_first :
    let who : Identity := ⟨"w", "u"⟩
    let request (name : String) (config : Option ConfigId) (id : Option BlueprintId) :
        CreateRequest :=
      ⟨none, some name, config, ⟨id, .blueprint, none, [⟨"k", "v", .string, none⟩]⟩⟩
    let supply (first project : Nat) : Supply :=
      ⟨.ofUnix 1700000000 0, fun n => .ofNat (first + n), .ofNat project⟩
    let calls : List ServiceCall :=
      [⟨.reject, who, supply 10 7, .create (request "p" none none)⟩]
    let s := ((Service.new .memory (.memory .empty)).run calls).2
    let chosen := request "q" (some ⟨.ofNat 30⟩) (some ⟨.ofNat 5⟩)
    ∃ v config, (s.handle .reject who (supply 20 8) (.create chosen)).result = .ok (.view v) ∧
      v.blueprint.id = ⟨.ofNat 5⟩ ∧ config.id = ⟨.ofNat 30⟩ ∧
      Memory.Tables.configOf (s.handle .reject who (supply 20 8) (.create chosen)).service.store "w"
        (.ofNat 8) = some config := by
  intro who request supply calls s chosen
  obtain ⟨t, ⟨hstore, -⟩, -, -, hfree, -⟩ := Service.create_with_id .memory (.memory .empty) calls
    .reject who (supply 20 8) chosen (.name "q") ⟨.ofNat 8, "q"⟩ ⟨.ofNat 5⟩ (fun h => by cases h)
    (by decide +kernel) rfl (by decide +kernel)
  obtain rfl : s.store = t := hstore
  have hunused : Versioning.ValuesUnused s.store "w" (supply 20 8).ids 0 1 :=
    (Versioning.valuesUnused_iff _ _ _ _ _).mpr (by decide +kernel)
  obtain ⟨v, t', config, hok, hid, ⟨rfl, -⟩, -, hconfig, hchosen⟩ := hfree (by decide +kernel) hunused
  exact ⟨v, config, hok, hid, hchosen (by decide +kernel) _ rfl, hconfig⟩

end ConfigTimeline
