import ConfigTimeline.Proofs.Store.Keeping
import ConfigTimeline.Proofs.Timeline.History

/-!
History is only ever added to. Whatever is asked of the service, rows stay in the store where they
are. A config or a blueprint never changes. A value row changes once, when a blueprint of its project
sets its key anew: then it ends there. A pin changes when its environment is pinned anew: then it
points elsewhere.
-/

namespace ConfigTimeline

inductive LogEntry.LeavesValue (entry : LogEntry) (row : Scoped ValueRow) : Scoped ValueRow → Prop
  | same : entry.LeavesValue row row
  | ended (c : Commit)
      (hcommit : entry.commit? row.workspace row.record.project = some c)
      (hkey : row.record.key ∈ c.draft.keys) (hopen : row.record.validTo = none)
      (hlater : row.record.validFrom < c.blueprint) :
      entry.LeavesValue row (Memory.withEnd (some c.blueprint) row)

inductive LogEntry.LeavesPin (entry : LogEntry) (row : Scoped Pin) : Scoped Pin → Prop
  | same : entry.LeavesPin row row
  | moved (r : PinRequest) (reply : Reply) (target : PinTarget)
      (hoperation : entry.call.operation = .bind r) (hresult : entry.result = .ok reply)
      (htarget : target ∈ r.targets)
      (hplace : row.envPlace = (entry.call.who.workspace, r.project, target.env)) :
      entry.LeavesPin row
        { row with
          record := { row.record with
            blueprint := target.blueprint
            audit := { row.record.audit with
              updatedBy := entry.call.who.user
              updatedAt := entry.call.supply.now } } }

/-- The tables before and after the handling of an entry: all that was there is there still. -/
structure AppendOnly (entry : LogEntry) (t t' : Memory.Tables) : Prop where
  configs : t.configs <+: t'.configs
  blueprints : t.blueprints <+: t'.blueprints
  values : ∃ kept, kept <+: t'.values ∧ List.Forall₂ entry.LeavesValue t.values kept
  pins : ∃ kept, kept <+: t'.pins ∧ List.Forall₂ entry.LeavesPin t.pins kept

namespace AppendOnly

variable {entry : LogEntry} {t t' : Memory.Tables}

theorem refl (entry : LogEntry) (t : Memory.Tables) : AppendOnly entry t t where
  configs := List.prefix_refl _
  blueprints := List.prefix_refl _
  values := ⟨t.values, List.prefix_refl _, List.forall₂_same.mpr fun _ _ => .same⟩
  pins := ⟨t.pins, List.prefix_refl _, List.forall₂_same.mpr fun _ _ => .same⟩

theorem of_bound {r : PinRequest} {reply : Reply} (hoperation : entry.call.operation = .bind r)
    (hresult : entry.result = .ok reply)
    (h : Bound entry.call.policy entry.call.who entry.call.supply.now r t t') :
    AppendOnly entry t t' := by
  obtain ⟨config, -, hrepinned⟩ := h.repinned
  obtain ⟨stored, new, hpins, hstored, -⟩ := hrepinned.pins
  have hsame := hrepinned.same
  refine { configs := ?_, blueprints := ?_, values := ?_, pins := ⟨stored, ?_, ?_⟩ }
  · rw [hsame]
  · rw [hsame]
  · rw [hsame]
    exact ⟨t.values, List.prefix_refl _, List.forall₂_same.mpr fun _ _ => .same⟩
  · rw [hpins]
    exact List.prefix_append stored new
  · refine hstored.imp ?_
    rintro row row' (_ | ⟨target, htarget, hplace⟩)
    · exact .same
    · exact .moved r reply target hoperation hresult htarget hplace

end AppendOnly

namespace Versioning

variable {who : Identity} {now : Instant} {project : ProjectId} {chosen : Option ConfigId}
  {draft : Draft} {t t' : Memory.Tables} {answer : BlueprintView}

theorem WithConfig.configs_prefix {config : Config}
    (h : WithConfig who now project chosen t config t') : t.configs <+: t'.configs := by
  cases h with
  | found => exact List.prefix_refl _
  | made => exact List.prefix_append _ _

/-- The rows that a draft replaces are ended, and no other row is touched. -/
theorem Appended.leavesValues (h : Appended who now project chosen draft t answer t')
    {commits : List Commit}
    (htimeline : Timeline (t.blueprintsOf who.workspace project)
      (t.valuesOf who.workspace project) commits) {entry : LogEntry}
    (hcommit : draft.kind = .blueprint →
      entry.commit? who.workspace project = some ⟨answer.blueprint.id, draft⟩) :
    List.Forall₂ entry.LeavesValue t.values
      (replacedRows who.workspace project draft answer.blueprint.id t.values) := by
  unfold replacedRows
  cases hkind : draft.kind with
  | mask => exact List.forall₂_same.mpr fun _ _ => .same
  | blueprint =>
      refine List.forall₂_map_right_iff.mpr (List.forall₂_same.mpr ?_)
      rintro ⟨workspace, row⟩ hrow
      by_cases hcloses : Memory.Work.closes who.workspace project draft.keys ⟨workspace, row⟩ = true
      · -- The row is open, so it began at a blueprint, and the new one comes after all of those.
        rw [if_pos hcloses]
        simp only [Memory.Work.closes, Bool.and_eq_true, beq_iff_eq,
          List.contains_iff_mem] at hcloses
        obtain ⟨⟨⟨rfl, hproject⟩, hopen⟩, hkey⟩ := hcloses
        have hmem : row ∈ t.valuesOf who.workspace project :=
          List.mem_filter.mpr ⟨mem_recordsIn.mpr hrow, beq_iff_eq.mpr hproject⟩
        have hlater : row.validFrom < answer.blueprint.id :=
          htimeline.validFrom_lt_of_lasts (h.newer_of_mem hkind) row hmem
            (ValueRow.lasts_of_isOpen hopen)
        subst hproject
        exact .ended ⟨answer.blueprint.id, draft⟩ (hcommit hkind) hkey
          (Option.isNone_iff_eq_none.mp hopen) hlater
      · rw [if_neg hcloses]
        exact .same

end Versioning

/-- Handling an operation only adds to the tables that a log made. -/
theorem Recorded.appendOnly {past : List LogEntry} {t t' : Memory.Tables} (h : Recorded past t)
    {call : ServiceCall} {result : Except ServiceError Reply}
    (heffect : Effect call.policy call.who call.supply t call.operation result t') :
    AppendOnly ⟨call, result⟩ t t' := by
  obtain ⟨policy, who, supply, operation⟩ := call
  cases heffect with
  | failed op e => exact .refl _ t
  | read op reply hcreate => exact .refl _ t
  | bound r reply t' hbound => exact .of_bound rfl rfl hbound
  | created r project answer t' hkeys happended =>
      obtain ⟨config, withConfig, hwith, hconfigs⟩ := happended.config
      have hproject := happended.project_eq
      refine {
        configs := ?_
        blueprints := ?_
        values := ⟨_, ?_, happended.leavesValues (h.timelines who.workspace project) ?_⟩
        pins := ?_ }
      · rw [hconfigs]
        exact hwith.configs_prefix
      · rw [happended.blueprints]
        exact List.prefix_append _ _
      · rw [happended.values]
        exact List.prefix_append _ _
      · intro hkind
        simp [LogEntry.commit?, hproject, hkind]
      · rw [happended.pins]
        exact ⟨t.pins, List.prefix_refl _, List.forall₂_same.mpr fun _ _ => .same⟩

/-- What holds of the store of a service and of every store that a unit of work makes of it holds of
the store after an operation. -/
theorem Service.store_handle {b : Backend} {s : Service b} {P : b.Store → Prop} (hsame : P s.store)
    (hunit : ∀ mode ids (action : Action Reply), P (b.inUnit mode ids action s.store).store)
    (policy : MaskPolicy) (who : Identity) (supply : Supply) (op : Operation) :
    P (s.handle policy who supply op).service.store := by
  cases op with
  | create r =>
      change P (s.create who supply r).service.store
      unfold Service.create
      cases r.validate with
      | error reason => exact hsame
      | ok ref =>
          dsimp only
          generalize Service.resolveProject who.workspace supply.candidate ref s.directory = resolved
          obtain ⟨project | project, directory⟩ := resolved
          · exact hsame
          · exact hunit .write supply.ids _
  | bind r =>
      change P (s.bind policy who supply r).service.store
      unfold Service.bind
      cases r.validate with
      | error reason => exact hsame
      | ok => exact hunit .write supply.ids _
  | history project page size =>
      change P (s.history who.workspace supply project page size).service.store
      unfold Service.history
      cases PageRequest.of page size with
      | error reason => exact hsame
      | ok page => exact hunit .read supply.ids _
  | latest project mask => exact hunit .read supply.ids _
  | get blueprint mask => exact hunit .read supply.ids _
  | env project env mask => exact hunit .read supply.ids _
  | delta blueprint => exact hunit .read supply.ids _

/-- The contents of a store before and after the handling of an entry: nothing is gone, and nothing
has changed but the ends of value rows and where pins point. In a database this holds of all cells,
those included that the records do not have. -/
def StoreKind.OnlyAdds (entry : LogEntry) :
    (kind : StoreKind) → kind.backend.Store → kind.backend.Store → Prop
  | .memory, t, t' => AppendOnly entry t t'
  | .database, d, d' => d.tables.Keeps d'.tables ∧
      ∃ t t', Database.Represents d.tables t ∧ Database.Represents d'.tables t' ∧
        AppendOnly entry t t'

/-- After any calls, on either kind of store, one more operation of any kind and with any outcome only
adds to what is stored. -/
theorem Service.handle_onlyAdds (kind : StoreKind) (directory : Directory)
    (calls : List ServiceCall) (call : ServiceCall) :
    let s := ((Service.new kind directory).run calls).2
    let handled := s.handle call.policy call.who call.supply call.operation
    kind.OnlyAdds ⟨call, handled.result⟩ s.store handled.service.store := by
  intro s handled
  obtain ⟨t, hstore, hrecorded⟩ := kind.run_recorded directory calls
  obtain ⟨t', hstore', heffect⟩ :=
    kind.tableModel.handle_effect hstore call.policy call.who call.supply call.operation
  have honly := hrecorded.appendOnly heffect
  cases kind with
  | memory =>
      obtain ⟨rfl, -⟩ := hstore
      obtain ⟨rfl, -⟩ := hstore'
      exact honly
  | database =>
      refine ⟨?_, t, t', hstore.1, hstore'.1, honly⟩
      exact Service.store_handle (b := Database.backend)
        (P := fun d : Database => Database.Tables.Keeps s.store.tables d.tables) (.refl _)
        (fun mode ids action => Database.keeps_inUnit ids mode action s.store) call.policy call.who
        call.supply call.operation

end ConfigTimeline
