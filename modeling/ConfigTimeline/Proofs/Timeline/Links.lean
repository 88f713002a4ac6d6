import ConfigTimeline.Proofs.Timeline.AppendOnly

/-!
How the records of a workspace refer to each other. No store checks these links: each write makes both
ends or finds the other one in the same unit of work. So a project has a config from its first
blueprint or mask on, value rows begin and end at records of their own project, and pins point at such
records and name the config of their project.
-/

namespace ConfigTimeline

/-- The row that a closed row of a timeline ends at is there. -/
theorem Gapless.exists_next {rows : List ValueRow} (h : Gapless rows) {row : ValueRow}
    (hrow : row ∈ rows) {ending : BlueprintId} (hending : row.validTo = some ending) :
    ∃ next ∈ rows, next.validFrom = ending := by
  induction rows with
  | nil => cases hrow
  | cons first rest ih =>
      rcases List.mem_cons.mp hrow with rfl | hlater
      · cases rest with
        | nil =>
            have hopen : row.validTo = none := h
            rw [hopen] at hending
            cases hending
        | cons next rest =>
            rw [h.1.2] at hending
            exact ⟨next, List.mem_cons_of_mem row List.mem_cons_self, Option.some.inj hending⟩
      · obtain ⟨next, hnext, hfrom⟩ := ih h.tail hlater
        exact ⟨next, List.mem_cons_of_mem first hnext, hfrom⟩

namespace Timeline

variable {records : List Blueprint} {rows : List ValueRow} {commits : List Commit}

/-- A row that lasts ends, if it does, at a blueprint that is no mask. -/
theorem exists_ending (h : Timeline records rows commits) {row : ValueRow} (hrow : row ∈ rows)
    (hlasts : row.lasts = true) {ending : BlueprintId} (hending : row.validTo = some ending) :
    ∃ b ∈ records, b.id = ending ∧ b.kind = .blueprint := by
  have hchain : row ∈ chain row.key rows := mem_chain.mpr ⟨hrow, rfl, hlasts⟩
  obtain ⟨next, hnext, rfl⟩ := (h.gapless row.key).exists_next hchain hending
  obtain ⟨hstored, -, hnextLasts⟩ := mem_chain.mp hnext
  exact h.exists_blueprint hstored hnextLasts

end Timeline

namespace Memory

variable {t t' : Tables} {workspace : String} {project : ProjectId}

theorem configOf_of_prefix (h : t.configs <+: t'.configs) {config : Config}
    (hconfig : t.configOf workspace project = some config) :
    t'.configOf workspace project = some config := by
  obtain ⟨new, hnew⟩ := h
  unfold Tables.configOf at hconfig ⊢
  rw [← hnew, recordsIn_append, List.find?_append, hconfig, Option.some_or]

theorem mem_blueprintsOf_of_prefix (h : t.blueprints <+: t'.blueprints) {b : Blueprint}
    (hb : b ∈ t.blueprintsOf workspace project) : b ∈ t'.blueprintsOf workspace project := by
  rw [mem_blueprintsOf, mem_recordsIn] at hb ⊢
  exact ⟨h.subset hb.1, hb.2⟩

end Memory

/-- A pin names the config of its project and points at a record of its project, which is no mask if
masks are rejected. -/
structure PinLinked (rejecting : Prop) (t : Memory.Tables) (workspace : String) (pin : Pin) :
    Prop where
  config : ∃ config, t.configOf workspace pin.project = some config ∧ pin.config = config.id
  target : ∃ b ∈ t.blueprintsOf workspace pin.project,
    b.id = pin.blueprint ∧ (rejecting → b.kind = .blueprint)

/-- A value row begins at a record of its project. If that is a mask, the row ends there too; if not,
the row may end at a blueprint of its project. -/
def ValueLinked (t : Memory.Tables) (workspace : String) (row : ValueRow) : Prop :=
  ∃ b ∈ t.blueprintsOf workspace row.project, b.id = row.validFrom ∧
    (b.kind = .mask → row.validTo = some b.id) ∧
    (b.kind = .blueprint → ∀ ending, row.validTo = some ending →
      ∃ last ∈ t.blueprintsOf workspace row.project, last.id = ending ∧ last.kind = .blueprint)

/-- The records of a workspace refer to each other as they should. -/
structure Linked (rejecting : Prop) (t : Memory.Tables) (workspace : String) : Prop where
  configs : ∀ project,
    (t.configOf workspace project).isSome = true ↔ t.blueprintsOf workspace project ≠ []
  oneConfig : ((recordsIn workspace t.configs).map (·.project)).Nodup
  values : ∀ row ∈ recordsIn workspace t.values, ValueLinked t workspace row
  pins : ∀ pin ∈ recordsIn workspace t.pins, PinLinked rejecting t workspace pin
  onePin : ((recordsIn workspace t.pins).map fun pin => (pin.project, pin.env)).Nodup

theorem PinLinked.mono {rejecting rejecting' : Prop} {t t' : Memory.Tables} {workspace : String}
    {pin : Pin} (h : PinLinked rejecting t workspace pin) (himp : rejecting' → rejecting)
    (hconfigs : t.configs <+: t'.configs) (hblueprints : t.blueprints <+: t'.blueprints) :
    PinLinked rejecting' t' workspace pin := by
  obtain ⟨config, hconfig, hid⟩ := h.config
  obtain ⟨b, hb, htarget, hkind⟩ := h.target
  exact ⟨⟨config, Memory.configOf_of_prefix hconfigs hconfig, hid⟩,
    b, Memory.mem_blueprintsOf_of_prefix hblueprints hb, htarget, fun hr => hkind (himp hr)⟩

/-- Every request of a log to pin environments came under the policy that rejects masks. -/
def Rejecting (log : List LogEntry) : Prop :=
  ∀ entry ∈ log, ∀ r, entry.call.operation = .bind r → entry.call.policy = .reject

/-- What each call keeps of the links: those of configs and of pins. -/
structure LinksKept (log : List LogEntry) (t : Memory.Tables) : Prop where
  recorded : Recorded log t
  configs : ∀ workspace project, (t.configOf workspace project).isSome = true →
    t.blueprintsOf workspace project ≠ []
  pins : ∀ row ∈ t.pins, PinLinked (Rejecting log) t row.workspace row.record

namespace LinksKept

variable {past : List LogEntry} {t t' : Memory.Tables}

theorem nil : LinksKept [] .empty where
  recorded := Recorded.nil
  configs _ _ h := by cases h
  pins := List.forall_mem_nil _

theorem rejecting_of_concat {entry : LogEntry} (h : Rejecting (past ++ [entry])) :
    Rejecting past :=
  fun other hmem => h other (List.mem_append_left _ hmem)

/-- The pins of a request are linked: its targets have been looked up, and so has the config. -/
theorem pinLinked_of_bound (entry : LogEntry) {r : PinRequest}
    (hoperation : entry.call.operation = .bind r)
    (hpins : ∀ row ∈ t.pins, PinLinked (Rejecting past) t row.workspace row.record)
    (hbound : Bound entry.call.policy entry.call.who entry.call.supply.now r t t') :
    ∀ row ∈ t'.pins,
      PinLinked (Rejecting (past ++ [entry])) t' row.workspace row.record := by
  obtain ⟨config, hconfig, hrepinned⟩ := hbound.repinned
  obtain ⟨stored, new, hall, hstored, hnew⟩ := hrepinned.pins
  have hconfigs : t.configs <+: t'.configs := by rw [hrepinned.same]
  have hblueprints : t.blueprints <+: t'.blueprints := by rw [hrepinned.same]
  have htarget : ∀ target ∈ r.targets,
      ∃ b ∈ t'.blueprintsOf entry.call.who.workspace r.project, b.id = target.blueprint ∧
        (Rejecting (past ++ [entry]) → b.kind = .blueprint) := by
    intro target hmem
    obtain ⟨b, hb, hid, hproject, hkind⟩ := hbound.targets target hmem
    have hown := Memory.mem_blueprintsOf.mpr ⟨hb, hproject⟩
    refine ⟨b, Memory.mem_blueprintsOf_of_prefix hblueprints hown, hid, ?_⟩
    intro hrejecting
    exact hkind (hrejecting entry (List.mem_append_right _ List.mem_cons_self) r hoperation)
  rw [hall, List.forall_mem_append]
  constructor
  · -- A stored pin keeps its config, and if it was moved, it was to a target of the request.
    have hboth := (List.forall₂_and_left _ _).mpr ⟨hpins, hstored⟩
    refine forall₂_forall_right hboth ?_
    rintro row row' ⟨hlinked, hrepointed⟩
    have hkept : PinLinked (Rejecting (past ++ [entry])) t' row.workspace row.record :=
      hlinked.mono rejecting_of_concat hconfigs hblueprints
    cases hrepointed with
    | same => exact hkept
    | moved target hmem hplace =>
        obtain ⟨hworkspace, hproject, -⟩ := Scoped.envPlace_eq_iff.mp hplace
        refine ⟨hkept.config, ?_⟩
        have htargets := htarget target hmem
        rw [← hworkspace, ← hproject] at htargets
        exact htargets
  · intro row hrow
    obtain ⟨u, target, hmem, rfl⟩ := hnew row hrow
    exact ⟨⟨config, Memory.configOf_of_prefix hconfigs hconfig, rfl⟩, htarget target hmem⟩

theorem configs_concat (h : LinksKept past t) {call : ServiceCall}
    {result : Except ServiceError Reply}
    (heffect : Effect call.policy call.who call.supply t call.operation result t')
    {workspace : String} {project : ProjectId}
    (hconfig : (t'.configOf workspace project).isSome = true) :
    t'.blueprintsOf workspace project ≠ [] := by
  have honly := h.recorded.appendOnly heffect
  have hkept : (t.configOf workspace project).isSome = true →
      t'.blueprintsOf workspace project ≠ [] := by
    intro hold
    obtain ⟨b, hb⟩ := List.exists_mem_of_ne_nil _ (h.configs workspace project hold)
    exact List.ne_nil_of_mem (Memory.mem_blueprintsOf_of_prefix honly.blueprints hb)
  obtain ⟨policy, who, supply, operation⟩ := call
  cases heffect with
  | failed op e => exact hkept hconfig
  | read op reply hcreate => exact hkept hconfig
  | bound r reply t' hbound =>
      obtain ⟨config, -, hrepinned⟩ := hbound.repinned
      rw [hrepinned.same] at hconfig
      exact hkept hconfig
  | created r own answer t' hkeys happended =>
      rcases happended.of_configOf hconfig with hold | ⟨rfl, rfl⟩
      · exact hkept hold
      · rw [happended.blueprintsOf]
        exact List.append_ne_nil_of_right_ne_nil _ (List.cons_ne_nil _ _)

theorem pins_concat (h : LinksKept past t) {call : ServiceCall}
    {result : Except ServiceError Reply}
    (heffect : Effect call.policy call.who call.supply t call.operation result t') :
    ∀ row ∈ t'.pins,
      PinLinked (Rejecting (past ++ [⟨call, result⟩])) t' row.workspace row.record := by
  have honly := h.recorded.appendOnly heffect
  have hkept : t'.pins = t.pins → ∀ row ∈ t'.pins,
      PinLinked (Rejecting (past ++ [⟨call, result⟩])) t' row.workspace row.record := by
    intro hpins row hrow
    rw [hpins] at hrow
    exact (h.pins row hrow).mono rejecting_of_concat honly.configs honly.blueprints
  obtain ⟨policy, who, supply, operation⟩ := call
  cases heffect with
  | failed op e => exact hkept rfl
  | read op reply hcreate => exact hkept rfl
  | created r project answer t' hkeys happended => exact hkept happended.pins
  | bound r reply t' hbound =>
      exact pinLinked_of_bound ⟨⟨policy, who, supply, .bind r⟩, .ok reply⟩ rfl h.pins hbound

theorem concat (h : LinksKept past t) {call : ServiceCall} {result : Except ServiceError Reply}
    (heffect : Effect call.policy call.who call.supply t call.operation result t') :
    LinksKept (past ++ [⟨call, result⟩]) t' where
  recorded := h.recorded.concat heffect
  configs _ _ hconfig := h.configs_concat heffect hconfig
  pins := h.pins_concat heffect

theorem valueLinked (h : LinksKept past t) {workspace : String} {row : ValueRow}
    (hrow : row ∈ recordsIn workspace t.values) : ValueLinked t workspace row := by
  have htimeline := h.recorded.timelines workspace row.project
  have hmem : row ∈ t.valuesOf workspace row.project :=
    List.mem_filter.mpr ⟨hrow, beq_iff_eq.mpr rfl⟩
  obtain ⟨b, hb, hid, hmask⟩ := htimeline.introduced row hmem
  refine ⟨b, hb, hid, ?_, ?_⟩
  · intro hkind
    rw [hid]
    exact hmask.mp hkind
  · intro hkind ending hending
    have hlasts : row.lasts = true := by
      refine bne_iff_ne.mpr fun hsame => ?_
      rw [hmask.mpr hsame] at hkind
      cases hkind
    exact htimeline.exists_ending hmem hlasts hending

/-- What the calls have kept, together with the rules of the tables, are all the links. -/
theorem linked (h : LinksKept past t) (hconstrained : Memory.Constrained t) (workspace : String) :
    Linked (Rejecting past) t workspace where
  configs project := ⟨h.configs workspace project, h.recorded.configs workspace project⟩
  oneConfig := nodup_map_recordsIn hconstrained.configProjects workspace
  values _ hrow := h.valueLinked hrow
  pins pin hpin := h.pins ⟨workspace, pin⟩ (mem_recordsIn.mp hpin)
  onePin := nodup_map_recordsIn hconstrained.pinEnvs workspace

end LinksKept

/-- After any calls, on either kind of store, the records of every workspace refer to each other as
they should, and the config that a project has stays its config through all further calls. -/
theorem Service.records_linked (kind : StoreKind) (directory : Directory)
    (calls further : List ServiceCall) (workspace : String) :
    let ran := (Service.new kind directory).run calls
    ∃ t t', kind.tableModel.Holds ran.2.store t ∧
      kind.tableModel.Holds (ran.2.run further).2.store t' ∧
      Linked (Rejecting ran.1) t workspace ∧
      ∀ project config, t.configOf workspace project = some config →
        t'.configOf workspace project = some config := by
  intro ran
  obtain ⟨t, hstore, hkept⟩ := kind.tableModel.run_keeps (P := LinksKept)
    (fun past t call result t' h heffect => h.concat heffect)
    (s := Service.new kind directory) kind.holds_empty LinksKept.nil calls
  have hconstrained := kind.tableModel.constrained (kind.tableModel.start .read hstore)
  obtain ⟨t', hstore', -, hconfigs⟩ := kind.tableModel.run_keeps
    (P := fun past t' => Recorded past t' ∧ t.configs <+: t'.configs)
    (by
      rintro past t₁ call result t₂ ⟨hrecorded, hprefix⟩ heffect
      exact ⟨hrecorded.concat heffect, hprefix.trans (hrecorded.appendOnly heffect).configs⟩)
    hstore ⟨hkept.recorded, List.prefix_refl _⟩ further
  exact ⟨t, t', hstore, hstore', hkept.linked hconstrained workspace,
    fun _ _ hconfig => Memory.configOf_of_prefix hconfigs hconfig⟩

end ConfigTimeline
