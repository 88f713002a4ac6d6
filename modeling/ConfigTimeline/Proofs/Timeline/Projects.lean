import ConfigTimeline.Proofs.Service.Appending
import ConfigTimeline.Proofs.Timeline.Growth

/-!
What appending a draft does to each project. The timelines of the project appended to go on, and no
other project is concerned.
-/

namespace ConfigTimeline

namespace Memory

theorem endRows_eq (workspace : String) (project : ProjectId) (b : BlueprintId)
    (keys : List String) (rows : List (Scoped ValueRow)) :
    endRows workspace project b keys rows = rows.map fun row =>
      if row.workspace = workspace ∧ row.record.project = project then
        { row with record := row.record.replacedBy b keys }
      else row := by
  apply List.map_congr_left
  intro row _
  unfold Work.closes withEnd ValueRow.replacedBy ValueRow.endedAt
  by_cases hplace : row.workspace = workspace ∧ row.record.project = project
  · obtain ⟨rfl, rfl⟩ := hplace
    by_cases hkey : row.record.key ∈ keys <;> cases row.record.isOpen <;> simp [hkey]
  · have hnot : (row.workspace == workspace && row.record.project == project) = false := by
      simpa using hplace
    simp [hplace, hnot]

/-- Ending rows of a project concerns no other project. -/
theorem filter_recordsIn_endRows (workspace : String) (project : ProjectId) (b : BlueprintId)
    (keys : List String) (rows : List (Scoped ValueRow)) (workspace' : String)
    (project' : ProjectId) :
    (recordsIn workspace' (endRows workspace project b keys rows)).filter
        (·.project == project') =
      ((recordsIn workspace' rows).filter (·.project == project')).map fun row =>
        if workspace' = workspace ∧ project' = project then row.replacedBy b keys else row := by
  rw [endRows_eq]
  induction rows with
  | nil => rfl
  | cons row rest ih =>
      rw [List.map_cons, recordsIn_cons, recordsIn_cons, List.filter_append, List.filter_append,
        List.map_append, ih]
      congr 1
      by_cases hw : row.workspace = workspace' <;> by_cases hp : row.record.project = project' <;>
        split <;> simp_all

end Memory

/-- A config that comes along has the time of the call. -/
theorem Versioning.WithConfig.dated {who : Identity} {now : Instant} {project : ProjectId}
    {chosen : Option ConfigId} {t t' : Memory.Tables} {config : Config}
    (h : WithConfig who now project chosen t config t') (hnow : now.FourDigitYear)
    (hdated : t.Dated) : t'.Dated := by
  cases h with
  | found => exact hdated
  | made hnone hproject haudit hchosen =>
      refine { hdated with configs := ?_ }
      intro row hrow
      rcases List.mem_append.mp hrow with hold | hnew
      · exact hdated.configs row hold
      · rw [List.mem_singleton.mp hnew, haudit]
        exact ⟨hnow, hnow⟩

namespace Versioning.Appended

variable {who : Identity} {now : Instant} {project : ProjectId} {chosen : Option ConfigId}
  {draft : Draft} {t t' : Memory.Tables} {answer : BlueprintView}

theorem project_eq (h : Appended who now project chosen draft t answer t') :
    answer.blueprint.project = project :=
  congrArg Blueprint.project h.blueprint

theorem kind_eq (h : Appended who now project chosen draft t answer t') :
    answer.blueprint.kind = draft.kind :=
  congrArg Blueprint.kind h.blueprint

theorem project_of_mem (h : Appended who now project chosen draft t answer t') :
    ∀ row ∈ answer.values, row.project = project := by
  refine forall₂_forall_right h.rows ?_
  rintro v row ⟨u, rfl⟩
  rfl

theorem blueprintsOf (h : Appended who now project chosen draft t answer t') :
    t'.blueprintsOf who.workspace project =
      t.blueprintsOf who.workspace project ++ [answer.blueprint] := by
  simp [Memory.Tables.blueprintsOf, h.blueprints, recordsIn, h.project_eq]

theorem valuesOf (h : Appended who now project chosen draft t answer t') :
    t'.valuesOf who.workspace project =
      (match draft.kind with
        | .blueprint => (t.valuesOf who.workspace project).map
            (ValueRow.replacedBy answer.blueprint.id draft.keys)
        | .mask => t.valuesOf who.workspace project) ++ answer.values := by
  have hadded : answer.values.filter (·.project == project) = answer.values := by
    rw [List.filter_eq_self]
    intro row hrow
    exact beq_iff_eq.mpr (h.project_of_mem row hrow)
  unfold Memory.Tables.valuesOf
  rw [h.values, recordsIn_append, recordsIn_map_mk, if_pos rfl, List.filter_append, hadded]
  congr 1
  unfold replacedRows
  cases draft.kind with
  | mask => rfl
  | blueprint =>
      dsimp only
      rw [Memory.filter_recordsIn_endRows]
      simp

/-- Appending to one project leaves the others alone. -/
theorem frame (h : Appended who now project chosen draft t answer t') {workspace : String}
    {other : ProjectId} (hother : ¬(workspace = who.workspace ∧ other = project)) :
    t'.blueprintsOf workspace other = t.blueprintsOf workspace other ∧
      t'.valuesOf workspace other = t.valuesOf workspace other := by
  constructor
  · rw [Memory.Tables.blueprintsOf, h.blueprints, recordsIn_append, List.filter_append]
    by_cases hw : who.workspace = workspace <;> by_cases hp : project = other <;>
      simp_all [recordsIn, h.project_eq, Memory.Tables.blueprintsOf]
  · have hadded : (recordsIn workspace (answer.values.map fun row => ⟨who.workspace, row⟩)).filter
        (·.project == other) = [] := by
      rw [recordsIn_map_mk]
      split
      · rename_i hw
        rw [List.filter_eq_nil_iff]
        intro row hrow hproject
        refine hother ⟨hw.symm, ?_⟩
        rw [← h.project_of_mem row hrow, beq_iff_eq.mp hproject]
      · rfl
    unfold Memory.Tables.valuesOf
    rw [h.values, recordsIn_append, List.filter_append, hadded, List.append_nil]
    unfold replacedRows
    cases draft.kind with
    | mask => rfl
    | blueprint =>
        dsimp only
        rw [Memory.filter_recordsIn_endRows]
        simp [hother]

/-- A project that has a config keeps one, and the project that was appended to has one. -/
theorem configOf (h : Appended who now project chosen draft t answer t') {workspace : String}
    {other : ProjectId}
    (hconfig : (t.configOf workspace other).isSome = true ∨
      (workspace = who.workspace ∧ other = project)) :
    (t'.configOf workspace other).isSome = true := by
  obtain ⟨config, withConfig, hwith, hconfigs⟩ := h.config
  unfold Memory.Tables.configOf at hconfig ⊢
  rw [hconfigs]
  cases hwith with
  | found hfound =>
      rcases hconfig with hsome | ⟨rfl, rfl⟩
      · exact hsome
      · unfold Memory.Tables.configOf at hfound
        rw [hfound]
        rfl
  | made hnone hproject haudit hchosen =>
      rw [recordsIn_append, List.find?_append]
      rcases hconfig with hsome | ⟨rfl, rfl⟩
      · rw [Option.isSome_or, hsome]
        rfl
      · simp [recordsIn, hproject]

/-- No project gets a config but the one that was appended to. -/
theorem of_configOf (h : Appended who now project chosen draft t answer t') {workspace : String}
    {other : ProjectId} (hconfig : (t'.configOf workspace other).isSome = true) :
    (t.configOf workspace other).isSome = true ∨ (workspace = who.workspace ∧ other = project) := by
  obtain ⟨config, withConfig, hwith, hconfigs⟩ := h.config
  unfold Memory.Tables.configOf at hconfig ⊢
  rw [hconfigs] at hconfig
  cases hwith with
  | found => exact Or.inl hconfig
  | made hnone hproject haudit hchosen =>
      rw [recordsIn_append, List.find?_append, Option.isSome_or, Bool.or_eq_true] at hconfig
      refine hconfig.imp_right ?_
      intro hnew
      obtain ⟨found, hfound⟩ := Option.isSome_iff_exists.mp hnew
      have hmem := mem_recordsIn.mp (List.mem_of_find?_eq_some hfound)
      have hother := List.find?_some hfound
      rw [List.mem_singleton] at hmem
      cases hmem
      exact ⟨rfl, (beq_iff_eq.mp hother).symm.trans hproject⟩

/-- The records that come along have the time of the call. -/
theorem dated (h : Appended who now project chosen draft t answer t') (hnow : now.FourDigitYear)
    (hdated : t.Dated) : t'.Dated := by
  refine { configs := ?_, blueprints := ?_, pins := ?_ }
  · obtain ⟨config, withConfig, hwith, hconfigs⟩ := h.config
    rw [hconfigs]
    exact (hwith.dated hnow hdated).configs
  · rw [h.blueprints]
    intro row hrow
    rcases List.mem_append.mp hrow with hold | hnew
    · exact hdated.blueprints row hold
    · rw [List.mem_singleton.mp hnew, h.blueprint]
      exact ⟨hnow, hnow⟩
  · rw [h.pins]
    exact hdated.pins

/-- A new blueprint comes after all others of its project. -/
theorem newer_of_mem (h : Appended who now project chosen draft t answer t')
    (hkind : draft.kind = .blueprint) :
    ∀ b ∈ t.blueprintsOf who.workspace project, b.kind = .blueprint →
      b.id < answer.blueprint.id := by
  intro b hb hblueprint
  obtain ⟨hstored, hproject⟩ := Memory.mem_blueprintsOf.mp hb
  exact h.newer hkind b (Memory.mem_newestFirst.mpr ⟨hstored, hproject, hblueprint⟩)

/-- Appending a draft goes on with the timelines of its project. -/
theorem timeline (h : Appended who now project chosen draft t answer t')
    (hkeys : draft.keys.Nodup) {commits : List Commit}
    (htimeline : Timeline (t.blueprintsOf who.workspace project)
      (t.valuesOf who.workspace project) commits) :
    Timeline (t'.blueprintsOf who.workspace project) (t'.valuesOf who.workspace project)
      (commits ++ if draft.kind = .blueprint then [⟨answer.blueprint.id, draft⟩] else []) := by
  rw [h.blueprintsOf, h.valuesOf]
  cases hkind : draft.kind with
  | mask =>
      rw [if_neg (by simp), List.append_nil]
      refine htimeline.append_mask (h.kind_eq.trans hkind) ?_
      refine forall₂_forall_right h.rows ?_
      rintro v row ⟨u, rfl⟩
      exact ⟨rfl, by simp [rowOf, rowsEnd, hkind]⟩
  | blueprint =>
      rw [if_pos rfl]
      refine htimeline.append_blueprint hkeys (h.kind_eq.trans hkind) (h.newer_of_mem hkind) ?_
      refine h.rows.imp ?_
      rintro v row ⟨u, rfl⟩
      exact ⟨rfl, rfl, by simp [rowOf, rowsEnd, hkind]⟩

end Versioning.Appended

end ConfigTimeline
