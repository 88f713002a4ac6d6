import ConfigTimeline.Proofs.Service.Answers
import ConfigTimeline.Proofs.Timeline.Masks

/-!
What a create brought in reads back for ever, with nothing else among it. The rows of a blueprint are
effective at the blueprint itself, however they end later. The rows of a mask are effective nowhere, so
that no read without a mask ever shows one of them.
-/

namespace ConfigTimeline

def ValueRow.withoutEnd (row : ValueRow) : ValueRow := { row with validTo := none }

theorem ValueRow.Becomes.withoutEnd_eq {row later : ValueRow} (h : row.Becomes later) :
    later.withoutEnd = row.withoutEnd := by
  rcases h with rfl | ⟨-, ending, rfl⟩ <;> rfl

/-- A row that lasts is effective at the blueprint that it began at. -/
theorem Timeline.effectiveAt_validFrom {records : List Blueprint} {rows : List ValueRow}
    {commits : List Commit} (h : Timeline records rows commits) {row : ValueRow}
    (hrow : row ∈ rows) (hlasts : row.lasts = true) : row.effectiveAt row.validFrom = true := by
  have hchain : row ∈ chain row.key rows := mem_chain.mpr ⟨hrow, rfl, hlasts⟩
  unfold ValueRow.effectiveAt
  cases hending : row.validTo with
  | none => simp
  | some ending =>
      have hlater : row.validFrom < ending :=
        (h.gapless row.key).validFrom_lt_validTo hchain hending
      simp [hlater]

namespace Memory.Tables.Introduces

variable {t : Tables} {workspace : String} {draft : Draft} {made : BlueprintView}

theorem map_withoutEnd (h : t.Introduces workspace draft made) :
    (t.delta workspace made.blueprint.id).map ValueRow.withoutEnd =
      made.values.map ValueRow.withoutEnd :=
  (forall₂_map_eq h.stored fun _ _ hrow => hrow.withoutEnd_eq.symm).symm

theorem validFrom_of_mem {row : ValueRow} (hrow : row ∈ t.delta workspace made.blueprint.id) :
    row.validFrom = made.blueprint.id :=
  of_decide_eq_true (List.mem_filter.mp hrow).2

theorem project_of_mem (h : t.Introduces workspace draft made) {row : ValueRow}
    (hrow : row ∈ t.delta workspace made.blueprint.id) :
    row.project = made.blueprint.project := by
  have hsame : row.withoutEnd ∈ made.values.map ValueRow.withoutEnd := by
    rw [← h.map_withoutEnd]
    exact List.mem_map_of_mem hrow
  obtain ⟨first, hfirst, heq⟩ := List.mem_map.mp hsame
  have hproject : ∀ row ∈ made.values, row.project = made.blueprint.project := by
    refine forall₂_forall_right h.rows ?_
    rintro v row ⟨u, rfl⟩
    rfl
  exact (congrArg ValueRow.project heq).symm.trans (hproject first hfirst)

end Memory.Tables.Introduces

/-- A row that began at a mask has ended there, and one that began at a blueprint has not. -/
theorem Recorded.kind_eq_mask_iff {log : List LogEntry} {t : Memory.Tables} (h : Recorded log t)
    (hconstrained : Memory.Constrained t) {workspace : String} {project : ProjectId}
    {b : Blueprint} (hb : b ∈ t.blueprintsOf workspace project) {row : ValueRow}
    (hrow : row ∈ t.valuesOf workspace project) (hfrom : row.validFrom = b.id) :
    b.kind = .mask ↔ row.validTo = some row.validFrom := by
  obtain ⟨first, hfirst, hid, hmask⟩ := (h.timelines workspace project).introduced row hrow
  obtain rfl : first = b := Memory.eq_of_blueprintId hconstrained
    (Memory.mem_blueprintsOf.mp hfirst).1 (Memory.mem_blueprintsOf.mp hb).1 (hid.trans hfrom)
  exact hmask

namespace DeltasKept

variable {log : List LogEntry} {t : Memory.Tables} {entry : LogEntry} {workspace : String}
  {r : CreateRequest} {made : BlueprintView}

theorem introduces_of_created (h : DeltasKept log t) (hentry : entry ∈ log)
    (hcreated : entry.Created workspace r made) :
    t.Introduces workspace r.draft made ∧
      made.blueprint ∈ t.blueprintsOf workspace made.blueprint.project := by
  obtain ⟨rfl, hoperation, hresult⟩ := hcreated
  exact ⟨h.introduces entry hentry r made hoperation hresult,
    h.recorded.mem_of_created hentry hoperation hresult⟩

end DeltasKept

section Delta

variable {log : List LogEntry} {t : Memory.Tables} {workspace : String} {draft : Draft}
  {made : BlueprintView} {row : ValueRow}

theorem Memory.Tables.Introduces.mem_valuesOf (h : t.Introduces workspace draft made)
    (hrow : row ∈ t.delta workspace made.blueprint.id) :
    row ∈ t.valuesOf workspace made.blueprint.project :=
  List.mem_filter.mpr ⟨(List.mem_filter.mp hrow).1, beq_iff_eq.mpr (h.project_of_mem hrow)⟩

/-- What a blueprint brought in is effective at the blueprint. -/
theorem Recorded.mem_effective_of_mem_delta (hrecorded : Recorded log t)
    (hconstrained : Memory.Constrained t) (h : t.Introduces workspace draft made)
    (hmade : made.blueprint ∈ t.blueprintsOf workspace made.blueprint.project)
    (hkind : made.blueprint.kind = .blueprint)
    (hrow : row ∈ t.delta workspace made.blueprint.id) :
    row ∈ t.effective workspace made.blueprint.project made.blueprint.id := by
  have hfrom : row.validFrom = made.blueprint.id := Memory.Tables.Introduces.validFrom_of_mem hrow
  have hstored := h.mem_valuesOf hrow
  have hlasts : row.lasts = true := by
    refine bne_iff_ne.mpr fun hends => ?_
    rw [(hrecorded.kind_eq_mask_iff hconstrained hmade hstored hfrom).mpr hends] at hkind
    cases hkind
  have heffective :=
    (hrecorded.timelines workspace made.blueprint.project).effectiveAt_validFrom hstored hlasts
  rw [hfrom] at heffective
  exact List.mem_filter.mpr ⟨hstored, heffective⟩

/-- What a mask brought in is effective at no blueprint. -/
theorem Recorded.effectiveAt_of_mem_delta (hrecorded : Recorded log t)
    (hconstrained : Memory.Constrained t) (h : t.Introduces workspace draft made)
    (hmade : made.blueprint ∈ t.blueprintsOf workspace made.blueprint.project)
    (hkind : made.blueprint.kind = .mask)
    (hrow : row ∈ t.delta workspace made.blueprint.id) (b : BlueprintId) :
    row.effectiveAt b = false :=
  ValueRow.effectiveAt_of_endsAtStart ((hrecorded.kind_eq_mask_iff hconstrained hmade
    (h.mem_valuesOf hrow) (Memory.Tables.Introduces.validFrom_of_mem hrow)).mp hkind) b

end Delta

/-- A view of what a draft brought in with a record: one row for each value of the draft, with the id,
the key, the value and all else that the create answered with, but for where the row ends by now. -/
structure BringsBack (draft : Draft) (made shown : BlueprintView) : Prop where
  blueprint : shown.blueprint = made.blueprint
  submitted : made.values.map ValueRow.submitted = draft.values
  rows : (shown.values.map ValueRow.withoutEnd).Perm (made.values.map ValueRow.withoutEnd)
  ids : (shown.values.map (·.id)).Nodup
  validFrom : ∀ row ∈ shown.values, row.validFrom = made.blueprint.id

theorem Memory.Tables.Introduces.bringsBack {t : Tables} {workspace : String} {draft : Draft}
    {made : BlueprintView} (h : t.Introduces workspace draft made) (hconstrained : Constrained t)
    {rows : List ValueRow} (hrows : rows.Perm (t.delta workspace made.blueprint.id)) :
    BringsBack draft made ⟨made.blueprint, [], rows⟩ where
  blueprint := rfl
  submitted := h.map_submitted
  rows := by
    rw [← h.map_withoutEnd]
    exact hrows.map _
  ids := by
    rw [(hrows.map _).nodup_iff]
    exact (nodup_map_recordsIn hconstrained.valueIds workspace).sublist (List.filter_sublist.map _)
  validFrom := by
    intro row hrow
    exact validFrom_of_mem (hrows.mem_iff.mp hrow)

/-- After any calls, on either kind of store, what a create answered with is brought back by asking
for what its record brought in. If the record is a blueprint, all of it is among the values there; if
it is a mask, none of it is among the values of any blueprint that is read without a mask. The clock
that a database is used under shows years of four digits. -/
theorem Service.deltas_permanent (kind : StoreKind) (directory : Directory)
    (calls : List ServiceCall)
    (hclock : kind = .database → ∀ call ∈ calls, call.supply.now.FourDigitYear)
    (policy : MaskPolicy) (who : Identity) (supply : Supply) :
    let ran := (Service.new kind directory).run calls
    let result (op : Operation) := (ran.2.handle policy who supply op).result
    ∀ entry ∈ ran.1, ∀ r made, entry.Created who.workspace r made →
      ∃ shown, result (.delta made.blueprint.id) = .ok (.view shown) ∧
        BringsBack r.draft made shown ∧
        (r.draft.kind = .blueprint → ∃ v, result (.get made.blueprint.id none) = .ok (.view v) ∧
          v.blueprint = made.blueprint ∧ shown.values ⊆ v.values) ∧
        (r.draft.kind = .mask → ∀ (read : BlueprintRead) v,
          result (read.operation none) = .ok (.view v) →
            (shown.values.map (·.id)).Disjoint (v.values.map (·.id))) := by
  intro ran result entry hentry r made hcreated
  obtain ⟨t, hstore, hkept⟩ := kind.run_deltasKept directory calls
  have hconstrained : Memory.Constrained t :=
    kind.tableModel.constrained (kind.tableModel.start .read hstore)
  have hlegible := hkept.recorded.legible hclock
  obtain ⟨hintroduces, hmade⟩ := hkept.introduces_of_created hentry hcreated
  have hfound : t.blueprintById who.workspace made.blueprint.id = some made.blueprint :=
    (Memory.blueprintById_eq_some hconstrained).mpr ⟨(Memory.mem_blueprintsOf.mp hmade).1, rfl⟩
  obtain ⟨rows, hrows, hdelta⟩ :=
    kind.tableModel.exists_delta hstore hlegible policy who supply hfound
  refine ⟨_, hdelta, hintroduces.bringsBack hconstrained hrows, ?_, ?_⟩
  · intro hkind
    rw [← hintroduces.kind] at hkind
    obtain ⟨v, hresult, hshown⟩ := BlueprintRead.shows_of_found hstore hlegible policy who supply
      (.get made.blueprint.id) (Memory.lookUpId_of_mem hconstrained
        (hkept.recorded.configOf_ne_none hmade) hmade hkind)
    refine ⟨v, hresult, hshown.blueprint, ?_⟩
    intro row hrow
    exact hshown.values.mem_iff.mpr (hkept.recorded.mem_effective_of_mem_delta hconstrained
      hintroduces hmade hkind (hrows.mem_iff.mp hrow))
  · intro hkind read v hresult
    rw [← hintroduces.kind] at hkind
    obtain ⟨b, -, hshown⟩ := BlueprintRead.exists_shown hstore hlegible hresult
    intro id hbrought hread
    obtain ⟨row, hrow, rfl⟩ := List.mem_map.mp hbrought
    obtain ⟨other, hother, hid⟩ := List.mem_map.mp hread
    obtain ⟨hvalue, heffective⟩ := List.mem_filter.mp (hshown.values.mem_iff.mp hother)
    have hmem := hrows.mem_iff.mp hrow
    -- One id is that of one row, and a row of a mask is not effective.
    obtain rfl : other = row := List.inj_on_of_nodup_map
      (nodup_map_recordsIn hconstrained.valueIds who.workspace)
      (List.mem_filter.mp hvalue).1 (List.mem_filter.mp hmem).1 hid
    have hnowhere :=
      hkept.recorded.effectiveAt_of_mem_delta hconstrained hintroduces hmade hkind hmem b.id
    exact absurd heffective (Bool.not_eq_true _ ▸ hnowhere)

/-- A row that a later blueprint has ended, with a mask made in between. -/
theorem Service.deltas_permanent_ended :
    let who : Identity := ⟨"w", "u"⟩
    let project : ProjectId := .ofNat 7
    let supply (first : Nat) : Supply :=
      ⟨.ofUnix 1700000000 0, fun n => .ofNat (first + n), project⟩
    let create (first id : Nat) (kind : BlueprintKind) (value : String) : ServiceCall :=
      ⟨.reject, who, supply first,
        .create ⟨none, some "p", none, ⟨some ⟨.ofNat id⟩, kind, none, [⟨"k", value, .string, none⟩]⟩⟩⟩
    let calls := [create 10 1 .blueprint "old", create 20 2 .mask "over",
      create 30 3 .blueprint "new"]
    let ran := (Service.new .database (.memory .empty)).run calls
    let result (op : Operation) := (ran.2.handle .reject who (supply 40) op).result
    (∀ call ∈ calls, call.supply.now.FourDigitYear) ∧
      ∃ entry ∈ ran.1, ∃ r made shown v, entry.Created "w" r made ∧
        result (.delta ⟨.ofNat 1⟩) = .ok (.view shown) ∧ BringsBack r.draft made shown ∧
        shown.values.map (·.validTo) = [some ⟨.ofNat 3⟩] ∧
        result (.get ⟨.ofNat 1⟩ none) = .ok (.view v) ∧ shown.values ⊆ v.values := by
  intro who project supply create calls ran result
  have hclock : ∀ call ∈ calls, call.supply.now.FourDigitYear := by decide +kernel
  let first := ((Service.new .database (.memory .empty)).handle .reject who (supply 10)
    (create 10 1 .blueprint "old").operation).result
  have hresults : (viewOf? first).map (·.blueprint.id) = some ⟨.ofNat 1⟩ ∧
      (viewOf? (result (.delta ⟨.ofNat 1⟩))).map (·.values.map (·.validTo)) =
        some [some ⟨.ofNat 3⟩] := by
    decide +kernel
  obtain ⟨hmade, hended⟩ := hresults
  obtain ⟨made, hmade, hid⟩ := Option.map_eq_some_iff.mp hmade
  obtain ⟨shown, hshown, hended⟩ := Option.map_eq_some_iff.mp hended
  have hcreated : (⟨create 10 1 .blueprint "old", first⟩ : LogEntry).Created "w" _ made :=
    ⟨rfl, rfl, eq_of_viewOf? hmade⟩
  obtain ⟨shown', hdelta, hbrought, hblueprint, -⟩ := Service.deltas_permanent .database
    (.memory .empty) calls (fun _ => hclock) .reject who (supply 40) _ List.mem_cons_self _ made
    hcreated
  obtain ⟨v, hget, -, hsub⟩ := hblueprint rfl
  rw [hid] at hdelta hget
  obtain rfl : shown = shown' :=
    Reply.view.inj (Except.ok.inj ((eq_of_viewOf? hshown).symm.trans hdelta))
  exact ⟨hclock, _, List.mem_cons_self, _, made, shown, v, hcreated, hdelta, hbrought, hended, hget,
    hsub⟩

end ConfigTimeline
