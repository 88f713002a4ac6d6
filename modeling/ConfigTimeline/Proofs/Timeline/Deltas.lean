import ConfigTimeline.Proofs.Service.Reading
import ConfigTimeline.Proofs.Timeline.AppendOnly

/-!
What a blueprint or a mask brought in stays what it is. The rows that a create answers with are stored,
and no others begin at its record, in whatever project: ids of records are never given twice in a
workspace. Later blueprints may end the rows of a blueprint; the rows of a mask have ended from the
start and never change.
-/

namespace ConfigTimeline

theorem forall₂_trans {α : Type} {R : α → α → Prop} (htrans : ∀ a b c, R a b → R b c → R a c)
    {xs ys zs : List α} (h : List.Forall₂ R xs ys) (h' : List.Forall₂ R ys zs) :
    List.Forall₂ R xs zs := by
  induction h generalizing zs with
  | nil => exact h'
  | cons hxy _ ih =>
      cases h' with
      | cons hyz hrest => exact .cons (htrans _ _ _ hxy hyz) (ih hrest)

/-- What a stored row may be later: the same, or ended if it was open. -/
def ValueRow.Becomes (row later : ValueRow) : Prop :=
  later = row ∨ row.validTo = none ∧ ∃ ending, later = { row with validTo := some ending }

namespace ValueRow.Becomes

variable {row later last : ValueRow}

theorem trans (h : row.Becomes later) (h' : later.Becomes last) : row.Becomes last := by
  rcases h with rfl | ⟨hopen, ending, rfl⟩
  · exact h'
  · rcases h' with rfl | ⟨hclosed, -⟩
    · exact Or.inr ⟨hopen, ending, rfl⟩
    · cases hclosed

theorem eq_of_ended (h : row.Becomes later) {ending : BlueprintId}
    (hended : row.validTo = some ending) : later = row := by
  rcases h with rfl | ⟨hopen, -⟩
  · rfl
  · rw [hended] at hopen
    cases hopen

theorem validFrom_eq (h : row.Becomes later) : later.validFrom = row.validFrom := by
  rcases h with rfl | ⟨-, ending, rfl⟩ <;> rfl

end ValueRow.Becomes

theorem LogEntry.LeavesValue.becomes {entry : LogEntry} {row later : Scoped ValueRow}
    (h : entry.LeavesValue row later) :
    later.workspace = row.workspace ∧ row.record.Becomes later.record := by
  cases h with
  | same => exact ⟨rfl, Or.inl rfl⟩
  | ended c hcommit hkey hopen hlater => exact ⟨rfl, Or.inr ⟨hopen, c.blueprint, rfl⟩⟩

namespace Memory

theorem forall₂_recordsIn {α : Type} {R : α → α → Prop} {rows rows' : List (Scoped α)}
    (h : List.Forall₂ (fun row row' => row'.workspace = row.workspace ∧ R row.record row'.record)
      rows rows') (workspace : String) :
    List.Forall₂ R (recordsIn workspace rows) (recordsIn workspace rows') := by
  induction h with
  | nil => exact .nil
  | cons hrow _ ih =>
      rw [recordsIn_cons, recordsIn_cons, hrow.1]
      split
      · exact .cons hrow.2 ih
      · exact ih

theorem forall₂_introducedBy {rows rows' : List ValueRow}
    (h : List.Forall₂ ValueRow.Becomes rows rows') (id : BlueprintId) :
    List.Forall₂ ValueRow.Becomes (rows.filter (·.introducedBy id))
      (rows'.filter (·.introducedBy id)) := by
  refine List.rel_filter ?_ h
  intro row later hrow
  simp [ValueRow.introducedBy, hrow.validFrom_eq]

end Memory

/-- The rows that a draft brought in with a record, as a create answered with them, are those that
begin at the record. -/
structure Memory.Tables.Introduces (t : Memory.Tables) (workspace : String) (draft : Draft)
    (made : BlueprintView) : Prop where
  kind : made.blueprint.kind = draft.kind
  keys : draft.keys.Nodup
  rows : List.Forall₂
    (fun v row => ∃ u, row = Versioning.rowOf made.blueprint.project made.blueprint.id
      (Versioning.rowsEnd draft made.blueprint.id) u v) draft.values made.values
  stored : List.Forall₂ ValueRow.Becomes made.values (t.delta workspace made.blueprint.id)

namespace Memory.Tables.Introduces

variable {t t' : Tables} {workspace : String} {draft : Draft} {made : BlueprintView}

/-- Rows that become others are introduced as they were. -/
theorem mono (h : t.Introduces workspace draft made)
    (hbecome : List.Forall₂ ValueRow.Becomes (t.delta workspace made.blueprint.id)
      (t'.delta workspace made.blueprint.id)) : t'.Introduces workspace draft made :=
  { h with stored := forall₂_trans (R := ValueRow.Becomes) (fun _ _ _ => .trans) h.stored hbecome }

/-- The rows hold the values of the draft. -/
theorem map_submitted (h : t.Introduces workspace draft made) :
    made.values.map ValueRow.submitted = draft.values := by
  have hsame : draft.values.map id = made.values.map ValueRow.submitted := by
    refine forall₂_map_eq h.rows ?_
    rintro v row ⟨u, rfl⟩
    rfl
  rw [← hsame, List.map_id]

theorem map_key (h : t.Introduces workspace draft made) :
    made.values.map (·.key) = draft.keys := by
  rw [Draft.keys, ← h.map_submitted, List.map_map]
  rfl

theorem value?_eq (h : t.Introduces workspace draft made) (key : String) :
    (made.value? key).map ValueRow.submitted = draft.value? key := by
  rw [Draft.value?, ← h.map_submitted, List.find?_map]
  rfl

/-- The rows of a mask are stored as they were brought in. -/
theorem delta_of_mask (h : t.Introduces workspace draft made)
    (hmask : made.blueprint.kind = .mask) :
    t.delta workspace made.blueprint.id = made.values := by
  have hended : ∀ row ∈ made.values, row.validTo = some made.blueprint.id := by
    refine forall₂_forall_right h.rows ?_
    rintro v row ⟨u, rfl⟩
    simp [Versioning.rowOf, Versioning.rowsEnd, ← h.kind, hmask]
  have hsame : made.values.map id = (t.delta workspace made.blueprint.id).map id :=
    forall₂_map_eq ((List.forall₂_and_left _ _).mpr ⟨hended, h.stored⟩)
      fun _ _ hrow => (hrow.2.eq_of_ended hrow.1).symm
  rw [List.map_id, List.map_id] at hsame
  exact hsame.symm

end Memory.Tables.Introduces

namespace Versioning.Appended

variable {who : Identity} {supply : Supply} {r : CreateRequest} {project : ProjectId}
  {t t' : Memory.Tables} {answer : BlueprintView} {log : List LogEntry}

/-- The rows that began at a record before still do. -/
theorem becomes (h : Appended who supply.now project r.config r.draft t answer t')
    (hrecorded : Recorded log t) (workspace : String) (id : BlueprintId) :
    List.Forall₂ ValueRow.Becomes (t.delta workspace id)
      ((recordsIn workspace (replacedRows who.workspace project r.draft answer.blueprint.id
        t.values)).filter (·.introducedBy id)) := by
  refine Memory.forall₂_introducedBy (Memory.forall₂_recordsIn ?_ workspace) id
  let entry : LogEntry := ⟨⟨.reject, who, supply, .create r⟩, .ok (.view answer)⟩
  have hcommit : r.draft.kind = .blueprint →
      entry.commit? who.workspace project = some ⟨answer.blueprint.id, r.draft⟩ := by
    intro hkind
    simp [entry, LogEntry.commit?, h.project_eq, hkind]
  exact (h.leavesValues (hrecorded.timelines who.workspace project) hcommit).imp
    fun _ _ hrow => hrow.becomes

theorem delta_eq (h : Appended who supply.now project r.config r.draft t answer t')
    (workspace : String) (id : BlueprintId) :
    t'.delta workspace id =
      (recordsIn workspace (replacedRows who.workspace project r.draft answer.blueprint.id
        t.values)).filter (·.introducedBy id) ++
        if who.workspace = workspace ∧ answer.blueprint.id = id then answer.values else [] := by
  have hfrom : ∀ row ∈ answer.values, row.validFrom = answer.blueprint.id := by
    refine forall₂_forall_right h.rows ?_
    rintro v row ⟨u, rfl⟩
    rfl
  rw [Memory.Tables.delta, h.values, recordsIn_append, List.filter_append, recordsIn_map_mk]
  congr 1
  by_cases hown : who.workspace = workspace
  · rw [if_pos hown]
    by_cases hid : answer.blueprint.id = id
    · rw [if_pos ⟨hown, hid⟩, List.filter_eq_self]
      intro row hrow
      exact decide_eq_true ((hfrom row hrow).trans hid)
    · rw [if_neg fun hboth => hid hboth.2, List.filter_eq_nil_iff]
      intro row hrow hintroduced
      exact hid ((hfrom row hrow).symm.trans (of_decide_eq_true hintroduced))
  · rw [if_neg hown, if_neg fun hboth => hown hboth.1]
    rfl

end Versioning.Appended

namespace Recorded

variable {log : List LogEntry} {t : Memory.Tables}

/-- Every row began at a record of its workspace. -/
theorem exists_introducing (h : Recorded log t) {workspace : String} {row : ValueRow}
    (hrow : row ∈ recordsIn workspace t.values) :
    ∃ b ∈ recordsIn workspace t.blueprints, b.id = row.validFrom := by
  have hmem : row ∈ t.valuesOf workspace row.project :=
    List.mem_filter.mpr ⟨hrow, beq_self_eq_true row.project⟩
  obtain ⟨b, hb, hid, -⟩ := (h.timelines workspace row.project).introduced row hmem
  exact ⟨b, (Memory.mem_blueprintsOf.mp hb).1, hid⟩

/-- The record that a create answered with is there. -/
theorem mem_of_created (h : Recorded log t) {entry : LogEntry} (hentry : entry ∈ log)
    {r : CreateRequest} (hoperation : entry.call.operation = .create r) {made : BlueprintView}
    (hresult : entry.result = .ok (.view made)) :
    made.blueprint ∈ t.blueprintsOf entry.call.who.workspace made.blueprint.project := by
  rw [h.stored]
  refine List.mem_filterMap.mpr ⟨entry, hentry, ?_⟩
  simp [LogEntry.added?, hoperation, hresult]

/-- Every record that is there was made by a create. -/
theorem exists_created (h : Recorded log t) {workspace : String} {project : ProjectId}
    {b : Blueprint} (hb : b ∈ t.blueprintsOf workspace project) :
    ∃ entry ∈ log, ∃ r made, entry.call.operation = .create r ∧
      entry.result = .ok (.view made) ∧ entry.call.who.workspace = workspace ∧
      made.blueprint = b := by
  rw [h.stored] at hb
  obtain ⟨entry, hentry, hadded⟩ := List.mem_filterMap.mp hb
  unfold LogEntry.added? at hadded
  split at hadded
  · rename_i r made hoperation hresult
    split at hadded
    · rename_i hown
      exact ⟨entry, hentry, r, made, hoperation, hresult, hown.1, Option.some.inj hadded⟩
    · cases hadded
  · cases hadded

end Recorded

/-- What each call keeps of what was brought in before. -/
structure DeltasKept (log : List LogEntry) (t : Memory.Tables) : Prop where
  recorded : Recorded log t
  introduces : ∀ entry ∈ log, ∀ r made, entry.call.operation = .create r →
    entry.result = .ok (.view made) → t.Introduces entry.call.who.workspace r.draft made

namespace DeltasKept

variable {past : List LogEntry} {t t' : Memory.Tables}

theorem nil : DeltasKept [] .empty := ⟨Recorded.nil, fun _ h => by cases h⟩

/-- A call that leaves values alone leaves what was brought in. -/
theorem concat_of_values (h : DeltasKept past t) {call : ServiceCall}
    {result : Except ServiceError Reply}
    (heffect : Effect call.policy call.who call.supply t call.operation result t')
    (hvalues : t'.values = t.values)
    (hnew : ∀ r made, call.operation = .create r → result ≠ .ok (.view made)) :
    DeltasKept (past ++ [⟨call, result⟩]) t' where
  recorded := h.recorded.concat heffect
  introduces := by
    intro entry hentry r made hoperation hresult
    rcases List.mem_append.mp hentry with hold | hlast
    · refine (h.introduces entry hold r made hoperation hresult).mono ?_
      unfold Memory.Tables.delta
      rw [hvalues]
      exact List.forall₂_same.mpr fun _ _ => Or.inl rfl
    · rw [List.mem_singleton.mp hlast] at hoperation hresult
      exact absurd hresult (hnew r made hoperation)

theorem concat (h : DeltasKept past t) {call : ServiceCall} {result : Except ServiceError Reply}
    (heffect : Effect call.policy call.who call.supply t call.operation result t') :
    DeltasKept (past ++ [⟨call, result⟩]) t' := by
  have hafter := h.recorded.concat heffect
  obtain ⟨policy, who, supply, operation⟩ := call
  cases heffect with
  | failed op e => exact h.concat_of_values (.failed _ e) rfl fun _ _ _ h' => by cases h'
  | read op reply hcreate =>
      exact h.concat_of_values (.read _ reply hcreate) rfl fun r _ hop => absurd hop (hcreate r)
  | bound r reply t' hbound =>
      obtain ⟨config, -, hrepinned⟩ := hbound.repinned
      exact h.concat_of_values (.bound r reply t' hbound) (by rw [hrepinned.same])
        fun _ _ hop => by cases hop
  | created r project answer t' hkeys happended =>
      refine ⟨hafter, ?_⟩
      intro entry hentry r' made hoperation hresult
      rcases List.mem_append.mp hentry with hold | hlast
      · -- The id of a record that is there is not given again.
        refine (h.introduces entry hold r' made hoperation hresult).mono ?_
        have hmade := (Memory.mem_blueprintsOf.mp
          (h.recorded.mem_of_created hold hoperation hresult)).1
        rw [happended.delta_eq, if_neg, List.append_nil]
        · exact happended.becomes h.recorded _ _
        · rintro ⟨hown, hid⟩
          rw [← hown] at hmade
          exact happended.unused made.blueprint hmade hid.symm
      · -- No row has begun at the new record before.
        rw [List.mem_singleton.mp hlast] at hoperation hresult ⊢
        cases hoperation
        cases hresult
        have hnone : t.delta who.workspace answer.blueprint.id = [] := by
          rw [Memory.Tables.delta, List.filter_eq_nil_iff]
          intro row hrow hintroduced
          obtain ⟨b, hb, hid⟩ := h.recorded.exists_introducing hrow
          exact happended.unused b hb (hid.trans (of_decide_eq_true hintroduced))
        have hbefore := happended.becomes h.recorded who.workspace answer.blueprint.id
        rw [hnone, List.forall₂_nil_left_iff] at hbefore
        refine { kind := happended.kind_eq, keys := hkeys, rows := ?_, stored := ?_ }
        · rw [happended.project_eq]
          exact happended.rows
        · rw [happended.delta_eq, hbefore, if_pos ⟨rfl, rfl⟩, List.nil_append]
          exact List.forall₂_same.mpr fun _ _ => Or.inl rfl

end DeltasKept

/-- After a run on a store without contents, what its creates answered with is stored. -/
theorem StoreKind.run_deltasKept (kind : StoreKind) (directory : Directory)
    (calls : List ServiceCall) :
    ∃ t, kind.tableModel.Holds ((Service.new kind directory).run calls).2.store t ∧
      DeltasKept ((Service.new kind directory).run calls).1 t := by
  have hkept := kind.tableModel.run_keeps (P := DeltasKept)
    (fun past t call result t' h heffect => h.concat heffect)
    (s := Service.new kind directory) kind.holds_empty DeltasKept.nil calls
  simpa using hkept

end ConfigTimeline
