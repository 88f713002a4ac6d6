import ConfigTimeline.Proofs.Timeline.History

/-!
The rows of a key as a store answers them, on whatever store and after whatever calls. The rows that
blueprints brought in form one timeline without gaps; those that masks brought in are effective at no
blueprint. Which record brought a row in is again asked of the store.
-/

namespace ConfigTimeline

/-- The rows of a key that blueprints brought in, by the order of those. -/
def blueprintRows (kindOf : BlueprintId → Option BlueprintKind) (key : String)
    (rows : List ValueRow) : List ValueRow :=
  sortBy (fun a b => decide (a.validFrom ≤ b.validFrom)) <|
    rows.filter fun row => row.key == key && kindOf row.validFrom == some .blueprint

/-- The rows of a project stand in timelines, one for each key that a commit set. -/
structure Chained (kindOf : BlueprintId → Option BlueprintKind) (commits : List Commit)
    (rows : List ValueRow) : Prop where
  introduced : ∀ row ∈ rows, (kindOf row.validFrom).isSome = true
  gapless : ∀ key, Gapless (blueprintRows kindOf key rows)
  increasing : ∀ key, (blueprintRows kindOf key rows).Pairwise fun earlier later =>
    earlier.validFrom < later.validFrom
  disjoint : ∀ key b, (rows.filter fun row => row.key == key && row.effectiveAt b).length ≤ 1
  positive : ∀ row ∈ rows, kindOf row.validFrom = some .blueprint →
    ∀ ending, row.validTo = some ending → row.validFrom < ending
  oneOpen : ∀ key, (∃ c ∈ commits, key ∈ c.draft.keys) →
    ∃ row, rows.filter (fun row => row.key == key && row.isOpen) = [row]
  noneOpen : ∀ key, (∀ c ∈ commits, key ∉ c.draft.keys) →
    rows.filter (fun row => row.key == key && row.isOpen) = []
  masks : ∀ row ∈ rows, kindOf row.validFrom = some .mask →
    row.validTo = some row.validFrom ∧ ∀ b, row.effectiveAt b = false

theorem eq_toList_of_perm {α : Type} {rows : List α} {found : Option α}
    (h : rows.Perm found.toList) : rows = found.toList := by
  cases found with
  | none => exact List.perm_nil.mp h
  | some a => exact List.perm_singleton.mp h

namespace Timeline

variable {records : List Blueprint} {stored : List ValueRow} {commits : List Commit}
  {kindOf : BlueprintId → Option BlueprintKind}

theorem kindOf_eq (h : Timeline records stored commits)
    (hkind : ∀ id kind, kindOf id = some kind ↔ ∃ b ∈ records, b.id = id ∧ b.kind = kind)
    {row : ValueRow} (hrow : row ∈ stored) :
    kindOf row.validFrom = some (if row.lasts then .blueprint else .mask) := by
  obtain ⟨b, hb, hid, hmask⟩ := h.introduced row hrow
  rw [hkind]
  refine ⟨b, hb, hid, ?_⟩
  cases hlasts : row.lasts with
  | false => exact hmask.mpr (ValueRow.endsAtStart_of_not_lasts hlasts)
  | true =>
      have hends : row.validTo ≠ some row.validFrom := bne_iff_ne.mp hlasts
      cases hb' : b.kind with
      | blueprint => rfl
      | mask => exact absurd (hmask.mp hb') hends

/-- Rows of a key that are effective somewhere are among those that last. -/
theorem filter_effectiveAt (rows : List ValueRow) (key : String) (b : BlueprintId) :
    (rows.filter fun row => row.key == key && row.effectiveAt b) =
      (chain key rows).filter (·.effectiveAt b) := by
  rw [chain, List.filter_filter]
  apply List.filter_congr
  intro row _
  cases hlasts : row.lasts with
  | true => simp [Bool.and_comm]
  | false =>
      have hends := ValueRow.endsAtStart_of_not_lasts hlasts
      simp [ValueRow.effectiveAt_of_endsAtStart hends]

theorem filter_isOpen (rows : List ValueRow) (key : String) :
    (rows.filter fun row => row.key == key && row.isOpen) =
      (chain key rows).filter (·.isOpen) := by
  rw [chain, List.filter_filter]
  apply List.filter_congr
  intro row _
  cases hopen : row.isOpen with
  | true => simp [ValueRow.lasts_of_isOpen hopen]
  | false => simp

section Stored

variable {rows : List ValueRow}

theorem kindOf_of_mem (h : Timeline records stored commits)
    (hkind : ∀ id kind, kindOf id = some kind ↔ ∃ b ∈ records, b.id = id ∧ b.kind = kind)
    (hrows : rows.Perm stored) : ∀ row ∈ rows,
      kindOf row.validFrom = some (if row.lasts then .blueprint else .mask) :=
  fun _ hrow => h.kindOf_eq hkind (hrows.mem_iff.mp hrow)

/-- What the store says of the records picks the rows that last. -/
theorem blueprintRows_eq_chain (h : Timeline records stored commits)
    (hkind : ∀ id kind, kindOf id = some kind ↔ ∃ b ∈ records, b.id = id ∧ b.kind = kind)
    (hrows : rows.Perm stored) (key : String) :
    blueprintRows kindOf key rows = chain key stored := by
  have hsame : (rows.filter fun row =>
      row.key == key && kindOf row.validFrom == some .blueprint) = chain key rows := by
    apply List.filter_congr
    intro row hrow
    rw [h.kindOf_of_mem hkind hrows row hrow]
    cases row.lasts <;> simp
  rw [blueprintRows, hsame]
  exact sortBy_eq_of_perm (fun _ _ => decide_eq_true_iff) (hrows.filter _) (h.gapless key).pairwise_validFrom

theorem openRows_eq (h : Timeline records stored commits) (hrows : rows.Perm stored)
    (key : String) :
    (rows.filter fun row => row.key == key && row.isOpen) =
      (chain key stored).getLast?.toList := by
  apply eq_toList_of_perm
  rw [← (h.gapless key).filter_isOpen, ← filter_isOpen]
  exact hrows.filter _

theorem chain_eq_nil_iff (h : Timeline records stored commits) {key : String} :
    chain key stored = [] ↔ ∀ c ∈ commits, key ∉ c.draft.keys := by
  rw [← settings_eq_nil, ← h.values key, List.map_eq_nil_iff]

theorem chained (h : Timeline records stored commits)
    (hkind : ∀ id kind, kindOf id = some kind ↔ ∃ b ∈ records, b.id = id ∧ b.kind = kind)
    (hrows : rows.Perm stored) : Chained kindOf commits rows := by
  have hkinds := h.kindOf_of_mem hkind hrows
  have hchain := h.blueprintRows_eq_chain hkind hrows
  have hopen := h.openRows_eq hrows
  refine {
    introduced := ?_
    gapless := ?_
    increasing := ?_
    disjoint := ?_
    positive := ?_
    oneOpen := ?_
    noneOpen := ?_
    masks := ?_ }
  · intro row hrow
    rw [hkinds row hrow]
    rfl
  · intro key
    rw [hchain]
    exact h.gapless key
  · intro key
    rw [hchain]
    exact (h.gapless key).pairwise_validFrom
  · intro key b
    rw [(hrows.filter _).length_eq, filter_effectiveAt, (h.gapless key).filter_effectiveAt]
    exact Option.length_toList_le
  · intro row hrow hsome ending hending
    have hlasts : row.lasts = true := by
      rw [hkinds row hrow] at hsome
      by_contra hnot
      simp [hnot] at hsome
    have hmem : row ∈ chain row.key stored :=
      mem_chain.mpr ⟨hrows.mem_iff.mp hrow, rfl, hlasts⟩
    exact (h.gapless row.key).validFrom_lt_validTo hmem hending
  · rintro key ⟨c, hc, hkey⟩
    have hne : chain key stored ≠ [] := fun hnil => h.chain_eq_nil_iff.mp hnil c hc hkey
    refine ⟨(chain key stored).getLast hne, ?_⟩
    rw [hopen, List.getLast?_eq_some_getLast hne]
    rfl
  · intro key hunset
    rw [hopen, h.chain_eq_nil_iff.mpr hunset]
    rfl
  · intro row hrow hsome
    have hends : row.validTo = some row.validFrom := by
      rw [hkinds row hrow] at hsome
      apply ValueRow.endsAtStart_of_not_lasts
      by_contra hnot
      simp [hnot] at hsome
    exact ⟨hends, ValueRow.effectiveAt_of_endsAtStart hends⟩

end Stored

end Timeline

namespace Service

variable {b : Backend}

def kindOf (s : Service b) (workspace : String) (project : ProjectId) (id : BlueprintId) :
    Option BlueprintKind :=
  ((s.answer workspace (.kinds project [id])).toOption.bind List.head?).map Prod.snd

end Service

theorem Memory.kinds_singleton (t : Memory.Tables) (workspace : String) (project : ProjectId)
    (id : BlueprintId) :
    t.kinds workspace project [id] =
      (((t.blueprintById workspace id).filter (·.project == project)).map
        fun b => (b.id, b.kind)).toList := by
  unfold Memory.Tables.kinds
  cases hfound : (t.blueprintById workspace id).filter (·.project == project) <;> simp [hfound]

namespace StoreKind

variable {kind : StoreKind} {s : Service kind.backend} {t : Memory.Tables}

theorem answer_rows (hstore : kind.tableModel.Holds s.store t) (workspace : String)
    (project : ProjectId) :
    ∃ rows, s.answer workspace (.rows project) = .ok rows ∧
      rows.Perm (t.valuesOf workspace project) := by
  cases kind with
  | memory =>
      obtain ⟨rfl, -⟩ := hstore
      exact ⟨_, rfl, List.Perm.refl _⟩
  | database =>
      obtain ⟨rows, hperm, hok⟩ := hstore.1.rows workspace project
      exact ⟨rows, hok, hperm⟩

theorem answer_kinds (hstore : kind.tableModel.Holds s.store t) (workspace : String)
    (project : ProjectId) (id : BlueprintId) :
    s.answer workspace (.kinds project [id]) = .ok (t.kinds workspace project [id]) := by
  cases kind with
  | memory =>
      obtain ⟨rfl, -⟩ := hstore
      rfl
  | database =>
      obtain ⟨kinds, hperm, hok⟩ :=
        hstore.1.kinds workspace hstore.2 project (List.nodup_singleton id)
      refine Eq.trans hok (congrArg Except.ok ?_)
      rw [Memory.kinds_singleton] at hperm ⊢
      exact eq_toList_of_perm hperm

theorem kindOf_eq_some (hstore : kind.tableModel.Holds s.store t) {workspace : String}
    {project : ProjectId} {id : BlueprintId} {found : BlueprintKind} :
    s.kindOf workspace project id = some found ↔
      ∃ b ∈ t.blueprintsOf workspace project, b.id = id ∧ b.kind = found := by
  have hconstrained := kind.tableModel.constrained (kind.tableModel.start .read hstore)
  have hfound : s.kindOf workspace project id = some found ↔
      ∃ b, t.blueprintById workspace id = some b ∧ b.project = project ∧ b.kind = found := by
    rw [Service.kindOf, answer_kinds hstore, Memory.kinds_singleton, Except.toOption,
      Option.bind_some, Option.head?_toList, Option.map_map, Option.map_eq_some_iff]
    simp [Option.filter_eq_some_iff, and_assoc]
  rw [hfound]
  constructor
  · rintro ⟨b, hstored, hproject, hkind⟩
    obtain ⟨hb, hid⟩ := (Memory.blueprintById_eq_some hconstrained).mp hstored
    exact ⟨b, Memory.mem_blueprintsOf.mpr ⟨hb, hproject⟩, hid, hkind⟩
  · rintro ⟨b, hb, hid, hkind⟩
    obtain ⟨hstored, hproject⟩ := Memory.mem_blueprintsOf.mp hb
    exact ⟨b, (Memory.blueprintById_eq_some hconstrained).mpr ⟨hstored, hid⟩, hproject, hkind⟩

end StoreKind

/-- After any calls, on either kind of store, the rows of each project are chained as its commits say,
and the record that brought in each of them is there. -/
theorem Service.rows_chained (kind : StoreKind) (directory : Directory)
    (calls : List ServiceCall) (workspace : String) (project : ProjectId) :
    let ran := (Service.new kind directory).run calls
    ∃ rows, ran.2.answer workspace (.rows project) = .ok rows ∧
      Chained (ran.2.kindOf workspace project) (commits workspace project ran.1) rows := by
  obtain ⟨t, hstore, hrecorded⟩ := kind.run_recorded directory calls
  obtain ⟨rows, hok, hperm⟩ := StoreKind.answer_rows hstore workspace project
  refine ⟨rows, hok, (hrecorded.timelines workspace project).chained ?_ hperm⟩
  intro id found
  exact StoreKind.kindOf_eq_some hstore

end ConfigTimeline
