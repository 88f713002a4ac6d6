import ConfigTimeline.Proofs.Store.Dates
import ConfigTimeline.Proofs.Store.Representation

/-!
Each query of the database has the answer of the question that it stands for on the tables in memory:
the same record, the same list, or the same records in another order. The points in time of the
records are the only cells that may fail to read back.
-/

namespace ConfigTimeline

theorem Id.text_beq_text {kind : IdKind} (a b : Id kind) : (a.text == b.text) = (a == b) := by
  rw [Bool.eq_iff_iff, beq_iff_eq, beq_iff_eq, Id.text_inj]

theorem ProjectId.text_beq_text (a b : ProjectId) : (a.text == b.text) = (a == b) := by
  rw [Bool.eq_iff_iff, beq_iff_eq, beq_iff_eq, ProjectId.text_inj]

theorem BlueprintKind.text_beq_text (a b : BlueprintKind) : (a.text == b.text) = (a == b) := by
  cases a <;> cases b <;> decide

/-- Of rows without repeated keys, at most one has a key. -/
theorem filter_eq_toList_find? {α κ : Type} [DecidableEq κ] {key : α → κ} {rows : List α}
    (h : (rows.map key).Nodup) (k : κ) :
    rows.filter (key · == k) = (rows.find? (key · == k)).toList := by
  induction rows with
  | nil => rfl
  | cons row rest ih =>
      rw [List.map_cons, List.nodup_cons] at h
      rw [List.filter_cons, List.find?_cons]
      cases hrow : key row == k with
      | false => simpa using ih h.2
      | true =>
          have hnone : rest.filter (key · == k) = [] := by
            rw [List.filter_eq_nil_iff]
            intro other hmem hother
            rw [beq_iff_eq] at hrow hother
            exact h.1 (List.mem_map.mpr ⟨other, hmem, by rw [hother, hrow]⟩)
          simp [hnone]

/-- Rows of which at most one has each key have no repeated keys. -/
theorem nodup_map_of_filter {α κ : Type} [DecidableEq κ] {key : α → κ} {rows : List α}
    (h : ∀ k, (rows.filter (key · == k)).length ≤ 1) : (rows.map key).Nodup := by
  rw [List.nodup_iff_count_le_one]
  intro k
  rw [List.count_eq_countP, List.countP_map, List.countP_eq_length_filter]
  exact h k

/-- Rows with one of several keys, and the rows of each key in turn. -/
theorem perm_flatMap_filter {α κ : Type} [DecidableEq κ] (key : α → κ) (p : α → Bool)
    {keys : List κ} (h : keys.Nodup) (rows : List α) :
    (rows.filter fun row => p row && keys.contains (key row)).Perm
      (keys.flatMap fun k => rows.filter fun row => key row == k && p row) := by
  induction keys with
  | nil => simp
  | cons k rest ih =>
      rw [List.nodup_cons] at h
      have hsplit := List.filter_append_perm (fun row => key row == k)
        (rows.filter fun row => p row && (k :: rest).contains (key row))
      rw [List.flatMap_cons]
      refine hsplit.symm.trans (List.Perm.append ?_ ?_)
      · rw [List.filter_filter]
        apply List.Perm.of_eq
        apply List.filter_congr
        intro row _
        cases hrow : key row == k with
        | false => rfl
        | true => simp [beq_iff_eq.mp hrow]
      · rw [List.filter_filter]
        refine (List.Perm.of_eq ?_).trans (ih h.2)
        apply List.filter_congr
        intro row _
        by_cases hrow : key row = k
        · simp [hrow, h.1]
        · simp [hrow]

section Sorting

variable {α β : Type} [LinearOrder β] {key : α → β} {le : α → α → Bool}

theorem pairwise_le_sortBy (hle : ∀ a b, le a b = true ↔ key a ≤ key b) (rows : List α) :
    (sortBy le rows).Pairwise fun a b => key a ≤ key b := by
  refine (pairwise_sortBy ?_ ?_ rows).imp fun {a b} => (hle a b).mp
  · intro a b
    rw [hle, hle]
    exact le_total (key a) (key b)
  · intro a b c hab hbc
    rw [hle] at hab hbc ⊢
    exact le_trans hab hbc

/-- Sorting by a key that no two rows share leaves no ties. -/
theorem pairwise_lt_sortBy (hle : ∀ a b, le a b = true ↔ key a ≤ key b) {rows : List α}
    (hdistinct : (rows.map key).Nodup) :
    (sortBy le rows).Pairwise fun a b => key a < key b := by
  have hnodup : ((sortBy le rows).map key).Nodup :=
    ((perm_sortBy le rows).map key).nodup_iff.mpr hdistinct
  refine ((pairwise_le_sortBy hle rows).and (List.pairwise_map.mp hnodup)).imp ?_
  rintro a b ⟨hab, hne⟩
  exact lt_of_le_of_ne hab hne

/-- Sorting finds an order that is strict. -/
theorem sortBy_eq_of_perm (hle : ∀ a b, le a b = true ↔ key a ≤ key b) {rows ordered : List α}
    (hperm : rows.Perm ordered) (hordered : ordered.Pairwise fun a b => key a < key b) :
    sortBy le rows = ordered := by
  have hdistinct : (ordered.map key).Nodup := List.pairwise_map.mpr (hordered.imp ne_of_lt)
  refine List.Perm.eq_of_pairwise ?_ (pairwise_le_sortBy hle rows) (hordered.imp le_of_lt)
    ((perm_sortBy _ rows).trans hperm)
  intro a b ha hb hab hba
  have hmem : a ∈ ordered := ((perm_sortBy _ rows).trans hperm).mem_iff.mp ha
  exact List.inj_on_of_nodup_map hdistinct hmem hb (le_antisymm hab hba)

end Sorting

namespace Memory

theorem mem_newestFirst {t : Tables} {workspace : String} {project : ProjectId}
    {kind : BlueprintKind} {b : Blueprint} :
    b ∈ t.newestFirst workspace project kind ↔
      b ∈ recordsIn workspace t.blueprints ∧ b.project = project ∧ b.kind = kind := by
  rw [Tables.newestFirst, (perm_sortBy _ _).mem_iff, List.mem_filter]
  simp

def Tables.blueprintsOf (t : Tables) (workspace : String) (project : ProjectId) :
    List Blueprint :=
  (recordsIn workspace t.blueprints).filter (·.project == project)

theorem mem_blueprintsOf {t : Tables} {workspace : String} {project : ProjectId} {b : Blueprint} :
    b ∈ t.blueprintsOf workspace project ↔
      b ∈ recordsIn workspace t.blueprints ∧ b.project = project := by
  simp [Tables.blueprintsOf, List.mem_filter]

theorem mem_pinsOf {t : Tables} {workspace : String} {project : ProjectId} {pin : Pin} :
    pin ∈ t.pinsOf workspace project ↔ ⟨workspace, pin⟩ ∈ t.pins ∧ pin.project = project := by
  rw [Tables.pinsOf, List.mem_filter, mem_recordsIn, beq_iff_eq]

theorem configOf_eq_some {t : Tables} (h : Constrained t) {workspace : String}
    {project : ProjectId} {config : Config} :
    t.configOf workspace project = some config ↔
      ⟨workspace, config⟩ ∈ t.configs ∧ config.project = project := by
  have hone := filter_eq_toList_find? (nodup_map_recordsIn h.configProjects workspace) project
  rw [Tables.configOf, ← Option.mem_toList, ← hone, List.mem_filter, beq_iff_eq, mem_recordsIn]

theorem blueprintById_eq_some {t : Tables} (h : Constrained t)
    {workspace : String} {id : BlueprintId} {b : Blueprint} :
    t.blueprintById workspace id = some b ↔ b ∈ recordsIn workspace t.blueprints ∧ b.id = id := by
  have hone := filter_eq_toList_find? (nodup_map_recordsIn h.blueprintIds workspace) id
  rw [Tables.blueprintById, ← Option.mem_toList, ← hone, List.mem_filter, beq_iff_eq]

/-- A record of a workspace is told by its id, whatever its project. -/
theorem eq_of_blueprintId {t : Tables} (h : Constrained t)
    {workspace : String} {a b : Blueprint} (ha : a ∈ recordsIn workspace t.blueprints)
    (hb : b ∈ recordsIn workspace t.blueprints) (hid : a.id = b.id) : a = b :=
  List.inj_on_of_nodup_map (nodup_map_recordsIn h.blueprintIds workspace) ha hb hid

end Memory

namespace Database

/-- Rows of cells stand for rows of records. -/
structure Represents (d : Tables) (t : Memory.Tables) : Prop where
  configs : List.Forall₂ (fun cells row => cells = .of row.workspace row.record)
    d.configs t.configs
  blueprints : List.Forall₂ (fun cells row => ∃ config, cells = .of row.workspace config row.record)
    d.blueprints t.blueprints
  values : List.Forall₂ (fun cells row => ∃ config, cells = .of row.workspace config row.record)
    d.values t.values
  pins : List.Forall₂ (fun cells row => cells = .of row.workspace row.record) d.pins t.pins

theorem represents_empty : Represents .empty .empty := by
  constructor <;> exact .nil

namespace Represents

variable {d : Tables} {t : Memory.Tables} (h : Represents d t) (workspace : String)

theorem readConfig {a : Config} (ha : a ∈ recordsIn workspace t.configs) :
    ReadsAs t.Dated (ConfigCells.of workspace a).read a :=
  (ConfigCells.read_of workspace a).mono fun hdated => hdated.configs _ (mem_recordsIn.mp ha)

theorem readBlueprint (config : ConfigId) {b : Blueprint}
    (hb : b ∈ recordsIn workspace t.blueprints) :
    ReadsAs t.Dated (BlueprintCells.of workspace config b).read b :=
  (BlueprintCells.read_of workspace config b).mono fun hdated =>
    hdated.blueprints _ (mem_recordsIn.mp hb)

theorem readPin {p : Pin} (hp : p ∈ recordsIn workspace t.pins) :
    ReadsAs t.Dated (PinCells.of workspace p).read p :=
  (PinCells.read_of workspace p).mono fun hdated => hdated.pins _ (mem_recordsIn.mp hp)

include h

theorem configOf (project : ProjectId) :
    ReadsAs t.Dated (d.configOf workspace project) (t.configOf workspace project) := by
  have hselect := forall₂_select h.configs workspace
    (p := fun r => r.workspace == workspace && r.project == project.text)
    (q := fun a => a.project == project) fun cells row hcells => by
      rw [hcells, ConfigCells.of, ProjectId.text_beq_text]
  rw [Memory.Tables.configOf, ← List.head?_filter]
  refine ReadsAs.readFirst hselect ?_
  rintro cells a ha rfl
  exact readConfig workspace (List.mem_of_mem_filter ha)

theorem configById (id : ConfigId) :
    ReadsAs t.Dated (d.configById workspace id) (t.configById workspace id) := by
  have hselect := forall₂_select h.configs workspace
    (p := fun r => r.workspace == workspace && r.id == id.text)
    (q := fun a => a.id == id) fun cells row hcells => by
      rw [hcells, ConfigCells.of, Id.text_beq_text]
  rw [Memory.Tables.configById, ← List.head?_filter]
  refine ReadsAs.readFirst hselect ?_
  rintro cells a ha rfl
  exact readConfig workspace (List.mem_of_mem_filter ha)

theorem blueprintById (id : BlueprintId) :
    ReadsAs t.Dated (d.blueprintById workspace id) (t.blueprintById workspace id) := by
  have hselect := forall₂_select h.blueprints workspace
    (p := fun r => r.workspace == workspace && r.id == id.text)
    (q := fun b => b.id == id) fun cells row hcells => by
      obtain ⟨config, rfl⟩ := hcells
      rw [BlueprintCells.of, Id.text_beq_text]
  rw [Memory.Tables.blueprintById, ← List.head?_filter]
  refine ReadsAs.readFirst hselect ?_
  rintro cells b hb ⟨config, rfl⟩
  exact readBlueprint workspace config (List.mem_of_mem_filter hb)

theorem blueprintOfKind (hconstrained : Memory.Constrained t) (id : BlueprintId)
    (project : ProjectId) (kind : BlueprintKind) :
    ReadsAs t.Dated (d.blueprintOfKind workspace id project kind)
      ((t.blueprintById workspace id).filter fun b => b.project == project && b.kind == kind) := by
  have hselect := forall₂_select h.blueprints workspace
    (p := fun r => r.workspace == workspace && r.id == id.text && r.project == project.text &&
      r.kind == kind.text)
    (q := fun b => (b.project == project && b.kind == kind) && b.id == id)
    fun cells row hcells => by
      obtain ⟨config, rfl⟩ := hcells
      simp only [BlueprintCells.of, Id.text_beq_text, ProjectId.text_beq_text,
        BlueprintKind.text_beq_text, Bool.and_assoc]
      rw [Bool.and_comm (row.record.id == id), Bool.and_assoc]
  have hfirst : ((recordsIn workspace t.blueprints).filter fun b =>
      (b.project == project && b.kind == kind) && b.id == id).head? =
      (t.blueprintById workspace id).filter fun b => b.project == project && b.kind == kind := by
    rw [← List.filter_filter,
      filter_eq_toList_find? (nodup_map_recordsIn hconstrained.blueprintIds workspace) id]
    change _ = ((recordsIn workspace t.blueprints).find? (·.id == id)).filter _
    cases (recordsIn workspace t.blueprints).find? (·.id == id) with
    | none => rfl
    | some b => rw [List.head?_filter, Option.toList_some, List.find?_singleton]; rfl
  rw [← hfirst]
  refine ReadsAs.readFirst hselect ?_
  rintro cells b hb ⟨config, rfl⟩
  exact readBlueprint workspace config (List.mem_of_mem_filter hb)

theorem newestFirst (project : ProjectId) (kind : BlueprintKind) :
    List.Forall₂ (fun cells b => ∃ config, cells = BlueprintCells.of workspace config b)
      (d.newestFirst workspace project kind) (t.newestFirst workspace project kind) := by
  apply forall₂_sortBy
  · rintro _ a _ b ⟨_, rfl⟩ ⟨_, rfl⟩
    simp only [BlueprintCells.of, Id.text_le_text]
  · apply forall₂_select h.blueprints workspace
    rintro cells row ⟨config, rfl⟩
    simp only [BlueprintCells.of, ProjectId.text_beq_text, BlueprintKind.text_beq_text,
      Bool.and_assoc]

theorem latest (project : ProjectId) (kind : BlueprintKind) :
    ReadsAs t.Dated (readFirst BlueprintCells.read (d.newestFirst workspace project kind))
      (t.newestFirst workspace project kind).head? := by
  refine ReadsAs.readFirst (h.newestFirst workspace project kind) ?_
  rintro cells b hb ⟨config, rfl⟩
  exact readBlueprint workspace config (Memory.mem_newestFirst.mp hb).1

theorem envsOf (blueprint : BlueprintId) :
    d.envsOf workspace blueprint = t.envsOf workspace blueprint := by
  have hselect := forall₂_select h.pins workspace
    (p := fun r => r.workspace == workspace && r.blueprint == blueprint.text)
    (q := fun p => p.blueprint == blueprint) fun cells row hcells => by
      rw [hcells, PinCells.of, Id.text_beq_text]
  rw [Tables.envsOf, Memory.Tables.envsOf,
    forall₂_map_eq hselect (f := PinCells.env) (g := Pin.env) fun cells p hcells => by
      rw [hcells, PinCells.of]]

theorem history (project : ProjectId) (limit : Nat) {offset : Nat}
    (hoffset : offset ≤ Tables.maxOffset) :
    ReadsAs t.Dated (d.history workspace project limit offset)
      (t.history workspace project limit offset) := by
  have hpage : ReadsAs t.Dated
      ((((d.newestFirst workspace project .blueprint).drop offset).take limit).mapM
        BlueprintCells.read)
      (((t.newestFirst workspace project .blueprint).drop offset).take limit) := by
    refine ReadsAs.mapM (List.forall₂_take limit
      (List.forall₂_drop offset (h.newestFirst workspace project .blueprint))) ?_
    rintro cells b hb ⟨config, rfl⟩
    have hmem := List.mem_of_mem_drop (List.mem_of_mem_take hb)
    exact readBlueprint workspace config (Memory.mem_newestFirst.mp hmem).1
  rw [Tables.history, if_neg (Nat.not_lt.mpr hoffset), Memory.Tables.history]
  refine hpage.bind (Or.inl ?_)
  simp only [h.envsOf]

/-- The kinds stand in the order of the rows, and not in the order in which they were asked for. -/
theorem kinds (hconstrained : Memory.Constrained t) (project : ProjectId)
    {ids : List BlueprintId} (hids : ids.Nodup) :
    ∃ kinds, kinds.Perm (t.kinds workspace project ids) ∧
      d.kinds workspace project ids = .ok kinds := by
  have hselect := forall₂_select h.blueprints workspace
    (p := fun r => r.workspace == workspace && r.project == project.text &&
      (ids.map Id.text).contains r.id)
    (q := fun b => b.project == project && ids.contains b.id)
    fun cells row hcells => by
      obtain ⟨config, rfl⟩ := hcells
      have hcontains : (ids.map Id.text).contains row.record.id.text =
          ids.contains row.record.id := by
        rw [Bool.eq_iff_iff]
        simp
      simp only [BlueprintCells.of, ProjectId.text_beq_text, hcontains, Bool.and_assoc]
  obtain ⟨found, hrelated, hfound⟩ := List.perm_comp_forall₂ (perm_sortBy _ _) hselect
  have hread : d.kinds workspace project ids = .ok (found.map fun b => (b.id, b.kind)) := by
    have hreads := List.forall₂_map_right_iff (f := fun b : Blueprint => (b.id, b.kind))
      (R := fun cells kind => BlueprintCells.readKind cells = .ok kind) |>.mpr
      (hrelated.imp fun cells b hcells => by
        obtain ⟨config, rfl⟩ := hcells
        exact BlueprintCells.readKind_of workspace config b)
    exact (ReadsAs.mapM hreads fun _ _ _ hok => Or.inl hok).of_sure trivial
  refine ⟨_, ?_, hread⟩
  have hmemory : t.kinds workspace project ids =
      (ids.flatMap fun id => (recordsIn workspace t.blueprints).filter fun b =>
        b.id == id && b.project == project).map fun b => (b.id, b.kind) := by
    rw [Memory.Tables.kinds, List.filterMap_eq_flatMap_toList, List.map_flatMap]
    congr 1
    funext id
    have hone := filter_eq_toList_find?
      (nodup_map_recordsIn hconstrained.blueprintIds workspace) id
    have hboth : ((recordsIn workspace t.blueprints).filter fun b =>
        b.id == id && b.project == project) =
        ((recordsIn workspace t.blueprints).filter (·.id == id)).filter (·.project == project) := by
      rw [List.filter_filter]
      apply List.filter_congr
      intro b _
      exact Bool.and_comm _ _
    rw [hboth, hone, Memory.Tables.blueprintById]
    cases (recordsIn workspace t.blueprints).find? (·.id == id) with
    | none => rfl
    | some b => by_cases hproject : b.project = project <;> simp [hproject]
  rw [hmemory]
  exact (hfound.trans (perm_flatMap_filter Blueprint.id _ hids _)).map _

theorem valuesOf (project : ProjectId) :
    List.Forall₂ (fun cells v => ∃ config, cells = ValueCells.of workspace config v)
      (d.valuesOf workspace project) (t.valuesOf workspace project) := by
  apply forall₂_select h.values workspace
  rintro cells row ⟨config, rfl⟩
  rw [ValueCells.of, ProjectId.text_beq_text]

omit h in
theorem effectiveAt_of (config : ConfigId) (b : BlueprintId) (v : ValueRow) :
    Tables.effectiveAt b.text (.of workspace config v) = v.effectiveAt b := by
  unfold Tables.effectiveAt ValueRow.effectiveAt ValueCells.of
  cases v.validTo with
  | none => simp only [Id.text_le_text, Option.map_none, Option.all_none]
  | some ending => simp only [Id.text_le_text, Id.text_lt_text, Option.map_some, Option.all_some]

omit h in
/-- Rows of values read back whatever they hold, in the order in which they were selected. -/
theorem mapM_values {cells sorted : List ValueCells} {rows : List ValueRow}
    (hrelated : List.Forall₂ (fun cells v => ∃ config, cells = ValueCells.of workspace config v)
      cells rows) (hperm : sorted.Perm cells) :
    ∃ found, found.Perm rows ∧ sorted.mapM ValueCells.read = .ok found := by
  have hread : ∀ cells : ValueCells, ∀ v ∈ rows,
      (∃ config, cells = ValueCells.of workspace config v) → ReadsAs True cells.read v := by
    rintro _ v _ ⟨config, rfl⟩
    exact Or.inl (ValueCells.read_of workspace config v)
  obtain ⟨found, hfound, hok⟩ := ReadsAs.mapM_perm hperm hrelated hread
  exact ⟨found, hfound, hok.of_sure trivial⟩

theorem effective (project : ProjectId) (b : BlueprintId) :
    ∃ found, found.Perm ((t.valuesOf workspace project).filter (·.effectiveAt b)) ∧
      d.effective workspace project b = .ok found := by
  refine mapM_values workspace (List.rel_filter ?_ (h.valuesOf workspace project)) (perm_sortBy _ _)
  rintro _ v ⟨config, rfl⟩
  exact Bool.eq_iff_iff.mp (effectiveAt_of workspace config b v)

theorem rows (project : ProjectId) :
    ∃ found, found.Perm (t.valuesOf workspace project) ∧ d.rows workspace project = .ok found :=
  mapM_values workspace (h.valuesOf workspace project) (perm_sortBy _ _)

theorem delta (b : BlueprintId) :
    ∃ found, found.Perm ((recordsIn workspace t.values).filter (·.introducedBy b)) ∧
      d.delta workspace b = .ok found := by
  refine mapM_values workspace (forall₂_select h.values workspace ?_) (List.Perm.refl _)
  rintro cells row ⟨config, rfl⟩
  rw [ValueCells.of, Id.text_beq_text]
  rfl

theorem pinsOf (project : ProjectId) (envs : String → Bool) :
    List.Forall₂ (fun cells p => cells = PinCells.of workspace p)
      (d.pins.filter fun r => r.workspace == workspace && r.project == project.text && envs r.env)
      ((t.pinsOf workspace project).filter fun p => envs p.env) := by
  have hboth : (t.pinsOf workspace project).filter (fun p => envs p.env) =
      (recordsIn workspace t.pins).filter fun p => p.project == project && envs p.env := by
    rw [Memory.Tables.pinsOf, List.filter_filter]
    apply List.filter_congr
    intro p _
    exact Bool.and_comm _ _
  rw [hboth]
  apply forall₂_select h.pins workspace
  rintro cells row rfl
  simp only [PinCells.of, ProjectId.text_beq_text, Bool.and_assoc]

theorem pinnedTo (project : ProjectId) (env : String) :
    d.pinnedTo workspace project env =
      .ok (((t.pinsOf workspace project).find? (·.env == env)).map (·.blueprint)) := by
  have hrelated := h.pinsOf workspace project (· == env)
  rw [Tables.pinnedTo, ← List.head?_filter, ← List.head?_filter]
  generalize d.pins.filter _ = cells at hrelated
  generalize (t.pinsOf workspace project).filter _ = pins at hrelated
  cases hrelated with
  | nil => rfl
  | cons hfirst _ => simp [hfirst, PinCells.of, Id.parse_text]

theorem pinsNamed (project : ProjectId) (envs : List String) :
    ∃ found, found.Perm ((t.pinsOf workspace project).filter fun p => envs.contains p.env) ∧
      ReadsAs t.Dated (d.pinsNamed workspace project envs) found := by
  refine ReadsAs.mapM_perm (perm_sortBy _ _) (h.pinsOf workspace project (envs.contains ·)) ?_
  rintro cells p hp rfl
  exact readPin workspace (List.mem_of_mem_filter (List.mem_of_mem_filter hp))

end Represents

end Database

end ConfigTimeline
