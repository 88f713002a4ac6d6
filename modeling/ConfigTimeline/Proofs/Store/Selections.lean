import Mathlib.Data.List.Forall2
import ConfigTimeline.Proofs.Store.Keys
import ConfigTimeline.Proofs.Store.Spelling

/-!
Which rows each call selects that is answered with records, and what it makes of them. If all of these
rows spell out records, the answer is made of exactly these, and else the call is refused as corrupt: no
row is passed over, and none is replaced by another record. Calls that go by a key read the first row
alone, which comes to the same because no two rows share a key.
-/

namespace ConfigTimeline.Database

/-- The rows that a query selects, what records they spell out, and what is answered with these. -/
structure Selection (β : Type) where
  Row : Type
  Record : Type
  rows : List Row
  Spells : Row → Record → Prop
  answer : List Record → β

/-- The outcome of a query is as its selection says. -/
structure Selection.Answers {β : Type} (s : Selection β) (outcome : Except StoreError β) : Prop where
  /-- If each row spells out a record, these are what is answered. -/
  ok : ∀ records, List.Forall₂ s.Spells s.rows records → outcome = .ok (s.answer records)
  /-- If a row spells out none, it is reported that there is a corrupt one. -/
  corrupt : ∀ row ∈ s.rows, (∀ record, ¬s.Spells row record) →
    ∃ damage, outcome = .error (.corrupt damage)

theorem exists_of_forall₂ {ρ α : Type} {R : ρ → α → Prop} {rows : List ρ} {records : List α}
    (h : List.Forall₂ R rows records) : ∀ row ∈ rows, ∃ record ∈ records, R row record := by
  induction h with
  | nil => exact List.forall_mem_nil _
  | cons hfirst _ ih =>
      refine List.forall_mem_cons.mpr ⟨⟨_, List.mem_cons_self, hfirst⟩, fun row hrow => ?_⟩
      obtain ⟨record, hmem, hR⟩ := ih row hrow
      exact ⟨record, List.mem_cons_of_mem _ hmem, hR⟩

section Rows

variable {ρ α β : Type} {read : ρ → Except StoreError α} {Spells : ρ → α → Prop}
  (hread : ∀ row, Reports (read row) (Spells row)) {rows : List ρ}

include hread

theorem reports_mapM (rows : List ρ) : Reports (rows.mapM read) (List.Forall₂ Spells rows) := by
  induction rows with
  | nil =>
      refine (Reports.ok []).congr fun records => ?_
      rw [List.forall₂_nil_left_iff, eq_comm]
  | cons row rest ih =>
      rw [List.mapM_cons]
      refine ((hread row).bind fun a => ih.bind fun as => Reports.ok _).congr fun records => ?_
      rw [List.forall₂_cons_left_iff]
      constructor
      · rintro ⟨a, ha, as, has, rfl⟩
        exact ⟨a, as, ha, has, rfl⟩
      · rintro ⟨a, as, ha, has, rfl⟩
        exact ⟨a, ha, as, has, rfl⟩

theorem reports_readFirst (hone : rows.length ≤ 1) :
    Reports (readFirst read rows) fun found => List.Forall₂ Spells rows found.toList := by
  cases rows with
  | nil =>
      refine (Reports.ok none).congr fun found => ?_
      cases found <;> simp
  | cons row rest =>
      obtain rfl : rest = [] :=
        List.eq_nil_of_length_eq_zero (Nat.le_zero.mp (Nat.le_of_succ_le_succ hone))
      refine ((hread row).bind fun a => Reports.ok (some a)).congr fun found => ?_
      cases found <;> simp

/-- A query that reads all rows that it selects. -/
theorem answers_mapM (rows : List ρ) (answer : List α → β) :
    Selection.Answers ⟨ρ, α, rows, Spells, answer⟩
      (rows.mapM read >>= fun records => .ok (answer records)) := by
  have hall := reports_mapM hread rows
  constructor
  · intro records hrecords
    rw [(hall.ok_iff records).mpr hrecords]
    rfl
  · intro row hrow hnone
    obtain ⟨damage, hcorrupt⟩ := hall.of_not fun records hrecords => by
      obtain ⟨record, -, hspells⟩ := exists_of_forall₂ hrecords row hrow
      exact hnone record hspells
    exact ⟨damage, by rw [hcorrupt]; rfl⟩

/-- A query that reads the one row that it selects. -/
theorem answers_readFirst (hone : rows.length ≤ 1) :
    Selection.Answers ⟨ρ, α, rows, Spells, List.head?⟩ (readFirst read rows) := by
  have hall := reports_readFirst hread hone
  constructor
  · intro records hrecords
    refine (hall.ok_iff _).mpr ?_
    have hlength : records.length ≤ 1 := hrecords.length_eq ▸ hone
    cases records with
    | nil => exact hrecords
    | cons a rest =>
        obtain rfl : rest = [] :=
          List.eq_nil_of_length_eq_zero (Nat.le_zero.mp (Nat.le_of_succ_le_succ hlength))
        exact hrecords
  · intro row hrow hnone
    refine hall.of_not fun found hfound => ?_
    obtain ⟨record, -, hspells⟩ := exists_of_forall₂ hfound row hrow
    exact hnone record hspells

end Rows

/-- What each call selects that is answered with records: which rows of the workspace, in which order,
and what becomes of their records. -/
def Tables.selection (t : Tables) (workspace : String) : (c : Call) → Option (Selection c.Answer)
  | .configOf project =>
      some ⟨ConfigCells, Config,
        t.configs.filter fun r => r.workspace == workspace && r.project == project.text,
        ConfigCells.Spells, List.head?⟩
  | .configById id =>
      some ⟨ConfigCells, Config,
        t.configs.filter fun r => r.workspace == workspace && r.id == id.text,
        ConfigCells.Spells, List.head?⟩
  | .blueprintById id =>
      some ⟨BlueprintCells, Blueprint,
        t.blueprints.filter fun r => r.workspace == workspace && r.id == id.text,
        BlueprintCells.Spells, List.head?⟩
  | .blueprintOfKind id project kind =>
      some ⟨BlueprintCells, Blueprint,
        t.blueprints.filter fun r =>
          r.workspace == workspace && r.id == id.text && r.project == project.text &&
            r.kind == kind.text,
        BlueprintCells.Spells, List.head?⟩
  | .latest project kind =>
      some ⟨BlueprintCells, Blueprint, (t.newestFirst workspace project kind).take 1,
        BlueprintCells.Spells, List.head?⟩
  | .kinds project ids =>
      some ⟨BlueprintCells, BlueprintId × BlueprintKind,
        sortBy (fun a b => decide (a.kind < b.kind ∨ a.kind = b.kind ∧ a.id ≤ b.id))
          (t.blueprints.filter fun r =>
            r.workspace == workspace && r.project == project.text &&
              (ids.map Id.text).contains r.id),
        BlueprintCells.SpellsKind, id⟩
  | .history project limit offset =>
      some ⟨BlueprintCells, Blueprint,
        ((t.newestFirst workspace project .blueprint).drop offset).take limit,
        BlueprintCells.Spells, fun page => page.map fun b => ⟨b, t.envsOf workspace b.id, []⟩⟩
  | .effective project blueprint =>
      some ⟨ValueCells, ValueRow,
        sortBy (fun a b => decide (a.validFrom ≤ b.validFrom))
          ((t.valuesOf workspace project).filter (effectiveAt blueprint.text)),
        ValueCells.Spells, id⟩
  | .delta blueprint =>
      some ⟨ValueCells, ValueRow,
        t.values.filter fun r => r.workspace == workspace && r.validFrom == blueprint.text,
        ValueCells.Spells, id⟩
  | .rows project =>
      some ⟨ValueCells, ValueRow, sortBy comesBy (t.valuesOf workspace project),
        ValueCells.Spells, id⟩
  | .pinnedTo project env =>
      some ⟨PinCells, BlueprintId,
        t.pins.filter fun r => r.workspace == workspace && r.project == project.text && r.env == env,
        PinCells.SpellsTarget, List.head?⟩
  | .pins project envs =>
      some ⟨PinCells, Pin,
        sortBy (fun a b => decide (a.env ≤ b.env))
          (t.pins.filter fun r =>
            r.workspace == workspace && r.project == project.text && envs.contains r.env),
        PinCells.Spells, id⟩
  | .count _ | .envsOf _ | .insertConfig _ | .insertBlueprint _ _ | .closeValues _ _ _
  | .insertValues _ _ | .insertPins _ | .updatePins _ _ _ _ => none

theorem readFirst_take_one {ρ α : Type} (read : ρ → Except StoreError α) (rows : List ρ) :
    readFirst read rows = readFirst read (rows.take 1) := by
  cases rows <;> rfl

section Keys

variable {t : Tables} (h : Keyed t) (workspace : String)

include h

theorem Keyed.configOf_le_one (project : ProjectId) :
    (t.configs.filter fun r => r.workspace == workspace && r.project == project.text).length ≤ 1 :=
  length_filter_le_one h.configProjects (workspace, project.text) fun r hr => by simpa using hr

theorem Keyed.configById_le_one (id : ConfigId) :
    (t.configs.filter fun r => r.workspace == workspace && r.id == id.text).length ≤ 1 :=
  length_filter_le_one h.configIds (workspace, id.text) fun r hr => by simpa using hr

theorem Keyed.blueprintById_le_one (id : BlueprintId) :
    (t.blueprints.filter fun r => r.workspace == workspace && r.id == id.text).length ≤ 1 :=
  length_filter_le_one h.blueprintIds (workspace, id.text) fun r hr => by simpa using hr

theorem Keyed.blueprintOfKind_le_one (id : BlueprintId) (project : ProjectId)
    (kind : BlueprintKind) :
    (t.blueprints.filter fun r =>
      r.workspace == workspace && r.id == id.text && r.project == project.text &&
        r.kind == kind.text).length ≤ 1 :=
  length_filter_le_one h.blueprintIds (workspace, id.text) fun r hr => by
    simp only [Bool.and_eq_true, beq_iff_eq] at hr
    rw [hr.1.1.1, hr.1.1.2]

theorem Keyed.pinnedTo_le_one (project : ProjectId) (env : String) :
    (t.pins.filter fun r =>
      r.workspace == workspace && r.project == project.text && r.env == env).length ≤ 1 :=
  length_filter_le_one h.pinEnvs (workspace, project.text, env) fun r hr => by
    simp only [Bool.and_eq_true, beq_iff_eq] at hr
    rw [PinCells.envPlace, hr.1.1, hr.1.2, hr.2]

end Keys

/-- The blueprint that a row of an environment points to. What is wrong with it is told of the
environment. -/
def PinCells.readTarget (env : String) (c : PinCells) : Except StoreError BlueprintId :=
  match Id.parse .blueprint c.blueprint with
  | .ok id => .ok id
  | .error e => .error (.corrupt (.env env (.id e)))

theorem PinCells.reports_readTarget (env : String) (c : PinCells) :
    Reports (c.readTarget env) c.SpellsTarget :=
  .ofParse (fun _ hok => by rw [readTarget, hok]) fun _ herror => ⟨_, by rw [readTarget, herror]⟩

theorem pinnedTo_eq_readFirst (t : Tables) (workspace : String) (project : ProjectId)
    (env : String) :
    t.pinnedTo workspace project env =
      readFirst (PinCells.readTarget env) (t.pins.filter fun r =>
        r.workspace == workspace && r.project == project.text && r.env == env) := by
  rw [Tables.pinnedTo, ← List.head?_filter]
  generalize t.pins.filter _ = rows
  cases rows with
  | nil => rfl
  | cons row rest =>
      simp only [List.head?_cons, readFirst, PinCells.readTarget]
      cases Id.parse .blueprint row.blueprint <;> rfl

/-- Every call that is answered with records is answered from the rows that it selects. -/
theorem answers_perform {work : Work} (h : Keyed work.tables) (workspace : String) {c : Call}
    {s : Selection c.Answer} (hs : work.tables.selection workspace c = some s)
    (hskips : c.skips ≤ Tables.maxOffset) : s.Answers (perform workspace c work).1 := by
  have hall {ρ α : Type} {read : ρ → Except StoreError α} {Spells : ρ → α → Prop}
      (hread : ∀ row, Reports (read row) (Spells row)) (rows : List ρ) :
      Selection.Answers ⟨ρ, α, rows, Spells, id⟩ (rows.mapM read) := by
    have hsame : (rows.mapM read >>= fun records => .ok (id records)) = rows.mapM read :=
      bind_pure _
    rw [← hsame]
    exact answers_mapM hread rows id
  cases c with
  | configOf project =>
      cases hs
      exact answers_readFirst ConfigCells.reports_read (h.configOf_le_one workspace project)
  | configById id =>
      cases hs
      exact answers_readFirst ConfigCells.reports_read (h.configById_le_one workspace id)
  | blueprintById id =>
      cases hs
      exact answers_readFirst BlueprintCells.reports_read (h.blueprintById_le_one workspace id)
  | blueprintOfKind id project kind =>
      cases hs
      exact answers_readFirst BlueprintCells.reports_read
        (h.blueprintOfKind_le_one workspace id project kind)
  | latest project kind =>
      cases hs
      change Selection.Answers _ (readFirst BlueprintCells.read _)
      rw [readFirst_take_one]
      exact answers_readFirst BlueprintCells.reports_read (List.length_take_le 1 _)
  | kinds project ids =>
      cases hs
      exact hall BlueprintCells.reports_readKind _
  | history project limit offset =>
      cases hs
      change Selection.Answers _ (work.tables.history workspace project limit offset)
      have hoffset : offset ≤ Tables.maxOffset := hskips
      rw [Tables.history, if_neg (Nat.not_lt.mpr hoffset)]
      exact answers_mapM BlueprintCells.reports_read _ _
  | effective project blueprint =>
      cases hs
      exact hall ValueCells.reports_read _
  | delta blueprint =>
      cases hs
      exact hall ValueCells.reports_read _
  | rows project =>
      cases hs
      exact hall ValueCells.reports_read _
  | pinnedTo project env =>
      cases hs
      change Selection.Answers _ (work.tables.pinnedTo workspace project env)
      rw [pinnedTo_eq_readFirst]
      have hone := h.pinnedTo_le_one workspace project env
      exact answers_readFirst (PinCells.reports_readTarget env) hone
  | pins project envs =>
      cases hs
      exact hall PinCells.reports_read _
  | _ => cases hs

end ConfigTimeline.Database
