import ConfigTimeline.Store.Database.Tables

/-!
What a row of text cells spells out, whatever text it holds. This is said column by column, each through
the parser of what stands there, and without regard to the order in which columns are read. Reading a
row gives the record that it spells out, and reports a corrupt row if it spells out none.
-/

namespace ConfigTimeline.Database

structure AuditCells.Spells (c : AuditCells) (a : Audit) : Prop where
  createdBy : a.createdBy = c.createdBy
  createdAt : Instant.parseStrict c.createdAt = .ok a.createdAt
  updatedBy : a.updatedBy = c.updatedBy
  updatedAt : Instant.parseStrict c.updatedAt = .ok a.updatedAt

structure ConfigCells.Spells (c : ConfigCells) (a : Config) : Prop where
  id : Id.parse .config c.id = .ok a.id
  project : ProjectId.parse c.project = .ok a.project
  audit : c.audit.Spells a.audit

structure BlueprintCells.Spells (c : BlueprintCells) (b : Blueprint) : Prop where
  id : Id.parse .blueprint c.id = .ok b.id
  project : ProjectId.parse c.project = .ok b.project
  kind : BlueprintKind.parse c.kind = .ok b.kind
  description : b.description = c.description
  audit : c.audit.Spells b.audit

structure BlueprintCells.SpellsKind (c : BlueprintCells) (k : BlueprintId × BlueprintKind) :
    Prop where
  id : Id.parse .blueprint c.id = .ok k.1
  kind : BlueprintKind.parse c.kind = .ok k.2

structure ValueCells.Spells (c : ValueCells) (v : ValueRow) : Prop where
  id : Id.parse .value c.id = .ok v.id
  project : ProjectId.parse c.project = .ok v.project
  key : v.key = c.key
  value : v.value = c.value
  kind : ValueKind.parse c.kind = .ok v.kind
  description : v.description = c.description
  validFrom : Id.parse .blueprint c.validFrom = .ok v.validFrom
  /-- A row without an end spells out an open one, and no other text does. -/
  validTo : c.validTo.map (Id.parse .blueprint) = v.validTo.map .ok

structure PinCells.Spells (c : PinCells) (p : Pin) : Prop where
  id : Id.parse .environment c.id = .ok p.id
  project : ProjectId.parse c.project = .ok p.project
  config : Id.parse .config c.config = .ok p.config
  env : p.env = c.env
  blueprint : Id.parse .blueprint c.blueprint = .ok p.blueprint
  audit : c.audit.Spells p.audit

def PinCells.SpellsTarget (c : PinCells) (id : BlueprintId) : Prop :=
  Id.parse .blueprint c.blueprint = .ok id

/-- A reading gives what is spelled out, and nothing else. Where nothing is, it reports a corrupt
row. -/
structure Reports {α : Type} (outcome : Except StoreError α) (Spelled : α → Prop) : Prop where
  ok_iff : ∀ a, outcome = .ok a ↔ Spelled a
  corrupt : ∀ e, outcome = .error e → ∃ damage, e = .corrupt damage

namespace Reports

variable {α β : Type} {outcome : Except StoreError α} {Spelled Spelled' : α → Prop}

theorem ok (a : α) : Reports (.ok a) (a = ·) where
  ok_iff _ := by rw [Except.ok.injEq]
  corrupt _ h := by cases h

theorem congr (h : Reports outcome Spelled) (hiff : ∀ a, Spelled a ↔ Spelled' a) :
    Reports outcome Spelled' where
  ok_iff a := (h.ok_iff a).trans (hiff a)
  corrupt := h.corrupt

theorem bind {f : α → Except StoreError β} {Next : α → β → Prop} (h : Reports outcome Spelled)
    (hf : ∀ a, Reports (f a) (Next a)) :
    Reports (outcome >>= f) fun b => ∃ a, Spelled a ∧ Next a b := by
  cases outcome with
  | ok a =>
      constructor
      · intro b
        constructor
        · intro hb
          exact ⟨a, (h.ok_iff a).mp rfl, ((hf a).ok_iff b).mp hb⟩
        · rintro ⟨other, hother, hb⟩
          cases (h.ok_iff other).mpr hother
          exact ((hf a).ok_iff b).mpr hb
      · exact (hf a).corrupt
  | error e =>
      constructor
      · intro b
        constructor
        · intro hb
          cases hb
        · rintro ⟨a, ha, -⟩
          cases (h.ok_iff a).mpr ha
      · rintro _ ⟨⟩
        exact h.corrupt e rfl

/-- What is spelled out is given; where nothing is, a corrupt row is reported. -/
theorem of_not (h : Reports outcome Spelled) (hnone : ∀ a, ¬Spelled a) :
    ∃ damage, outcome = .error (.corrupt damage) := by
  cases outcome with
  | ok a => exact absurd ((h.ok_iff a).mp rfl) (hnone a)
  | error e =>
      obtain ⟨damage, rfl⟩ := h.corrupt e rfl
      exact ⟨damage, rfl⟩

/-- A cell that is parsed, and reported as corrupt if it cannot be. -/
theorem ofParse {ε : Type} {parsed : Except ε α} (hok : ∀ a, parsed = .ok a → outcome = .ok a)
    (herror : ∀ e, parsed = .error e → ∃ damage, outcome = .error (.corrupt damage)) :
    Reports outcome (parsed = .ok ·) := by
  cases parsed with
  | ok a =>
      rw [hok a rfl]
      exact (Reports.ok a).congr fun b => by rw [Except.ok.injEq]
  | error e =>
      obtain ⟨damage, rfl⟩ := herror e rfl
      refine ⟨fun b => iff_of_false nofun nofun, ?_⟩
      rintro _ ⟨⟩
      exact ⟨damage, rfl⟩

end Reports

section Cells

variable (index : Nat)

theorem reports_readId (kind : IdKind) (cell : String) :
    Reports (readId kind index cell) (Id.parse kind cell = .ok ·) :=
  .ofParse (fun _ hok => by rw [readId, hok]) fun _ herror => ⟨_, by rw [readId, herror]⟩

theorem reports_readIdIfAny (kind : IdKind) (cell : Option String) :
    Reports (readIdIfAny kind index cell) fun id => cell.map (Id.parse kind) = id.map .ok := by
  cases cell with
  | none => exact (Reports.ok none).congr fun id => by cases id <;> simp
  | some cell =>
      refine ((reports_readId index kind cell).bind fun id => Reports.ok (some id)).congr fun id => ?_
      cases id <;> simp

theorem reports_readProject (cell : String) :
    Reports (readProject index cell) (ProjectId.parse cell = .ok ·) :=
  .ofParse (fun _ hok => by rw [readProject, hok])
    fun _ herror => ⟨_, by rw [readProject, herror]⟩

theorem reports_readBlueprintKind (cell : String) :
    Reports (readBlueprintKind index cell) (BlueprintKind.parse cell = .ok ·) :=
  .ofParse (fun _ hok => by rw [readBlueprintKind, hok])
    fun _ herror => ⟨_, by rw [readBlueprintKind, herror]⟩

theorem reports_readValueKind (cell : String) :
    Reports (readValueKind index cell) (ValueKind.parse cell = .ok ·) :=
  .ofParse (fun _ hok => by rw [readValueKind, hok])
    fun _ herror => ⟨_, by rw [readValueKind, herror]⟩

theorem reports_readInstant (cell : String) :
    Reports (readInstant index cell) (Instant.parseStrict cell = .ok ·) :=
  .ofParse (fun _ hok => by rw [readInstant, hok])
    fun _ herror => ⟨_, by rw [readInstant, herror]⟩

theorem AuditCells.reports_read (c : AuditCells) : Reports (c.read index) c.Spells := by
  refine ((reports_readInstant _ _).bind fun createdAt =>
    (reports_readInstant _ _).bind fun updatedAt => Reports.ok _).congr fun a => ?_
  constructor
  · rintro ⟨createdAt, hcreatedAt, updatedAt, hupdatedAt, rfl⟩
    exact ⟨rfl, hcreatedAt, rfl, hupdatedAt⟩
  · rintro ⟨hcreatedBy, hcreatedAt, hupdatedBy, hupdatedAt⟩
    refine ⟨_, hcreatedAt, _, hupdatedAt, ?_⟩
    rw [← hcreatedBy, ← hupdatedBy]

end Cells

theorem ConfigCells.reports_read (c : ConfigCells) : Reports c.read c.Spells := by
  refine ((reports_readId _ _ _).bind fun id => (reports_readProject _ _).bind fun project =>
    (AuditCells.reports_read _ _).bind fun audit => Reports.ok _).congr fun a => ?_
  constructor
  · rintro ⟨id, hid, project, hproject, audit, haudit, rfl⟩
    exact ⟨hid, hproject, haudit⟩
  · rintro ⟨hid, hproject, haudit⟩
    exact ⟨_, hid, _, hproject, _, haudit, rfl⟩

theorem BlueprintCells.reports_read (c : BlueprintCells) : Reports c.read c.Spells := by
  refine ((reports_readId _ _ _).bind fun id => (reports_readProject _ _).bind fun project =>
    (reports_readBlueprintKind _ _).bind fun kind =>
      (AuditCells.reports_read _ _).bind fun audit => Reports.ok _).congr fun b => ?_
  constructor
  · rintro ⟨id, hid, project, hproject, kind, hkind, audit, haudit, rfl⟩
    exact ⟨hid, hproject, hkind, rfl, haudit⟩
  · rintro ⟨hid, hproject, hkind, hdescription, haudit⟩
    refine ⟨_, hid, _, hproject, _, hkind, _, haudit, ?_⟩
    rw [← hdescription]

theorem BlueprintCells.reports_readKind (c : BlueprintCells) :
    Reports c.readKind c.SpellsKind := by
  refine ((reports_readId _ _ _).bind fun id => (reports_readBlueprintKind _ _).bind fun kind =>
    Reports.ok _).congr fun k => ?_
  constructor
  · rintro ⟨id, hid, kind, hkind, rfl⟩
    exact ⟨hid, hkind⟩
  · rintro ⟨hid, hkind⟩
    exact ⟨_, hid, _, hkind, rfl⟩

theorem ValueCells.reports_read (c : ValueCells) : Reports c.read c.Spells := by
  refine ((reports_readId _ _ _).bind fun id => (reports_readProject _ _).bind fun project =>
    (reports_readValueKind _ _).bind fun kind => (reports_readId _ _ _).bind fun validFrom =>
      (reports_readIdIfAny _ _ _).bind fun validTo => Reports.ok _).congr fun v => ?_
  constructor
  · rintro ⟨id, hid, project, hproject, kind, hkind, validFrom, hfrom, validTo, hto, rfl⟩
    exact ⟨hid, hproject, rfl, rfl, hkind, rfl, hfrom, hto⟩
  · rintro ⟨hid, hproject, hkey, hvalue, hkind, hdescription, hfrom, hto⟩
    refine ⟨_, hid, _, hproject, _, hkind, _, hfrom, _, hto, ?_⟩
    rw [← hkey, ← hvalue, ← hdescription]

theorem PinCells.reports_read (c : PinCells) : Reports c.read c.Spells := by
  refine ((reports_readId _ _ _).bind fun id => (reports_readProject _ _).bind fun project =>
    (reports_readId _ _ _).bind fun config => (reports_readId _ _ _).bind fun blueprint =>
      (AuditCells.reports_read _ _).bind fun audit => Reports.ok _).congr fun p => ?_
  constructor
  · rintro ⟨id, hid, project, hproject, config, hconfig, blueprint, hblueprint, audit, haudit, rfl⟩
    exact ⟨hid, hproject, hconfig, rfl, hblueprint, haudit⟩
  · rintro ⟨hid, hproject, hconfig, henv, hblueprint, haudit⟩
    refine ⟨_, hid, _, hproject, _, hconfig, _, hblueprint, _, haudit, ?_⟩
    rw [← henv]

end ConfigTimeline.Database
