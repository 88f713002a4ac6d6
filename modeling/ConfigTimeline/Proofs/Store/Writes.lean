import ConfigTimeline.Proofs.Store.Constraints

/-!
What writes on tables in memory leave behind when they are not refused: one more config, one more
blueprint, a whole batch of rows, or rows of a project ended at a blueprint. And when they are not
refused: as long as nothing that is stored stands in the way.
-/

namespace ConfigTimeline

/-- Rows that go together with all stored rows and with each other meet no clash. -/
theorem appendUntilClash_eq_none {α κ : Type} {clash : List α → α → Option κ}
    {R : α → α → Prop}
    (hclash : ∀ rows row, (∀ r ∈ rows, R r row) → clash rows row = none)
    {rows batch : List α} (hstored : ∀ r ∈ rows, ∀ row ∈ batch, R r row)
    (hbatch : batch.Pairwise R) : (appendUntilClash clash rows batch).2 = none := by
  induction batch generalizing rows with
  | nil => rfl
  | cons row rest ih =>
      obtain ⟨hrow, hrest⟩ := List.pairwise_cons.mp hbatch
      have hnone : clash rows row = none :=
        hclash rows row fun r hr => hstored r hr row List.mem_cons_self
      unfold appendUntilClash
      rw [hnone]
      refine ih ?_ hrest
      intro r hr later hlater
      rcases List.mem_append.mp hr with hold | hnew
      · exact hstored r hold later (List.mem_cons_of_mem row hlater)
      · rw [List.mem_singleton.mp hnew]
        exact hrow later hlater

/-- Only a conflict is of the kind of conflicts. -/
theorem StoreError.eq_conflict {e : StoreError} (h : e.kind = .conflict) :
    ∃ clash, e = .conflict clash := by
  cases e with
  | conflict clash => exact ⟨clash, rfl⟩
  | _ => cases h

namespace Memory

variable {m m' : Work} {workspace : String}

/-- The rows with the open ones of some keys of a project ended at a blueprint. -/
def endRows (workspace : String) (project : ProjectId) (validTo : BlueprintId) (keys : List String)
    (rows : List (Scoped ValueRow)) : List (Scoped ValueRow) :=
  rows.map fun row =>
    if Work.closes workspace project keys row then withEnd (some validTo) row else row

theorem perform_insertConfig_ok (hmode : m.mode = .write) {config : Config}
    {a : Call.Answer (.insertConfig config)}
    (h : perform workspace (.insertConfig config) m = (.ok a, m')) :
    (∀ r ∈ recordsIn workspace m.tables.configs, r.id ≠ config.id ∧ r.project ≠ config.project) ∧
      m'.tables = { m.tables with configs := m.tables.configs ++ [⟨workspace, config⟩] } := by
  have hstep : m.insertConfig workspace config = (.ok (), m') := by
    simpa [perform, hmode] using h
  unfold Work.insertConfig at hstep
  split at hstep
  · simp at hstep
  · rename_i hfree
    rw [configClash_eq_none] at hfree
    constructor
    · intro r hr
      exact hfree ⟨workspace, r⟩ (mem_recordsIn.mp hr) rfl
    · rw [← (Prod.mk.inj hstep).2]

theorem perform_insertConfig_of_free (hmode : m.mode = .write) {config : Config}
    (hfree : ∀ r ∈ recordsIn workspace m.tables.configs,
      r.id ≠ config.id ∧ r.project ≠ config.project) :
    ∃ a, (perform workspace (.insertConfig config) m).1 = .ok a := by
  have hnone : configClash m.tables.configs ⟨workspace, config⟩ = none := by
    rw [configClash_eq_none]
    rintro ⟨other, r⟩ hr rfl
    exact hfree r (mem_recordsIn.mpr hr)
  refine ⟨(), ?_⟩
  simp [perform, hmode, Work.insertConfig, hnone]

/-- A config is refused for a conflict, and then something is in its way. -/
theorem perform_insertConfig_error (hmode : m.mode = .write) {config : Config} {e : StoreError}
    (h : (perform workspace (.insertConfig config) m).1 = .error e) :
    e.kind = .conflict ∧ ¬∀ r ∈ recordsIn workspace m.tables.configs,
      r.id ≠ config.id ∧ r.project ≠ config.project := by
  constructor
  · have hstep : (m.insertConfig workspace config).1 = .error e := by
      simpa [perform, hmode] using h
    unfold Work.insertConfig at hstep
    split at hstep
    · cases hstep
      rfl
    · cases hstep
  · intro hfree
    obtain ⟨a, hok⟩ := perform_insertConfig_of_free hmode hfree
    rw [h] at hok
    cases hok

theorem perform_insertBlueprint_ok (hmode : m.mode = .write) {config : ConfigId}
    {blueprint : Blueprint} {a : Call.Answer (.insertBlueprint config blueprint)}
    (h : perform workspace (.insertBlueprint config blueprint) m = (.ok a, m')) :
    (∀ b ∈ recordsIn workspace m.tables.blueprints, b.id ≠ blueprint.id) ∧
      m'.tables = { m.tables with
        blueprints := m.tables.blueprints ++ [⟨workspace, blueprint⟩] } := by
  have hstep : m.insertBlueprint workspace blueprint = (.ok (), m') := by
    simpa [perform, hmode] using h
  unfold Work.insertBlueprint at hstep
  split at hstep
  · simp at hstep
  · rename_i hfree
    rw [blueprintClash_eq_none] at hfree
    constructor
    · intro b hb
      exact hfree ⟨workspace, b⟩ (mem_recordsIn.mp hb) rfl
    · rw [← (Prod.mk.inj hstep).2]

theorem perform_insertBlueprint_of_free (hmode : m.mode = .write) {config : ConfigId}
    {blueprint : Blueprint}
    (hfree : ∀ b ∈ recordsIn workspace m.tables.blueprints, b.id ≠ blueprint.id) :
    ∃ a, (perform workspace (.insertBlueprint config blueprint) m).1 = .ok a := by
  have hnone : blueprintClash m.tables.blueprints ⟨workspace, blueprint⟩ = none := by
    rw [blueprintClash_eq_none]
    rintro ⟨other, b⟩ hb rfl
    exact hfree b (mem_recordsIn.mpr hb)
  refine ⟨(), ?_⟩
  simp [perform, hmode, Work.insertBlueprint, hnone]

theorem perform_closeValues (hmode : m.mode = .write) (project : ProjectId)
    (validTo : BlueprintId) (keys : List String) :
    (perform workspace (.closeValues project validTo keys) m).2.tables =
      { m.tables with
        values := endRows workspace project validTo keys m.tables.values } := by
  simp [perform, hmode, Call.writes, Work.closeValues, endRows, withEnd]

theorem perform_closeValues_ok (hmode : m.mode = .write) (project : ProjectId)
    (validTo : BlueprintId) (keys : List String) :
    ∃ a, (perform workspace (.closeValues project validTo keys) m).1 = .ok a := by
  refine ⟨(m.closeValues workspace project validTo keys).1, ?_⟩
  simp [perform, hmode]

theorem none_of_answerOf {clash : Option Clash} (h : answerOf clash = .ok ()) : clash = none := by
  cases clash with
  | none => rfl
  | some clash => cases h

theorem perform_insertValues_ok (hmode : m.mode = .write) {config : ConfigId}
    {rows : List ValueRow} {a : Call.Answer (.insertValues config rows)}
    (h : perform workspace (.insertValues config rows) m = (.ok a, m')) :
    m'.tables = { m.tables with
      values := m.tables.values ++ rows.map fun row => ⟨workspace, row⟩ } := by
  have hstep : m.insertValues workspace rows = (.ok (), m') := by
    simpa [perform, hmode] using h
  have hnone := none_of_answerOf (congrArg Prod.fst hstep)
  have hwork : (m.insertValues workspace rows).2 = m' := congrArg Prod.snd hstep
  rw [← hwork, ← appendUntilClash_of_none hnone]
  rfl

theorem perform_insertPins_ok (hmode : m.mode = .write) {pins : List Pin}
    {a : Call.Answer (.insertPins pins)} (h : perform workspace (.insertPins pins) m = (.ok a, m')) :
    m'.tables = { m.tables with
      pins := m.tables.pins ++ pins.map fun pin => ⟨workspace, pin⟩ } := by
  have hstep : m.insertPins workspace pins = (.ok (), m') := by
    simpa [perform, hmode] using h
  have hnone := none_of_answerOf (congrArg Prod.fst hstep)
  have hwork : (m.insertPins workspace pins).2 = m' := congrArg Prod.snd hstep
  rw [← hwork, ← appendUntilClash_of_none hnone]
  rfl

structure Apart (a b : ValueRow) : Prop where
  id : a.id ≠ b.id
  key : a.isOpen = true → b.isOpen = true → a.project = b.project → a.key ≠ b.key

/-- A row that is still there after rows have been ended was there before, under its id, and if it is
open still, it was open and is none of those that were to be ended. -/
theorem of_mem_endRows {project : ProjectId} {validTo : BlueprintId} {keys : List String}
    {rows : List (Scoped ValueRow)} {row : Scoped ValueRow}
    (h : row ∈ endRows workspace project validTo keys rows) :
    ∃ old ∈ rows, old.workspace = row.workspace ∧ old.record.id = row.record.id ∧
      (row.record.isOpen = true → row = old ∧ Work.closes workspace project keys row = false) := by
  obtain ⟨old, hold, rfl⟩ := List.mem_map.mp h
  refine ⟨old, hold, ?_⟩
  split
  · exact ⟨rfl, rfl, fun hopen => by cases hopen⟩
  · rename_i hkept
    exact ⟨rfl, rfl, fun _ => ⟨rfl, Bool.not_eq_true _ ▸ hkept⟩⟩

theorem perform_insertValues_of_free (hmode : m.mode = .write) {config : ConfigId}
    {rows : List ValueRow}
    (hstored : ∀ r ∈ recordsIn workspace m.tables.values, ∀ row ∈ rows, Apart r row)
    (hrows : rows.Pairwise Apart) :
    ∃ a, (perform workspace (.insertValues config rows) m).1 = .ok a := by
  have hnone : (appendUntilClash valueClash m.tables.values
      (rows.map fun row => ⟨workspace, row⟩)).2 = none := by
    refine appendUntilClash_eq_none
      (R := fun a b => a.workspace = b.workspace → Apart a.record b.record) ?_ ?_ ?_
    · intro stored row hrow
      rw [valueClash_eq_none]
      intro r hr hworkspace
      obtain ⟨hid, hkey⟩ := hrow r hr hworkspace
      refine ⟨hid, ?_⟩
      intro hopen hrowOpen hplace
      simp only [Scoped.keyPlace, Prod.mk.injEq] at hplace
      exact hkey hopen hrowOpen hplace.2.1 hplace.2.2
    · rintro ⟨other, r⟩ hr _ hrow hworkspace
      obtain ⟨row, hmem, rfl⟩ := List.mem_map.mp hrow
      obtain rfl : other = workspace := hworkspace
      exact hstored r (mem_recordsIn.mpr hr) row hmem
    · rw [List.pairwise_map]
      refine hrows.imp ?_
      intro a b hapart _
      exact hapart
  refine ⟨(), ?_⟩
  simp [perform, hmode, Work.insertValues, hnone, answerOf]

structure PinsApart (a b : Pin) : Prop where
  id : a.id ≠ b.id
  env : a.project = b.project → a.env ≠ b.env

theorem perform_insertPins_of_free (hmode : m.mode = .write) {pins : List Pin}
    (hstored : ∀ r ∈ recordsIn workspace m.tables.pins, ∀ pin ∈ pins, PinsApart r pin)
    (hpins : pins.Pairwise PinsApart) :
    ∃ a, (perform workspace (.insertPins pins) m).1 = .ok a := by
  have hnone : (appendUntilClash pinClash m.tables.pins
      (pins.map fun pin => ⟨workspace, pin⟩)).2 = none := by
    refine appendUntilClash_eq_none
      (R := fun a b => a.workspace = b.workspace → PinsApart a.record b.record) ?_ ?_ ?_
    · intro stored row hrow
      rw [pinClash_eq_none]
      intro r hr hworkspace
      obtain ⟨hid, henv⟩ := hrow r hr hworkspace
      refine ⟨hid, ?_⟩
      intro hplace
      obtain ⟨-, hproject, hname⟩ := Scoped.envPlace_eq_iff.mp hplace
      exact henv hproject hname
    · rintro ⟨other, r⟩ hr _ hrow hworkspace
      obtain ⟨pin, hmem, rfl⟩ := List.mem_map.mp hrow
      obtain rfl : other = workspace := hworkspace
      exact hstored r (mem_recordsIn.mpr hr) pin hmem
    · rw [List.pairwise_map]
      refine hpins.imp ?_
      intro a b hapart _
      exact hapart
  refine ⟨(), ?_⟩
  simp [perform, hmode, Work.insertPins, hnone, answerOf]

/-- Pins are refused for a conflict. -/
theorem perform_insertPins_error (hmode : m.mode = .write) {pins : List Pin} {e : StoreError}
    (h : (perform workspace (.insertPins pins) m).1 = .error e) : e.kind = .conflict := by
  have hstep : (m.insertPins workspace pins).1 = .error e := by
    simpa [perform, hmode] using h
  unfold Work.insertPins at hstep
  dsimp only at hstep
  cases hclash : (appendUntilClash pinClash m.tables.pins
      (pins.map fun pin => ⟨workspace, pin⟩)).2 with
  | none =>
      rw [hclash] at hstep
      cases hstep
  | some clash =>
      rw [hclash] at hstep
      cases hstep
      rfl

end Memory

end ConfigTimeline
