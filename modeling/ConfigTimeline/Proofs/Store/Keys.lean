import ConfigTimeline.Proofs.Store.Keeping

/-!
The uniqueness rules of the schema, for rows of text cells whatever text they hold. A statement that
would break a rule changes nothing, so every call leaves tables that keep the rules, and with them a
query that goes by a key selects one row at most. Unlike the rules of the tables in memory these are
about the texts: two texts that read back as the same identifier are two keys.
-/

namespace ConfigTimeline.Database

def ValueCells.keyPlace (r : ValueCells) : String × String × String :=
  (r.workspace, r.project, r.key)

def PinCells.envPlace (r : PinCells) : String × String × String :=
  (r.workspace, r.project, r.env)

structure Keyed (t : Tables) : Prop where
  configIds : (t.configs.map fun r => (r.workspace, r.id)).Nodup
  configProjects : (t.configs.map fun r => (r.workspace, r.project)).Nodup
  blueprintIds : (t.blueprints.map fun r => (r.workspace, r.id)).Nodup
  valueIds : (t.values.map fun r => (r.workspace, r.id)).Nodup
  openKeys : ((t.values.filter (·.validTo.isNone)).map ValueCells.keyPlace).Nodup
  pinIds : (t.pins.map fun r => (r.workspace, r.id)).Nodup
  pinEnvs : (t.pins.map PinCells.envPlace).Nodup

theorem keyed_empty : Keyed .empty := by
  constructor <;> exact List.nodup_nil

/-- Of rows of which no two share a key, a query by the key selects one at most. -/
theorem length_filter_le_one {ρ κ : Type} [DecidableEq κ] {key : ρ → κ} {rows : List ρ}
    (h : (rows.map key).Nodup) (k : κ) {p : ρ → Bool} (hp : ∀ r, p r = true → key r = k) :
    (rows.filter p).length ≤ 1 := by
  have hone := List.nodup_iff_count_le_one.mp h k
  rw [List.count_eq_countP, List.countP_map] at hone
  rw [← List.countP_eq_length_filter]
  refine Nat.le_trans (List.countP_mono_left ?_) hone
  intro r _ hr
  exact beq_iff_eq.mpr (hp r hr)

section Rows

variable {t : Tables} (h : Keyed t)

include h

theorem keyed_config {row : ConfigCells} (hfree : configClash t.configs row = none) :
    Keyed { t with configs := t.configs ++ [row] } := by
  rw [configClash_eq_none] at hfree
  refine { h with
    configIds := nodup_map_concat.mpr ⟨h.configIds, fun r hr hsame => ?_⟩
    configProjects := nodup_map_concat.mpr ⟨h.configProjects, fun r hr hsame => ?_⟩ }
  · obtain ⟨hworkspace, hid⟩ := Prod.mk.inj hsame
    exact (hfree r hr hworkspace).1 hid
  · obtain ⟨hworkspace, hproject⟩ := Prod.mk.inj hsame
    exact (hfree r hr hworkspace).2 hproject

theorem keyed_blueprint {row : BlueprintCells} (hfree : blueprintClash t.blueprints row = none) :
    Keyed { t with blueprints := t.blueprints ++ [row] } := by
  rw [blueprintClash_eq_none] at hfree
  refine { h with blueprintIds := nodup_map_concat.mpr ⟨h.blueprintIds, fun r hr hsame => ?_⟩ }
  obtain ⟨hworkspace, hid⟩ := Prod.mk.inj hsame
  exact hfree r hr hworkspace hid

theorem keyed_value {row : ValueCells} (hfree : valueClash t.values row = none) :
    Keyed { t with values := t.values ++ [row] } := by
  rw [valueClash_eq_none] at hfree
  refine { h with
    valueIds := nodup_map_concat.mpr ⟨h.valueIds, fun r hr hsame => ?_⟩
    openKeys := ?_ }
  · obtain ⟨hworkspace, hid⟩ := Prod.mk.inj hsame
    exact (hfree r hr hworkspace).1 hid
  · rw [List.filter_append]
    cases hrow : row.validTo.isNone with
    | false => simpa [hrow] using h.openKeys
    | true =>
        rw [List.filter_singleton, hrow]
        refine nodup_map_concat.mpr ⟨h.openKeys, fun r hr hsame => ?_⟩
        obtain ⟨hmem, hopen⟩ := List.mem_filter.mp hr
        obtain ⟨hworkspace, hplace⟩ := Prod.mk.inj hsame
        exact (hfree r hmem hworkspace).2 hopen hrow (Prod.mk.inj hplace)

theorem keyed_pin {row : PinCells} (hfree : pinClash t.pins row = none) :
    Keyed { t with pins := t.pins ++ [row] } := by
  rw [pinClash_eq_none] at hfree
  refine { h with
    pinIds := nodup_map_concat.mpr ⟨h.pinIds, fun r hr hsame => ?_⟩
    pinEnvs := nodup_map_concat.mpr ⟨h.pinEnvs, fun r hr hsame => ?_⟩ }
  · obtain ⟨hworkspace, hid⟩ := Prod.mk.inj hsame
    exact (hfree r hr hworkspace).1 hid
  · obtain ⟨hworkspace, hplace⟩ := Prod.mk.inj hsame
    exact (hfree r hr hworkspace).2 (Prod.mk.inj hplace)

/-- Rows of pins that are changed in cells that may change keep their ids and their environments. -/
theorem keyed_map_pins {f : PinCells → PinCells} (hf : ∀ r, (f r).fixed = r.fixed) :
    Keyed { t with pins := t.pins.map f } := by
  have hsame {κ : Type} {key : PinCells → κ} (hkey : ∀ r, key (f r) = key r) :
      (t.pins.map f).map key = t.pins.map key := by
    rw [List.map_map]
    exact List.map_congr_left fun r _ => hkey r
  refine { h with pinIds := ?_, pinEnvs := ?_ }
  · rw [hsame fun r => (congrArg (fun c : PinCells => (c.workspace, c.id)) (hf r) :)]
    exact h.pinIds
  · rw [hsame fun r => (congrArg PinCells.envPlace (hf r) :)]
    exact h.pinEnvs

end Rows

/-- Rows that are stored one after another, as long as none clashes, keep a rule that each keeps which
does not clash. -/
theorem appendUntilClash_keeps {ρ κ : Type} (clash : List ρ → ρ → Option κ) {P : List ρ → Prop}
    (hclash : ∀ rows row, P rows → clash rows row = none → P (rows ++ [row])) {rows : List ρ}
    (h : P rows) (batch : List ρ) : P (appendUntilClash clash rows batch).1 := by
  induction batch generalizing rows with
  | nil => exact h
  | cons row rest ih =>
      unfold appendUntilClash
      cases hrow : clash rows row with
      | some cause => exact h
      | none => exact ih (hclash rows row h hrow)

variable {work : Work} (h : Keyed work.tables) (workspace : String)

include h

theorem keyed_insertConfig (config : Config) :
    Keyed (work.insertConfig workspace config).2.tables :=
  appendUntilClash_keeps configClash (P := fun configs => Keyed { work.tables with configs })
    (fun _ _ hrows hfree => keyed_config hrows hfree) h [.of workspace config]

theorem keyed_insertBlueprint (config : ConfigId) (blueprint : Blueprint) :
    Keyed (work.insertBlueprint workspace config blueprint).2.tables :=
  appendUntilClash_keeps blueprintClash (P := fun blueprints => Keyed { work.tables with blueprints })
    (fun _ _ hrows hfree => keyed_blueprint hrows hfree) h [.of workspace config blueprint]

theorem keyed_insertValues (config : ConfigId) (rows : List ValueRow) :
    Keyed (work.insertValues workspace config rows).2.tables :=
  appendUntilClash_keeps valueClash (P := fun values => Keyed { work.tables with values })
    (fun _ _ hrows hfree => keyed_value hrows hfree) h _

theorem keyed_insertPins (rows : List Pin) : Keyed (work.insertPins workspace rows).2.tables :=
  appendUntilClash_keeps pinClash (P := fun pins => Keyed { work.tables with pins })
    (fun _ _ hrows hfree => keyed_pin hrows hfree) h _

/-- Ending rows leaves their ids, and of the open rows some. -/
theorem keyed_closeValues (project : ProjectId) (validTo : BlueprintId) (keys : List String) :
    Keyed (work.closeValues workspace project validTo keys).2.tables := by
  unfold Work.closeValues
  generalize Work.closes workspace project.text keys = hit
  have hids : (work.tables.values.map fun r =>
      if hit r then { r with validTo := some validTo.text } else r).map
        (fun r => (r.workspace, r.id)) = work.tables.values.map fun r => (r.workspace, r.id) := by
    rw [List.map_map]
    apply List.map_congr_left
    intro r _
    simp only [Function.comp_apply]
    split <;> rfl
  have hopen : (work.tables.values.map fun r =>
      if hit r then { r with validTo := some validTo.text } else r).filter (·.validTo.isNone) =
        (work.tables.values.filter (·.validTo.isNone)).filter fun r => !hit r := by
    induction work.tables.values with
    | nil => rfl
    | cons r rest ih =>
        cases hr : hit r <;> cases hend : r.validTo <;> simp_all
  refine { h with valueIds := ?_, openKeys := ?_ }
  · rw [hids]
    exact h.valueIds
  · rw [hopen]
    exact h.openKeys.sublist (List.filter_sublist.map _)

theorem keyed_updatePins (project : ProjectId) (user : String) (now : Instant)
    (targets : List PinTarget) :
    Keyed (Work.updatePins workspace project user now targets work).2.tables := by
  induction targets generalizing work with
  | nil => exact h
  | cons target rest ih =>
      refine @ih ⟨work.mode, work.before, _⟩ (keyed_map_pins h fun r => ?_)
      split
      · exact fixed_moved user now target.blueprint r
      · rfl

/-- No call breaks a rule, whatever the tables hold. -/
theorem keyed_perform (c : Call) : Keyed (perform workspace c work).2.tables := by
  cases hwrites : c.writes with
  | false =>
      rw [perform_of_reads hwrites]
      exact h
  | true =>
      unfold perform
      split
      · exact h
      · cases c with
        | insertConfig config => exact keyed_insertConfig h workspace config
        | insertBlueprint config blueprint => exact keyed_insertBlueprint h workspace config blueprint
        | closeValues project validTo keys => exact keyed_closeValues h workspace project validTo keys
        | insertValues config rows => exact keyed_insertValues h workspace config rows
        | insertPins pins => exact keyed_insertPins h workspace pins
        | updatePins project user now targets =>
            exact keyed_updatePins h workspace project user now targets
        | _ => cases hwrites

end ConfigTimeline.Database
