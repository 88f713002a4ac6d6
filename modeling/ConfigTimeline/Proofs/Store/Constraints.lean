import Mathlib.Data.List.Nodup
import ConfigTimeline.Proofs.Store.Atomicity

/-!
The uniqueness rules that the tables in memory keep, whatever calls are made on them: of configs,
blueprints, values and pins no two in a workspace have one id, a project has one config, a key of a
project has one open row, and an environment of a project has one pin. A row clashes with the rows
before it exactly if it would break a rule next to them, and a batch is stored as far as the rules
allow, so each kind of write keeps all of them, and with it each call.
-/

namespace ConfigTimeline

/-- What an open row occupies: its key, in a project of a workspace. -/
def Scoped.keyPlace (row : Scoped ValueRow) : String × ProjectId × String :=
  (row.workspace, row.record.project, row.record.key)

/-- What a pin occupies: its environment, in a project of a workspace. -/
def Scoped.envPlace (row : Scoped Pin) : String × ProjectId × String :=
  (row.workspace, row.record.project, row.record.env)

theorem Scoped.envPlace_eq_iff {row : Scoped Pin} {workspace env : String} {project : ProjectId} :
    row.envPlace = (workspace, project, env) ↔
      row.workspace = workspace ∧ row.record.project = project ∧ row.record.env = env := by
  simp only [envPlace, Prod.mk.injEq]

theorem nodup_map_concat {α β : Type} {key : α → β} {rows : List α} {row : α} :
    ((rows ++ [row]).map key).Nodup ↔ (rows.map key).Nodup ∧ ∀ r ∈ rows, key r ≠ key row := by
  rw [List.map_append, List.map_singleton, ← List.concat_eq_append, List.nodup_concat]
  constructor
  · rintro ⟨hfree, hrows⟩
    refine ⟨hrows, ?_⟩
    intro r hr hkey
    exact hfree (hkey ▸ List.mem_map_of_mem hr)
  · rintro ⟨hrows, hfree⟩
    refine ⟨?_, hrows⟩
    intro hmem
    obtain ⟨r, hr, hkey⟩ := List.mem_map.mp hmem
    exact hfree r hr hkey

/-- What no two rows of a workspace share, no two records of the workspace share. -/
theorem nodup_map_recordsIn {α β : Type} {key : α → β} {rows : List (Scoped α)}
    (h : (rows.map fun row => (row.workspace, key row.record)).Nodup) (workspace : String) :
    ((recordsIn workspace rows).map key).Nodup := by
  induction rows with
  | nil => exact List.nodup_nil
  | cons row rest ih =>
      rw [List.map_cons, List.nodup_cons] at h
      have hrest := ih h.2
      rw [recordsIn_cons]
      split
      · rename_i hrow
        rw [List.singleton_append, List.map_cons, List.nodup_cons]
        refine ⟨?_, hrest⟩
        intro hmem
        obtain ⟨a, ha, hkey⟩ := List.mem_map.mp hmem
        have hother := List.mem_map_of_mem (mem_recordsIn.mp ha)
          (f := fun row : Scoped α => (row.workspace, key row.record))
        rw [hkey, ← hrow] at hother
        exact h.1 hother
      · exact hrest

/-- A batch under a rule that a row breaks exactly if it clashes with the rows before it. The batch
is stored as far as the rule allows, and it meets a clash exactly if the rule stops it midway. -/
theorem appendUntilClash_of_rule {α κ : Type} {clash : List α → α → Option κ}
    {P : List α → Prop} (hinit : ∀ left right, P (left ++ right) → P left)
    (hclash : ∀ rows row, P rows → (P (rows ++ [row]) ↔ clash rows row = none))
    {rows : List α} (h : P rows) (batch : List α) :
    ∃ kept ≤ batch.length, (appendUntilClash clash rows batch).1 = rows ++ batch.take kept ∧
      ((appendUntilClash clash rows batch).2 = none ↔ kept = batch.length) ∧
      ∀ n ≤ batch.length, P (rows ++ batch.take n) ↔ n ≤ kept := by
  induction batch generalizing rows with
  | nil =>
      refine ⟨0, Nat.le_refl 0, ?_, ?_, ?_⟩
      · simp [appendUntilClash]
      · simp [appendUntilClash]
      · simp [h]
  | cons row rest ih =>
      unfold appendUntilClash
      cases hrow : clash rows row with
      | some cause =>
          have hbroken : ¬P (rows ++ [row]) := by simp [hclash rows row h, hrow]
          refine ⟨0, Nat.zero_le _, by simp, by simp, ?_⟩
          intro n _
          cases n with
          | zero => simpa using h
          | succ n =>
              rw [List.take_succ_cons, List.append_cons]
              simpa using fun hrule => hbroken (hinit _ _ hrule)
      | none =>
          obtain ⟨kept, hkept, hrows, hnone, hrule⟩ := ih ((hclash rows row h).mpr hrow)
          refine ⟨kept + 1, Nat.succ_le_succ hkept, ?_, ?_, ?_⟩
          · rw [hrows, List.take_succ_cons, List.append_assoc, List.singleton_append]
          · rw [hnone, List.length_cons, Nat.add_right_cancel_iff]
          · intro n hn
            cases n with
            | zero => simpa using h
            | succ n =>
                rw [List.take_succ_cons, List.append_cons, Nat.add_le_add_iff_right]
                exact hrule n (Nat.le_of_succ_le_succ hn)

namespace Memory

structure Constrained (t : Tables) : Prop where
  configIds : (t.configs.map fun row => (row.workspace, row.record.id)).Nodup
  configProjects : (t.configs.map fun row => (row.workspace, row.record.project)).Nodup
  blueprintIds : (t.blueprints.map fun row => (row.workspace, row.record.id)).Nodup
  valueIds : (t.values.map fun row => (row.workspace, row.record.id)).Nodup
  openKeys : ((t.values.filter (·.record.isOpen)).map Scoped.keyPlace).Nodup
  pinIds : (t.pins.map fun row => (row.workspace, row.record.id)).Nodup
  pinEnvs : (t.pins.map Scoped.envPlace).Nodup

theorem constrained_empty : Constrained .empty := by
  constructor <;> exact List.nodup_nil

theorem configClash_eq_none {rows : List (Scoped Config)} {row : Scoped Config} :
    configClash rows row = none ↔ ∀ r ∈ rows, r.workspace = row.workspace →
      r.record.id ≠ row.record.id ∧ r.record.project ≠ row.record.project := by
  unfold configClash
  split
  · rename_i hany
    simp only [List.any_eq_true, Bool.and_eq_true, Bool.or_eq_true, beq_iff_eq] at hany
    obtain ⟨r, hr, hworkspace, hsame⟩ := hany
    simp only [reduceCtorEq, false_iff]
    intro hfree
    have := hfree r hr hworkspace
    tauto
  · rename_i hany
    simp only [List.any_eq_true, Bool.and_eq_true, Bool.or_eq_true, beq_iff_eq, not_exists,
      not_and, not_or] at hany
    simpa using hany

theorem blueprintClash_eq_none {rows : List (Scoped Blueprint)} {row : Scoped Blueprint} :
    blueprintClash rows row = none ↔
      ∀ r ∈ rows, r.workspace = row.workspace → r.record.id ≠ row.record.id := by
  simp [blueprintClash]

theorem valueClash_eq_none {rows : List (Scoped ValueRow)} {row : Scoped ValueRow} :
    valueClash rows row = none ↔ ∀ r ∈ rows, r.workspace = row.workspace →
      r.record.id ≠ row.record.id ∧
        (r.record.isOpen = true → row.record.isOpen = true → r.keyPlace ≠ row.keyPlace) := by
  simp only [valueClash, Option.map_eq_none_iff, List.find?_eq_none, valuesClash, Scoped.keyPlace]
  constructor
  · intro h r hr hworkspace
    have hpair := h r hr
    simp only [hworkspace, BEq.rfl, Bool.true_and, Bool.or_eq_true, Bool.and_eq_true, beq_iff_eq,
      not_or, not_and] at hpair
    refine ⟨hpair.1, ?_⟩
    intro hopen hrow hplace
    simp only [Prod.mk.injEq] at hplace
    exact hpair.2 ⟨⟨hrow, hopen⟩, hplace.2.1⟩ hplace.2.2
  · intro h r hr hpair
    simp only [Bool.and_eq_true, Bool.or_eq_true, beq_iff_eq] at hpair
    obtain ⟨hworkspace, hid | ⟨⟨⟨hrow, hopen⟩, hproject⟩, hkey⟩⟩ := hpair
    · exact (h r hr hworkspace).1 hid
    · exact (h r hr hworkspace).2 hopen hrow (by rw [hworkspace, hproject, hkey])

theorem pinClash_eq_none {rows : List (Scoped Pin)} {row : Scoped Pin} :
    pinClash rows row = none ↔ ∀ r ∈ rows, r.workspace = row.workspace →
      r.record.id ≠ row.record.id ∧ r.envPlace ≠ row.envPlace := by
  simp only [pinClash, Scoped.envPlace]
  constructor
  · intro h r hr hworkspace
    simp only [ite_eq_right_iff, reduceCtorEq, imp_false, List.any_eq_true, not_exists,
      Bool.and_eq_true, Bool.or_eq_true, beq_iff_eq, not_and, not_or] at h
    have hpair := h r hr hworkspace
    refine ⟨hpair.1, ?_⟩
    intro hplace
    simp only [Prod.mk.injEq] at hplace
    exact hpair.2 hplace.2.1 hplace.2.2
  · intro h
    simp only [ite_eq_right_iff, reduceCtorEq, imp_false, List.any_eq_true, not_exists,
      Bool.and_eq_true, Bool.or_eq_true, beq_iff_eq, not_and, not_or]
    intro r hr hworkspace
    have hpair := h r hr hworkspace
    refine ⟨hpair.1, ?_⟩
    intro hproject henv
    exact hpair.2 (by rw [hworkspace, hproject, henv])

section Rows

variable {t : Tables} (h : Constrained t)

include h

/-- Some of the rows of tables that keep the rules keep them. -/
theorem Constrained.of_sublists {kept : Tables} (hconfigs : kept.configs.Sublist t.configs)
    (hblueprints : kept.blueprints.Sublist t.blueprints)
    (hvalues : kept.values.Sublist t.values) (hpins : kept.pins.Sublist t.pins) :
    Constrained kept where
  configIds := h.configIds.sublist (hconfigs.map _)
  configProjects := h.configProjects.sublist (hconfigs.map _)
  blueprintIds := h.blueprintIds.sublist (hblueprints.map _)
  valueIds := h.valueIds.sublist (hvalues.map _)
  openKeys := h.openKeys.sublist ((hvalues.filter _).map _)
  pinIds := h.pinIds.sublist (hpins.map _)
  pinEnvs := h.pinEnvs.sublist (hpins.map _)

theorem constrained_config_iff (row : Scoped Config) :
    Constrained { t with configs := t.configs ++ [row] } ↔ configClash t.configs row = none := by
  rw [configClash_eq_none]
  constructor
  · intro hrow r hr hworkspace
    have hid := (nodup_map_concat.mp hrow.configIds).2 r hr
    have hproject := (nodup_map_concat.mp hrow.configProjects).2 r hr
    simp only [hworkspace, ne_eq, Prod.mk.injEq, true_and] at hid hproject
    exact ⟨hid, hproject⟩
  · intro hfree
    refine { h with configIds := ?_, configProjects := ?_ }
    · refine nodup_map_concat.mpr ⟨h.configIds, ?_⟩
      intro r hr hsame
      simp only [Prod.mk.injEq] at hsame
      exact (hfree r hr hsame.1).1 hsame.2
    · refine nodup_map_concat.mpr ⟨h.configProjects, ?_⟩
      intro r hr hsame
      simp only [Prod.mk.injEq] at hsame
      exact (hfree r hr hsame.1).2 hsame.2

theorem constrained_blueprint_iff (row : Scoped Blueprint) :
    Constrained { t with blueprints := t.blueprints ++ [row] } ↔
      blueprintClash t.blueprints row = none := by
  rw [blueprintClash_eq_none]
  constructor
  · intro hrow r hr hworkspace
    have hid := (nodup_map_concat.mp hrow.blueprintIds).2 r hr
    simpa only [hworkspace, ne_eq, Prod.mk.injEq, true_and] using hid
  · intro hfree
    refine { h with blueprintIds := nodup_map_concat.mpr ⟨h.blueprintIds, ?_⟩ }
    intro r hr hsame
    simp only [Prod.mk.injEq] at hsame
    exact hfree r hr hsame.1 hsame.2

theorem constrained_value_iff (row : Scoped ValueRow) :
    Constrained { t with values := t.values ++ [row] } ↔ valueClash t.values row = none := by
  rw [valueClash_eq_none]
  constructor
  · intro hrow r hr hworkspace
    have hid := (nodup_map_concat.mp hrow.valueIds).2 r hr
    simp only [hworkspace, ne_eq, Prod.mk.injEq, true_and] at hid
    refine ⟨hid, ?_⟩
    intro hropen hopen
    have hkeys := hrow.openKeys
    rw [List.filter_append, List.filter_singleton, hopen] at hkeys
    exact (nodup_map_concat.mp hkeys).2 r (List.mem_filter.mpr ⟨hr, hropen⟩)
  · intro hfree
    refine { h with valueIds := nodup_map_concat.mpr ⟨h.valueIds, ?_⟩, openKeys := ?_ }
    · intro r hr hsame
      simp only [Prod.mk.injEq] at hsame
      exact (hfree r hr hsame.1).1 hsame.2
    · rw [List.filter_append]
      cases hrow : row.record.isOpen with
      | false => simpa [hrow] using h.openKeys
      | true =>
          rw [List.filter_singleton, hrow]
          refine nodup_map_concat.mpr ⟨h.openKeys, ?_⟩
          intro r hr hsame
          obtain ⟨hmem, hropen⟩ := List.mem_filter.mp hr
          have hworkspace : r.workspace = row.workspace := congrArg Prod.fst hsame
          exact (hfree r hmem hworkspace).2 hropen hrow hsame

theorem constrained_pin_iff (row : Scoped Pin) :
    Constrained { t with pins := t.pins ++ [row] } ↔ pinClash t.pins row = none := by
  rw [pinClash_eq_none]
  constructor
  · intro hrow r hr hworkspace
    have hid := (nodup_map_concat.mp hrow.pinIds).2 r hr
    simp only [hworkspace, ne_eq, Prod.mk.injEq, true_and] at hid
    exact ⟨hid, (nodup_map_concat.mp hrow.pinEnvs).2 r hr⟩
  · intro hfree
    refine { h with
      pinIds := nodup_map_concat.mpr ⟨h.pinIds, ?_⟩
      pinEnvs := nodup_map_concat.mpr ⟨h.pinEnvs, ?_⟩ }
    · intro r hr hsame
      simp only [Prod.mk.injEq] at hsame
      exact (hfree r hr hsame.1).1 hsame.2
    · intro r hr hsame
      have hworkspace : r.workspace = row.workspace := congrArg Prod.fst hsame
      exact (hfree r hr hworkspace).2 hsame

/-- A batch of value rows is stored as far as the rules allow. -/
theorem constrained_values (batch : List (Scoped ValueRow)) :
    ∃ kept ≤ batch.length,
      (appendUntilClash valueClash t.values batch).1 = t.values ++ batch.take kept ∧
      ((appendUntilClash valueClash t.values batch).2 = none ↔ kept = batch.length) ∧
      ∀ n ≤ batch.length,
        Constrained { t with values := t.values ++ batch.take n } ↔ n ≤ kept := by
  refine appendUntilClash_of_rule (P := fun values => Constrained { t with values }) ?_ ?_ h batch
  · intro left right hrule
    exact hrule.of_sublists (.refl _) (.refl _) (List.sublist_append_left left right) (.refl _)
  · intro values row hvalues
    exact constrained_value_iff hvalues row

/-- A batch of pins is stored as far as the rules allow. -/
theorem constrained_pins (batch : List (Scoped Pin)) :
    ∃ kept ≤ batch.length,
      (appendUntilClash pinClash t.pins batch).1 = t.pins ++ batch.take kept ∧
      ((appendUntilClash pinClash t.pins batch).2 = none ↔ kept = batch.length) ∧
      ∀ n ≤ batch.length, Constrained { t with pins := t.pins ++ batch.take n } ↔ n ≤ kept := by
  refine appendUntilClash_of_rule (P := fun pins => Constrained { t with pins }) ?_ ?_ h batch
  · intro left right hrule
    exact hrule.of_sublists (.refl _) (.refl _) (.refl _) (List.sublist_append_left left right)
  · intro pins row hpins
    exact constrained_pin_iff hpins row

end Rows

variable {work : Work}

theorem constrained_insertConfig (h : Constrained work.tables) (workspace : String)
    (config : Config) : Constrained (work.insertConfig workspace config).2.tables := by
  unfold Work.insertConfig
  split
  · exact h
  · rename_i hfree
    exact (constrained_config_iff h _).mpr hfree

theorem constrained_insertBlueprint (h : Constrained work.tables) (workspace : String)
    (blueprint : Blueprint) : Constrained (work.insertBlueprint workspace blueprint).2.tables := by
  unfold Work.insertBlueprint
  split
  · exact h
  · rename_i hfree
    exact (constrained_blueprint_iff h _).mpr hfree

/-- Ending rows leaves their ids, and of the open rows some. -/
theorem constrained_closeValues (h : Constrained work.tables) (workspace : String)
    (project : ProjectId) (validTo : BlueprintId) (keys : List String) :
    Constrained (work.closeValues workspace project validTo keys).2.tables := by
  rw [closeValues_eq]
  generalize Work.closes workspace project keys = hit
  refine { h with valueIds := ?_, openKeys := ?_ }
  · have hids : (work.tables.values.map fun row =>
        if hit row then withEnd (some validTo) row else row).map
          (fun row => (row.workspace, row.record.id)) =
        work.tables.values.map fun row => (row.workspace, row.record.id) := by
      rw [List.map_map]
      apply List.map_congr_left
      intro row _
      simp only [Function.comp_apply]
      split <;> rfl
    simpa only [hids] using h.valueIds
  · have hopen : ∀ row : Scoped ValueRow,
        (if hit row then withEnd (some validTo) row else row).record.isOpen =
          (!hit row && row.record.isOpen) := by
      intro row
      cases hit row <;> simp [withEnd, ValueRow.isOpen]
    have hleft : (work.tables.values.map fun row =>
        if hit row then withEnd (some validTo) row else row).filter (·.record.isOpen) =
        (work.tables.values.filter (·.record.isOpen)).filter fun row => !hit row := by
      rw [List.filter_map, List.filter_filter]
      simp only [Function.comp_def, hopen]
      refine (List.map_congr_left ?_).trans (List.map_id' _)
      intro row hrow
      have hkept := (List.mem_filter.mp hrow).2
      simp only [Bool.and_eq_true, Bool.not_eq_true'] at hkept
      simp [hkept.1]
    simp only [hleft]
    exact h.openKeys.sublist (List.filter_sublist.map _)

theorem constrained_insertValues (h : Constrained work.tables) (workspace : String)
    (rows : List ValueRow) : Constrained (work.insertValues workspace rows).2.tables := by
  obtain ⟨kept, hkept, hrows, -, hrule⟩ :=
    constrained_values h (rows.map fun row => ⟨workspace, row⟩)
  change Constrained { work.tables with values := (appendUntilClash valueClash _ _).1 }
  rw [hrows]
  exact (hrule kept hkept).mpr (Nat.le_refl kept)

theorem constrained_insertPins (h : Constrained work.tables) (workspace : String)
    (rows : List Pin) : Constrained (work.insertPins workspace rows).2.tables := by
  obtain ⟨kept, hkept, hrows, -, hrule⟩ :=
    constrained_pins h (rows.map fun row => ⟨workspace, row⟩)
  change Constrained { work.tables with pins := (appendUntilClash pinClash _ _).1 }
  rw [hrows]
  exact (hrule kept hkept).mpr (Nat.le_refl kept)

theorem map_modify_of_eq {α β : Type} {key : α → β} {f : α → α} (hf : ∀ a, key (f a) = key a)
    (rows : List α) (i : Nat) : (rows.modify i f).map key = rows.map key := by
  apply List.ext_getElem?
  intro j
  rw [List.getElem?_map, List.getElem?_map, List.getElem?_modify]
  cases rows[j]? with
  | none => rfl
  | some a =>
      simp only [Option.map_eq_map, Option.map_some]
      split
      · rw [hf]
      · rfl

/-- Pointing a pin elsewhere leaves its id and its environment. -/
theorem constrained_updatePin (h : Constrained work.tables) (workspace : String)
    (project : ProjectId) (user : String) (now : Instant) (target : PinTarget) :
    Constrained (work.updatePin workspace project user now target).2.tables := by
  unfold Work.updatePin
  split
  · exact h
  · refine { h with pinIds := ?_, pinEnvs := ?_ }
    · dsimp only
      rw [map_modify_of_eq]
      · exact h.pinIds
      · intro _
        rfl
    · dsimp only
      rw [map_modify_of_eq]
      · exact h.pinEnvs
      · intro _
        rfl

theorem constrained_updatePins (workspace : String) (project : ProjectId) (user : String)
    (now : Instant) (targets : List PinTarget) (h : Constrained work.tables) :
    Constrained (Work.updatePins workspace project user now targets work).2.tables := by
  induction targets generalizing work with
  | nil => exact h
  | cons target rest ih => exact ih (constrained_updatePin h workspace project user now target)

/-- No call breaks a rule, whatever it is and whatever it answers. -/
theorem Performed.constrained {workspace : String} {c : Call} {after : Work}
    (hcall : Performed workspace work c after) (h : Constrained work.tables) :
    Constrained after.tables := by
  cases hcall with
  | unchanged => exact h
  | insertConfig config => exact constrained_insertConfig h workspace config
  | insertBlueprint _ blueprint => exact constrained_insertBlueprint h workspace blueprint
  | closeValues project validTo keys =>
      exact constrained_closeValues h workspace project validTo keys
  | insertValues _ rows => exact constrained_insertValues h workspace rows
  | insertPins pins => exact constrained_insertPins h workspace pins
  | updatePins project user now targets =>
      exact constrained_updatePins workspace project user now targets h

theorem constrained_perform (workspace : String) (c : Call) (h : Constrained work.tables) :
    Constrained (perform workspace c work).2.tables :=
  (performed workspace c work).constrained h

end Memory

end ConfigTimeline
