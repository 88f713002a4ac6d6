import ConfigTimeline.Proofs.Service.Reading

/-!
Laying a mask over what a read shows. The mask is looked up only once the read has gone through, so a
read that fails does so with any mask. Of the values nothing is mixed: each key has the row of the mask
whole, if the mask has one, or else the row that the read shows.
-/

namespace ConfigTimeline

/-- The rows of a key that stay are the last one, if there is one. -/
theorem filter_lastPerKey (rows : List ValueRow) (key : String) :
    (lastPerKey rows).filter (·.key == key) = (rows.filter (·.key == key)).getLast?.toList := by
  induction rows with
  | nil => rfl
  | cons row rest ih =>
      unfold lastPerKey
      by_cases hkey : row.key = key
      · subst hkey
        split
        · rename_i hlater
          have hne : rest.filter (·.key == row.key) ≠ [] := by
            obtain ⟨later, hmem, hsame⟩ := List.any_eq_true.mp hlater
            exact List.ne_nil_of_mem (List.mem_filter.mpr ⟨hmem, hsame⟩)
          rw [ih, List.filter_cons_of_pos (by exact beq_self_eq_true row.key),
            List.getLast?_cons_of_ne_nil hne]
        · rename_i hlast
          have hnone : rest.filter (·.key == row.key) = [] := by
            rw [List.filter_eq_nil_iff]
            intro later hmem hsame
            exact hlast (List.any_eq_true.mpr ⟨later, hmem, hsame⟩)
          simp [ih, hnone]
      · have hother : (row.key == key) = false := beq_eq_false_iff_ne.mpr hkey
        split <;> simp [ih, hother]

/-- Values with a mask over them have each key once. -/
theorem nodup_keys_overlay (base mask : List ValueRow) : ((overlay base mask).map (·.key)).Nodup := by
  refine nodup_map_of_filter fun key => ?_
  rw [overlay, filter_lastPerKey]
  exact Option.length_toList_le

/-- The row of a key is that of the mask, or else that of the values below. -/
theorem find?_overlay {base mask : List ValueRow} (hbase : (base.map (·.key)).Nodup)
    (hmask : (mask.map (·.key)).Nodup) (key : String) :
    (overlay base mask).find? (·.key == key) =
      (mask.find? (·.key == key)).or (base.find? (·.key == key)) := by
  rw [← List.head?_filter, overlay, filter_lastPerKey, List.filter_append,
    filter_eq_toList_find? hbase, filter_eq_toList_find? hmask, Option.head?_toList]
  cases mask.find? (·.key == key) with
  | none => cases base.find? (·.key == key) <;> rfl
  | some row => cases base.find? (·.key == key) <;> rfl

theorem isSome_value? (v : BlueprintView) (key : String) :
    (v.value? key).isSome = true ↔ key ∈ v.values.map (·.key) := by
  simp [BlueprintView.value?]

namespace Service

variable {b : Backend} (s : Service b) (workspace : String) (supply : Supply)
  {action : Action BlueprintView} {mask : Option BlueprintId}

theorem result_view :
    (s.view workspace supply action mask).result =
      (b.run supply.ids (action >>= Resolution.masked workspace mask) (b.start .read s.store)
        0).result.map Reply.view := by
  change (b.inUnit .read supply.ids (Reply.view <$> (action >>= Resolution.masked workspace mask))
    s.store).result = _
  rw [b.result_inUnit, b.result_map]

theorem view_ok {reply : Reply} (h : (s.view workspace supply action mask).result = .ok reply) :
    ∃ v, reply = .view v := by
  rw [result_view] at h
  cases hended : (b.run supply.ids (action >>= Resolution.masked workspace mask)
      (b.start .read s.store) 0).result with
  | error e =>
      rw [hended] at h
      cases h
  | ok v =>
      rw [hended] at h
      exact ⟨v, (Except.ok.inj h).symm⟩

/-- A read that fails without a mask fails with any. -/
theorem view_error {e : ServiceError}
    (h : (s.view workspace supply action none).result = .error e) :
    (s.view workspace supply action mask).result = .error e := by
  rw [result_view, b.run_bind] at h ⊢
  cases hended : (b.run supply.ids action (b.start .read s.store) 0).result with
  | error e' =>
      rw [hended] at h
      exact h
  | ok v =>
      rw [hended] at h
      cases h

end Service

namespace TableModel

variable {b : Backend} (model : TableModel b) {s : Service b} {t : Memory.Tables}
  {workspace : String} {supply : Supply} {action : Action BlueprintView}

/-- A mask is laid over what a read shows without it. -/
theorem view_overlays (hstore : model.Holds s.store t) (hlegible : t.Legible model.Sure)
    {found : Except NotFound Blueprint}
    (h : action.Ensures model.Sure supply.ids
      (fun outcome m' _ => m' = Memory.backend.start .read t ∧ t.Shows workspace found outcome)
      (Memory.backend.start .read t) 0) {v : BlueprintView}
    (hshown : (s.view workspace supply action none).result = .ok (.view v)) (mask : BlueprintId) :
    t.Shows workspace found (.ok v) ∧ ∃ outcome, t.Overlays workspace mask v outcome ∧
      (s.view workspace supply action (some mask)).result = outcome.map Reply.view := by
  rw [Service.result_view, b.run_bind] at hshown ⊢
  obtain ⟨m, hwithin, -, rfl, hshows⟩ := model.run (model.start .read hstore) h
  cases hended : (b.run supply.ids action (b.start .read s.store) 0).result with
  | error e =>
      rw [hended] at hshown
      cases hshown
  | ok shown =>
      rw [hended] at hshown hshows
      obtain rfl : shown = v := by
        injection hshown with hreply
        injection hreply
      refine ⟨hshows, _, ?_, rfl⟩
      have hmasked : ∀ n, (Resolution.masked workspace (some mask) shown).Ensures model.Sure
          supply.ids (fun outcome m' _ => m' = Memory.backend.start .read t ∧
            t.Overlays workspace mask shown outcome) (Memory.backend.start .read t) n :=
        fun n => Resolution.ensures_masked (m := Memory.backend.start .read t) hlegible mask shown
      obtain ⟨_, -, -, -, hoverlays⟩ := model.run hwithin (hmasked _)
      exact hoverlays

end TableModel

end ConfigTimeline
