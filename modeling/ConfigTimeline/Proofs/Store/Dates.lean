import ConfigTimeline.Proofs.Store.Atomicity
import ConfigTimeline.Proofs.Store.Cells

/-!
Records whose points in time have room in a row of text. Records come to be only as calls bring them
along, and only pins change later; so tables have room for all their records if every call so far had
room for its own.
-/

namespace ConfigTimeline

def Call.Dated : Call → Prop
  | .insertConfig config => config.audit.Dated
  | .insertBlueprint _ blueprint => blueprint.audit.Dated
  | .insertPins batch => ∀ pin ∈ batch, pin.audit.Dated
  | .updatePins _ _ now _ => now.FourDigitYear
  | _ => True

namespace Memory

/-- The points in time of all records are ones that rows have room for. -/
structure Tables.Dated (t : Tables) : Prop where
  configs : ∀ row ∈ t.configs, row.record.audit.Dated
  blueprints : ∀ row ∈ t.blueprints, row.record.audit.Dated
  pins : ∀ row ∈ t.pins, row.record.audit.Dated

theorem dated_empty : Tables.empty.Dated := by
  constructor <;> exact List.forall_mem_nil _

variable {work : Work}

theorem dated_insertConfig (h : work.tables.Dated) (workspace : String) {config : Config}
    (hdated : config.audit.Dated) : (work.insertConfig workspace config).2.tables.Dated := by
  unfold Work.insertConfig
  split
  · exact h
  · refine { h with configs := ?_ }
    intro row hrow
    rcases List.mem_append.mp hrow with hold | hnew
    · exact h.configs row hold
    · rw [List.mem_singleton.mp hnew]
      exact hdated

theorem dated_insertBlueprint (h : work.tables.Dated) (workspace : String) {blueprint : Blueprint}
    (hdated : blueprint.audit.Dated) :
    (work.insertBlueprint workspace blueprint).2.tables.Dated := by
  unfold Work.insertBlueprint
  split
  · exact h
  · refine { h with blueprints := ?_ }
    intro row hrow
    rcases List.mem_append.mp hrow with hold | hnew
    · exact h.blueprints row hold
    · rw [List.mem_singleton.mp hnew]
      exact hdated

theorem dated_insertPins (h : work.tables.Dated) (workspace : String) {rows : List Pin}
    (hdated : ∀ pin ∈ rows, pin.audit.Dated) :
    (work.insertPins workspace rows).2.tables.Dated := by
  refine { h with pins := ?_ }
  obtain ⟨kept, hkept, hrows⟩ := appendUntilClash_extends pinClash work.tables.pins
    (rows.map fun row => ⟨workspace, row⟩)
  intro row hrow
  change row ∈ (appendUntilClash pinClash work.tables.pins _).1 at hrow
  rw [hrows] at hrow
  rcases List.mem_append.mp hrow with hold | hnew
  · exact h.pins row hold
  · obtain ⟨pin, hpin, rfl⟩ := List.mem_map.mp (hkept.subset hnew)
    exact hdated pin hpin

theorem dated_updatePin (h : work.tables.Dated) (workspace : String) (project : ProjectId)
    (user : String) {now : Instant} (hnow : now.FourDigitYear) (target : PinTarget) :
    (work.updatePin workspace project user now target).2.tables.Dated := by
  unfold Work.updatePin
  split
  · exact h
  · rename_i index _
    refine { h with pins := ?_ }
    intro row hrow
    obtain ⟨i, hi⟩ := List.mem_iff_getElem?.mp hrow
    rw [List.getElem?_modify] at hi
    obtain ⟨old, hold, hnew⟩ := Option.map_eq_some_iff.mp hi
    have hdated := h.pins old (List.mem_of_getElem? hold)
    rw [← hnew]
    split
    · exact ⟨hdated.1, hnow⟩
    · exact hdated

theorem dated_updatePins (workspace : String) (project : ProjectId) (user : String) {now : Instant}
    (hnow : now.FourDigitYear) (targets : List PinTarget) (h : work.tables.Dated) :
    (Work.updatePins workspace project user now targets work).2.tables.Dated := by
  induction targets generalizing work with
  | nil => exact h
  | cons target rest ih => exact ih (dated_updatePin h workspace project user hnow target)

theorem Performed.dated {workspace : String} {c : Call} {after : Work}
    (hcall : Performed workspace work c after) (hc : c.Dated) (h : work.tables.Dated) :
    after.tables.Dated := by
  cases hcall with
  | unchanged => exact h
  | insertConfig config => exact dated_insertConfig h workspace hc
  | insertBlueprint _ blueprint => exact dated_insertBlueprint h workspace hc
  | closeValues project validTo keys => exact ⟨h.configs, h.blueprints, h.pins⟩
  | insertValues _ rows => exact ⟨h.configs, h.blueprints, h.pins⟩
  | insertPins pins => exact dated_insertPins h workspace hc
  | updatePins project user now targets =>
      exact dated_updatePins workspace project user hc targets h

theorem dated_perform (workspace : String) {c : Call} (hc : c.Dated) (h : work.tables.Dated) :
    (perform workspace c work).2.tables.Dated :=
  (performed workspace c work).dated hc h

end Memory

end ConfigTimeline
