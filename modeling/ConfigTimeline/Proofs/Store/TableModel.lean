import ConfigTimeline.Proofs.Store.Simulation

/-!
What a store has to do so that its callers may think of it as tables in memory. A unit of work on the
store runs side by side with one on the tables: both start together, make the same calls with outcomes
that callers take for the same, and commit or roll back together. The tables themselves are such a
store, and so is the database.
-/

namespace ConfigTimeline

/-- A reading of a store as tables in memory. -/
structure TableModel (b : Backend) where
  /-- The answer to a call on the tables is certain. -/
  Sure : Memory.Tables → Call → Prop
  Holds : b.Store → Memory.Tables → Prop
  Within : b.Work → Memory.Work → Prop
  start : ∀ {store t} (mode : Mode), Holds store t →
    Within (b.start mode store) (Memory.backend.start mode t)
  perform : ∀ {work m} (workspace : String) {c : Call}, Within work m →
    (c.writes = true → m.mode = .write) → c.asked.Nodup →
    Within (b.perform workspace c work).2 (Memory.perform workspace c m).2 ∧
      c.MayAnswer (Sure m.tables c) (b.perform workspace c work).1
        (Memory.perform workspace c m).1
  constrained : ∀ {work m}, Within work m → Memory.Constrained m.tables
  commit : ∀ {work m}, Within work m → Holds (b.commit work) m.tables
  rollback : ∀ {work m}, Within work m → Holds (b.rollback work) m.origin

namespace Memory

theorem mode_updatePins (workspace : String) (project : ProjectId) (user : String)
    (now : Instant) (targets : List PinTarget) (work : Work) :
    (Work.updatePins workspace project user now targets work).2.mode = work.mode := by
  induction targets generalizing work with
  | nil => rfl
  | cons target rest ih =>
      have hfirst : (work.updatePin workspace project user now target).2.mode = work.mode := by
        unfold Work.updatePin
        split <;> rfl
      exact (ih _).trans hfirst

/-- No call changes the mode of a unit of work. -/
theorem Performed.mode {workspace : String} {c : Call} {work after : Work}
    (h : Performed workspace work c after) : after.mode = work.mode := by
  cases h with
  | unchanged => rfl
  | insertConfig config =>
      unfold Work.insertConfig
      split <;> rfl
  | insertBlueprint _ blueprint =>
      unfold Work.insertBlueprint
      split <;> rfl
  | closeValues => rfl
  | insertValues => rfl
  | insertPins => rfl
  | updatePins project user now targets =>
      exact mode_updatePins workspace project user now targets work

theorem mode_perform (workspace : String) (c : Call) (work : Work) :
    (perform workspace c work).2.mode = work.mode :=
  (performed workspace c work).mode

def tableModel : TableModel backend where
  Sure _ _ := True
  Holds store t := store = t ∧ Constrained t
  Within work m := work = m ∧ Constrained m.tables ∧ Constrained m.origin
  start := by
    rintro store t mode ⟨rfl, hconstrained⟩
    exact ⟨rfl, hconstrained, hconstrained⟩
  perform := by
    rintro work m workspace c ⟨hsame, hconstrained, horigin⟩ _ _
    obtain rfl : m = work := hsame.symm
    have hkept : Constrained (perform workspace c m).2.origin := by
      rw [origin_perform]
      exact horigin
    exact ⟨⟨rfl, constrained_perform workspace c hconstrained, hkept⟩,
      Or.inl (Call.agree_refl _)⟩
  constrained h := h.2.1
  commit := by
    rintro work m ⟨rfl, hconstrained, -⟩
    exact ⟨rfl, hconstrained⟩
  rollback := by
    rintro work m ⟨rfl, -, horigin⟩
    exact ⟨rfl, horigin⟩

theorem holds_empty : tableModel.Holds .empty .empty := ⟨rfl, constrained_empty⟩

end Memory

namespace Database

theorem frame_updatePins (workspace : String) (project : ProjectId) (user : String)
    (now : Instant) (targets : List PinTarget) (work : Work) :
    (Work.updatePins workspace project user now targets work).2.mode = work.mode ∧
      (Work.updatePins workspace project user now targets work).2.before = work.before := by
  induction targets generalizing work with
  | nil => exact ⟨rfl, rfl⟩
  | cons target rest ih => exact ih _

/-- No call changes the mode of a unit of work, or what it goes back to when it fails. -/
theorem frame_perform (workspace : String) (c : Call) (work : Work) :
    (perform workspace c work).2.mode = work.mode ∧
      (perform workspace c work).2.before = work.before := by
  unfold perform
  split
  · exact ⟨rfl, rfl⟩
  · cases c <;> first | exact ⟨rfl, rfl⟩ | exact frame_updatePins workspace _ _ _ _ work

/-- A database without rows, as it is after it has been opened for the first time. -/
def new : Database := ⟨schemaVersion, .empty⟩

theorem opened_blank : opened blank = .ok new := rfl

def tableModel : TableModel backend where
  Sure t c := t.Dated ∧ c.skips ≤ Tables.maxOffset
  Holds store t := Represents store.tables t ∧ Memory.Constrained t
  Within work m := work.mode = m.mode ∧
    (Represents work.tables m.tables ∧ Memory.Constrained m.tables) ∧
      Represents work.before.tables m.origin ∧ Memory.Constrained m.origin
  start := by
    intro store t mode h
    exact ⟨rfl, h, h⟩
  perform := by
    rintro work m workspace c ⟨hmode, ⟨htables, hconstrained⟩, hbefore⟩ hwrites hasked
    obtain ⟨hafter, hanswer⟩ :=
      perform_represents htables hconstrained hmode workspace hwrites hasked
    obtain ⟨hkeptMode, hkeptBefore⟩ := frame_perform workspace c work
    have hbeforeAfter : Represents (perform workspace c work).2.before.tables
        (Memory.perform workspace c m).2.origin ∧
          Memory.Constrained (Memory.perform workspace c m).2.origin := by
      rw [hkeptBefore, Memory.origin_perform]
      exact hbefore
    exact ⟨⟨hkeptMode.trans (hmode.trans (Memory.mode_perform workspace c m).symm),
      ⟨hafter, Memory.constrained_perform workspace c hconstrained⟩, hbeforeAfter⟩, hanswer⟩
  constrained h := h.2.1.2
  commit h := h.2.1
  rollback h := h.2.2

theorem holds_new : tableModel.Holds new .empty :=
  ⟨represents_empty, Memory.constrained_empty⟩

end Database

end ConfigTimeline
