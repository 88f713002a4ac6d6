import Mathlib.Data.List.Infix
import ConfigTimeline.Proofs.Store.TableModel

/-!
What no program can do to a database. Rows are never deleted and never change places. Rows of configs
and of blueprints never change; of a row of values only the end changes, and of a row of pins only
where it points and who pointed it there when. Cells that the records do not have are kept like all
others.
-/

namespace ConfigTimeline.Database

def ValueCells.endless (r : ValueCells) : ValueCells := { r with validTo := none }

def PinCells.fixed (r : PinCells) : PinCells :=
  { r with blueprint := "", audit := { r.audit with updatedBy := "", updatedAt := "" } }

/-- The rows of tables are still there, each with the cells that never change. -/
structure Tables.Keeps (d d' : Tables) : Prop where
  configs : d.configs <+: d'.configs
  blueprints : d.blueprints <+: d'.blueprints
  values : d.values.map ValueCells.endless <+: d'.values.map ValueCells.endless
  pins : d.pins.map PinCells.fixed <+: d'.pins.map PinCells.fixed

theorem Tables.Keeps.refl (d : Tables) : d.Keeps d := by
  constructor <;> exact List.prefix_refl _

theorem Tables.Keeps.trans {d d' d'' : Tables} (h : d.Keeps d') (h' : d'.Keeps d'') :
    d.Keeps d'' where
  configs := h.configs.trans h'.configs
  blueprints := h.blueprints.trans h'.blueprints
  values := h.values.trans h'.values
  pins := h.pins.trans h'.pins

theorem prefix_appendUntilClash {α κ : Type} (clash : List α → α → Option κ)
    (rows batch : List α) : rows <+: (appendUntilClash clash rows batch).1 := by
  obtain ⟨kept, -, hrows⟩ := appendUntilClash_extends clash rows batch
  rw [hrows]
  exact List.prefix_append rows kept

/-- Rows that were changed where they stand, in cells that may change, are all there. -/
theorem prefix_map_of_eq {α β : Type} {key : α → β} {f : α → α} (h : ∀ a, key (f a) = key a)
    (rows : List α) : rows.map key <+: (rows.map f).map key := by
  have hsame : (rows.map f).map key = rows.map key := by
    rw [List.map_map]
    apply List.map_congr_left
    intro a _
    exact h a
  rw [hsame]

theorem keeps_insertConfig (work : Work) (workspace : String) (config : Config) :
    work.tables.Keeps (work.insertConfig workspace config).2.tables where
  configs := prefix_appendUntilClash configClash work.tables.configs [.of workspace config]
  blueprints := List.prefix_refl _
  values := List.prefix_refl _
  pins := List.prefix_refl _

theorem keeps_insertBlueprint (work : Work) (workspace : String) (config : ConfigId)
    (blueprint : Blueprint) :
    work.tables.Keeps (work.insertBlueprint workspace config blueprint).2.tables where
  configs := List.prefix_refl _
  blueprints := prefix_appendUntilClash blueprintClash work.tables.blueprints
    [.of workspace config blueprint]
  values := List.prefix_refl _
  pins := List.prefix_refl _

theorem keeps_closeValues (work : Work) (workspace : String) (project : ProjectId)
    (validTo : BlueprintId) (keys : List String) :
    work.tables.Keeps (work.closeValues workspace project validTo keys).2.tables := by
  refine { Tables.Keeps.refl work.tables with values := prefix_map_of_eq ?_ _ }
  intro r
  split <;> rfl

theorem keeps_insertValues (work : Work) (workspace : String) (config : ConfigId)
    (rows : List ValueRow) :
    work.tables.Keeps (work.insertValues workspace config rows).2.tables where
  configs := List.prefix_refl _
  blueprints := List.prefix_refl _
  values := (prefix_appendUntilClash valueClash work.tables.values
    (rows.map (ValueCells.of workspace config))).map _
  pins := List.prefix_refl _

theorem keeps_insertPins (work : Work) (workspace : String) (rows : List Pin) :
    work.tables.Keeps (work.insertPins workspace rows).2.tables where
  configs := List.prefix_refl _
  blueprints := List.prefix_refl _
  values := List.prefix_refl _
  pins := (prefix_appendUntilClash pinClash work.tables.pins
    (rows.map (PinCells.of workspace))).map _

theorem fixed_moved (user : String) (now : Instant) (blueprint : BlueprintId) (r : PinCells) :
    (Work.moved user now blueprint r).fixed = r.fixed := by
  simp only [Work.moved, PinCells.fixed]

theorem keeps_updatePins (workspace : String) (project : ProjectId) (user : String)
    (now : Instant) (targets : List PinTarget) (work : Work) :
    work.tables.Keeps (Work.updatePins workspace project user now targets work).2.tables := by
  induction targets generalizing work with
  | nil => exact .refl work.tables
  | cons target rest ih =>
      refine Tables.Keeps.trans ?_ (ih { work with tables := { work.tables with
        pins := work.tables.pins.map fun r =>
          if Work.names workspace project.text target.env r then
            Work.moved user now target.blueprint r
          else r } })
      refine { Tables.Keeps.refl work.tables with pins := prefix_map_of_eq ?_ _ }
      intro r
      split
      · exact fixed_moved user now target.blueprint r
      · rfl

theorem perform_of_reads {c : Call} (h : c.writes = false) (workspace : String) (work : Work) :
    (perform workspace c work).2 = work := by
  cases c <;> simp_all [perform, needsWrite, Call.writes]

theorem keeps_perform (workspace : String) (c : Call) (work : Work) :
    work.tables.Keeps (perform workspace c work).2.tables := by
  cases hwrites : c.writes with
  | false =>
      rw [perform_of_reads hwrites]
      exact .refl work.tables
  | true =>
      unfold perform
      split
      · exact .refl work.tables
      · cases c with
        | insertConfig config => exact keeps_insertConfig work workspace config
        | insertBlueprint config blueprint =>
            exact keeps_insertBlueprint work workspace config blueprint
        | closeValues project validTo keys =>
            exact keeps_closeValues work workspace project validTo keys
        | insertValues config rows => exact keeps_insertValues work workspace config rows
        | insertPins pins => exact keeps_insertPins work workspace pins
        | updatePins project user now targets =>
            exact keeps_updatePins workspace project user now targets work
        | _ => cases hwrites

variable {ε α : Type} (ids : Nat → Ulid)

/-- Nothing that a program does takes a row away, and it goes back to the same database if it fails. -/
theorem keeps_run (p : Program ε α) (work : Work) (n : Nat) :
    work.tables.Keeps (backend.run ids p work n).work.tables ∧
      (backend.run ids p work n).work.before = work.before := by
  induction p generalizing work n with
  | done a => exact ⟨.refl work.tables, rfl⟩
  | fail e => exact ⟨.refl work.tables, rfl⟩
  | call workspace c next ih =>
      have hfirst := keeps_perform workspace c work
      have hbefore := (frame_perform workspace c work).2
      obtain ⟨hrest, hbefore'⟩ := ih _ (perform workspace c work).2 n
      exact ⟨hfirst.trans hrest, hbefore'.trans hbefore⟩
  | draw next ih => exact ih _ work (n + 1)

theorem keeps_inUnit (mode : Mode) (p : Program ε α) (d : Database) :
    d.tables.Keeps (backend.inUnit mode ids p d).store.tables := by
  obtain ⟨hkeeps, hbefore⟩ := keeps_run ids p (backend.start mode d) 0
  -- A unit that fails goes back to the tables that it began with.
  cases hresult : (backend.run ids p (backend.start mode d) 0).result with
  | ok a =>
      rw [Backend.inUnit_of_ok hresult]
      exact hkeeps
  | error e =>
      rw [Backend.inUnit_of_error hresult]
      change d.tables.Keeps (backend.run ids p (backend.start mode d) 0).work.before.tables
      rw [hbefore]
      exact .refl d.tables

end ConfigTimeline.Database
