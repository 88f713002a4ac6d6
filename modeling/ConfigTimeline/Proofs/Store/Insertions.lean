import ConfigTimeline.Proofs.Store.TableModel

/-!
The rules of the tables in memory decide what is stored. They hold after any number of units of work
and at any point within one, whatever calls the units make and however they end: each call keeps them,
hence each program does, and a unit that is rolled back goes back to tables that kept them. Between
such tables and a new record only the rules stand: an insertion is refused exactly if the tables with
all of its records would break one, and what it stores is the longest beginning that breaks none.
-/

namespace ConfigTimeline

/-- A unit of work on a store of some kind: a program with a mode and a source of identifiers. -/
structure UnitOfWork where
  {failure value : Type}
  mode : Mode
  ids : Nat → Ulid
  program : Program failure value

/-- The store after units of work in turn, each committed or rolled back as its program ends. -/
def Backend.settle (b : Backend) (store : b.Store) (units : List UnitOfWork) : b.Store :=
  units.foldl (fun store unit => (b.inUnit unit.mode unit.ids unit.program store).store) store

inductive Insertion
  | config (config : Config)
  | blueprint (config : ConfigId) (blueprint : Blueprint)
  | values (config : ConfigId) (rows : List ValueRow)
  | pins (pins : List Pin)

namespace Insertion

def call : Insertion → Call
  | .config added => .insertConfig added
  | .blueprint owner added => .insertBlueprint owner added
  | .values owner rows => .insertValues owner rows
  | .pins rows => .insertPins rows

def size : Insertion → Nat
  | .config _ => 1
  | .blueprint _ _ => 1
  | .values _ rows => rows.length
  | .pins rows => rows.length

/-- Tables with the first records of an insertion after their own. -/
def stored (workspace : String) (t : Memory.Tables) (count : Nat) : Insertion → Memory.Tables
  | .config added => { t with configs := t.configs ++ [⟨workspace, added⟩].take count }
  | .blueprint _ added =>
      { t with blueprints := t.blueprints ++ [⟨workspace, added⟩].take count }
  | .values _ rows =>
      { t with values := t.values ++ (rows.map fun row => ⟨workspace, row⟩).take count }
  | .pins rows => { t with pins := t.pins ++ (rows.map fun pin => ⟨workspace, pin⟩).take count }

end Insertion

namespace Memory

variable {ε α : Type}

/-- No program breaks a rule, wherever it ends. -/
theorem constrained_run (ids : Nat → Ulid) (p : Program ε α) {work : Work}
    (h : Constrained work.tables) (drawn : Nat) :
    Constrained (backend.run ids p work drawn).work.tables := by
  induction p generalizing work drawn with
  | done a => exact h
  | fail e => exact h
  | call workspace c next ih => exact ih _ (constrained_perform workspace c h) _
  | draw next ih => exact ih _ h _

theorem mode_run (ids : Nat → Ulid) (p : Program ε α) (work : Work) (drawn : Nat) :
    (backend.run ids p work drawn).work.mode = work.mode := by
  induction p generalizing work drawn with
  | done a => rfl
  | fail e => rfl
  | call workspace c next ih => exact (ih _ _ _).trans (mode_perform workspace c work)
  | draw next ih => exact ih _ _ _

/-- A unit that is committed leaves tables that its program left, and one that is rolled back leaves
those it began with. -/
theorem constrained_inUnit (mode : Mode) (ids : Nat → Ulid) (p : Program ε α) {t : Tables}
    (h : Constrained t) : Constrained (backend.inUnit mode ids p t).store := by
  cases hresult : (backend.run ids p (backend.start mode t) 0).result with
  | error e =>
      rw [store_inUnit_of_error hresult]
      exact h
  | ok a =>
      rw [store_inUnit_of_ok hresult]
      exact constrained_run ids p h 0

theorem constrained_settle (units : List UnitOfWork) {t : Tables} (h : Constrained t) :
    Constrained (backend.settle t units) := by
  induction units generalizing t with
  | nil => exact h
  | cons unit rest ih => exact ih (constrained_inUnit unit.mode unit.ids unit.program h)

/-- How far an insertion came: as far as the rules allow. It is refused exactly if they do not allow
all of its records. -/
structure Inserted (workspace : String) (t : Tables) (insertion : Insertion) (kept : Nat)
    (answer : Except StoreError insertion.call.Answer) (after : Tables) : Prop where
  within : kept ≤ insertion.size
  stored : after = insertion.stored workspace t kept
  allowed : ∀ n ≤ insertion.size, Constrained (insertion.stored workspace t n) ↔ n ≤ kept
  refused : (∃ clash, answer = .error (.conflict clash)) ↔
    ¬Constrained (insertion.stored workspace t insertion.size)
  accepted : (∃ a, answer = .ok a) ↔ Constrained (insertion.stored workspace t insertion.size)

theorem answerOf_eq_error {clash : Option Clash} :
    (∃ cause, answerOf clash = .error (.conflict cause)) ↔ ¬clash = none := by
  cases clash <;> simp [answerOf]

theorem answerOf_eq_ok {clash : Option Clash} : (∃ a, answerOf clash = .ok a) ↔ clash = none := by
  cases clash <;> simp [answerOf]

/-- A batch under the rules, for an insertion that answers with the clash that the batch met. -/
theorem Inserted.of_batch {workspace : String} {t after : Tables} {insertion : Insertion}
    {answer : Except StoreError insertion.call.Answer} {clash : Option Clash} {kept : Nat}
    (hrefused : (∃ cause, answer = .error (.conflict cause)) ↔ ¬clash = none)
    (haccepted : (∃ a, answer = .ok a) ↔ clash = none)
    (hkept : kept ≤ insertion.size) (hafter : after = insertion.stored workspace t kept)
    (hclash : clash = none ↔ kept = insertion.size)
    (hrule : ∀ n ≤ insertion.size, Constrained (insertion.stored workspace t n) ↔ n ≤ kept) :
    Inserted workspace t insertion kept answer after := by
  have hall : Constrained (insertion.stored workspace t insertion.size) ↔ clash = none := by
    rw [hrule _ (Nat.le_refl _), hclash]
    omega
  exact ⟨hkept, hafter, hrule, by rw [hrefused, hall], by rw [haccepted, hall]⟩

/-- A single record, which is stored unless it clashes. -/
theorem Inserted.of_record {workspace : String} {t after : Tables} {insertion : Insertion}
    {answer : Except StoreError insertion.call.Answer} {clash : Option Clash} (h : Constrained t)
    (hrefused : (∃ cause, answer = .error (.conflict cause)) ↔ ¬clash = none)
    (haccepted : (∃ a, answer = .ok a) ↔ clash = none)
    (hsize : insertion.size = 1) (hold : insertion.stored workspace t 0 = t)
    (hnew : Constrained (insertion.stored workspace t 1) ↔ clash = none)
    (hafter : after = if clash = none then insertion.stored workspace t 1 else t) :
    ∃ kept, Inserted workspace t insertion kept answer after := by
  have hone : ∀ n ≤ 1, Constrained (insertion.stored workspace t n) ↔ clash = none ∨ n = 0 := by
    intro n hn
    obtain rfl | rfl : n = 0 ∨ n = 1 := by omega
    · simpa [hold] using h
    · simpa using hnew
  by_cases hclash : clash = none
  · refine ⟨1, .of_batch hrefused haccepted hsize.ge ?_ ?_ ?_⟩
    · rw [hafter, if_pos hclash]
    · simp [hclash, hsize]
    · intro n hn
      rw [hsize] at hn
      simp [hone n hn, hclash, hn]
  · refine ⟨0, .of_batch hrefused haccepted (Nat.zero_le _) ?_ ?_ ?_⟩
    · rw [hafter, if_neg hclash, hold]
    · simp [hclash, hsize]
    · intro n hn
      rw [hsize] at hn
      simp [hone n hn, hclash]

section Insertions

variable {work : Work} (h : Constrained work.tables) (workspace : String)

include h

theorem inserted_config (config : Config) :
    ∃ kept, Inserted workspace work.tables (.config config) kept
      (work.insertConfig workspace config).1 (work.insertConfig workspace config).2.tables := by
  have hwork : (work.insertConfig workspace config).1 =
        answerOf (configClash work.tables.configs ⟨workspace, config⟩) ∧
      (work.insertConfig workspace config).2.tables =
        if configClash work.tables.configs ⟨workspace, config⟩ = none then
          (Insertion.config config).stored workspace work.tables 1
        else work.tables := by
    unfold Work.insertConfig
    cases hclash : configClash work.tables.configs ⟨workspace, config⟩ with
    | none => exact ⟨rfl, rfl⟩
    | some cause => exact ⟨rfl, rfl⟩
  rw [hwork.1]
  refine Inserted.of_record h answerOf_eq_error answerOf_eq_ok rfl ?_
    (constrained_config_iff h ⟨workspace, config⟩) hwork.2
  simp [Insertion.stored]

theorem inserted_blueprint (owner : ConfigId) (blueprint : Blueprint) :
    ∃ kept, Inserted workspace work.tables (.blueprint owner blueprint) kept
      (work.insertBlueprint workspace blueprint).1
      (work.insertBlueprint workspace blueprint).2.tables := by
  have hwork : (work.insertBlueprint workspace blueprint).1 =
        answerOf (blueprintClash work.tables.blueprints ⟨workspace, blueprint⟩) ∧
      (work.insertBlueprint workspace blueprint).2.tables =
        if blueprintClash work.tables.blueprints ⟨workspace, blueprint⟩ = none then
          (Insertion.blueprint owner blueprint).stored workspace work.tables 1
        else work.tables := by
    unfold Work.insertBlueprint
    cases hclash : blueprintClash work.tables.blueprints ⟨workspace, blueprint⟩ with
    | none => exact ⟨rfl, rfl⟩
    | some cause => exact ⟨rfl, rfl⟩
  rw [hwork.1]
  refine Inserted.of_record h answerOf_eq_error answerOf_eq_ok rfl ?_
    (constrained_blueprint_iff h ⟨workspace, blueprint⟩) hwork.2
  simp [Insertion.stored]

theorem inserted_values (config : ConfigId) (rows : List ValueRow) :
    ∃ kept, Inserted workspace work.tables (.values config rows) kept
      (work.insertValues workspace rows).1 (work.insertValues workspace rows).2.tables := by
  obtain ⟨kept, hkept, hrows, hclash, hrule⟩ :=
    constrained_values h (rows.map fun row => ⟨workspace, row⟩)
  rw [List.length_map] at hkept hclash hrule
  refine ⟨kept, .of_batch answerOf_eq_error answerOf_eq_ok hkept ?_ hclash hrule⟩
  exact congrArg (fun values => { work.tables with values }) hrows

theorem inserted_pins (rows : List Pin) :
    ∃ kept, Inserted workspace work.tables (.pins rows) kept
      (work.insertPins workspace rows).1 (work.insertPins workspace rows).2.tables := by
  obtain ⟨kept, hkept, hrows, hclash, hrule⟩ :=
    constrained_pins h (rows.map fun row => ⟨workspace, row⟩)
  rw [List.length_map] at hkept hclash hrule
  refine ⟨kept, .of_batch answerOf_eq_error answerOf_eq_ok hkept ?_ hclash hrule⟩
  exact congrArg (fun pins => { work.tables with pins }) hrows

theorem inserted_perform (hmode : work.mode = .write) (insertion : Insertion) :
    ∃ kept, Inserted workspace work.tables insertion kept
      (perform workspace insertion.call work).1
      (perform workspace insertion.call work).2.tables := by
  cases insertion with
  | config config =>
      simpa [perform, Insertion.call, hmode] using inserted_config h workspace config
  | blueprint owner blueprint =>
      simpa [perform, Insertion.call, hmode] using inserted_blueprint h workspace owner blueprint
  | values owner rows =>
      simpa [perform, Insertion.call, hmode] using inserted_values h workspace owner rows
  | pins rows => simpa [perform, Insertion.call, hmode] using inserted_pins h workspace rows

end Insertions

/-- After any units of work, and wherever another one has come to, the tables keep the rules. A record
is then refused for a conflict exactly if storing it would break one. Of a batch the records before
the first that would break one are stored, in order, also where that one only clashes with an earlier
record of the batch, and none after it. -/
theorem rules_decide_insertions (units : List UnitOfWork) (ids : Nat → Ulid) (p : Program ε α)
    (workspace : String) (insertion : Insertion) :
    let store := backend.settle .empty units
    let work := (backend.run ids p (backend.start .write store) 0).work
    let inserted := perform workspace insertion.call work
    Constrained store ∧ Constrained work.tables ∧ Constrained inserted.2.tables ∧
      ∃ kept,
        Inserted workspace work.tables insertion kept inserted.1 inserted.2.tables := by
  intro store work inserted
  have hstore : Constrained store := constrained_settle units constrained_empty
  have hwork : Constrained work.tables := constrained_run ids p hstore 0
  have hmode : work.mode = .write := mode_run ids p (backend.start .write store) 0
  exact ⟨hstore, hwork, constrained_perform workspace insertion.call hwork,
    inserted_perform hwork workspace hmode insertion⟩

end Memory

end ConfigTimeline
