import ConfigTimeline.Proofs.Service.Run
import ConfigTimeline.Proofs.Store.Equivalence
import ConfigTimeline.Proofs.Store.Keeping

/-!
Units of work that only read. A call in such a unit leaves the working state as it was, on both kinds
of store, so the unit ends where it began, whatever calls it makes, and the store is the same after it.
A call that writes is refused, with one exception: a database that is asked to close no keys has no
statement to run, and answers that it closed none before it looks at the mode.
-/

namespace ConfigTimeline

/-- The calls that a program makes, each with the outcome that it has, in order. -/
def Backend.outcomes {ε α : Type} (b : Backend) (ids : Nat → Ulid) :
    Program ε α → b.Work → Nat → List Outcome
  | .done _, _, _ => []
  | .fail _, _, _ => []
  | .call workspace c next, work, drawn =>
      let (answer, work) := b.perform workspace c work
      ⟨c, answer⟩ :: b.outcomes ids (next answer) work drawn
  | .draw next, work, drawn => b.outcomes ids (next (ids drawn)) work (drawn + 1)

namespace Database

theorem closeValues_nil (work : Work) (workspace : String) (project : ProjectId)
    (validTo : BlueprintId) : work.closeValues workspace project validTo [] = (0, work) := by
  have hnone : ∀ r, Work.closes workspace project.text [] r = false := by
    intro r
    simp [Work.closes]
  simp [Work.closeValues, hnone]

theorem perform_closeValues_nil (work : Work) (workspace : String) (project : ProjectId)
    (validTo : BlueprintId) :
    perform workspace (.closeValues project validTo []) work = (.ok 0, work) := by
  simp [perform, needsWrite, closeValues_nil]

/-- A write that needs no permission to write closes no keys. -/
theorem eq_closeValues_of_not_needsWrite {c : Call} (hwrites : c.writes = true)
    (hneeds : needsWrite c = false) : ∃ project validTo, c = .closeValues project validTo [] := by
  cases c <;> simp_all [needsWrite, Call.writes]

theorem perform_of_needsWrite {c : Call} {work : Work} (hc : needsWrite c = true)
    (hm : work.mode = .read) (workspace : String) :
    perform workspace c work = (.error .readOnly, work) := by
  simp [perform, hc, hm]

theorem perform_of_readMode {work : Work} (hm : work.mode = .read) (workspace : String) (c : Call) :
    (perform workspace c work).2 = work := by
  cases hwrites : c.writes with
  | false => exact perform_of_reads hwrites workspace work
  | true =>
      cases hneeds : needsWrite c with
      | true => rw [perform_of_needsWrite hneeds hm]
      | false =>
          obtain ⟨project, validTo, rfl⟩ := eq_closeValues_of_not_needsWrite hwrites hneeds
          rw [perform_closeValues_nil]

end Database

namespace StoreKind

/-- The working state of a unit that only reads, on a store that is as it was at the start. -/
def reading (kind : StoreKind) (store : kind.backend.Store) : kind.backend.Work :=
  kind.backend.start .read store

variable {kind : StoreKind}

/-- What a unit that only reads makes of a call that writes. -/
theorem perform_write_reading (kind : StoreKind) (store : kind.backend.Store) (workspace : String)
    {c : Call} (hwrites : c.writes = true) :
    kind.backend.perform workspace c (kind.reading store) = (.error .readOnly, kind.reading store) ∨
      kind = .database ∧ ∃ project validTo, c = .closeValues project validTo [] := by
  cases kind with
  | memory => exact Or.inl (Memory.perform_of_readMode hwrites rfl workspace)
  | database =>
      cases hneeds : Database.needsWrite c with
      | true => exact Or.inl (Database.perform_of_needsWrite hneeds rfl workspace)
      | false => exact Or.inr ⟨rfl, Database.eq_closeValues_of_not_needsWrite hwrites hneeds⟩

theorem perform_of_reads (kind : StoreKind) {c : Call} (hreads : c.writes = false)
    (workspace : String) (work : kind.backend.Work) :
    (kind.backend.perform workspace c work).2 = work := by
  cases kind with
  | memory => exact Memory.perform_of_reads hreads workspace work
  | database => exact Database.perform_of_reads hreads workspace work

theorem perform_reading (kind : StoreKind) (store : kind.backend.Store) (workspace : String)
    (c : Call) :
    (kind.backend.perform workspace c (kind.reading store)).2 = kind.reading store := by
  cases hwrites : c.writes with
  | false => exact kind.perform_of_reads hwrites workspace _
  | true =>
      cases kind with
      | memory => exact congrArg Prod.snd (Memory.perform_of_readMode hwrites rfl workspace)
      | database => exact Database.perform_of_readMode rfl workspace c

/-- A program that runs in such a unit ends on the state that it began with, and meets each call
there. -/
theorem run_reading {ε α : Type} (kind : StoreKind) (store : kind.backend.Store)
    (ids : Nat → Ulid) (p : Program ε α) (drawn : Nat) :
    (kind.backend.run ids p (kind.reading store) drawn).work = kind.reading store ∧
      ∀ o ∈ kind.backend.outcomes ids p (kind.reading store) drawn, ∃ workspace c,
        o = ⟨c, (kind.backend.perform workspace c (kind.reading store)).1⟩ := by
  induction p generalizing drawn with
  | done a => exact ⟨rfl, List.forall_mem_nil _⟩
  | fail e => exact ⟨rfl, List.forall_mem_nil _⟩
  | call workspace c next ih =>
      simp only [Backend.run, Backend.outcomes, perform_reading]
      obtain ⟨hwork, hrest⟩ := ih _ drawn
      exact ⟨hwork, List.forall_mem_cons.mpr ⟨⟨workspace, c, rfl⟩, hrest⟩⟩
  | draw next ih => exact ih _ (drawn + 1)

theorem commit_reading (kind : StoreKind) (store : kind.backend.Store) :
    kind.backend.commit (kind.reading store) = store := by
  cases kind <;> rfl

theorem rollback_reading (kind : StoreKind) (store : kind.backend.Store) :
    kind.backend.rollback (kind.reading store) = store := by
  cases kind <;> rfl

/-- Whatever a unit that only reads asks for, the store is the same after it. Every call that writes is
refused, except that a database closes no keys without a refusal. -/
theorem read_unit_writes_nothing {ε α : Type} (kind : StoreKind) (store : kind.backend.Store)
    (ids : Nat → Ulid) (p : Program ε α) :
    let outcomes := kind.backend.outcomes ids p (kind.backend.start .read store) 0
    (kind.backend.inUnit .read ids p store).store = store ∧
      (∀ o ∈ outcomes, o.call.writes = true →
        ¬(kind = .database ∧ ∃ project validTo, o.call = .closeValues project validTo []) →
          o.outcome = .error .readOnly) ∧
      ∀ project validTo answer, kind = .database →
        (⟨.closeValues project validTo [], answer⟩ : Outcome) ∈ outcomes → answer = .ok 0 := by
  intro outcomes
  obtain ⟨hwork, hmet⟩ := run_reading kind store ids p 0
  refine ⟨?_, ?_, ?_⟩
  · cases hresult : (kind.backend.run ids p (kind.reading store) 0).result with
    | ok a =>
        rw [Backend.inUnit_of_ok hresult]
        exact (congrArg kind.backend.commit hwork).trans (kind.commit_reading store)
    | error e =>
        rw [Backend.inUnit_of_error hresult]
        exact (congrArg kind.backend.rollback hwork).trans (kind.rollback_reading store)
  · intro o hmem hwrites hother
    obtain ⟨workspace, c, rfl⟩ := hmet o hmem
    have hrefused := (kind.perform_write_reading store workspace hwrites).resolve_right hother
    exact congrArg Prod.fst hrefused
  · rintro project validTo answer rfl hmem
    obtain ⟨workspace, c, hcall⟩ := hmet _ hmem
    cases hcall
    exact congrArg Prod.fst (Database.perform_closeValues_nil _ workspace project validTo)

/-- A unit that only reads asks a database to store no pins and to close no keys. -/
theorem read_unit_writes_nothing_twice :
    let project : ProjectId := .ofNat 7
    let p := Plan.program ⟨.read, [⟨"w", .insertPins [], .proceed⟩,
      ⟨"w", .closeValues project ⟨.ofNat 1⟩ [], .proceed⟩], false⟩
    let database := StoreKind.database.backend
    ∃ stored closed,
      database.outcomes (fun _ => default) p (database.start .read Database.new) 0 =
          [⟨.insertPins [], stored⟩, ⟨.closeValues project ⟨.ofNat 1⟩ [], closed⟩] ∧
        stored = .error .readOnly ∧ closed = .ok 0 ∧
        (database.inUnit .read (fun _ => default) p Database.new).store = Database.new := by
  intro project p database
  refine ⟨_, _, rfl, ?_⟩
  obtain ⟨hstore, hrefused, hclosed⟩ :=
    read_unit_writes_nothing .database Database.new (fun _ => default) p
  refine ⟨?_, ?_, hstore⟩
  · refine hrefused ⟨.insertPins [], _⟩ List.mem_cons_self rfl ?_
    rintro ⟨-, _, _, hcloses⟩
    cases hcloses
  · exact hclosed project ⟨.ofNat 1⟩ _ rfl (List.mem_cons_of_mem _ List.mem_cons_self)

/-- Closing is a write, and yet a unit that only reads may close no keys on a database. -/
theorem read_unit_closes_no_keys :
    let c : Call := .closeValues (.ofNat 7) ⟨.ofNat 1⟩ []
    let answer (kind : StoreKind) :=
      (kind.backend.inUnit .read (fun _ => default) (.ask id "w" c) kind.empty).result
    c.writes = true ∧ answer .memory = .error .readOnly ∧ answer .database = .ok (0 : Nat) :=
  ⟨rfl, rfl, rfl⟩

end StoreKind

end ConfigTimeline
