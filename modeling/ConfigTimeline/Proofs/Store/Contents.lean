import ConfigTimeline.Proofs.Store.Dates
import ConfigTimeline.Proofs.Store.ReadUnits

/-!
What a store may come to hold. Nothing is asked of the calls that lead there but that the points in
time they bring along have room in a row, and of those only for a database: they may name a blueprint
twice, write in a unit that only reads, or go on after a refusal, and what each does may depend on the
answers before it. Such a store still stands for tables in memory that keep all rules.
-/

namespace ConfigTimeline

/-- Units of work, from a store without contents on, may leave a store so. -/
inductive StoreKind.Reached (kind : StoreKind) : kind.backend.Store → Prop
  | empty : Reached kind kind.empty
  | unit {ε α : Type} {store : kind.backend.Store} (mode : Mode) (ids : Nat → Ulid)
      (p : Program ε α) (h : Reached kind store)
      (hdated : kind = .database →
        ∀ o ∈ kind.backend.outcomes ids p (kind.backend.start mode store) 0, o.call.Dated) :
      Reached kind (kind.backend.inUnit mode ids p store).store

theorem Call.asked_of_writes {c : Call} (h : c.writes = true) : c.asked = [] := by
  cases c <;> first | rfl | cases h

namespace StoreKind

variable {kind : StoreKind} {ε α : Type} {work : kind.backend.Work} {m : Memory.Work}

/-- Whatever the call is, the store and the tables that it is read as stay together. -/
theorem within_perform (h : kind.tableModel.Within work m) (workspace : String) (c : Call) :
    kind.tableModel.Within (kind.backend.perform workspace c work).2
      (Memory.perform workspace c m).2 := by
  cases hwrites : c.writes with
  | false =>
      rw [kind.perform_of_reads hwrites, Memory.perform_of_reads hwrites]
      exact h
  | true =>
      cases hmode : m.mode with
      | write =>
          have hasked : c.asked.Nodup := Call.asked_of_writes hwrites ▸ List.nodup_nil
          exact (kind.tableModel.perform workspace h (fun _ => hmode) hasked).1
      | read =>
          rw [Memory.perform_of_readMode hwrites hmode]
          cases kind with
          | memory =>
              obtain rfl : work = m := h.1
              have hkept : (Memory.backend.perform workspace c work).2 = work :=
                congrArg Prod.snd (Memory.perform_of_readMode hwrites hmode workspace)
              exact hkept.symm ▸ h
          | database =>
              have hkept : (Database.backend.perform workspace c work).2 = work :=
                Database.perform_of_readMode (h.1.trans hmode) workspace c
              exact hkept.symm ▸ h

theorem within_run (ids : Nat → Ulid) (p : Program ε α) (h : kind.tableModel.Within work m)
    (hdated : kind = .database → m.tables.Dated) (drawn : Nat)
    (hcalls : kind = .database → ∀ o ∈ kind.backend.outcomes ids p work drawn, o.call.Dated) :
    ∃ m', kind.tableModel.Within (kind.backend.run ids p work drawn).work m' ∧
      m'.origin = m.origin ∧ (kind = .database → m'.tables.Dated) := by
  induction p generalizing work m drawn with
  | done a => exact ⟨m, h, rfl, hdated⟩
  | fail e => exact ⟨m, h, rfl, hdated⟩
  | call workspace c next ih =>
      obtain ⟨m', hafter, horigin, hdatedAfter⟩ :=
        ih _ (within_perform h workspace c)
          (fun hkind => Memory.dated_perform workspace
            (hcalls hkind ⟨c, _⟩ List.mem_cons_self) (hdated hkind)) drawn
          (fun hkind o ho => hcalls hkind o (List.mem_cons_of_mem _ ho))
      exact ⟨m', hafter, horigin.trans (Memory.origin_perform workspace c m), hdatedAfter⟩
  | draw next ih => exact ih _ h hdated _ hcalls

/-- A store that has been reached stands for tables with room for all their records. -/
theorem Reached.holds {store : kind.backend.Store} (h : kind.Reached store) :
    ∃ t, kind.tableModel.Holds store t ∧ (kind = .database → t.Dated) := by
  induction h with
  | empty => exact ⟨.empty, kind.holds_empty, fun _ => Memory.dated_empty⟩
  | @unit _ _ store mode ids p _ hcalls ih =>
      obtain ⟨t, hholds, hdated⟩ := ih
      obtain ⟨m, hwithin, horigin, hdatedAfter⟩ :=
        within_run ids p (kind.tableModel.start mode hholds) hdated 0 hcalls
      cases hresult : (kind.backend.run ids p (kind.backend.start mode store) 0).result with
      | ok a =>
          rw [Backend.inUnit_of_ok hresult]
          exact ⟨m.tables, kind.tableModel.commit hwithin, hdatedAfter⟩
      | error e =>
          -- A unit that is rolled back goes back to what was there.
          rw [Backend.inUnit_of_error hresult]
          have hrolled := kind.tableModel.rollback hwithin
          rw [horigin] at hrolled
          exact ⟨t, hrolled, hdated⟩

end StoreKind

end ConfigTimeline
