import ConfigTimeline.Proofs.Service.Effects
import ConfigTimeline.Proofs.Store.TableModel
import ConfigTimeline.Proofs.Timeline.Commits

/-!
Runs of the service: calls handled one after another on one store, each with its own caller, policy,
time and fresh identifiers. The log of a run has every call with its result, and from the log alone
one tells which blueprints have been committed to a project.
-/

namespace ConfigTimeline

inductive StoreKind
  | memory
  | database
deriving DecidableEq

namespace StoreKind

def backend : StoreKind → Backend
  | .memory => Memory.backend
  | .database => Database.backend

def empty : (kind : StoreKind) → kind.backend.Store
  | .memory => .empty
  | .database => Database.new

def tableModel : (kind : StoreKind) → TableModel kind.backend
  | .memory => Memory.tableModel
  | .database => Database.tableModel

theorem holds_empty (kind : StoreKind) : kind.tableModel.Holds kind.empty .empty := by
  cases kind with
  | memory => exact Memory.holds_empty
  | database => exact Database.holds_new

end StoreKind

/-- An operation that a caller asks for, and all that goes into handling it. -/
structure ServiceCall where
  policy : MaskPolicy
  who : Identity
  supply : Supply
  operation : Operation

structure LogEntry where
  call : ServiceCall
  result : Except ServiceError Reply

/-- The blueprint that an entry of a log committed to a project, if it committed one. -/
def LogEntry.commit? (workspace : String) (project : ProjectId) (entry : LogEntry) :
    Option Commit :=
  match entry.call.operation, entry.result with
  | .create r, .ok (.view v) =>
      if entry.call.who.workspace = workspace ∧ v.blueprint.project = project ∧
          r.draft.kind = .blueprint then
        some ⟨v.blueprint.id, r.draft⟩
      else none
  | _, _ => none

def commits (workspace : String) (project : ProjectId) (log : List LogEntry) : List Commit :=
  log.filterMap (LogEntry.commit? workspace project)

/-- The blueprint or mask that an entry of a log added to a project, if it added one. -/
def LogEntry.added? (workspace : String) (project : ProjectId) (entry : LogEntry) :
    Option Blueprint :=
  match entry.call.operation, entry.result with
  | .create _, .ok (.view v) =>
      if entry.call.who.workspace = workspace ∧ v.blueprint.project = project then
        some v.blueprint
      else none
  | _, _ => none

def added (workspace : String) (project : ProjectId) (log : List LogEntry) : List Blueprint :=
  log.filterMap (LogEntry.added? workspace project)

theorem LogEntry.commit?_of_added? {workspace : String} {project : ProjectId} {entry : LogEntry}
    (h : entry.added? workspace project = none) : entry.commit? workspace project = none := by
  unfold LogEntry.added? at h
  unfold LogEntry.commit?
  split at h
  · split at h
    · cases h
    · rename_i hother
      exact if_neg fun hown => hother ⟨hown.1, hown.2.1⟩
  · rfl

namespace Service

variable {b : Backend}

def new (kind : StoreKind) (directory : Directory) : Service kind.backend :=
  ⟨kind.empty, directory⟩

/-- Handles calls one after another; the answer is their log, and the service after them. -/
def run (s : Service b) : List ServiceCall → List LogEntry × Service b
  | [] => ([], s)
  | call :: rest =>
      let handled := s.handle call.policy call.who call.supply call.operation
      let after := handled.service.run rest
      (⟨call, handled.result⟩ :: after.1, after.2)

/-- The answer of the store to a call that reads. -/
def answer (s : Service b) (workspace : String) (c : Call) : Except StoreError c.Answer :=
  (b.perform workspace c (b.start .read s.store)).1

end Service

/-- What every operation keeps holds after a run. -/
theorem TableModel.run_keeps {b : Backend} (model : TableModel b)
    {P : List LogEntry → Memory.Tables → Prop}
    (hstep : ∀ past t call result t', P past t →
      Effect call.policy call.who call.supply t call.operation result t' → P (past ++ [⟨call, result⟩]) t')
    {s : Service b} {t : Memory.Tables} {past : List LogEntry} (hstore : model.Holds s.store t)
    (h : P past t) (calls : List ServiceCall) :
    ∃ t', model.Holds (s.run calls).2.store t' ∧ P (past ++ (s.run calls).1) t' := by
  -- The past grows by each call that has been handled.
  induction calls generalizing s t past with
  | nil =>
      refine ⟨t, hstore, ?_⟩
      rw [Service.run, List.append_nil]
      exact h
  | cons call rest ih =>
      obtain ⟨t₁, hstore₁, heffect⟩ :=
        model.handle_effect hstore call.policy call.who call.supply call.operation
      have hafter := hstep past t call _ t₁ h heffect
      obtain ⟨t', hstore', hrest⟩ := ih hstore₁ hafter
      rw [List.append_assoc] at hrest
      exact ⟨t', hstore', hrest⟩

end ConfigTimeline
