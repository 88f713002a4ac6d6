import ConfigTimeline.Proofs.Service.Run
import ConfigTimeline.Proofs.Timeline.Projects

/-!
What the tables of a store have to do with the log of the calls that made them: in every project of
every workspace the rows are the timelines of the commits, whatever the calls were.
-/

namespace ConfigTimeline

theorem commits_append (workspace : String) (project : ProjectId) (left right : List LogEntry) :
    commits workspace project (left ++ right) =
      commits workspace project left ++ commits workspace project right :=
  List.filterMap_append

theorem added_append (workspace : String) (project : ProjectId) (left right : List LogEntry) :
    added workspace project (left ++ right) =
      added workspace project left ++ added workspace project right :=
  List.filterMap_append

section Concat

variable {workspace : String} {project : ProjectId} {entry : LogEntry}

theorem added_concat_of_none (h : entry.added? workspace project = none) (log : List LogEntry) :
    added workspace project (log ++ [entry]) = added workspace project log := by
  simp [added, h]

/-- What adds no blueprint commits none. -/
theorem commits_concat_of_none (h : entry.added? workspace project = none) (log : List LogEntry) :
    commits workspace project (log ++ [entry]) = commits workspace project log := by
  simp [commits, LogEntry.commit?_of_added? h]

/-- A blueprint is added to its own project only. -/
theorem LogEntry.added?_of_other {call : ServiceCall} {answer : BlueprintView}
    (hother : ¬(workspace = call.who.workspace ∧ project = answer.blueprint.project)) :
    LogEntry.added? workspace project ⟨call, .ok (.view answer)⟩ = none := by
  obtain ⟨policy, who, supply, operation⟩ := call
  cases operation with
  | create r => exact if_neg fun hown => hother ⟨hown.1.symm, hown.2.symm⟩
  | _ => rfl

end Concat

/-- The tables are what the calls of a log made of tables without rows. -/
structure Recorded (log : List LogEntry) (t : Memory.Tables) : Prop where
  timelines : ∀ workspace project, Timeline (t.blueprintsOf workspace project)
    (t.valuesOf workspace project) (commits workspace project log)
  configs : ∀ workspace project, t.blueprintsOf workspace project ≠ [] →
    (t.configOf workspace project).isSome = true
  dated : (∀ entry ∈ log, entry.call.supply.now.FourDigitYear) → t.Dated
  stored : ∀ workspace project, t.blueprintsOf workspace project = added workspace project log

namespace Recorded

theorem nil : Recorded [] .empty where
  timelines _ _ := Timeline.nil
  configs _ _ h := absurd rfl h
  dated _ := Memory.dated_empty
  stored _ _ := rfl

variable {past : List LogEntry} {t t' : Memory.Tables}

/-- A call that adds no blueprint may change pins. -/
theorem concat_of_pins (h : Recorded past t) {entry : LogEntry}
    (hadded : ∀ workspace project, entry.added? workspace project = none)
    (hsame : t' = { t with pins := t'.pins })
    (hdated : entry.call.supply.now.FourDigitYear → t.Dated → t'.Dated) :
    Recorded (past ++ [entry]) t' := by
  refine { timelines := ?_, configs := ?_, dated := ?_, stored := ?_ }
  · intro workspace project
    rw [commits_concat_of_none (hadded workspace project), hsame]
    exact h.timelines workspace project
  · intro workspace project
    rw [hsame]
    exact h.configs workspace project
  · intro hclock
    rw [List.forall_mem_append] at hclock
    exact hdated (hclock.2 entry List.mem_cons_self) (h.dated hclock.1)
  · intro workspace project
    rw [added_concat_of_none (hadded workspace project), hsame]
    exact h.stored workspace project

/-- A draft that is appended adds to its project and to no other. -/
theorem concat_of_appended (h : Recorded past t) {policy : MaskPolicy} {who : Identity}
    {supply : Supply} {r : CreateRequest} {project : ProjectId} {answer : BlueprintView}
    (hkeys : r.draft.keys.Nodup)
    (happended : Versioning.Appended who supply.now project r.config r.draft t answer t') :
    Recorded (past ++ [⟨⟨policy, who, supply, .create r⟩, .ok (.view answer)⟩]) t' := by
  have hproject := happended.project_eq
  have hnothing : ∀ {workspace other}, ¬(workspace = who.workspace ∧ other = project) →
      LogEntry.added? workspace other
        ⟨⟨policy, who, supply, .create r⟩, .ok (.view answer)⟩ = none := by
    intro workspace other hother
    refine LogEntry.added?_of_other ?_
    rw [hproject]
    exact hother
  refine { timelines := ?_, configs := ?_, dated := ?_, stored := ?_ }
  · intro workspace other
    by_cases hown : workspace = who.workspace ∧ other = project
    · obtain ⟨rfl, rfl⟩ := hown
      have hgrown := happended.timeline hkeys (h.timelines who.workspace other)
      rw [commits_append]
      convert hgrown using 2
      by_cases hkind : r.draft.kind = .blueprint <;>
        simp [commits, LogEntry.commit?, hproject, hkind]
    · obtain ⟨hblueprints, hvalues⟩ := happended.frame hown
      rw [hblueprints, hvalues, commits_concat_of_none (hnothing hown)]
      exact h.timelines workspace other
  · intro workspace other hne
    refine happended.configOf ?_
    by_cases hown : workspace = who.workspace ∧ other = project
    · exact Or.inr hown
    · rw [(happended.frame hown).1] at hne
      exact Or.inl (h.configs workspace other hne)
  · intro hclock
    rw [List.forall_mem_append] at hclock
    exact happended.dated (hclock.2 _ List.mem_cons_self) (h.dated hclock.1)
  · intro workspace other
    by_cases hown : workspace = who.workspace ∧ other = project
    · obtain ⟨rfl, rfl⟩ := hown
      rw [happended.blueprintsOf, h.stored, added_append]
      simp [added, LogEntry.added?, hproject]
    · rw [(happended.frame hown).1, added_concat_of_none (hnothing hown)]
      exact h.stored workspace other

theorem concat (h : Recorded past t) {call : ServiceCall} {result : Except ServiceError Reply}
    (heffect : Effect call.policy call.who call.supply t call.operation result t') :
    Recorded (past ++ [⟨call, result⟩]) t' := by
  obtain ⟨policy, who, supply, operation⟩ := call
  cases heffect with
  | failed op e =>
      refine h.concat_of_pins ?_ rfl fun _ hdated => hdated
      intro workspace project
      cases operation <;> rfl
  | bound r reply t' hbound =>
      obtain ⟨config, -, hrepinned⟩ := hbound.repinned
      exact h.concat_of_pins (fun _ _ => rfl) hrepinned.same hrepinned.dated
  | read op reply hcreate =>
      refine h.concat_of_pins ?_ rfl fun _ hdated => hdated
      intro workspace project
      cases operation <;> first | rfl | exact absurd rfl (hcreate _)
  | created r project answer t' hkeys happended => exact h.concat_of_appended hkeys happended

end Recorded

/-- After a run on a store without contents, the store is read as tables that its log made. -/
theorem StoreKind.run_recorded (kind : StoreKind) (directory : Directory)
    (calls : List ServiceCall) :
    ∃ t, kind.tableModel.Holds ((Service.new kind directory).run calls).2.store t ∧
      Recorded ((Service.new kind directory).run calls).1 t := by
  have hkept := kind.tableModel.run_keeps (P := Recorded)
    (fun past t call result t' h heffect => h.concat heffect)
    (s := Service.new kind directory) kind.holds_empty Recorded.nil calls
  simpa using hkept

end ConfigTimeline
