import ConfigTimeline.Proofs.Timeline.Resolved

/-!
The order of the blueprints of a project. Whatever ids callers choose and whatever the generator
yields, the ids of the blueprints that are not masks increase from commit to commit. So the blueprint
with the greatest id is the one that was committed last.
-/

namespace ConfigTimeline

section Sorting

variable {α : Type} {le : α → α → Bool} {items : List α}

theorem insertSorted_eq_append {a : α} (h : ∀ b ∈ items, le a b = false) :
    insertSorted le a items = items ++ [a] := by
  induction items with
  | nil => rfl
  | cons b rest ih =>
      obtain ⟨hfirst, hrest⟩ := List.forall_mem_cons.mp h
      rw [insertSorted, hfirst, if_neg Bool.false_ne_true, ih hrest, List.cons_append]

/-- Sorting turns around what stands in the opposite order. -/
theorem sortBy_eq_reverse (h : items.Pairwise fun a b => le a b = false) :
    sortBy le items = items.reverse := by
  induction items with
  | nil => rfl
  | cons a rest ih =>
      obtain ⟨hfirst, hrest⟩ := List.pairwise_cons.mp h
      have hstep : sortBy le (a :: rest) = insertSorted le a (sortBy le rest) := rfl
      rw [hstep, ih hrest, List.reverse_cons]
      exact insertSorted_eq_append fun b hb => hfirst b (List.mem_reverse.mp hb)

end Sorting

namespace Timeline

variable {records : List Blueprint} {rows : List ValueRow} {commits : List Commit}

theorem ids_increasing (h : Timeline records rows commits) :
    (records.filter (·.kind == .blueprint)).Pairwise fun a b => a.id < b.id := by
  have hids : ((records.filter (·.kind == .blueprint)).map (·.id)).Pairwise (· < ·) := by
    rw [h.blueprints, List.pairwise_map]
    exact h.increasing
  exact List.pairwise_map.mp hids

theorem exists_last (h : Timeline records rows commits)
    (hne : records.filter (·.kind == .blueprint) ≠ []) :
    ∃ before last, commits = before ++ [last] := by
  rcases List.eq_nil_or_concat' commits with hnone | hlast
  · have hids := h.blueprints
    rw [hnone, List.map_nil, List.map_eq_nil_iff] at hids
    exact absurd hids hne
  · exact hlast

end Timeline

namespace Memory

section NewestFirst

variable {t : Tables} {workspace : String} {project : ProjectId} {kind : BlueprintKind}

/-- Blueprints whose ids increase are turned around when they are listed. -/
theorem newestFirst_eq_reverse
    (h : ((t.blueprintsOf workspace project).filter (·.kind == kind)).Pairwise
      fun a b => a.id < b.id) :
    t.newestFirst workspace project kind =
      ((t.blueprintsOf workspace project).filter (·.kind == kind)).reverse := by
  have hsame : (recordsIn workspace t.blueprints).filter
      (fun b => b.project == project && b.kind == kind) =
        (t.blueprintsOf workspace project).filter (·.kind == kind) := by
    rw [Tables.blueprintsOf, List.filter_filter]
    apply List.filter_congr
    intro b _
    exact Bool.and_comm _ _
  rw [Tables.newestFirst, hsame]
  refine sortBy_eq_reverse (h.imp ?_)
  intro a b hlt
  exact decide_eq_false (not_le_of_gt hlt)

/-- The latest of blueprints whose ids increase is the last one. -/
theorem head?_newestFirst
    (h : ((t.blueprintsOf workspace project).filter (·.kind == kind)).Pairwise
      fun a b => a.id < b.id) :
    (t.newestFirst workspace project kind).head? =
      ((t.blueprintsOf workspace project).filter (·.kind == kind)).getLast? := by
  rw [newestFirst_eq_reverse h, List.head?_reverse]

end NewestFirst

end Memory

namespace Resolution

variable {sure : Memory.Tables → Call → Prop} {ids : Nat → Ulid} {m : Memory.Work} {n : Nat}

/-- A mask over the values of a view does not change which blueprint is shown. -/
theorem ends_masked (workspace : String) (mask : Option BlueprintId) (v : BlueprintView) :
    (masked workspace mask v).Ensures sure ids
      (Program.Ends False fun shown _ _ => shown.blueprint = v.blueprint) m n := by
  cases mask with
  | none => rfl
  | some mask =>
      refine Program.ends_bind (P := fun _ _ _ => True) ?_ fun values _ _ _ _ => rfl
      refine Program.ends_bind (Program.ends_read
        (c := .blueprintOfKind mask v.blueprint.project .mask) rfl List.nodup_nil rfl
        False.elim) ?_
      intro stored m₁ n₁ _ _
      refine Program.ends_bind (Program.ends_orFail False.elim) ?_
      intro _ m₂ n₂ _ _
      refine Program.ends_bind (Program.ends_read (c := .delta mask) rfl List.nodup_nil rfl
        False.elim) ?_
      intro rows m₃ n₃ _ _
      trivial

end Resolution

/-- What an action ensures of the blueprint that it ends with holds of the blueprint that is shown,
with a mask or without. -/
theorem TableModel.blueprint_of_view {b : Backend} (model : TableModel b) {s : Service b}
    {t : Memory.Tables} (hstore : model.Holds s.store t) {workspace : String} {supply : Supply}
    {action : Action BlueprintView} {P : Blueprint → Prop}
    (h : action.Ensures model.Sure supply.ids (Program.Ends False fun v _ _ => P v.blueprint)
      (Memory.backend.start .read t) 0)
    {mask : Option BlueprintId} {v : BlueprintView}
    (hresult : (s.view workspace supply action mask).result = .ok (.view v)) : P v.blueprint := by
  have hends : (Reply.view <$> (action >>= Resolution.masked workspace mask)).Ensures model.Sure
      supply.ids (Program.Ends False fun reply _ _ => ∃ v, reply = .view v ∧ P v.blueprint)
      (Memory.backend.start .read t) 0 := by
    apply Program.ends_map
    refine Program.ends_bind h ?_
    intro found m n _ hfound
    refine (Resolution.ends_masked workspace mask found).mono ?_
    rintro (e | shown) m' n' - hshown
    · exact not_false
    · exact ⟨shown, rfl, Eq.mpr (congrArg P hshown) hfound⟩
  obtain ⟨_, -, hcase⟩ := model.runAction_ends (P := fun reply _ => ∃ v, reply = .view v ∧
    P v.blueprint) hstore hends
  rcases hcase with ⟨e, herror, _⟩ | ⟨reply, hok, shown, rfl, hshown⟩
  · cases hresult.symm.trans herror
  · cases hresult.symm.trans hok
    exact hshown

namespace StoreKind

variable {kind : StoreKind} {s : Service kind.backend} {t : Memory.Tables}

/-- A store answers a call that reads as the tables do, unless it is not sure and refuses. -/
theorem answer_mayAnswer (hstore : kind.tableModel.Holds s.store t) (workspace : String)
    {c : Call} (hreads : c.writes = false) (hasked : c.asked = []) :
    c.MayAnswer (kind.tableModel.Sure t c) (s.answer workspace c)
      (Memory.perform workspace c (Memory.backend.start .read t)).1 := by
  have hstart := kind.tableModel.start .read hstore
  have hwrites : c.writes = true → (Memory.backend.start .read t).mode = .write := by
    intro hwrites
    rw [hreads] at hwrites
    cases hwrites
  have hnodup : c.asked.Nodup := by
    rw [hasked]
    exact List.nodup_nil
  exact (kind.tableModel.perform workspace hstart hwrites hnodup).2

theorem answer_latest (hstore : kind.tableModel.Holds s.store t) (workspace : String)
    (project : ProjectId) (wanted : BlueprintKind) :
    s.answer workspace (.latest project wanted) =
        .ok (t.newestFirst workspace project wanted).head? ∨
      ¬kind.tableModel.Sure t (.latest project wanted) ∧
        ∃ e, s.answer workspace (.latest project wanted) = .error e := by
  rcases answer_mayAnswer hstore workspace (c := .latest project wanted) rfl rfl with
    hagree | ⟨hunsure, -, herror⟩
  · left
    cases hanswer : s.answer workspace (.latest project wanted) with
    | ok found =>
        rw [hanswer] at hagree
        exact congrArg Except.ok hagree
    | error e =>
        rw [hanswer] at hagree
        exact hagree.elim
  · exact Or.inr ⟨hunsure, herror⟩

end StoreKind

/-- Under a clock that shows years of four digits, what has been recorded reads back. -/
theorem Recorded.dated_of_clock {kind : StoreKind} {directory : Directory}
    {calls : List ServiceCall} {t : Memory.Tables}
    (h : Recorded ((Service.new kind directory).run calls).1 t)
    (hclock : ∀ call ∈ calls, call.supply.now.FourDigitYear) : t.Dated := by
  refine h.dated ?_
  intro entry hentry
  have hcall : entry.call ∈ ((Service.new kind directory).run calls).1.map LogEntry.call :=
    List.mem_map_of_mem hentry
  rw [Service.map_call_run] at hcall
  exact hclock entry.call hcall

/-- An entry that asked for a blueprint under an id of the caller's choice has it under that id, or
was refused. -/
def LogEntry.KeepsGivenId (entry : LogEntry) : Prop :=
  ∀ r id, entry.call.operation = .create r → r.draft.id = some id →
    (∃ e, entry.result = .error e) ∨ ∃ v, entry.result = .ok (.view v) ∧ v.blueprint.id = id

theorem Effect.keepsGivenId {call : ServiceCall} {result : Except ServiceError Reply}
    {t t' : Memory.Tables}
    (h : Effect call.policy call.who call.supply t call.operation result t') :
    LogEntry.KeepsGivenId ⟨call, result⟩ := by
  obtain ⟨policy, who, supply, operation⟩ := call
  rintro r id hoperation hid
  obtain rfl : operation = .create r := hoperation
  cases h with
  | failed op e => exact Or.inl ⟨e, rfl⟩
  | created r project answer t' hkeys happended =>
      exact Or.inr ⟨answer, rfl, happended.given id hid⟩
  | read op reply hcreate => exact absurd rfl (hcreate r)

theorem Service.run_keepsGivenId (kind : StoreKind) (directory : Directory)
    (calls : List ServiceCall) :
    ∀ entry ∈ ((Service.new kind directory).run calls).1, entry.KeepsGivenId := by
  obtain ⟨t, -, hkept⟩ := kind.tableModel.run_keeps
    (P := fun past _ => ∀ entry ∈ past, entry.KeepsGivenId)
    (by
      intro past t call result t' hpast heffect
      rw [List.forall_mem_append]
      exact ⟨hpast, List.forall_mem_singleton.mpr heffect.keepsGivenId⟩)
    (s := Service.new kind directory) kind.holds_empty (List.forall_mem_nil _) calls
  exact hkept

/-- After any calls, on either kind of store and with any generator, the ids of the blueprints of a
project increase from commit to commit, and so whoever asks for the latest blueprint is told of none
but the last committed. An id of the caller's choice is used as it is or the call fails. As long as
the clock shows years of four digits, a database does not refuse to tell. -/
theorem Service.ids_follow_commits (kind : StoreKind) (directory : Directory)
    (calls : List ServiceCall) (policy : MaskPolicy) (who : Identity) (supply : Supply)
    (project : ProjectId) :
    let ran := (Service.new kind directory).run calls
    let committed := (added who.workspace project ran.1).filter (·.kind == .blueprint)
    committed.Pairwise (fun a b => a.id < b.id) ∧
      (∃ t, kind.tableModel.Holds ran.2.store t ∧
        (t.blueprintsOf who.workspace project).filter (·.kind == .blueprint) = committed) ∧
      (∀ latest, ran.2.answer who.workspace (.latest project .blueprint) = .ok latest →
        latest = committed.getLast?) ∧
      (∀ mask v, (ran.2.handle policy who supply (.latest project mask)).result = .ok (.view v) →
        committed.getLast? = some v.blueprint) ∧
      ((kind = .database → ∀ call ∈ calls, call.supply.now.FourDigitYear) →
        (∃ latest, ran.2.answer who.workspace (.latest project .blueprint) = .ok latest) ∧
          (committed ≠ [] → ∃ v,
            (ran.2.handle policy who supply (.latest project none)).result = .ok (.view v))) ∧
      ∀ entry ∈ ran.1, entry.KeepsGivenId := by
  obtain ⟨t, hstore, hrecorded⟩ := kind.run_recorded directory calls
  have htimeline := hrecorded.timelines who.workspace project
  have hincreasing := htimeline.ids_increasing
  have hlatest := Memory.head?_newestFirst hincreasing
  rw [hrecorded.stored] at hincreasing hlatest
  have hanswer := StoreKind.answer_latest hstore who.workspace project .blueprint
  rw [hlatest] at hanswer
  refine ⟨hincreasing, ⟨t, hstore, ?_⟩, ?_, ?_, ?_, Service.run_keepsGivenId kind directory calls⟩
  · rw [hrecorded.stored]
  · intro latest hok
    rcases hanswer with hlast | ⟨-, e, herror⟩
    · exact Except.ok.inj (hok.symm.trans hlast)
    · cases hok.symm.trans herror
  · intro mask v hresult
    refine kind.tableModel.blueprint_of_view hstore
      (P := fun b => ((added who.workspace project ((Service.new kind directory).run calls).1).filter
        (·.kind == .blueprint)).getLast? = some b) ?_ hresult
    refine (Resolution.ends_effective who.workspace project none False.elim False.elim).mono ?_
    rintro (e | shown) m n - hends
    · exact not_false
    · exact hlatest.symm.trans hends.2.target
  · intro hclock
    have hsure : ∀ c : Call, c.skips = 0 → kind.tableModel.Sure t c := fun _ hskips =>
      StoreKind.sure_of_dated (fun hkind => hrecorded.dated_of_clock (hclock hkind)) hskips
    constructor
    · rcases hanswer with hlast | ⟨hunsure, -⟩
      · exact ⟨_, hlast⟩
      · exact absurd (hsure _ rfl) hunsure
    · intro hne
      rw [← hrecorded.stored] at hne
      obtain ⟨before, last, hcommits⟩ := htimeline.exists_last hne
      obtain ⟨v, hresult, -⟩ := kind.tableModel.view_of_certain hstore who.workspace
        (hrecorded.ends_latest hsure hcommits)
      exact ⟨v, hresult⟩

end ConfigTimeline
