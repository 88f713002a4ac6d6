import ConfigTimeline.Proofs.Store.TableModel
import ConfigTimeline.Store.Script

/-!
The store in memory and the database cannot be told apart. Units of work are given as plans: calls in
turn, each of which ends the unit or is passed over when it is refused, and a word on whether the unit
is abandoned at its end. On both stores each call has an outcome that callers take for the same, and
each unit is committed on both or rolled back on both, from empty stores and through any number of
units. What is asked of the calls is that they write only in units that may write, name no blueprint
twice when they ask for kinds, skip no more records than the database can count, and bring along
points in time that rows have room for.
-/

namespace ConfigTimeline

/-- A call to make in a workspace, and what to do if it is refused. -/
structure PlannedCall where
  workspace : String
  call : Call
  onFailure : OnFailure

structure Plan where
  mode : Mode
  calls : List PlannedCall
  abandoned : Bool

structure Outcome where
  call : Call
  outcome : Except StoreError call.Answer

namespace Plan

def ends {α : Type} : OnFailure → Except StoreError α → Bool
  | .stop, .error _ => true
  | _, _ => false

/-- Makes calls in turn, after those whose outcomes are given, newest first. -/
def attempts (abandoned : Bool) (before : List Outcome) :
    List PlannedCall → Program (List Outcome) (List Outcome)
  | [] => if abandoned then .fail before.reverse else .done before.reverse
  | planned :: rest =>
      .call planned.workspace planned.call fun outcome =>
        if ends planned.onFailure outcome then .fail (⟨planned.call, outcome⟩ :: before).reverse
        else attempts abandoned (⟨planned.call, outcome⟩ :: before) rest

/-- The program of a plan. It ends or fails with the outcomes of all calls that it made. -/
def program (plan : Plan) : Program (List Outcome) (List Outcome) :=
  attempts plan.abandoned [] plan.calls

end Plan

/-- What comes of plans, one after another: for each the outcomes of its calls, as an error if the
unit was rolled back. -/
def Backend.runPlans (b : Backend) (ids : Nat → Ulid) :
    b.Store → List Plan → List (Except (List Outcome) (List Outcome))
  | _, [] => []
  | store, plan :: rest =>
      let settled := b.inUnit plan.mode ids plan.program store
      settled.result :: b.runPlans ids settled.store rest

/-- What is asked of a call in a unit of work. -/
structure Call.Admissible (mode : Mode) (c : Call) : Prop where
  writes : c.writes = true → mode = .write
  asked : c.asked.Nodup
  skips : c.skips ≤ Database.Tables.maxOffset
  dated : c.Dated

instance (c : Call) : Decidable c.Dated := by
  cases c <;> unfold Call.Dated <;> infer_instance

instance (mode : Mode) (c : Call) : Decidable (c.Admissible mode) :=
  decidable_of_iff
    ((c.writes = true → mode = .write) ∧ c.asked.Nodup ∧ c.skips ≤ Database.Tables.maxOffset ∧
      c.Dated)
    ⟨fun h => ⟨h.1, h.2.1, h.2.2.1, h.2.2.2⟩, fun h => ⟨h.writes, h.asked, h.skips, h.dated⟩⟩

/-- Outcomes of one call that callers take for the same. -/
inductive Outcome.Agrees : Outcome → Outcome → Prop
  | intro {c : Call} {a b : Except StoreError c.Answer} (h : c.Agree a b) : Agrees ⟨c, a⟩ ⟨c, b⟩

inductive UnitsAgree :
    Except (List Outcome) (List Outcome) → Except (List Outcome) (List Outcome) → Prop
  | committed {as bs : List Outcome} (h : List.Forall₂ Outcome.Agrees as bs) :
      UnitsAgree (.ok as) (.ok bs)
  | rolledBack {as bs : List Outcome} (h : List.Forall₂ Outcome.Agrees as bs) :
      UnitsAgree (.error as) (.error bs)

theorem ends_eq_of_agree {α : Type} {same : α → α → Prop} {a b : Except StoreError α}
    (h : AgreeBy same a b) (onFailure : OnFailure) :
    Plan.ends onFailure a = Plan.ends onFailure b := by
  cases onFailure <;> cases a <;> cases b <;> first | rfl | exact h.elim

namespace Database

/-- A database that stands for tables with room for all their records answers every call as they do. -/
theorem perform_agrees {d : Work} {m : Memory.Work} (h : tableModel.Within d m)
    (hdated : m.tables.Dated) (workspace : String) {c : Call} (hc : c.Admissible m.mode) :
    tableModel.Within (perform workspace c d).2 (Memory.perform workspace c m).2 ∧
      c.Agree (perform workspace c d).1 (Memory.perform workspace c m).1 := by
  obtain ⟨hafter, hanswer⟩ := tableModel.perform workspace h hc.writes hc.asked
  exact ⟨hafter, hanswer.resolve_right fun hrefused => hrefused.1 ⟨hdated, hc.skips⟩⟩

theorem attempts_agree (ids : Nat → Ulid) (abandoned : Bool) {calls : List PlannedCall} {d : Work}
    {m : Memory.Work} (h : tableModel.Within d m) (hdated : m.tables.Dated)
    (hcalls : ∀ planned ∈ calls, planned.call.Admissible m.mode) {before before' : List Outcome}
    (hbefore : List.Forall₂ Outcome.Agrees before before') (drawn : Nat) :
    let ended := backend.run ids (Plan.attempts abandoned before calls) d drawn
    let ended' := Memory.backend.run ids (Plan.attempts abandoned before' calls) m drawn
    tableModel.Within ended.work ended'.work ∧ ended'.work.tables.Dated ∧
      UnitsAgree ended.result ended'.result := by
  induction calls generalizing d m before before' with
  | nil =>
      have hall := List.rel_reverse hbefore
      cases abandoned with
      | false => exact ⟨h, hdated, .committed hall⟩
      | true => exact ⟨h, hdated, .rolledBack hall⟩
  | cons planned rest ih =>
      have hplanned := hcalls planned List.mem_cons_self
      obtain ⟨hafter, hagree⟩ := perform_agrees h hdated planned.workspace hplanned
      have hdatedAfter : (Memory.perform planned.workspace planned.call m).2.tables.Dated :=
        Memory.dated_perform planned.workspace hplanned.dated hdated
      have hrest : ∀ other ∈ rest, other.call.Admissible
          (Memory.perform planned.workspace planned.call m).2.mode := by
        intro other hother
        rw [Memory.mode_perform]
        exact hcalls other (List.mem_cons_of_mem planned hother)
      have houtcomes : List.Forall₂ Outcome.Agrees
          (⟨planned.call, (perform planned.workspace planned.call d).1⟩ :: before)
          (⟨planned.call, (Memory.perform planned.workspace planned.call m).1⟩ :: before') :=
        .cons (.intro hagree) hbefore
      have hends := ends_eq_of_agree hagree planned.onFailure
      simp only [Plan.attempts, Backend.run, backend, Memory.backend, hends]
      split
      · exact ⟨hafter, hdatedAfter, .rolledBack (List.rel_reverse houtcomes)⟩
      · exact ih hafter hdatedAfter hrest houtcomes

/-- A unit of work on a database and on the tables that it stands for. -/
theorem inUnit_agree (ids : Nat → Ulid) {store : Database} {t : Memory.Tables}
    (h : tableModel.Holds store t) (hdated : t.Dated) {plan : Plan}
    (hplan : ∀ planned ∈ plan.calls, planned.call.Admissible plan.mode) :
    let settled := backend.inUnit plan.mode ids plan.program store
    let settled' := Memory.backend.inUnit plan.mode ids plan.program t
    tableModel.Holds settled.store settled'.store ∧ settled'.store.Dated ∧
      UnitsAgree settled.result settled'.result := by
  intro settled settled'
  let ended := backend.run ids plan.program (backend.start plan.mode store) 0
  let ended' := Memory.backend.run ids plan.program (Memory.backend.start plan.mode t) 0
  have hrun : tableModel.Within ended.work ended'.work ∧ ended'.work.tables.Dated ∧
      UnitsAgree ended.result ended'.result :=
    attempts_agree ids plan.abandoned (tableModel.start plan.mode h) hdated hplan .nil 0
  obtain ⟨hwithin, hdatedAfter, hagree⟩ := hrun
  cases hresult : ended.result with
  | ok as =>
      cases hresult' : ended'.result with
      | ok bs =>
          have hsettled : settled = ⟨.ok as, backend.commit ended.work, ended.drawn⟩ :=
            Backend.inUnit_of_ok hresult
          have hsettled' : settled' = ⟨.ok bs, ended'.work.tables, ended'.drawn⟩ :=
            Backend.inUnit_of_ok hresult'
          rw [hresult, hresult'] at hagree
          rw [hsettled, hsettled']
          exact ⟨tableModel.commit hwithin, hdatedAfter, hagree⟩
      | error bs =>
          rw [hresult, hresult'] at hagree
          cases hagree
  | error as =>
      cases hresult' : ended'.result with
      | ok bs =>
          rw [hresult, hresult'] at hagree
          cases hagree
      | error bs =>
          have horigin : ended'.work.origin = t :=
            Memory.origin_run ids plan.program (Memory.backend.start plan.mode t) 0
          have hsettled : settled = ⟨.error as, backend.rollback ended.work, ended.drawn⟩ :=
            Backend.inUnit_of_error hresult
          have hsettled' : settled' = ⟨.error bs, ended'.work.origin, ended'.drawn⟩ :=
            Backend.inUnit_of_error hresult'
          rw [hresult, hresult'] at hagree
          rw [hsettled, hsettled']
          refine ⟨tableModel.rollback hwithin, ?_, hagree⟩
          rw [horigin]
          exact hdated

theorem runPlans_agree_from (ids : Nat → Ulid) {plans : List Plan} {store : Database}
    {t : Memory.Tables} (h : tableModel.Holds store t) (hdated : t.Dated)
    (hplans : ∀ plan ∈ plans, ∀ planned ∈ plan.calls, planned.call.Admissible plan.mode) :
    List.Forall₂ UnitsAgree (backend.runPlans ids store plans)
      (Memory.backend.runPlans ids t plans) := by
  induction plans generalizing store t with
  | nil => exact .nil
  | cons plan rest ih =>
      obtain ⟨hafter, hdatedAfter, hagree⟩ :=
        inUnit_agree ids h hdated (hplans plan List.mem_cons_self)
      have hrest := ih hafter hdatedAfter fun other hother =>
        hplans other (List.mem_cons_of_mem plan hother)
      exact .cons hagree hrest

/-- Through any number of units of work, from empty stores on, the database and the store in memory
answer each call alike and commit or roll back each unit alike. -/
theorem runPlans_agree (ids : Nat → Ulid) (plans : List Plan)
    (hplans : ∀ plan ∈ plans, ∀ planned ∈ plan.calls, planned.call.Admissible plan.mode) :
    List.Forall₂ UnitsAgree (backend.runPlans ids new plans)
      (Memory.backend.runPlans ids .empty plans) :=
  runPlans_agree_from ids holds_new Memory.dated_empty hplans

/-- A batch that clashes midway and is passed over, a unit that a clash ends, and a unit that reads. -/
theorem runPlans_agree_clashes :
    let audit := Audit.made "u" (.ofUnix 1700000000 0)
    let project := ProjectId.ofNat 7
    let blueprint (n : Nat) : Blueprint := ⟨⟨.ofNat n⟩, project, .blueprint, none, audit⟩
    let row (n : Nat) : ValueRow :=
      ⟨⟨.ofNat n⟩, project, "k", "v", .string, none, ⟨.ofNat 1⟩, none⟩
    let plans : List Plan := [
      ⟨.write, [⟨"w", .insertConfig ⟨⟨.ofNat 1⟩, project, audit⟩, .stop⟩,
        ⟨"w", .insertBlueprint ⟨.ofNat 1⟩ (blueprint 1), .stop⟩,
        ⟨"w", .insertValues ⟨.ofNat 1⟩ [row 1, row 2], .proceed⟩], false⟩,
      ⟨.write, [⟨"w", .closeValues project ⟨.ofNat 2⟩ ["k"], .stop⟩,
        ⟨"w", .insertBlueprint ⟨.ofNat 1⟩ (blueprint 1), .stop⟩], false⟩,
      ⟨.read, [⟨"w", .kinds project [⟨.ofNat 2⟩, ⟨.ofNat 1⟩], .stop⟩,
        ⟨"w", .rows project, .stop⟩], false⟩]
    (∀ plan ∈ plans, ∀ planned ∈ plan.calls, planned.call.Admissible plan.mode) ∧
      List.Forall₂ UnitsAgree (backend.runPlans (fun _ => default) new plans)
        (Memory.backend.runPlans (fun _ => default) .empty plans) := by
  intro audit project blueprint row plans
  have hplans : ∀ plan ∈ plans, ∀ planned ∈ plan.calls,
      planned.call.Admissible plan.mode := by decide
  exact ⟨hplans, runPlans_agree _ plans hplans⟩

end Database

end ConfigTimeline
