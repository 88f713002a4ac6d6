import ConfigTimeline.Proofs.Service.Directories
import ConfigTimeline.Proofs.Service.Run
import ConfigTimeline.Proofs.Store.Steady

/-!
The same calls on two services, one on a database and one on a store in memory. What writes is steady, so
that it goes through on both or on neither; what reads leaves both stores alone. So after any calls the
database stands for the tables of the other service, as long as the clock shows years of four digits.
-/

namespace ConfigTimeline

/-- Appending a draft is steady: no answer that it goes by leaves an order open. -/
theorem Versioning.steady_append (who : Identity) {now : Instant} (hnow : now.FourDigitYear)
    (project : ProjectId) (chosen : Option ConfigId) (draft : Draft) :
    (append who now project chosen draft).Steady .write (· = ·) := by
  have hconfig : (ensureConfig who now project chosen).Makes who.workspace Call.Definite :=
    makes_ensureConfig_of chosen (Call.definite_of rfl rfl trivial fun _ _ h => h)
      (fun _ => Call.definite_of rfl rfl trivial fun _ _ h => h)
      fun _ => Call.definite_of rfl rfl ⟨hnow, hnow⟩ fun _ _ h => h
  have hid : (assignId who.workspace now project draft).Makes who.workspace Call.Definite :=
    makes_assignId_of (fun _ _ => Call.definite_of rfl rfl trivial fun _ _ h => h)
      (Call.definite_of rfl rfl trivial fun _ _ h => h)
  rw [append_eq]
  refine (Program.makes_bind hconfig fun config => Program.makes_bind hid fun id => ?_).steady
  exact makes_appendAs_of (Call.definite_of rfl rfl trivial fun _ _ h => h)
    (Call.definite_of rfl rfl ⟨hnow, hnow⟩ fun _ _ h => h)
    fun _ _ => Call.definite_of rfl rfl trivial fun _ _ h => h

namespace Pinning

variable {who : Identity} {now : Instant}

/-- Which targets are missing and which are masks does not go by the order of the kinds. -/
theorem steady_checkTargets (policy : MaskPolicy) (workspace : String) (r : PinRequest) :
    (checkTargets policy workspace r).Steady .write (· = ·) := by
  have hkinds : (Call.kinds r.project r.blueprints).Admissible .write :=
    ⟨fun _ => rfl, r.nodup_blueprints, Nat.zero_le _, trivial⟩
  refine Program.steady_bind_of (Program.steady_ask hkinds) ?_ ?_
  · intro kinds kinds' hperm
    have hmissing : missingTargets r.blueprints kinds = missingTargets r.blueprints kinds' :=
      List.filter_congr fun id _ => by rw [hperm.any_eq]
    have hmasks : maskTargets r.blueprints kinds = maskTargets r.blueprints kinds' :=
      List.filter_congr fun id _ => by rw [hperm.any_eq]
    rw [hmissing, hmasks]
    exact .refl _
  · intro kinds
    split
    · trivial
    · split <;> trivial

/-- Which environments have a pin does not go by the order of the pins either. -/
theorem steady_bind (policy : MaskPolicy) (who : Identity) (hnow : now.FourDigitYear)
    (r : PinRequest) : (bind policy who now r).Steady .write fun _ _ => True := by
  have hpins : (Call.pins r.project r.names).Admissible .write :=
    ⟨fun _ => rfl, List.nodup_nil, Nat.zero_le _, trivial⟩
  have hconfig : (Action.config who.workspace r.project).Makes who.workspace Call.Definite :=
    Program.makes_bind (Program.makes_ask (Call.definite_of rfl rfl trivial fun _ _ h => h))
      fun _ => Program.makes_orFail
  have hinsert : ∀ config targets,
      (insertNew who now r.project config targets).Makes who.workspace Call.Definite := by
    intro config targets
    refine makes_insertNew_of fun pins hpins => ?_
    refine Call.definite_of rfl rfl (fun pin hpin => ?_) fun _ _ h => h
    rw [(hpins pin hpin).2]
    exact ⟨hnow, hnow⟩
  have hmove : ∀ targets,
      (moveStored who now r.project targets).Makes who.workspace Call.Definite :=
    fun targets => makes_moveStored_of (Call.definite_of rfl rfl hnow fun _ _ h => h)
  refine Program.steady_bind hconfig.steady fun config => ?_
  refine Program.steady_bind (steady_checkTargets policy who.workspace r) fun _ => ?_
  refine Program.steady_bind_of (Program.steady_ask hpins) ?_ ?_
  · intro stored stored' hperm
    have hstored : ∀ t : PinTarget, stored.any (·.env == t.env) = stored'.any (·.env == t.env) :=
      fun t => hperm.any_eq
    simp only [hstored]
    exact .refl _
  · intro stored
    refine Program.steady_bind (hinsert config.id _).steady fun _ => ?_
    refine Program.steady_bind (hmove _).steady fun _ => ?_
    exact Program.steady_bind_of (Program.steady_ask hpins) (fun _ _ _ => .done trivial)
      fun _ => trivial

end Pinning

/-- What reads leaves the tables as they were. -/
theorem Effect.eq_of_reads {policy : MaskPolicy} {who : Identity} {supply : Supply}
    {t t' : Memory.Tables} {op : Operation} {result : Except ServiceError Reply}
    (h : Effect policy who supply t op result t') (hcreate : ∀ r, op ≠ .create r)
    (hbind : ∀ r, op ≠ .bind r) : t' = t := by
  cases h with
  | failed => rfl
  | created r => exact absurd rfl (hcreate r)
  | bound r => exact absurd rfl (hbind r)
  | read => rfl

namespace Service

variable {policy : MaskPolicy} {who : Identity} {supply : Supply}

/-- Where an action has been planned, it is steady. -/
def SteadyPlan : Except ServiceError (Mode × Action Reply) → Prop
  | .error _ => True
  | .ok (mode, action) => action.Steady mode fun _ _ => True

theorem steady_plan_create (hnow : supply.now.FourDigitYear) (d : Directory) (r : CreateRequest) :
    SteadyPlan (plan policy who supply d (.create r)).1 := by
  cases hvalid : r.validate with
  | error reason =>
      unfold plan
      dsimp only
      rw [hvalid]
      trivial
  | ok ref =>
      rw [plan_create policy who supply hvalid]
      cases (resolveProject who.workspace supply.candidate ref d).1 with
      | error e => trivial
      | ok project =>
          exact Program.steady_bind
            (Versioning.steady_append who hnow project.id r.config r.draft) fun _ => trivial

theorem steady_plan_bind (hnow : supply.now.FourDigitYear) (d : Directory) (r : PinRequest) :
    SteadyPlan (plan policy who supply d (.bind r)).1 := by
  unfold plan
  dsimp only
  cases r.validate with
  | error reason => trivial
  | ok _ =>
      exact Program.steady_bind_of (Pinning.steady_bind policy who hnow r)
        (fun _ _ _ => .done trivial) fun _ => trivial

/-- A service on a database that stands for the tables of a service in memory, with room for all their
records, and with the same directory. -/
structure Twins (d : Service Database.backend) (m : Service Memory.backend) : Prop where
  store : Database.tableModel.Holds d.store m.store
  dated : Memory.Tables.Dated m.store
  directory : d.directory = m.directory

namespace Twins

variable {d : Service Database.backend} {m : Service Memory.backend}

theorem new (directory : Directory) :
    Twins (Service.new .database directory) (Service.new .memory directory) :=
  ⟨Database.holds_new, Memory.dated_empty, rfl⟩

theorem carryOut (h : Twins d m) (ids : Nat → Ulid)
    {planned : Except ServiceError (Mode × Action Reply)} (hplanned : SteadyPlan planned) :
    Twins (d.carryOut ids planned).service (m.carryOut ids planned).service := by
  cases planned with
  | error e => exact h
  | ok planned =>
      obtain ⟨mode, action⟩ := planned
      obtain ⟨hstore, hdated, -⟩ := Program.Steady.inUnit hplanned h.store h.dated
      exact ⟨hstore, hdated, h.directory⟩

theorem handle_of_steady (h : Twins d m) {op : Operation}
    (hplan : ∀ directory, SteadyPlan (plan policy who supply directory op).1) :
    Twins (d.handle policy who supply op).service (m.handle policy who supply op).service := by
  rw [handle_eq_plan, handle_eq_plan, h.directory]
  let directory := (plan policy who supply m.directory op).2
  have hdirectory : Twins { d with directory } { m with directory } := ⟨h.store, h.dated, rfl⟩
  exact hdirectory.carryOut supply.ids (hplan m.directory)

theorem handle_of_reads (h : Twins d m) {op : Operation} (hcreate : ∀ r, op ≠ .create r)
    (hbind : ∀ r, op ≠ .bind r) :
    Twins (d.handle policy who supply op).service (m.handle policy who supply op).service := by
  obtain ⟨t, hstore, heffect⟩ :=
    Database.tableModel.handle_effect h.store policy who supply op
  obtain ⟨t', ⟨hstore', -⟩, heffect'⟩ :=
    Memory.tableModel.handle_effect ⟨rfl, h.store.2⟩ policy who supply op
  obtain rfl := heffect.eq_of_reads hcreate hbind
  obtain rfl := heffect'.eq_of_reads hcreate hbind
  refine ⟨?_, ?_, ?_⟩
  · rw [hstore']
    exact hstore
  · rw [hstore']
    exact h.dated
  · rw [directory_handle, directory_handle, h.directory]

/-- Whatever is asked of both, they stay twins. -/
theorem handle (h : Twins d m) (policy : MaskPolicy) (who : Identity)
    (hnow : supply.now.FourDigitYear) (op : Operation) :
    Twins (d.handle policy who supply op).service (m.handle policy who supply op).service := by
  cases op with
  | create r => exact h.handle_of_steady fun directory => steady_plan_create hnow directory r
  | bind r => exact h.handle_of_steady fun directory => steady_plan_bind hnow directory r
  | _ => exact h.handle_of_reads (fun _ h => by cases h) (fun _ h => by cases h)

theorem run (h : Twins d m) {calls : List ServiceCall}
    (hclock : ∀ call ∈ calls, call.supply.now.FourDigitYear) :
    Twins (d.run calls).2 (m.run calls).2 := by
  induction calls generalizing d m with
  | nil => exact h
  | cons call rest ih =>
      obtain ⟨hnow, hrest⟩ := List.forall_mem_cons.mp hclock
      exact ih (h.handle call.policy call.who hnow call.operation) hrest

end Twins

end Service

end ConfigTimeline
