import ConfigTimeline.Proofs.Service.Confinement
import ConfigTimeline.Proofs.Service.Run
import ConfigTimeline.Proofs.Store.DatabaseSectors
import ConfigTimeline.Proofs.Store.MemorySectors

/-!
Workspaces know nothing of each other. What is called for in a workspace has the same answers, and
leaves the same rows and the same projects behind, whether or not anything is called for in others.
-/

namespace ConfigTimeline

def StoreKind.sectors : (kind : StoreKind) → Sectors kind.backend
  | .memory => Memory.sectors
  | .database => Database.sectors

namespace Index

variable {κ α : Type} [DecidableEq κ] {workspace other : String}

def only (workspace : String) (m : Index (String × κ) α) : Index (String × κ) α :=
  ⟨m.entries.filter (·.1.1 == workspace)⟩

theorem get?_only (m : Index (String × κ) α) (key : κ) :
    (m.only workspace).get? (workspace, key) = m.get? (workspace, key) := by
  unfold get? only
  rw [find?_filter_of_imp]
  intro entry _ hentry
  rw [of_decide_eq_true hentry]
  exact beq_self_eq_true workspace

theorem only_put (m : Index (String × κ) α) (key : κ) (a : α) :
    (m.put (workspace, key) a).only workspace = (m.only workspace).put (workspace, key) a := by
  refine congrArg Index.mk ?_
  change (putEntry _ a m.entries).filter _ = putEntry _ a (m.entries.filter _)
  induction m.entries with
  | nil => simp [putEntry]
  | cons entry rest ih =>
      by_cases hentry : entry.1 = (workspace, key)
      · simp [putEntry, hentry]
      · by_cases hkeep : entry.1.1 = workspace
        · simp [putEntry, hentry, hkeep, ih]
        · simp [putEntry, hentry, hkeep, ih]

theorem only_put_of_other (h : other ≠ workspace) (m : Index (String × κ) α) (key : κ) (a : α) :
    (m.put (other, key) a).only workspace = m.only workspace := by
  refine congrArg Index.mk ?_
  change (putEntry _ a m.entries).filter _ = m.entries.filter _
  induction m.entries with
  | nil => simp [putEntry, h]
  | cons entry rest ih =>
      by_cases hentry : entry.1 = (other, key)
      · simp [putEntry, hentry, h]
      · simp [putEntry, hentry, List.filter_cons, ih]

end Index

namespace MemoryDirectory

variable {workspace other : String}

def only (workspace : String) (d : MemoryDirectory) : MemoryDirectory :=
  ⟨d.byName.only workspace, d.byId.only workspace⟩

theorem get_only (d : MemoryDirectory) (id : ProjectId) :
    (d.only workspace).get workspace id = d.get workspace id := by
  unfold get only
  rw [Index.get?_only]

theorem getOrCreate_only (d : MemoryDirectory) (name : String) (candidate : ProjectId) :
    (d.only workspace).getOrCreate workspace name candidate =
      ((d.getOrCreate workspace name candidate).1,
        (d.getOrCreate workspace name candidate).2.only workspace) := by
  unfold getOrCreate insert only
  simp only [Index.get?_only, Index.only_put]

theorem only_getOrCreate_of_other (h : other ≠ workspace) (d : MemoryDirectory)
    (name : String) (candidate : ProjectId) :
    (d.getOrCreate other name candidate).2.only workspace = d.only workspace := by
  unfold getOrCreate insert only
  simp only [Index.only_put_of_other h]

end MemoryDirectory

namespace TableDirectory

variable {workspace : String}

def only (workspace : String) (d : TableDirectory) : TableDirectory :=
  { d with rows := d.rows.filter (·.workspace == workspace) }

theorem get_only (d : TableDirectory) (id : ProjectId) :
    (d.only workspace).get workspace id = d.get workspace id := by
  have hfind : (d.only workspace).rows.find?
      (fun row => row.workspace == workspace && row.id == id.text) =
      d.rows.find? fun row => row.workspace == workspace && row.id == id.text :=
    find?_filter_of_imp fun row _ hrow => (Bool.and_eq_true_iff.mp hrow).1
  unfold get
  rw [hfind]
  rfl

theorem getOrCreate_only (d : TableDirectory) (name : String) (candidate : ProjectId) :
    (d.only workspace).getOrCreate workspace name candidate =
      ((d.getOrCreate workspace name candidate).1,
        (d.getOrCreate workspace name candidate).2.only workspace) := by
  have hfind : (d.only workspace).rows.find?
      (fun row => row.workspace == workspace && row.name == name) =
      d.rows.find? fun row => row.workspace == workspace && row.name == name :=
    find?_filter_of_imp fun row _ hrow => (Bool.and_eq_true_iff.mp hrow).1
  have hany : (d.only workspace).rows.any
      (fun row => row.workspace == workspace && row.id == candidate.text) =
      d.rows.any fun row => row.workspace == workspace && row.id == candidate.text :=
    any_filter_of_imp fun row _ hrow => (Bool.and_eq_true_iff.mp hrow).1
  unfold getOrCreate
  rw [hfind, hany]
  split
  · rfl
  · split
    · rfl
    · simp [only]

theorem only_getOrCreate_of_other {other : String} (h : other ≠ workspace) (d : TableDirectory)
    (name : String) (candidate : ProjectId) :
    (d.getOrCreate other name candidate).2.only workspace = d.only workspace := by
  unfold getOrCreate
  split
  · rfl
  · split
    · rfl
    · simp [only, h]

end TableDirectory

namespace Directory

variable {workspace : String}

def only (workspace : String) : Directory → Directory
  | .memory d => .memory (d.only workspace)
  | .table d => .table (d.only workspace)
  | .fixedTable d => .fixedTable (d.only workspace)
  | .unavailable reason => .unavailable reason

theorem get_only (d : Directory) (id : ProjectId) :
    (d.only workspace).get workspace id = d.get workspace id := by
  cases d with
  | memory d => exact d.get_only id
  | table d => exact d.get_only id
  | fixedTable d => exact d.get_only id
  | unavailable reason => rfl

theorem getOrCreate_only (d : Directory) (name : String) (candidate : ProjectId) :
    (d.only workspace).getOrCreate workspace name candidate =
      ((d.getOrCreate workspace name candidate).1,
        (d.getOrCreate workspace name candidate).2.only workspace) := by
  cases d with
  | memory d => simp only [only, getOrCreate, d.getOrCreate_only]
  | table d => simp only [only, getOrCreate, d.getOrCreate_only]
  | fixedTable d => rfl
  | unavailable reason => rfl

theorem only_getOrCreate_of_other {other : String} (h : other ≠ workspace) (d : Directory)
    (name : String) (candidate : ProjectId) :
    (d.getOrCreate other name candidate).2.only workspace = d.only workspace := by
  cases d with
  | memory d => exact congrArg Directory.memory (d.only_getOrCreate_of_other h name candidate)
  | table d => exact congrArg Directory.table (d.only_getOrCreate_of_other h name candidate)
  | fixedTable d => rfl
  | unavailable reason => rfl

end Directory

namespace Service

section Plan

variable (policy : MaskPolicy) (who : Identity) (supply : Supply)

/-- What appending a draft is to the store, once the directory has been asked for the project. -/
def planCreate (r : CreateRequest) :
    Except DirectoryError Project → Except ServiceError (Mode × Action Reply)
  | .error e => .error (.ofDirectory e)
  | .ok project =>
      .ok (.write, .view <$> Versioning.append who supply.now project.id r.config r.draft)

/-- What a read of one blueprint is to the store, with a mask over it if one is given. -/
def planView (action : Action BlueprintView) (mask : Option BlueprintId) :
    Except ServiceError (Mode × Action Reply) :=
  .ok (.read, .view <$> (action >>= Resolution.masked who.workspace mask))

/-- The directory after an operation, and what the operation is to the store: a refusal, or an action in
a unit of work. -/
def plan (d : Directory) : Operation → Except ServiceError (Mode × Action Reply) × Directory
  | .create r =>
      match r.validate with
      | .error reason => (.error (.invalid reason), d)
      | .ok ref =>
          let resolved := resolveProject who.workspace supply.candidate ref d
          (planCreate who supply r resolved.1, resolved.2)
  | .latest project mask => (planView who (Resolution.effective who.workspace project none) mask, d)
  | .get blueprint mask => (planView who (Resolution.atBlueprint who.workspace blueprint) mask, d)
  | .env project env mask =>
      (planView who (Resolution.atEnvironment who.workspace project env) mask, d)
  | .delta blueprint => (planView who (Resolution.delta who.workspace blueprint) none, d)
  | .bind r =>
      match r.validate with
      | .error reason => (.error (.invalid reason), d)
      | .ok () => (.ok (.write, .pins <$> Pinning.bind policy who supply.now r), d)
  | .history project page size =>
      match PageRequest.of page size with
      | .error reason => (.error (.invalid reason), d)
      | .ok page => (.ok (.read, .page <$> Resolution.history who.workspace project page), d)

/-- Does to the store what has been planned. -/
def carryOut {b : Backend} (s : Service b) (ids : Nat → Ulid) :
    Except ServiceError (Mode × Action Reply) → Handled b
  | .error e => s.refused e
  | .ok (mode, action) => s.runAction mode ids action

theorem handle_eq_plan {b : Backend} (s : Service b) (op : Operation) :
    s.handle policy who supply op =
      ({ s with directory := (plan policy who supply s.directory op).2 } : Service b).carryOut
        supply.ids (plan policy who supply s.directory op).1 := by
  cases op with
  | create r =>
      unfold handle create plan
      dsimp only
      cases r.validate with
      | error reason => rfl
      | ok ref =>
          dsimp only
          generalize resolveProject who.workspace supply.candidate ref s.directory = resolved
          obtain ⟨project, directory⟩ := resolved
          cases project <;> rfl
  | bind r =>
      unfold handle bind plan
      dsimp only
      cases r.validate <;> rfl
  | history project page size =>
      unfold handle history plan
      dsimp only
      cases PageRequest.of page size <;> rfl
  | _ => rfl

/-- An action that has been planned makes its calls in a workspace. -/
def Confined (workspace : String) : Except ServiceError (Mode × Action Reply) → Prop
  | .error _ => True
  | .ok (_, action) => action.Makes workspace fun _ => True

theorem confined_planView {action : Action BlueprintView}
    (h : action.Makes who.workspace Call.Reads) (mask : Option BlueprintId) :
    Confined who.workspace (planView who action mask) := by
  have hview := Program.makes_map (f := Reply.view)
    (Program.makes_bind h (Resolution.reads_masked who.workspace mask))
  exact hview.mono fun _ _ => trivial

theorem confined_plan (d : Directory) (op : Operation) :
    Confined who.workspace (plan policy who supply d op).1 := by
  cases op with
  | create r =>
      unfold plan
      dsimp only
      cases r.validate with
      | error reason => trivial
      | ok ref =>
          dsimp only
          cases (resolveProject who.workspace supply.candidate ref d).1 with
          | error e => trivial
          | ok project =>
              have happend := Program.makes_map (f := Reply.view)
                (Versioning.makes_append who supply.now project.id r.config r.draft)
              exact happend.mono fun _ _ => trivial
  | latest project mask =>
      exact confined_planView who (Resolution.reads_effective who.workspace project none) mask
  | get blueprint mask =>
      exact confined_planView who (Resolution.reads_atBlueprint who.workspace blueprint) mask
  | env project env mask =>
      exact confined_planView who (Resolution.reads_atEnvironment who.workspace project env) mask
  | delta blueprint =>
      exact confined_planView who (Resolution.reads_delta who.workspace blueprint) none
  | bind r =>
      unfold plan
      dsimp only
      cases r.validate with
      | error reason => trivial
      | ok _ =>
          have hbind := Program.makes_map (f := Reply.pins)
            (Pinning.makes_bind policy who supply.now r)
          exact hbind.mono fun _ _ => trivial
  | history project page size =>
      unfold plan
      dsimp only
      cases PageRequest.of page size with
      | error reason => trivial
      | ok page =>
          have hhistory := Program.makes_map (f := Reply.page)
            (Resolution.reads_history who.workspace project page)
          exact hhistory.mono fun _ _ => trivial

theorem resolveProject_only (workspace : String) (candidate : ProjectId) (ref : ProjectRef)
    (d : Directory) :
    resolveProject workspace candidate ref (d.only workspace) =
      ((resolveProject workspace candidate ref d).1,
        (resolveProject workspace candidate ref d).2.only workspace) := by
  cases ref with
  | id id => exact Prod.ext (d.get_only id) rfl
  | name name => exact d.getOrCreate_only name candidate

/-- What is planned depends on nothing in the directory but the projects of the workspace. -/
theorem plan_only (d : Directory) (op : Operation) :
    plan policy who supply (d.only who.workspace) op =
      ((plan policy who supply d op).1, (plan policy who supply d op).2.only who.workspace) := by
  cases op with
  | create r =>
      unfold plan
      dsimp only
      cases r.validate with
      | error reason => rfl
      | ok ref =>
          dsimp only
          rw [resolveProject_only]
  | bind r =>
      unfold plan
      dsimp only
      cases r.validate <;> rfl
  | history project page size =>
      unfold plan
      dsimp only
      cases PageRequest.of page size <;> rfl
  | _ => rfl

/-- An operation in another workspace leaves the projects of a workspace alone. -/
theorem only_plan_of_other {workspace : String} (h : who.workspace ≠ workspace) (d : Directory)
    (op : Operation) : (plan policy who supply d op).2.only workspace = d.only workspace := by
  cases op with
  | create r =>
      unfold plan
      dsimp only
      cases r.validate with
      | error reason => rfl
      | ok ref =>
          cases ref with
          | id id => rfl
          | name name => exact d.only_getOrCreate_of_other h name supply.candidate
  | bind r =>
      unfold plan
      dsimp only
      cases r.validate <;> rfl
  | history project page size =>
      unfold plan
      dsimp only
      cases PageRequest.of page size <;> rfl
  | _ => rfl

end Plan

variable {b : Backend} {S : Sectors b} {workspace : String} {s s' : Service b}

/-- Services with the same rows and the same projects in a workspace. -/
structure Alike (S : Sectors b) (workspace : String) (s s' : Service b) : Prop where
  store : S.ofStore (.ofWorkspace workspace) s.store = S.ofStore (.ofWorkspace workspace) s'.store
  directory : s.directory.only workspace = s'.directory.only workspace

namespace Alike

theorem trans {s'' : Service b} (h : Alike S workspace s s') (h' : Alike S workspace s' s'') :
    Alike S workspace s s'' :=
  ⟨h.store.trans h'.store, h.directory.trans h'.directory⟩

theorem carryOut (h : Alike S workspace s s') (ids : Nat → Ulid)
    {planned : Except ServiceError (Mode × Action Reply)} (hplanned : Confined workspace planned) :
    (s.carryOut ids planned).result = (s'.carryOut ids planned).result ∧
      Alike S workspace (s.carryOut ids planned).service (s'.carryOut ids planned).service := by
  cases planned with
  | error e => exact ⟨rfl, h⟩
  | ok planned =>
      obtain ⟨hresult, hstore⟩ := S.inUnit_agrees ids hplanned planned.1 h.store
      exact ⟨hresult.symm, hstore.symm, h.directory⟩

/-- An operation in a workspace has one answer on services that are alike in it, and leaves them alike. -/
theorem handle {who : Identity} (h : Alike S who.workspace s s') (policy : MaskPolicy)
    (supply : Supply) (op : Operation) :
    (s.handle policy who supply op).result = (s'.handle policy who supply op).result ∧
      Alike S who.workspace (s.handle policy who supply op).service
        (s'.handle policy who supply op).service := by
  have hplan := plan_only policy who supply s.directory op
  rw [h.directory, plan_only, Prod.mk.injEq] at hplan
  have hconsulted : Alike S who.workspace
      { s with directory := (plan policy who supply s.directory op).2 }
      { s' with directory := (plan policy who supply s'.directory op).2 } :=
    ⟨h.store, hplan.2.symm⟩
  rw [handle_eq_plan, handle_eq_plan, hplan.1]
  exact hconsulted.carryOut supply.ids (confined_plan policy who supply s.directory op)

end Alike

/-- An operation in another workspace leaves the service alike. -/
theorem alike_handle_of_other (S : Sectors b) (s : Service b) {who : Identity}
    (hother : who.workspace ≠ workspace) (policy : MaskPolicy) (supply : Supply) (op : Operation) :
    Alike S workspace (s.handle policy who supply op).service s := by
  have hconfined := confined_plan policy who supply s.directory op
  have hdirectory := only_plan_of_other policy who supply hother s.directory op
  rw [handle_eq_plan]
  cases hplanned : (plan policy who supply s.directory op).1 with
  | error e => exact ⟨rfl, hdirectory⟩
  | ok planned =>
      rw [hplanned] at hconfined
      have hspares : planned.2.Makes who.workspace
          fun c => c.Spares (.ofWorkspace workspace) who.workspace :=
        Program.Makes.mono hconfined fun c _ p _ => beq_eq_false_iff_ne.mpr hother
      exact ⟨S.spare_inUnit hspares planned.1 s.store, hdirectory⟩

/-- A run, and the run of its calls in a workspace alone. -/
theorem Alike.run (h : Alike S workspace s s') (calls : List ServiceCall) :
    (s.run calls).1.filter (·.call.who.workspace == workspace) =
        (s'.run (calls.filter (·.who.workspace == workspace))).1 ∧
      Alike S workspace (s.run calls).2 (s'.run (calls.filter (·.who.workspace == workspace))).2 := by
  induction calls generalizing s s' with
  | nil => exact ⟨rfl, h⟩
  | cons call rest ih =>
      by_cases hcall : call.who.workspace = workspace
      · -- Both runs handle the call.
        subst hcall
        obtain ⟨hresult, hafter⟩ := h.handle call.policy call.supply call.operation
        obtain ⟨hlog, hend⟩ := ih hafter
        have hself := beq_self_eq_true call.who.workspace
        simp only [run, List.filter_cons, hself, if_true, hlog, hresult, true_and]
        exact hend
      · -- Only the first run handles the call, and stays alike.
        have hcall' : (call.who.workspace == workspace) = false := beq_eq_false_iff_ne.mpr hcall
        have hafter := alike_handle_of_other S s hcall call.policy call.supply call.operation
        obtain ⟨hlog, hend⟩ := ih (hafter.trans h)
        simp only [run, List.filter_cons, hcall', Bool.false_eq_true, if_false, hlog, true_and]
        exact hend

/-- Workspaces do not interfere. Take away from a run all calls in other workspaces than one: each call
in the workspace has the same answer as before, and at the end its rows and its projects are the same,
whichever ids, names and keys the others had used. -/
theorem workspaces_apart (kind : StoreKind) (directory : Directory) (calls : List ServiceCall)
    (workspace : String) :
    let ran := (new kind directory).run calls
    let alone := (new kind directory).run (calls.filter (·.who.workspace == workspace))
    ran.1.filter (·.call.who.workspace == workspace) = alone.1 ∧
      kind.sectors.ofStore (.ofWorkspace workspace) ran.2.store =
        kind.sectors.ofStore (.ofWorkspace workspace) alone.2.store ∧
      ran.2.directory.only workspace = alone.2.directory.only workspace := by
  have hstart : Alike kind.sectors workspace (new kind directory) (new kind directory) := ⟨rfl, rfl⟩
  obtain ⟨hlog, hend⟩ := hstart.run calls
  exact ⟨hlog, hend.store, hend.directory⟩

end Service

end ConfigTimeline
