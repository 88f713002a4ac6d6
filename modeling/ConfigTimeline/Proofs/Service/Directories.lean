import ConfigTimeline.Proofs.Id.Text
import ConfigTimeline.Proofs.Service.Separation

/-!
What asking for a project by its name leaves in the directory, and with it what a refused create does.
The store is as it was, but the directory has been asked before: the project of the name is in it from
then on, even though nothing was stored for it.
-/

namespace ConfigTimeline

namespace Index

variable {κ α : Type} [DecidableEq κ]

/-- Putting under a key what is there changes nothing. -/
theorem put_of_get? {m : Index κ α} {key : κ} {a : α} (h : m.get? key = some a) :
    m.put key a = m := by
  obtain ⟨entries⟩ := m
  refine congrArg Index.mk ?_
  change (entries.find? (·.1 == key)).map (·.2) = some a at h
  change putEntry key a entries = entries
  induction entries with
  | nil => cases h
  | cons entry rest ih =>
      by_cases hentry : entry.1 = key
      · simp only [List.find?_cons, hentry, BEq.rfl, Option.map_some, Option.some.injEq] at h
        rw [putEntry, if_pos hentry, ← hentry, ← h]
      · have hother : (entry.1 == key) = false := beq_eq_false_iff_ne.mpr hentry
        rw [List.find?_cons, hother] at h
        rw [putEntry, if_neg hentry, ih h]

end Index

/-- The directory `d'` has the projects of `d`, and under the id of a project of a workspace it has that
project. -/
def Directory.Enters (d d' : Directory) (workspace : String) (project : Project) : Prop :=
  ∀ other id, d'.get other id =
    if other = workspace ∧ id = project.id then .ok project else d.get other id

namespace MemoryDirectory

variable {d : MemoryDirectory} {workspace name : String}

theorem getOrCreate_of_known {id : ProjectId}
    (hname : d.byName.get? (workspace, name) = some ⟨id, name⟩)
    (hid : d.byId.get? (workspace, id) = some ⟨id, name⟩) (candidate : ProjectId) :
    (d.getOrCreate workspace name candidate).2 = d := by
  unfold getOrCreate insert
  rw [hname]
  dsimp only [Option.getD_some]
  rw [Index.put_of_get? hname, Index.put_of_get? hid]

theorem enters_getOrCreate (d : MemoryDirectory) (workspace name : String)
    (candidate : ProjectId) :
    Directory.Enters (.memory d) (.memory (d.getOrCreate workspace name candidate).2) workspace
      (d.getOrCreate workspace name candidate).1 := by
  intro other id
  exact get_insert d workspace other _ id

end MemoryDirectory

namespace TableDirectory

variable {d : TableDirectory} {workspace name : String} {candidate : ProjectId}

theorem getOrCreate_of_known
    (h : ∃ row ∈ d.rows, row.workspace = workspace ∧ row.name = name) (candidate : ProjectId) :
    (d.getOrCreate workspace name candidate).2 = d := by
  obtain ⟨row, hrow, hworkspace, hname⟩ := h
  unfold getOrCreate
  split
  · rfl
  · rename_i hnone
    have hother := List.find?_eq_none.mp hnone row hrow
    simp [hworkspace, hname] at hother

/-- A row that is added is that of the candidate, whose id no row of the workspace had. -/
theorem enters_getOrCreate {project : Project}
    (hnew : ¬∃ row ∈ d.rows, row.workspace = workspace ∧ row.name = name)
    (hok : (d.getOrCreate workspace name candidate).1 = .ok project) :
    project = ⟨candidate, name⟩ ∧
      Directory.Enters (.table d) (.table (d.getOrCreate workspace name candidate).2) workspace
        project := by
  unfold getOrCreate at hok ⊢
  split at hok
  · rename_i row hfound
    have hrow := List.find?_some hfound
    simp only [Bool.and_eq_true, beq_iff_eq] at hrow
    exact absurd ⟨row, List.mem_of_find?_eq_some hfound, hrow⟩ hnew
  · split at hok
    · cases hok
    · rename_i hnone hfree
      obtain rfl : (⟨candidate, name⟩ : Project) = project := Except.ok.inj hok
      refine ⟨rfl, ?_⟩
      rw [if_neg hfree]
      intro other id
      change get { d with rows := d.rows ++ [⟨workspace, candidate.text, name⟩] } other id =
        if _ then _ else get d other id
      unfold get
      rw [List.find?_append]
      by_cases hsame : other = workspace ∧ id = candidate
      · obtain ⟨rfl, rfl⟩ := hsame
        have hold : d.rows.find? (fun row => row.workspace == other && row.id == id.text) = none := by
          rw [List.find?_eq_none]
          intro row hrow hmatch
          exact hfree (List.any_eq_true.mpr ⟨row, hrow, hmatch⟩)
        simp [hold, read, ProjectId.parse_text]
      · have hnew : ([⟨workspace, candidate.text, name⟩] : List ProjectCells).find?
            (fun row => row.workspace == other && row.id == id.text) = none := by
          rw [List.find?_eq_none]
          intro row hrow hmatch
          rw [List.mem_singleton.mp hrow] at hmatch
          simp only [Bool.and_eq_true, beq_iff_eq, ProjectId.text_inj] at hmatch
          exact hsame ⟨hmatch.1.symm, hmatch.2.symm⟩
        rw [hnew, Option.or_none, if_neg hsame]
        rfl

end TableDirectory

namespace Directory

def HasName (workspace name : String) : Directory → Prop
  | .memory d => (d.byName.get? (workspace, name)).isSome = true
  | .table d | .fixedTable d => ∃ row ∈ d.rows, row.workspace = workspace ∧ row.name = name
  | .unavailable _ => False

/-- The directory has a project of a name, and under its id that very project. A table has nothing but
its rows. -/
def Knows (workspace name : String) : Directory → Prop
  | .memory d => ∃ id, d.byName.get? (workspace, name) = some ⟨id, name⟩ ∧
      d.byId.get? (workspace, id) = some ⟨id, name⟩
  | .table d | .fixedTable d => ∃ row ∈ d.rows, row.workspace = workspace ∧ row.name = name
  | .unavailable _ => False

/-- A project that is known by its name is answered and nothing else happens. Any other is in the
directory afterwards, and has the candidate id if there was none of the name. -/
theorem getOrCreate_effect {d : Directory} {workspace name : String} {candidate : ProjectId}
    {project : Project} (hok : (d.getOrCreate workspace name candidate).1 = .ok project) :
    (d.Knows workspace name → (d.getOrCreate workspace name candidate).2 = d) ∧
      (¬d.Knows workspace name →
        d.Enters (d.getOrCreate workspace name candidate).2 workspace project) ∧
      (¬d.HasName workspace name → project = ⟨candidate, name⟩) := by
  cases d with
  | memory d =>
      obtain rfl : (d.getOrCreate workspace name candidate).1 = project := Except.ok.inj hok
      refine ⟨?_, fun _ => d.enters_getOrCreate workspace name candidate, ?_⟩
      · rintro ⟨id, hname, hid⟩
        exact congrArg Directory.memory (MemoryDirectory.getOrCreate_of_known hname hid candidate)
      · intro hnone
        have hunnamed : d.byName.get? (workspace, name) = none :=
          Option.not_isSome_iff_eq_none.mp hnone
        unfold MemoryDirectory.getOrCreate
        rw [hunnamed]
        rfl
  | table d =>
      refine ⟨?_, ?_, ?_⟩
      · intro hknown
        exact congrArg Directory.table (TableDirectory.getOrCreate_of_known hknown candidate)
      · intro hnew
        exact (TableDirectory.enters_getOrCreate hnew hok).2
      · intro hnew
        exact (TableDirectory.enters_getOrCreate hnew hok).1
  | fixedTable d => cases hok
  | unavailable reason => cases hok

end Directory

namespace Service

variable {b : Backend} (s : Service b) (policy : MaskPolicy) (who : Identity) (supply : Supply)

theorem directory_handle (op : Operation) :
    (s.handle policy who supply op).service.directory =
      (plan policy who supply s.directory op).2 := by
  rw [handle_eq_plan]
  cases (plan policy who supply s.directory op).1 with
  | error e => rfl
  | ok planned => rfl

/-- An operation that fails leaves the store as it was. -/
theorem store_of_failed (S : Sectors b) (op : Operation) {e : ServiceError}
    (h : (s.handle policy who supply op).result = .error e) :
    (s.handle policy who supply op).service.store = s.store := by
  rw [handle_eq_plan] at h ⊢
  cases hplanned : (plan policy who supply s.directory op).1 with
  | error e => rfl
  | ok planned =>
      rw [hplanned] at h
      exact S.failed h

theorem plan_create {r : CreateRequest} {ref : ProjectRef} (hvalid : r.validate = .ok ref)
    (d : Directory) :
    plan policy who supply d (.create r) =
      (planCreate who supply r (resolveProject who.workspace supply.candidate ref d).1,
        (resolveProject who.workspace supply.candidate ref d).2) := by
  unfold plan
  dsimp only
  rw [hvalid]

/-- A valid create that refuses an argument has been given a project by the directory. -/
theorem exists_project_of_invalid {r : CreateRequest} {ref : ProjectRef}
    (hvalid : r.validate = .ok ref) {reason : ValidationError}
    (h : (s.handle policy who supply (.create r)).result = .error (.invalid reason)) :
    ∃ project, (resolveProject who.workspace supply.candidate ref s.directory).1 = .ok project := by
  rw [handle_eq_plan, plan_create policy who supply hvalid] at h
  cases hresolved : (resolveProject who.workspace supply.candidate ref s.directory).1 with
  | ok project => exact ⟨project, rfl⟩
  | error e =>
      rw [hresolved] at h
      cases e <;> cases h

/-- A request that names its project by no name leaves the directory alone. -/
theorem directory_create_of_unnamed {r : CreateRequest}
    (h : ∀ name, r.validate ≠ .ok (.name name)) :
    (s.handle policy who supply (.create r)).service.directory = s.directory := by
  rw [directory_handle]
  cases hvalid : r.validate with
  | error reason =>
      unfold plan
      dsimp only
      rw [hvalid]
  | ok ref =>
      rw [plan_create policy who supply hvalid]
      cases ref with
      | id id => rfl
      | name name => exact absurd hvalid (h name)

/-- What a create that refuses an argument does, in whatever state: nothing to the store, and nothing to
the directory but that a project which is named by its name is in it afterwards. -/
theorem create_refused (kind : StoreKind) (s : Service kind.backend) (policy : MaskPolicy)
    (who : Identity) (supply : Supply) (r : CreateRequest) (reason : ValidationError)
    (hrefused : (s.handle policy who supply (.create r)).result = .error (.invalid reason)) :
    let after := (s.handle policy who supply (.create r)).service
    after.store = s.store ∧
      ((∀ name, r.validate ≠ .ok (.name name)) → after.directory = s.directory) ∧
      ∀ name, r.validate = .ok (.name name) →
        (s.directory.Knows who.workspace name → after.directory = s.directory) ∧
        (¬s.directory.Knows who.workspace name →
          ∃ project, s.directory.Enters after.directory who.workspace project ∧
            (¬s.directory.HasName who.workspace name → project = ⟨supply.candidate, name⟩)) := by
  intro after
  refine ⟨store_of_failed s policy who supply kind.sectors (.create r) hrefused,
    directory_create_of_unnamed s policy who supply, ?_⟩
  intro name hvalid
  obtain ⟨project, hproject⟩ := exists_project_of_invalid s policy who supply hvalid hrefused
  obtain ⟨hknown, hnew, hunnamed⟩ := Directory.getOrCreate_effect hproject
  have hafter : after.directory =
      (s.directory.getOrCreate who.workspace name supply.candidate).2 := by
    rw [directory_handle, plan_create policy who supply hvalid]
    rfl
  rw [hafter]
  exact ⟨hknown, fun h => ⟨project, hnew h, hunnamed⟩⟩

/-- A create with an id in the future is refused, and a project is in the directory for it, be that in
memory or a table. -/
theorem create_refused_registers :
    let future : BlueprintId := ⟨.ofParts 1800000000000 0⟩
    let request : CreateRequest :=
      ⟨none, some "p", none, ⟨some future, .blueprint, none, [⟨"k", "v", .string, none⟩]⟩⟩
    let refused (directory : Directory) : Handled Memory.backend :=
      (new .memory directory).handle .reject ⟨"w", "u"⟩
        ⟨.ofUnix 1700000000 0, .ofNat, .ofNat 7⟩ (.create request)
    ∀ directory ∈ [Directory.memory .empty, .table ⟨"projects.db", []⟩],
      (refused directory).result = .error (.invalid (.blueprintIdInFuture future 60000)) ∧
        directory.get "w" (.ofNat 7) = .error (.notFound (.ofNat 7)) ∧
        (refused directory).service.directory.get "w" (.ofNat 7) = .ok ⟨.ofNat 7, "p"⟩ := by
  decide +kernel

/-- The project that the directory then has under the name is the only change, and a second create with
the name changes nothing. -/
theorem create_refused_twice :
    let future : BlueprintId := ⟨.ofParts 1800000000000 0⟩
    let request : CreateRequest :=
      ⟨none, some "p", none, ⟨some future, .blueprint, none, [⟨"k", "v", .string, none⟩]⟩⟩
    let refused (s : Service Memory.backend) (candidate : ProjectId) : Handled Memory.backend :=
      s.handle .reject ⟨"w", "u"⟩ ⟨.ofUnix 1700000000 0, .ofNat, candidate⟩ (.create request)
    let s := new .memory (.memory .empty)
    let once := (refused s (.ofNat 7)).service
    let twice := (refused once (.ofNat 8)).service
    s.directory.Enters once.directory "w" ⟨.ofNat 7, "p"⟩ ∧ twice.directory = once.directory := by
  intro future request refused s once twice
  obtain ⟨-, -, hfirst⟩ := create_refused .memory s .reject ⟨"w", "u"⟩
    ⟨.ofUnix 1700000000 0, .ofNat, .ofNat 7⟩ request (.blueprintIdInFuture future 60000)
    (by decide +kernel)
  obtain ⟨-, -, hsecond⟩ := create_refused .memory once .reject ⟨"w", "u"⟩
    ⟨.ofUnix 1700000000 0, .ofNat, .ofNat 8⟩ request (.blueprintIdInFuture future 60000)
    (by decide +kernel)
  have hvalid : request.validate = .ok (.name "p") := by decide +kernel
  have hunnamed : ¬s.directory.HasName "w" "p" := by
    rintro ⟨⟩
  have hunknown : ¬s.directory.Knows "w" "p" := by
    rintro ⟨id, hname, -⟩
    cases hname
  obtain ⟨project, henters, hcandidate⟩ := (hfirst "p" hvalid).2 hunknown
  rw [hcandidate hunnamed] at henters
  refine ⟨henters, (hsecond "p" hvalid).1 ⟨.ofNat 7, ?_⟩⟩
  exact ⟨by decide +kernel, by decide +kernel⟩

end Service

end ConfigTimeline
