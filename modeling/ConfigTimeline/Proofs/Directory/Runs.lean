import ConfigTimeline.Proofs.Directory.Roll
import ConfigTimeline.Proofs.Id.Text

/-!
Runs of a directory: lookups by id and by name, one after another, from a directory without projects. A
directory in memory and one that is a table both answer as the roll of their projects does, as long as
no candidate id is offered twice. So what a run comes to is told from the roll alone, and the two differ
by nothing but the ids.
-/

namespace ConfigTimeline

def Directory.answer (d : Directory) : DirectoryCall → Except DirectoryError Project × Directory
  | .get workspace id => (d.get workspace id, d)
  | .getOrCreate workspace name candidate => d.getOrCreate workspace name candidate

def Directory.run (d : Directory) (calls : List DirectoryCall) : List DirectoryEntry × Directory :=
  answerAll Directory.answer d calls

namespace Roll

def cells (entry : String × Project) : ProjectCells := ⟨entry.1, entry.2.id.text, entry.2.name⟩

end Roll

/-- The directory has the projects of a roll. -/
def Directory.Lists (roll : Roll) : Directory → Prop
  | .memory d => roll.Indexed (·.name) d.byName ∧ roll.Indexed (·.id) d.byId
  | .table d => d.rows = roll.map Roll.cells
  | .fixedTable _ => False
  | .unavailable _ => False

namespace MemoryDirectory

variable {d : MemoryDirectory} {roll : Roll}

/-- A directory in memory answers as the roll of its projects does. -/
theorem answer_lists (hlists : Directory.Lists roll (.memory d)) (hids : roll.ids.Nodup)
    (call : DirectoryCall) (hfree : ∀ candidate ∈ offered [call], candidate ∉ roll.ids) :
    ((Directory.memory d).answer call).1 = (roll.answer call).1 ∧
      ((Directory.memory d).answer call).2.Lists (roll.answer call).2 := by
  obtain ⟨hnames, hbyId⟩ := hlists
  cases call with
  | get workspace id =>
      refine ⟨?_, hnames, hbyId⟩
      change d.get workspace id = roll.get workspace id
      have hfound := hbyId workspace id
      unfold get Roll.get
      cases hlook : roll.lookUp (·.id) workspace id with
      | none => rw [hfound.trans hlook]
      | some project => rw [hfound.trans hlook]
  | getOrCreate workspace name candidate =>
      change Except.ok (d.getOrCreate workspace name candidate).1 = _ ∧
        Directory.Lists _ (.memory (d.getOrCreate workspace name candidate).2)
      rw [getOrCreate, hnames]
      cases hfound : roll.lookUp (·.name) workspace name with
      | none =>
          rw [Roll.answer_new hfound]
          have hid := Roll.lookUp_id_eq_none (hfree candidate List.mem_cons_self) workspace
          exact ⟨rfl, hnames.put_new ⟨candidate, name⟩ hfound,
            hbyId.put_new ⟨candidate, name⟩ hid⟩
      | some project =>
          rw [Roll.answer_known hfound]
          obtain ⟨hmem, rfl⟩ := Roll.mem_of_lookUp hfound
          have hid := (Roll.lookUp_eq_some_iff (Roll.nodup_workspace_ids hids)).mpr ⟨hmem, rfl⟩
          exact ⟨rfl, hnames.put_known hfound, hbyId.put_known hid⟩

end MemoryDirectory

namespace TableDirectory

variable {d : TableDirectory} {roll : Roll}

theorem find?_rows (hlists : Directory.Lists roll (.table d)) {p : ProjectCells → Bool}
    {q : String × Project → Bool} (h : ∀ entry, p (Roll.cells entry) = q entry) :
    d.rows.find? p = (roll.find? q).map Roll.cells := by
  have hpq : p ∘ Roll.cells = q := funext h
  change d.rows = roll.map Roll.cells at hlists
  rw [hlists, List.find?_map, hpq]

theorem read_cells (d : TableDirectory) (entry : String × Project) :
    d.read (Roll.cells entry) = .ok entry.2 := by
  rw [read, Roll.cells, ProjectId.parse_text]

theorem any_rows_eq_false (hlists : Directory.Lists roll (.table d)) {id : ProjectId}
    (h : id ∉ roll.ids) (workspace : String) :
    (d.rows.any fun row => row.workspace == workspace && row.id == id.text) = false := by
  change d.rows = roll.map Roll.cells at hlists
  rw [hlists, List.any_eq_false]
  intro row hrow
  obtain ⟨entry, hentry, rfl⟩ := List.mem_map.mp hrow
  have hid : entry.2.id ≠ id := fun hsame => h (hsame ▸ List.mem_map_of_mem hentry)
  simp [Roll.cells, hid]

/-- A table answers as the roll of its projects does. -/
theorem answer_lists (hlists : Directory.Lists roll (.table d)) (call : DirectoryCall)
    (hfree : ∀ candidate ∈ offered [call], candidate ∉ roll.ids) :
    ((Directory.table d).answer call).1 = (roll.answer call).1 ∧
      ((Directory.table d).answer call).2.Lists (roll.answer call).2 := by
  cases call with
  | get workspace id =>
      have hrow := find?_rows hlists
        (p := fun row => row.workspace == workspace && row.id == id.text)
        (q := fun entry => entry.1 == workspace && entry.2.id == id)
        (fun entry => by rw [Bool.eq_iff_iff]; simp [Roll.cells])
      refine ⟨?_, hlists⟩
      change d.get workspace id = roll.get workspace id
      rw [get, hrow, Roll.get, Roll.lookUp]
      cases roll.find? fun entry => entry.1 == workspace && entry.2.id == id with
      | none => rfl
      | some entry => exact d.read_cells entry
  | getOrCreate workspace name candidate =>
      have hrow := find?_rows hlists
        (p := fun row => row.workspace == workspace && row.name == name)
        (q := fun entry => entry.1 == workspace && entry.2.name == name) (by simp [Roll.cells])
      change (d.getOrCreate workspace name candidate).1 = _ ∧
        Directory.Lists _ (.table (d.getOrCreate workspace name candidate).2)
      rw [getOrCreate, hrow]
      cases hfound : roll.find? fun entry => entry.1 == workspace && entry.2.name == name with
      | none =>
          have hfresh := any_rows_eq_false hlists (hfree candidate List.mem_cons_self) workspace
          have hnew : roll.lookUp (·.name) workspace name = none := Option.map_eq_none_iff.mpr hfound
          rw [Option.map_none, Roll.answer_new hnew]
          dsimp only
          rw [hfresh]
          refine ⟨rfl, ?_⟩
          change d.rows ++ [_] = _
          rw [show d.rows = roll.map Roll.cells from hlists, List.map_append]
          rfl
      | some entry =>
          have hknown : roll.lookUp (·.name) workspace name = some entry.2 :=
            Option.map_eq_some_iff.mpr ⟨entry, hfound, rfl⟩
          rw [Option.map_some, Roll.answer_known hknown]
          dsimp only
          rw [read_cells]
          exact ⟨rfl, hlists⟩

end TableDirectory

/-- A directory without projects: one in memory, or a table. -/
inductive Directory.New : Directory → Prop
  | memory : New (.memory .empty)
  | table (path : String) : New (.table ⟨path, []⟩)

namespace Directory

variable {d : Directory} {roll : Roll}

theorem New.lists (h : d.New) : d.Lists [] := by
  cases h with
  | memory => exact ⟨fun _ _ => rfl, fun _ _ => rfl⟩
  | table path => rfl

/-- A directory answers as the roll of its projects does, where the candidate id is not one on it. -/
theorem answer_lists (hlists : d.Lists roll) (hids : roll.ids.Nodup) (call : DirectoryCall)
    (hfree : ∀ candidate ∈ offered [call], candidate ∉ roll.ids) :
    (d.answer call).1 = (roll.answer call).1 ∧ (d.answer call).2.Lists (roll.answer call).2 := by
  cases d with
  | memory d => exact MemoryDirectory.answer_lists hlists hids call hfree
  | table d => exact TableDirectory.answer_lists hlists call hfree
  | fixedTable d => cases hlists
  | unavailable reason => cases hlists

end Directory

/-- A directory in which no id is offered twice runs as the roll of its projects does. -/
theorem Directory.run_lists {d : Directory} {roll : Roll} (hlists : d.Lists roll)
    {calls : List DirectoryCall} (hids : (roll.ids ++ offered calls).Nodup) :
    (d.run calls).1 = (answerAll Roll.answer roll calls).1 ∧
      (d.run calls).2.Lists (answerAll Roll.answer roll calls).2 := by
  induction calls generalizing d roll with
  | nil => exact ⟨rfl, hlists⟩
  | cons call rest ih =>
      have hfree : ∀ candidate ∈ offered [call], candidate ∉ roll.ids := by
        intro candidate hoffered hmem
        rw [offered_cons] at hids
        exact (List.nodup_append'.mp hids).2.2 hmem (List.mem_append_left _ hoffered)
      obtain ⟨hanswer, hnext⟩ := answer_lists hlists hids.of_append_left call hfree
      obtain ⟨hlog, hlast⟩ := ih hnext (Roll.nodup_ids_answer hids)
      refine ⟨?_, hlast⟩
      change ⟨call, (d.answer call).1⟩ :: ((d.answer call).2.run rest).1 = _
      rw [hanswer, hlog]
      rfl

namespace Directory

/-- The log of a run is that of the roll, whatever the directory. -/
theorem New.log_eq {d : Directory} (hnew : d.New) {calls : List DirectoryCall}
    (hoffered : (offered calls).Nodup) :
    (d.run calls).1 = (answerAll Roll.answer [] calls).1 :=
  (run_lists hnew.lists hoffered).1

/-- A lookup by id in a run is answered from the log up to it. -/
theorem New.get_answer {d : Directory} (hnew : d.New) {calls : List DirectoryCall}
    (hoffered : (offered calls).Nodup) {before rest : List DirectoryEntry} {workspace : String}
    {id : ProjectId} {answer : Except DirectoryError Project}
    (hlog : (d.run calls).1 = before ++ ⟨.get workspace id, answer⟩ :: rest) :
    ∃ roll : Roll, roll.Records before ∧ roll.ids.Nodup ∧ answer = roll.get workspace id := by
  rw [hnew.log_eq hoffered] at hlog
  obtain ⟨front, hsub, hbefore, hanswer⟩ := answerAll_eq_append hlog
  have hfront : (Roll.ids [] ++ offered front).Nodup := hoffered.sublist (offered_sublist hsub)
  refine ⟨_, ?_, Roll.nodup_ids_answerAll hfront, hanswer⟩
  rw [← hbefore]
  exact Roll.records_nil.answerAll front

/-- In a run from a directory without projects, calls by name are answered with one project for each
name of a workspace, projects have ids of their own, and an id has the project that was answered with
it before. Another directory that is offered other ids gives the same answers with those ids. -/
theorem projects_stable {d : Directory} (hnew : d.New) (calls : List DirectoryCall)
    (hoffered : (offered calls).Nodup) :
    let log := (d.run calls).1
    (∀ workspace name candidate answer,
      ⟨.getOrCreate workspace name candidate, answer⟩ ∈ log →
        ∃ project, answer = .ok project ∧ project.name = name) ∧
    (∀ workspace name candidate project workspace' name' candidate' project',
      ⟨.getOrCreate workspace name candidate, .ok project⟩ ∈ log →
      ⟨.getOrCreate workspace' name' candidate', .ok project'⟩ ∈ log →
        (workspace = workspace' ∧ name = name' → project = project') ∧
        (project.id = project'.id → workspace = workspace' ∧ name = name')) ∧
    (∀ before rest workspace id answer, log = before ++ ⟨.get workspace id, answer⟩ :: rest →
      (∀ project, answer = .ok project ↔ project.id = id ∧
        ∃ name candidate, ⟨.getOrCreate workspace name candidate, .ok project⟩ ∈ before) ∧
      (answer = .error (.notFound id) ↔ ∀ project, answer ≠ .ok project)) ∧
    ∀ others : List ProjectId, others.Nodup → others.length = (offered calls).length →
      ∃ σ : Equiv.Perm ProjectId, (offered calls).map σ = others ∧ ∀ d' : Directory, d'.New →
        (d'.run (calls.map (·.renamed σ))).1 = log.map (·.renamed σ) := by
  intro log
  have hlog : log = (answerAll Roll.answer [] calls).1 := hnew.log_eq hoffered
  have hids : (answerAll Roll.answer [] calls).2.ids.Nodup := Roll.nodup_ids_answerAll hoffered
  have hrecords := Roll.records_nil.answerAll calls
  rw [List.nil_append, ← hlog] at hrecords
  refine ⟨fun workspace name candidate answer hentry => ?_, ?_, ?_, ?_⟩
  · obtain ⟨project, hok, hname, -⟩ := hrecords.answered workspace name candidate answer hentry
    exact ⟨project, hok, hname⟩
  · intro _ _ _ _ _ _ _ _ hentry hentry'
    exact hrecords.same_or_apart hids hentry hentry'
  · intro before rest workspace id answer hsplit
    obtain ⟨roll, hbefore, hnodup, rfl⟩ := hnew.get_answer hoffered hsplit
    exact ⟨hbefore.get_eq_ok_iff hnodup workspace id, roll.get_eq_notFound_iff workspace id⟩
  · intro others hothers hlength
    obtain ⟨σ, hσ⟩ := exists_perm_map_eq hoffered hothers hlength
    refine ⟨σ, hσ, fun d' hnew' => ?_⟩
    have hoffered' : (offered (calls.map (·.renamed σ))).Nodup := by
      rw [offered_map_renamed, hσ]
      exact hothers
    rw [hnew'.log_eq hoffered', hlog]
    exact Roll.answerAll_renamed σ.injective [] calls

/-- One name in two workspaces, asked for again in the first one, and a lookup in the wrong one. -/
theorem projects_stable_again :
    let calls : List DirectoryCall :=
      [.getOrCreate "w" "p" (.ofNat 1), .getOrCreate "v" "p" (.ofNat 2),
        .getOrCreate "w" "p" (.ofNat 3), .get "w" (.ofNat 2)]
    let others : List ProjectId := [.ofNat 4, .ofNat 5, .ofNat 6]
    let log := ((Directory.table ⟨"projects.db", []⟩).run calls).1
    (offered calls).Nodup ∧ others.Nodup ∧
      ⟨.getOrCreate "w" "p" (.ofNat 3), .ok ⟨.ofNat 1, "p"⟩⟩ ∈ log ∧
      ⟨.getOrCreate "v" "p" (.ofNat 2), .ok ⟨.ofNat 2, "p"⟩⟩ ∈ log ∧
      ProjectId.ofNat 1 ≠ ProjectId.ofNat 2 ∧
      log = log.take 3 ++ [⟨.get "w" (.ofNat 2), .error (.notFound (.ofNat 2))⟩] ∧
      (∀ name candidate project, ⟨.getOrCreate "w" name candidate, .ok project⟩ ∈ log.take 3 →
        project.id ≠ .ofNat 2) ∧
      ∃ σ : Equiv.Perm ProjectId, (offered calls).map σ = others ∧
        ((Directory.memory .empty).run (calls.map (·.renamed σ))).1 = log.map (·.renamed σ) := by
  intro calls others log
  have hoffered : (offered calls).Nodup := by decide +kernel
  have hothers : others.Nodup := by decide +kernel
  have hfirst : ⟨.getOrCreate "w" "p" (.ofNat 3), .ok ⟨.ofNat 1, "p"⟩⟩ ∈ log := by decide +kernel
  have hsecond : ⟨.getOrCreate "v" "p" (.ofNat 2), .ok ⟨.ofNat 2, "p"⟩⟩ ∈ log := by decide +kernel
  have hsplit : log = log.take 3 ++ [⟨.get "w" (.ofNat 2), .error (.notFound (.ofNat 2))⟩] := by
    decide +kernel
  obtain ⟨-, hapart, hget, hrenamed⟩ := projects_stable (.table "projects.db") calls hoffered
  obtain ⟨hok, -⟩ := hget _ _ _ _ _ hsplit
  obtain ⟨σ, hσ, hother⟩ := hrenamed others hothers rfl
  refine ⟨hoffered, hothers, hfirst, hsecond, fun hid => ?_, hsplit,
    fun name candidate project hentry hid => ?_, σ, hσ, hother _ .memory⟩
  · exact absurd ((hapart _ _ _ _ _ _ _ _ hfirst hsecond).2 hid).1 (by decide)
  · cases (hok project).mpr ⟨hid, name, candidate, hentry⟩

end Directory

end ConfigTimeline
