import Mathlib.Logic.Equiv.Fintype
import ConfigTimeline.Directory.Basic

/-!
Rolls of projects, against which directories are held. A roll has all projects in the order in which
they came to be, and it answers lookups by id and by name. The log of a run has all that is on the roll,
each name of a workspace has one project, and where no id is offered twice no two projects have one id.
Ids may be exchanged for others throughout, as long as those that differ stay apart.
-/

namespace ConfigTimeline

inductive DirectoryCall
  | get (workspace : String) (id : ProjectId)
  | getOrCreate (workspace name : String) (candidate : ProjectId)
deriving DecidableEq

structure DirectoryEntry where
  call : DirectoryCall
  answer : Except DirectoryError Project
deriving DecidableEq

def offered : List DirectoryCall → List ProjectId
  | [] => []
  | .get _ _ :: rest => offered rest
  | .getOrCreate _ _ candidate :: rest => candidate :: offered rest

/-- Answers calls one after another; the answer is their log, and the state after them. -/
def answerAll {σ : Type} (answer : σ → DirectoryCall → Except DirectoryError Project × σ) (s : σ) :
    List DirectoryCall → List DirectoryEntry × σ
  | [] => ([], s)
  | call :: rest =>
      let after := answerAll answer (answer s call).2 rest
      (⟨call, (answer s call).1⟩ :: after.1, after.2)

/-- The log up to an entry is that of a run, and the entry is the answer of the state after it. -/
theorem answerAll_eq_append {σ : Type}
    {answer : σ → DirectoryCall → Except DirectoryError Project × σ} {s : σ}
    {calls : List DirectoryCall} {before rest : List DirectoryEntry} {entry : DirectoryEntry}
    (h : (answerAll answer s calls).1 = before ++ entry :: rest) :
    ∃ front, front.Sublist calls ∧ (answerAll answer s front).1 = before ∧
      entry.answer = (answer (answerAll answer s front).2 entry.call).1 := by
  induction before generalizing s calls with
  | nil =>
      cases calls with
      | nil => cases h
      | cons call calls =>
          obtain ⟨rfl, -⟩ := List.cons.inj h
          exact ⟨[], List.nil_sublist _, rfl, rfl⟩
  | cons first before ih =>
      cases calls with
      | nil => cases h
      | cons call calls =>
          obtain ⟨rfl, hrest⟩ := List.cons.inj h
          obtain ⟨front, hsub, hlog, hanswer⟩ := ih hrest
          refine ⟨call :: front, hsub.cons_cons call, ?_, hanswer⟩
          rw [answerAll, hlog]

theorem offered_cons (call : DirectoryCall) (rest : List DirectoryCall) :
    offered (call :: rest) = offered [call] ++ offered rest := by
  cases call <;> rfl

/-- The projects of all workspaces, each with its workspace, in the order in which they came to be. -/
abbrev Roll := List (String × Project)

theorem offered_sublist {front calls : List DirectoryCall} (h : front.Sublist calls) :
    (offered front).Sublist (offered calls) := by
  induction h with
  | slnil => exact List.Sublist.refl _
  | cons call _ ih =>
      rw [offered_cons]
      exact ih.trans (List.sublist_append_right _ _)
  | @cons_cons front calls call _ ih =>
      rw [offered_cons call front, offered_cons call calls]
      exact (List.Sublist.refl _).append ih

namespace Roll

section Lookup

variable {κ : Type} [DecidableEq κ] (key : Project → κ)

def lookUp (roll : Roll) (workspace : String) (k : κ) : Option Project :=
  (roll.find? fun entry => entry.1 == workspace && key entry.2 == k).map (·.2)

variable {key} {roll : Roll} {workspace : String} {project : Project} {k : κ}

theorem mem_of_lookUp (h : roll.lookUp key workspace k = some project) :
    (workspace, project) ∈ roll ∧ key project = k := by
  obtain ⟨entry, hfound, rfl⟩ := Option.map_eq_some_iff.mp h
  have hmatch := List.find?_some hfound
  simp only [Bool.and_eq_true, beq_iff_eq] at hmatch
  obtain ⟨rfl, rfl⟩ := hmatch
  exact ⟨List.mem_of_find?_eq_some hfound, rfl⟩

theorem ne_of_lookUp_eq_none (h : roll.lookUp key workspace k = none) {project : Project}
    (hmem : (workspace, project) ∈ roll) : key project ≠ k := by
  have hother := List.find?_eq_none.mp (Option.map_eq_none_iff.mp h) _ hmem
  simpa using hother

/-- Where no key is repeated in a workspace, looking up comes to being entered. -/
theorem lookUp_eq_some_iff (hkeys : (roll.map fun entry => (entry.1, key entry.2)).Nodup) :
    roll.lookUp key workspace k = some project ↔ (workspace, project) ∈ roll ∧ key project = k := by
  constructor
  · exact mem_of_lookUp
  · rintro ⟨hmem, rfl⟩
    cases hfound : roll.lookUp key workspace (key project) with
    | none => exact absurd rfl (ne_of_lookUp_eq_none hfound hmem)
    | some other =>
        obtain ⟨hother, hkey⟩ := mem_of_lookUp hfound
        have hsame := List.inj_on_of_nodup_map hkeys hother hmem (Prod.ext rfl hkey)
        rw [(Prod.mk.inj hsame).2]

theorem lookUp_append_singleton (roll : Roll) (workspace other : String) (project : Project) (k : κ) :
    lookUp key (roll ++ [(workspace, project)]) other k =
      (roll.lookUp key other k).or
        (if (other, k) = (workspace, key project) then some project else none) := by
  unfold lookUp
  rw [List.find?_append, Option.map_or]
  congr 1
  by_cases h : (other, k) = (workspace, key project)
  · obtain ⟨rfl, rfl⟩ := Prod.mk.inj h
    simp
  · have hother : ¬((workspace == other && key project == k) = true) := by
      simp only [Bool.and_eq_true, beq_iff_eq]
      rintro ⟨rfl, rfl⟩
      exact h rfl
    simp [h, hother]

/-- An index has the projects of a roll under one of their keys. -/
def Indexed (key : Project → κ) (roll : Roll) (m : Index (String × κ) Project) : Prop :=
  ∀ workspace k, m.get? (workspace, k) = roll.lookUp key workspace k

variable {m : Index (String × κ) Project}

/-- A project that is put under its key once more changes nothing. -/
theorem Indexed.put_known (h : Indexed key roll m)
    (hknown : roll.lookUp key workspace (key project) = some project) :
    Indexed key roll (m.put (workspace, key project) project) := by
  intro other k
  rw [Index.get?_put, h]
  by_cases hsame : (other, k) = (workspace, key project)
  · obtain ⟨rfl, rfl⟩ := Prod.mk.inj hsame
    rw [if_pos rfl, hknown]
  · rw [if_neg hsame]

theorem Indexed.put_new (h : Indexed key roll m) (project : Project)
    (hnew : roll.lookUp key workspace (key project) = none) :
    Indexed key (roll ++ [(workspace, project)]) (m.put (workspace, key project) project) := by
  intro other k
  rw [Index.get?_put, h, lookUp_append_singleton]
  by_cases hsame : (other, k) = (workspace, key project)
  · obtain ⟨rfl, rfl⟩ := Prod.mk.inj hsame
    rw [if_pos rfl, if_pos rfl, hnew, Option.none_or]
  · rw [if_neg hsame, if_neg hsame, Option.or_none]

end Lookup

def get (roll : Roll) (workspace : String) (id : ProjectId) : Except DirectoryError Project :=
  match roll.lookUp (·.id) workspace id with
  | some project => .ok project
  | none => .error (.notFound id)

/-- What a roll answers: a project that is not there by its name is entered last. -/
def answer (roll : Roll) : DirectoryCall → Except DirectoryError Project × Roll
  | .get workspace id => (roll.get workspace id, roll)
  | .getOrCreate workspace name candidate =>
      match roll.lookUp (·.name) workspace name with
      | some project => (.ok project, roll)
      | none => (.ok ⟨candidate, name⟩, roll ++ [(workspace, ⟨candidate, name⟩)])

theorem answer_known {roll : Roll} {workspace name : String} {project : Project}
    (h : roll.lookUp (·.name) workspace name = some project) (candidate : ProjectId) :
    roll.answer (.getOrCreate workspace name candidate) = (.ok project, roll) := by
  rw [answer, h]

theorem answer_new {roll : Roll} {workspace name : String}
    (h : roll.lookUp (·.name) workspace name = none) (candidate : ProjectId) :
    roll.answer (.getOrCreate workspace name candidate) =
      (.ok ⟨candidate, name⟩, roll ++ [(workspace, ⟨candidate, name⟩)]) := by
  rw [answer, h]

def ids (roll : Roll) : List ProjectId := roll.map (·.2.id)

theorem nodup_workspace_ids {roll : Roll} (h : roll.ids.Nodup) :
    (roll.map fun entry => (entry.1, entry.2.id)).Nodup := by
  refine .of_map Prod.snd ?_
  rw [List.map_map]
  exact h

theorem lookUp_id_eq_none {roll : Roll} {id : ProjectId} (h : id ∉ roll.ids) (workspace : String) :
    roll.lookUp (·.id) workspace id = none := by
  cases hfound : roll.lookUp (·.id) workspace id with
  | none => rfl
  | some project =>
      obtain ⟨hmem, rfl⟩ := mem_of_lookUp hfound
      exact absurd (List.mem_map_of_mem hmem) h

/-- What the log of a run tells of the roll after it: the projects on it are those that were answered
to calls by name, and each name of a workspace has one. -/
structure Records (roll : Roll) (log : List DirectoryEntry) : Prop where
  names : (roll.map fun entry => (entry.1, entry.2.name)).Nodup
  answered : ∀ workspace name candidate answer,
    ⟨.getOrCreate workspace name candidate, answer⟩ ∈ log →
      ∃ project, answer = .ok project ∧ project.name = name ∧ (workspace, project) ∈ roll
  entered : ∀ workspace project, (workspace, project) ∈ roll →
    ∃ candidate, ⟨.getOrCreate workspace project.name candidate, .ok project⟩ ∈ log

theorem records_nil : Records [] [] :=
  ⟨List.nodup_nil, by simp, by simp⟩

/-- The ids on a roll come from it and from the ids offered. -/
theorem ids_answer_sublist (roll : Roll) (call : DirectoryCall) :
    (roll.answer call).2.ids.Sublist (roll.ids ++ offered [call]) := by
  cases call with
  | get workspace id => exact List.sublist_append_left _ _
  | getOrCreate workspace name candidate =>
      cases hfound : roll.lookUp (·.name) workspace name with
      | none =>
          rw [answer_new hfound, ids, List.map_append]
          exact List.Sublist.refl _
      | some project =>
          rw [answer_known hfound]
          exact List.sublist_append_left _ _

/-- If no id is offered twice then none comes to be on the roll twice. -/
theorem nodup_ids_answer {roll : Roll} {call : DirectoryCall} {rest : List DirectoryCall}
    (h : (roll.ids ++ offered (call :: rest)).Nodup) :
    ((roll.answer call).2.ids ++ offered rest).Nodup := by
  rw [offered_cons, ← List.append_assoc] at h
  exact h.sublist ((ids_answer_sublist roll call).append_right (offered rest))

/-- What is entered again only adds to the log. -/
theorem Records.append {roll : Roll} {log : List DirectoryEntry} (h : roll.Records log)
    {entry : DirectoryEntry} (hentry : ∀ workspace name candidate,
      entry.call = .getOrCreate workspace name candidate →
        ∃ project, entry.answer = .ok project ∧ project.name = name ∧ (workspace, project) ∈ roll) :
    roll.Records (log ++ [entry]) where
  names := h.names
  answered workspace name candidate answer hmem := by
    rcases List.mem_append.mp hmem with hold | hnew
    · exact h.answered workspace name candidate answer hold
    · obtain rfl := List.mem_singleton.mp hnew
      exact hentry workspace name candidate rfl
  entered workspace project hmem := by
    obtain ⟨candidate, hold⟩ := h.entered workspace project hmem
    exact ⟨candidate, List.mem_append_left _ hold⟩

theorem Records.enter {roll : Roll} {log : List DirectoryEntry} (h : roll.Records log)
    {workspace name : String} (hnew : roll.lookUp (·.name) workspace name = none)
    (candidate : ProjectId) :
    Records (roll ++ [(workspace, ⟨candidate, name⟩)])
      (log ++ [⟨.getOrCreate workspace name candidate, .ok ⟨candidate, name⟩⟩]) where
  names := by
    rw [List.map_append, List.nodup_append]
    refine ⟨h.names, List.nodup_singleton _, ?_⟩
    rintro key hkey _ hlast rfl
    obtain ⟨entry, hentry, hsame⟩ := List.mem_map.mp hkey
    obtain ⟨rfl, rfl⟩ := Prod.mk.inj (hsame.trans (List.mem_singleton.mp hlast))
    exact ne_of_lookUp_eq_none hnew hentry rfl
  answered other name' candidate' answer hmem := by
    rcases List.mem_append.mp hmem with hold | hlast
    · obtain ⟨project, hok, hname, hentered⟩ := h.answered other name' candidate' answer hold
      exact ⟨project, hok, hname, List.mem_append_left _ hentered⟩
    · cases List.mem_singleton.mp hlast
      exact ⟨_, rfl, rfl, List.mem_append_right _ List.mem_cons_self⟩
  entered other project hmem := by
    rcases List.mem_append.mp hmem with hold | hlast
    · obtain ⟨candidate', hentry⟩ := h.entered other project hold
      exact ⟨candidate', List.mem_append_left _ hentry⟩
    · cases List.mem_singleton.mp hlast
      exact ⟨candidate, List.mem_append_right _ List.mem_cons_self⟩

theorem Records.answer {roll : Roll} {log : List DirectoryEntry} (h : roll.Records log)
    (call : DirectoryCall) :
    (roll.answer call).2.Records (log ++ [⟨call, (roll.answer call).1⟩]) := by
  cases call with
  | get workspace id =>
      refine h.append ?_
      intro workspace name candidate hcall
      cases hcall
  | getOrCreate workspace name candidate =>
      cases hfound : roll.lookUp (·.name) workspace name with
      | none =>
          rw [answer_new hfound]
          exact h.enter hfound candidate
      | some project =>
          rw [answer_known hfound]
          refine h.append ?_
          intro workspace name candidate hcall
          cases hcall
          obtain ⟨hmem, hname⟩ := mem_of_lookUp hfound
          exact ⟨project, rfl, hname, hmem⟩

/-- What a run of a roll keeps. -/
theorem Records.answerAll {roll : Roll} {log : List DirectoryEntry} (h : roll.Records log)
    (calls : List DirectoryCall) :
    (answerAll Roll.answer roll calls).2.Records (log ++ (answerAll Roll.answer roll calls).1) := by
  induction calls generalizing roll log with
  | nil =>
      rw [ConfigTimeline.answerAll, List.append_nil]
      exact h
  | cons call rest ih =>
      have hrest := ih (h.answer call)
      rw [List.append_assoc] at hrest
      exact hrest

theorem nodup_ids_answerAll {roll : Roll} {calls : List DirectoryCall}
    (h : (roll.ids ++ offered calls).Nodup) : (answerAll Roll.answer roll calls).2.ids.Nodup := by
  induction calls generalizing roll with
  | nil => exact h.of_append_left
  | cons call rest ih => exact ih (nodup_ids_answer h)

/-- A lookup by id finds what has been answered to a call by name. -/
theorem Records.get_eq_ok_iff {roll : Roll} {log : List DirectoryEntry} (h : roll.Records log)
    (hids : roll.ids.Nodup) (workspace : String) (id : ProjectId) (project : Project) :
    roll.get workspace id = .ok project ↔ project.id = id ∧
      ∃ name candidate, ⟨.getOrCreate workspace name candidate, .ok project⟩ ∈ log := by
  have hget : roll.get workspace id = .ok project ↔
      roll.lookUp (·.id) workspace id = some project := by
    unfold get
    cases roll.lookUp (·.id) workspace id <;> simp
  rw [hget, lookUp_eq_some_iff (nodup_workspace_ids hids)]
  constructor
  · rintro ⟨hmem, hid⟩
    obtain ⟨candidate, hentry⟩ := h.entered workspace project hmem
    exact ⟨hid, project.name, candidate, hentry⟩
  · rintro ⟨hid, name, candidate, hentry⟩
    obtain ⟨other, hsame, -, hmem⟩ := h.answered workspace name candidate _ hentry
    obtain rfl := Except.ok.inj hsame
    exact ⟨hmem, hid⟩

theorem get_eq_notFound_iff (roll : Roll) (workspace : String) (id : ProjectId) :
    roll.get workspace id = .error (.notFound id) ↔ ∀ project, roll.get workspace id ≠ .ok project := by
  unfold get
  cases roll.lookUp (·.id) workspace id <;> simp

/-- Two calls by name are answered with one project, or with projects of different ids. -/
theorem Records.same_or_apart {roll : Roll} {log : List DirectoryEntry} (h : roll.Records log)
    (hids : roll.ids.Nodup) {workspace name workspace' name' : String}
    {candidate candidate' : ProjectId} {project project' : Project}
    (hentry : ⟨.getOrCreate workspace name candidate, .ok project⟩ ∈ log)
    (hentry' : ⟨.getOrCreate workspace' name' candidate', .ok project'⟩ ∈ log) :
    (workspace = workspace' ∧ name = name' → project = project') ∧
      (project.id = project'.id → workspace = workspace' ∧ name = name') := by
  obtain ⟨_, hok, rfl, hmem⟩ := h.answered _ _ _ _ hentry
  obtain ⟨_, hok', rfl, hmem'⟩ := h.answered _ _ _ _ hentry'
  obtain rfl := Except.ok.inj hok
  obtain rfl := Except.ok.inj hok'
  constructor
  · rintro ⟨rfl, hname⟩
    have hsame := List.inj_on_of_nodup_map h.names hmem hmem' (Prod.ext rfl hname)
    exact (Prod.mk.inj hsame).2
  · intro hid
    have hsame := List.inj_on_of_nodup_map hids hmem hmem' hid
    obtain ⟨rfl, rfl⟩ := Prod.mk.inj hsame
    exact ⟨rfl, rfl⟩

end Roll

/-! ## Other ids -/

section Renaming

variable (σ : ProjectId → ProjectId)

def Project.renamed (project : Project) : Project := { project with id := σ project.id }

def DirectoryCall.renamed : DirectoryCall → DirectoryCall
  | .get workspace id => .get workspace (σ id)
  | .getOrCreate workspace name candidate => .getOrCreate workspace name (σ candidate)

/-- An answer with the ids exchanged, those in errors included. -/
def renamedAnswer : Except DirectoryError Project → Except DirectoryError Project
  | .ok project => .ok (project.renamed σ)
  | .error (.notFound id) => .error (.notFound (σ id))
  | .error (.unavailable reason) => .error (.unavailable reason)

def DirectoryEntry.renamed (entry : DirectoryEntry) : DirectoryEntry :=
  ⟨entry.call.renamed σ, renamedAnswer σ entry.answer⟩

theorem offered_map_renamed (calls : List DirectoryCall) :
    offered (calls.map (·.renamed σ)) = (offered calls).map σ := by
  induction calls with
  | nil => rfl
  | cons call rest ih =>
      rw [List.map_cons, offered_cons, ih, offered_cons call rest, List.map_append]
      cases call <;> rfl

namespace Roll

def renamed (roll : Roll) : Roll := roll.map fun entry => (entry.1, entry.2.renamed σ)

variable {σ}

theorem lookUp_renamed {κ : Type} [DecidableEq κ] {key : Project → κ} {k k' : κ}
    (h : ∀ project : Project, key (project.renamed σ) = k' ↔ key project = k) (roll : Roll)
    (workspace : String) :
    (roll.renamed σ).lookUp key workspace k' =
      (roll.lookUp key workspace k).map (·.renamed σ) := by
  have htest : (fun entry : String × Project => entry.1 == workspace && key entry.2 == k') ∘
      (fun entry : String × Project => (entry.1, entry.2.renamed σ)) =
      fun entry : String × Project => entry.1 == workspace && key entry.2 == k := by
    funext entry
    rw [Bool.eq_iff_iff]
    simp [h]
  rw [renamed, lookUp, lookUp, List.find?_map, htest, Option.map_map, Option.map_map]
  rfl

/-- A roll with other ids answers with other ids, as long as ids that differ stay apart. -/
theorem answer_renamed (hσ : Function.Injective σ) (roll : Roll) (call : DirectoryCall) :
    (roll.renamed σ).answer (call.renamed σ) =
      (renamedAnswer σ (roll.answer call).1, (roll.answer call).2.renamed σ) := by
  cases call with
  | get workspace id =>
      have hlook : (roll.renamed σ).lookUp (·.id) workspace (σ id) =
          (roll.lookUp (·.id) workspace id).map (·.renamed σ) :=
        lookUp_renamed (fun project => hσ.eq_iff) roll workspace
      unfold DirectoryCall.renamed answer get
      dsimp only
      rw [hlook]
      cases roll.lookUp (·.id) workspace id <;> rfl
  | getOrCreate workspace name candidate =>
      have hlook : (roll.renamed σ).lookUp (·.name) workspace name =
          (roll.lookUp (·.name) workspace name).map (·.renamed σ) :=
        lookUp_renamed (fun project => Iff.rfl) roll workspace
      unfold DirectoryCall.renamed
      dsimp only
      cases hfound : roll.lookUp (·.name) workspace name with
      | none =>
          rw [hfound] at hlook
          rw [answer_new hlook, answer_new hfound, renamed, renamed, List.map_append]
          rfl
      | some project =>
          rw [hfound] at hlook
          rw [answer_known hlook, answer_known hfound]
          rfl

theorem answerAll_renamed (hσ : Function.Injective σ) (roll : Roll) (calls : List DirectoryCall) :
    (answerAll Roll.answer (roll.renamed σ) (calls.map (·.renamed σ))).1 =
      (answerAll Roll.answer roll calls).1.map (·.renamed σ) := by
  induction calls generalizing roll with
  | nil => rfl
  | cons call rest ih =>
      have hrest := ih (roll.answer call).2
      rw [List.map_cons, answerAll, answerAll, answer_renamed hσ]
      dsimp only
      rw [hrest]
      rfl

end Roll

/-- Ids can be exchanged so that as many others take the places of given ones. -/
theorem exists_perm_map_eq {ids others : List ProjectId} (hids : ids.Nodup) (hothers : others.Nodup)
    (hlength : others.length = ids.length) : ∃ σ : Equiv.Perm ProjectId, ids.map σ = others := by
  obtain ⟨σ, hσ⟩ := Equiv.Perm.exists_extending_pair (fun i : Fin ids.length => ids.get i)
    (fun i : Fin ids.length => others.get (i.cast hlength.symm)) hids.injective_get
    (hothers.injective_get.comp (Fin.cast_injective hlength.symm))
  refine ⟨σ, List.ext_getElem (by rw [List.length_map, hlength]) fun i hi hi' => ?_⟩
  rw [List.getElem_map]
  exact hσ ⟨i, hlength ▸ hi'⟩

end Renaming

end ConfigTimeline
