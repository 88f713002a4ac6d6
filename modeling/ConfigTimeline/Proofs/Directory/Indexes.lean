import Mathlib.Data.List.Induction
import ConfigTimeline.Directory.Basic

/-!
The two indexes of a directory in memory. A project that is inserted takes its name in the index by name
from the project that had it, and the other one stays in the index by id. So the name of a project that
is found by its id gives the project last inserted under the name, and the project itself only if there
is none. As long as nothing is inserted under the name of a project with another id, the indexes agree.
-/

namespace ConfigTimeline

/-- A step that changes a directory in memory. -/
inductive Registration
  | insert (workspace : String) (project : Project)
  | getOrCreate (workspace name : String) (candidate : ProjectId)

namespace Registration

/-- The project that a step inserts under a name of a workspace. -/
def inserted (key : String × String) : Registration → Option Project
  | .insert workspace project => if key = (workspace, project.name) then some project else none
  | .getOrCreate _ _ _ => none

def lastInserted (steps : List Registration) (key : String × String) : Option Project :=
  (steps.filterMap (inserted key)).getLast?

theorem lastInserted_concat (steps : List Registration) (step : Registration)
    (key : String × String) :
    lastInserted (steps ++ [step]) key = (step.inserted key).or (lastInserted steps key) := by
  unfold lastInserted
  rw [List.filterMap_append, List.getLast?_append]
  cases h : step.inserted key with
  | none => rw [List.filterMap_cons_none h]; rfl
  | some project => rw [List.filterMap_cons_some h]; rfl

end Registration

/-- Every project of an index is under its own key in some workspace. -/
def Index.Filed {κ : Type} [DecidableEq κ] (key : Project → κ) (m : Index (String × κ) Project) :
    Prop :=
  ∀ workspace k project, m.get? (workspace, k) = some project → key project = k

theorem Index.Filed.put {κ : Type} [DecidableEq κ] {key : Project → κ}
    {m : Index (String × κ) Project} (h : m.Filed key) (workspace : String) (project : Project) :
    (m.put (workspace, key project) project).Filed key := by
  intro other k p hp
  rw [Index.get?_put] at hp
  split at hp
  · rename_i hkey
    cases hkey
    rw [← Option.some.inj hp]
  · exact h other k p hp

namespace MemoryDirectory

def register (d : MemoryDirectory) : Registration → MemoryDirectory
  | .insert workspace project => d.insert workspace project
  | .getOrCreate workspace name candidate => (d.getOrCreate workspace name candidate).2

def registered (steps : List Registration) : MemoryDirectory := steps.foldl register .empty

/-- A project found by id is the one that its name gives, so that no other one has the name. -/
structure Agrees (d : MemoryDirectory) : Prop where
  by_name : ∀ workspace id project, d.get workspace id = .ok project →
    ∀ candidate, (d.getOrCreate workspace project.name candidate).1 = project
  apart : ∀ workspace id id' project project', d.get workspace id = .ok project →
    d.get workspace id' = .ok project' → project.name = project'.name → project = project'

/-- A step inserts no project under the name of one that is found by another id. -/
def Admits (d : MemoryDirectory) : Registration → Prop
  | .insert workspace project => ∀ id other, d.get workspace id = .ok other →
      other.name = project.name → id = project.id
  | .getOrCreate _ _ _ => True

def AdmitsAll (d : MemoryDirectory) : List Registration → Prop
  | [] => True
  | step :: rest => d.Admits step ∧ (d.register step).AdmitsAll rest

theorem get_eq_ok_iff (d : MemoryDirectory) (workspace : String) (id : ProjectId)
    (project : Project) :
    d.get workspace id = .ok project ↔ d.byId.get? (workspace, id) = some project := by
  unfold get
  cases d.byId.get? (workspace, id) <;> simp

/-- What names give: the project that has taken a name, and where none has, the project of that name
that is found by id. -/
structure Follows (taker : String × String → Option Project) (d : MemoryDirectory) : Prop where
  names : d.byName.Filed (·.name)
  ids : d.byId.Filed (·.id)
  taken : ∀ key project, taker key = some project → d.byName.get? key = some project
  found : ∀ workspace id project, d.get workspace id = .ok project →
    d.byName.get? (workspace, project.name) =
      some ((taker (workspace, project.name)).getD project)

variable {taker taker' : String × String → Option Project} {d : MemoryDirectory}

theorem follows_empty : Follows (fun _ => none) empty where
  names _ _ _ h := nomatch h
  ids _ _ _ h := nomatch h
  taken _ _ h := nomatch h
  found _ _ _ h := nomatch h

theorem Follows.getOrCreate_eq (h : Follows taker d) {workspace : String} {id : ProjectId}
    {project : Project} (hfound : d.get workspace id = .ok project) (candidate : ProjectId) :
    (d.getOrCreate workspace project.name candidate).1 =
      (taker (workspace, project.name)).getD project := by
  unfold getOrCreate
  rw [h.found workspace id project hfound, Option.getD_some]

theorem Follows.agrees (h : Follows (fun _ => none) d) : d.Agrees where
  by_name _ _ _ hfound candidate := h.getOrCreate_eq hfound candidate
  apart workspace id id' project project' hfound hfound' hname := by
    have hproject := h.found workspace id project hfound
    rw [hname, h.found workspace id' project' hfound'] at hproject
    exact (Option.some.inj hproject).symm

/-- A project may be put into both indexes if no other one has taken its name, and it has taken the name
from any that has it under another id. -/
theorem Follows.insert (h : Follows taker d) {workspace : String} {project : Project}
    (hother : ∀ key, key ≠ (workspace, project.name) → taker' key = taker key)
    (hown : ∀ p, taker' (workspace, project.name) = some p → p = project)
    (hrest : ∀ id p, d.get workspace id = .ok p → id ≠ project.id → p.name = project.name →
      (taker' (workspace, project.name)).getD p = project) :
    Follows taker' (d.insert workspace project) where
  names := h.names.put workspace project
  ids := h.ids.put workspace project
  taken key p hp := by
    rw [MemoryDirectory.insert, Index.get?_put]
    split
    · rename_i hkey
      rw [hown p (hkey ▸ hp)]
    · rename_i hkey
      exact h.taken key p (hother key hkey ▸ hp)
  found other id p hp := by
    rw [get_insert] at hp
    rw [MemoryDirectory.insert, Index.get?_put]
    split at hp
    · rename_i hkey
      obtain ⟨rfl, rfl⟩ := hkey
      obtain rfl := Except.ok.inj hp
      rw [if_pos rfl]
      cases hcase : taker' (other, project.name) with
      | none => rfl
      | some q => rw [hown q hcase, Option.getD_some]
    · rename_i hid
      split
      · rename_i hkey
        obtain ⟨rfl, hname⟩ := Prod.mk.inj hkey
        rw [hname, hrest id p hp (fun hsame => hid ⟨rfl, hsame⟩) hname]
      · rename_i hkey
        rw [hother _ hkey]
        exact h.found other id p hp

/-- A call by name puts a project where it is, or under a name that no project has. -/
theorem Follows.getOrCreate (h : Follows taker d) (workspace name : String)
    (candidate : ProjectId) :
    Follows taker (d.getOrCreate workspace name candidate).2 := by
  change Follows taker
    (d.insert workspace ((d.byName.get? (workspace, name)).getD ⟨candidate, name⟩))
  have hgiven : ∀ id p, d.get workspace id = .ok p → p.name = name →
      d.byName.get? (workspace, name) = some ((taker (workspace, name)).getD p) := by
    rintro id p hp rfl
    exact h.found workspace id p hp
  cases hname : d.byName.get? (workspace, name) with
  | none =>
      have hfree : taker (workspace, name) = none := by
        cases hcase : taker (workspace, name) with
        | none => rfl
        | some q => exact nomatch hname.symm.trans (h.taken _ q hcase)
      refine h.insert (fun _ _ => rfl) (fun p hp => nomatch hfree.symm.trans hp) ?_
      intro id p hp _ hsame
      exact nomatch hname.symm.trans (hgiven id p hp hsame)
  | some project =>
      obtain rfl := h.names workspace name project hname
      refine h.insert (fun _ _ => rfl) (fun p hp => ?_) fun id p hp _ hsame => ?_
      · exact Option.some.inj ((h.taken _ p hp).symm.trans hname)
      · exact Option.some.inj ((hgiven id p hp hsame).symm.trans hname)

/-- After any steps it is the projects last inserted that have taken their names. -/
theorem follows_registered (steps : List Registration) :
    Follows (Registration.lastInserted steps) (registered steps) := by
  induction steps using List.reverseRecOn with
  | nil => exact follows_empty
  | append_singleton steps step ih =>
      have hlast := Registration.lastInserted_concat steps step
      unfold registered
      rw [List.foldl_append]
      cases step with
      | insert workspace project =>
          have hnew : Registration.lastInserted (steps ++ [.insert workspace project])
              (workspace, project.name) = some project := by
            rw [hlast, Registration.inserted, if_pos rfl, Option.some_or]
          refine ih.insert (fun key hkey => ?_) (fun p hp => ?_) fun id p _ _ _ => ?_
          · rw [hlast, Registration.inserted, if_neg hkey, Option.none_or]
          · exact Option.some.inj (hp.symm.trans hnew)
          · rw [hnew, Option.getD_some]
      | getOrCreate workspace name candidate =>
          rw [show Registration.lastInserted (steps ++ [.getOrCreate workspace name candidate]) =
            Registration.lastInserted steps from funext hlast]
          exact ih.getOrCreate workspace name candidate

theorem Follows.register_of_admits (h : Follows (fun _ => none) d) {step : Registration}
    (hstep : d.Admits step) : Follows (fun _ => none) (d.register step) := by
  cases step with
  | insert workspace project =>
      refine h.insert (fun _ _ => rfl) (fun _ hp => nomatch hp) fun id p hp hid hname => ?_
      exact absurd (hstep id p hp hname) hid
  | getOrCreate workspace name candidate => exact h.getOrCreate workspace name candidate

/-- Where a project is inserted under the name of another id, that one stays, and the two share it. -/
theorem Follows.admits_of_agrees (h : Follows taker d) {step : Registration}
    (hagrees : (d.register step).Agrees) : d.Admits step := by
  cases step with
  | getOrCreate workspace name candidate => exact trivial
  | insert workspace project =>
      intro id other hother hname
      by_contra hid
      have hkept : (d.insert workspace project).get workspace id = .ok other := by
        rw [get_insert, if_neg fun hkey => hid hkey.2, hother]
      have hnew : (d.insert workspace project).get workspace project.id = .ok project := by
        rw [get_insert, if_pos ⟨rfl, rfl⟩]
      have hsame : other = project := hagrees.apart _ _ _ _ _ hkept hnew hname
      exact hid (hsame ▸ (h.ids workspace id other ((get_eq_ok_iff d _ _ _).mp hother)).symm)

/-- From a directory where no name is taken, the indexes agree all along the steps just if each step is
admitted where it is made. -/
theorem Follows.admitsAll_iff (h : Follows (fun _ => none) d) (steps : List Registration) :
    d.AdmitsAll steps ↔ ∀ before, before <+: steps → (before.foldl register d).Agrees := by
  induction steps generalizing d with
  | nil =>
      refine ⟨fun _ before hbefore => ?_, fun _ => trivial⟩
      rw [List.prefix_nil.mp hbefore]
      exact h.agrees
  | cons step rest ih =>
      constructor
      · rintro ⟨hstep, hrest⟩ before hbefore
        rcases List.prefix_cons_iff.mp hbefore with rfl | ⟨before, rfl, hbefore⟩
        · exact h.agrees
        · exact (ih (h.register_of_admits hstep)).mp hrest before (List.cons_prefix_cons.mp hbefore).2
      · intro hall
        have hstep : d.Admits step :=
          h.admits_of_agrees (hall [step] (List.cons_prefix_cons.mpr ⟨rfl, List.nil_prefix⟩))
        refine ⟨hstep, (ih (h.register_of_admits hstep)).mpr fun before hbefore => ?_⟩
        exact hall (step :: before) (List.cons_prefix_cons.mpr ⟨rfl, hbefore⟩)

/-- After any steps a project found by id has that id, and its name gives the project last inserted
under the name, or the project itself if there is none. The indexes agree all along the steps just if
none of them inserts a project under the name of one that has another id. -/
theorem registered_agrees (steps : List Registration) :
    (∀ workspace id project, (registered steps).get workspace id = .ok project →
      project.id = id ∧
        ∀ candidate, ((registered steps).getOrCreate workspace project.name candidate).1 =
          (Registration.lastInserted steps (workspace, project.name)).getD project) ∧
    (empty.AdmitsAll steps ↔ ∀ before, before <+: steps → (registered before).Agrees) := by
  have h := follows_registered steps
  refine ⟨fun workspace id project hfound => ⟨?_, h.getOrCreate_eq hfound⟩, ?_⟩
  · exact h.ids workspace id project ((get_eq_ok_iff _ _ _ _).mp hfound)
  · exact follows_empty.admitsAll_iff steps

/-- An id under two names, the first of which is then asked for again. -/
theorem registered_agrees_renamed :
    let steps : List Registration :=
      [.insert "w" ⟨.ofNat 1, "a"⟩, .insert "w" ⟨.ofNat 1, "b"⟩, .getOrCreate "w" "a" (.ofNat 2)]
    (registered steps).get "w" (.ofNat 1) = .ok ⟨.ofNat 1, "a"⟩ ∧
      (∀ candidate, ((registered steps).getOrCreate "w" "a" candidate).1 = ⟨.ofNat 1, "a"⟩) ∧
      empty.AdmitsAll steps ∧ (registered steps).Agrees := by
  intro steps
  have hfound : (registered steps).get "w" (.ofNat 1) = .ok ⟨.ofNat 1, "a"⟩ := by decide +kernel
  have hsteps : empty.AdmitsAll steps := by
    refine ⟨fun _ _ hother => (nomatch hother), fun id other hother _ => ?_, trivial, trivial⟩
    rw [register, get_insert] at hother
    split at hother
    · rename_i hkey
      exact hkey.2
    · cases hother
  obtain ⟨hname, hagrees⟩ := registered_agrees steps
  exact ⟨hfound, (hname _ _ _ hfound).2, hsteps, hagrees.mp hsteps steps List.prefix_rfl⟩

/-- Two projects inserted under one name: the first one is still found by its id, and its name gives the
second one. -/
theorem two_inserted_under_a_name :
    let steps : List Registration :=
      [.insert "ws" ⟨.ofNat 1, "bot"⟩, .insert "ws" ⟨.ofNat 2, "bot"⟩]
    (registered steps).get "ws" (.ofNat 1) = .ok ⟨.ofNat 1, "bot"⟩ ∧
      (registered steps).get "ws" (.ofNat 2) = .ok ⟨.ofNat 2, "bot"⟩ ∧
      ∀ candidate, ((registered steps).getOrCreate "ws" "bot" candidate).1 = ⟨.ofNat 2, "bot"⟩ := by
  exact ⟨by decide +kernel, by decide +kernel, fun _ => rfl⟩

end MemoryDirectory

end ConfigTimeline
