import Mathlib.Data.List.Nodup
import ConfigTimeline.Proofs.Store.Constraints

/-!
Pointing pins elsewhere. The pin to move is looked for from the front and moved where it stands; since
an environment of a project has one pin at most, this moves every pin of the environment, and of all
others none.
-/

namespace ConfigTimeline.Memory

def pinsEnv (workspace : String) (project : ProjectId) (env : String) (row : Scoped Pin) : Bool :=
  row.workspace == workspace && row.record.project == project && row.record.env == env

theorem pinsEnv_iff {workspace env : String} {project : ProjectId} {row : Scoped Pin} :
    pinsEnv workspace project env row = true ↔ row.envPlace = (workspace, project, env) := by
  simp [pinsEnv, Scoped.envPlace, and_assoc]

theorem countP_pinsEnv (workspace env : String) (project : ProjectId) (pins : List (Scoped Pin)) :
    pins.countP (pinsEnv workspace project env) =
      (pins.map Scoped.envPlace).count (workspace, project, env) := by
  rw [List.count_eq_countP, List.countP_map]
  apply List.countP_congr
  intro row _
  rw [pinsEnv_iff, Function.comp_apply, beq_iff_eq]

theorem modify_eq_map {α : Type} {rows : List α} {hit : α → Bool} {i : Nat}
    (hhit : ∀ j row, rows[j]? = some row → (hit row = true ↔ j = i)) (f : α → α) :
    rows.modify i f = rows.map fun row => if hit row then f row else row := by
  apply List.ext_getElem?
  intro j
  rw [List.getElem?_modify, List.getElem?_map]
  cases hj : rows[j]? with
  | none => rfl
  | some row =>
      have hrow := hhit j row hj
      by_cases hij : i = j
      · simp [hij, hrow.mpr hij.symm]
      · have hmiss : hit row ≠ true := fun h => hij (hrow.mp h).symm
        simp [hij, hmiss]

def movedPins (workspace : String) (project : ProjectId) (user : String) (now : Instant)
    (target : PinTarget) (pins : List (Scoped Pin)) : List (Scoped Pin) :=
  pins.map fun row =>
    if pinsEnv workspace project target.env row then
      { row with record := Work.moved user now target.blueprint row.record }
    else row

theorem map_envPlace_movedPins (workspace : String) (project : ProjectId) (user : String)
    (now : Instant) (target : PinTarget) (pins : List (Scoped Pin)) :
    (movedPins workspace project user now target pins).map Scoped.envPlace =
      pins.map Scoped.envPlace := by
  rw [movedPins, List.map_map]
  apply List.map_congr_left
  intro row _
  rw [Function.comp_apply]
  split <;> rfl

theorem updatePin_eq {work : Work} (h : (work.tables.pins.map Scoped.envPlace).Nodup)
    (workspace : String) (project : ProjectId) (user : String) (now : Instant)
    (target : PinTarget) :
    (if (work.updatePin workspace project user now target).1 then 1 else 0) =
        work.tables.pins.countP (pinsEnv workspace project target.env) ∧
      (work.updatePin workspace project user now target).2.tables =
        { work.tables with
          pins := movedPins workspace project user now target work.tables.pins } := by
  unfold Work.updatePin
  split
  · rename_i hnone
    have hmiss : ∀ row ∈ work.tables.pins, pinsEnv workspace project target.env row = false := by
      intro row hmem
      obtain ⟨i, hi⟩ := List.mem_iff_getElem?.mp hmem
      have := List.find?_eq_none.mp hnone (row, i) (List.mem_zipIdx_iff_getElem?.mpr hi)
      simpa [pinsEnv] using this
    constructor
    · rw [List.countP_eq_zero.mpr]
      · rfl
      · intro row hmem
        simp [hmiss row hmem]
    · have hsame : movedPins workspace project user now target work.tables.pins =
          work.tables.pins := by
        refine (List.map_congr_left ?_).trans (List.map_id' _)
        intro row hmem
        simp [hmiss row hmem]
      rw [hsame]
  · rename_i row index hfind
    have hindex : work.tables.pins[index]? = some row :=
      List.mem_zipIdx_iff_getElem?.mp (List.mem_of_find?_eq_some hfind)
    have hrow : pinsEnv workspace project target.env row = true := by
      simpa [pinsEnv] using List.find?_some hfind
    have hplace : (workspace, project, target.env) ∈ work.tables.pins.map Scoped.envPlace := by
      rw [← pinsEnv_iff.mp hrow]
      exact List.mem_map_of_mem (List.mem_of_getElem? hindex)
    constructor
    · rw [countP_pinsEnv, List.count_eq_one_of_mem h hplace]
      rfl
    · have honly : ∀ j r, work.tables.pins[j]? = some r →
          (pinsEnv workspace project target.env r = true ↔ j = index) := by
        intro j r hj
        constructor
        · intro hr
          have hlt : j < (work.tables.pins.map Scoped.envPlace).length := by
            rw [List.length_map]
            exact (List.getElem?_eq_some_iff.mp hj).1
          refine (List.getElem?_inj hlt h).mp ?_
          rw [List.getElem?_map, List.getElem?_map, hj, hindex, Option.map_some, Option.map_some,
            pinsEnv_iff.mp hr, pinsEnv_iff.mp hrow]
        · rintro rfl
          rw [hindex, Option.some.injEq] at hj
          exact hj ▸ hrow
      rw [movedPins, ← modify_eq_map honly]

/-- A row of pins, pointed at the target of its environment if there is one. -/
def repointed (workspace : String) (project : ProjectId) (user : String) (now : Instant)
    (targets : List PinTarget) (row : Scoped Pin) : Scoped Pin :=
  match targets.find? fun target => pinsEnv workspace project target.env row with
  | some target => { row with record := Work.moved user now target.blueprint row.record }
  | none => row

section Repointed

variable {workspace user : String} {project : ProjectId} {now : Instant}
  {targets rest : List PinTarget} {target : PinTarget} {row : Scoped Pin}

theorem repointed_of_find (h : targets.find? (fun target => pinsEnv workspace project target.env row) =
    some target) :
    repointed workspace project user now targets row =
      { row with record := Work.moved user now target.blueprint row.record } := by
  unfold repointed
  rw [h]

theorem repointed_of_forall
    (h : ∀ target ∈ targets, pinsEnv workspace project target.env row = false) :
    repointed workspace project user now targets row = row := by
  have hnone : targets.find? (fun target => pinsEnv workspace project target.env row) = none := by
    rw [List.find?_eq_none]
    intro target htarget
    rw [h target htarget]
    exact Bool.false_ne_true
  unfold repointed
  rw [hnone]

/-- A row is pointed elsewhere or left alone. -/
theorem repointed_cases (workspace : String) (project : ProjectId) (user : String) (now : Instant)
    (targets : List PinTarget) (row : Scoped Pin) :
    (∃ target ∈ targets, row.envPlace = (workspace, project, target.env) ∧
      repointed workspace project user now targets row =
        { row with record := Work.moved user now target.blueprint row.record }) ∨
    (∀ target ∈ targets, row.envPlace ≠ (workspace, project, target.env)) ∧
      repointed workspace project user now targets row = row := by
  cases hfind : targets.find? (fun target => pinsEnv workspace project target.env row) with
  | some target =>
      have hhit := List.find?_some hfind
      exact Or.inl ⟨target, List.mem_of_find?_eq_some hfind, pinsEnv_iff.mp hhit,
        repointed_of_find hfind⟩
  | none =>
      have hmiss : ∀ target ∈ targets, row.envPlace ≠ (workspace, project, target.env) := by
        intro target htarget hplace
        exact List.find?_eq_none.mp hfind target htarget (pinsEnv_iff.mpr hplace)
      refine Or.inr ⟨hmiss, repointed_of_forall ?_⟩
      intro target htarget
      rw [Bool.eq_false_iff, ne_eq, pinsEnv_iff]
      exact hmiss target htarget

theorem envPlace_repointed (workspace : String) (project : ProjectId) (user : String)
    (now : Instant) (targets : List PinTarget) (row : Scoped Pin) :
    (repointed workspace project user now targets row).envPlace = row.envPlace := by
  unfold repointed
  split <;> rfl

/-- Pointing one row after another comes to the same as pointing all of them at once. -/
theorem repointed_movedPins (hother : target.env ∉ rest.map (·.env)) (pins : List (Scoped Pin)) :
    (movedPins workspace project user now target pins).map
        (repointed workspace project user now rest) =
      pins.map (repointed workspace project user now (target :: rest)) := by
  rw [movedPins, List.map_map]
  apply List.map_congr_left
  intro row _
  rw [Function.comp_apply]
  by_cases hhit : pinsEnv workspace project target.env row = true
  · rw [if_pos hhit, repointed_of_find (List.find?_cons_of_pos hhit)]
    apply repointed_of_forall
    intro later hlater
    rw [Bool.eq_false_iff, ne_eq, pinsEnv_iff]
    intro hplace
    have hsame : (workspace, project, target.env) = (workspace, project, later.env) :=
      (pinsEnv_iff.mp hhit).symm.trans hplace
    simp only [Prod.mk.injEq, true_and] at hsame
    exact hother (hsame ▸ List.mem_map_of_mem hlater)
  · have hnext : (target :: rest).find? (fun target => pinsEnv workspace project target.env row) =
        rest.find? fun target => pinsEnv workspace project target.env row :=
      List.find?_cons_of_neg hhit
    rw [if_neg hhit]
    unfold repointed
    rw [hnext]

theorem updatePins_cons (target : PinTarget) (rest : List PinTarget) (work : Work) :
    Work.updatePins workspace project user now (target :: rest) work =
      let first := work.updatePin workspace project user now target
      let after := Work.updatePins workspace project user now rest first.2
      ((if first.1 then 1 else 0) + after.1, after.2) :=
  rfl

/-- Targets of distinct environments that have pins are all counted, and each pin points at the target
of its environment. -/
theorem updatePins_eq (hnames : (targets.map (·.env)).Nodup) {work : Work}
    (hplaces : (work.tables.pins.map Scoped.envPlace).Nodup)
    (hstored : ∀ target ∈ targets,
      (workspace, project, target.env) ∈ work.tables.pins.map Scoped.envPlace) :
    (Work.updatePins workspace project user now targets work).1 = targets.length ∧
      (Work.updatePins workspace project user now targets work).2.tables =
        { work.tables with
          pins := work.tables.pins.map (repointed workspace project user now targets) } := by
  induction targets generalizing work with
  | nil =>
      have hsame : work.tables.pins.map (repointed workspace project user now []) =
          work.tables.pins :=
        (List.map_congr_left fun row _ => repointed_of_forall (List.forall_mem_nil _)).trans
          (List.map_id' _)
      rw [hsame]
      exact ⟨rfl, rfl⟩
  | cons target rest ih =>
      rw [List.map_cons, List.nodup_cons] at hnames
      obtain ⟨hfirst, hrest⟩ := List.forall_mem_cons.mp hstored
      obtain ⟨hcount, htables⟩ :=
        updatePin_eq hplaces workspace project user now target
      rw [countP_pinsEnv, List.count_eq_one_of_mem hplaces hfirst] at hcount
      have hkept : (work.updatePin workspace project user now target).2.tables.pins.map
          Scoped.envPlace = work.tables.pins.map Scoped.envPlace := by
        rw [htables]
        exact map_envPlace_movedPins workspace project user now target work.tables.pins
      obtain ⟨hcountRest, htablesRest⟩ :=
        ih hnames.2 (hkept.symm ▸ hplaces) (fun later hlater => hkept.symm ▸ hrest later hlater)
      rw [updatePins_cons]
      constructor
      · dsimp only
        rw [hcount, hcountRest, List.length_cons, Nat.add_comm]
      · dsimp only
        rw [htablesRest, htables]
        dsimp only
        rw [repointed_movedPins hnames.1]

end Repointed

end ConfigTimeline.Memory
