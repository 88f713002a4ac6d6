import Mathlib.Data.List.Forall2
import Mathlib.Data.List.Perm.Basic
import ConfigTimeline.Proofs.Store.Cells
import ConfigTimeline.Proofs.Store.Constraints

/-!
Tables of text cells that stand for tables of records: row by row, each the text of its record. A
query selects the same rows of both, since texts are equal when what they were written for is, and
stand in the same order. Hence it has the same answer on both, as long as the rows that it selects
read back.
-/

namespace ConfigTimeline

section Related

variable {ρ σ α β : Type} {R : ρ → σ → Prop} {xs : List ρ} {ys : List σ}

theorem forall₂_forall_mem (h : List.Forall₂ R xs ys) {P : ρ → Prop} {Q : σ → Prop}
    (hPQ : ∀ x y, R x y → (P x ↔ Q y)) : (∀ x ∈ xs, P x) ↔ ∀ y ∈ ys, Q y := by
  induction h with
  | nil => simp
  | cons hxy _ ih => rw [List.forall_mem_cons, List.forall_mem_cons, hPQ _ _ hxy, ih]

theorem forall₂_forall_right (h : List.Forall₂ R xs ys) {Q : σ → Prop}
    (hQ : ∀ x y, R x y → Q y) : ∀ y ∈ ys, Q y := by
  induction h with
  | nil => exact List.forall_mem_nil Q
  | cons hxy _ ih => exact List.forall_mem_cons.mpr ⟨hQ _ _ hxy, ih⟩

theorem forall₂_countP (h : List.Forall₂ R xs ys) {p : ρ → Bool} {q : σ → Bool}
    (hpq : ∀ x y, R x y → p x = q y) : xs.countP p = ys.countP q := by
  induction h with
  | nil => rfl
  | cons hxy _ ih => rw [List.countP_cons, List.countP_cons, hpq _ _ hxy, ih]

theorem forall₂_map_eq (h : List.Forall₂ R xs ys) {f : ρ → α} {g : σ → α}
    (hfg : ∀ x y, R x y → f x = g y) : xs.map f = ys.map g := by
  induction h with
  | nil => rfl
  | cons hxy _ ih => rw [List.map_cons, List.map_cons, hfg _ _ hxy, ih]

theorem forall₂_map (h : List.Forall₂ R xs ys) {f : ρ → ρ} {g : σ → σ}
    (hfg : ∀ x y, R x y → R (f x) (g y)) : List.Forall₂ R (xs.map f) (ys.map g) := by
  induction h with
  | nil => exact .nil
  | cons hxy _ ih => exact .cons (hfg _ _ hxy) ih

theorem forall₂_insertSorted {le : ρ → ρ → Bool} {le' : σ → σ → Bool}
    (hle : ∀ x y x' y', R x y → R x' y' → le x x' = le' y y') {x : ρ} {y : σ} (hxy : R x y)
    (h : List.Forall₂ R xs ys) : List.Forall₂ R (insertSorted le x xs) (insertSorted le' y ys) := by
  induction h with
  | nil => exact .cons hxy .nil
  | cons hfirst hrest ih =>
      unfold insertSorted
      rw [hle _ _ _ _ hxy hfirst]
      split
      · exact .cons hxy (.cons hfirst hrest)
      · exact .cons hfirst ih

/-- Sorting by orders that agree keeps lists related. -/
theorem forall₂_sortBy {le : ρ → ρ → Bool} {le' : σ → σ → Bool}
    (hle : ∀ x y x' y', R x y → R x' y' → le x x' = le' y y') (h : List.Forall₂ R xs ys) :
    List.Forall₂ R (sortBy le xs) (sortBy le' ys) := by
  induction h with
  | nil => exact .nil
  | cons hxy _ ih => exact forall₂_insertSorted hle hxy ih

/-- Batches whose rows clash alike are stored alike, and stop alike. -/
theorem forall₂_appendUntilClash {κ κ' : Type} {clash : List ρ → ρ → Option κ}
    {clash' : List σ → σ → Option κ'}
    (hclash : ∀ xs ys x y, List.Forall₂ R xs ys → R x y →
      (clash xs x = none ↔ clash' ys y = none))
    {batch : List ρ} {batch' : List σ} (hbatch : List.Forall₂ R batch batch')
    (h : List.Forall₂ R xs ys) :
    List.Forall₂ R (appendUntilClash clash xs batch).1 (appendUntilClash clash' ys batch').1 ∧
      ((appendUntilClash clash xs batch).2 = none ↔
        (appendUntilClash clash' ys batch').2 = none) := by
  induction hbatch generalizing xs ys with
  | nil => exact ⟨h, by simp [appendUntilClash]⟩
  | @cons x y rest rest' hxy _ ih =>
      have hsame := hclash xs ys x y h hxy
      unfold appendUntilClash
      cases hx : clash xs x with
      | none =>
          rw [hsame.mp hx]
          exact ih (List.rel_append h (.cons hxy .nil))
      | some cause =>
          cases hy : clash' ys y with
          | none => simp [hx, hy] at hsame
          | some cause' => exact ⟨h, by simp⟩

/-- The rows that a query selects stand for the records of the workspace that pass its test. -/
theorem forall₂_select {R : ρ → Scoped α → Prop} {rows : List (Scoped α)}
    (h : List.Forall₂ R xs rows) (workspace : String) {p : ρ → Bool} {q : α → Bool}
    (hpq : ∀ x row, R x row → p x = (row.workspace == workspace && q row.record)) :
    List.Forall₂ (fun x a => R x ⟨workspace, a⟩) (xs.filter p)
      ((recordsIn workspace rows).filter q) := by
  induction h with
  | nil => exact .nil
  | @cons x row xs rows hxy _ ih =>
      have hx := hpq x row hxy
      by_cases hrow : row.workspace = workspace
      · subst hrow
        have hsplit : recordsIn row.workspace (row :: rows) =
            row.record :: recordsIn row.workspace rows := by simp [recordsIn]
        rw [BEq.rfl, Bool.true_and] at hx
        rw [hsplit, List.filter_cons, List.filter_cons, hx]
        split
        · exact .cons hxy ih
        · exact ih
      · have hsplit : recordsIn workspace (row :: rows) = recordsIn workspace rows := by
          simp [recordsIn, hrow]
        have hskip : p x = false := by simp [hx, hrow]
        rw [hsplit, List.filter_cons, hskip]
        exact ih

end Related

namespace Database

section Reading

variable {ρ α : Type} {R : ρ → α → Prop} {read : ρ → Except StoreError α} {sure : Prop}
  {xs : List ρ} {ys : List α}

theorem ReadsAs.mapM (h : List.Forall₂ R xs ys)
    (hread : ∀ x, ∀ y ∈ ys, R x y → ReadsAs sure (read x) y) : ReadsAs sure (xs.mapM read) ys := by
  induction h with
  | nil => exact ReadsAs.ok []
  | @cons x y xs ys hxy _ ih =>
      rw [List.mapM_cons]
      have hfirst := hread x y List.mem_cons_self hxy
      have hrest := ih fun x' y' hy' => hread x' y' (List.mem_cons_of_mem y hy')
      exact hfirst.bind (hrest.bind (ReadsAs.ok _))

theorem ReadsAs.readFirst (h : List.Forall₂ R xs ys)
    (hread : ∀ x, ∀ y ∈ ys, R x y → ReadsAs sure (read x) y) :
    ReadsAs sure (readFirst read xs) ys.head? := by
  cases h with
  | nil => exact ReadsAs.ok none
  | cons hxy _ => exact (hread _ _ List.mem_cons_self hxy).map some

/-- Rows in another order read back as the records in some other order. -/
theorem ReadsAs.mapM_perm {xs' : List ρ} (hperm : xs'.Perm xs) (h : List.Forall₂ R xs ys)
    (hread : ∀ x, ∀ y ∈ ys, R x y → ReadsAs sure (read x) y) :
    ∃ ys', ys'.Perm ys ∧ ReadsAs sure (xs'.mapM read) ys' := by
  obtain ⟨ys', hrelated, hys⟩ := List.perm_comp_forall₂ hperm h
  refine ⟨ys', hys, ReadsAs.mapM hrelated ?_⟩
  intro x y hy
  exact hread x y (hys.mem_iff.mp hy)

end Reading

end Database

end ConfigTimeline
