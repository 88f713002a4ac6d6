/-!
Sorting by insertion. The sorted list has the elements of the list that was given, is in order, and
keeps elements that the order does not tell apart in the order in which they were given.
-/

namespace ConfigTimeline

variable {α : Type}

/-- Puts an element in front of the first one that it may stand in front of. -/
def insertSorted (le : α → α → Bool) (a : α) : List α → List α
  | [] => [a]
  | b :: rest => if le a b then a :: b :: rest else b :: insertSorted le a rest

def sortBy (le : α → α → Bool) (items : List α) : List α := items.foldr (insertSorted le) []

theorem perm_insertSorted (le : α → α → Bool) (a : α) (items : List α) :
    (insertSorted le a items).Perm (a :: items) := by
  induction items with
  | nil => exact List.Perm.refl _
  | cons b rest ih =>
      unfold insertSorted
      split
      · exact List.Perm.refl _
      · exact (ih.cons b).trans (List.Perm.swap a b rest)

theorem perm_sortBy (le : α → α → Bool) (items : List α) : (sortBy le items).Perm items := by
  induction items with
  | nil => exact List.Perm.refl _
  | cons a rest ih => exact (perm_insertSorted le a _).trans (ih.cons a)

theorem pairwise_insertSorted {le : α → α → Bool} (total : ∀ a b, le a b = true ∨ le b a = true)
    (trans : ∀ a b c, le a b = true → le b c = true → le a c = true) (a : α) {items : List α}
    (h : items.Pairwise fun a b => le a b = true) :
    (insertSorted le a items).Pairwise fun a b => le a b = true := by
  induction items with
  | nil => simp [insertSorted]
  | cons b rest ih =>
      have hb := List.pairwise_cons.1 h
      unfold insertSorted
      split
      · rename_i hab
        refine List.pairwise_cons.2 ⟨fun c hc => ?_, h⟩
        rcases List.mem_cons.1 hc with rfl | hc
        · exact hab
        · exact trans a b c hab (hb.1 c hc)
      · rename_i hab
        refine List.pairwise_cons.2 ⟨fun c hc => ?_, ih hb.2⟩
        rcases List.mem_cons.1 ((perm_insertSorted le a rest).mem_iff.1 hc) with rfl | hc
        · exact (total _ _).resolve_left hab
        · exact hb.1 c hc

/-- A sorted list is in order, for an order that is total and transitive. -/
theorem pairwise_sortBy {le : α → α → Bool} (total : ∀ a b, le a b = true ∨ le b a = true)
    (trans : ∀ a b c, le a b = true → le b c = true → le a c = true) (items : List α) :
    (sortBy le items).Pairwise fun a b => le a b = true := by
  induction items with
  | nil => exact List.Pairwise.nil
  | cons a rest ih => exact pairwise_insertSorted total trans a ih

end ConfigTimeline
