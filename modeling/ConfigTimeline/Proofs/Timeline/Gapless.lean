import ConfigTimeline.Proofs.Id.Order
import ConfigTimeline.Record.Basic

/-!
The rows of one key as a timeline without gaps: each row ends where the next one begins, and the last
one is open. At any blueprint the row that began last is effective, and no other. A timeline goes on
when its open row is ended at a blueprint and a new row begins there.
-/

namespace ConfigTimeline

/-- Rows that follow each other without a gap, the earliest first. -/
def Gapless : List ValueRow → Prop
  | [] => True
  | [row] => row.validTo = none
  | row :: next :: rest =>
      (row.validFrom < next.validFrom ∧ row.validTo = some next.validFrom) ∧ Gapless (next :: rest)

def ValueRow.endedAt (b : BlueprintId) (row : ValueRow) : ValueRow :=
  if row.isOpen then { row with validTo := some b } else row

@[simp] theorem ValueRow.validFrom_endedAt (b : BlueprintId) (row : ValueRow) :
    (row.endedAt b).validFrom = row.validFrom := by
  unfold ValueRow.endedAt
  split <;> rfl

theorem ValueRow.endedAt_of_closed {b ending : BlueprintId} {row : ValueRow}
    (h : row.validTo = some ending) : row.endedAt b = row := by
  simp [ValueRow.endedAt, ValueRow.isOpen, h]

theorem ValueRow.validTo_endedAt {b : BlueprintId} {row : ValueRow} (h : row.validTo = none) :
    (row.endedAt b).validTo = some b := by
  simp [ValueRow.endedAt, ValueRow.isOpen, h]

namespace Gapless

theorem tail {row : ValueRow} {rest : List ValueRow} (h : Gapless (row :: rest)) :
    Gapless rest := by
  cases rest with
  | nil => trivial
  | cons next rest => exact h.2

/-- No row begins before the first one. -/
theorem validFrom_lt {row : ValueRow} {rest : List ValueRow} (h : Gapless (row :: rest)) :
    ∀ later ∈ rest, row.validFrom < later.validFrom := by
  induction rest generalizing row with
  | nil =>
      intro later hmem
      cases hmem
  | cons next rest ih =>
      intro later hmem
      rcases List.mem_cons.mp hmem with rfl | hlater
      · exact h.1.1
      · exact lt_trans h.1.1 (ih h.tail later hlater)

theorem pairwise_validFrom {rows : List ValueRow} (h : Gapless rows) :
    rows.Pairwise fun earlier later => earlier.validFrom < later.validFrom := by
  induction rows with
  | nil => exact List.Pairwise.nil
  | cons row rest ih => exact List.pairwise_cons.mpr ⟨h.validFrom_lt, ih h.tail⟩

/-- Ending the open row at a blueprint and beginning a new row there leaves no gap. -/
theorem append {rows : List ValueRow} (h : Gapless rows) {b : BlueprintId} {row : ValueRow}
    (hlater : ∀ r ∈ rows, r.validFrom < b) (hfrom : row.validFrom = b)
    (hopen : row.validTo = none) : Gapless (rows.map (ValueRow.endedAt b) ++ [row]) := by
  -- Only the last row is open, so the rows before it are not touched.
  induction rows with
  | nil => exact hopen
  | cons first rest ih =>
      have hrest := ih h.tail fun r hr => hlater r (List.mem_cons_of_mem first hr)
      cases rest with
      | nil =>
          have hfirst := hlater first List.mem_cons_self
          refine ⟨⟨?_, ?_⟩, hrest⟩
          · rw [ValueRow.validFrom_endedAt, hfrom]
            exact hfirst
          · rw [ValueRow.validTo_endedAt h, hfrom]
      | cons next rest =>
          have hkept : first.endedAt b = first := ValueRow.endedAt_of_closed h.1.2
          refine ⟨⟨?_, ?_⟩, hrest⟩
          · rw [hkept, ValueRow.validFrom_endedAt]
            exact h.1.1
          · rw [hkept, ValueRow.validFrom_endedAt]
            exact h.1.2

/-- The row that is effective at a blueprint is the one that began last. -/
theorem filter_effectiveAt {rows : List ValueRow} (h : Gapless rows) (b : BlueprintId) :
    rows.filter (·.effectiveAt b) =
      (rows.filter fun row => decide (row.validFrom ≤ b)).getLast?.toList := by
  induction rows with
  | nil => rfl
  | cons first rest ih =>
      have hrest := ih h.tail
      cases rest with
      | nil =>
          have hopen : first.validTo = none := h
          by_cases hfirst : first.validFrom ≤ b <;>
            simp [ValueRow.effectiveAt, hopen, hfirst]
      | cons next rest =>
          have heffective : first.effectiveAt b =
              (decide (first.validFrom ≤ b) && decide (b < next.validFrom)) := by
            rw [ValueRow.effectiveAt, h.1.2, Option.all_some]
          by_cases hnext : next.validFrom ≤ b
          · have hfirst : first.validFrom ≤ b := le_of_lt (lt_of_lt_of_le h.1.1 hnext)
            have hover : first.effectiveAt b = false := by
              simp [heffective, not_lt_of_ge hnext]
            rw [List.filter_cons_of_neg (by simp [hover]), hrest]
            simp [hfirst, hnext]
          · have hnone : (next :: rest).filter (fun row => decide (row.validFrom ≤ b)) = [] := by
              rw [List.filter_eq_nil_iff]
              intro row hmem hrow
              have hbefore : row.validFrom ≤ b := of_decide_eq_true hrow
              rcases List.mem_cons.mp hmem with rfl | hlater
              · exact hnext hbefore
              · exact hnext (le_trans (le_of_lt (h.tail.validFrom_lt row hlater)) hbefore)
            rw [hnone] at hrest
            rw [List.filter_cons, hrest, List.filter_cons, hnone, heffective]
            by_cases hfirst : first.validFrom ≤ b <;> simp [hfirst, lt_of_not_ge hnext]

/-- The last row is open, and no other. -/
theorem filter_isOpen {rows : List ValueRow} (h : Gapless rows) :
    rows.filter (·.isOpen) = rows.getLast?.toList := by
  induction rows with
  | nil => rfl
  | cons first rest ih =>
      have hrest := ih h.tail
      cases rest with
      | nil =>
          have hopen : first.validTo = none := h
          simp [ValueRow.isOpen, hopen]
      | cons next rest =>
          have hclosed : first.isOpen = false := by simp [ValueRow.isOpen, h.1.2]
          rw [List.filter_cons_of_neg (by simp [hclosed]), hrest, List.getLast?_cons_cons]

theorem validFrom_lt_validTo {rows : List ValueRow} (h : Gapless rows) {row : ValueRow}
    (hrow : row ∈ rows) {ending : BlueprintId} (hending : row.validTo = some ending) :
    row.validFrom < ending := by
  induction rows with
  | nil => cases hrow
  | cons first rest ih =>
      rcases List.mem_cons.mp hrow with rfl | hlater
      · cases rest with
        | nil =>
            have hopen : row.validTo = none := h
            rw [hopen] at hending
            cases hending
        | cons next rest =>
            rw [h.1.2, Option.some.injEq] at hending
            rw [← hending]
            exact h.1.1
      · exact ih h.tail hlater

end Gapless

end ConfigTimeline
