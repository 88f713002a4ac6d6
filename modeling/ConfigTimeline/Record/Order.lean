import ConfigTimeline.Order.Insertion
import ConfigTimeline.Record.Basic

/-!
The order in which value rows are listed where nothing else orders them: by key, then by the blueprint
that brought them in, then by id. Rows that agree in all of these stand with the open one first, then
by the blueprint that ended them, then by value.
-/

namespace ConfigTimeline

namespace ValueRow

/-- The place of the end of a row: an open row comes before every ended one. -/
def endRank (v : ValueRow) : Nat :=
  match v.validTo with
  | none => 0
  | some b => b.ulid.toNat + 1

/-- The row may be listed before another one. -/
def listedBefore (a b : ValueRow) : Bool :=
  if a.key ≠ b.key then decide (a.key < b.key)
  else if a.validFrom ≠ b.validFrom then decide (a.validFrom < b.validFrom)
  else if a.id ≠ b.id then decide (a.id < b.id)
  else if a.endRank ≠ b.endRank then decide (a.endRank < b.endRank)
  else decide (a.value ≤ b.value)

def listed (rows : List ValueRow) : List ValueRow := sortBy listedBefore rows

theorem perm_listed (rows : List ValueRow) : (listed rows).Perm rows :=
  perm_sortBy listedBefore rows

end ValueRow

def BlueprintView.listed (v : BlueprintView) : BlueprintView :=
  { v with values := ValueRow.listed v.values }

end ConfigTimeline
