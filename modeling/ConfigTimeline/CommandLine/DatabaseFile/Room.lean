/-!
How much room the first page of a database has for the rows that declare its tables. Bytes may be
lost to it, which are neither free nor part of a row. Rows are written one after another, and the
page is divided by the first one that does not fit; the lost bytes then weigh with the half that
holds the first row. `Room.holds_of_lost_eq_zero` says that a page without lost bytes can always be
divided.
-/

namespace ConfigTimeline.CommandLine

structure Declarations where
  /-- The bytes of the first row. -/
  first : Nat
  /-- The bytes of all rows after each step in which they are written. -/
  totals : List Nat

def Declarations.append (a b : Declarations) : Declarations :=
  ⟨a.first, a.totals ++ b.totals.map (a.totals.getLastD 0 + ·)⟩

def storeDeclarations : Declarations :=
  ⟨362, [10, 71, 132, 484, 494, 561, 958, 1132, 1142, 1215, 1588, 1791, 1986, 2158, 2168, 2237,
    2306, 2769, 2933]⟩

def projectDeclarations : Declarations := ⟨223, [10, 73, 136, 349]⟩

structure Room where
  /-- The bytes for rows. -/
  free : Nat
  lost : Nat
deriving DecidableEq

namespace Room

/-- A page that no row can be written to. -/
def none : Room := ⟨0, 0⟩

/-- The bytes in front of the rows of a page that count as taken. -/
def overhead : Nat := 8

/-- A page whose data starts at a byte. The bytes from there on are lost. -/
def ofPage (usable start : Nat) : Room := ⟨start - overhead, usable - start⟩

/-- Whether rows can be written to a page. Where it is divided, the first row has to stay, and the
rows have to outweigh the lost bytes. -/
def holds (r : Room) (d : Declarations) : Bool :=
  match d.totals.find? (r.free < ·) with
  | some total => d.first ≤ r.free && r.lost < total
  | .none => true

theorem holds_of_lost_eq_zero {r : Room} {d : Declarations} (h : r.lost = 0)
    (hf : d.first ≤ r.free) : r.holds d = true := by
  rw [holds]
  split
  · next total found =>
      have big := List.find?_some found
      simp only [decide_eq_true_eq] at big
      simp only [hf, h, decide_true, Bool.true_and, decide_eq_true_eq]
      omega
  · rfl

end Room

end ConfigTimeline.CommandLine
