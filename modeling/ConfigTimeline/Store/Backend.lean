import ConfigTimeline.Store.Program

/-!
What a store is to the programs that run on it. A unit of work starts from the contents of the store
and makes calls one by one on a working state. At the end the working state becomes the contents of
the store: committed, or rolled back if the program failed.
-/

namespace ConfigTimeline

structure Backend where
  /-- The contents between units of work. -/
  Store : Type
  /-- The state within a unit of work. -/
  Work : Type
  start : Mode → Store → Work
  perform : String → (c : Call) → Work → Except StoreError c.Answer × Work
  commit : Work → Store
  rollback : Work → Store

/-- How a program ended on a working state, and how many identifiers have been drawn. -/
structure Ended (work ε α : Type) where
  result : Except ε α
  work : work
  drawn : Nat

/-- What a unit of work left behind, and how many identifiers it drew. -/
structure Settled (store ε α : Type) where
  result : Except ε α
  store : store
  drawn : Nat

namespace Backend

variable {ε α : Type}

/-- Runs a program. The identifiers it draws are those of `ids` from the given position on. -/
def run (b : Backend) (ids : Nat → Ulid) : Program ε α → b.Work → Nat → Ended b.Work ε α
  | .done a, work, drawn => ⟨.ok a, work, drawn⟩
  | .fail e, work, drawn => ⟨.error e, work, drawn⟩
  | .call workspace c next, work, drawn =>
      let (answer, work) := b.perform workspace c work
      b.run ids (next answer) work drawn
  | .draw next, work, drawn => b.run ids (next (ids drawn)) work (drawn + 1)

/-- Runs a program as one unit of work: all of its writes stay, or none of them if it fails. -/
def inUnit (b : Backend) (mode : Mode) (ids : Nat → Ulid) (p : Program ε α) (store : b.Store) :
    Settled b.Store ε α :=
  let ended := b.run ids p (b.start mode store) 0
  match ended.result with
  | .ok a => ⟨.ok a, b.commit ended.work, ended.drawn⟩
  | .error e => ⟨.error e, b.rollback ended.work, ended.drawn⟩

theorem inUnit_of_ok {b : Backend} {mode : Mode} {ids : Nat → Ulid} {p : Program ε α}
    {store : b.Store} {a : α} (h : (b.run ids p (b.start mode store) 0).result = .ok a) :
    b.inUnit mode ids p store =
      ⟨.ok a, b.commit (b.run ids p (b.start mode store) 0).work,
        (b.run ids p (b.start mode store) 0).drawn⟩ := by
  unfold inUnit
  simp only [h]

theorem inUnit_of_error {b : Backend} {mode : Mode} {ids : Nat → Ulid} {p : Program ε α}
    {store : b.Store} {e : ε} (h : (b.run ids p (b.start mode store) 0).result = .error e) :
    b.inUnit mode ids p store =
      ⟨.error e, b.rollback (b.run ids p (b.start mode store) 0).work,
        (b.run ids p (b.start mode store) 0).drawn⟩ := by
  unfold inUnit
  simp only [h]

end Backend

end ConfigTimeline
