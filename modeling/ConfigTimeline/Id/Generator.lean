import ConfigTimeline.Id.Ulid

/-!
A source of fresh identifiers. A `Generator` remembers the last identifier it stamped. While the
clock has not passed that millisecond the next identifier is the last one plus one; otherwise it is
stamped with the clock and new random bits. When the random part of the current millisecond is used
up, the clock and the random bits are read once more and the identifier made of them is handed out
without being remembered.
-/

namespace ConfigTimeline

/-- One reading of the clock, in milliseconds since the epoch, with one draw of random bits. -/
structure Reading where
  millis : Nat
  random : Nat

def Reading.ulid (r : Reading) : Ulid := Ulid.ofParts r.millis r.random

structure Generator where
  previous : Ulid

namespace Generator

def fresh : Generator := ⟨Ulid.ofNat 0⟩

/-- The next identifier, from one reading and from a spare reading for a used-up millisecond. -/
def generate (g : Generator) (reading spare : Reading) : Ulid × Generator :=
  if reading.millis ≤ g.previous.millis then
    match g.previous.next? with
    | some next => (next, ⟨next⟩)
    | none => (spare.ulid, g)
  else (reading.ulid, ⟨reading.ulid⟩)

/-- The identifiers of consecutive calls, one per pair of readings. -/
def run (g : Generator) : List (Reading × Reading) → List Ulid
  | [] => []
  | (reading, spare) :: rest =>
      let (id, next) := g.generate reading spare
      id :: next.run rest

/-- The generator after `n` calls that all read the clock as `reading` and `spare`. -/
def after (reading spare : Reading) : Nat → Generator
  | 0 => fresh
  | n + 1 => ((after reading spare n).generate reading spare).2

/-- The identifiers that a fresh generator hands out within one instant. -/
def idsAt (reading spare : Reading) (n : Nat) : Ulid :=
  ((after reading spare n).generate reading spare).1

end Generator

end ConfigTimeline
