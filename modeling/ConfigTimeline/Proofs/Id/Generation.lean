import Mathlib.Data.List.Chain
import ConfigTimeline.Id.Generator
import ConfigTimeline.Proofs.Id.Order

/-!
The order of the identifiers that a generator hands out. Whatever the clock does, an identifier that the
generator remembers comes after all that it has remembered before. One that it hands out for a used-up
millisecond is not remembered: nothing keeps it after the identifiers before it, or those to come after
it. So the identifiers of a run are in order just if they are so around these. All of this is under a
clock that shows no more than 48 bits of milliseconds, since no more of them are stamped.
-/

namespace ConfigTimeline

namespace Generator

/-- The clock has not passed the millisecond of the last identifier, and none is left in it. -/
def UsedUp (g : Generator) (reading : Reading) : Prop :=
  reading.millis ≤ g.previous.millis ∧ g.previous.next? = none

instance (g : Generator) (reading : Reading) : Decidable (g.UsedUp reading) :=
  inferInstanceAs (Decidable (_ ∧ _))

variable {g : Generator} {reading : Reading}

theorem generate_of_usedUp (h : g.UsedUp reading) (spare : Reading) :
    g.generate reading spare = (spare.ulid, g) := by
  simp [generate, h.1, h.2]

/-- Unless its millisecond is used up, a generator remembers what it hands out, and that comes after what
it has remembered. -/
theorem generate_of_not_usedUp (h : ¬g.UsedUp reading) (hclock : reading.millis < 1 <<< 48)
    (spare : Reading) : ∃ id, g.generate reading spare = (id, ⟨id⟩) ∧ g.previous < id := by
  unfold generate
  split
  · rename_i hpassed
    cases hnext : g.previous.next? with
    | none => exact absurd ⟨hpassed, hnext⟩ h
    | some next => exact ⟨next, rfl, Ulid.lt_next hnext⟩
  · rename_i hpassed
    refine ⟨reading.ulid, rfl, Ulid.lt_of_millis_lt ?_⟩
    have hstamp : reading.ulid.millis = reading.millis :=
      (Ulid.millis_ofParts _ _).trans (Nat.mod_eq_of_lt hclock)
    rw [hstamp]
    exact Nat.lt_of_not_le hpassed

/-- The identifiers of consecutive calls, without those of used-up milliseconds. -/
def remembered (g : Generator) : List (Reading × Reading) → List Ulid
  | [] => []
  | (reading, spare) :: rest =>
      let (id, next) := g.generate reading spare
      if g.UsedUp reading then next.remembered rest else id :: next.remembered rest

/-- What a call hands out for a used-up millisecond. -/
structure Fallback where
  /-- The last identifier of the millisecond. -/
  last : Ulid
  id : Ulid
  /-- What the next call hands out, if there is one. -/
  next : Option Ulid
deriving DecidableEq

/-- The clock, when it is read once more, has passed the millisecond, and what is handed out next comes
later. -/
def Fallback.InOrder (f : Fallback) : Prop :=
  f.last.millis < f.id.millis ∧ ∀ next ∈ f.next, f.id < next

def fallbacks (g : Generator) : List (Reading × Reading) → List Fallback
  | [] => []
  | (reading, spare) :: rest =>
      let (id, next) := g.generate reading spare
      let later := next.fallbacks rest
      if g.UsedUp reading then ⟨g.previous, id, (next.run rest).head?⟩ :: later else later

/-- A run after the given identifier has been remembered: what is handed out, what of it is remembered,
and what of it is for used-up milliseconds. -/
inductive Runs : Ulid → List Ulid → List Ulid → List Fallback → Prop
  | nil (last : Ulid) : Runs last [] [] []
  | usedUp {last id : Ulid} {ids kept : List Ulid} {fallbacks : List Fallback}
      (hlast : last.next? = none) (h : Runs last ids kept fallbacks) :
      Runs last (id :: ids) kept (⟨last, id, ids.head?⟩ :: fallbacks)
  | later {last id : Ulid} {ids kept : List Ulid} {fallbacks : List Fallback}
      (hlater : last < id) (h : Runs id ids kept fallbacks) :
      Runs last (id :: ids) (id :: kept) fallbacks

theorem runs (g : Generator) {calls : List (Reading × Reading)}
    (hclock : ∀ call ∈ calls, call.1.millis < 1 <<< 48) :
    Runs g.previous (g.run calls) (g.remembered calls) (g.fallbacks calls) := by
  induction calls generalizing g with
  | nil => exact .nil g.previous
  | cons call rest ih =>
      obtain ⟨reading, spare⟩ := call
      obtain ⟨hfirst, hrest⟩ := List.forall_mem_cons.mp hclock
      by_cases hused : g.UsedUp reading
      · have hgenerate := generate_of_usedUp hused spare
        simp only [run, remembered, fallbacks, hgenerate, if_pos hused]
        exact .usedUp hused.2 (ih g hrest)
      · obtain ⟨id, hgenerate, hlater⟩ := generate_of_not_usedUp hused hfirst spare
        simp only [run, remembered, fallbacks, hgenerate, if_neg hused]
        exact .later hlater (ih ⟨id⟩ hrest)

namespace Runs

variable {last : Ulid} {ids kept : List Ulid} {fallbacks : List Fallback}

/-- What is remembered comes after what has been remembered before. -/
theorem isChain_kept (h : Runs last ids kept fallbacks) : (last :: kept).IsChain (· < ·) := by
  induction h with
  | nil last => exact List.isChain_singleton last
  | usedUp _ _ ih => exact ih
  | later hlater _ ih => exact List.isChain_cons_cons.mpr ⟨hlater, ih⟩

theorem kept_sublist (h : Runs last ids kept fallbacks) : kept.Sublist ids := by
  induction h with
  | nil => exact List.Sublist.refl []
  | usedUp _ _ ih => exact ih.cons _
  | later _ _ ih => exact ih.cons_cons _

theorem length_kept (h : Runs last ids kept fallbacks) :
    kept.length + fallbacks.length = ids.length := by
  induction h with
  | nil => rfl
  | usedUp _ _ ih => rw [List.length_cons, List.length_cons, ← ih, Nat.add_assoc]
  | later _ _ ih => rw [List.length_cons, List.length_cons, ← ih, Nat.add_right_comm]

/-- A millisecond is used up only by an identifier that has been remembered as its last one. -/
theorem last_of_mem (h : Runs last ids kept fallbacks) :
    ∀ f ∈ fallbacks, f.last ∈ last :: kept ∧ f.last.next? = none := by
  induction h with
  | nil => exact List.forall_mem_nil _
  | usedUp hlast _ ih => exact List.forall_mem_cons.mpr ⟨⟨List.mem_cons_self, hlast⟩, ih⟩
  | later _ _ ih => exact fun f hf => ⟨List.mem_cons_of_mem _ (ih f hf).1, (ih f hf).2⟩

/-- What is handed out is in order just if it is so around what is handed out for used-up milliseconds. -/
theorem isChain_iff (h : Runs last ids kept fallbacks) :
    (last :: ids).IsChain (· < ·) ↔ ∀ f ∈ fallbacks, f.InOrder := by
  induction h with
  | nil last => exact ⟨fun _ => List.forall_mem_nil _, fun _ => List.isChain_singleton last⟩
  | usedUp hlast _ ih =>
      -- The rest goes on after what is remembered, not after what is handed out here.
      rw [List.forall_mem_cons, ← ih, List.isChain_cons_cons, List.isChain_cons, List.isChain_cons,
        Ulid.lt_iff_of_last hlast]
      constructor
      · rintro ⟨hpassed, hnext, htail⟩
        have hbefore := (Ulid.lt_iff_of_last hlast).mpr hpassed
        exact ⟨⟨hpassed, hnext⟩, fun next hmem => Trans.trans hbefore (hnext next hmem), htail⟩
      · rintro ⟨⟨hpassed, hnext⟩, -, htail⟩
        exact ⟨hpassed, hnext, htail⟩
  | later hlater _ ih => rw [List.isChain_cons_cons, and_iff_right hlater, ih]

/-- If the identifier to start from is not the last of its millisecond, the first one comes after it. -/
theorem isChain_ids_iff (h : Runs last ids kept fallbacks) (hlast : last.next? ≠ none) :
    ids.IsChain (· < ·) ↔ (last :: ids).IsChain (· < ·) := by
  cases h with
  | nil => exact ⟨fun _ => List.isChain_singleton last, fun _ => List.isChain_nil⟩
  | usedUp hused _ => exact absurd hused hlast
  | later hlater _ => rw [List.isChain_cons_cons, and_iff_right hlater]

end Runs

theorem next?_fresh : fresh.previous.next? ≠ none := by decide

/-- The identifiers that a fresh generator hands out are in strict order just if they are so around those
of used-up milliseconds: each of these is stamped later than the millisecond, and what is handed out
next comes after it. All the others are in strict order, whatever the clock does. A millisecond is used
up only after its last identifier has been handed out. -/
theorem ids_increase (calls : List (Reading × Reading))
    (hclock : ∀ call ∈ calls, call.1.millis < 1 <<< 48) :
    ((fresh.run calls).Pairwise (· < ·) ↔ ∀ f ∈ fresh.fallbacks calls, f.InOrder) ∧
      (fresh.remembered calls).Pairwise (· < ·) ∧
      (fresh.remembered calls).Sublist (fresh.run calls) ∧
      (fresh.remembered calls).length + (fresh.fallbacks calls).length =
        (fresh.run calls).length ∧
      ∀ f ∈ fresh.fallbacks calls, f.last ∈ fresh.remembered calls ∧ f.last.next? = none := by
  have hruns := runs fresh hclock
  refine ⟨?_, ?_, hruns.kept_sublist, hruns.length_kept, fun f hf => ?_⟩
  · rw [← List.isChain_iff_pairwise, hruns.isChain_ids_iff next?_fresh, hruns.isChain_iff]
  · exact (List.isChain_iff_pairwise.mp hruns.isChain_kept).tail
  · obtain ⟨hmem, hlast⟩ := hruns.last_of_mem f hf
    refine ⟨(List.mem_cons.mp hmem).resolve_left fun hstart => ?_, hlast⟩
    exact next?_fresh (hstart ▸ hlast)

/-- The clock goes back in a used-up millisecond, and has passed it when it is read once more. -/
theorem ids_increase_passed :
    let last : Reading := ⟨5, 1 <<< 80 - 1⟩
    let back : Reading := ⟨3, 0⟩
    let passed : Reading := ⟨6, 9⟩
    let next : Reading := ⟨6, 20⟩
    let calls := [(last, last), (back, passed), (next, next)]
    (∀ call ∈ calls, call.1.millis < 1 <<< 48) ∧
      fresh.fallbacks calls = [⟨last.ulid, passed.ulid, some next.ulid⟩] ∧
      fresh.run calls = [last.ulid, passed.ulid, next.ulid] ∧
      (fresh.run calls).Pairwise (· < ·) := by
  intro last back passed next calls
  have hclock : ∀ call ∈ calls, call.1.millis < 1 <<< 48 := by decide
  have hfallbacks : fresh.fallbacks calls = [⟨last.ulid, passed.ulid, some next.ulid⟩] := by
    decide
  refine ⟨hclock, hfallbacks, by decide, ?_⟩
  refine (ids_increase calls hclock).1.mpr fun f hf => ?_
  rw [hfallbacks] at hf
  obtain rfl := List.mem_singleton.mp hf
  refine ⟨by decide, fun id hid => ?_⟩
  obtain rfl := Option.mem_some_iff.mp hid
  decide

/-- A millisecond whose last identifier is drawn first. If the clock stands still, the second identifier
comes before the first. If the clock has passed the millisecond when it is read once more, the second
one comes after the first, but is not remembered, and the third may come before it. -/
theorem ids_go_back :
    let last : Reading := ⟨1700000000000, 1 <<< 80 - 1⟩
    let still : Reading := ⟨1700000000000, 0⟩
    let passed : Reading := ⟨1700000000001, 9⟩
    let next : Reading := ⟨1700000000001, 3⟩
    fresh.run [(last, last), (still, still)] = [last.ulid, still.ulid] ∧
      still.ulid < last.ulid ∧
      fresh.run [(last, last), (still, passed), (next, next)] =
        [last.ulid, passed.ulid, next.ulid] ∧
      next.ulid < passed.ulid := by
  intro last still passed next
  exact ⟨by decide, by decide, by decide, by decide⟩

end Generator

end ConfigTimeline
