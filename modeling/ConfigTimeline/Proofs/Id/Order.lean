import Mathlib.Order.Defs.LinearOrder
import ConfigTimeline.Id

/-!
Sortable identifiers stand in a linear order. The milliseconds that they are stamped with come first in
it, and the identifier next to one comes after it.
-/

namespace ConfigTimeline

namespace Id

variable {kind : IdKind}

instance : LinearOrder (Id kind) where
  le a b := a ≤ b
  lt a b := a < b
  le_refl a := Nat.le_refl a.ulid.toNat
  le_trans _ _ _ hab hbc := Nat.le_trans hab hbc
  lt_iff_le_not_ge _ _ := Nat.lt_iff_le_and_not_ge
  le_antisymm a b hab hba := by
    have hulid : a.ulid = b.ulid := Ulid.ext (Nat.le_antisymm hab hba)
    cases a
    cases b
    cases hulid
    rfl
  le_total a b := Nat.le_total a.ulid.toNat b.ulid.toNat
  toDecidableLE := inferInstance
  toDecidableLT := inferInstance
  toDecidableEq := inferInstance

end Id

namespace Ulid

instance : Trans (α := Ulid) (· < ·) (· < ·) (· < ·) where
  trans {_ b _} hab hbc := Nat.lt_trans (m := b.toNat) hab hbc

/-- The identifier next to one comes after it: its random part is not all ones, so that the number
does not wrap around. -/
theorem lt_next {u next : Ulid} (h : u.next? = some next) : u < next := by
  unfold next? at h
  split at h
  · cases h
  · rename_i hroom
    cases h
    have hbound : u.toNat < 1 <<< 128 := u.toNat_lt
    have hrandom : u.toNat % 1 <<< 80 ≠ 1 <<< 80 - 1 := hroom
    have hnowrap : (u.toNat + 1) % 1 <<< 128 = u.toNat + 1 := by
      apply Nat.mod_eq_of_lt
      simp only [Nat.one_shiftLeft] at hbound hrandom ⊢
      omega
    rw [lt_def, toNat_ofNat, hnowrap]
    exact Nat.lt_succ_self u.toNat

/-- No more than 48 bits of the milliseconds are stamped. -/
theorem millis_ofParts (millis random : Nat) :
    (ofParts millis random).millis = millis % 1 <<< 48 := by
  have hstamp : millis % 1 <<< 48 < 1 <<< 48 := Nat.mod_lt _ (by decide)
  have hrandom : random % 1 <<< 80 < 1 <<< 80 := Nat.mod_lt _ (by decide)
  change (millis % 1 <<< 48 * 1 <<< 80 + random % 1 <<< 80) % 1 <<< 128 / 1 <<< 80 = _
  simp only [Nat.one_shiftLeft] at hstamp hrandom ⊢
  omega

/-- Of two identifiers of different milliseconds the one of the later comes later. -/
theorem lt_of_millis_lt {u v : Ulid} (h : u.millis < v.millis) : u < v := by
  rw [lt_def]
  by_contra hle
  have hstamp : v.millis ≤ u.millis := Nat.div_le_div_right (Nat.not_lt.mp hle)
  exact Nat.not_le.mpr h hstamp

theorem random_of_last {u : Ulid} (h : u.next? = none) : u.random = 1 <<< randomBits - 1 := by
  unfold next? at h
  split at h
  · assumption
  · cases h

/-- After the last identifier of a millisecond come just those of later milliseconds. -/
theorem lt_iff_of_last {u v : Ulid} (h : u.next? = none) : u < v ↔ u.millis < v.millis := by
  refine ⟨fun hlt => ?_, lt_of_millis_lt⟩
  have hlast : u.toNat % 1 <<< 80 = 1 <<< 80 - 1 := random_of_last h
  have hlt' : u.toNat < v.toNat := hlt
  change u.toNat / 1 <<< 80 < v.toNat / 1 <<< 80
  simp only [Nat.one_shiftLeft] at hlast ⊢
  omega

end Ulid

end ConfigTimeline
