import ConfigTimeline.Proofs.Service.Masking

/-!
Overlays as unions by key in which the right side wins. Whatever keys the rows repeat, an overlay has
for each key the last row that the mask has of it, or else the last one of the base, and nothing more.
Rows with distinct keys are told by the last row of each key, up to their order, and so the laws of
overlays come down to the laws of `Option.or`.
-/

namespace ConfigTimeline

def lastOfKey (key : String) (rows : List ValueRow) : Option ValueRow :=
  (rows.filter (·.key == key)).getLast?

theorem lastOfKey_append (key : String) (left right : List ValueRow) :
    lastOfKey key (left ++ right) = (lastOfKey key right).or (lastOfKey key left) := by
  unfold lastOfKey
  rw [List.filter_append, List.getLast?_append]

theorem lastOfKey_overlay (key : String) (base mask : List ValueRow) :
    lastOfKey key (overlay base mask) = (lastOfKey key mask).or (lastOfKey key base) := by
  have hfilter : (overlay base mask).filter (·.key == key) =
      (lastOfKey key (base ++ mask)).toList :=
    filter_lastPerKey (base ++ mask) key
  rw [← lastOfKey_append, lastOfKey, hfilter]
  cases lastOfKey key (base ++ mask) <;> rfl

theorem mem_of_lastOfKey {key : String} {rows : List ValueRow} {row : ValueRow}
    (h : lastOfKey key rows = some row) : row ∈ rows ∧ row.key = key := by
  have hmem := List.mem_filter.mp (List.mem_of_getLast? h)
  exact ⟨hmem.1, beq_iff_eq.mp hmem.2⟩

theorem isSome_lastOfKey (key : String) (rows : List ValueRow) :
    (lastOfKey key rows).isSome = true ↔ key ∈ rows.map (·.key) := by
  unfold lastOfKey
  rw [List.getLast?_isSome, Ne, List.filter_eq_nil_iff]
  simp

/-- Where no key is repeated, the last row of a key is the only one. -/
theorem mem_iff_lastOfKey {rows : List ValueRow} (h : (rows.map (·.key)).Nodup) (row : ValueRow) :
    row ∈ rows ↔ lastOfKey row.key rows = some row := by
  constructor
  · intro hrow
    have hkey := (isSome_lastOfKey row.key rows).mpr (List.mem_map_of_mem hrow)
    obtain ⟨last, hlast⟩ := Option.isSome_iff_exists.mp hkey
    obtain ⟨hmem, hsame⟩ := mem_of_lastOfKey hlast
    rw [hlast, List.inj_on_of_nodup_map h hmem hrow hsame]
  · intro hlast
    exact (mem_of_lastOfKey hlast).1

/-- Rows without repeated keys are the same, up to their order, if each key has the same last row. -/
theorem perm_of_lastOfKey {left right : List ValueRow} (hleft : (left.map (·.key)).Nodup)
    (hright : (right.map (·.key)).Nodup)
    (h : ∀ key, lastOfKey key left = lastOfKey key right) : left.Perm right := by
  rw [List.perm_ext_iff_of_nodup (.of_map _ hleft) (.of_map _ hright)]
  intro row
  rw [mem_iff_lastOfKey hleft, mem_iff_lastOfKey hright, h]

theorem mem_keys_overlay (base mask : List ValueRow) (key : String) :
    key ∈ (overlay base mask).map (·.key) ↔ key ∈ base.map (·.key) ∨ key ∈ mask.map (·.key) := by
  rw [← isSome_lastOfKey, lastOfKey_overlay, Option.isSome_or, Bool.or_eq_true, isSome_lastOfKey,
    isSome_lastOfKey, or_comm]

/-- Two masks one after the other come to the same as one mask with the other over it. -/
theorem overlay_overlay_perm (base mask top : List ValueRow) :
    (overlay (overlay base mask) top).Perm (overlay base (overlay mask top)) := by
  refine perm_of_lastOfKey (nodup_keys_overlay _ _) (nodup_keys_overlay _ _) fun key => ?_
  rw [lastOfKey_overlay, lastOfKey_overlay, lastOfKey_overlay, lastOfKey_overlay, Option.or_assoc]

/-- A mask that is laid over its own overlay changes nothing. -/
theorem overlay_again_perm (base mask : List ValueRow) :
    (overlay (overlay base mask) mask).Perm (overlay base mask) := by
  refine perm_of_lastOfKey (nodup_keys_overlay _ _) (nodup_keys_overlay _ _) fun key => ?_
  rw [lastOfKey_overlay, lastOfKey_overlay, ← Option.or_assoc, Option.or_self]

/-- Where all keys are distinct nothing is replaced. -/
theorem overlay_perm_append {base mask : List ValueRow} (hbase : (base.map (·.key)).Nodup)
    (hmask : (mask.map (·.key)).Nodup)
    (hapart : (base.map (·.key)).Disjoint (mask.map (·.key))) :
    (overlay base mask).Perm (base ++ mask) := by
  have hboth : ((base ++ mask).map (·.key)).Nodup := by
    rw [List.map_append]
    exact List.nodup_append'.mpr ⟨hbase, hmask, hapart⟩
  refine perm_of_lastOfKey (nodup_keys_overlay _ _) hboth fun key => ?_
  rw [lastOfKey_overlay, lastOfKey_append]

/-- An overlay is the union by key of a base and a mask, and the mask wins. With that, overlays are
associative, a mask counts once, and rows with distinct keys are merely put together. -/
theorem overlay_right_biased (base mask : List ValueRow) :
    ((overlay base mask).map (·.key)).Nodup ∧
      (∀ key, key ∈ (overlay base mask).map (·.key) ↔
        key ∈ base.map (·.key) ∨ key ∈ mask.map (·.key)) ∧
      (∀ row, row ∈ overlay base mask ↔
        (lastOfKey row.key mask).or (lastOfKey row.key base) = some row) ∧
      (∀ top, (overlay (overlay base mask) top).Perm (overlay base (overlay mask top))) ∧
      (overlay (overlay base mask) mask).Perm (overlay base mask) ∧
      ((base.map (·.key)).Nodup → (mask.map (·.key)).Nodup →
        (base.map (·.key)).Disjoint (mask.map (·.key)) →
        (overlay base mask).Perm (base ++ mask)) := by
  refine ⟨nodup_keys_overlay base mask, mem_keys_overlay base mask, fun row => ?_,
    overlay_overlay_perm base mask, overlay_again_perm base mask, overlay_perm_append⟩
  rw [mem_iff_lastOfKey (nodup_keys_overlay base mask), lastOfKey_overlay]

/-- Two values of a blueprint and one of a mask, all under keys of their own. -/
theorem overlay_right_biased_apart :
    let row (key value : String) : ValueRow :=
      ⟨⟨.ofNat 1⟩, .ofNat 1, key, value, .string, none, ⟨.ofNat 2⟩, none⟩
    let base := [row "model" "a", row "limit" "b"]
    let mask := [row "prompt" "a"]
    (base.map (·.key)).Nodup ∧ (mask.map (·.key)).Nodup ∧
      (base.map (·.key)).Disjoint (mask.map (·.key)) ∧
      (overlay base mask).Perm (base ++ mask) := by
  intro row base mask
  have hbase : (base.map (·.key)).Nodup := by decide
  have hmask : (mask.map (·.key)).Nodup := by decide
  have hapart : (base.map (·.key)).Disjoint (mask.map (·.key)) :=
    List.disjoint_left.mpr (by decide)
  obtain ⟨-, -, -, -, -, hunion⟩ := overlay_right_biased base mask
  exact ⟨hbase, hmask, hapart, hunion hbase hmask hapart⟩

end ConfigTimeline
