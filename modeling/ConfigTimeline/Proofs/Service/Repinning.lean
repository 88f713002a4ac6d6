import ConfigTimeline.Proofs.Service.Granting

/-!
What pinning environments does to the tables, as far as what has been recorded depends on it. Pins that
are stored stay where they are, some of them pointed elsewhere, and new pins come after them; nothing
else changes. Afterwards each environment of the request is pinned to its target.
-/

namespace ConfigTimeline

variable {policy : MaskPolicy} {who : Identity} {now : Instant} {r : PinRequest} {config : ConfigId}
  {ids : Nat → Ulid} {n : Nat} {t t' : Memory.Tables}

/-- A stored pin after a request: as it was, or pointed at the target of its environment. -/
inductive Repointed (who : Identity) (now : Instant) (r : PinRequest) (row : Scoped Pin) :
    Scoped Pin → Prop
  | same : Repointed who now r row row
  | moved (target : PinTarget) (htarget : target ∈ r.targets)
      (hplace : row.envPlace = (who.workspace, r.project, target.env)) :
      Repointed who now r row
        { row with
          record := { row.record with
            blueprint := target.blueprint
            audit := { row.record.audit with updatedBy := who.user, updatedAt := now } } }

def NewlyPinned (who : Identity) (now : Instant) (r : PinRequest) (config : ConfigId)
    (row : Scoped Pin) : Prop :=
  ∃ u, ∃ target ∈ r.targets,
    row = ⟨who.workspace, Pinning.newPin who now r.project config u target⟩

namespace Repointed

variable {row row' : Scoped Pin}

theorem of_repointed (row : Scoped Pin) :
    Repointed who now r row
      (Memory.repointed who.workspace r.project who.user now r.targets row) := by
  rcases Memory.repointed_cases who.workspace r.project who.user now r.targets row
    with ⟨target, htarget, hplace, hmoved⟩ | ⟨-, hleft⟩
  · rw [hmoved]
    exact .moved target htarget hplace
  · rw [hleft]
    exact .same

theorem dated (h : Repointed who now r row row') (hnow : now.FourDigitYear)
    (hdated : row.record.audit.Dated) : row'.record.audit.Dated := by
  cases h with
  | same => exact hdated
  | moved => exact ⟨hdated.1, hnow⟩

end Repointed

structure Repinned (who : Identity) (now : Instant) (r : PinRequest) (config : ConfigId)
    (t t' : Memory.Tables) : Prop where
  same : t' = { t with pins := t'.pins }
  pins : ∃ stored added, t'.pins = stored ++ added ∧
    List.Forall₂ (Repointed who now r) t.pins stored ∧
      ∀ row ∈ added, NewlyPinned who now r config row

namespace Repinned

theorem of_bound : Repinned who now r config t (t.bound who now r config ids n) := by
  refine ⟨rfl, _, _, rfl, ?_, ?_⟩
  · rw [List.forall₂_map_right_iff]
    exact List.forall₂_same.mpr fun row _ => .of_repointed row
  · intro row hrow
    obtain ⟨pin, hpin, rfl⟩ := List.mem_map.mp hrow
    obtain ⟨i, -, target, htarget, rfl⟩ := Program.mem_stamped hpin
    exact ⟨_, target, List.mem_of_mem_filter htarget, rfl⟩

/-- Tables that had room for their records have it still. -/
theorem dated (h : Repinned who now r config t t') (hnow : now.FourDigitYear)
    (hdated : t.Dated) : t'.Dated := by
  obtain ⟨stored, added, hpins, hstored, hadded⟩ := h.pins
  refine { configs := ?_, blueprints := ?_, pins := ?_ }
  · rw [h.same]
    exact hdated.configs
  · rw [h.same]
    exact hdated.blueprints
  · rw [hpins, List.forall_mem_append]
    constructor
    · have hboth := (List.forall₂_and_left _ _).mpr ⟨hdated.pins, hstored⟩
      exact forall₂_forall_right hboth fun _ _ hrow => hrow.2.dated hnow hrow.1
    · intro row hrow
      obtain ⟨u, target, -, rfl⟩ := hadded row hrow
      exact ⟨hnow, hnow⟩

end Repinned

structure Bound (policy : MaskPolicy) (who : Identity) (now : Instant) (r : PinRequest)
    (t t' : Memory.Tables) : Prop where
  repinned : ∃ config, t.configOf who.workspace r.project = some config ∧
    Repinned who now r config.id t t'
  targets : ∀ target ∈ r.targets, ∃ b ∈ recordsIn who.workspace t.blueprints,
    b.id = target.blueprint ∧ b.project = r.project ∧ (policy = .reject → b.kind = .blueprint)
  reached : ∀ target ∈ r.targets,
    t'.Pinned who.workspace r.project target.env target.blueprint

/-- The tables once a request that passes the checks has been granted. -/
theorem Bound.of_bound {config : Config} (hnames : r.names.Nodup)
    (hconfig : t.configOf who.workspace r.project = some config)
    (hchecked : Pinning.Checked policy who.workspace r t (.ok ())) :
    Bound policy who now r t (t.bound who now r config.id ids 0) where
  repinned := ⟨config, hconfig, .of_bound⟩
  targets target htarget := by
    have hwanted : target.blueprint ∈ r.wanted := List.mem_map_of_mem htarget
    cases hchecked with
    | passed hknown hmasks =>
        obtain ⟨b, hb, hid⟩ := hknown _ hwanted
        obtain ⟨hstored, hproject⟩ := Memory.mem_blueprintsOf.mp hb
        refine ⟨b, hstored, hid, hproject, ?_⟩
        intro hpolicy
        cases hkind : b.kind with
        | blueprint => rfl
        | mask => exact absurd ⟨b, hb, hid, hkind⟩ (hmasks hpolicy _ hwanted)
  reached target htarget := by
    obtain ⟨row, hrow, hplace⟩ := Memory.exists_bound t who now config.id ids 0 htarget
    obtain ⟨hblueprint, -⟩ := Granted.pointed_of_place hnames hrow htarget hplace
    exact Memory.pinned_iff.mpr ⟨row, hrow, hplace, hblueprint⟩

end ConfigTimeline
