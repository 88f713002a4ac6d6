import ConfigTimeline.Proofs.Service.Binding

/-!
What a request to pin environments leaves once it is granted, told pin by pin. The answer is read from
the tables afterwards, so that it tells of pins that were there and of new ones alike. A request that
is granted anew finds every environment pinned to its target: nothing changes then but the time at
which the pins were last written.
-/

namespace ConfigTimeline

def PinRequest.asks (r : PinRequest) (workspace : String) (row : Scoped Pin) : Bool :=
  row.workspace == workspace && row.record.project == r.project && r.names.contains row.record.env

def Pin.renewed (pin : Pin) (now : Instant) : Pin :=
  { pin with audit := { pin.audit with updatedAt := now } }

def PinRequest.renew (r : PinRequest) (workspace : String) (now : Instant) (row : Scoped Pin) :
    Scoped Pin :=
  if r.asks workspace row then { row with record := row.record.renewed now } else row

namespace PinRequest

variable {r : PinRequest} {workspace : String} {row : Scoped Pin}

theorem asks_iff :
    r.asks workspace row = true ↔
      ∃ target ∈ r.targets, row.envPlace = (workspace, r.project, target.env) := by
  simp only [asks, names, Scoped.envPlace, Bool.and_eq_true, beq_iff_eq, List.contains_iff_mem,
    List.mem_map, Prod.mk.injEq]
  constructor
  · rintro ⟨⟨hworkspace, hproject⟩, target, htarget, henv⟩
    exact ⟨target, htarget, hworkspace, hproject, henv.symm⟩
  · rintro ⟨target, htarget, hworkspace, hproject, henv⟩
    exact ⟨⟨hworkspace, hproject⟩, target, htarget, henv.symm⟩

@[simp]
theorem envPlace_renew (r : PinRequest) (workspace : String) (now : Instant) (row : Scoped Pin) :
    (r.renew workspace now row).envPlace = row.envPlace := by
  unfold renew
  split <;> rfl

@[simp]
theorem blueprint_renew (r : PinRequest) (workspace : String) (now : Instant) (row : Scoped Pin) :
    (r.renew workspace now row).record.blueprint = row.record.blueprint := by
  unfold renew
  split <;> rfl

theorem asks_eq_of_place {other : Scoped Pin} (h : row.envPlace = other.envPlace) :
    r.asks workspace row = r.asks workspace other := by
  rw [Bool.eq_iff_iff, asks_iff, asks_iff, h]

end PinRequest

def Memory.Tables.Pinned (t : Tables) (workspace : String) (project : ProjectId) (env : String)
    (b : BlueprintId) : Prop :=
  ∃ pin ∈ recordsIn workspace t.pins, pin.project = project ∧ pin.env = env ∧ pin.blueprint = b

namespace Memory

variable {t : Tables} {who : Identity} {now : Instant} {r : PinRequest} {config : ConfigId}
  {ids : Nat → Ulid} {n : Nat} {workspace : String} {project : ProjectId} {pin : Pin}
  {row : Scoped Pin}

/-- The pins that a request is answered with are the records of the rows that it asks for. -/
theorem pinsFor_eq (t : Tables) (workspace : String) (r : PinRequest) :
    t.pinsFor workspace r = sortBy (fun a b => decide (a.env ≤ b.env))
      ((t.pins.filter (r.asks workspace)).map (·.record)) := by
  unfold Tables.pinsFor Tables.pinsOf recordsIn
  rw [List.filter_filterMap, List.filter_filterMap, ← List.filterMap_eq_map', List.filterMap_filter]
  congr 1
  refine List.filterMap_congr fun row _ => ?_
  by_cases hworkspace : row.workspace = workspace
  · by_cases hproject : row.record.project = r.project <;>
      simp [PinRequest.asks, hworkspace, hproject, Option.filter]
  · simp [PinRequest.asks, hworkspace]

theorem mem_pinsFor : pin ∈ t.pinsFor workspace r ↔
    ⟨workspace, pin⟩ ∈ t.pins ∧ r.asks workspace ⟨workspace, pin⟩ = true := by
  rw [Tables.pinsFor, (perm_sortBy _ _).mem_iff, List.mem_filter, mem_pinsOf, PinRequest.asks]
  simp [and_assoc]

/-- A pin after a request was there before, or is one of the new ones. -/
theorem mem_bound (hrow : row ∈ (t.bound who now r config ids n).pins) :
    (∃ old ∈ t.pins, row = repointed who.workspace r.project who.user now r.targets old) ∨
      ∃ u, ∃ target ∈ r.unpinned t who.workspace,
        row = ⟨who.workspace, Pinning.newPin who now r.project config u target⟩ := by
  rcases List.mem_append.mp hrow with hstored | hadded
  · obtain ⟨old, hold, rfl⟩ := List.mem_map.mp hstored
    exact Or.inl ⟨old, hold, rfl⟩
  · obtain ⟨pin, hpin, rfl⟩ := List.mem_map.mp hadded
    obtain ⟨i, -, target, htarget, rfl⟩ := Program.mem_stamped hpin
    exact Or.inr ⟨_, target, htarget, rfl⟩

/-- After a request each of its environments has a pin. -/
theorem exists_bound (t : Tables) (who : Identity) (now : Instant) (config : ConfigId)
    (ids : Nat → Ulid) (n : Nat) {target : PinTarget} (htarget : target ∈ r.targets) :
    ∃ row ∈ (t.bound who now r config ids n).pins,
      row.envPlace = (who.workspace, r.project, target.env) := by
  by_cases hpinned : t.hasPin who.workspace r.project target.env = true
  · obtain ⟨old, hold, hplace⟩ := List.mem_map.mp (hasPin_iff.mp hpinned)
    exact ⟨_, List.mem_append_left _ (List.mem_map_of_mem hold),
      (envPlace_repointed _ _ _ _ _ _).trans hplace⟩
  · have hnew : target ∈ r.unpinned t who.workspace :=
      List.mem_filter.mpr ⟨htarget, by simpa using hpinned⟩
    obtain ⟨u, hu⟩ :=
      Program.exists_mem_stamped (Pinning.newPin who now r.project config) ids n hnew
    exact ⟨_, List.mem_append_right _ (List.mem_map_of_mem hu), rfl⟩

theorem unpinned_bound : r.unpinned (t.bound who now r config ids n) who.workspace = [] := by
  refine List.filter_eq_nil_iff.mpr fun target htarget => ?_
  obtain ⟨row, hrow, hplace⟩ := exists_bound t who now config ids n htarget
  have hpinned : (t.bound who now r config ids n).hasPin who.workspace r.project target.env =
      true := hasPin_iff.mpr (List.mem_map.mpr ⟨row, hrow, hplace⟩)
  rw [hpinned]
  exact Bool.false_ne_true

def Tables.renewed (t : Tables) (workspace : String) (r : PinRequest) (now : Instant) : Tables :=
  { t with pins := t.pins.map (r.renew workspace now) }

/-- Pins that are written again are answered with as they are, but for the time. -/
theorem pinsFor_renewed :
    (t.renewed workspace r now).pinsFor workspace r =
      (t.pinsFor workspace r).map (·.renewed now) := by
  have hasks : r.asks workspace ∘ r.renew workspace now = r.asks workspace :=
    funext fun row => PinRequest.asks_eq_of_place (r.envPlace_renew workspace now row)
  have hrecords : (((t.renewed workspace r now).pins.filter (r.asks workspace)).map (·.record)) =
      ((t.pins.filter (r.asks workspace)).map (·.record)).map (·.renewed now) := by
    rw [Tables.renewed, List.filter_map, hasks, List.map_map, List.map_map]
    refine List.map_congr_left fun row hrow => ?_
    rw [Function.comp_apply, Function.comp_apply, PinRequest.renew, if_pos (List.mem_filter.mp hrow).2]
  have hrelated : List.Forall₂ (fun pin again : Pin => pin.renewed now = again)
      (t.pinsFor workspace r) ((t.renewed workspace r now).pinsFor workspace r) := by
    rw [pinsFor_eq, pinsFor_eq, hrecords]
    refine forall₂_sortBy ?_ (List.forall₂_map_right_iff.mpr (List.forall₂_same.mpr fun _ _ => rfl))
    rintro pin again pin' again' rfl rfl
    rfl
  exact (List.forall₂_eq_eq_eq ▸ List.forall₂_map_left_iff.mpr hrelated).symm

theorem pinned_iff {env : String} {b : BlueprintId} :
    t.Pinned workspace project env b ↔
      ∃ row ∈ t.pins, row.envPlace = (workspace, project, env) ∧ row.record.blueprint = b := by
  constructor
  · rintro ⟨pin, hpin, rfl, rfl, rfl⟩
    exact ⟨⟨workspace, pin⟩, mem_recordsIn.mp hpin, rfl, rfl⟩
  · rintro ⟨⟨other, pin⟩, hrow, hplace, rfl⟩
    obtain ⟨rfl, hproject, henv⟩ := Scoped.envPlace_eq_iff.mp hplace
    exact ⟨pin, mem_recordsIn.mpr hrow, hproject, henv, rfl⟩

/-- What an environment is pinned to does not depend on when the pin was written. -/
theorem pinned_renewed {w env : String} {b : BlueprintId} :
    (t.renewed workspace r now).Pinned w project env b ↔ t.Pinned w project env b := by
  rw [pinned_iff, pinned_iff, Tables.renewed]
  simp

theorem renewed_eq_self (h : ∀ row ∈ t.pins, r.asks workspace row = true →
    row.record.audit.updatedAt = now) : t.renewed workspace r now = t := by
  have hsame : t.pins.map (r.renew workspace now) = t.pins := by
    refine (List.map_congr_left fun row hrow => ?_).trans (List.map_id' _)
    unfold PinRequest.renew
    split
    · rename_i hasks
      rw [Pin.renewed, ← h row hrow hasks]
    · rfl
  rw [Tables.renewed, hsame]

end Memory

/-- What a granted request leaves: the tables after it, and the pins that it is answered with. -/
structure Granted (who : Identity) (now : Instant) (r : PinRequest) (config : ConfigId)
    (ids : Nat → Ulid) (t t' : Memory.Tables) (pins : List Pin) : Prop where
  sorted : pins.Pairwise fun a b => a.env < b.env
  names : ∀ name, name ∈ pins.map (·.env) ↔ name ∈ r.names
  /-- The answer tells what is stored for the names. -/
  stored : ∀ pin, pin ∈ pins ↔
    ⟨who.workspace, pin⟩ ∈ t'.pins ∧ pin.project = r.project ∧ pin.env ∈ r.names
  targets : ∀ pin ∈ pins, ⟨pin.env, pin.blueprint⟩ ∈ r.targets ∧
    pin.audit.updatedBy = who.user ∧ pin.audit.updatedAt = now
  /-- An environment that had a pin keeps it. -/
  kept : ∀ old, ⟨who.workspace, old⟩ ∈ t.pins → old.project = r.project →
    ∀ pin ∈ pins, pin.env = old.env → pin.id = old.id ∧ pin.config = old.config ∧
      pin.audit.createdBy = old.audit.createdBy ∧ pin.audit.createdAt = old.audit.createdAt
  /-- The others have new pins, under the identifiers drawn in the order of the request. -/
  added : ∀ i target, (r.unpinned t who.workspace)[i]? = some target →
    { id := ⟨ids i⟩, project := r.project, config, env := target.env,
      blueprint := target.blueprint,
      audit := { createdBy := who.user, createdAt := now, updatedBy := who.user,
                 updatedAt := now } } ∈ pins
  others : t'.pins.filter (fun row => !r.asks who.workspace row) =
    t.pins.filter fun row => !r.asks who.workspace row
  rest : t' = { t with pins := t'.pins }

namespace Granted

variable {who : Identity} {now later : Instant} {r : PinRequest} {config : ConfigId}
  {ids : Nat → Ulid} {t t' : Memory.Tables} {pins : List Pin}

/-- A row that a request asks for has been pointed at a target of the request. -/
theorem target_of_asks {row : Scoped Pin} (hrow : row ∈ (t.bound who now r config ids 0).pins)
    (hasks : r.asks who.workspace row = true) :
    ∃ target ∈ r.targets, row.envPlace = (who.workspace, r.project, target.env) ∧
      row.record.blueprint = target.blueprint ∧ row.record.audit.updatedBy = who.user ∧
        row.record.audit.updatedAt = now := by
  rcases Memory.mem_bound hrow with ⟨old, -, rfl⟩ | ⟨u, target, htarget, rfl⟩
  · rcases Memory.repointed_cases who.workspace r.project who.user now r.targets old
      with ⟨target, htarget, hplace, hsame⟩ | ⟨hmiss, -⟩
    · rw [hsame]
      exact ⟨target, htarget, hplace, rfl, rfl, rfl⟩
    · obtain ⟨target, htarget, hplace⟩ := PinRequest.asks_iff.mp hasks
      rw [Memory.envPlace_repointed] at hplace
      exact absurd hplace (hmiss target htarget)
  · exact ⟨target, List.mem_of_mem_filter htarget, rfl, rfl, rfl, rfl⟩

/-- The row of an environment has been pointed at the target of this environment, as a request names
each environment once. -/
theorem pointed_of_place (hnames : r.names.Nodup) {row : Scoped Pin}
    (hrow : row ∈ (t.bound who now r config ids 0).pins) {target : PinTarget}
    (htarget : target ∈ r.targets)
    (hplace : row.envPlace = (who.workspace, r.project, target.env)) :
    row.record.blueprint = target.blueprint ∧ row.record.audit.updatedBy = who.user := by
  obtain ⟨first, hfirst, hpinned, hblueprint, huser, -⟩ :=
    target_of_asks hrow (PinRequest.asks_iff.mpr ⟨target, htarget, hplace⟩)
  have henv : first.env = target.env :=
    congrArg (fun place => place.2.2) (hpinned.symm.trans hplace)
  obtain rfl : first = target := List.inj_on_of_nodup_map hnames hfirst htarget henv
  exact ⟨hblueprint, huser⟩

/-- The pins of other environments are neither moved nor joined by others. -/
theorem others_bound :
    (t.bound who now r config ids 0).pins.filter (fun row => !r.asks who.workspace row) =
      t.pins.filter fun row => !r.asks who.workspace row := by
  have hadded : ((Program.stamped (Pinning.newPin who now r.project config) ids 0
      (r.unpinned t who.workspace)).map fun pin => (⟨who.workspace, pin⟩ : Scoped Pin)).filter
        (fun row => !r.asks who.workspace row) = [] := by
    refine List.filter_eq_nil_iff.mpr fun row hrow => ?_
    obtain ⟨pin, hpin, rfl⟩ := List.mem_map.mp hrow
    obtain ⟨i, -, target, htarget, rfl⟩ := Program.mem_stamped hpin
    have hasks : r.asks who.workspace
        ⟨who.workspace, Pinning.newPin who now r.project config (ids (0 + i)) target⟩ = true :=
      PinRequest.asks_iff.mpr ⟨target, List.mem_of_mem_filter htarget, rfl⟩
    rw [hasks]
    exact Bool.false_ne_true
  have hsame : (fun row => !r.asks who.workspace row) ∘
      Memory.repointed who.workspace r.project who.user now r.targets =
        fun row => !r.asks who.workspace row :=
    funext fun row => congrArg (!·)
      (PinRequest.asks_eq_of_place (Memory.envPlace_repointed _ _ _ _ _ row))
  rw [Memory.Tables.bound, List.filter_append, hadded, List.append_nil, List.filter_map, hsame]
  refine (List.map_congr_left fun row hrow => ?_).trans (List.map_id' _)
  have hother := (List.mem_filter.mp hrow).2
  rcases Memory.repointed_cases who.workspace r.project who.user now r.targets row
    with ⟨target, htarget, hplace, -⟩ | ⟨-, hleft⟩
  · rw [PinRequest.asks_iff.mpr ⟨target, htarget, hplace⟩] at hother
    cases hother
  · exact hleft

/-- Tables that a request has been granted on are as it says. -/
theorem of_bound (hafter : Memory.Constrained (t.bound who now r config ids 0)) :
    Granted who now r config ids t (t.bound who now r config ids 0)
      ((t.bound who now r config ids 0).pinsFor who.workspace r) where
  sorted := Memory.pairwise_pinsFor hafter who.workspace r
  names name := by
    rw [List.mem_map]
    constructor
    · rintro ⟨pin, hpin, rfl⟩
      obtain ⟨target, htarget, hplace⟩ := PinRequest.asks_iff.mp (Memory.mem_pinsFor.mp hpin).2
      have henv : pin.env = target.env := (Scoped.envPlace_eq_iff.mp hplace).2.2
      rw [henv]
      exact List.mem_map_of_mem htarget
    · intro hname
      obtain ⟨target, htarget, rfl⟩ := List.mem_map.mp hname
      obtain ⟨⟨workspace, pin⟩, hrow, hplace⟩ := Memory.exists_bound t who now config ids 0
        htarget
      have hasks := PinRequest.asks_iff.mpr ⟨target, htarget, hplace⟩
      obtain ⟨rfl, -, henv⟩ := Scoped.envPlace_eq_iff.mp hplace
      exact ⟨pin, Memory.mem_pinsFor.mpr ⟨hrow, hasks⟩, henv⟩
  stored pin := by
    rw [Memory.Tables.pinsFor, (perm_sortBy _ _).mem_iff, List.mem_filter, Memory.mem_pinsOf,
      List.contains_iff_mem, and_assoc]
  targets pin hpin := by
    obtain ⟨hrow, hasks⟩ := Memory.mem_pinsFor.mp hpin
    obtain ⟨target, htarget, hplace, hblueprint, hwritten⟩ := target_of_asks hrow hasks
    have henv : pin.env = target.env := (Scoped.envPlace_eq_iff.mp hplace).2.2
    refine ⟨?_, hwritten⟩
    rw [henv, show pin.blueprint = target.blueprint from hblueprint]
    exact htarget
  kept old hstored hproject pin hpin henv := by
    obtain ⟨hrow, hasks⟩ := Memory.mem_pinsFor.mp hpin
    let row : Scoped Pin := ⟨who.workspace, old⟩
    have hmoved : Memory.repointed who.workspace r.project who.user now r.targets row ∈
        (t.bound who now r config ids 0).pins :=
      List.mem_append_left _ (List.mem_map_of_mem hstored)
    -- An environment has one pin at most, so that the old one has become this one.
    have hplace : (⟨who.workspace, pin⟩ : Scoped Pin).envPlace = row.envPlace := by
      obtain ⟨target, -, hpinned⟩ := PinRequest.asks_iff.mp hasks
      have hsame : pin.project = r.project := (Scoped.envPlace_eq_iff.mp hpinned).2.1
      exact Scoped.envPlace_eq_iff.mpr ⟨rfl, hsame.trans hproject.symm, henv⟩
    have hsame := List.inj_on_of_nodup_map hafter.pinEnvs hrow hmoved
      (hplace.trans (Memory.envPlace_repointed _ _ _ _ _ row).symm)
    have hpin : pin =
        (Memory.repointed who.workspace r.project who.user now r.targets row).record :=
      congrArg Scoped.record hsame
    rcases Memory.repointed_cases who.workspace r.project who.user now r.targets row
      with ⟨target, -, -, hpointed⟩ | ⟨-, hleft⟩
    · rw [hpin, hpointed]
      exact ⟨rfl, rfl, rfl, rfl⟩
    · rw [hpin, hleft]
      exact ⟨rfl, rfl, rfl, rfl⟩
  added i target htarget := by
    have hnew := List.mem_of_mem_filter (List.mem_of_getElem? htarget)
    have hpin : Pinning.newPin who now r.project config (ids i) target ∈
        Program.stamped (Pinning.newPin who now r.project config) ids 0
          (r.unpinned t who.workspace) := by
      apply List.mem_of_getElem? (i := i)
      rw [Program.getElem?_stamped, htarget, Nat.zero_add, Option.map_some]
    exact Memory.mem_pinsFor.mpr ⟨List.mem_append_right _ (List.mem_map_of_mem hpin),
      PinRequest.asks_iff.mpr ⟨target, hnew, rfl⟩⟩
  others := others_bound
  rest := rfl

/-- A request that is granted anew finds its pins where it would have them. -/
theorem bound_again (hnames : r.names.Nodup) (config' : ConfigId) (ids' : Nat → Ulid) :
    (t.bound who now r config ids 0).bound who later r config' ids' 0 =
      (t.bound who now r config ids 0).renewed who.workspace r later := by
  rw [Memory.Tables.bound.eq_1 (t.bound who now r config ids 0), Memory.unpinned_bound]
  rw [Program.stamped, List.map_nil, List.append_nil, Memory.Tables.renewed]
  congr 1
  apply List.map_congr_left
  intro row hrow
  rcases Memory.repointed_cases who.workspace r.project who.user later r.targets row
    with ⟨target, htarget, hplace, hmoved⟩ | ⟨hmiss, hleft⟩
  · have hasks : r.asks who.workspace row = true :=
      PinRequest.asks_iff.mpr ⟨target, htarget, hplace⟩
    obtain ⟨hblueprint, huser⟩ := pointed_of_place hnames hrow htarget hplace
    rw [hmoved, PinRequest.renew, if_pos hasks, Pin.renewed, Memory.Work.moved, ← hblueprint,
      ← huser]
  · have hother : ¬r.asks who.workspace row = true := by
      rw [PinRequest.asks_iff]
      rintro ⟨target, htarget, hplace⟩
      exact hmiss target htarget hplace
    rw [hleft, PinRequest.renew, if_neg hother]

end Granted

end ConfigTimeline
