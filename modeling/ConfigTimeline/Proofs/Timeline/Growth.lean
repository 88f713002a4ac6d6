import Mathlib.Data.List.Forall2
import ConfigTimeline.Proofs.Store.Queries
import ConfigTimeline.Proofs.Timeline.Commits
import ConfigTimeline.Proofs.Timeline.Gapless

/-!
The rows of a project as the timelines of its keys, and how they grow. The rows of a key that last are
without a gap and hold, in order, what the commits of the project set the key to. A blueprint whose id
comes after those of all commits before it adds a commit, ends the open row of each key that it sets
and begins a new one. A mask adds rows that end where they begin.
-/

namespace ConfigTimeline

namespace ValueRow

def submitted (row : ValueRow) : NewValue := ⟨row.key, row.value, row.kind, row.description⟩

/-- The row does not end where it begins. -/
def lasts (row : ValueRow) : Bool := row.validTo != some row.validFrom

def replacedBy (b : BlueprintId) (keys : List String) (row : ValueRow) : ValueRow :=
  if row.key ∈ keys then row.endedAt b else row

variable {b : BlueprintId} {keys : List String} {row : ValueRow}

@[simp] theorem key_replacedBy : (row.replacedBy b keys).key = row.key := by
  unfold replacedBy endedAt
  split
  · split <;> rfl
  · rfl

@[simp] theorem project_replacedBy : (row.replacedBy b keys).project = row.project := by
  unfold replacedBy endedAt
  split
  · split <;> rfl
  · rfl

@[simp] theorem validFrom_replacedBy : (row.replacedBy b keys).validFrom = row.validFrom := by
  unfold replacedBy
  split
  · exact validFrom_endedAt b row
  · rfl

@[simp] theorem submitted_replacedBy : (row.replacedBy b keys).submitted = row.submitted := by
  unfold replacedBy endedAt
  split
  · split <;> rfl
  · rfl

/-- A row that is ended after it began lasts as it did. -/
theorem endsAtStart_replacedBy (h : row.isOpen = true → row.validFrom < b) :
    (row.replacedBy b keys).validTo = some row.validFrom ↔ row.validTo = some row.validFrom := by
  unfold replacedBy endedAt
  split
  · split
    · rename_i hopen
      have hlater := h hopen
      have hnone : row.validTo = none := Option.isNone_iff_eq_none.mp hopen
      simp [hnone, ne_of_gt hlater]
    · rfl
  · rfl

theorem lasts_replacedBy (h : row.isOpen = true → row.validFrom < b) :
    (row.replacedBy b keys).lasts = row.lasts := by
  unfold lasts
  rw [Bool.eq_iff_iff, bne_iff_ne, bne_iff_ne, validFrom_replacedBy]
  exact not_congr (endsAtStart_replacedBy h)

theorem endsAtStart_of_not_lasts (h : row.lasts = false) : row.validTo = some row.validFrom := by
  simpa [lasts] using h

theorem lasts_of_isOpen (h : row.isOpen = true) : row.lasts = true := by
  have hnone : row.validTo = none := Option.isNone_iff_eq_none.mp h
  simp [lasts, hnone]

/-- A row that ends where it begins is effective nowhere. -/
theorem effectiveAt_of_endsAtStart (h : row.validTo = some row.validFrom) (other : BlueprintId) :
    row.effectiveAt other = false := by
  simp [effectiveAt, h]

end ValueRow

def chain (key : String) (rows : List ValueRow) : List ValueRow :=
  rows.filter fun row => row.key == key && row.lasts

theorem chain_append (key : String) (left right : List ValueRow) :
    chain key (left ++ right) = chain key left ++ chain key right :=
  List.filter_append left right

theorem mem_chain {key : String} {rows : List ValueRow} {row : ValueRow} :
    row ∈ chain key rows ↔ row ∈ rows ∧ row.key = key ∧ row.lasts = true := by
  simp [chain, List.mem_filter]

theorem chain_replacedBy {b : BlueprintId} {rows : List ValueRow}
    (h : ∀ row ∈ rows, row.isOpen = true → row.validFrom < b) (keys : List String)
    (key : String) :
    chain key (rows.map (ValueRow.replacedBy b keys)) =
      (chain key rows).map (ValueRow.replacedBy b keys) := by
  unfold chain
  rw [List.filter_map]
  congr 1
  apply List.filter_congr
  intro row hrow
  simp only [Function.comp_apply, ValueRow.key_replacedBy]
  rw [ValueRow.lasts_replacedBy (h row hrow)]

theorem map_replacedBy_chain_of_mem {key : String} {keys : List String} (h : key ∈ keys)
    {b : BlueprintId} {rows : List ValueRow} :
    (chain key rows).map (ValueRow.replacedBy b keys) =
      (chain key rows).map (ValueRow.endedAt b) := by
  apply List.map_congr_left
  intro row hrow
  obtain ⟨_, rfl, _⟩ := mem_chain.mp hrow
  exact if_pos h

theorem map_replacedBy_chain_of_notMem {key : String} {keys : List String} (h : key ∉ keys)
    {b : BlueprintId} {rows : List ValueRow} :
    (chain key rows).map (ValueRow.replacedBy b keys) = chain key rows := by
  have hkept : ∀ row ∈ chain key rows, row.replacedBy b keys = row := by
    intro row hrow
    obtain ⟨_, rfl, _⟩ := mem_chain.mp hrow
    exact if_neg h
  exact (List.map_congr_left hkept).trans (List.map_id' _)

/-- The rows of a project are the timelines of its keys, as its commits made them. -/
structure Timeline (records : List Blueprint) (rows : List ValueRow)
    (commits : List Commit) : Prop where
  blueprints : (records.filter (·.kind == .blueprint)).map (·.id) =
    commits.map (·.blueprint)
  increasing : commits.Pairwise fun a b => a.blueprint < b.blueprint
  gapless : ∀ key, Gapless (chain key rows)
  values : ∀ key, (chain key rows).map (fun row => (row.validFrom, row.submitted)) =
    settings key commits
  introduced : ∀ row ∈ rows, ∃ b ∈ records, b.id = row.validFrom ∧
    (b.kind = .mask ↔ row.validTo = some row.validFrom)

/-- The open row of a value that a blueprint brings in. -/
structure ValueRow.Begins (b : BlueprintId) (v : NewValue) (row : ValueRow) : Prop where
  submitted : row.submitted = v
  validFrom : row.validFrom = b
  validTo : row.validTo = none

/-- The rows that a draft brings in for a key: one if it sets the key, else none. -/
theorem chain_of_draft {draft : Draft} {b : BlueprintId} {added : List ValueRow}
    (hkeys : draft.keys.Nodup) (hadded : List.Forall₂ (ValueRow.Begins b) draft.values added)
    (key : String) :
    (draft.value? key = none ∧ chain key added = []) ∨
      ∃ v row, draft.value? key = some v ∧ chain key added = [row] ∧ row.Begins b v := by
  have hchosen : List.Forall₂ (ValueRow.Begins b) (draft.value? key).toList
      (chain key added) := by
    rw [Draft.value?, ← filter_eq_toList_find? hkeys key]
    refine List.rel_filter ?_ hadded
    rintro v row ⟨rfl, rfl, hopen⟩
    simp [ValueRow.lasts, ValueRow.submitted, hopen]
  cases hvalue : draft.value? key with
  | none =>
      rw [hvalue] at hchosen
      exact Or.inl ⟨rfl, List.forall₂_nil_left_iff.mp hchosen⟩
  | some v =>
      rw [hvalue] at hchosen
      obtain ⟨row, rest, hrow, hrest, hchain⟩ := List.forall₂_cons_left_iff.mp hchosen
      rw [List.forall₂_nil_left_iff.mp hrest] at hchain
      exact Or.inr ⟨v, row, rfl, hchain, hrow⟩

namespace Timeline

variable {records : List Blueprint} {rows : List ValueRow} {commits : List Commit}

theorem nil : Timeline [] [] [] where
  blueprints := rfl
  increasing := List.Pairwise.nil
  gapless _ := trivial
  values _ := rfl
  introduced := List.forall_mem_nil _

/-- A row that lasts was brought in by a blueprint that is no mask. -/
theorem exists_blueprint (h : Timeline records rows commits) {row : ValueRow} (hrow : row ∈ rows)
    (hlasts : row.lasts = true) :
    ∃ b ∈ records, b.id = row.validFrom ∧ b.kind = .blueprint := by
  obtain ⟨b, hb, hid, hmask⟩ := h.introduced row hrow
  refine ⟨b, hb, hid, ?_⟩
  cases hkind : b.kind with
  | blueprint => rfl
  | mask => exact absurd (hmask.mp hkind) (bne_iff_ne.mp hlasts)

/-- Rows that last began before any blueprint that is newer than those of the timeline. -/
theorem validFrom_lt_of_lasts (h : Timeline records rows commits) {id : BlueprintId}
    (hnewer : ∀ b ∈ records, b.kind = .blueprint → b.id < id) :
    ∀ row ∈ rows, row.lasts = true → row.validFrom < id := by
  intro row hrow hlasts
  obtain ⟨b, hb, hid, hkind⟩ := h.exists_blueprint hrow hlasts
  rw [← hid]
  exact hnewer b hb hkind

/-- The blueprint of each commit is there. -/
theorem exists_record (h : Timeline records rows commits) {c : Commit} (hc : c ∈ commits) :
    ∃ b ∈ records, b.kind = .blueprint ∧ b.id = c.blueprint := by
  have hmem : c.blueprint ∈ (records.filter (·.kind == .blueprint)).map (·.id) := by
    rw [h.blueprints]
    exact List.mem_map_of_mem hc
  obtain ⟨b, hb, hid⟩ := List.mem_map.mp hmem
  rw [List.mem_filter, beq_iff_eq] at hb
  exact ⟨b, hb.1, hb.2, hid⟩

/-- Each blueprint that is there was committed. -/
theorem exists_commit (h : Timeline records rows commits) {b : Blueprint} (hb : b ∈ records)
    (hkind : b.kind = .blueprint) : ∃ c ∈ commits, c.blueprint = b.id := by
  have hmem : b.id ∈ commits.map (·.blueprint) := by
    rw [← h.blueprints]
    exact List.mem_map_of_mem (List.mem_filter.mpr ⟨hb, beq_iff_eq.mpr hkind⟩)
  exact List.mem_map.mp hmem

section Append

variable {draft : Draft} {id : BlueprintId} {added : List ValueRow}

theorem chain_after (h : Timeline records rows commits)
    (hnewer : ∀ b ∈ records, b.kind = .blueprint → b.id < id) (keys : List String)
    (key : String) :
    chain key (rows.map (ValueRow.replacedBy id keys) ++ added) =
      (chain key rows).map (ValueRow.replacedBy id keys) ++ chain key added := by
  rw [chain_append, chain_replacedBy]
  intro row hrow hopen
  exact h.validFrom_lt_of_lasts hnewer row hrow (ValueRow.lasts_of_isOpen hopen)

theorem gapless_after (h : Timeline records rows commits) (hkeys : draft.keys.Nodup)
    (hnewer : ∀ b ∈ records, b.kind = .blueprint → b.id < id)
    (hadded : List.Forall₂ (ValueRow.Begins id) draft.values added) (key : String) :
    Gapless (chain key (rows.map (ValueRow.replacedBy id draft.keys) ++ added)) := by
  rw [h.chain_after hnewer]
  rcases chain_of_draft hkeys hadded key with ⟨hnone, hchain⟩ | ⟨v, row, hsome, hchain, hrow⟩
  · rw [hchain, List.append_nil, map_replacedBy_chain_of_notMem (Draft.value?_eq_none.mp hnone)]
    exact h.gapless key
  · -- The key is set anew: its open row ends where the new one begins.
    have hkey : key ∈ draft.keys := by
      by_contra hnot
      rw [Draft.value?_eq_none.mpr hnot] at hsome
      cases hsome
    rw [hchain, map_replacedBy_chain_of_mem hkey]
    refine (h.gapless key).append ?_ hrow.validFrom hrow.validTo
    intro old hmem
    obtain ⟨hstored, _, hlasts⟩ := mem_chain.mp hmem
    exact h.validFrom_lt_of_lasts hnewer old hstored hlasts

theorem values_after (h : Timeline records rows commits) (hkeys : draft.keys.Nodup)
    (hnewer : ∀ b ∈ records, b.kind = .blueprint → b.id < id)
    (hadded : List.Forall₂ (ValueRow.Begins id) draft.values added) (key : String) :
    (chain key (rows.map (ValueRow.replacedBy id draft.keys) ++ added)).map
        (fun row => (row.validFrom, row.submitted)) =
      settings key (commits ++ [⟨id, draft⟩]) := by
  rw [h.chain_after hnewer, settings_append, List.map_append, ← h.values key, List.map_map]
  congr 1
  · apply List.map_congr_left
    intro row _
    simp
  · rcases chain_of_draft hkeys hadded key with ⟨hnone, hchain⟩ | ⟨v, row, hsome, hchain, hrow⟩
    · simp [settings, hnone, hchain]
    · simp [settings, hsome, hchain, hrow.validFrom, hrow.submitted]

theorem introduced_after (h : Timeline records rows commits) {blueprint : Blueprint}
    (hkind : blueprint.kind = .blueprint)
    (hnewer : ∀ b ∈ records, b.kind = .blueprint → b.id < blueprint.id)
    (hadded : List.Forall₂ (ValueRow.Begins blueprint.id) draft.values added) :
    ∀ row ∈ rows.map (ValueRow.replacedBy blueprint.id draft.keys) ++ added,
      ∃ b ∈ records ++ [blueprint], b.id = row.validFrom ∧
        (b.kind = .mask ↔ row.validTo = some row.validFrom) := by
  intro row hrow
  rcases List.mem_append.mp hrow with hold | hnew
  · obtain ⟨old, hmem, rfl⟩ := List.mem_map.mp hold
    obtain ⟨b, hb, hid, hmask⟩ := h.introduced old hmem
    have hopen : old.isOpen = true → old.validFrom < blueprint.id := fun hopen =>
      h.validFrom_lt_of_lasts hnewer old hmem (ValueRow.lasts_of_isOpen hopen)
    refine ⟨b, List.mem_append_left _ hb, ?_, ?_⟩
    · rw [ValueRow.validFrom_replacedBy, hid]
    · rw [ValueRow.validFrom_replacedBy, ValueRow.endsAtStart_replacedBy hopen]
      exact hmask
  · have hbegins : ∀ row ∈ added, row.validFrom = blueprint.id ∧ row.validTo = none :=
      forall₂_forall_right hadded fun _ _ hrow => ⟨hrow.validFrom, hrow.validTo⟩
    obtain ⟨hfrom, hopen⟩ := hbegins row hnew
    refine ⟨blueprint, List.mem_append_right _ List.mem_cons_self, hfrom.symm, ?_⟩
    simp [hkind, hopen]

/-- A blueprint newer than all before it goes on with the timelines. -/
theorem append_blueprint (h : Timeline records rows commits) (hkeys : draft.keys.Nodup)
    {blueprint : Blueprint} (hkind : blueprint.kind = .blueprint)
    (hnewer : ∀ b ∈ records, b.kind = .blueprint → b.id < blueprint.id)
    (hadded : List.Forall₂ (ValueRow.Begins blueprint.id) draft.values added) :
    Timeline (records ++ [blueprint])
      (rows.map (ValueRow.replacedBy blueprint.id draft.keys) ++ added)
      (commits ++ [⟨blueprint.id, draft⟩]) := by
  refine {
    blueprints := ?_
    increasing := ?_
    gapless := h.gapless_after hkeys hnewer hadded
    values := h.values_after hkeys hnewer hadded
    introduced := h.introduced_after hkind hnewer hadded }
  · simp [hkind, h.blueprints]
  · rw [List.pairwise_append]
    refine ⟨h.increasing, List.pairwise_singleton _ _, ?_⟩
    intro c hc last hlast
    obtain ⟨b, hb, hblueprint, hid⟩ := h.exists_record hc
    rw [List.mem_singleton.mp hlast, ← hid]
    exact hnewer b hb hblueprint

/-- A mask leaves the timelines as they are. -/
theorem append_mask (h : Timeline records rows commits) {mask : Blueprint}
    (hkind : mask.kind = .mask)
    (hadded : ∀ row ∈ added, row.validFrom = mask.id ∧ row.validTo = some mask.id) :
    Timeline (records ++ [mask]) (rows ++ added) commits := by
  have hchain : ∀ key, chain key (rows ++ added) = chain key rows := by
    intro key
    have hnone : chain key added = [] := by
      rw [chain, List.filter_eq_nil_iff]
      intro row hrow
      obtain ⟨hfrom, hto⟩ := hadded row hrow
      simp [ValueRow.lasts, hfrom, hto]
    rw [chain_append, hnone, List.append_nil]
  refine {
    blueprints := ?_
    increasing := h.increasing
    gapless := ?_
    values := ?_
    introduced := ?_ }
  · simp [hkind, h.blueprints]
  · intro key
    rw [hchain]
    exact h.gapless key
  · intro key
    rw [hchain]
    exact h.values key
  · intro row hrow
    rcases List.mem_append.mp hrow with hold | hnew
    · obtain ⟨b, hb, hintroduced⟩ := h.introduced row hold
      exact ⟨b, List.mem_append_left _ hb, hintroduced⟩
    · obtain ⟨hfrom, hto⟩ := hadded row hnew
      refine ⟨mask, List.mem_append_right _ List.mem_cons_self, hfrom.symm, ?_⟩
      simp [hkind, hfrom, hto]

end Append

end Timeline

end ConfigTimeline
