import ConfigTimeline.Proofs.Store.Cells
import ConfigTimeline.Proofs.Store.Queries
import ConfigTimeline.Proofs.Store.Selections

/-!
What has been inserted is what is read. Once a record is stored, every lookup that selects its row gives
the record again, equal in all of its fields; that is so of the rows of a batch as well, and whatever
else the tables hold. A lookup that lists rows may still be refused for another of them. Points in time
are taken to have years of four digits, which is what a row has room for.
-/

namespace ConfigTimeline.Database

theorem Reports.unique {α : Type} {outcome : Except StoreError α} {Spelled : α → Prop}
    (h : Reports outcome Spelled) {a b : α} (ha : Spelled a) (hb : Spelled b) : a = b :=
  Except.ok.inj (((h.ok_iff a).mpr ha).symm.trans ((h.ok_iff b).mpr hb))

section Spelling

variable (workspace : String)

theorem ConfigCells.spells_of {c : Config} (h : c.audit.Dated) :
    (ConfigCells.of workspace c).Spells c :=
  ((reports_read _).ok_iff c).mp ((read_of workspace c).of_sure h)

theorem BlueprintCells.spells_of (config : ConfigId) {b : Blueprint} (h : b.audit.Dated) :
    (BlueprintCells.of workspace config b).Spells b :=
  ((reports_read _).ok_iff b).mp ((read_of workspace config b).of_sure h)

theorem BlueprintCells.spellsKind_of (config : ConfigId) (b : Blueprint) :
    (BlueprintCells.of workspace config b).SpellsKind (b.id, b.kind) :=
  ((reports_readKind _).ok_iff _).mp (readKind_of workspace config b)

theorem ValueCells.spells_of (config : ConfigId) (v : ValueRow) :
    (ValueCells.of workspace config v).Spells v :=
  ((reports_read _).ok_iff v).mp (read_of workspace config v)

theorem PinCells.spells_of {p : Pin} (h : p.audit.Dated) : (PinCells.of workspace p).Spells p :=
  ((reports_read _).ok_iff p).mp ((read_of workspace p).of_sure h)

/-- A row that is pointed elsewhere spells out where it points now, and who pointed it there when. -/
theorem PinCells.Spells.moved {r : PinCells} {p : Pin} (h : r.Spells p) (user : String)
    {now : Instant} (hnow : now.FourDigitYear) (blueprint : BlueprintId) :
    (Work.moved user now blueprint r).Spells
      ⟨p.id, p.project, p.config, p.env, blueprint,
        ⟨p.audit.createdBy, p.audit.createdAt, user, now⟩⟩ := by
  have hblueprint := Id.parse_text blueprint
  have hupdatedAt := Instant.parseStrict_fullText hnow
  unfold Work.moved
  -- The texts are only known by how they are parsed, so that no step computes their characters.
  generalize blueprint.text = target at hblueprint
  generalize now.fullText = time at hupdatedAt
  exact ⟨h.id, h.project, h.config, h.env, hblueprint, h.audit.createdBy, h.audit.createdAt, rfl,
    hupdatedAt⟩

end Spelling

structure Legible (t : Tables) : Prop where
  configs : ∀ r ∈ t.configs, ∃ c, r.Spells c
  blueprints : ∀ r ∈ t.blueprints, ∃ b, r.Spells b
  values : ∀ r ∈ t.values, ∃ v, r.Spells v
  pins : ∀ r ∈ t.pins, ∃ p, r.Spells p

/-- A record is in the list that is answered. There may be none, but not if there is to be one for
`certain`. -/
structure Includes {α : Type} (certain : Prop) (outcome : Except StoreError (List α)) (a : α) :
    Prop where
  mem : ∀ answer, outcome = .ok answer → a ∈ answer
  answered : certain → ∃ answer, outcome = .ok answer

theorem exists_forall₂ {ρ α : Type} {R : ρ → α → Prop} {rows : List ρ}
    (h : ∀ row ∈ rows, ∃ record, R row record) : ∃ records, List.Forall₂ R rows records := by
  induction rows with
  | nil => exact ⟨[], .nil⟩
  | cons row rest ih =>
      obtain ⟨⟨record, hrecord⟩, hrest⟩ := List.forall_mem_cons.mp h
      obtain ⟨records, hrecords⟩ := ih hrest
      exact ⟨record :: records, .cons hrecord hrecords⟩

namespace Selection.Answers

variable {β : Type} {s : Selection β} {outcome : Except StoreError β}

/-- Where one row is selected, its record is all that the answer is made of. -/
theorem of_one (h : s.Answers outcome) {row : s.Row} {record : s.Record} (hrows : s.rows = [row])
    (hrow : s.Spells row record) : outcome = .ok (s.answer [record]) :=
  h.ok [record] (hrows ▸ .cons hrow .nil)

/-- An answer is made of the record of each row that is selected. -/
theorem mem (h : s.Answers outcome)
    (hunique : ∀ row a b, s.Spells row a → s.Spells row b → a = b) {row : s.Row}
    {record : s.Record} (hmem : row ∈ s.rows) (hrow : s.Spells row record) {answer : β}
    (hok : outcome = .ok answer) : ∃ records, answer = s.answer records ∧ record ∈ records := by
  have hall : ∀ row ∈ s.rows, ∃ record, s.Spells row record := by
    intro other hother
    by_contra hnone
    obtain ⟨damage, hcorrupt⟩ := h.corrupt other hother (not_exists.mp hnone)
    rw [hok] at hcorrupt
    cases hcorrupt
  obtain ⟨records, hrecords⟩ := exists_forall₂ hall
  obtain ⟨found, hfound, hspells⟩ := exists_of_forall₂ hrecords row hmem
  have hanswer := h.ok records hrecords
  rw [hok, Except.ok.injEq] at hanswer
  exact ⟨records, hanswer, hunique row found record hspells hrow ▸ hfound⟩

theorem answered (h : s.Answers outcome) (hall : ∀ row ∈ s.rows, ∃ record, s.Spells row record) :
    ∃ answer, outcome = .ok answer := by
  obtain ⟨records, hrecords⟩ := exists_forall₂ hall
  exact ⟨_, h.ok records hrecords⟩

/-- A lookup that lists the records of rows lists that of each row that it selects. -/
theorem includes {ρ α γ : Type} {rows : List ρ} {Spells : ρ → α → Prop} {f : α → γ}
    {outcome : Except StoreError (List γ)}
    (h : (⟨ρ, α, rows, Spells, List.map f⟩ : Selection (List γ)).Answers outcome)
    (hunique : ∀ row a b, Spells row a → Spells row b → a = b) {row : ρ} {record : α}
    (hmem : row ∈ rows) (hrow : Spells row record) {certain : Prop}
    (hall : certain → ∀ row ∈ rows, ∃ record, Spells row record) :
    Includes certain outcome (f record) where
  mem _ hok := by
    obtain ⟨records, rfl, hrecord⟩ := h.mem hunique hmem hrow hok
    exact List.mem_map_of_mem hrecord
  answered hcertain := h.answered (hall hcertain)

theorem lists {ρ α : Type} {rows : List ρ} {Spells : ρ → α → Prop}
    {outcome : Except StoreError (List α)}
    (h : (⟨ρ, α, rows, Spells, id⟩ : Selection (List α)).Answers outcome)
    (hunique : ∀ row a b, Spells row a → Spells row b → a = b) {row : ρ} {record : α}
    (hmem : row ∈ rows) (hrow : Spells row record) {certain : Prop}
    (hall : certain → ∀ row ∈ rows, ∃ record, Spells row record) :
    Includes certain outcome record := by
  rw [← List.map_id_fun] at h
  exact h.includes hunique hmem hrow hall

end Selection.Answers

/-- Of rows of which a test selects one at most, it selects none but the one that is known to be. -/
theorem filter_eq_singleton {ρ : Type} {rows : List ρ} {p : ρ → Bool} {row : ρ} (hmem : row ∈ rows)
    (hp : p row = true) (hone : (rows.filter p).length ≤ 1) : rows.filter p = [row] := by
  have hselected := List.mem_filter.mpr ⟨hmem, hp⟩
  cases hrows : rows.filter p with
  | nil =>
      rw [hrows] at hselected
      cases hselected
  | cons first rest =>
      rw [hrows] at hselected hone
      obtain rfl : rest = [] :=
        List.eq_nil_of_length_eq_zero (Nat.le_zero.mp (Nat.le_of_succ_le_succ hone))
      rw [List.mem_singleton.mp hselected]

section Lookups

variable {work : Work} (h : Keyed work.tables) {workspace : String}

structure ReadsConfig (work : Work) (workspace : String) (c : Config) : Prop where
  ofProject : (perform workspace (.configOf c.project) work).1 = .ok (some c)
  byId : (perform workspace (.configById c.id) work).1 = .ok (some c)

/-- Each lookup that selects the row of a blueprint gives the blueprint; one that asks for the kind
alone gives this, and one that asks for a page of the history gives the environments pinned to it as
well. -/
structure ReadsBlueprint (work : Work) (workspace : String) (config : ConfigId) (b : Blueprint) :
    Prop where
  byId : (perform workspace (.blueprintById b.id) work).1 = .ok (some b)
  ofKind : (perform workspace (.blueprintOfKind b.id b.project b.kind) work).1 = .ok (some b)
  latest :
    (work.tables.newestFirst workspace b.project b.kind).head? = some (.of workspace config b) →
      (perform workspace (.latest b.project b.kind) work).1 = .ok (some b)
  kinds : ∀ ids, b.id ∈ ids →
    Includes (Legible work.tables) (perform workspace (.kinds b.project ids) work).1 (b.id, b.kind)
  history : ∀ limit offset, offset ≤ Tables.maxOffset →
    .of workspace config b ∈
        ((work.tables.newestFirst workspace b.project .blueprint).drop offset).take limit →
      Includes (Legible work.tables) (perform workspace (.history b.project limit offset) work).1
        ⟨b, work.tables.envsOf workspace b.id, []⟩

structure ReadsValue (work : Work) (workspace : String) (v : ValueRow) : Prop where
  effective : ∀ blueprint, v.effectiveAt blueprint = true →
    Includes (Legible work.tables) (perform workspace (.effective v.project blueprint) work).1 v
  delta : Includes (Legible work.tables) (perform workspace (.delta v.validFrom) work).1 v
  rows : Includes (Legible work.tables) (perform workspace (.rows v.project) work).1 v

/-- Each lookup that selects the row of a pin gives the pin, or as much of it as is asked for. -/
structure ReadsPin (work : Work) (workspace : String) (p : Pin) : Prop where
  pinnedTo : (perform workspace (.pinnedTo p.project p.env) work).1 = .ok (some p.blueprint)
  envsOf : ∃ envs, (perform workspace (.envsOf p.blueprint) work).1 = .ok envs ∧ p.env ∈ envs
  pins : ∀ envs, p.env ∈ envs →
    Includes (Legible work.tables) (perform workspace (.pins p.project envs) work).1 p

include h

theorem readsConfig {c : Config} (hdated : c.audit.Dated)
    (hrow : .of workspace c ∈ work.tables.configs) : ReadsConfig work workspace c where
  ofProject :=
    (answers_perform h workspace (c := .configOf c.project) rfl (Nat.zero_le _)).of_one
      (filter_eq_singleton hrow (by simp [ConfigCells.of]) (h.configOf_le_one workspace c.project))
      (ConfigCells.spells_of workspace hdated)
  byId :=
    (answers_perform h workspace (c := .configById c.id) rfl (Nat.zero_le _)).of_one
      (filter_eq_singleton hrow (by simp [ConfigCells.of]) (h.configById_le_one workspace c.id))
      (ConfigCells.spells_of workspace hdated)

theorem readsBlueprint {config : ConfigId} {b : Blueprint} (hdated : b.audit.Dated)
    (hrow : .of workspace config b ∈ work.tables.blueprints) :
    ReadsBlueprint work workspace config b where
  byId :=
    (answers_perform h workspace (c := .blueprintById b.id) rfl (Nat.zero_le _)).of_one
      (filter_eq_singleton hrow (by simp [BlueprintCells.of])
        (h.blueprintById_le_one workspace b.id))
      (BlueprintCells.spells_of workspace config hdated)
  ofKind :=
    (answers_perform h workspace (c := .blueprintOfKind b.id b.project b.kind) rfl
      (Nat.zero_le _)).of_one
      (filter_eq_singleton hrow (by simp [BlueprintCells.of])
        (h.blueprintOfKind_le_one workspace b.id b.project b.kind))
      (BlueprintCells.spells_of workspace config hdated)
  latest hfirst := by
    have hone : (work.tables.newestFirst workspace b.project b.kind).take 1 =
        [.of workspace config b] := by
      obtain ⟨rest, hrows⟩ := List.head?_eq_some_iff.mp hfirst
      rw [hrows]
      rfl
    exact (answers_perform h workspace (c := .latest b.project b.kind) rfl (Nat.zero_le _)).of_one
      hone (BlueprintCells.spells_of workspace config hdated)
  kinds ids hid := by
    have hanswers := answers_perform h workspace (c := .kinds b.project ids) rfl (Nat.zero_le _)
    refine hanswers.lists (fun row _ _ ha hb => row.reports_readKind.unique ha hb) ?_
      (BlueprintCells.spellsKind_of workspace config b) ?_
    · refine (perm_sortBy _ _).mem_iff.mpr (List.mem_filter.mpr ⟨hrow, ?_⟩)
      simp [BlueprintCells.of, hid]
    · intro hlegible row hmem
      have hstored := (List.mem_filter.mp ((perm_sortBy _ _).mem_iff.mp hmem)).1
      obtain ⟨found, hfound⟩ := hlegible.blueprints row hstored
      exact ⟨(found.id, found.kind), hfound.id, hfound.kind⟩
  history limit offset hoffset hpage := by
    refine (answers_perform h workspace (c := .history b.project limit offset) rfl hoffset).includes
      (fun row _ _ ha hb => row.reports_read.unique ha hb) hpage
      (BlueprintCells.spells_of workspace config hdated) ?_
    intro hlegible row hmem
    have hstored := (perm_sortBy _ _).mem_iff.mp (List.mem_of_mem_drop (List.mem_of_mem_take hmem))
    exact hlegible.blueprints row (List.mem_filter.mp hstored).1

theorem readsValue {config : ConfigId} {v : ValueRow}
    (hrow : .of workspace config v ∈ work.tables.values) : ReadsValue work workspace v := by
  have hproject : .of workspace config v ∈ work.tables.valuesOf workspace v.project :=
    List.mem_filter.mpr ⟨hrow, by simp [ValueCells.of]⟩
  have hunique : ∀ (row : ValueCells) a b, row.Spells a → row.Spells b → a = b :=
    fun row _ _ ha hb => row.reports_read.unique ha hb
  have hspells := ValueCells.spells_of workspace config v
  have hlegible : Legible work.tables →
      ∀ row ∈ work.tables.valuesOf workspace v.project, ∃ record, row.Spells record :=
    fun hall row hmem => hall.values row (List.mem_filter.mp hmem).1
  constructor
  · intro blueprint heffective
    have hanswers := answers_perform h workspace (c := .effective v.project blueprint) rfl
      (Nat.zero_le _)
    refine hanswers.lists hunique ?_ hspells ?_
    · refine (perm_sortBy _ _).mem_iff.mpr (List.mem_filter.mpr ⟨hproject, ?_⟩)
      rw [Represents.effectiveAt_of, heffective]
    · intro hall row hmem
      exact hlegible hall row (List.mem_filter.mp ((perm_sortBy _ _).mem_iff.mp hmem)).1
  · have hanswers := answers_perform h workspace (c := .delta v.validFrom) rfl (Nat.zero_le _)
    refine hanswers.lists hunique ?_ hspells ?_
    · exact List.mem_filter.mpr ⟨hrow, by simp [ValueCells.of]⟩
    · intro hall row hmem
      exact hall.values row (List.mem_filter.mp hmem).1
  · have hanswers := answers_perform h workspace (c := .rows v.project) rfl (Nat.zero_le _)
    refine hanswers.lists hunique ((perm_sortBy _ _).mem_iff.mpr hproject) hspells ?_
    intro hall row hmem
    exact hlegible hall row ((perm_sortBy _ _).mem_iff.mp hmem)

theorem readsPin {p : Pin} (hdated : p.audit.Dated)
    (hrow : .of workspace p ∈ work.tables.pins) : ReadsPin work workspace p where
  pinnedTo :=
    (answers_perform h workspace (c := .pinnedTo p.project p.env) rfl (Nat.zero_le _)).of_one
      (filter_eq_singleton hrow (by simp [PinCells.of])
        (h.pinnedTo_le_one workspace p.project p.env))
      (PinCells.spells_of workspace hdated).blueprint
  envsOf := by
    have hselected : .of workspace p ∈ work.tables.pins.filter fun r =>
        r.workspace == workspace && r.blueprint == p.blueprint.text :=
      List.mem_filter.mpr ⟨hrow, by simp [PinCells.of]⟩
    have henv : p.env ∈ work.tables.envsOf workspace p.blueprint :=
      (perm_sortBy _ _).mem_iff.mpr (List.mem_map_of_mem (f := PinCells.env) hselected)
    exact ⟨_, rfl, henv⟩
  pins envs henv := by
    have hanswers := answers_perform h workspace (c := .pins p.project envs) rfl (Nat.zero_le _)
    refine hanswers.lists (fun row _ _ ha hb => row.reports_read.unique ha hb) ?_
      (PinCells.spells_of workspace hdated) ?_
    · refine (perm_sortBy _ _).mem_iff.mpr (List.mem_filter.mpr ⟨hrow, ?_⟩)
      simp [PinCells.of, henv]
    · intro hlegible row hmem
      have hstored := (perm_sortBy _ _).mem_iff.mp hmem
      exact hlegible.pins row (List.mem_filter.mp hstored).1

end Lookups

section Inserts

variable {workspace : String} {work after : Work}

theorem appended_of_ok {ρ : Type} (clash : List ρ → ρ → Option UniqueRule) {rows : List ρ}
    (batch : List ρ) (h : answerOf (appendUntilClash clash rows batch).2 = .ok ()) :
    (appendUntilClash clash rows batch).1 = rows ++ batch := by
  refine appendUntilClash_of_none ?_
  cases hbroken : (appendUntilClash clash rows batch).2 with
  | none => rfl
  | some rule =>
      rw [hbroken] at h
      cases h

theorem insertConfig_ok {c : Config}
    (h : perform workspace (.insertConfig c) work = (.ok (), after)) :
    after.tables.configs = work.tables.configs ++ [.of workspace c] := by
  unfold perform at h
  split at h
  · cases h
  · obtain ⟨hanswer, rfl⟩ := Prod.mk.inj h
    exact appended_of_ok configClash [.of workspace c] hanswer

theorem insertBlueprint_ok {config : ConfigId} {b : Blueprint}
    (h : perform workspace (.insertBlueprint config b) work = (.ok (), after)) :
    after.tables.blueprints = work.tables.blueprints ++ [.of workspace config b] := by
  unfold perform at h
  split at h
  · cases h
  · obtain ⟨hanswer, rfl⟩ := Prod.mk.inj h
    exact appended_of_ok blueprintClash [.of workspace config b] hanswer

theorem insertValues_ok {config : ConfigId} {rows : List ValueRow}
    (h : perform workspace (.insertValues config rows) work = (.ok (), after)) :
    after.tables.values = work.tables.values ++ rows.map (.of workspace config) := by
  unfold perform at h
  split at h
  · cases h
  · obtain ⟨hanswer, rfl⟩ := Prod.mk.inj h
    exact appended_of_ok valueClash _ hanswer

theorem insertPins_ok {pins : List Pin}
    (h : perform workspace (.insertPins pins) work = (.ok (), after)) :
    after.tables.pins = work.tables.pins ++ pins.map (.of workspace) := by
  unfold perform at h
  split at h
  · cases h
  · obtain ⟨hanswer, rfl⟩ := Prod.mk.inj h
    exact appended_of_ok pinClash _ hanswer

end Inserts

section Legible

variable {work : Work} (h : Legible work.tables) (workspace : String)

/-- What is stored of a batch is as each of its rows is. -/
theorem forall_appendUntilClash {ρ κ : Type} (clash : List ρ → ρ → Option κ) {rows : List ρ}
    (batch : List ρ) {P : ρ → Prop} (hrows : ∀ r ∈ rows, P r) (hbatch : ∀ r ∈ batch, P r) :
    ∀ r ∈ (appendUntilClash clash rows batch).1, P r := by
  obtain ⟨kept, hkept, hstored⟩ := appendUntilClash_extends clash rows batch
  rw [hstored]
  intro r hr
  rcases List.mem_append.mp hr with hold | hnew
  · exact hrows r hold
  · exact hbatch r (hkept.subset hnew)

include h

theorem legible_insertConfig {c : Config} (hdated : c.audit.Dated) :
    Legible (work.insertConfig workspace c).2.tables := by
  refine { h with
    configs := forall_appendUntilClash configClash [_] h.configs ?_ }
  exact List.forall_mem_singleton.mpr ⟨c, ConfigCells.spells_of workspace hdated⟩

theorem legible_insertBlueprint (config : ConfigId) {b : Blueprint} (hdated : b.audit.Dated) :
    Legible (work.insertBlueprint workspace config b).2.tables := by
  refine { h with
    blueprints := forall_appendUntilClash blueprintClash [_] h.blueprints ?_ }
  exact List.forall_mem_singleton.mpr ⟨b, BlueprintCells.spells_of workspace config hdated⟩

theorem legible_insertValues (config : ConfigId) (rows : List ValueRow) :
    Legible (work.insertValues workspace config rows).2.tables := by
  refine { h with values := forall_appendUntilClash valueClash _ h.values ?_ }
  exact List.forall_mem_map.mpr fun v _ => ⟨v, ValueCells.spells_of workspace config v⟩

theorem legible_insertPins {pins : List Pin} (hdated : ∀ p ∈ pins, p.audit.Dated) :
    Legible (work.insertPins workspace pins).2.tables := by
  refine { h with pins := forall_appendUntilClash pinClash _ h.pins ?_ }
  exact List.forall_mem_map.mpr fun p hp => ⟨p, PinCells.spells_of workspace (hdated p hp)⟩

theorem legible_closeValues (project : ProjectId) (validTo : BlueprintId) (keys : List String) :
    Legible (work.closeValues workspace project validTo keys).2.tables := by
  refine { h with values := List.forall_mem_map.mpr fun r hr => ?_ }
  obtain ⟨v, hv⟩ := h.values r hr
  split
  · exact ⟨{ v with validTo := some validTo }, { hv with
      validTo := by rw [Option.map_some, Option.map_some, Id.parse_text] }⟩
  · exact ⟨v, hv⟩

theorem legible_updatePins (project : ProjectId) (user : String) {now : Instant}
    (hnow : now.FourDigitYear) (targets : List PinTarget) :
    Legible (Work.updatePins workspace project user now targets work).2.tables := by
  induction targets generalizing work with
  | nil => exact h
  | cons target rest ih =>
      let move (r : PinCells) : PinCells :=
        if Work.names workspace project.text target.env r then
          Work.moved user now target.blueprint r
        else r
      have hmoved : ∀ r ∈ work.tables.pins, ∃ p, (move r).Spells p := by
        intro r hr
        obtain ⟨p, hp⟩ := h.pins r hr
        unfold move
        split
        · exact ⟨_, hp.moved user hnow target.blueprint⟩
        · exact ⟨p, hp⟩
      exact @ih ⟨work.mode, work.before, { work.tables with pins := work.tables.pins.map move }⟩
        { h with pins := List.forall_mem_map.mpr hmoved }

/-- Calls that bring along no points in time but those that rows have room for leave rows that spell out
records where there were such. -/
theorem legible_perform {c : Call} (hc : c.Dated) : Legible (perform workspace c work).2.tables := by
  cases hwrites : c.writes with
  | false =>
      rw [perform_of_reads hwrites]
      exact h
  | true =>
      unfold perform
      split
      · exact h
      · cases c with
        | insertConfig c => exact legible_insertConfig h workspace hc
        | insertBlueprint config b => exact legible_insertBlueprint h workspace config hc
        | closeValues project validTo keys =>
            exact legible_closeValues h workspace project validTo keys
        | insertValues config rows => exact legible_insertValues h workspace config rows
        | insertPins pins => exact legible_insertPins h workspace hc
        | updatePins project user now targets =>
            exact legible_updatePins h workspace project user hc targets
        | _ => cases hwrites

end Legible

/-- Tables that a call has left keep the rules, and where every row spelled out a record each does. -/
structure Kept (before after : Tables) : Prop where
  keyed : Keyed after
  legible : Legible before → Legible after

theorem kept_perform {workspace : String} {c : Call} {work after : Work} {answer}
    (hkeyed : Keyed work.tables) (hc : c.Dated) (h : perform workspace c work = (answer, after)) :
    Kept work.tables after.tables := by
  obtain rfl : (perform workspace c work).2 = after := congrArg Prod.snd h
  exact ⟨keyed_perform hkeyed workspace c, fun hlegible => legible_perform hlegible workspace hc⟩

/-- What has been inserted reads back as it was, in the same unit of work or in a later one that finds
the tables as the insertion has left them. -/
theorem inserted_rows_read_back {work after : Work} (workspace : String)
    (hkeyed : Keyed work.tables) :
    (∀ c : Config, c.audit.Dated →
      perform workspace (.insertConfig c) work = (.ok (), after) →
        Kept work.tables after.tables ∧
          ∀ later : Work, later.tables = after.tables → ReadsConfig later workspace c) ∧
    (∀ (config : ConfigId) (b : Blueprint), b.audit.Dated →
      perform workspace (.insertBlueprint config b) work = (.ok (), after) →
        Kept work.tables after.tables ∧
          ∀ later : Work, later.tables = after.tables → ReadsBlueprint later workspace config b) ∧
    (∀ (config : ConfigId) (rows : List ValueRow),
      perform workspace (.insertValues config rows) work = (.ok (), after) →
        Kept work.tables after.tables ∧
          ∀ later : Work, later.tables = after.tables →
            ∀ v ∈ rows, ReadsValue later workspace v) ∧
    ∀ pins : List Pin, (∀ p ∈ pins, p.audit.Dated) →
      perform workspace (.insertPins pins) work = (.ok (), after) →
        Kept work.tables after.tables ∧
          ∀ later : Work, later.tables = after.tables → ∀ p ∈ pins, ReadsPin later workspace p := by
  refine ⟨fun c hdated h => ?_, fun config b hdated h => ?_, fun config rows h => ?_,
    fun pins hdated h => ?_⟩
  · have hkept := kept_perform hkeyed (show Call.Dated (.insertConfig c) from hdated) h
    refine ⟨hkept, fun later htables => ?_⟩
    rw [← htables] at hkept
    refine readsConfig hkept.keyed hdated ?_
    rw [htables, insertConfig_ok h]
    exact List.mem_append_right _ List.mem_cons_self
  · have hkept := kept_perform hkeyed (show Call.Dated (.insertBlueprint config b) from hdated) h
    refine ⟨hkept, fun later htables => ?_⟩
    rw [← htables] at hkept
    refine readsBlueprint hkept.keyed hdated ?_
    rw [htables, insertBlueprint_ok h]
    exact List.mem_append_right _ List.mem_cons_self
  · have hkept := kept_perform hkeyed (show Call.Dated (.insertValues config rows) from trivial) h
    refine ⟨hkept, fun later htables v hv => ?_⟩
    rw [← htables] at hkept
    have hrow : ValueCells.of workspace config v ∈ later.tables.values := by
      rw [htables, insertValues_ok h]
      exact List.mem_append_right _ (List.mem_map_of_mem hv)
    exact readsValue hkept.keyed hrow
  · have hkept := kept_perform hkeyed (show Call.Dated (.insertPins pins) from hdated) h
    refine ⟨hkept, fun later htables p hp => ?_⟩
    rw [← htables] at hkept
    refine readsPin hkept.keyed (hdated p hp) ?_
    rw [htables, insertPins_ok h]
    exact List.mem_append_right _ (List.mem_map_of_mem hp)

/-- Records made in a leap second read back from tables that were empty. -/
theorem inserted_rows_read_back_leap :
    let leap : Instant :=
      ⟨⟨2016, 12, 31, by decide, by decide, by decide, by decide⟩,
        ⟨23, 59, 59, 1999999999, by decide, by decide, by decide, by decide, by decide⟩⟩
    let audit : Audit := ⟨"", leap, "ann", .ofUnix 1483228800 1⟩
    let config : Config := ⟨⟨.ofNat 1⟩, .ofNat 2, audit⟩
    let mask : Blueprint := ⟨⟨.ofNat 3⟩, .ofNat 2, .mask, some "", audit⟩
    let value : ValueRow := ⟨⟨.ofNat 4⟩, .ofNat 2, "key", "", .prompt, none, mask.id, some mask.id⟩
    let pin : Pin := ⟨⟨.ofNat 5⟩, .ofNat 2, config.id, "prod", mask.id, audit⟩
    let work : Work := ⟨.write, blank, .empty⟩
    let after (c : Call) : Work := (perform "w" c work).2
    ReadsConfig (after (.insertConfig config)) "w" config ∧
      ReadsBlueprint (after (.insertBlueprint config.id mask)) "w" config.id mask ∧
      ReadsValue (after (.insertValues config.id [value])) "w" value ∧
      ReadsPin (after (.insertPins [pin])) "w" pin := by
  intro leap audit config mask value pin work after
  have hdated : audit.Dated := by decide
  have hconfig : config.audit.Dated := hdated
  have hmask : mask.audit.Dated := hdated
  have hpin : ∀ p ∈ [pin], p.audit.Dated := List.forall_mem_singleton.mpr hdated
  clear_value config mask value pin
  have hfree : (perform "w" (.insertValues config.id [value]) work).1 = .ok () := by
    change answerOf (appendUntilClash valueClash [] [_]).2 = _
    simp [appendUntilClash, valueClash, answerOf]
  have hback (c : Call) := @inserted_rows_read_back work (after c) "w" keyed_empty
  refine ⟨?_, ?_, ?_, ?_⟩
  · exact ((hback _).1 config hconfig (Prod.ext rfl rfl)).2 _ rfl
  · exact ((hback _).2.1 config.id mask hmask (Prod.ext rfl rfl)).2 _ rfl
  · exact ((hback _).2.2.1 config.id [value] (Prod.ext hfree rfl)).2 _ rfl value List.mem_cons_self
  · exact ((hback _).2.2.2 [pin] hpin (Prod.ext rfl rfl)).2 _ rfl pin List.mem_cons_self

end ConfigTimeline.Database
