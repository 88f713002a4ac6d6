import ConfigTimeline.Proofs.Store.Moves
import ConfigTimeline.Proofs.Store.Queries
import ConfigTimeline.Store.Database.Unit

/-!
One call on a database and the same call on tables in memory that it stands for. Afterwards the
database stands for the tables as the call left them, and callers take its answer for the one from
memory: lists that have no order count as collections, and refusals count by their kind. Only a read
of records whose points in time have no room in a row, or one that is to skip too many records, may be
refused by the database alone.
-/

namespace ConfigTimeline

/-- Outcomes that callers take for the same, given which answers they do. Of refusals only the kind
counts. -/
def AgreeBy {α : Type} (same : α → α → Prop) :
    Except StoreError α → Except StoreError α → Prop
  | .ok a, .ok b => same a b
  | .error e, .error f => e.kind = f.kind
  | _, _ => False

namespace Call

/-- The answers that callers take for the same. The order of a list counts only where it is part of
the answer. -/
def Same : (c : Call) → c.Answer → c.Answer → Prop
  | .kinds _ _, a, b => List.Perm a b
  | .effective _ _, a, b => List.Perm a b
  | .delta _, a, b => List.Perm a b
  | .rows _, a, b => List.Perm a b
  | .pins _ _, a, b => List.Perm a b
  | _, a, b => a = b

abbrev Agree (c : Call) (a b : Except StoreError c.Answer) : Prop := AgreeBy c.Same a b

def skips : Call → Nat
  | .history _ _ offset => offset
  | _ => 0

/-- The blueprints whose kinds a call asks for. -/
def asked : Call → List BlueprintId
  | .kinds _ ids => ids
  | _ => []

/-- An outcome that a store may have for a call that has another on tables in memory. A store that is
not to be `sure` may refuse a call that reads. -/
def MayAnswer (sure : Prop) (c : Call) (outcome reference : Except StoreError c.Answer) : Prop :=
  c.Agree outcome reference ∨ ¬sure ∧ c.writes = false ∧ ∃ e, outcome = .error e

theorem same_refl {c : Call} (a : c.Answer) : c.Same a a := by
  cases c <;> first | exact List.Perm.refl _ | rfl

theorem agree_refl {c : Call} (outcome : Except StoreError c.Answer) : c.Agree outcome outcome := by
  cases outcome with
  | ok a => exact same_refl a
  | error e => rfl

end Call

namespace Database

theorem configClash_eq_none {rows : List ConfigCells} {row : ConfigCells} :
    configClash rows row = none ↔ ∀ r ∈ rows, r.workspace = row.workspace →
      r.id ≠ row.id ∧ r.project ≠ row.project := by
  unfold configClash
  grind

theorem blueprintClash_eq_none {rows : List BlueprintCells} {row : BlueprintCells} :
    blueprintClash rows row = none ↔
      ∀ r ∈ rows, r.workspace = row.workspace → r.id ≠ row.id := by
  unfold blueprintClash
  grind

theorem valueClash_eq_none {rows : List ValueCells} {row : ValueCells} :
    valueClash rows row = none ↔ ∀ r ∈ rows, r.workspace = row.workspace →
      r.id ≠ row.id ∧ (r.validTo.isNone = true → row.validTo.isNone = true →
        ¬(r.project = row.project ∧ r.key = row.key)) := by
  unfold valueClash
  grind

theorem pinClash_eq_none {rows : List PinCells} {row : PinCells} :
    pinClash rows row = none ↔ ∀ r ∈ rows, r.workspace = row.workspace →
      r.id ≠ row.id ∧ ¬(r.project = row.project ∧ r.env = row.env) := by
  unfold pinClash
  grind

theorem agree_answerOf {broken : Option UniqueRule} {clash : Option Clash}
    (h : broken = none ↔ clash = none) :
    AgreeBy (· = ·) (answerOf broken) (Memory.answerOf clash) := by
  cases broken with
  | none =>
      rw [h.mp rfl]
      rfl
  | some rule =>
      cases clash with
      | none => simp at h
      | some clash => rfl

section Writes

variable {d : Work} {m : Memory.Work} (h : Represents d.tables m.tables) (workspace : String)

include h

theorem insertConfig_represents (config : Config) :
    Represents (d.insertConfig workspace config).2.tables
        (m.insertConfig workspace config).2.tables ∧
      AgreeBy (· = ·) (d.insertConfig workspace config).1 (m.insertConfig workspace config).1 := by
  have hclash : configClash d.tables.configs (.of workspace config) = none ↔
      Memory.configClash m.tables.configs ⟨workspace, config⟩ = none := by
    rw [configClash_eq_none, Memory.configClash_eq_none]
    apply forall₂_forall_mem h.configs
    rintro _ r rfl
    simp [ConfigCells.of]
  unfold Work.insertConfig Memory.Work.insertConfig
  cases hm : Memory.configClash m.tables.configs ⟨workspace, config⟩ with
  | none =>
      have hd := hclash.mpr hm
      simp only [appendUntilClash, hd]
      exact ⟨{ h with configs := List.rel_append h.configs (.cons rfl .nil) }, trivial⟩
  | some clash =>
      obtain ⟨rule, hd⟩ := Option.ne_none_iff_exists'.mp
        (fun hnone => by simp [hclash.mp hnone] at hm :
          configClash d.tables.configs (.of workspace config) ≠ none)
      simp only [appendUntilClash, hd]
      exact ⟨h, rfl⟩

theorem insertBlueprint_represents (config : ConfigId) (blueprint : Blueprint) :
    Represents (d.insertBlueprint workspace config blueprint).2.tables
        (m.insertBlueprint workspace blueprint).2.tables ∧
      AgreeBy (· = ·) (d.insertBlueprint workspace config blueprint).1
        (m.insertBlueprint workspace blueprint).1 := by
  have hclash : blueprintClash d.tables.blueprints (.of workspace config blueprint) = none ↔
      Memory.blueprintClash m.tables.blueprints ⟨workspace, blueprint⟩ = none := by
    rw [blueprintClash_eq_none, Memory.blueprintClash_eq_none]
    apply forall₂_forall_mem h.blueprints
    rintro _ r ⟨_, rfl⟩
    simp [BlueprintCells.of]
  unfold Work.insertBlueprint Memory.Work.insertBlueprint
  cases hm : Memory.blueprintClash m.tables.blueprints ⟨workspace, blueprint⟩ with
  | none =>
      have hd := hclash.mpr hm
      simp only [appendUntilClash, hd]
      exact ⟨{ h with blueprints := List.rel_append h.blueprints (.cons ⟨config, rfl⟩ .nil) },
        trivial⟩
  | some clash =>
      obtain ⟨rule, hd⟩ := Option.ne_none_iff_exists'.mp
        (fun hnone => by simp [hclash.mp hnone] at hm :
          blueprintClash d.tables.blueprints (.of workspace config blueprint) ≠ none)
      simp only [appendUntilClash, hd]
      exact ⟨h, rfl⟩

theorem insertValues_represents (config : ConfigId) (rows : List ValueRow) :
    Represents (d.insertValues workspace config rows).2.tables
        (m.insertValues workspace rows).2.tables ∧
      AgreeBy (· = ·) (d.insertValues workspace config rows).1
        (m.insertValues workspace rows).1 := by
  have hbatch : List.Forall₂
      (fun cells (row : Scoped ValueRow) =>
        ∃ config, cells = ValueCells.of row.workspace config row.record)
      (rows.map (ValueCells.of workspace config)) (rows.map fun row => ⟨workspace, row⟩) := by
    rw [List.forall₂_map_left_iff, List.forall₂_map_right_iff, List.forall₂_same]
    intro row _
    exact ⟨config, rfl⟩
  have hclash : ∀ xs ys x y,
      List.Forall₂ (fun cells (row : Scoped ValueRow) =>
        ∃ config, cells = ValueCells.of row.workspace config row.record) xs ys →
      (∃ config, x = ValueCells.of y.workspace config y.record) →
      (valueClash xs x = none ↔ Memory.valueClash ys y = none) := by
    rintro xs ys _ y hxs ⟨_, rfl⟩
    rw [valueClash_eq_none, Memory.valueClash_eq_none]
    apply forall₂_forall_mem hxs
    rintro _ r ⟨_, rfl⟩
    simp only [ValueCells.of, ne_eq, Id.text_inj, Option.isNone_map, ProjectId.text_inj,
      ValueRow.isOpen, Scoped.keyPlace, Prod.mk.injEq]
    tauto
  obtain ⟨hrows, hstop⟩ := forall₂_appendUntilClash hclash hbatch h.values
  exact ⟨{ h with values := hrows }, agree_answerOf hstop⟩

theorem insertPins_represents (rows : List Pin) :
    Represents (d.insertPins workspace rows).2.tables (m.insertPins workspace rows).2.tables ∧
      AgreeBy (· = ·) (d.insertPins workspace rows).1 (m.insertPins workspace rows).1 := by
  have hbatch : List.Forall₂
      (fun cells (row : Scoped Pin) => cells = PinCells.of row.workspace row.record)
      (rows.map (PinCells.of workspace)) (rows.map fun row => ⟨workspace, row⟩) := by
    rw [List.forall₂_map_left_iff, List.forall₂_map_right_iff, List.forall₂_same]
    intro row _
    rfl
  have hclash : ∀ xs ys x y,
      List.Forall₂ (fun cells (row : Scoped Pin) => cells = PinCells.of row.workspace row.record)
        xs ys →
      x = PinCells.of y.workspace y.record →
      (pinClash xs x = none ↔ Memory.pinClash ys y = none) := by
    rintro xs ys _ y hxs rfl
    rw [pinClash_eq_none, Memory.pinClash_eq_none]
    apply forall₂_forall_mem hxs
    rintro _ r rfl
    simp only [PinCells.of, ne_eq, Id.text_inj, ProjectId.text_inj, Scoped.envPlace, Prod.mk.injEq]
    tauto
  obtain ⟨hrows, hstop⟩ := forall₂_appendUntilClash hclash hbatch h.pins
  exact ⟨{ h with pins := hrows }, agree_answerOf hstop⟩

theorem closeValues_represents (project : ProjectId) (validTo : BlueprintId)
    (keys : List String) :
    Represents (d.closeValues workspace project validTo keys).2.tables
        (m.closeValues workspace project validTo keys).2.tables ∧
      (d.closeValues workspace project validTo keys).1 =
        (m.closeValues workspace project validTo keys).1 := by
  have hhit : ∀ cells : ValueCells, ∀ row : Scoped ValueRow,
      (∃ config, cells = .of row.workspace config row.record) →
      Work.closes workspace project.text keys cells =
        Memory.Work.closes workspace project keys row := by
    rintro _ row ⟨_, rfl⟩
    simp only [Work.closes, Memory.Work.closes, ValueCells.of, ProjectId.text_beq_text,
      Option.isNone_map, ValueRow.isOpen]
  rw [Memory.closeValues_eq]
  refine ⟨{ h with values := ?_ }, ?_⟩
  · apply forall₂_map h.values
    rintro cells row hcells
    rw [hhit cells row hcells]
    obtain ⟨config, rfl⟩ := hcells
    split
    · exact ⟨config, rfl⟩
    · exact ⟨config, rfl⟩
  · simp only [Work.closeValues]
    rw [Memory.length_places]
    exact forall₂_countP h.values hhit

theorem updatePins_represents (hpins : (m.tables.pins.map Scoped.envPlace).Nodup)
    (project : ProjectId) (user : String) (now : Instant) (targets : List PinTarget) :
    Represents (Work.updatePins workspace project user now targets d).2.tables
        (Memory.Work.updatePins workspace project user now targets m).2.tables ∧
      (Work.updatePins workspace project user now targets d).1 =
        (Memory.Work.updatePins workspace project user now targets m).1 := by
  induction targets generalizing d m with
  | nil => exact ⟨h, rfl⟩
  | cons target rest ih =>
      have hhit : ∀ cells : PinCells, ∀ row : Scoped Pin,
          cells = .of row.workspace row.record →
          Work.names workspace project.text target.env cells =
            Memory.pinsEnv workspace project target.env row := by
        rintro _ row rfl
        simp only [Work.names, Memory.pinsEnv, PinCells.of, ProjectId.text_beq_text]
      obtain ⟨hfound, htables⟩ := Memory.updatePin_eq hpins workspace project user now target
      have hmoved : List.Forall₂ (fun cells (row : Scoped Pin) =>
          cells = PinCells.of row.workspace row.record)
          (d.tables.pins.map fun r =>
            if Work.names workspace project.text target.env r then
              Work.moved user now target.blueprint r
            else r)
          (Memory.movedPins workspace project user now target m.tables.pins) := by
        apply forall₂_map h.pins
        rintro cells row hcells
        rw [hhit cells row hcells, hcells]
        split <;> rfl
      have hcount := forall₂_countP h.pins hhit
      have hrest := ih
        (d := { d with
          tables := { d.tables with
            pins := d.tables.pins.map fun r =>
              if Work.names workspace project.text target.env r then
                Work.moved user now target.blueprint r
              else r } })
        (m := (m.updatePin workspace project user now target).2)
        (by
          rw [htables]
          exact { h with pins := hmoved })
        (by
          rw [htables, Memory.map_envPlace_movedPins]
          exact hpins)
      refine ⟨hrest.1, ?_⟩
      simp only [Work.updatePins, Memory.Work.updatePins]
      rw [hcount, hfound, hrest.2]

end Writes

/-- Readings of records agree with what they give, if they are sure to give it. -/
theorem ReadsAs.mayAnswer {c : Call} {sure strict : Prop} {outcome : Except StoreError c.Answer}
    {a b : c.Answer} (h : ReadsAs sure outcome a) (hsame : c.Same a b) (hreads : c.writes = false)
    (hstrict : strict → sure) : c.MayAnswer strict outcome (.ok b) := by
  rcases h with rfl | ⟨hnot, damage, rfl⟩
  · exact Or.inl hsame
  · exact Or.inr ⟨fun hs => hnot (hstrict hs), hreads, _, rfl⟩

/-- A database that stands for tables goes on to stand for them through every call, and answers it as
they do. -/
theorem perform_represents {d : Work} {m : Memory.Work} (h : Represents d.tables m.tables)
    (hconstrained : Memory.Constrained m.tables) (hmode : d.mode = m.mode) (workspace : String)
    {c : Call} (hwrites : c.writes = true → m.mode = .write) (hasked : c.asked.Nodup) :
    Represents (perform workspace c d).2.tables (Memory.perform workspace c m).2.tables ∧
      c.MayAnswer (m.tables.Dated ∧ c.skips ≤ Tables.maxOffset) (perform workspace c d).1
        (Memory.perform workspace c m).1 := by
  have hdated : m.tables.Dated ∧ c.skips ≤ Tables.maxOffset → m.tables.Dated := And.left
  cases c with
  | configOf project =>
      exact ⟨h, (h.configOf workspace project).mayAnswer rfl rfl hdated⟩
  | configById id => exact ⟨h, (h.configById workspace id).mayAnswer rfl rfl hdated⟩
  | insertConfig config =>
      have hm := hwrites rfl
      simp only [perform, Memory.perform, needsWrite, Call.writes, hmode, hm]
      have hstep := insertConfig_represents h workspace config
      exact ⟨hstep.1, Or.inl hstep.2⟩
  | insertBlueprint config blueprint =>
      have hm := hwrites rfl
      simp only [perform, Memory.perform, needsWrite, Call.writes, hmode, hm]
      have hstep := insertBlueprint_represents h workspace config blueprint
      exact ⟨hstep.1, Or.inl hstep.2⟩
  | blueprintById id => exact ⟨h, (h.blueprintById workspace id).mayAnswer rfl rfl hdated⟩
  | blueprintOfKind id project kind =>
      exact ⟨h, (h.blueprintOfKind workspace hconstrained id project kind).mayAnswer rfl rfl hdated⟩
  | latest project kind => exact ⟨h, (h.latest workspace project kind).mayAnswer rfl rfl hdated⟩
  | kinds project ids =>
      obtain ⟨found, hperm, hok⟩ := h.kinds workspace hconstrained project hasked
      exact ⟨h, ReadsAs.mayAnswer (Or.inl hok) hperm rfl hdated⟩
  | history project limit offset =>
      by_cases hoffset : offset ≤ Tables.maxOffset
      · exact ⟨h, (h.history workspace project limit hoffset).mayAnswer rfl rfl hdated⟩
      · -- Only the database counts how many records it is to skip.
        refine ⟨h, Or.inr ⟨fun hsure => hoffset hsure.2, rfl, .backend (.offset offset), ?_⟩⟩
        exact if_pos (Nat.lt_of_not_le hoffset)
  | count project =>
      exact ⟨h, Or.inl (h.newestFirst workspace project .blueprint).length_eq⟩
  | closeValues project validTo keys =>
      have hm := hwrites rfl
      have hstep := closeValues_represents h workspace project validTo keys
      have hd : (needsWrite (.closeValues project validTo keys) && d.mode == .read) = false := by
        rw [hmode, hm]
        exact Bool.and_false _
      simp only [perform, Memory.perform, hd, Call.writes, hm]
      exact ⟨hstep.1, Or.inl hstep.2⟩
  | insertValues config rows =>
      have hm := hwrites rfl
      simp only [perform, Memory.perform, needsWrite, Call.writes, hmode, hm]
      have hstep := insertValues_represents h workspace config rows
      exact ⟨hstep.1, Or.inl hstep.2⟩
  | effective project blueprint =>
      obtain ⟨found, hperm, hok⟩ := h.effective workspace project blueprint
      exact ⟨h, ReadsAs.mayAnswer (Or.inl hok) hperm rfl hdated⟩
  | delta blueprint =>
      obtain ⟨found, hperm, hok⟩ := h.delta workspace blueprint
      exact ⟨h, ReadsAs.mayAnswer (Or.inl hok) hperm rfl hdated⟩
  | rows project =>
      obtain ⟨found, hperm, hok⟩ := h.rows workspace project
      exact ⟨h, ReadsAs.mayAnswer (Or.inl hok) hperm rfl hdated⟩
  | pinnedTo project env =>
      exact ⟨h, ReadsAs.mayAnswer (Or.inl (h.pinnedTo workspace project env)) rfl rfl hdated⟩
  | envsOf blueprint => exact ⟨h, Or.inl (h.envsOf workspace blueprint)⟩
  | pins project envs =>
      obtain ⟨found, hperm, hread⟩ := h.pinsNamed workspace project envs
      exact ⟨h, hread.mayAnswer hperm rfl hdated⟩
  | insertPins pins =>
      have hm := hwrites rfl
      simp only [perform, Memory.perform, needsWrite, Call.writes, hmode, hm]
      have hstep := insertPins_represents h workspace pins
      exact ⟨hstep.1, Or.inl hstep.2⟩
  | updatePins project user now targets =>
      have hm := hwrites rfl
      simp only [perform, Memory.perform, needsWrite, Call.writes, hmode, hm]
      have hstep := updatePins_represents h workspace hconstrained.pinEnvs project user now targets
      exact ⟨hstep.1, Or.inl hstep.2⟩

end Database

end ConfigTimeline
