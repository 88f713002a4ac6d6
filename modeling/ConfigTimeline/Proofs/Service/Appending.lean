import ConfigTimeline.Proofs.Id.Order
import ConfigTimeline.Proofs.Store.Reasoning
import ConfigTimeline.Proofs.Store.Writes
import ConfigTimeline.Service.Versioning

/-!
What a draft leaves behind when it has been appended to the config of a project.
-/

namespace ConfigTimeline

/-- The first of the blueprints of a project and a kind has the greatest id. -/
theorem Memory.le_latest {t : Memory.Tables} {workspace : String} {project : ProjectId}
    {kind : BlueprintKind} {latest b : Blueprint}
    (hlatest : (t.newestFirst workspace project kind).head? = some latest)
    (hb : b ∈ t.newestFirst workspace project kind) : b.id ≤ latest.id := by
  have hsorted : (t.newestFirst workspace project kind).Pairwise
      fun a b => decide (b.id ≤ a.id) = true := by
    apply pairwise_sortBy
    · intro a b
      simp only [decide_eq_true_eq]
      exact le_total b.id a.id
    · intro a b c hab hbc
      simp only [decide_eq_true_eq] at hab hbc ⊢
      exact le_trans hbc hab
  obtain ⟨rest, hrest⟩ : ∃ rest, t.newestFirst workspace project kind = latest :: rest :=
    List.head?_eq_some_iff.mp hlatest
  rw [hrest] at hb hsorted
  rcases List.mem_cons.mp hb with rfl | hlater
  · exact le_rfl
  · exact of_decide_eq_true ((List.pairwise_cons.mp hsorted).1 b hlater)

namespace Versioning

variable {certain : Prop} {sure : Memory.Tables → Call → Prop} {ids : Nat → Ulid}
  {m : Memory.Work} {n : Nat}

/-- The tables once a project has a config: as they were if it had one, else with one more. -/
inductive WithConfig (who : Identity) (now : Instant) (project : ProjectId)
    (chosen : Option ConfigId) (t : Memory.Tables) (config : Config) : Memory.Tables → Prop
  | found (h : t.configOf who.workspace project = some config) :
      WithConfig who now project chosen t config t
  | made (hnone : t.configOf who.workspace project = none) (hproject : config.project = project)
      (haudit : config.audit = .made who.user now)
      (hchosen : ∀ id, chosen = some id → config.id = id) :
      WithConfig who now project chosen t config
        { t with configs := t.configs ++ [⟨who.workspace, config⟩] }

theorem WithConfig.only_configs {who : Identity} {now : Instant} {project : ProjectId}
    {chosen : Option ConfigId} {t t' : Memory.Tables} {config : Config}
    (h : WithConfig who now project chosen t config t') :
    t' = { t with configs := t'.configs } := by
  cases h <;> rfl

theorem WithConfig.newestFirst_eq {who : Identity} {now : Instant} {project other : ProjectId}
    {chosen : Option ConfigId} {t t' : Memory.Tables} {config : Config} {workspace : String}
    {kind : BlueprintKind} (h : WithConfig who now project chosen t config t') :
    t'.newestFirst workspace other kind = t.newestFirst workspace other kind := by
  cases h <;> rfl

/-- How many identifiers are drawn for the config of a project: one if there is none yet and the
caller chose no id for it. -/
def configDraws (t : Memory.Tables) (workspace : String) (project : ProjectId)
    (chosen : Option ConfigId) : Nat :=
  match t.configOf workspace project, chosen with
  | none, none => 1
  | _, _ => 0

theorem ends_ensureConfig (hmode : m.mode = .write) (who : Identity) (now : Instant)
    (project : ProjectId) (chosen : Option ConfigId)
    (hsure : certain → ∀ c : Call, c.skips = 0 → sure m.tables c)
    (hfree : certain → m.tables.configOf who.workspace project = none →
      ∀ c ∈ recordsIn who.workspace m.tables.configs, c.id ≠ chosen.getD ⟨ids n⟩) :
    (ensureConfig who now project chosen).Ensures sure ids
      (Program.Ends certain fun config m' n' =>
        WithConfig who now project chosen m.tables config m'.tables ∧
          n' = n + configDraws m.tables who.workspace project chosen) m n := by
  unfold ensureConfig
  refine Program.ends_bind (Program.ends_read (c := .configOf project) rfl List.nodup_nil rfl
    fun hc => hsure hc _ rfl) ?_
  rintro found m' n' - ⟨rfl, rfl, hfound⟩
  replace hfound : m'.tables.configOf who.workspace project = found := Eq.symm hfound
  cases found with
  | some config =>
      have hdraws : configDraws m'.tables who.workspace project chosen = 0 := by
        simp [configDraws, hfound]
      refine ⟨.found hfound, ?_⟩
      rw [hdraws, Nat.add_zero]
  | none =>
      have hothers : ∀ c ∈ recordsIn who.workspace m'.tables.configs, c.project ≠ project := by
        intro c hc hproject
        exact List.find?_eq_none.mp hfound c hc (beq_iff_eq.mpr hproject)
      -- The config is made with whatever id was chosen or drawn for it.
      have hinsert : ∀ id k, (∀ given, chosen = some given → id = given) →
          (certain → ∀ c ∈ recordsIn who.workspace m'.tables.configs, c.id ≠ id) →
          k = n' + configDraws m'.tables who.workspace project chosen →
          (do
            Action.ask who.workspace (.insertConfig ⟨id, project, .made who.user now⟩)
            pure ⟨id, project, .made who.user now⟩ : Action Config).Ensures sure ids
            (Program.Ends certain fun config m'' k' =>
              WithConfig who now project chosen m'.tables config m''.tables ∧
                k' = n' + configDraws m'.tables who.workspace project chosen) m' k := by
        intro id k hchosen hunused hdrawn
        refine Program.ends_bind (Program.ends_write
          (c := .insertConfig ⟨id, project, .made who.user now⟩) rfl List.nodup_nil hmode
          fun hc => Memory.perform_insertConfig_of_free hmode fun c hmem =>
            ⟨hunused hc c hmem, hothers c hmem⟩) ?_
        rintro a m'' k' - ⟨rfl, hperform⟩
        obtain ⟨_, htables⟩ := Memory.perform_insertConfig_ok hmode hperform
        refine ⟨?_, hdrawn⟩
        rw [htables]
        exact .made hfound rfl rfl hchosen
      cases chosen with
      | none =>
          have hdraws : configDraws m'.tables who.workspace project none = 1 := by
            simp [configDraws, hfound]
          exact hinsert ⟨ids n'⟩ (n' + 1) (fun _ h => by cases h) (fun hc => hfree hc hfound)
            (congrArg (n' + ·) hdraws.symm)
      | some given =>
          refine Program.ends_bind (Program.ends_read (c := .configById given) rfl List.nodup_nil
            rfl fun hc => hsure hc _ rfl) ?_
          rintro taken m'' k - ⟨rfl, rfl, htaken⟩
          replace htaken : m''.tables.configById who.workspace given = taken := Eq.symm htaken
          cases taken with
          | some config =>
              intro hc
              have hid := List.find?_some htaken
              exact hfree hc hfound config (List.mem_of_find?_eq_some htaken) (beq_iff_eq.mp hid)
          | none =>
              have hdraws : configDraws m''.tables who.workspace project (some given) = 0 := by
                simp [configDraws, hfound]
              exact hinsert given k (fun _ h => Option.some.inj h) (fun hc => hfree hc hfound)
                (congrArg (k + ·) hdraws.symm)

def idDraws (draft : Draft) : Nat := if draft.id.isSome then 0 else 1

theorem ends_offeredId (workspace : String) (now : Instant) (draft : Draft)
    (hsure : certain → ∀ c : Call, c.skips = 0 → sure m.tables c)
    (hgiven : certain → ∀ id, draft.id = some id →
      isAhead now id = false ∧ ∀ b ∈ recordsIn workspace m.tables.blueprints, b.id ≠ id) :
    (offeredId workspace now draft).Ensures sure ids
      (Program.Ends certain fun id m' n' => m' = m ∧ n' = n + idDraws draft ∧
        id = draft.id.getD ⟨ids n⟩) m n := by
  unfold offeredId
  cases hid : draft.id with
  | none => exact ⟨rfl, by simp [idDraws, hid], rfl⟩
  | some given =>
      dsimp only
      split
      · rename_i hahead
        intro hc
        rw [(hgiven hc given hid).1] at hahead
        cases hahead
      · refine Program.ends_bind (Program.ends_read (c := .blueprintById given) rfl List.nodup_nil
          rfl fun hc => hsure hc _ rfl) ?_
        rintro taken m' n' - ⟨rfl, rfl, htaken⟩
        replace htaken : m'.tables.blueprintById workspace given = taken := Eq.symm htaken
        cases taken with
        | some b =>
            intro hc
            have hsame := List.find?_some htaken
            exact (hgiven hc given hid).2 b (List.mem_of_find?_eq_some htaken)
              (beq_iff_eq.mp hsame)
        | none => exact ⟨rfl, by simp [idDraws, hid], rfl⟩

/-- The id that a draft's blueprint gets, told from the latest blueprint of its project and from the
identifier that would be drawn for it. -/
def assigned? (latest : Option Blueprint) (draft : Draft) (u : Ulid) : Option BlueprintId :=
  match draft.kind, latest with
  | .blueprint, some latest =>
      if latest.id < draft.id.getD ⟨u⟩ then some (draft.id.getD ⟨u⟩)
      else if draft.id.isSome then none
      else latest.id.ulid.next?.map Id.mk
  | _, _ => some (draft.id.getD ⟨u⟩)

/-- An id of the caller's choice is not exchanged for another. -/
theorem eq_of_assigned? {latest : Option Blueprint} {draft : Draft} {u : Ulid}
    {id given : BlueprintId} (h : assigned? latest draft u = some id)
    (hgiven : draft.id = some given) : id = given := by
  unfold assigned? at h
  rw [hgiven] at h
  split at h
  · split at h
    · exact (Option.some.inj h).symm
    · cases h
  · exact (Option.some.inj h).symm

/-- The id of a blueprint comes after that of the latest one. -/
theorem lt_of_assigned? {latest : Blueprint} {draft : Draft} {u : Ulid} {id : BlueprintId}
    (h : assigned? (some latest) draft u = some id) (hkind : draft.kind = .blueprint) :
    latest.id < id := by
  unfold assigned? at h
  rw [hkind] at h
  dsimp only at h
  split at h
  · rename_i hnewer
    rw [← Option.some.inj h]
    exact hnewer
  · split at h
    · cases h
    · obtain ⟨next, hnext, rfl⟩ := Option.map_eq_some_iff.mp h
      exact Ulid.lt_next hnext

theorem lt_of_mem_newestFirst {t : Memory.Tables} {workspace : String} {project : ProjectId}
    {draft : Draft} {u : Ulid} {id : BlueprintId}
    (h : assigned? (t.newestFirst workspace project .blueprint).head? draft u = some id)
    (hkind : draft.kind = .blueprint) :
    ∀ b ∈ t.newestFirst workspace project .blueprint, b.id < id := by
  intro b hb
  cases hlatest : (t.newestFirst workspace project .blueprint).head? with
  | none =>
      rw [List.head?_eq_none_iff.mp hlatest] at hb
      cases hb
  | some latest =>
      rw [hlatest] at h
      exact lt_of_le_of_lt (Memory.le_latest hlatest hb) (lt_of_assigned? h hkind)

theorem ends_assignId (workspace : String) (now : Instant) (project : ProjectId) (draft : Draft)
    (hsure : certain → ∀ c : Call, c.skips = 0 → sure m.tables c)
    (hgiven : certain → ∀ id, draft.id = some id →
      isAhead now id = false ∧ ∀ b ∈ recordsIn workspace m.tables.blueprints, b.id ≠ id)
    (hassigned : certain → (assigned? (m.tables.newestFirst workspace project .blueprint).head?
      draft (ids n)).isSome = true) :
    (assignId workspace now project draft).Ensures sure ids
      (Program.Ends certain fun id m' n' => m' = m ∧ n' = n + idDraws draft ∧
        assigned? (m.tables.newestFirst workspace project .blueprint).head? draft (ids n) =
          some id) m n := by
  unfold assignId
  refine Program.ends_bind (ends_offeredId workspace now draft hsure hgiven) ?_
  rintro offered m' n' - ⟨rfl, hdrawn, rfl⟩
  unfold assigned? at hassigned ⊢
  cases hkind : draft.kind with
  | mask => exact ⟨rfl, hdrawn, rfl⟩
  | blueprint =>
      rw [hkind] at hassigned
      refine Program.ends_bind (Program.ends_read (c := .latest project .blueprint) rfl
        List.nodup_nil rfl fun hc => hsure hc _ rfl) ?_
      rintro latest m'' n'' - ⟨rfl, rfl, hlatest⟩
      replace hlatest : (m''.tables.newestFirst workspace project .blueprint).head? = latest :=
        Eq.symm hlatest
      rw [hlatest] at hassigned ⊢
      cases latest with
      | none => exact ⟨rfl, hdrawn, rfl⟩
      | some latest =>
          -- Either the id offered is newer than the latest one or the next one is taken.
          dsimp only at hassigned ⊢
          split
          · exact ⟨rfl, hdrawn, rfl⟩
          · rename_i hstale
            rw [if_neg hstale] at hassigned
            split
            · rename_i hsupplied
              rw [if_pos hsupplied] at hassigned
              exact fun hc => Bool.noConfusion (hassigned hc)
            · rename_i hfresh
              rw [if_neg hfresh] at hassigned
              cases hnext : latest.id.ulid.next? with
              | none =>
                  rw [hnext] at hassigned
                  exact fun hc => Bool.noConfusion (hassigned hc)
              | some next => exact ⟨rfl, hdrawn, rfl⟩

/-- The value rows once a draft has ended those that it replaces. A mask replaces none. -/
def replacedRows (workspace : String) (project : ProjectId) (draft : Draft)
    (blueprint : BlueprintId) (rows : List (Scoped ValueRow)) : List (Scoped ValueRow) :=
  match draft.kind with
  | .blueprint => Memory.endRows workspace project blueprint draft.keys rows
  | .mask => rows

theorem ends_closeReplaced (hmode : m.mode = .write) (workspace : String) (project : ProjectId)
    (draft : Draft) (blueprint : BlueprintId) :
    (closeReplaced workspace project draft blueprint).Ensures sure ids
      (Program.Ends certain fun _ m' n' => n' = n ∧ m'.tables = { m.tables with
        values := replacedRows workspace project draft blueprint m.tables.values }) m n := by
  unfold closeReplaced replacedRows
  cases draft.kind with
  | mask => exact ⟨rfl, rfl⟩
  | blueprint =>
      refine Program.ends_bind (Program.ends_write
        (c := .closeValues project blueprint draft.keys) rfl List.nodup_nil hmode
        fun _ => Memory.perform_closeValues_ok hmode project blueprint draft.keys) ?_
      rintro count m' n' - ⟨rfl, hperform⟩
      have hafter := congrArg (fun outcome => outcome.2.tables) hperform
      exact ⟨rfl, hafter.symm.trans (Memory.perform_closeValues hmode project blueprint draft.keys)⟩

structure Appended (who : Identity) (now : Instant) (project : ProjectId)
    (chosen : Option ConfigId) (draft : Draft) (t : Memory.Tables) (answer : BlueprintView)
    (t' : Memory.Tables) : Prop where
  config : ∃ config withConfig, WithConfig who now project chosen t config withConfig ∧
    t'.configs = withConfig.configs
  blueprint : answer.blueprint =
    ⟨answer.blueprint.id, project, draft.kind, draft.description, .made who.user now⟩
  given : ∀ id, draft.id = some id → answer.blueprint.id = id
  newer : draft.kind = .blueprint →
    ∀ b ∈ t.newestFirst who.workspace project .blueprint, b.id < answer.blueprint.id
  unused : ∀ b ∈ recordsIn who.workspace t.blueprints, b.id ≠ answer.blueprint.id
  blueprints : t'.blueprints = t.blueprints ++ [⟨who.workspace, answer.blueprint⟩]
  rows : List.Forall₂
    (fun v row => ∃ u, row = rowOf project answer.blueprint.id
      (rowsEnd draft answer.blueprint.id) u v) draft.values answer.values
  values : t'.values =
    replacedRows who.workspace project draft answer.blueprint.id t.values ++
      answer.values.map fun row => ⟨who.workspace, row⟩
  pins : t'.pins = t.pins

/-- Nothing that is stored is in the way of a draft, given the identifiers that are drawn for it from
a position on: first that of a config, then that of a blueprint, then one for each value. -/
structure Clear (t : Memory.Tables) (ids : Nat → Ulid) (n : Nat) (who : Identity) (now : Instant)
    (project : ProjectId) (chosen : Option ConfigId) (draft : Draft) : Prop where
  config : t.configOf who.workspace project = none →
    ∀ c ∈ recordsIn who.workspace t.configs, c.id ≠ chosen.getD ⟨ids n⟩
  onTime : ∀ id, draft.id = some id → isAhead now id = false
  blueprint : ∃ id,
    assigned? (t.newestFirst who.workspace project .blueprint).head? draft
        (ids (n + configDraws t who.workspace project chosen)) = some id ∧
      ∀ b ∈ recordsIn who.workspace t.blueprints, b.id ≠ id
  keys : draft.keys.Nodup
  values : ∀ i < draft.values.length, ∀ row ∈ recordsIn who.workspace t.values,
    row.id.ulid ≠ ids (n + configDraws t who.workspace project chosen + idDraws draft + i)
  distinct : ∀ i j, i < j → j < draft.values.length →
    ids (n + configDraws t who.workspace project chosen + idDraws draft + i) ≠
      ids (n + configDraws t who.workspace project chosen + idDraws draft + j)

section Rows

variable {project : ProjectId} {id : BlueprintId} {draft : Draft}

/-- The rows of a draft may be stored together: their identifiers and their keys are distinct. -/
theorem pairwise_apart_stamped {values : List NewValue} {ending : Option BlueprintId}
    (hkeys : (values.map (·.key)).Nodup)
    (hids : ∀ i j, i < j → j < values.length → ids (n + i) ≠ ids (n + j)) :
    (Program.stamped (rowOf project id ending) ids n values).Pairwise Memory.Apart := by
  induction values generalizing n with
  | nil => exact .nil
  | cons v rest ih =>
      obtain ⟨hfirst, hrest⟩ := List.nodup_cons.mp hkeys
      refine .cons ?_ (ih hrest ?_)
      · intro row hrow
        obtain ⟨i, hi, later, hlater, rfl⟩ := Program.mem_stamped hrow
        refine ⟨?_, ?_⟩
        · intro hsame
          have hclash := hids 0 (i + 1) (Nat.succ_pos i) (Nat.succ_lt_succ hi)
          rw [Nat.add_zero, Nat.add_comm i 1, ← Nat.add_assoc] at hclash
          exact hclash (congrArg Id.ulid hsame)
        · intro _ _ _ hkey
          exact hfirst (List.mem_map.mpr ⟨later, hlater, hkey.symm⟩)
      · intro i j hij hj
        have hlater := hids (i + 1) (j + 1) (Nat.succ_lt_succ hij) (Nat.succ_lt_succ hj)
        rwa [Nat.add_comm i 1, Nat.add_comm j 1, ← Nat.add_assoc, ← Nat.add_assoc] at hlater

/-- The rows of a draft may be stored with those that it has left open. -/
theorem apart_of_replaced {workspace : String} {rows : List (Scoped ValueRow)}
    (hunused : ∀ i < draft.values.length, ∀ row ∈ recordsIn workspace rows,
      row.id.ulid ≠ ids (n + i)) :
    ∀ r ∈ recordsIn workspace (replacedRows workspace project draft id rows),
      ∀ row ∈ Program.stamped (rowOf project id (rowsEnd draft id)) ids n draft.values,
        Memory.Apart r row := by
  intro r hr row hrow
  obtain ⟨i, hi, v, hv, rfl⟩ := Program.mem_stamped hrow
  unfold replacedRows at hr
  unfold rowsEnd
  rw [mem_recordsIn] at hr
  cases hkind : draft.kind with
  | mask =>
      rw [hkind] at hr
      refine ⟨?_, fun _ hopen => by cases hopen⟩
      intro hsame
      exact hunused i hi r (mem_recordsIn.mpr hr) (congrArg Id.ulid hsame)
  | blueprint =>
      rw [hkind] at hr
      obtain ⟨old, hold, hworkspace, hid, hkept⟩ := Memory.of_mem_endRows hr
      obtain ⟨other, record⟩ := old
      obtain rfl : other = workspace := hworkspace
      refine ⟨?_, ?_⟩
      · intro hsame
        exact hunused i hi record (mem_recordsIn.mpr hold) (congrArg Id.ulid (hid.trans hsame))
      · intro hopen _ hproject hkey
        obtain ⟨-, hcloses⟩ := hkept hopen
        have hmem : r.key ∈ draft.keys := by
          rw [hkey]
          exact List.mem_map_of_mem hv
        have hproject' : r.project = project := hproject
        have hopen' : r.isOpen = true := hopen
        simp [Memory.Work.closes, hproject', hopen', hmem] at hcloses

end Rows

/-- Calls that skip nothing are answered on tables and, once the project has a config, still are. -/
structure Answered (sure : Memory.Tables → Call → Prop) (who : Identity) (now : Instant)
    (project : ProjectId) (chosen : Option ConfigId) (t : Memory.Tables) : Prop where
  before : ∀ c : Call, c.skips = 0 → sure t c
  after : ∀ config t', WithConfig who now project chosen t config t' →
    ∀ c : Call, c.skips = 0 → sure t' c

/-- The answer is certain as long as nothing is in the way and the store answers what it is asked. -/
theorem ends_append (hmode : m.mode = .write) (who : Identity) (now : Instant)
    (project : ProjectId) (chosen : Option ConfigId) (draft : Draft)
    (hsure : certain → Answered sure who now project chosen m.tables)
    (hclear : certain → Clear m.tables ids n who now project chosen draft) :
    (append who now project chosen draft).Ensures sure ids
      (Program.Ends certain fun answer m' _ =>
        Appended who now project chosen draft m.tables answer m'.tables) m n := by
  unfold append
  refine Program.ends_bind (ends_ensureConfig hmode who now project chosen
    (fun hc => (hsure hc).before) fun hc => (hclear hc).config) ?_
  rintro config m₁ n₁ hmode₁ ⟨hconfig, rfl⟩
  have hsameBlueprints : m₁.tables.blueprints = m.tables.blueprints := by
    rw [hconfig.only_configs]
  have hsameValues : m₁.tables.values = m.tables.values := by rw [hconfig.only_configs]
  have hsamePins : m₁.tables.pins = m.tables.pins := by rw [hconfig.only_configs]
  have hsameNewest : m₁.tables.newestFirst who.workspace project .blueprint =
      m.tables.newestFirst who.workspace project .blueprint := hconfig.newestFirst_eq
  refine Program.ends_bind (ends_assignId who.workspace now project draft
    (fun hc => (hsure hc).after config m₁.tables hconfig) ?_ ?_) ?_
  · intro hc id hid
    obtain ⟨assigned, hassigned, hunused⟩ := (hclear hc).blueprint
    rw [eq_of_assigned? hassigned hid] at hunused
    rw [hsameBlueprints]
    exact ⟨(hclear hc).onTime id hid, hunused⟩
  · intro hc
    obtain ⟨assigned, hassigned, -⟩ := (hclear hc).blueprint
    rw [hsameNewest, hassigned]
    rfl
  rintro id m₂ n₂ - ⟨rfl, rfl, hassigned⟩
  rw [hsameNewest] at hassigned
  refine Program.ends_bind
    (ends_closeReplaced (hmode₁.trans hmode) who.workspace project draft id) ?_
  rintro _ m₃ n₃ hmode₃ ⟨rfl, hclosed⟩
  have hwrite := hmode₃.trans (hmode₁.trans hmode)
  rw [hsameValues] at hclosed
  refine Program.ends_bind (Program.ends_write
    (c := .insertBlueprint config.id
      ⟨id, project, draft.kind, draft.description, .made who.user now⟩)
    rfl List.nodup_nil hwrite fun hc => Memory.perform_insertBlueprint_of_free hwrite ?_) ?_
  · obtain ⟨other, hother, hunused⟩ := (hclear hc).blueprint
    obtain rfl : id = other := Option.some.inj (hassigned.symm.trans hother)
    rw [hclosed, hsameBlueprints]
    exact hunused
  rintro _ m₄ n₄ hmode₄ ⟨rfl, hperform⟩
  obtain ⟨hunused, hblueprints⟩ := Memory.perform_insertBlueprint_ok hwrite hperform
  refine Program.ends_bind (Program.ends_freshFor _ draft.values m₄ _) ?_
  rintro rows m₅ n₅ - ⟨rfl, rfl, rfl⟩
  refine Program.ends_bind (Program.ends_write (c := .insertValues config.id _)
    rfl List.nodup_nil (hmode₄.trans hwrite)
    fun hc => Memory.perform_insertValues_of_free (hmode₄.trans hwrite) ?_ ?_) ?_
  · rw [hblueprints, hclosed]
    exact apart_of_replaced (hclear hc).values
  · exact pairwise_apart_stamped (hclear hc).keys (hclear hc).distinct
  rintro _ m₆ n₆ - ⟨-, hinserted⟩
  have hvalues := Memory.perform_insertValues_ok (hmode₄.trans hwrite) hinserted
  rw [hclosed, hsameBlueprints] at hunused hblueprints
  rw [hblueprints] at hvalues
  refine {
    config := ⟨config, m₂.tables, hconfig, ?_⟩
    blueprint := rfl
    given := fun given hgiven => eq_of_assigned? hassigned hgiven
    newer := lt_of_mem_newestFirst hassigned
    unused := hunused
    blueprints := ?_
    rows := Program.forall₂_stamped _ _ _
    values := ?_
    pins := ?_ }
  · rw [hvalues]
  · rw [hvalues]
  · rw [hvalues]
  · rw [hvalues]
    exact hsamePins

end Versioning

end ConfigTimeline
