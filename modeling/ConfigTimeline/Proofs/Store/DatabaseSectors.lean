import ConfigTimeline.Proofs.Store.Keeping
import ConfigTimeline.Proofs.Store.MemorySectors

/-!
A database, taken apart. Every statement selects rows of a workspace, by their project or by their id,
or stores or changes such rows; so it comes to the same on the rows of a part alone, as long as these
have all the rows that it selects. A row keeps its cells, whether or not they can be read back.
-/

namespace ConfigTimeline.Database

def ConfigCells.place (r : ConfigCells) : Place := ⟨r.workspace, r.project, r.id⟩

def BlueprintCells.place (r : BlueprintCells) : Place := ⟨r.workspace, r.project, r.id⟩

def ValueCells.place (r : ValueCells) : Place := ⟨r.workspace, r.project, r.id⟩

def PinCells.place (r : PinCells) : Place := ⟨r.workspace, r.project, r.id⟩

namespace Tables

def within (k : Sector) (t : Tables) : Tables where
  configs := k.part ConfigCells.place t.configs
  blueprints := k.part BlueprintCells.place t.blueprints
  values := k.part ValueCells.place t.values
  pins := k.part PinCells.place t.pins

def places (t : Tables) : TableName → List Place
  | .configs => t.configs.map ConfigCells.place
  | .blueprints => t.blueprints.map BlueprintCells.place
  | .values => t.values.map ValueCells.place
  | .pins => t.pins.map PinCells.place

variable {t : Tables} {k : Sector} {workspace : String}

theorem within_within (k l : Sector) (t : Tables) :
    (t.within l).within k = t.within (k.both l) := by
  unfold within
  simp only [Sector.part_part]

theorem places_within (k : Sector) (t : Tables) (table : TableName) :
    (t.within k).places table = (t.places table).filter fun p => k p.workspace p.project := by
  cases table <;> exact Sector.map_part

section Project

variable {project : ProjectId} (h : k workspace project.text = true)

include h

theorem configOf_within : (t.within k).configOf workspace project = t.configOf workspace project := by
  unfold configOf within
  rw [Sector.filter_part_of_project h]
  simp [ConfigCells.place]

theorem blueprintOfKind_within (id : BlueprintId) (kind : BlueprintKind) :
    (t.within k).blueprintOfKind workspace id project kind =
      t.blueprintOfKind workspace id project kind := by
  unfold blueprintOfKind within
  rw [Sector.filter_part_of_project h]
  simp +contextual [BlueprintCells.place]

theorem newestFirst_within (kind : BlueprintKind) :
    (t.within k).newestFirst workspace project kind = t.newestFirst workspace project kind := by
  unfold newestFirst within
  rw [Sector.filter_part_of_project h]
  simp +contextual [BlueprintCells.place]

theorem kinds_within (ids : List BlueprintId) :
    (t.within k).kinds workspace project ids = t.kinds workspace project ids := by
  unfold kinds within
  rw [Sector.filter_part_of_project h]
  simp +contextual [BlueprintCells.place]

theorem valuesOf_within : (t.within k).valuesOf workspace project = t.valuesOf workspace project := by
  unfold valuesOf within
  rw [Sector.filter_part_of_project h]
  simp [ValueCells.place]

theorem pinnedTo_within (env : String) :
    (t.within k).pinnedTo workspace project env = t.pinnedTo workspace project env := by
  unfold pinnedTo within
  rw [← List.head?_filter, Sector.filter_part_of_project h, List.head?_filter]
  simp +contextual [PinCells.place]

theorem pinsNamed_within (envs : List String) :
    (t.within k).pinsNamed workspace project envs = t.pinsNamed workspace project envs := by
  unfold pinsNamed within
  rw [Sector.filter_part_of_project h]
  simp +contextual [PinCells.place]

end Project

theorem configById_within {id : ConfigId} (h : k.Owns workspace (t.places .configs) id.text) :
    (t.within k).configById workspace id = t.configById workspace id := by
  unfold configById within
  rw [Sector.filter_part_of_id h]
  simp [ConfigCells.place]

theorem blueprintById_within {id : BlueprintId}
    (h : k.Owns workspace (t.places .blueprints) id.text) :
    (t.within k).blueprintById workspace id = t.blueprintById workspace id := by
  unfold blueprintById within
  rw [Sector.filter_part_of_id h]
  simp [BlueprintCells.place]

section Wide

variable (h : ∀ p, k workspace p = true)

include h

theorem envsOf_within (blueprint : BlueprintId) :
    (t.within k).envsOf workspace blueprint = t.envsOf workspace blueprint := by
  unfold envsOf within
  rw [Sector.filter_part_of_workspace h]
  simp +contextual [PinCells.place]

theorem delta_within (blueprint : BlueprintId) :
    (t.within k).delta workspace blueprint = t.delta workspace blueprint := by
  unfold delta within
  rw [Sector.filter_part_of_workspace h]
  simp +contextual [ValueCells.place]

theorem history_within (project : ProjectId) (limit offset : Nat) :
    (t.within k).history workspace project limit offset =
      t.history workspace project limit offset := by
  unfold history
  rw [newestFirst_within (h project.text)]
  simp only [envsOf_within h]

end Wide

end Tables

section Clashes

variable {k : Sector} {workspace : String}

/-- Whether a row of the workspace of a row of the part has its project. -/
theorem any_part_of_project {ρ : Type} {place : ρ → Place} {rows : List ρ} {hit : ρ → Bool}
    {project : String} (h : k workspace project = true)
    (hhit : ∀ r, hit r = true → (place r).workspace = workspace ∧ (place r).project = project) :
    (k.part place rows).any hit = rows.any hit := by
  rw [← List.isSome_find?, ← List.head?_filter, Sector.filter_part_of_project h hhit,
    List.head?_filter, List.isSome_find?]

theorem any_part_of_id {ρ : Type} {place : ρ → Place} {rows : List ρ} {hit : ρ → Bool}
    {id : String} (h : k.Owns workspace (rows.map place) id)
    (hhit : ∀ r, hit r = true → (place r).workspace = workspace ∧ (place r).id = id) :
    (k.part place rows).any hit = rows.any hit := by
  rw [← List.isSome_find?, ← List.head?_filter, Sector.filter_part_of_id h hhit,
    List.head?_filter, List.isSome_find?]

theorem configClash_part {rows : List ConfigCells} {row : ConfigCells}
    (hkeep : k row.workspace row.project = true)
    (hid : k.Owns row.workspace (rows.map ConfigCells.place) row.id) :
    configClash (k.part ConfigCells.place rows) row = configClash rows row := by
  unfold configClash
  rw [any_part_of_project hkeep, any_part_of_id hid]
  · simp [ConfigCells.place]
  · simp [ConfigCells.place]

theorem blueprintClash_part {rows : List BlueprintCells} {row : BlueprintCells}
    (hid : k.Owns row.workspace (rows.map BlueprintCells.place) row.id) :
    blueprintClash (k.part BlueprintCells.place rows) row = blueprintClash rows row := by
  unfold blueprintClash
  rw [any_part_of_id hid]
  simp [BlueprintCells.place]

theorem valueClash_part {rows : List ValueCells} {row : ValueCells}
    (hkeep : k row.workspace row.project = true)
    (hid : k.Owns row.workspace (rows.map ValueCells.place) row.id) :
    valueClash (k.part ValueCells.place rows) row = valueClash rows row := by
  unfold valueClash
  rw [any_part_of_project hkeep, any_part_of_id hid]
  · simp [ValueCells.place]
  · simp +contextual [ValueCells.place]

theorem pinClash_part {rows : List PinCells} {row : PinCells}
    (hkeep : k row.workspace row.project = true)
    (hid : k.Owns row.workspace (rows.map PinCells.place) row.id) :
    pinClash (k.part PinCells.place rows) row = pinClash rows row := by
  unfold pinClash
  rw [any_part_of_project hkeep, any_part_of_id hid]
  · simp [PinCells.place]
  · simp +contextual [PinCells.place]

end Clashes

namespace Work

/-- The rows of a part, those to go back to included. -/
def within (k : Sector) (work : Work) : Work :=
  ⟨work.mode, { work.before with tables := work.before.tables.within k }, work.tables.within k⟩

variable {work : Work} {k : Sector} {workspace : String}

theorem within_within (k l : Sector) (work : Work) :
    (work.within l).within k = work.within (k.both l) := by
  unfold within
  simp only [Tables.within_within]

theorem within_self (k : Sector) (work : Work) : (work.within k).within k = work.within k := by
  rw [within_within, Sector.both_self]

theorem within_congr {work work' : Work} (hmode : work.mode = work'.mode)
    (hbefore : work.before = work'.before)
    (htables : work.tables.within k = work'.tables.within k) : work.within k = work'.within k := by
  rw [within, within, hmode, hbefore, htables]

theorem insertConfig_within {config : Config} (hkeep : k workspace config.project.text = true)
    (hid : k.Owns workspace (work.tables.places .configs) config.id.text) :
    (work.within k).insertConfig workspace config =
      ((work.insertConfig workspace config).1, (work.insertConfig workspace config).2.within k) := by
  have hbatch : appendUntilClash configClash (work.within k).tables.configs
      [.of workspace config] = _ :=
    Sector.appendUntilClash_part workspace
      (List.forall_mem_singleton.mpr ⟨rfl, hkeep, hid⟩)
      fun _ => List.forall_mem_singleton.mpr fun hid => configClash_part hkeep hid
  unfold insertConfig
  rw [hbatch]
  rfl

theorem insertBlueprint_within {config : ConfigId} {blueprint : Blueprint}
    (hkeep : k workspace blueprint.project.text = true)
    (hid : k.Owns workspace (work.tables.places .blueprints) blueprint.id.text) :
    (work.within k).insertBlueprint workspace config blueprint =
      ((work.insertBlueprint workspace config blueprint).1,
        (work.insertBlueprint workspace config blueprint).2.within k) := by
  have hbatch : appendUntilClash blueprintClash (work.within k).tables.blueprints
      [.of workspace config blueprint] = _ :=
    Sector.appendUntilClash_part workspace
      (List.forall_mem_singleton.mpr ⟨rfl, hkeep, hid⟩)
      fun _ => List.forall_mem_singleton.mpr fun hid => blueprintClash_part hid
  unfold insertBlueprint
  rw [hbatch]
  rfl

theorem closeValues_within (work : Work) {project : ProjectId} (hkeep : k workspace project.text = true)
    (validTo : BlueprintId) (keys : List String) :
    (work.within k).closeValues workspace project validTo keys =
      ((work.closeValues workspace project validTo keys).1,
        (work.closeValues workspace project validTo keys).2.within k) := by
  have hcount : (work.within k).tables.values.countP (closes workspace project.text keys) =
      work.tables.values.countP (closes workspace project.text keys) := by
    rw [List.countP_eq_length_filter, List.countP_eq_length_filter]
    refine congrArg List.length (Sector.filter_part_of_project hkeep ?_)
    simp +contextual [closes, ValueCells.place]
  unfold closeValues
  dsimp only
  rw [hcount]
  simp only [within, Tables.within]
  rw [Sector.part_map]
  intro r
  split <;> rfl

theorem insertValues_within {config : ConfigId} {rows : List ValueRow}
    (hkeep : ∀ row ∈ rows, k workspace row.project.text = true)
    (hids : ∀ row ∈ rows, k.Owns workspace (work.tables.places .values) row.id.text) :
    (work.within k).insertValues workspace config rows =
      ((work.insertValues workspace config rows).1,
        (work.insertValues workspace config rows).2.within k) := by
  have hbatch : appendUntilClash valueClash (work.within k).tables.values
      (rows.map (ValueCells.of workspace config)) = _ :=
    Sector.appendUntilClash_part workspace
      (List.forall_mem_map.mpr fun row hrow => ⟨rfl, hkeep row hrow, hids row hrow⟩)
      fun _ => List.forall_mem_map.mpr fun row hrow hid => valueClash_part (hkeep row hrow) hid
  unfold insertValues
  rw [hbatch]
  rfl

theorem insertPins_within {pins : List Pin}
    (hkeep : ∀ pin ∈ pins, k workspace pin.project.text = true)
    (hids : ∀ pin ∈ pins, k.Owns workspace (work.tables.places .pins) pin.id.text) :
    (work.within k).insertPins workspace pins =
      ((work.insertPins workspace pins).1, (work.insertPins workspace pins).2.within k) := by
  have hbatch : appendUntilClash pinClash (work.within k).tables.pins
      (pins.map (PinCells.of workspace)) = _ :=
    Sector.appendUntilClash_part workspace
      (List.forall_mem_map.mpr fun pin hpin => ⟨rfl, hkeep pin hpin, hids pin hpin⟩)
      fun _ => List.forall_mem_map.mpr fun pin hpin hid => pinClash_part (hkeep pin hpin) hid
  unfold insertPins
  rw [hbatch]
  rfl

def pointed (workspace : String) (project : ProjectId) (user : String) (now : Instant)
    (target : PinTarget) (work : Work) : Work :=
  { work with tables := { work.tables with
      pins := work.tables.pins.map fun r =>
        if names workspace project.text target.env r then moved user now target.blueprint r
        else r } }

theorem updatePins_cons (project : ProjectId) (user : String) (now : Instant) (target : PinTarget)
    (rest : List PinTarget) (work : Work) :
    updatePins workspace project user now (target :: rest) work =
      (work.tables.pins.countP (names workspace project.text target.env) +
        (updatePins workspace project user now rest
          (work.pointed workspace project user now target)).1,
        (updatePins workspace project user now rest
          (work.pointed workspace project user now target)).2) := rfl

theorem place_pointed (hit : PinCells → Bool) (user : String) (now : Instant)
    (blueprint : BlueprintId) (r : PinCells) :
    (if hit r then moved user now blueprint r else r).place = r.place := by
  split
  · simp only [moved, PinCells.place]
  · rfl

theorem pointed_within (k : Sector) (project : ProjectId) (user : String) (now : Instant)
    (target : PinTarget) (work : Work) :
    (work.within k).pointed workspace project user now target =
      (work.pointed workspace project user now target).within k := by
  unfold pointed within Tables.within
  rw [Sector.part_map (place_pointed (names workspace project.text target.env) user now
    target.blueprint)]

theorem updatePins_within {project : ProjectId} (hkeep : k workspace project.text = true)
    (user : String) (now : Instant) (targets : List PinTarget) (work : Work) :
    updatePins workspace project user now targets (work.within k) =
      ((updatePins workspace project user now targets work).1,
        (updatePins workspace project user now targets work).2.within k) := by
  induction targets generalizing work with
  | nil => rfl
  | cons target rest ih =>
      have hcount : (work.within k).tables.pins.countP (names workspace project.text target.env) =
          work.tables.pins.countP (names workspace project.text target.env) := by
        rw [List.countP_eq_length_filter, List.countP_eq_length_filter]
        refine congrArg List.length (Sector.filter_part_of_project hkeep ?_)
        simp +contextual [names, PinCells.place]
      rw [updatePins_cons, updatePins_cons, hcount, pointed_within, ih]

end Work

/-- A call that stays in a part comes to the same on the part alone. -/
theorem perform_within {work : Work} {k : Sector} {workspace : String} {c : Call}
    (h : c.StaysIn k workspace work.tables.places) :
    perform workspace c (work.within k) =
      ((perform workspace c work).1, (perform workspace c work).2.within k) := by
  have hmode : (work.within k).mode = work.mode := rfl
  unfold perform
  rw [hmode]
  split
  · rfl
  · cases c with
    | configOf project =>
        exact Prod.ext (Tables.configOf_within (h.projects _ List.mem_cons_self)) rfl
    | configById id =>
        exact Prod.ext (Tables.configById_within (h.named _ List.mem_cons_self)) rfl
    | insertConfig config =>
        exact Work.insertConfig_within (h.projects _ List.mem_cons_self)
          (h.named _ List.mem_cons_self)
    | insertBlueprint config blueprint =>
        exact Work.insertBlueprint_within (h.projects _ List.mem_cons_self)
          (h.named _ List.mem_cons_self)
    | blueprintById id =>
        exact Prod.ext (Tables.blueprintById_within (h.named _ List.mem_cons_self)) rfl
    | blueprintOfKind id project kind =>
        exact Prod.ext
          (Tables.blueprintOfKind_within (h.projects _ List.mem_cons_self) id kind) rfl
    | latest project kind =>
        exact Prod.ext (congrArg (readFirst BlueprintCells.read)
          (Tables.newestFirst_within (h.projects _ List.mem_cons_self) kind)) rfl
    | kinds project ids =>
        exact Prod.ext (Tables.kinds_within (h.projects _ List.mem_cons_self) ids) rfl
    | history project limit offset =>
        exact Prod.ext (Tables.history_within (h.wide rfl) project limit offset) rfl
    | count project =>
        exact Prod.ext (congrArg (fun rows : List BlueprintCells => Except.ok rows.length)
          (Tables.newestFirst_within (h.projects _ List.mem_cons_self) .blueprint)) rfl
    | closeValues project validTo keys =>
        have hclosed := Work.closeValues_within work
          (h.projects _ List.mem_cons_self) validTo keys
        simp only [hclosed]
    | insertValues config rows =>
        exact Work.insertValues_within
          (fun row hrow => h.projects _ (List.mem_map_of_mem hrow))
          (fun row hrow => h.named _ (List.mem_map_of_mem hrow))
    | effective project blueprint =>
        exact Prod.ext (congrArg (fun rows : List ValueCells =>
          (sortBy _ (rows.filter _)).mapM ValueCells.read)
          (Tables.valuesOf_within (h.projects _ List.mem_cons_self))) rfl
    | delta blueprint => exact Prod.ext (Tables.delta_within (h.wide rfl) blueprint) rfl
    | rows project =>
        exact Prod.ext (congrArg (fun rows : List ValueCells =>
          (sortBy Tables.comesBy rows).mapM ValueCells.read)
          (Tables.valuesOf_within (h.projects _ List.mem_cons_self))) rfl
    | pinnedTo project env =>
        exact Prod.ext (Tables.pinnedTo_within (h.projects _ List.mem_cons_self) env) rfl
    | envsOf blueprint =>
        exact Prod.ext (congrArg Except.ok (Tables.envsOf_within (h.wide rfl) blueprint)) rfl
    | pins project envs =>
        exact Prod.ext (Tables.pinsNamed_within (h.projects _ List.mem_cons_self) envs) rfl
    | insertPins pins =>
        exact Work.insertPins_within
          (fun pin hpin => h.projects _ (List.mem_map_of_mem hpin))
          (fun pin hpin => h.named _ (List.mem_map_of_mem hpin))
    | updatePins project user now targets =>
        have hmoved := Work.updatePins_within (h.projects _ List.mem_cons_self) user now targets work
        simp only [hmoved]

structure Tables.Edited (here : Place → Prop) (t t' : Tables) : Prop where
  configs : Sector.Edited ConfigCells.place here t.configs t'.configs
  blueprints : Sector.Edited BlueprintCells.place here t.blueprints t'.blueprints
  values : Sector.Edited ValueCells.place here t.values t'.values
  pins : Sector.Edited PinCells.place here t.pins t'.pins

namespace Tables.Edited

variable {here : Place → Prop} {t t' : Tables}

theorem refl (here : Place → Prop) (t : Tables) : t.Edited here t :=
  ⟨.refl _ _ _, .refl _ _ _, .refl _ _ _, .refl _ _ _⟩

theorem places (h : t.Edited here t') (table : TableName) : t.places table <+: t'.places table := by
  cases table with
  | configs => exact h.configs.places
  | blueprints => exact h.blueprints.places
  | values => exact h.values.places
  | pins => exact h.pins.places

theorem within_eq (h : t.Edited here t') {k : Sector}
    (hother : ∀ p, here p → k p.workspace p.project = false) : t'.within k = t.within k := by
  unfold within
  rw [h.configs.others k hother, h.blueprints.others k hother, h.values.others k hother,
    h.pins.others k hother]

end Tables.Edited

section Edited

variable (work : Work) (workspace : String)

theorem edited_insertConfig (config : Config) :
    work.tables.Edited (Call.Reaches workspace (.insertConfig config))
      (work.insertConfig workspace config).2.tables := by
  have hrow : ∀ r ∈ [ConfigCells.of workspace config],
      Call.Reaches workspace (.insertConfig config) r.place :=
    List.forall_mem_singleton.mpr ⟨rfl, config.project, List.mem_cons_self, rfl⟩
  exact { Tables.Edited.refl _ work.tables with configs := .appendUntilClash configClash hrow }

theorem edited_insertBlueprint (config : ConfigId) (blueprint : Blueprint) :
    work.tables.Edited (Call.Reaches workspace (.insertBlueprint config blueprint))
      (work.insertBlueprint workspace config blueprint).2.tables := by
  have hrow : ∀ r ∈ [BlueprintCells.of workspace config blueprint],
      Call.Reaches workspace (.insertBlueprint config blueprint) r.place :=
    List.forall_mem_singleton.mpr ⟨rfl, blueprint.project, List.mem_cons_self, rfl⟩
  exact { Tables.Edited.refl _ work.tables with
    blueprints := .appendUntilClash blueprintClash hrow }

theorem edited_closeValues (project : ProjectId) (validTo : BlueprintId) (keys : List String) :
    work.tables.Edited (Call.Reaches workspace (.closeValues project validTo keys))
      (work.closeValues workspace project validTo keys).2.tables := by
  refine { Tables.Edited.refl _ work.tables with values := .map ?_ ?_ }
  · intro r
    split <;> rfl
  · intro r
    split
    · rename_i hr
      simp only [Work.closes, Bool.and_eq_true, beq_iff_eq] at hr
      exact Or.inr ⟨hr.1.1.1, project, List.mem_cons_self, hr.1.1.2⟩
    · exact Or.inl rfl

theorem edited_insertValues (config : ConfigId) (rows : List ValueRow) :
    work.tables.Edited (Call.Reaches workspace (.insertValues config rows))
      (work.insertValues workspace config rows).2.tables := by
  refine { Tables.Edited.refl _ work.tables with values := .appendUntilClash valueClash ?_ }
  exact List.forall_mem_map.mpr fun row hrow => ⟨rfl, row.project, List.mem_map_of_mem hrow, rfl⟩

theorem edited_insertPins (pins : List Pin) :
    work.tables.Edited (Call.Reaches workspace (.insertPins pins))
      (work.insertPins workspace pins).2.tables := by
  refine { Tables.Edited.refl _ work.tables with pins := .appendUntilClash pinClash ?_ }
  exact List.forall_mem_map.mpr fun pin hpin => ⟨rfl, pin.project, List.mem_map_of_mem hpin, rfl⟩

theorem edited_updatePins (project : ProjectId) (user : String) (now : Instant)
    (targets : List PinTarget) {here : Place → Prop}
    (hhere : ∀ p : Place, p.workspace = workspace → p.project = project.text → here p) :
    work.tables.Edited here
      (Work.updatePins workspace project user now targets work).2.tables := by
  induction targets generalizing work with
  | nil => exact .refl here work.tables
  | cons target rest ih =>
      have hrest := ih (work.pointed workspace project user now target)
      have hmoved : Sector.Edited PinCells.place here work.tables.pins
          (work.pointed workspace project user now target).tables.pins := by
        refine Sector.Edited.map (Work.place_pointed _ user now target.blueprint) ?_
        intro r
        split
        · rename_i hr
          simp only [Work.names, Bool.and_eq_true, beq_iff_eq] at hr
          exact Or.inr (hhere _ hr.1.1 hr.1.2)
        · exact Or.inl rfl
      exact { hrest with pins := hmoved.trans hrest.pins }

end Edited

/-- A call changes rows of its projects and adds such rows. -/
theorem edited_perform (workspace : String) (c : Call) (work : Work) :
    work.tables.Edited (c.Reaches workspace) (perform workspace c work).2.tables := by
  cases hwrites : c.writes with
  | false =>
      rw [perform_of_reads hwrites]
      exact .refl _ _
  | true =>
      unfold perform
      split
      · exact .refl _ _
      · cases c with
        | insertConfig config => exact edited_insertConfig work workspace config
        | insertBlueprint config blueprint =>
            exact edited_insertBlueprint work workspace config blueprint
        | closeValues project validTo keys =>
            exact edited_closeValues work workspace project validTo keys
        | insertValues config rows => exact edited_insertValues work workspace config rows
        | insertPins pins => exact edited_insertPins work workspace pins
        | updatePins project user now targets =>
            exact edited_updatePins work workspace project user now targets
              fun _ hworkspace hproject => ⟨hworkspace, project, List.mem_cons_self, hproject⟩
        | _ => cases hwrites

/-- A batch that breaks no rule is stored as a whole. -/
theorem mem_of_answered {ρ : Type} {clash : List ρ → ρ → Option UniqueRule} {rows batch : List ρ}
    {a : Unit} (h : answerOf (appendUntilClash clash rows batch).2 = .ok a) {r : ρ}
    (hr : r ∈ batch) : r ∈ (appendUntilClash clash rows batch).1 := by
  have hnone : (appendUntilClash clash rows batch).2 = none := by
    cases hbroken : (appendUntilClash clash rows batch).2 with
    | none => rfl
    | some rule =>
        rw [hbroken] at h
        cases h
  rw [appendUntilClash_of_none hnone]
  exact List.mem_append_right rows hr

/-- The records that a call brings along are stored when the call is answered. -/
theorem mem_places_perform {workspace : String} {work : Work} {c : Call} {a : c.Answer}
    (hwrites : c.writes = true) (hok : (perform workspace c work).1 = .ok a) :
    ∀ n ∈ c.named, ∃ p ∈ c.projects,
      ⟨workspace, p.text, n.2⟩ ∈ (perform workspace c work).2.tables.places n.1 := by
  unfold perform at hok ⊢
  split at hok
  · cases hok
  · rename_i hmode
    rw [if_neg hmode]
    cases c with
    | insertConfig config =>
        have hanswered : answerOf (appendUntilClash configClash work.tables.configs
            [ConfigCells.of workspace config]).2 = .ok a := hok
        have hstored : ConfigCells.of workspace config ∈
            (work.insertConfig workspace config).2.tables.configs :=
          mem_of_answered hanswered List.mem_cons_self
        exact List.forall_mem_singleton.mpr
          ⟨config.project, List.mem_cons_self, List.mem_map_of_mem hstored⟩
    | insertBlueprint config blueprint =>
        have hanswered : answerOf (appendUntilClash blueprintClash work.tables.blueprints
            [BlueprintCells.of workspace config blueprint]).2 = .ok a := hok
        have hstored : BlueprintCells.of workspace config blueprint ∈
            (work.insertBlueprint workspace config blueprint).2.tables.blueprints :=
          mem_of_answered hanswered List.mem_cons_self
        exact List.forall_mem_singleton.mpr
          ⟨blueprint.project, List.mem_cons_self, List.mem_map_of_mem hstored⟩
    | insertValues config rows =>
        refine List.forall_mem_map.mpr fun row hrow => ⟨row.project, List.mem_map_of_mem hrow, ?_⟩
        have hstored : ValueCells.of workspace config row ∈
            (work.insertValues workspace config rows).2.tables.values :=
          mem_of_answered hok (List.mem_map_of_mem hrow)
        exact List.mem_map_of_mem hstored
    | insertPins pins =>
        refine List.forall_mem_map.mpr fun pin hpin => ⟨pin.project, List.mem_map_of_mem hpin, ?_⟩
        have hstored : PinCells.of workspace pin ∈ (work.insertPins workspace pins).2.tables.pins :=
          mem_of_answered hok (List.mem_map_of_mem hpin)
        exact List.mem_map_of_mem hstored
    | closeValues => exact List.forall_mem_nil _
    | updatePins => exact List.forall_mem_nil _
    | _ => cases hwrites

theorem store_of_failed {ε α : Type} {mode : Mode} {draws : Nat → Ulid} {p : Program ε α}
    {d : backend.Store} {e : ε} (h : (backend.inUnit mode draws p d).result = .error e) :
    (backend.inUnit mode draws p d).store = d := by
  rw [Backend.result_inUnit] at h
  rw [Backend.inUnit_of_error h]
  exact (keeps_run draws p (backend.start mode d) 0).2

structure Tables.SameRows (t t' : Tables) : Prop where
  configs : t.configs.Perm t'.configs
  blueprints : t.blueprints.Perm t'.blueprints
  values : t.values.Perm t'.values
  pins : t.pins.Perm t'.pins

theorem Tables.sameRows_of_within {t t' : Tables} {k l : Sector} (hapart : l.both k.rest = l)
    (h : t.within k = t'.within k) (h' : t.within l = t'.within l)
    (hrest : t.within (l.rest.both k.rest) = t'.within (l.rest.both k.rest)) : t.SameRows t' := by
  simp only [within, mk.injEq] at h h' hrest
  exact ⟨Sector.perm_of_parts hapart h.1 h'.1 hrest.1,
    Sector.perm_of_parts hapart h.2.1 h'.2.1 hrest.2.1,
    Sector.perm_of_parts hapart h.2.2.1 h'.2.2.1 hrest.2.2.1,
    Sector.perm_of_parts hapart h.2.2.2 h'.2.2.2 hrest.2.2.2⟩

def within (k : Sector) (d : Database) : Database := { d with tables := d.tables.within k }

structure SameRows (d d' : Database) : Prop where
  version : d.version = d'.version
  tables : d.tables.SameRows d'.tables

theorem sameRows_of_within {d d' : Database} {k l : Sector} (hapart : l.both k.rest = l)
    (h : within k d = within k d') (h' : within l d = within l d')
    (hrest : within (l.rest.both k.rest) d = within (l.rest.both k.rest) d') :
    SameRows d d' := by
  simp only [within, Database.mk.injEq] at h h' hrest
  exact ⟨h.1, Tables.sameRows_of_within hapart h.2 h'.2 hrest.2⟩

/-- Rows of cells stand where the records stand that they are for. -/
theorem Represents.places_eq {d : Tables} {t : Memory.Tables} (h : Represents d t)
    (table : TableName) : d.places table = t.places table := by
  cases table with
  | configs =>
      refine forall₂_map_eq h.configs ?_
      rintro _ row rfl
      rfl
  | blueprints =>
      refine forall₂_map_eq h.blueprints ?_
      rintro _ row ⟨config, rfl⟩
      rfl
  | values =>
      refine forall₂_map_eq h.values ?_
      rintro _ row ⟨config, rfl⟩
      rfl
  | pins =>
      refine forall₂_map_eq h.pins ?_
      rintro _ row rfl
      rfl

def sectors : Sectors backend where
  ofStore := within
  ofWork := Work.within
  places := fun work : Work => work.tables.places
  start _ _ _ := rfl
  commit _ _ := rfl
  commit_start _ _ := rfl
  places_ofWork := fun k (work : Work) => Tables.places_within k work.tables
  places_start_commit _ _ := rfl
  perform := by
    intro k workspace work c h
    have hsame : perform workspace c (Work.within k work) =
        ((perform workspace c work).1, (perform workspace c work).2.within k) := perform_within h
    have hanswer := congrArg Prod.fst hsame
    have hafter := congrArg (fun outcome => outcome.2.within k) hsame
    exact ⟨hanswer, hafter.trans (Work.within_self k _)⟩
  spare hspares := fun work : Work => by
    obtain ⟨hmode, hbefore⟩ := frame_perform _ _ work
    have htables := (edited_perform _ _ work).within_eq fun _ hp => hspares.of_reaches hp
    exact Work.within_congr hmode hbefore htables
  grow workspace c := fun work : Work => (edited_perform workspace c work).places
  stored := mem_places_perform
  failed := store_of_failed

end ConfigTimeline.Database
