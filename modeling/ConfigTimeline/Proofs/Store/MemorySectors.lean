import ConfigTimeline.Proofs.Store.Sector

/-!
The tables in memory, taken apart. Each question looks at rows of a workspace that have some project or
some id, and each write stores or changes such rows; so it comes to the same on the rows of a part
alone, as long as these have all the rows that are looked at.
-/

namespace ConfigTimeline

def Scoped.place {α : Type} (project id : α → String) (row : Scoped α) : Place :=
  ⟨row.workspace, project row.record, id row.record⟩

theorem recordsIn_part {α : Type} (k : Sector) (project id : α → String) (workspace : String)
    (rows : List (Scoped α)) :
    recordsIn workspace (k.part (Scoped.place project id) rows) =
      (recordsIn workspace rows).filter fun a => k workspace (project a) := by
  unfold recordsIn Sector.part
  rw [List.filterMap_filter, List.filter_filterMap]
  congr 1
  funext row
  by_cases hrow : row.workspace = workspace <;> simp [Scoped.place, hrow, Option.filter]

namespace Memory

def configPlace : Scoped Config → Place := Scoped.place (·.project.text) (·.id.text)

def blueprintPlace : Scoped Blueprint → Place := Scoped.place (·.project.text) (·.id.text)

def valuePlace : Scoped ValueRow → Place := Scoped.place (·.project.text) (·.id.text)

def pinPlace : Scoped Pin → Place := Scoped.place (·.project.text) (·.id.text)

namespace Tables

def within (k : Sector) (t : Tables) : Tables where
  configs := k.part configPlace t.configs
  blueprints := k.part blueprintPlace t.blueprints
  values := k.part valuePlace t.values
  pins := k.part pinPlace t.pins

def places (t : Tables) : Database.TableName → List Place
  | .configs => t.configs.map configPlace
  | .blueprints => t.blueprints.map blueprintPlace
  | .values => t.values.map valuePlace
  | .pins => t.pins.map pinPlace

variable {t : Tables} {k : Sector} {workspace : String}

theorem within_within (k l : Sector) (t : Tables) :
    (t.within l).within k = t.within (k.both l) := by
  unfold within
  simp only [Sector.part_part]

theorem places_within (k : Sector) (t : Tables) (table : Database.TableName) :
    (t.within k).places table = (t.places table).filter fun p => k p.workspace p.project := by
  cases table <;> exact Sector.map_part

section Project

variable {project : ProjectId} (h : k workspace project.text = true)

include h

theorem configOf_within : (t.within k).configOf workspace project = t.configOf workspace project := by
  unfold configOf within configPlace
  rw [recordsIn_part]
  refine find?_filter_of_imp ?_
  intro c _ hc
  rw [beq_iff_eq.mp hc]
  exact h

theorem newestFirst_within (kind : BlueprintKind) :
    (t.within k).newestFirst workspace project kind = t.newestFirst workspace project kind := by
  unfold newestFirst within blueprintPlace
  rw [recordsIn_part, filter_filter_of_imp]
  intro b _ hb
  rw [Bool.and_eq_true, beq_iff_eq] at hb
  rw [hb.1]
  exact h

theorem valuesOf_within : (t.within k).valuesOf workspace project = t.valuesOf workspace project := by
  unfold valuesOf within valuePlace
  rw [recordsIn_part, filter_filter_of_imp]
  intro v _ hv
  rw [beq_iff_eq.mp hv]
  exact h

theorem pinsOf_within : (t.within k).pinsOf workspace project = t.pinsOf workspace project := by
  unfold pinsOf within pinPlace
  rw [recordsIn_part, filter_filter_of_imp]
  intro pin _ hpin
  rw [beq_iff_eq.mp hpin]
  exact h

end Project

theorem configById_within {id : ConfigId} (h : k.Owns workspace (t.places .configs) id.text) :
    (t.within k).configById workspace id = t.configById workspace id := by
  unfold configById within configPlace
  rw [recordsIn_part]
  refine find?_filter_of_imp ?_
  intro c hc hid
  exact h.keep (mem_recordsIn.mp hc) rfl (congrArg Id.text (beq_iff_eq.mp hid))

theorem blueprintById_within {id : BlueprintId}
    (h : k.Owns workspace (t.places .blueprints) id.text) :
    (t.within k).blueprintById workspace id = t.blueprintById workspace id := by
  unfold blueprintById within blueprintPlace
  rw [recordsIn_part]
  refine find?_filter_of_imp ?_
  intro b hb hid
  exact h.keep (mem_recordsIn.mp hb) rfl (congrArg Id.text (beq_iff_eq.mp hid))

/-- The blueprint of a project of the part, when its id is not both inside and outside. -/
theorem blueprintOf_within {project : ProjectId} (h : k workspace project.text = true)
    {id : BlueprintId} (hid : k.Owns workspace (t.places .blueprints) id.text ∨
      k.rest.Owns workspace (t.places .blueprints) id.text) :
    ((t.within k).blueprintById workspace id).filter (·.project == project) =
      (t.blueprintById workspace id).filter (·.project == project) := by
  rcases hid with hinside | houtside
  · rw [blueprintById_within hinside]
  · have hout : ∀ b ∈ recordsIn workspace t.blueprints, b.id = id →
        k workspace b.project.text = false := by
      intro b hb hid
      have hrest := houtside.keep (mem_recordsIn.mp hb) rfl (congrArg Id.text hid)
      exact Bool.not_eq_true' _ ▸ hrest
    have hpart : (t.within k).blueprintById workspace id = none := by
      unfold blueprintById within blueprintPlace
      rw [recordsIn_part, List.find?_eq_none]
      intro b hb hid
      obtain ⟨hstored, hkeep⟩ := List.mem_filter.mp hb
      rw [hout b hstored (beq_iff_eq.mp hid)] at hkeep
      cases hkeep
    rw [hpart, Option.filter_none, eq_comm, Option.filter_eq_none_iff]
    intro b hb hproject
    have hid : (b.id == id) = true :=
      List.find?_some (p := fun b : Blueprint => b.id == id) hb
    have hother := hout b (List.mem_of_find?_eq_some hb) (beq_iff_eq.mp hid)
    rw [beq_iff_eq.mp hproject, h] at hother
    cases hother

theorem kinds_within {project : ProjectId} (h : k workspace project.text = true)
    {ids : List BlueprintId} (hids : ∀ id ∈ ids,
      k.Owns workspace (t.places .blueprints) id.text ∨
        k.rest.Owns workspace (t.places .blueprints) id.text) :
    (t.within k).kinds workspace project ids = t.kinds workspace project ids := by
  unfold kinds
  apply List.filterMap_congr
  intro id hid
  rw [blueprintOf_within h (hids id hid)]

section Wide

variable (h : ∀ p, k workspace p = true)

include h

/-- All records of a workspace that lies in the part. -/
theorem recordsIn_within {α : Type} (project id : α → String) (rows : List (Scoped α)) :
    recordsIn workspace (k.part (Scoped.place project id) rows) = recordsIn workspace rows := by
  rw [recordsIn_part, List.filter_eq_self]
  intro a _
  exact h (project a)

theorem envsOf_within (id : BlueprintId) :
    (t.within k).envsOf workspace id = t.envsOf workspace id := by
  unfold envsOf within pinPlace
  rw [recordsIn_within h]

theorem history_within (project : ProjectId) (limit offset : Nat) :
    (t.within k).history workspace project limit offset =
      t.history workspace project limit offset := by
  unfold history
  rw [newestFirst_within (h project.text)]
  simp only [envsOf_within h]

end Wide

end Tables

section Clashes

variable {k : Sector} {workspace : String}

theorem configClash_part {rows : List (Scoped Config)} {config : Config}
    (hkeep : k workspace config.project.text = true)
    (hid : k.Owns workspace (rows.map configPlace) config.id.text) :
    configClash (k.part configPlace rows) ⟨workspace, config⟩ =
      configClash rows ⟨workspace, config⟩ := by
  unfold configClash Sector.part
  rw [any_filter_of_imp]
  intro r hr hclash
  simp only [Bool.and_eq_true, Bool.or_eq_true, beq_iff_eq] at hclash
  obtain ⟨hworkspace, hsame | hproject⟩ := hclash
  · exact hid.keep hr hworkspace (congrArg Id.text hsame)
  · simp only [configPlace, Scoped.place, hworkspace, hproject, hkeep]

theorem blueprintClash_part {rows : List (Scoped Blueprint)} {blueprint : Blueprint}
    (hid : k.Owns workspace (rows.map blueprintPlace) blueprint.id.text) :
    blueprintClash (k.part blueprintPlace rows) ⟨workspace, blueprint⟩ =
      blueprintClash rows ⟨workspace, blueprint⟩ := by
  unfold blueprintClash Sector.part
  rw [any_filter_of_imp]
  intro r hr hclash
  simp only [Bool.and_eq_true, beq_iff_eq] at hclash
  exact hid.keep hr hclash.1 (congrArg Id.text hclash.2)

theorem valueClash_part {rows : List (Scoped ValueRow)} {row : ValueRow}
    (hkeep : k workspace row.project.text = true)
    (hid : k.Owns workspace (rows.map valuePlace) row.id.text) :
    valueClash (k.part valuePlace rows) ⟨workspace, row⟩ = valueClash rows ⟨workspace, row⟩ := by
  unfold valueClash Sector.part
  rw [find?_filter_of_imp]
  intro r hr hclash
  simp only [valuesClash, Bool.and_eq_true, Bool.or_eq_true, beq_iff_eq] at hclash
  obtain ⟨hworkspace, hsame | hopen⟩ := hclash
  · exact hid.keep hr hworkspace (congrArg Id.text hsame)
  · simp only [valuePlace, Scoped.place, hworkspace, hopen.1.2, hkeep]

theorem pinClash_part {rows : List (Scoped Pin)} {pin : Pin}
    (hkeep : k workspace pin.project.text = true)
    (hid : k.Owns workspace (rows.map pinPlace) pin.id.text) :
    pinClash (k.part pinPlace rows) ⟨workspace, pin⟩ = pinClash rows ⟨workspace, pin⟩ := by
  unfold pinClash Sector.part
  rw [any_filter_of_imp]
  intro r hr hclash
  simp only [Bool.and_eq_true, Bool.or_eq_true, beq_iff_eq] at hclash
  obtain ⟨hworkspace, hsame | hplace⟩ := hclash
  · exact hid.keep hr hworkspace (congrArg Id.text hsame)
  · simp only [pinPlace, Scoped.place, hworkspace, hplace.1, hkeep]

end Clashes

section Moves

def changeFirst {α : Type} (hit : α → Bool) (f : α → α) : List α → List α
  | [] => []
  | a :: rest => if hit a then f a :: rest else a :: changeFirst hit f rest

theorem modify_find?_zipIdx {α : Type} (hit : α → Bool) (f : α → α) (rows : List α) (start : Nat) :
    match (rows.zipIdx start).find? fun (a, _) => hit a with
    | none => changeFirst hit f rows = rows ∧ rows.any hit = false
    | some (_, i) => start ≤ i ∧ changeFirst hit f rows = rows.modify (i - start) f ∧
        rows.any hit = true := by
  induction rows generalizing start with
  | nil => exact ⟨rfl, rfl⟩
  | cons a rest ih =>
      rw [List.zipIdx_cons, List.find?_cons]
      cases hhit : hit a with
      | true => simp [changeFirst, hhit]
      | false =>
          have hrest := ih (start + 1)
          simp only [hhit]
          split at hrest
          · rename_i hnone
            simp [hnone, changeFirst, hhit, hrest]
          · rename_i other i hsome
            obtain ⟨hle, hchanged, hany⟩ := hrest
            have hi : i - start = (i - (start + 1)) + 1 := by omega
            simp only [hsome]
            refine ⟨by omega, ?_, by simp [hhit, hany]⟩
            rw [hi, changeFirst, if_neg (by simp [hhit]), List.modify_succ_cons, hchanged]

theorem filter_changeFirst {α : Type} {hit keep : α → Bool} {f : α → α}
    (hhit : ∀ a, hit a = true → keep a = true) (hf : ∀ a, keep (f a) = keep a) (rows : List α) :
    (changeFirst hit f rows).filter keep = changeFirst hit f (rows.filter keep) := by
  induction rows with
  | nil => rfl
  | cons a rest ih =>
      cases h : hit a with
      | true => simp [changeFirst, h, hf, hhit a h]
      | false => cases hkeep : keep a <;> simp [changeFirst, h, hkeep, ih]

/-- Where a row stands that is not among those changed is as it was. -/
theorem edited_changeFirst {α : Type} {place : α → Place} {here : Place → Prop} {hit : α → Bool}
    {f : α → α} (hplace : ∀ a, place (f a) = place a) (hhit : ∀ a, hit a = true → here (place a))
    (rows : List α) : Sector.Edited place here rows (changeFirst hit f rows) := by
  induction rows with
  | nil => exact .refl place here []
  | cons a rest ih =>
      cases h : hit a with
      | true =>
          rw [changeFirst, if_pos h]
          refine ⟨?_, fun k hk => ?_⟩
          · simp only [List.map_cons, hplace, List.prefix_rfl]
          · simp [Sector.part, hplace, hk _ (hhit a h)]
      | false =>
          rw [changeFirst, if_neg (by simp [h])]
          refine ⟨(List.prefix_cons_inj _).mpr ih.places, fun k hk => ?_⟩
          have hrest := ih.others k hk
          unfold Sector.part at hrest ⊢
          rw [List.filter_cons, List.filter_cons, hrest]

theorem updatePin_eq_changeFirst (work : Work) (workspace : String) (project : ProjectId)
    (user : String) (now : Instant) (target : PinTarget) :
    (work.updatePin workspace project user now target).1 =
        work.tables.pins.any (pinsEnv workspace project target.env) ∧
      (work.updatePin workspace project user now target).2.mode = work.mode ∧
      (work.updatePin workspace project user now target).2.tables = { work.tables with
        pins := changeFirst (pinsEnv workspace project target.env)
          (fun row => { row with record := Work.moved user now target.blueprint row.record })
          work.tables.pins } := by
  have hfound := modify_find?_zipIdx (pinsEnv workspace project target.env)
    (fun row => { row with record := Work.moved user now target.blueprint row.record })
    work.tables.pins 0
  unfold Work.updatePin
  split
  · rename_i hnone
    simp only [pinsEnv, hnone] at hfound ⊢
    simp only [hfound.1, hfound.2, true_and]
  · rename_i row i hsome
    simp only [pinsEnv, hsome] at hfound ⊢
    simp only [hfound.2.1, hfound.2.2, Nat.sub_zero, true_and]

end Moves

namespace Work

/-- The rows of a part, as if nothing had changed so far. -/
def within (k : Sector) (work : Work) : Work := ⟨work.mode, work.tables.within k, []⟩

variable {work : Work} {k : Sector} {workspace : String}

theorem within_congr {work work' : Work} (hmode : work.mode = work'.mode)
    (htables : work.tables.within k = work'.tables.within k) : work.within k = work'.within k := by
  rw [within, within, hmode, htables]

theorem within_self (k : Sector) (work : Work) : (work.within k).within k = work.within k := by
  refine within_congr rfl ?_
  change (work.tables.within k).within k = work.tables.within k
  rw [Tables.within_within, Sector.both_self]

theorem insertConfig_within {config : Config} (hkeep : k workspace config.project.text = true)
    (hid : k.Owns workspace (work.tables.places .configs) config.id.text) :
    ((work.within k).insertConfig workspace config).1 = (work.insertConfig workspace config).1 ∧
      ((work.within k).insertConfig workspace config).2.within k =
        (work.insertConfig workspace config).2.within k := by
  have hclash : configClash (work.within k).tables.configs ⟨workspace, config⟩ =
      configClash work.tables.configs ⟨workspace, config⟩ := configClash_part hkeep hid
  unfold insertConfig
  rw [hclash]
  cases configClash work.tables.configs ⟨workspace, config⟩ with
  | some clash => exact ⟨rfl, within_self k work⟩
  | none =>
      refine ⟨rfl, within_congr rfl ?_⟩
      simp only [within, Tables.within, Sector.part_append, Sector.part_part, Sector.both_self]

theorem insertBlueprint_within {blueprint : Blueprint}
    (hid : k.Owns workspace (work.tables.places .blueprints) blueprint.id.text) :
    ((work.within k).insertBlueprint workspace blueprint).1 =
        (work.insertBlueprint workspace blueprint).1 ∧
      ((work.within k).insertBlueprint workspace blueprint).2.within k =
        (work.insertBlueprint workspace blueprint).2.within k := by
  have hclash : blueprintClash (work.within k).tables.blueprints ⟨workspace, blueprint⟩ =
      blueprintClash work.tables.blueprints ⟨workspace, blueprint⟩ := blueprintClash_part hid
  unfold insertBlueprint
  rw [hclash]
  cases blueprintClash work.tables.blueprints ⟨workspace, blueprint⟩ with
  | some clash => exact ⟨rfl, within_self k work⟩
  | none =>
      refine ⟨rfl, within_congr rfl ?_⟩
      simp only [within, Tables.within, Sector.part_append, Sector.part_part, Sector.both_self]

theorem place_closed (hit : Scoped ValueRow → Bool) (validTo : BlueprintId)
    (row : Scoped ValueRow) :
    valuePlace (if hit row then withEnd (some validTo) row else row) = valuePlace row := by
  split <;> rfl

theorem closeValues_within (work : Work) {project : ProjectId} (hkeep : k workspace project.text = true)
    (validTo : BlueprintId) (keys : List String) :
    ((work.within k).closeValues workspace project validTo keys).1 =
        (work.closeValues workspace project validTo keys).1 ∧
      ((work.within k).closeValues workspace project validTo keys).2.within k =
        (work.closeValues workspace project validTo keys).2.within k := by
  rw [closeValues_eq, closeValues_eq]
  refine ⟨?_, within_congr rfl ?_⟩
  · dsimp only
    rw [length_places, length_places]
    refine countP_filter_of_imp ?_
    intro row _ hrow
    simp only [closes, Bool.and_eq_true, beq_iff_eq] at hrow
    simp only [valuePlace, Scoped.place, hrow.1.1.1, hrow.1.1.2, hkeep]
  · simp only [within, Tables.within, Sector.part_part, Sector.both_self,
      Sector.part_map (place_closed (closes workspace project keys) validTo)]

theorem insertValues_within {rows : List ValueRow}
    (hkeep : ∀ row ∈ rows, k workspace row.project.text = true)
    (hids : ∀ row ∈ rows, k.Owns workspace (work.tables.places .values) row.id.text) :
    ((work.within k).insertValues workspace rows).1 = (work.insertValues workspace rows).1 ∧
      ((work.within k).insertValues workspace rows).2.within k =
        (work.insertValues workspace rows).2.within k := by
  have hbatch : appendUntilClash valueClash (work.within k).tables.values
      (rows.map fun row => ⟨workspace, row⟩) = _ :=
    Sector.appendUntilClash_part workspace
      (List.forall_mem_map.mpr fun row hrow => ⟨rfl, hkeep row hrow, hids row hrow⟩)
      fun stored => List.forall_mem_map.mpr fun row hrow hid =>
        valueClash_part (hkeep row hrow) hid
  unfold insertValues
  rw [hbatch]
  refine ⟨rfl, within_congr rfl ?_⟩
  simp only [within, Tables.within, Sector.part_part, Sector.both_self]

theorem insertPins_within {pins : List Pin}
    (hkeep : ∀ pin ∈ pins, k workspace pin.project.text = true)
    (hids : ∀ pin ∈ pins, k.Owns workspace (work.tables.places .pins) pin.id.text) :
    ((work.within k).insertPins workspace pins).1 = (work.insertPins workspace pins).1 ∧
      ((work.within k).insertPins workspace pins).2.within k =
        (work.insertPins workspace pins).2.within k := by
  have hbatch : appendUntilClash pinClash (work.within k).tables.pins
      (pins.map fun pin => ⟨workspace, pin⟩) = _ :=
    Sector.appendUntilClash_part workspace
      (List.forall_mem_map.mpr fun pin hpin => ⟨rfl, hkeep pin hpin, hids pin hpin⟩)
      fun stored => List.forall_mem_map.mpr fun pin hpin hid => pinClash_part (hkeep pin hpin) hid
  unfold insertPins
  rw [hbatch]
  refine ⟨rfl, within_congr rfl ?_⟩
  simp only [within, Tables.within, Sector.part_part, Sector.both_self]

theorem updatePin_within {project : ProjectId} (hkeep : k workspace project.text = true)
    (user : String) (now : Instant) (target : PinTarget) {work work' : Work}
    (h : work.within k = work'.within k) :
    (work.updatePin workspace project user now target).1 =
        (work'.updatePin workspace project user now target).1 ∧
      (work.updatePin workspace project user now target).2.within k =
        (work'.updatePin workspace project user now target).2.within k := by
  obtain ⟨hfound, hmode, htables⟩ := updatePin_eq_changeFirst work workspace project user now target
  obtain ⟨hfound', hmode', htables'⟩ :=
    updatePin_eq_changeFirst work' workspace project user now target
  have hsame : work.tables.within k = work'.tables.within k := congrArg Work.tables h
  have hpins : k.part pinPlace work.tables.pins = k.part pinPlace work'.tables.pins :=
    congrArg Tables.pins hsame
  have hhit : ∀ row : Scoped Pin, pinsEnv workspace project target.env row = true →
      k (pinPlace row).workspace (pinPlace row).project = true := by
    intro row hrow
    simp only [pinsEnv, Bool.and_eq_true, beq_iff_eq] at hrow
    simp only [pinPlace, Scoped.place, hrow.1.1, hrow.1.2, hkeep]
  constructor
  · rw [hfound, hfound', ← any_filter_of_imp fun row _ => hhit row,
      show work.tables.pins.filter _ = _ from hpins]
    exact any_filter_of_imp fun row _ => hhit row
  · refine within_congr (hmode.trans ((congrArg Work.mode h).trans hmode'.symm)) ?_
    have hafter := congrArg (changeFirst (pinsEnv workspace project target.env) fun row =>
      { row with record := moved user now target.blueprint row.record }) hpins
    unfold Sector.part at hafter
    rw [← filter_changeFirst hhit, ← filter_changeFirst hhit] at hafter
    · rw [htables, htables']
      unfold Tables.within at hsame ⊢
      simp only [Tables.mk.injEq] at hsame ⊢
      exact ⟨hsame.1, hsame.2.1, hsame.2.2.1, hafter⟩
    · exact fun _ => rfl
    · exact fun _ => rfl

theorem updatePins_within {project : ProjectId} (hkeep : k workspace project.text = true)
    (user : String) (now : Instant) (targets : List PinTarget) {work work' : Work}
    (h : work.within k = work'.within k) :
    (updatePins workspace project user now targets work).1 =
        (updatePins workspace project user now targets work').1 ∧
      (updatePins workspace project user now targets work).2.within k =
        (updatePins workspace project user now targets work').2.within k := by
  induction targets generalizing work work' with
  | nil => exact ⟨rfl, h⟩
  | cons target rest ih =>
      obtain ⟨hfound, hafter⟩ := updatePin_within hkeep user now target h
      obtain ⟨hcount, hend⟩ := ih hafter
      refine ⟨?_, hend⟩
      unfold updatePins
      dsimp only
      rw [hfound, hcount]

end Work

/-- The answer of a call that reads and stays in a part. -/
theorem answer_within {work : Work} {k : Sector} {workspace : String} {c : Call}
    (hreads : c.writes = false) (h : c.StaysIn k workspace work.tables.places) :
    (perform workspace c (work.within k)).1 = (perform workspace c work).1 := by
  cases c with
  | configOf project =>
      exact congrArg Except.ok (Tables.configOf_within (h.projects _ List.mem_cons_self))
  | configById id =>
      exact congrArg Except.ok (Tables.configById_within (h.named _ List.mem_cons_self))
  | blueprintById id =>
      exact congrArg Except.ok (Tables.blueprintById_within (h.named _ List.mem_cons_self))
  | blueprintOfKind id project kind =>
      exact congrArg (fun b : Option Blueprint => Except.ok (b.filter _))
        (Tables.blueprintById_within (h.named _ List.mem_cons_self))
  | latest project kind =>
      exact congrArg (fun rows : List Blueprint => Except.ok rows.head?)
        (Tables.newestFirst_within (h.projects _ List.mem_cons_self) kind)
  | kinds project ids =>
      exact congrArg Except.ok (Tables.kinds_within (h.projects _ List.mem_cons_self) h.asked)
  | history project limit offset =>
      exact congrArg Except.ok (Tables.history_within (h.wide rfl) project limit offset)
  | count project =>
      exact congrArg (fun rows : List Blueprint => Except.ok rows.length)
        (Tables.newestFirst_within (h.projects _ List.mem_cons_self) .blueprint)
  | effective project blueprint =>
      exact congrArg (fun rows : List ValueRow => Except.ok (rows.filter _))
        (Tables.valuesOf_within (h.projects _ List.mem_cons_self))
  | delta blueprint =>
      exact congrArg (fun rows : List ValueRow => Except.ok (rows.filter _))
        (Tables.recordsIn_within (h.wide rfl) _ _ work.tables.values)
  | rows project =>
      exact congrArg Except.ok (Tables.valuesOf_within (h.projects _ List.mem_cons_self))
  | pinnedTo project env =>
      exact congrArg (fun pins : List Pin => Except.ok ((pins.find? _).map Pin.blueprint))
        (Tables.pinsOf_within (h.projects _ List.mem_cons_self))
  | envsOf blueprint =>
      exact congrArg Except.ok (Tables.envsOf_within (h.wide rfl) blueprint)
  | pins project envs =>
      exact congrArg (fun pins : List Pin => Except.ok (pins.filter _))
        (Tables.pinsOf_within (h.projects _ List.mem_cons_self))
  | _ => cases hreads

/-- A call that stays in a part comes to the same on the part alone. -/
theorem perform_within {work : Work} {k : Sector} {workspace : String} {c : Call}
    (h : c.StaysIn k workspace work.tables.places) :
    (perform workspace c (work.within k)).1 = (perform workspace c work).1 ∧
      (perform workspace c (work.within k)).2.within k =
        (perform workspace c work).2.within k := by
  cases hwrites : c.writes with
  | false =>
      rw [perform_of_reads hwrites, perform_of_reads hwrites]
      exact ⟨answer_within hwrites h, Work.within_self k work⟩
  | true =>
      cases hmode : work.mode with
      | read =>
          have hmode' : (work.within k).mode = .read := hmode
          rw [perform_of_readMode hwrites hmode, perform_of_readMode hwrites hmode']
          exact ⟨rfl, Work.within_self k work⟩
      | write =>
          have hmode' : (work.within k).mode = .write := hmode
          cases c <;> simp only [Call.writes, Bool.false_eq_true] at hwrites
          case insertConfig config =>
            simpa [perform, hmode, hmode'] using Work.insertConfig_within
              (h.projects _ List.mem_cons_self) (h.named _ List.mem_cons_self)
          case insertBlueprint config blueprint =>
            simpa [perform, hmode, hmode'] using Work.insertBlueprint_within
              (h.named _ List.mem_cons_self)
          case closeValues project validTo keys =>
            simpa [perform, hmode, hmode'] using Work.closeValues_within work
              (h.projects _ List.mem_cons_self) validTo keys
          case insertValues config rows =>
            simpa [perform, hmode, hmode'] using Work.insertValues_within
              (fun row hrow => h.projects _ (List.mem_map_of_mem hrow))
              (fun row hrow => h.named _ (List.mem_map_of_mem hrow))
          case insertPins pins =>
            simpa [perform, hmode, hmode'] using Work.insertPins_within
              (fun pin hpin => h.projects _ (List.mem_map_of_mem hpin))
              (fun pin hpin => h.named _ (List.mem_map_of_mem hpin))
          case updatePins project user now targets =>
            simpa [perform, hmode, hmode'] using Work.updatePins_within
              (h.projects _ List.mem_cons_self) user now targets (Work.within_self k work)

structure Tables.Edited (here : Place → Prop) (t t' : Tables) : Prop where
  configs : Sector.Edited configPlace here t.configs t'.configs
  blueprints : Sector.Edited blueprintPlace here t.blueprints t'.blueprints
  values : Sector.Edited valuePlace here t.values t'.values
  pins : Sector.Edited pinPlace here t.pins t'.pins

theorem Tables.Edited.refl (here : Place → Prop) (t : Tables) : t.Edited here t :=
  ⟨.refl _ _ _, .refl _ _ _, .refl _ _ _, .refl _ _ _⟩

theorem Tables.Edited.places {here : Place → Prop} {t t' : Tables} (h : t.Edited here t')
    (table : Database.TableName) : t.places table <+: t'.places table := by
  cases table with
  | configs => exact h.configs.places
  | blueprints => exact h.blueprints.places
  | values => exact h.values.places
  | pins => exact h.pins.places

theorem Tables.Edited.within_eq {here : Place → Prop} {t t' : Tables} (h : t.Edited here t')
    {k : Sector} (hother : ∀ p, here p → k p.workspace p.project = false) :
    t'.within k = t.within k := by
  unfold within
  rw [h.configs.others k hother, h.blueprints.others k hother, h.values.others k hother,
    h.pins.others k hother]

theorem edited_updatePins {workspace : String} {project : ProjectId} {here : Place → Prop}
    (hhere : ∀ p : Place, p.workspace = workspace → p.project = project.text → here p)
    (user : String) (now : Instant) (targets : List PinTarget) (work : Work) :
    work.tables.Edited here
      (Work.updatePins workspace project user now targets work).2.tables := by
  induction targets generalizing work with
  | nil => exact .refl here work.tables
  | cons target rest ih =>
      obtain ⟨-, -, hfirst⟩ := updatePin_eq_changeFirst work workspace project user now target
      have hrest := ih (work.updatePin workspace project user now target).2
      rw [hfirst] at hrest
      have hmoved : Sector.Edited pinPlace here work.tables.pins
          (changeFirst (pinsEnv workspace project target.env)
            (fun row => { row with record := Work.moved user now target.blueprint row.record })
            work.tables.pins) := by
        refine edited_changeFirst ?_ ?_ work.tables.pins
        · exact fun _ => rfl
        · intro row hrow
          simp only [pinsEnv, Bool.and_eq_true, beq_iff_eq] at hrow
          exact hhere _ hrow.1.1 (congrArg ProjectId.text hrow.1.2)
      exact { hrest with pins := hmoved.trans hrest.pins }

/-- A call changes rows of its projects and adds such rows. -/
theorem edited_perform (workspace : String) (c : Call) (work : Work) :
    work.tables.Edited (c.Reaches workspace) (perform workspace c work).2.tables := by
  have hperformed := performed workspace c work
  generalize (perform workspace c work).2 = after at hperformed
  cases hperformed with
  | unchanged => exact .refl _ _
  | insertConfig config =>
      unfold Work.insertConfig
      split
      · exact .refl _ _
      · refine { Tables.Edited.refl _ work.tables with configs := .append ?_ }
        exact List.forall_mem_singleton.mpr ⟨rfl, config.project, List.mem_cons_self, rfl⟩
  | insertBlueprint config blueprint =>
      unfold Work.insertBlueprint
      split
      · exact .refl _ _
      · refine { Tables.Edited.refl _ work.tables with blueprints := .append ?_ }
        exact List.forall_mem_singleton.mpr ⟨rfl, blueprint.project, List.mem_cons_self, rfl⟩
  | closeValues project validTo keys =>
      refine { Tables.Edited.refl _ work.tables with values := .map ?_ ?_ }
      · exact Work.place_closed (Work.closes workspace project keys) validTo
      · intro row
        split
        · rename_i hrow
          simp only [Work.closes, Bool.and_eq_true, beq_iff_eq] at hrow
          exact Or.inr ⟨hrow.1.1.1, project, List.mem_cons_self,
            congrArg ProjectId.text hrow.1.1.2⟩
        · exact Or.inl rfl
  | insertValues config rows =>
      refine { Tables.Edited.refl _ work.tables with values := .appendUntilClash valueClash ?_ }
      exact List.forall_mem_map.mpr fun row hrow =>
        ⟨rfl, row.project, List.mem_map_of_mem hrow, rfl⟩
  | insertPins pins =>
      refine { Tables.Edited.refl _ work.tables with pins := .appendUntilClash pinClash ?_ }
      exact List.forall_mem_map.mpr fun pin hpin =>
        ⟨rfl, pin.project, List.mem_map_of_mem hpin, rfl⟩
  | updatePins project user now targets =>
      exact edited_updatePins (fun _ hworkspace hproject =>
        ⟨hworkspace, project, List.mem_cons_self, hproject⟩) user now targets work

theorem eq_none_of_answerOf {clash : Option Clash} {a : Unit} (h : answerOf clash = .ok a) :
    clash = none := by
  cases clash with
  | none => rfl
  | some clash => cases h

/-- The records that a call brings along are stored when the call is answered. -/
theorem mem_places_perform {workspace : String} {work : Work} {c : Call} {a : c.Answer}
    (hwrites : c.writes = true) (hok : (perform workspace c work).1 = .ok a) :
    ∀ n ∈ c.named, ∃ p ∈ c.projects,
      ⟨workspace, p.text, n.2⟩ ∈ (perform workspace c work).2.tables.places n.1 := by
  cases hmode : work.mode with
  | read =>
      rw [perform_of_readMode hwrites hmode] at hok
      cases hok
  | write =>
      cases c <;> simp only [Call.writes, Bool.false_eq_true] at hwrites
      case insertConfig config =>
        refine List.forall_mem_singleton.mpr ⟨config.project, List.mem_cons_self, ?_⟩
        simp only [perform, hmode, Call.writes, Work.insertConfig] at hok ⊢
        cases hclash : configClash work.tables.configs ⟨workspace, config⟩ with
        | some clash => simp [hclash] at hok
        | none => simp [Tables.places, configPlace, Scoped.place]
      case insertBlueprint config blueprint =>
        refine List.forall_mem_singleton.mpr ⟨blueprint.project, List.mem_cons_self, ?_⟩
        simp only [perform, hmode, Call.writes, Work.insertBlueprint] at hok ⊢
        cases hclash : blueprintClash work.tables.blueprints ⟨workspace, blueprint⟩ with
        | some clash => simp [hclash] at hok
        | none => simp [Tables.places, blueprintPlace, Scoped.place]
      case closeValues => exact fun _ h => (List.not_mem_nil h).elim
      case insertValues config rows =>
        refine List.forall_mem_map.mpr fun row hrow =>
          ⟨row.project, List.mem_map_of_mem hrow, ?_⟩
        simp only [perform, hmode, Call.writes, Work.insertValues] at hok ⊢
        have hrows := appendUntilClash_of_none (eq_none_of_answerOf hok)
        exact List.mem_map.mpr ⟨⟨workspace, row⟩, by simp [hrows, hrow], rfl⟩
      case insertPins pins =>
        refine List.forall_mem_map.mpr fun pin hpin =>
          ⟨pin.project, List.mem_map_of_mem hpin, ?_⟩
        simp only [perform, hmode, Call.writes, Work.insertPins] at hok ⊢
        have hrows := appendUntilClash_of_none (eq_none_of_answerOf hok)
        exact List.mem_map.mpr ⟨⟨workspace, pin⟩, by simp [hrows, hpin], rfl⟩
      case updatePins => exact fun _ h => (List.not_mem_nil h).elim

theorem store_of_failed {ε α : Type} {mode : Mode} {draws : Nat → Ulid} {p : Program ε α}
    {t : backend.Store} {e : ε} (h : (backend.inUnit mode draws p t).result = .error e) :
    (backend.inUnit mode draws p t).store = t := by
  rw [Backend.result_inUnit] at h
  rw [Backend.inUnit_of_error h]
  exact origin_run draws p (backend.start mode t) 0

structure Tables.SameRows (t t' : Tables) : Prop where
  configs : t.configs.Perm t'.configs
  blueprints : t.blueprints.Perm t'.blueprints
  values : t.values.Perm t'.values
  pins : t.pins.Perm t'.pins

theorem Tables.sameRows_of_within {t t' : Tables} {k l : Sector} (hapart : l.both k.rest = l)
    (h : t.within k = t'.within k) (h' : t.within l = t'.within l)
    (hrest : t.within (l.rest.both k.rest) = t'.within (l.rest.both k.rest)) : t.SameRows t' := by
  simp only [within, mk.injEq] at h h' hrest
  exact ⟨Sector.perm_of_parts hapart h.1 h'.1 hrest.1,
    Sector.perm_of_parts hapart h.2.1 h'.2.1 hrest.2.1,
    Sector.perm_of_parts hapart h.2.2.1 h'.2.2.1 hrest.2.2.1,
    Sector.perm_of_parts hapart h.2.2.2 h'.2.2.2 hrest.2.2.2⟩

/-- No two rows of a workspace stand under one id. -/
theorem Constrained.nodup_places {t : Tables} (h : Constrained t) (table : Database.TableName) :
    ((t.places table).map fun p => (p.workspace, p.id)).Nodup := by
  have htext : ∀ {kind : IdKind} {α : Type} {id : α → Id kind} {rows : List (Scoped α)},
      (rows.map fun row => (row.workspace, id row.record)).Nodup →
        (rows.map fun row => (row.workspace, (id row.record).text)).Nodup := by
    intro kind α id rows hrows
    have hinjective : Function.Injective fun place : String × Id kind => (place.1, place.2.text) := by
      intro a b hab
      simp only [Prod.mk.injEq, Id.text_inj] at hab
      exact Prod.ext hab.1 hab.2
    have hmapped := hrows.map hinjective
    rwa [List.map_map] at hmapped
  cases table <;> unfold Tables.places <;> rw [List.map_map]
  · exact htext h.configIds
  · exact htext h.blueprintIds
  · exact htext h.valueIds
  · exact htext h.pinIds

def sectors : Sectors backend where
  ofStore := Tables.within
  ofWork := Work.within
  places := fun work : Work => work.tables.places
  start _ _ _ := rfl
  commit _ _ := rfl
  commit_start _ _ := rfl
  places_ofWork := fun k (work : Work) => Tables.places_within k work.tables
  places_start_commit _ _ := rfl
  perform := perform_within
  spare hspares := fun work : Work =>
    Work.within_congr (mode_perform _ _ work)
      ((edited_perform _ _ work).within_eq fun _ hp => hspares.of_reaches hp)
  grow workspace c := fun work : Work => (edited_perform workspace c work).places
  stored := mem_places_perform
  failed := store_of_failed

end Memory

end ConfigTimeline
