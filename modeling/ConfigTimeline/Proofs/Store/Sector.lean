import ConfigTimeline.Proofs.Store.Reasoning

/-!
Parts of the rows of a store, told from the workspace and the project of each row: all rows of a
workspace, or those of one of its projects. A call that stays in a part has the same answer whether or
not the other rows are there, and leaves the other rows alone. What a call asks for by an id, it asks
for among all rows of its workspace; so does a write with the ids that it brings along. That is where
the other rows come in: none of them may have one of these ids.
-/

namespace ConfigTimeline

section Lists

variable {α κ : Type} {keep hit : α → Bool} {rows : List α}

theorem filter_filter_of_imp (h : ∀ a ∈ rows, hit a = true → keep a = true) :
    (rows.filter keep).filter hit = rows.filter hit := by
  rw [List.filter_filter]
  apply List.filter_congr
  intro a ha
  cases hhit : hit a with
  | false => rfl
  | true => simp [h a ha hhit]

theorem find?_filter_of_imp (h : ∀ a ∈ rows, hit a = true → keep a = true) :
    (rows.filter keep).find? hit = rows.find? hit := by
  rw [← List.head?_filter, filter_filter_of_imp h, List.head?_filter]

theorem any_filter_of_imp (h : ∀ a ∈ rows, hit a = true → keep a = true) :
    (rows.filter keep).any hit = rows.any hit := by
  rw [← List.isSome_find?, find?_filter_of_imp h, List.isSome_find?]

theorem countP_filter_of_imp (h : ∀ a ∈ rows, hit a = true → keep a = true) :
    (rows.filter keep).countP hit = rows.countP hit := by
  rw [List.countP_eq_length_filter, filter_filter_of_imp h, List.countP_eq_length_filter]

/-- A batch of rows of a part is stored as far as it is without the other rows, which it clashes with
in no case. -/
theorem appendUntilClash_filter {clash : List α → α → Option κ} {batch : List α}
    (hkeep : ∀ row ∈ batch, keep row = true)
    (hclash : ∀ stored, (∀ r ∈ stored, r ∈ rows ∨ keep r = true) →
      ∀ row ∈ batch, clash (stored.filter keep) row = clash stored row) :
    appendUntilClash clash (rows.filter keep) batch =
      ((appendUntilClash clash rows batch).1.filter keep, (appendUntilClash clash rows batch).2) := by
  induction batch generalizing rows with
  | nil => rfl
  | cons row rest ih =>
      have hrow := hkeep row List.mem_cons_self
      have hfirst := hclash rows (fun r hr => Or.inl hr) row List.mem_cons_self
      unfold appendUntilClash
      rw [hfirst]
      cases clash rows row with
      | some cause => rfl
      | none =>
          have hstored : rows.filter keep ++ [row] = (rows ++ [row]).filter keep := by
            simp [hrow]
          dsimp only
          rw [hstored, ih fun later hlater => hkeep later (List.mem_cons_of_mem row hlater)]
          · intro stored hmem later hlater
            refine hclash stored ?_ later (List.mem_cons_of_mem row hlater)
            intro r hr
            rcases hmem r hr with hold | hkept
            · rcases List.mem_append.mp hold with hold | hnew
              · exact Or.inl hold
              · rw [List.mem_singleton.mp hnew]
                exact Or.inr hrow
            · exact Or.inr hkept

end Lists

structure Place where
  workspace : String
  project : String
  id : String
deriving DecidableEq

/-- A part of the rows of a store, told from the workspace and the project of a row. -/
abbrev Sector := String → String → Bool

namespace Sector

def ofWorkspace (workspace : String) : Sector := fun w _ => w == workspace

def ofProject (workspace : String) (project : ProjectId) : Sector :=
  fun w p => w == workspace && p == project.text

def rest (k : Sector) : Sector := fun w p => !k w p

def both (k l : Sector) : Sector := fun w p => k w p && l w p

def part {ρ : Type} (k : Sector) (place : ρ → Place) (rows : List ρ) : List ρ :=
  rows.filter fun r => k (place r).workspace (place r).project

/-- The rows of a workspace that have an id are all in the part. -/
def Owns (k : Sector) (workspace : String) (places : List Place) (id : String) : Prop :=
  ∀ p ∈ places, p.workspace = workspace → p.id = id → k workspace p.project = true

variable {ρ κ : Type} {k l : Sector} {place : ρ → Place} {rows rows' : List ρ}

theorem part_part : k.part place (l.part place rows) = (k.both l).part place rows :=
  List.filter_filter

theorem both_self (k : Sector) : k.both k = k := by
  funext w p
  exact Bool.and_self _

theorem mem_part {r : ρ} :
    r ∈ k.part place rows ↔ r ∈ rows ∧ k (place r).workspace (place r).project = true :=
  List.mem_filter

theorem map_part : (k.part place rows).map place =
    (rows.map place).filter fun p => k p.workspace p.project := by
  rw [List.filter_map]
  rfl

theorem part_append (added : List ρ) :
    k.part place (rows ++ added) = k.part place rows ++ k.part place added :=
  List.filter_append ..

/-- Rows changed where they stand. -/
theorem part_map {f : ρ → ρ} (h : ∀ r, place (f r) = place r) (rows : List ρ) :
    k.part place (rows.map f) = (k.part place rows).map f := by
  unfold part
  rw [List.filter_map]
  congr 1
  apply List.filter_congr
  intro r _
  simp [h]

/-- Rows are the same up to their order if those of a part are, and the other ones up to their order. -/
theorem perm_of_part (h : k.part place rows = k.part place rows')
    (hrest : (k.rest.part place rows).Perm (k.rest.part place rows')) : rows.Perm rows' := by
  have hsplit := List.filter_append_perm fun r => k (place r).workspace (place r).project
  refine (hsplit rows).symm.trans (List.Perm.trans ?_ (hsplit rows'))
  exact (List.Perm.of_eq h).append hrest

/-- Rows are the same up to their order if those of two parts and those outside of both are. -/
theorem perm_of_parts (hapart : l.both k.rest = l) (h : k.part place rows = k.part place rows')
    (h' : l.part place rows = l.part place rows')
    (hrest : (l.rest.both k.rest).part place rows = (l.rest.both k.rest).part place rows') :
    rows.Perm rows' := by
  have hsecond : l.part place (k.rest.part place rows) = l.part place (k.rest.part place rows') := by
    rw [part_part, part_part, hapart, h']
  have hout : l.rest.part place (k.rest.part place rows) =
      l.rest.part place (k.rest.part place rows') := by
    rw [part_part, part_part, hrest]
  exact perm_of_part h (perm_of_part hsecond (.of_eq hout))

theorem Owns.keep {workspace id : String} (h : k.Owns workspace (rows.map place) id) {r : ρ}
    (hr : r ∈ rows) (hworkspace : (place r).workspace = workspace) (hid : (place r).id = id) :
    k (place r).workspace (place r).project = true := by
  rw [hworkspace]
  exact h (place r) (List.mem_map_of_mem hr) hworkspace hid

/-- A selection of rows of a project of the part. -/
theorem filter_part_of_project {sel : ρ → Bool} {workspace project : String}
    (h : k workspace project = true)
    (hsel : ∀ r, sel r = true → (place r).workspace = workspace ∧ (place r).project = project) :
    (k.part place rows).filter sel = rows.filter sel := by
  refine filter_filter_of_imp fun r _ hr => ?_
  rw [(hsel r hr).1, (hsel r hr).2]
  exact h

/-- A selection of rows of an id that only rows of the part have. -/
theorem filter_part_of_id {sel : ρ → Bool} {workspace id : String}
    (h : k.Owns workspace (rows.map place) id)
    (hsel : ∀ r, sel r = true → (place r).workspace = workspace ∧ (place r).id = id) :
    (k.part place rows).filter sel = rows.filter sel :=
  filter_filter_of_imp fun r hmem hr => h.keep hmem (hsel r hr).1 (hsel r hr).2

/-- A selection of rows of a workspace that lies in the part. -/
theorem filter_part_of_workspace {sel : ρ → Bool} {workspace : String}
    (h : ∀ p, k workspace p = true) (hsel : ∀ r, sel r = true → (place r).workspace = workspace) :
    (k.part place rows).filter sel = rows.filter sel := by
  refine filter_filter_of_imp fun r _ hr => ?_
  rw [hsel r hr]
  exact h _

/-- A batch of rows of a part, with ids that no other row has, is stored as far as it is without the
other rows. A row may clash with one of its id, and else only with one of the part. -/
theorem appendUntilClash_part (workspace : String) {clash : List ρ → ρ → Option κ} {batch : List ρ}
    (hplace : ∀ row ∈ batch, (place row).workspace = workspace ∧
      k workspace (place row).project = true ∧ k.Owns workspace (rows.map place) (place row).id)
    (hclash : ∀ stored, ∀ row ∈ batch, k.Owns workspace (stored.map place) (place row).id →
      clash (k.part place stored) row = clash stored row) :
    appendUntilClash clash (k.part place rows) batch =
      (k.part place (appendUntilClash clash rows batch).1,
        (appendUntilClash clash rows batch).2) := by
  refine appendUntilClash_filter ?_ ?_
  · intro row hrow
    obtain ⟨hworkspace, hkeep, -⟩ := hplace row hrow
    rw [hworkspace]
    exact hkeep
  · intro stored hstored row hrow
    refine hclash stored row hrow ?_
    intro p hp hworkspace hid
    obtain ⟨r, hr, rfl⟩ := List.mem_map.mp hp
    rcases hstored r hr with hold | hkept
    · exact (hplace row hrow).2.2 (place r) (List.mem_map_of_mem hold) hworkspace hid
    · rw [hworkspace] at hkept
      exact hkept

/-- Rows are still where they stood, and only at places of a kind have rows changed or been added. -/
structure Edited (place : ρ → Place) (here : Place → Prop) (rows rows' : List ρ) : Prop where
  places : rows.map place <+: rows'.map place
  others : ∀ k : Sector, (∀ p, here p → k p.workspace p.project = false) →
    k.part place rows' = k.part place rows

namespace Edited

variable {here : Place → Prop}

theorem refl (place : ρ → Place) (here : Place → Prop) (rows : List ρ) :
    Edited place here rows rows :=
  ⟨List.prefix_refl _, fun _ _ => rfl⟩

theorem trans {rows'' : List ρ} (h : Edited place here rows rows')
    (h' : Edited place here rows' rows'') : Edited place here rows rows'' :=
  ⟨h.places.trans h'.places, fun k hk => (h'.others k hk).trans (h.others k hk)⟩

theorem append {added : List ρ} (h : ∀ r ∈ added, here (place r)) :
    Edited place here rows (rows ++ added) where
  places := by
    rw [List.map_append]
    exact List.prefix_append _ _
  others := by
    intro k hk
    have hnone : k.part place added = [] := by
      refine List.filter_eq_nil_iff.mpr fun r hr => ?_
      simp [hk _ (h r hr)]
    rw [part_append, hnone, List.append_nil]

theorem appendUntilClash (clash : List ρ → ρ → Option κ) {batch : List ρ}
    (h : ∀ r ∈ batch, here (place r)) :
    Edited place here rows (appendUntilClash clash rows batch).1 := by
  obtain ⟨kept, hkept, hrows⟩ := appendUntilClash_extends clash rows batch
  rw [hrows]
  exact append fun r hr => h r (hkept.subset hr)

theorem map {f : ρ → ρ} (hplace : ∀ r, place (f r) = place r)
    (hf : ∀ r, f r = r ∨ here (place r)) : Edited place here rows (rows.map f) where
  places := by
    have hsame : (rows.map f).map place = rows.map place := by
      rw [List.map_map]
      exact List.map_congr_left fun r _ => hplace r
    exact hsame ▸ List.prefix_rfl
  others := by
    intro k hk
    rw [part_map hplace]
    refine (List.map_congr_left fun r hr => ?_).trans (List.map_id' _)
    refine (hf r).resolve_right fun hhere => ?_
    have hkeep := (mem_part.mp hr).2
    rw [hk _ hhere] at hkeep
    cases hkeep

end Edited

end Sector

namespace Call

/-- The projects that a call asks for rows of or stores rows of. -/
def projects : Call → List ProjectId
  | .configOf project | .blueprintOfKind _ project _ | .latest project _ | .kinds project _
  | .history project _ _ | .count project | .closeValues project _ _ | .effective project _
  | .rows project | .pinnedTo project _ | .pins project _ | .updatePins project _ _ _ => [project]
  | .insertConfig config => [config.project]
  | .insertBlueprint _ blueprint => [blueprint.project]
  | .insertValues _ batch => batch.map (·.project)
  | .insertPins batch => batch.map (·.project)
  | .configById _ | .blueprintById _ | .delta _ | .envsOf _ => []

/-- The ids of records that a call brings along, or asks for in whatever project. -/
def named : Call → List (Database.TableName × String)
  | .configById id => [(.configs, id.text)]
  | .insertConfig config => [(.configs, config.id.text)]
  | .blueprintById id | .blueprintOfKind id _ _ => [(.blueprints, id.text)]
  | .insertBlueprint _ blueprint => [(.blueprints, blueprint.id.text)]
  | .insertValues _ batch => batch.map fun row => (.values, row.id.text)
  | .insertPins batch => batch.map fun pin => (.pins, pin.id.text)
  | _ => []

def isWide : Call → Bool
  | .delta _ | .envsOf _ | .history _ _ _ => true
  | _ => false

/-- A call in a workspace stays in a part of the rows that stand at the given places. The blueprints
whose kinds it asks for may be of another part, but no id may be in both. -/
structure StaysIn (k : Sector) (workspace : String)
    (places : Database.TableName → List Place) (c : Call) : Prop where
  projects : ∀ p ∈ c.projects, k workspace p.text = true
  named : ∀ n ∈ c.named, k.Owns workspace (places n.1) n.2
  asked : ∀ id ∈ c.asked, k.Owns workspace (places .blueprints) id.text ∨
    k.rest.Owns workspace (places .blueprints) id.text
  wide : c.isWide = true → ∀ p, k workspace p = true

/-- A call in a workspace asks for and stores no rows of a part. -/
def Spares (k : Sector) (workspace : String) (c : Call) : Prop :=
  ∀ p ∈ c.projects, k workspace p.text = false

/-- A place where a call in a workspace may store rows. -/
def Reaches (workspace : String) (c : Call) (place : Place) : Prop :=
  place.workspace = workspace ∧ ∃ p ∈ c.projects, place.project = p.text

theorem Spares.of_reaches {k : Sector} {workspace : String} {c : Call} (h : c.Spares k workspace)
    {place : Place} (hplace : c.Reaches workspace place) :
    k place.workspace place.project = false := by
  obtain ⟨hworkspace, p, hp, hproject⟩ := hplace
  rw [hworkspace, hproject]
  exact h p hp

structure OfProject (project : ProjectId) (c : Call) : Prop where
  projects : ∀ p ∈ c.projects, p = project
  narrow : c.isWide = false
  asked : c.asked.Nodup

theorem OfProject.of_eq {project : ProjectId} {c : Call} (h : c.projects = [project])
    (hnarrow : c.isWide = false) (hasked : c.asked = []) : c.OfProject project where
  projects := by
    rw [h]
    exact List.forall_mem_singleton.mpr rfl
  narrow := hnarrow
  asked := by
    rw [hasked]
    exact List.nodup_nil

/-- A call about rows of a project that looks up no record by its id. -/
def PlainOf (project : ProjectId) (c : Call) : Prop :=
  c.OfProject project ∧ (c.writes = true ∨ c.named = [])

end Call

/-- How a store is taken apart. A store and a working state have parts, and what stays in a part does
the same to the part alone. -/
structure Sectors (b : Backend) where
  ofStore : Sector → b.Store → b.Store
  ofWork : Sector → b.Work → b.Work
  places : b.Work → Database.TableName → List Place
  start : ∀ k mode store, ofWork k (b.start mode store) = b.start mode (ofStore k store)
  commit : ∀ k work, ofStore k (b.commit work) = b.commit (ofWork k work)
  commit_start : ∀ mode store, b.commit (b.start mode store) = store
  places_ofWork : ∀ k work table,
    places (ofWork k work) table = (places work table).filter fun p => k p.workspace p.project
  places_start_commit : ∀ mode work, places (b.start mode (b.commit work)) = places work
  perform : ∀ {k : Sector} {workspace work} {c : Call},
    c.StaysIn k workspace (places work) →
    (b.perform workspace c (ofWork k work)).1 = (b.perform workspace c work).1 ∧
      ofWork k (b.perform workspace c (ofWork k work)).2 =
        ofWork k (b.perform workspace c work).2
  spare : ∀ {k : Sector} {workspace} {c : Call}, c.Spares k workspace →
    ∀ work, ofWork k (b.perform workspace c work).2 = ofWork k work
  grow : ∀ workspace c work table,
    places work table <+: places (b.perform workspace c work).2 table
  stored : ∀ {workspace work} {c : Call} {a : c.Answer}, c.writes = true →
    (b.perform workspace c work).1 = .ok a → ∀ n ∈ c.named,
      ∃ p ∈ c.projects, ⟨workspace, p.text, n.2⟩ ∈ places (b.perform workspace c work).2 n.1
  failed : ∀ {ε α : Type} {mode draws} {p : Program ε α} {store : b.Store} {e : ε},
    (b.inUnit mode draws p store).result = .error e → (b.inUnit mode draws p store).store = store

end ConfigTimeline
