import ConfigTimeline.Proofs.Store.Reasoning
import ConfigTimeline.Service.Resolution

/-!
Resolving a blueprint, told from the tables: the answer has the rows that are effective there, and
there is one as long as no key is effective twice.
-/

namespace ConfigTimeline

theorem Resolution.repeatedKey?_eq_none {seen : List String} {rows : List ValueRow} :
    repeatedKey? seen rows = none ↔
      (rows.map (·.key)).Nodup ∧ ∀ row ∈ rows, row.key ∉ seen := by
  induction rows generalizing seen with
  | nil => simp [repeatedKey?]
  | cons row rest ih =>
      unfold repeatedKey?
      split
      · rename_i hseen
        simp [hseen]
      · rename_i hnew
        rw [ih]
        simp only [List.map_cons, List.nodup_cons, List.mem_map, List.mem_cons, forall_eq_or_imp]
        grind

/-- A key that is reported stands at least twice among those seen and those of the rows. -/
theorem Resolution.two_le_count_of_repeatedKey? {seen : List String} {rows : List ValueRow}
    {key : String} (h : repeatedKey? seen rows = some key) :
    2 ≤ (seen ++ rows.map (·.key)).count key := by
  induction rows generalizing seen with
  | nil => cases h
  | cons row rest ih =>
      unfold repeatedKey? at h
      split at h
      · rename_i hseen
        obtain rfl : row.key = key := Option.some.inj h
        have hbefore : 0 < seen.count row.key := List.count_pos_iff.mpr hseen
        rw [List.map_cons, List.count_append, List.count_cons_self]
        omega
      · have hcount := ih h
        rwa [List.map_cons, List.perm_middle.count_eq]

namespace Memory.Tables

variable (t : Tables) (workspace : String) (project : ProjectId)

def target : Option BlueprintId → Option Blueprint
  | some id => (t.blueprintById workspace id).filter fun b =>
      b.project == project && b.kind == .blueprint
  | none => (t.newestFirst workspace project .blueprint).head?

def effective (blueprint : BlueprintId) : List ValueRow :=
  (t.valuesOf workspace project).filter (·.effectiveAt blueprint)

/-- A blueprint is there to be resolved, and no key is effective there twice. -/
structure Resolvable (at? : Option BlueprintId) : Prop where
  config : (t.configOf workspace project).isSome = true
  target : ∃ b, t.target workspace project at? = some b ∧
    ((t.effective workspace project b.id).map (·.key)).Nodup

structure Resolves (at? : Option BlueprintId) (v : BlueprintView) : Prop where
  target : t.target workspace project at? = some v.blueprint
  values : v.values.Perm (t.effective workspace project v.blueprint.id)
  keys : (v.values.map (·.key)).Nodup

end Memory.Tables

variable {certain : Prop} {sure : Memory.Tables → Call → Prop} {ids : Nat → Ulid}
  {m : Memory.Work} {n : Nat}

theorem Action.ends_config (workspace : String) (project : ProjectId)
    (hsure : certain → sure m.tables (.configOf project))
    (hfound : certain → (m.tables.configOf workspace project).isSome = true) :
    (Action.config workspace project).Ensures sure ids
      (Program.Ends certain fun config m' n' => m' = m ∧ n' = n ∧
        m.tables.configOf workspace project = some config) m n := by
  refine Program.ends_bind
    (Program.ends_read (c := .configOf project) rfl List.nodup_nil rfl hsure) ?_
  rintro found m' n' - ⟨rfl, rfl, hsame⟩
  obtain rfl : found = m'.tables.configOf workspace project := hsame
  exact Program.ends_orFail hfound

namespace Action

variable {workspace : String}

/-- A call that reads goes on with the answer where the store is sure to give it. -/
theorem ensures_ask {c : Call} (hreads : c.writes = false) (hasked : c.asked.Nodup)
    {Q : Except ServiceError c.Answer → Memory.Work → Nat → Prop} {reference : c.Answer}
    (hreference : (Memory.perform workspace c m).1 = .ok reference) (hsure : sure m.tables c)
    (hok : ∀ a, c.Same a reference → Q (.ok a) m n) :
    (ask workspace c).Ensures sure ids Q m n :=
  Program.ensures_read hreads hasked hreference hok fun hunsure => absurd hsure hunsure

theorem ensures_found {α : Type} {what : NotFound} {a : Option α}
    {Q : Except ServiceError α → Memory.Work → Nat → Prop}
    (hnone : a = none → Q (.error (.notFound what)) m n) (hsome : ∀ x, a = some x → Q (.ok x) m n) :
    (found what a).Ensures sure ids Q m n := by
  cases a with
  | none => exact hnone rfl
  | some x => exact hsome x rfl

theorem ensures_config {project : ProjectId} (hsure : sure m.tables (.configOf project))
    {Q : Except ServiceError Config → Memory.Work → Nat → Prop}
    (hnone : m.tables.configOf workspace project = none →
      Q (.error (.notFound (.config project))) m n)
    (hsome : ∀ config, m.tables.configOf workspace project = some config → Q (.ok config) m n) :
    (config workspace project).Ensures sure ids Q m n := by
  refine Program.ensures_bind (ensures_ask (c := .configOf project) rfl List.nodup_nil rfl hsure ?_)
  rintro found rfl
  exact ensures_found hnone hsome

end Action

namespace Resolution

theorem ends_target (workspace : String) (project : ProjectId) (at? : Option BlueprintId)
    (hsure : certain → ∀ c : Call, c.skips = 0 → sure m.tables c)
    (hfound : certain → (m.tables.target workspace project at?).isSome = true) :
    (target workspace project at?).Ensures sure ids
      (Program.Ends certain fun b m' n' => m' = m ∧ n' = n ∧
        m.tables.target workspace project at? = some b) m n := by
  cases at? with
  | some id =>
      refine Program.ends_bind (Program.ends_read (c := .blueprintOfKind id project .blueprint)
        rfl List.nodup_nil rfl fun hc => hsure hc _ rfl) ?_
      rintro found m' n' - ⟨rfl, rfl, hsame⟩
      obtain rfl : found = m'.tables.target workspace project (some id) := hsame
      exact Program.ends_orFail hfound
  | none =>
      refine Program.ends_bind (Program.ends_read (c := .latest project .blueprint)
        rfl List.nodup_nil rfl fun hc => hsure hc _ rfl) ?_
      rintro found m' n' - ⟨rfl, rfl, hsame⟩
      obtain rfl : found = m'.tables.target workspace project none := hsame
      exact Program.ends_orFail hfound

theorem ends_effective (workspace : String) (project : ProjectId) (at? : Option BlueprintId)
    (hsure : certain → ∀ c : Call, c.skips = 0 → sure m.tables c)
    (hresolvable : certain → m.tables.Resolvable workspace project at?) :
    (effective workspace project at?).Ensures sure ids
      (Program.Ends certain fun v m' _ => m' = m ∧
        m.tables.Resolves workspace project at? v) m n := by
  unfold effective
  refine Program.ends_bind (Action.ends_config workspace project (fun hc => hsure hc _ rfl)
    fun hc => (hresolvable hc).config) ?_
  rintro - m₁ n₁ - ⟨rfl, rfl, -⟩
  refine Program.ends_bind (ends_target workspace project at? hsure ?_) ?_
  · intro hc
    obtain ⟨b, hb, _⟩ := (hresolvable hc).target
    rw [hb]
    rfl
  rintro blueprint m₂ n₂ - ⟨rfl, rfl, htarget⟩
  refine Program.ends_bind (Program.ends_read (c := .effective project blueprint.id)
    rfl List.nodup_nil rfl fun hc => hsure hc _ rfl) ?_
  rintro values m₃ n₃ - ⟨rfl, rfl, hsame⟩
  have hvalues : values.Perm (m₃.tables.effective workspace project blueprint.id) := hsame
  cases hrepeated : repeatedKey? [] values with
  | some key =>
      -- A repeated key would be effective twice.
      intro hc
      obtain ⟨b, hb, hnodup⟩ := (hresolvable hc).target
      rw [htarget, Option.some.injEq] at hb
      subst hb
      have hnone : repeatedKey? [] values = none := by
        rw [repeatedKey?_eq_none]
        exact ⟨(hvalues.map _).nodup_iff.mpr hnodup, fun _ _ => List.not_mem_nil⟩
      rw [hnone] at hrepeated
      cases hrepeated
  | none =>
      refine Program.ends_bind (Program.ends_read (c := .envsOf blueprint.id)
        rfl List.nodup_nil rfl fun hc => hsure hc _ rfl) ?_
      rintro envs m₄ n₄ - ⟨rfl, rfl, -⟩
      exact ⟨rfl, htarget, hvalues, (repeatedKey?_eq_none.mp hrepeated).1⟩

theorem ends_atBlueprint (workspace : String) (id : BlueprintId)
    (hsure : certain → ∀ c : Call, c.skips = 0 → sure m.tables c)
    (hresolvable : certain → ∃ b, m.tables.blueprintById workspace id = some b ∧
      m.tables.Resolvable workspace b.project (some id)) :
    (atBlueprint workspace id).Ensures sure ids
      (Program.Ends certain fun v m' _ => m' = m ∧
        ∃ b, m.tables.blueprintById workspace id = some b ∧
          m.tables.Resolves workspace b.project (some id) v) m n := by
  unfold atBlueprint
  refine Program.ends_bind (Program.ends_read (c := .blueprintById id) rfl List.nodup_nil rfl
    fun hc => hsure hc _ rfl) ?_
  rintro stored m₁ n₁ - ⟨rfl, rfl, hsame⟩
  obtain rfl : stored = m₁.tables.blueprintById workspace id := hsame
  refine Program.ends_bind (Program.ends_orFail ?_) ?_
  · intro hc
    obtain ⟨b, hb, _⟩ := hresolvable hc
    rw [hb]
    rfl
  rintro b m₂ n₂ - ⟨rfl, rfl, hb⟩
  refine (ends_effective workspace b.project (some id) hsure ?_).mono ?_
  · intro hc
    obtain ⟨b', hb', hresolves⟩ := hresolvable hc
    rw [hb, Option.some.injEq] at hb'
    rw [hb']
    exact hresolves
  · rintro (e | v) m' n' - hv
    · exact hv
    · exact ⟨hv.1, b, hb, hv.2⟩

end Resolution

end ConfigTimeline
