import ConfigTimeline.Proofs.Timeline.Resolved

/-!
What reading comes to, told from the tables without remainder: which blueprint is shown, or what it is
that is not there, and the rows that are shown with it. For this the store has to answer what it is
asked, and no key may be effective twice.
-/

namespace ConfigTimeline

namespace Memory.Tables

variable (t : Tables) (workspace : String)

/-- The blueprint of a project that is asked for, or the latest; or what is not there. -/
def lookUp (project : ProjectId) (at? : Option BlueprintId) : Except NotFound Blueprint :=
  match t.configOf workspace project with
  | none => .error (.config project)
  | some _ =>
      match t.target workspace project at? with
      | none => .error (at?.elim (.latest project) .blueprint)
      | some blueprint => .ok blueprint

def lookUpId (id : BlueprintId) : Except NotFound Blueprint :=
  match t.blueprintById workspace id with
  | none => .error (.blueprint id)
  | some stored => t.lookUp workspace stored.project (some id)

def lookUpEnv (project : ProjectId) (env : String) : Except NotFound Blueprint :=
  match t.configOf workspace project with
  | none => .error (.config project)
  | some _ =>
      match ((t.pinsOf workspace project).find? (·.env == env)).map (·.blueprint) with
      | none => .error (.environment env)
      | some id =>
          if (t.blueprintById workspace id).any (·.kind == .mask) then
            .error (.pinnedToMask env id)
          else t.lookUp workspace project (some id)

def lookUpMask (project : ProjectId) (mask : BlueprintId) : Except NotFound Blueprint :=
  match (t.blueprintById workspace mask).filter fun b => b.project == project && b.kind == .mask with
  | none => .error (.mask mask project)
  | some stored => .ok stored

def delta (blueprint : BlueprintId) : List ValueRow :=
  (recordsIn workspace t.values).filter (·.introducedBy blueprint)

structure Shown (b : Blueprint) (v : BlueprintView) : Prop where
  blueprint : v.blueprint = b
  envs : v.envs = t.envsOf workspace b.id
  values : v.values.Perm (t.effective workspace b.project b.id)
  keys : (v.values.map (·.key)).Nodup

/-- The outcome of resolving a blueprint, whatever rows there are: the rows that are effective there,
or a key that several of them have. -/
def Reports (b : Blueprint) (outcome : Except ServiceError BlueprintView) : Prop :=
  let keys := (t.effective workspace b.project b.id).map (·.key)
  (keys.Nodup ∧ ∃ v, outcome = .ok v ∧ t.Shown workspace b v) ∨
    ∃ key, 2 ≤ keys.count key ∧ outcome = .error (.violation (.overlap key b.id))

/-- The outcome of a read, given what was looked up for it. -/
def Shows : Except NotFound Blueprint → Except ServiceError BlueprintView → Prop
  | .error what, outcome => outcome = .error (.notFound what)
  | .ok b, outcome => ∃ v, outcome = .ok v ∧ t.Shown workspace b v

/-- The outcome of laying a mask over a view. -/
def Overlays (mask : BlueprintId) (v : BlueprintView)
    (outcome : Except ServiceError BlueprintView) : Prop :=
  match t.lookUpMask workspace v.blueprint.project mask with
  | .error what => outcome = .error (.notFound what)
  | .ok _ => ∃ rows, rows.Perm (t.delta workspace mask) ∧
      outcome = .ok { v with values := overlay v.values rows }

theorem lookUp_eq_ok {t : Tables} {workspace : String} {project : ProjectId}
    {at? : Option BlueprintId} {b : Blueprint} :
    t.lookUp workspace project at? = .ok b ↔
      t.configOf workspace project ≠ none ∧ t.target workspace project at? = some b := by
  unfold lookUp
  cases t.configOf workspace project with
  | none => simp
  | some config => cases t.target workspace project at? <;> simp

theorem Shows.keys {t : Tables} {workspace : String} {found : Except NotFound Blueprint}
    {v : BlueprintView} (h : t.Shows workspace found (.ok v)) : (v.values.map (·.key)).Nodup := by
  cases found with
  | error what => cases h
  | ok b =>
      obtain ⟨shown, hsame, hshown⟩ := h
      rw [Except.ok.inj hsame]
      exact hshown.keys

/-- A store answers all calls on tables that do not skip records, and no key of them is effective
twice. -/
structure Legible (sure : Tables → Call → Prop) : Prop where
  answers : ∀ c : Call, c.skips = 0 → sure t c
  keys : ∀ workspace project b, ((t.effective workspace project b).map (·.key)).Nodup

end Memory.Tables

variable {sure : Memory.Tables → Call → Prop} {ids : Nat → Ulid} {m : Memory.Work} {n : Nat}
  {workspace : String}

namespace Resolution

theorem ensures_target (h : m.tables.Legible sure) {project : ProjectId}
    {at? : Option BlueprintId} {Q : Except ServiceError Blueprint → Memory.Work → Nat → Prop}
    (hnone : m.tables.target workspace project at? = none →
      Q (.error (.notFound (at?.elim (.latest project) .blueprint))) m n)
    (hsome : ∀ b, m.tables.target workspace project at? = some b → Q (.ok b) m n) :
    (target workspace project at?).Ensures sure ids Q m n := by
  cases at? with
  | some id =>
      refine Program.ensures_bind (Action.ensures_ask
        (c := .blueprintOfKind id project .blueprint) rfl List.nodup_nil rfl (h.answers _ rfl) ?_)
      rintro stored rfl
      exact Action.ensures_found hnone hsome
  | none =>
      refine Program.ensures_bind (Action.ensures_ask (c := .latest project .blueprint)
        rfl List.nodup_nil rfl (h.answers _ rfl) ?_)
      rintro stored rfl
      exact Action.ensures_found hnone hsome

/-- What is left of resolving once the blueprint is found. -/
def resolveAt (workspace : String) (project : ProjectId) (blueprint : Blueprint) :
    Action BlueprintView := do
  let values ← Action.ask workspace (.effective project blueprint.id)
  match repeatedKey? [] values with
  | some key => .fail (.violation (.overlap key blueprint.id))
  | none =>
      let envs ← Action.ask workspace (.envsOf blueprint.id)
      pure ⟨blueprint, envs, values⟩

theorem effective_eq (workspace : String) (project : ProjectId) (at? : Option BlueprintId) :
    effective workspace project at? = (do
      let _ ← Action.config workspace project
      let blueprint ← target workspace project at?
      resolveAt workspace project blueprint) := rfl

theorem ensures_resolveAt (hsure : ∀ c : Call, c.skips = 0 → sure m.tables c) (b : Blueprint) :
    (resolveAt workspace b.project b).Ensures sure ids
      (fun outcome m' _ => m' = m ∧ m.tables.Reports workspace b outcome) m n := by
  unfold resolveAt
  refine Program.ensures_bind (Action.ensures_ask (c := .effective b.project b.id)
    rfl List.nodup_nil rfl (hsure _ rfl) ?_)
  intro values hsame
  have hvalues : values.Perm (m.tables.effective workspace b.project b.id) := hsame
  have hkeys := hvalues.map (·.key)
  cases hrepeated : repeatedKey? [] values with
  | some key =>
      have htwice := two_le_count_of_repeatedKey? hrepeated
      rw [List.nil_append, hkeys.count_eq] at htwice
      simp only [Program.Then, hrepeated]
      exact ⟨rfl, Or.inr ⟨key, htwice, rfl⟩⟩
  | none =>
      have hnodup := (repeatedKey?_eq_none.mp hrepeated).1
      simp only [Program.Then, hrepeated]
      refine Program.ensures_bind (Action.ensures_ask (c := .envsOf b.id) rfl List.nodup_nil rfl
        (hsure _ rfl) ?_)
      rintro envs rfl
      exact ⟨rfl, Or.inl ⟨hkeys.nodup_iff.mp hnodup, _, rfl, rfl, rfl, hvalues, hnodup⟩⟩

theorem ensures_effective (h : m.tables.Legible sure) (project : ProjectId)
    (at? : Option BlueprintId) :
    (effective workspace project at?).Ensures sure ids
      (fun outcome m' _ => m' = m ∧
        m.tables.Shows workspace (m.tables.lookUp workspace project at?) outcome) m n := by
  rw [effective_eq]
  unfold Memory.Tables.lookUp
  refine Program.ensures_bind (Action.ensures_config (h.answers _ rfl) ?_ ?_)
  · intro hnone
    rw [hnone]
    exact ⟨rfl, rfl⟩
  intro config hconfig
  rw [hconfig]
  refine Program.ensures_bind (ensures_target h ?_ ?_)
  · intro hnone
    rw [hnone]
    exact ⟨rfl, rfl⟩
  intro b htarget
  rw [htarget]
  obtain ⟨rfl, -⟩ := Memory.of_target htarget
  refine (ensures_resolveAt h.answers b).mono ?_
  rintro outcome m' n' - ⟨rfl, ⟨-, hshown⟩ | ⟨key, htwice, -⟩⟩
  · exact ⟨rfl, hshown⟩
  · have honce := List.nodup_iff_count_le_one.mp (h.keys workspace b.project b.id) key
    omega

theorem ensures_atBlueprint (h : m.tables.Legible sure) (id : BlueprintId) :
    (atBlueprint workspace id).Ensures sure ids
      (fun outcome m' _ => m' = m ∧
        m.tables.Shows workspace (m.tables.lookUpId workspace id) outcome) m n := by
  unfold atBlueprint Memory.Tables.lookUpId
  refine Program.ensures_bind (Action.ensures_ask (c := .blueprintById id) rfl List.nodup_nil rfl
    (h.answers _ rfl) ?_)
  rintro stored rfl
  refine Program.ensures_bind (Action.ensures_found ?_ ?_)
  · intro hnone
    rw [hnone]
    exact ⟨rfl, rfl⟩
  · intro stored hstored
    rw [hstored]
    exact ensures_effective h stored.project (some id)

theorem ensures_refuseMask {env : String} {id : BlueprintId} {stored : Option Blueprint}
    {Q : Except ServiceError Unit → Memory.Work → Nat → Prop}
    (hmask : stored.any (·.kind == .mask) = true →
      Q (.error (.notFound (.pinnedToMask env id))) m n)
    (hother : ¬stored.any (·.kind == .mask) = true → Q (.ok ()) m n) :
    (refuseMask env id stored).Ensures sure ids Q m n := by
  cases stored with
  | none => exact hother (by simp)
  | some b =>
      unfold refuseMask
      dsimp only
      cases hkind : b.kind with
      | mask => exact hmask (by simp [hkind])
      | blueprint => exact hother (by simp [hkind])

theorem ensures_atEnvironment (h : m.tables.Legible sure) (project : ProjectId) (env : String) :
    (atEnvironment workspace project env).Ensures sure ids
      (fun outcome m' _ => m' = m ∧
        m.tables.Shows workspace (m.tables.lookUpEnv workspace project env) outcome) m n := by
  unfold atEnvironment Memory.Tables.lookUpEnv
  refine Program.ensures_bind (Action.ensures_config (h.answers _ rfl) ?_ ?_)
  · intro hnone
    rw [hnone]
    exact ⟨rfl, rfl⟩
  intro config hconfig
  rw [hconfig]
  refine Program.ensures_bind (Action.ensures_ask (c := .pinnedTo project env) rfl List.nodup_nil
    rfl (h.answers _ rfl) ?_)
  rintro pinned rfl
  refine Program.ensures_bind (Action.ensures_found ?_ ?_)
  · intro hnone
    rw [hnone]
    exact ⟨rfl, rfl⟩
  intro id hpinned
  rw [hpinned]
  refine Program.ensures_bind (Action.ensures_ask (c := .blueprintById id) rfl List.nodup_nil rfl
    (h.answers _ rfl) ?_)
  rintro stored rfl
  refine Program.ensures_bind (ensures_refuseMask ?_ ?_)
  · intro hmask
    exact ⟨rfl, by simp only [if_pos hmask]; rfl⟩
  · intro hother
    simp only [if_neg hother]
    exact ensures_effective h project (some id)

theorem ensures_masked (h : m.tables.Legible sure) (mask : BlueprintId) (v : BlueprintView) :
    (masked workspace (some mask) v).Ensures sure ids
      (fun outcome m' _ => m' = m ∧ m.tables.Overlays workspace mask v outcome) m n := by
  unfold masked Overlay.apply Memory.Tables.Overlays Memory.Tables.lookUpMask
  refine Program.ensures_bind (Program.ensures_bind (Action.ensures_ask
    (c := .blueprintOfKind mask v.blueprint.project .mask) rfl List.nodup_nil rfl
    (h.answers _ rfl) ?_))
  rintro stored rfl
  refine Program.ensures_bind (Action.ensures_found ?_ ?_)
  · intro hnone
    rw [hnone]
    exact ⟨rfl, rfl⟩
  intro stored hstored
  rw [hstored]
  refine Program.ensures_bind (Action.ensures_ask (c := .delta mask) rfl List.nodup_nil rfl
    (h.answers _ rfl) ?_)
  intro rows hsame
  exact ⟨rfl, rows, hsame, rfl⟩

theorem ensures_delta (h : m.tables.Legible sure) (id : BlueprintId) :
    (delta workspace id).Ensures sure ids
      (fun outcome m' _ => m' = m ∧ match m.tables.blueprintById workspace id with
        | none => outcome = .error (.notFound (.blueprint id))
        | some b => ∃ rows, rows.Perm (m.tables.delta workspace id) ∧
            outcome = .ok ⟨b, [], rows⟩) m n := by
  unfold delta
  refine Program.ensures_bind (Action.ensures_ask (c := .blueprintById id) rfl List.nodup_nil rfl
    (h.answers _ rfl) ?_)
  rintro stored rfl
  refine Program.ensures_bind (Action.ensures_found ?_ ?_)
  · intro hnone
    rw [hnone]
    exact ⟨rfl, rfl⟩
  intro b hb
  rw [hb]
  refine Program.ensures_bind (Action.ensures_ask (c := .delta id) rfl List.nodup_nil rfl
    (h.answers _ rfl) ?_)
  intro rows hsame
  exact ⟨rfl, rows, hsame, rfl⟩

theorem ensures_history (h : m.tables.Legible sure) (project : ProjectId) (page : PageRequest)
    (hcounted : sure m.tables (.history project page.size page.offset)) :
    (history workspace project page).Ensures sure ids
      (fun outcome m' _ => m' = m ∧ match m.tables.configOf workspace project with
        | none => outcome = .error (.notFound (.config project))
        | some _ => outcome = .ok ⟨page.page, page.size,
            (m.tables.newestFirst workspace project .blueprint).length,
            m.tables.history workspace project page.size page.offset⟩) m n := by
  unfold history
  refine Program.ensures_bind (Action.ensures_config (h.answers _ rfl) ?_ ?_)
  · intro hnone
    rw [hnone]
    exact ⟨rfl, rfl⟩
  intro config hconfig
  rw [hconfig]
  refine Program.ensures_bind (Action.ensures_ask (c := .history project page.size page.offset)
    rfl List.nodup_nil rfl hcounted ?_)
  rintro content rfl
  refine Program.ensures_bind (Action.ensures_ask (c := .count project) rfl List.nodup_nil rfl
    (h.answers _ rfl) ?_)
  rintro total rfl
  exact ⟨rfl, rfl⟩

end Resolution

/-- A read of one blueprint, over which a mask may be laid. -/
inductive BlueprintRead
  | latest (project : ProjectId)
  | get (blueprint : BlueprintId)
  | env (project : ProjectId) (name : String)

namespace BlueprintRead

def operation (mask : Option BlueprintId) : BlueprintRead → Operation
  | .latest project => .latest project mask
  | .get blueprint => .get blueprint mask
  | .env project name => .env project name mask

def action (workspace : String) : BlueprintRead → Action BlueprintView
  | .latest project => Resolution.effective workspace project none
  | .get blueprint => Resolution.atBlueprint workspace blueprint
  | .env project name => Resolution.atEnvironment workspace project name

def lookUp (t : Memory.Tables) (workspace : String) : BlueprintRead → Except NotFound Blueprint
  | .latest project => t.lookUp workspace project none
  | .get blueprint => t.lookUpId workspace blueprint
  | .env project name => t.lookUpEnv workspace project name

theorem handle_operation {b : Backend} (s : Service b) (policy : MaskPolicy) (who : Identity)
    (supply : Supply) (read : BlueprintRead) (mask : Option BlueprintId) :
    s.handle policy who supply (read.operation mask) =
      s.view who.workspace supply (read.action who.workspace) mask := by
  cases read <;> rfl

theorem ensures_action (h : m.tables.Legible sure) (read : BlueprintRead) :
    (read.action workspace).Ensures sure ids
      (fun outcome m' _ => m' = m ∧
        m.tables.Shows workspace (read.lookUp m.tables workspace) outcome) m n := by
  cases read with
  | latest project => exact Resolution.ensures_effective h project none
  | get blueprint => exact Resolution.ensures_atBlueprint h blueprint
  | env project name => exact Resolution.ensures_atEnvironment h project name

end BlueprintRead

end ConfigTimeline
