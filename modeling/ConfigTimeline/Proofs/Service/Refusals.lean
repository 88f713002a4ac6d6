import ConfigTimeline.Proofs.Service.Appending
import ConfigTimeline.Proofs.Service.Confinement

/-!
Why a draft with an id of the caller's choice is refused, told from the tables. The checks come in a
fixed order, and the first that fails decides: the config id, then the clock, then whether the id is
taken, then whether it is behind the latest blueprint. Between the first two the config is stored, so
that a clash of its drawn identifier comes before what is wrong with the blueprint id. Past the
checks only the store may fail, and that is no refusal of an argument.
-/

namespace ConfigTimeline

theorem ServiceError.kind_ofStore (e : StoreError) : (ofStore e).kind = .internal := by
  cases e <;> rfl

theorem Memory.Tables.isSome_configById {t : Tables} {workspace : String} {id : ConfigId} :
    (t.configById workspace id).isSome = true ↔ ∃ c ∈ recordsIn workspace t.configs, c.id = id := by
  simp [configById]

theorem Memory.Tables.isSome_blueprintById {t : Tables} {workspace : String} {id : BlueprintId} :
    (t.blueprintById workspace id).isSome = true ↔
      ∃ b ∈ recordsIn workspace t.blueprints, b.id = id := by
  simp [blueprintById]

def Unrefused {α : Type} (outcome : Except ServiceError α) : Prop :=
  ∀ reason, outcome ≠ .error (.invalid reason)

namespace Versioning

/-- How a draft with an id of the caller's choice fares against the tables. -/
inductive Verdict
  | refused (reason : ValidationError)
  /-- The identifier drawn for the config of the project is that of another config. -/
  | clash
  | free
deriving DecidableEq

/-- What becomes of a draft by a verdict; `Q` says what does if nothing is wrong with it. -/
def Verdict.Decides {α : Type} (Q : Except ServiceError α → Prop) :
    Verdict → Except ServiceError α → Prop
  | .refused reason, outcome => outcome = .error (.invalid reason)
  | .clash, outcome => ∃ clash, outcome = .error (.violation (.clash clash))
  | .free, outcome => Q outcome

theorem Verdict.Decides.invalid_iff {α : Type} {v : Verdict} {outcome : Except ServiceError α}
    (h : v.Decides Unrefused outcome) {reason : ValidationError} :
    outcome = .error (.invalid reason) ↔ v = .refused reason := by
  cases v with
  | refused other =>
      obtain rfl : outcome = .error (.invalid other) := h
      simp
  | clash =>
      obtain ⟨clash, rfl⟩ := h
      simp
  | free => simpa using h reason

theorem Verdict.Decides.map {α β : Type} {v : Verdict} {outcome : Except ServiceError α}
    (h : v.Decides Unrefused outcome) (f : α → β) : v.Decides Unrefused (outcome.map f) := by
  cases v with
  | refused reason =>
      obtain rfl : outcome = .error (.invalid reason) := h
      rfl
  | clash =>
      obtain ⟨clash, rfl⟩ := h
      exact ⟨clash, rfl⟩
  | free =>
      cases outcome with
      | ok a =>
          intro reason
          simp [Except.map]
      | error e =>
          intro reason hsame
          exact h reason (congrArg Except.error (Except.error.inj hsame))

def Verdict.orElse : Verdict → Verdict → Verdict
  | .free, next => next
  | failed, _ => failed

theorem Verdict.decides_orElse {α : Type} (v next : Verdict) (Q : Except ServiceError α → Prop)
    (outcome : Except ServiceError α) :
    (v.orElse next).Decides Q outcome ↔ v.Decides (next.Decides Q) outcome := by
  cases v <;> rfl

section Verdicts

variable (t : Memory.Tables) (workspace : String) (now : Instant) (project : ProjectId)

def configVerdict (chosen : Option ConfigId) (u : Ulid) : Verdict :=
  match t.configOf workspace project, chosen with
  | some _, _ => .free
  | none, some id =>
      if ∃ c ∈ recordsIn workspace t.configs, c.id = id then .refused (.configIdTaken id) else .free
  | none, none =>
      if ∃ c ∈ recordsIn workspace t.configs, c.id = ⟨u⟩ then .clash else .free

def idVerdict (kind : BlueprintKind) (id : BlueprintId) : Verdict :=
  if now.unixMillis.toNat + 60000 < id.ulid.millis then .refused (.blueprintIdInFuture id 60000)
  else if ∃ b ∈ recordsIn workspace t.blueprints, b.id = id then .refused (.blueprintIdTaken id)
  else
    match kind, (t.newestFirst workspace project .blueprint).head? with
    | .blueprint, some latest =>
        if id < latest.id then .refused (.blueprintIdNotNewer id latest.id) else .free
    | _, _ => .free

def verdict (chosen : Option ConfigId) (kind : BlueprintKind) (id : BlueprintId) (u : Ulid) :
    Verdict :=
  (configVerdict t workspace project chosen u).orElse (idVerdict t workspace now project kind id)

end Verdicts

variable {sure : Memory.Tables → Call → Prop} {ids : Nat → Ulid} {m : Memory.Work} {n : Nat}
  {who : Identity} {now : Instant} {project : ProjectId}

/-- A program that goes on with the value of one that a check may have ended. -/
theorem Verdict.ensures_bind {α β : Type} {v : Verdict} {p : Action α} {f : α → Action β}
    {P : α → Memory.Work → Prop} {Q : Except ServiceError β → Prop}
    (hp : p.Ensures sure ids (fun outcome m' _ =>
      v.Decides (fun outcome => ∃ a, outcome = .ok a ∧ P a m') outcome) m n)
    (hf : ∀ a m' n', m'.mode = m.mode → P a m' →
      (f a).Ensures sure ids (fun outcome _ _ => Q outcome) m' n') :
    (p >>= f).Ensures sure ids (fun outcome _ _ => v.Decides Q outcome) m n := by
  refine Program.ensures_bind (hp.mono ?_)
  intro outcome m' n' hmode hdecides
  cases v with
  | refused reason =>
      obtain rfl : outcome = .error (.invalid reason) := hdecides
      rfl
  | clash =>
      obtain ⟨clash, rfl⟩ := hdecides
      exact ⟨clash, rfl⟩
  | free =>
      obtain ⟨a, rfl, ha⟩ := hdecides
      exact hf a m' n' hmode ha

theorem ensures_addConfig (hmode : m.mode = .write)
    (hnone : m.tables.configOf who.workspace project = none) {chosen : Option ConfigId}
    {id : ConfigId} (hchosen : ∀ given, chosen = some given → id = given) :
    (addConfig who now project id).Ensures sure ids
      (fun outcome m' _ =>
        (if ∃ c ∈ recordsIn who.workspace m.tables.configs, c.id = id then Verdict.clash
          else .free).Decides
          (fun outcome => ∃ config, outcome = .ok config ∧
            WithConfig who now project chosen m.tables config m'.tables) outcome) m n := by
  have hothers : ∀ c ∈ recordsIn who.workspace m.tables.configs, c.project ≠ project := by
    intro c hc hproject
    exact List.find?_eq_none.mp hnone c hc (beq_iff_eq.mpr hproject)
  refine Program.ensures_bind (Program.ensures_write
    (c := .insertConfig ⟨id, project, .made who.user now⟩) rfl List.nodup_nil hmode ?_ ?_)
  · intro a hok
    obtain ⟨hfree, htables⟩ := Memory.perform_insertConfig_ok hmode (Prod.ext hok rfl)
    have hunused : ¬∃ c ∈ recordsIn who.workspace m.tables.configs, c.id = id := by
      rintro ⟨c, hc, hsame⟩
      exact (hfree c hc).1 hsame
    rw [if_neg hunused]
    refine ⟨_, rfl, ?_⟩
    rw [htables]
    exact .made hnone rfl rfl hchosen
  · intro e herror e' hkind
    obtain ⟨hconflict, hblocked⟩ := Memory.perform_insertConfig_error hmode herror
    have hused : ∃ c ∈ recordsIn who.workspace m.tables.configs, c.id = id := by
      by_contra hunused
      refine hblocked fun c hc => ⟨?_, hothers c hc⟩
      intro hsame
      exact hunused ⟨c, hc, hsame⟩
    obtain ⟨clash, rfl⟩ := StoreError.eq_conflict (hkind.trans hconflict)
    rw [if_pos hused]
    exact ⟨clash, rfl⟩

/-- The project has its config then, unless its id is taken or clashes. -/
theorem ensures_ensureConfig (hmode : m.mode = .write) (chosen : Option ConfigId)
    (hsure : ∀ c : Call, c.skips = 0 → sure m.tables c) :
    (ensureConfig who now project chosen).Ensures sure ids
      (fun outcome m' _ =>
        (configVerdict m.tables who.workspace project chosen (ids n)).Decides
          (fun outcome => ∃ config, outcome = .ok config ∧
            WithConfig who now project chosen m.tables config m'.tables) outcome) m n := by
  unfold ensureConfig
  refine Program.ensures_bind (Program.ensures_read (c := .configOf project) rfl List.nodup_nil rfl
    ?_ fun hunsure => absurd (hsure _ rfl) hunsure)
  intro found hfound
  replace hfound : m.tables.configOf who.workspace project = found := Eq.symm hfound
  unfold configVerdict
  rw [hfound]
  cases found with
  | some config => exact ⟨config, rfl, .found hfound⟩
  | none =>
      cases chosen with
      | none => exact ensures_addConfig hmode hfound fun _ h => by cases h
      | some given =>
          refine Program.ensures_bind (Program.ensures_read (c := .configById given) rfl
            List.nodup_nil rfl ?_ fun hunsure => absurd (hsure _ rfl) hunsure)
          intro taken htaken
          replace htaken : m.tables.configById who.workspace given = taken := Eq.symm htaken
          have hused : taken.isSome = true ↔
              ∃ c ∈ recordsIn who.workspace m.tables.configs, c.id = given := by
            rw [← htaken]
            exact Memory.Tables.isSome_configById
          dsimp only
          cases taken with
          | some config =>
              rw [if_pos (hused.mp rfl)]
              rfl
          | none =>
              have hunused : ¬∃ c ∈ recordsIn who.workspace m.tables.configs, c.id = given :=
                fun h => by cases hused.mpr h
              refine (ensures_addConfig hmode hfound fun _ h => Option.some.inj h).mono ?_
              intro outcome m' n' _ hdecided
              rw [if_neg hunused] at hdecided ⊢
              exact hdecided

/-- An id that no blueprint has comes before the latest one or after it. -/
theorem latest_lt_iff {t : Memory.Tables} {workspace : String} {id : BlueprintId}
    {latest : Blueprint} (hunused : ∀ b ∈ recordsIn workspace t.blueprints, b.id ≠ id)
    (hlatest : (t.newestFirst workspace project .blueprint).head? = some latest) :
    latest.id < id ↔ ¬id < latest.id := by
  have hother : latest.id ≠ id :=
    hunused latest (Memory.mem_newestFirst.mp (List.mem_of_head? hlatest)).1
  exact ⟨not_lt_of_gt, fun h => lt_of_le_of_ne (not_lt.mp h) hother⟩

/-- The id of the caller's choice is the blueprint's, unless a check fails. -/
theorem ensures_assignId {workspace : String} {draft : Draft} {id : BlueprintId}
    (hid : draft.id = some id) (hsure : ∀ c : Call, c.skips = 0 → sure m.tables c) :
    (assignId workspace now project draft).Ensures sure ids
      (fun outcome m' _ =>
        (idVerdict m.tables workspace now project draft.kind id).Decides
          (fun outcome => ∃ assigned, outcome = .ok assigned ∧ assigned = id ∧ m' = m) outcome)
      m n := by
  unfold assignId offeredId
  rw [hid]
  dsimp only
  unfold idVerdict
  by_cases hahead : now.unixMillis.toNat + 60000 < id.ulid.millis
  · have hcheck : isAhead now id = true := decide_eq_true hahead
    rw [if_pos hahead, if_pos hcheck]
    rfl
  · have hcheck : ¬isAhead now id = true := fun h => hahead (of_decide_eq_true h)
    rw [if_neg hahead, if_neg hcheck]
    refine Program.ensures_bind (Program.ensures_bind (Program.ensures_read
      (c := .blueprintById id) rfl List.nodup_nil rfl ?_ fun hunsure => absurd (hsure _ rfl) hunsure))
    intro taken htaken
    replace htaken : m.tables.blueprintById workspace id = taken := Eq.symm htaken
    have hused : taken.isSome = true ↔
        ∃ b ∈ recordsIn workspace m.tables.blueprints, b.id = id := by
      rw [← htaken]
      exact Memory.Tables.isSome_blueprintById
    cases taken with
    | some b =>
        rw [if_pos (hused.mp rfl)]
        rfl
    | none =>
        have hunused : ¬∃ b ∈ recordsIn workspace m.tables.blueprints, b.id = id :=
          fun h => by cases hused.mpr h
        rw [if_neg hunused]
        cases draft.kind with
        | mask => exact ⟨id, rfl, rfl, rfl⟩
        | blueprint =>
            refine Program.ensures_bind (Program.ensures_read (c := .latest project .blueprint) rfl
              List.nodup_nil rfl ?_ fun hunsure => absurd (hsure _ rfl) hunsure)
            intro latest hlatest
            replace hlatest : (m.tables.newestFirst workspace project .blueprint).head? = latest :=
              Eq.symm hlatest
            rw [hlatest]
            cases latest with
            | none => exact ⟨id, rfl, rfl, rfl⟩
            | some latest =>
                change Program.Ensures sure ids _ (if latest.id < id then _ else _) m n
                dsimp only
                have hnewer := latest_lt_iff (fun b hb hsame => hunused ⟨b, hb, hsame⟩) hlatest
                by_cases hbehind : id < latest.id
                · rw [if_pos hbehind, if_neg fun h => hnewer.mp h hbehind]
                  rfl
                · rw [if_neg hbehind, if_pos (hnewer.mpr hbehind)]
                  exact ⟨id, rfl, rfl, rfl⟩

/-- What is left to be done for a draft that has its config and its id is refused by the store, if it
is refused. -/
theorem fails_appendAs (draft : Draft) (config : Config) (id : BlueprintId) :
    (appendAs who now project draft config id).Fails fun e => e.kind = .internal := by
  have hask : ∀ c : Call, (Action.ask who.workspace c).Fails fun e => e.kind = .internal :=
    fun c => Program.fails_ask ServiceError.kind_ofStore
  refine Program.fails_bind ?_ fun _ => ?_
  · unfold closeReplaced
    cases draft.kind with
    | mask => trivial
    | blueprint => exact Program.fails_bind (hask _) fun _ => trivial
  · refine Program.fails_bind (hask _) fun _ => ?_
    refine Program.fails_bind (Program.fails_freshFor _ _) fun rows => ?_
    exact Program.fails_bind (hask _) fun _ => trivial

theorem ensures_appendAs (hmode : m.mode = .write) (draft : Draft) (config : Config)
    (id : BlueprintId) :
    (appendAs who now project draft config id).Ensures sure ids
      (fun outcome _ _ => Unrefused outcome) m n := by
  have hends : (appendAs who now project draft config id).Ensures sure ids (fun _ _ _ => True)
      m n :=
    (makes_appendAs draft config id).ensures (I := fun _ => True) (fun _ _ _ => hmode)
      (fun c hc => hc.1.asked) (fun _ _ _ _ => trivial) trivial
  refine ((fails_appendAs draft config id).ensures hends).mono ?_
  rintro outcome m' n' - ⟨-, hinternal⟩ reason rfl
  cases hinternal _ rfl

/-- Appending a draft with an id of the caller's choice is refused by the first check that fails, and
past the checks no argument is refused. -/
theorem ensures_append (hmode : m.mode = .write) {chosen : Option ConfigId} {draft : Draft}
    {id : BlueprintId} (hid : draft.id = some id)
    (hsure : Answered sure who now project chosen m.tables) :
    (append who now project chosen draft).Ensures sure ids
      (fun outcome _ _ =>
        (verdict m.tables who.workspace now project chosen draft.kind id (ids n)).Decides
          Unrefused outcome) m n := by
  unfold verdict
  simp only [Verdict.decides_orElse]
  rw [append_eq]
  refine Verdict.ensures_bind (ensures_ensureConfig hmode chosen hsure.before) ?_
  intro config m₁ n₁ hmode₁ hwith
  have hsame : idVerdict m₁.tables who.workspace now project draft.kind id =
      idVerdict m.tables who.workspace now project draft.kind id := by
    unfold idVerdict
    rw [hwith.newestFirst_eq, hwith.only_configs]
  rw [← hsame]
  refine Verdict.ensures_bind (ensures_assignId hid (hsure.after config _ hwith)) ?_
  rintro _ _ n₂ - ⟨rfl, rfl⟩
  exact ensures_appendAs (hmode₁.trans hmode) draft config _

/-- The identifiers drawn for values, from a position on, are distinct, and no value row of a workspace
has one of them. -/
@[mk_iff]
structure ValuesUnused (t : Memory.Tables) (workspace : String) (ids : Nat → Ulid)
    (first count : Nat) : Prop where
  distinct : ∀ j < count, ∀ i < j, ids (first + i) ≠ ids (first + j)
  values : ∀ i < count, ∀ row ∈ recordsIn workspace t.values, row.id.ulid ≠ ids (first + i)

theorem Verdict.orElse_eq_free {v next : Verdict} (h : v.orElse next = .free) :
    v = .free ∧ next = .free := by
  cases v with
  | free => exact ⟨rfl, h⟩
  | _ => cases h

section Free

variable {t : Memory.Tables} {workspace : String}

theorem config_of_free {chosen : Option ConfigId} {u : Ulid}
    (h : configVerdict t workspace project chosen u = .free)
    (hnone : t.configOf workspace project = none) :
    ∀ c ∈ recordsIn workspace t.configs, c.id ≠ chosen.getD ⟨u⟩ := by
  intro c hc hsame
  unfold configVerdict at h
  rw [hnone] at h
  cases chosen with
  | none =>
      dsimp only at h
      rw [if_pos ⟨c, hc, hsame⟩] at h
      cases h
  | some given =>
      dsimp only at h
      rw [if_pos ⟨c, hc, hsame⟩] at h
      cases h

/-- An id that no check fails is the one that the blueprint gets. -/
theorem assigned_of_free {draft : Draft} {id : BlueprintId} (hid : draft.id = some id)
    (h : idVerdict t workspace now project draft.kind id = .free) (u : Ulid) :
    isAhead now id = false ∧ (∀ b ∈ recordsIn workspace t.blueprints, b.id ≠ id) ∧
      assigned? (t.newestFirst workspace project .blueprint).head? draft u = some id := by
  unfold idVerdict at h
  split at h
  · cases h
  · rename_i hahead
    split at h
    · cases h
    · rename_i hunused
      have hfree : ∀ b ∈ recordsIn workspace t.blueprints, b.id ≠ id := by
        intro b hb hsame
        exact hunused ⟨b, hb, hsame⟩
      refine ⟨decide_eq_false hahead, hfree, ?_⟩
      unfold assigned?
      rw [hid]
      cases hkind : draft.kind with
      | mask => rfl
      | blueprint =>
          cases hlatest : (t.newestFirst workspace project .blueprint).head? with
          | none => rfl
          | some latest =>
              rw [hkind, hlatest] at h
              dsimp only at h
              split at h
              · cases h
              · rename_i hbehind
                exact if_pos ((latest_lt_iff hfree hlatest).mpr hbehind)

/-- Nothing is in the way of a draft that no check fails, if the identifiers drawn for its values are
unused. -/
theorem clear_of_free {ids : Nat → Ulid} {chosen : Option ConfigId} {draft : Draft}
    {id : BlueprintId} (hid : draft.id = some id) (hkeys : draft.keys.Nodup)
    (hfree : verdict t who.workspace now project chosen draft.kind id (ids 0) = .free)
    (hvalues : ValuesUnused t who.workspace ids (configDraws t who.workspace project chosen)
      draft.values.length) :
    Clear t ids 0 who now project chosen draft := by
  obtain ⟨hconfig, hblueprint⟩ := Verdict.orElse_eq_free hfree
  obtain ⟨hontime, hunused, hassigned⟩ := assigned_of_free hid hblueprint
    (ids (0 + configDraws t who.workspace project chosen))
  have hdraws : idDraws draft = 0 := by simp [idDraws, hid]
  refine {
    config := config_of_free hconfig
    onTime := ?_
    blueprint := ⟨id, hassigned, hunused⟩
    keys := hkeys
    values := ?_
    distinct := ?_ }
  · intro given hgiven
    obtain rfl : id = given := Option.some.inj (hid.symm.trans hgiven)
    exact hontime
  · rw [hdraws, Nat.zero_add, Nat.add_zero]
    exact hvalues.values
  · intro i j hij hj
    rw [hdraws, Nat.zero_add, Nat.add_zero]
    exact hvalues.distinct j hj i hij

end Free

end Versioning

end ConfigTimeline
