import ConfigTimeline.Proofs.Service.Separation
import ConfigTimeline.Proofs.Store.Selections

/-!
What becomes of rows that cannot be read. A query that selects one is refused as corrupt, whichever of
its rows it is and whatever it holds. No action goes on after a call that was refused: it fails with
what the refusal comes to, so that every operation which meets a corrupt row fails inside, and none of
them takes it for something that is not there.
-/

namespace ConfigTimeline

structure Backend.Visit (b : Backend) where
  workspace : String
  call : Call
  work : b.Work

def Backend.Visit.outcome {b : Backend} (v : b.Visit) : Except StoreError v.call.Answer :=
  (b.perform v.workspace v.call v.work).1

/-- The calls that a program makes, in order. -/
def Backend.visits {ε α : Type} (b : Backend) (ids : Nat → Ulid) :
    Program ε α → b.Work → Nat → List b.Visit
  | .done _, _, _ => []
  | .fail _, _, _ => []
  | .call workspace c next, work, drawn =>
      let (answer, after) := b.perform workspace c work
      ⟨workspace, c, work⟩ :: b.visits ids (next answer) after drawn
  | .draw next, work, drawn => b.visits ids (next (ids drawn)) work (drawn + 1)

namespace Program

variable {ε α β : Type} {refused : StoreError → ε}

/-- The program fails as soon as a call is refused, with what `refused` makes of the refusal. -/
def Relays (refused : StoreError → ε) : Program ε α → Prop
  | .done _ => True
  | .fail _ => True
  | .call _ _ next =>
      (∀ e, next (.error e) = .fail (refused e)) ∧ ∀ outcome, (next outcome).Relays refused
  | .draw next => ∀ u, (next u).Relays refused

theorem relays_bind {p : Program ε α} {f : α → Program ε β} (hp : p.Relays refused)
    (hf : ∀ a, (f a).Relays refused) : (p >>= f).Relays refused := by
  change (p.bind f).Relays refused
  induction p with
  | done a => exact hf a
  | fail e => trivial
  | call w c next ih =>
      obtain ⟨hrefused, hnext⟩ := hp
      exact ⟨fun e => congrArg (·.bind f) (hrefused e), fun outcome => ih outcome (hnext outcome)⟩
  | draw next ih => exact fun u => ih u (hp u)

theorem relays_map {p : Program ε α} (hp : p.Relays refused) (f : α → β) :
    (f <$> p).Relays refused :=
  relays_bind hp fun _ => trivial

theorem relays_ask (workspace : String) (c : Call) : (ask refused workspace c).Relays refused := by
  refine ⟨fun _ => rfl, ?_⟩
  rintro (e | answer) <;> trivial

theorem relays_orFail (e : ε) (a : Option α) : (orFail e a).Relays refused := by
  cases a <;> trivial

theorem relays_freshFor (make : Ulid → α → β) (items : List α) :
    (freshFor make items : Program ε (List β)).Relays refused := by
  induction items with
  | nil => trivial
  | cons a rest ih => exact fun u => relays_bind ih fun _ => trivial

/-- If a call is refused anywhere in a run, this is how the run ends. -/
theorem Relays.run {p : Program ε α} (h : p.Relays refused) (b : Backend) (ids : Nat → Ulid)
    {work : b.Work} {drawn : Nat} {v : b.Visit} (hv : v ∈ b.visits ids p work drawn)
    {e : StoreError} (he : v.outcome = .error e) :
    (b.run ids p work drawn).result = .error (refused e) := by
  induction p generalizing work drawn with
  | done a => cases hv
  | fail e => cases hv
  | call workspace c next ih =>
      obtain ⟨hrefused, hnext⟩ := h
      rcases List.mem_cons.mp hv with rfl | hv
      · change (b.perform workspace c work).1 = .error e at he
        rw [Backend.run]
        dsimp only
        rw [he, hrefused]
        rfl
      · exact ih _ (hnext _) hv
  | draw next ih => exact ih _ (h _) hv

/-- No rule of the tables is broken anywhere in a run on a database. -/
theorem keyed_visits (ids : Nat → Ulid) (p : Program ε α) (work : Database.Work)
    (h : Database.Keyed work.tables) (drawn : Nat) :
    ∀ v ∈ Database.backend.visits ids p work drawn, Database.Keyed v.work.tables := by
  induction p generalizing work drawn with
  | done a => exact List.forall_mem_nil _
  | fail e => exact List.forall_mem_nil _
  | call workspace c next ih =>
      exact List.forall_mem_cons.mpr ⟨h, ih _ _ (Database.keyed_perform h workspace c) drawn⟩
  | draw next ih => exact ih _ work h (drawn + 1)

end Program

namespace Action

variable {α : Type}

/-- The action fails as soon as the store refuses a call. -/
abbrev Relays (action : Action α) : Prop := Program.Relays ServiceError.ofStore action

theorem relays_config (workspace : String) (project : ProjectId) :
    (config workspace project).Relays :=
  Program.relays_bind (Program.relays_ask _ _) fun _ => Program.relays_orFail _ _

end Action

namespace Versioning

variable (who : Identity) (now : Instant) (project : ProjectId)

theorem relays_ensureConfig (chosen : Option ConfigId) :
    (ensureConfig who now project chosen).Relays := by
  refine Program.relays_bind (Program.relays_ask _ _) fun stored => ?_
  cases stored with
  | some config => trivial
  | none =>
      have hadd : ∀ id, (addConfig who now project id).Relays := fun id =>
        Program.relays_bind (Program.relays_ask _ _) fun _ => trivial
      cases chosen with
      | none => exact Program.relays_bind (fun u => trivial) fun u => hadd ⟨u⟩
      | some id =>
          refine Program.relays_bind (Program.relays_ask _ _) fun taken => ?_
          cases taken with
          | some other => trivial
          | none => exact hadd id

theorem relays_assignId (workspace : String) (draft : Draft) :
    (assignId workspace now project draft).Relays := by
  have hoffered : (offeredId workspace now draft).Relays := by
    unfold offeredId
    cases draft.id with
    | none => exact fun u => trivial
    | some id =>
        dsimp only
        split
        · trivial
        · refine Program.relays_bind (Program.relays_ask _ _) fun taken => ?_
          cases taken <;> trivial
  refine Program.relays_bind hoffered fun id => ?_
  cases draft.kind with
  | mask => trivial
  | blueprint =>
      refine Program.relays_bind (Program.relays_ask _ _) fun latest => ?_
      cases latest with
      | none => trivial
      | some latest =>
          dsimp only
          split
          · trivial
          · split
            · trivial
            · split <;> trivial

theorem relays_append (chosen : Option ConfigId) (draft : Draft) :
    (append who now project chosen draft).Relays := by
  have hreplaced : ∀ id, (closeReplaced who.workspace project draft id).Relays := by
    intro id
    unfold closeReplaced
    cases draft.kind with
    | mask => trivial
    | blueprint => exact Program.relays_bind (Program.relays_ask _ _) fun _ => trivial
  refine Program.relays_bind (relays_ensureConfig who now project chosen) fun config => ?_
  refine Program.relays_bind (relays_assignId now project who.workspace draft) fun id => ?_
  refine Program.relays_bind (hreplaced id) fun _ => ?_
  refine Program.relays_bind (Program.relays_ask _ _) fun _ => ?_
  refine Program.relays_bind (Program.relays_freshFor _ _) fun rows => ?_
  exact Program.relays_bind (Program.relays_ask _ _) fun _ => trivial

end Versioning

namespace Pinning

theorem relays_bind (policy : MaskPolicy) (who : Identity) (now : Instant) (r : PinRequest) :
    (bind policy who now r).Relays := by
  have hchecked : (checkTargets policy who.workspace r).Relays := by
    refine Program.relays_bind (Program.relays_ask _ _) fun kinds => ?_
    split
    · trivial
    · split <;> trivial
  have hinserted : ∀ config targets, (insertNew who now r.project config targets).Relays := by
    intro config targets
    cases targets with
    | nil => trivial
    | cons target rest =>
        exact Program.relays_bind (Program.relays_freshFor _ _) fun pins => Program.relays_ask _ _
  have hmoved : ∀ targets, (moveStored who now r.project targets).Relays := by
    intro targets
    cases targets with
    | nil => trivial
    | cons target rest =>
        refine Program.relays_bind (Program.relays_ask _ _) fun moved => ?_
        split <;> trivial
  refine Program.relays_bind (Action.relays_config _ _) fun config => ?_
  refine Program.relays_bind hchecked fun _ => ?_
  refine Program.relays_bind (Program.relays_ask _ _) fun stored => ?_
  refine Program.relays_bind (hinserted config.id _) fun _ => ?_
  refine Program.relays_bind (hmoved _) fun _ => ?_
  exact Program.relays_bind (Program.relays_ask _ _) fun _ => trivial

end Pinning

namespace Resolution

variable (workspace : String) (project : ProjectId)

theorem relays_effective (at? : Option BlueprintId) : (effective workspace project at?).Relays := by
  have htarget : (target workspace project at?).Relays := by
    cases at? with
    | none => exact Program.relays_bind (Program.relays_ask _ _) fun _ => Program.relays_orFail _ _
    | some id => exact Program.relays_bind (Program.relays_ask _ _) fun _ => Program.relays_orFail _ _
  refine Program.relays_bind (Action.relays_config _ _) fun _ => ?_
  refine Program.relays_bind htarget fun blueprint => ?_
  refine Program.relays_bind (Program.relays_ask _ _) fun values => ?_
  split
  · trivial
  · exact Program.relays_bind (Program.relays_ask _ _) fun _ => trivial

theorem relays_atEnvironment (env : String) : (atEnvironment workspace project env).Relays := by
  refine Program.relays_bind (Action.relays_config _ _) fun _ => ?_
  refine Program.relays_bind (Program.relays_ask _ _) fun pinned => ?_
  refine Program.relays_bind (Program.relays_orFail _ _) fun id => ?_
  refine Program.relays_bind (Program.relays_ask _ _) fun stored => ?_
  refine Program.relays_bind ?_ fun _ => relays_effective workspace project (some id)
  unfold refuseMask
  split
  · split <;> trivial
  · trivial

theorem relays_atBlueprint (id : BlueprintId) : (atBlueprint workspace id).Relays := by
  refine Program.relays_bind (Program.relays_ask _ _) fun stored => ?_
  refine Program.relays_bind (Program.relays_orFail _ _) fun blueprint => ?_
  exact relays_effective workspace blueprint.project (some id)

theorem relays_delta (id : BlueprintId) : (delta workspace id).Relays := by
  refine Program.relays_bind (Program.relays_ask _ _) fun stored => ?_
  refine Program.relays_bind (Program.relays_orFail _ _) fun blueprint => ?_
  exact Program.relays_bind (Program.relays_ask _ _) fun _ => trivial

theorem relays_history (page : PageRequest) : (history workspace project page).Relays := by
  refine Program.relays_bind (Action.relays_config _ _) fun _ => ?_
  refine Program.relays_bind (Program.relays_ask _ _) fun content => ?_
  exact Program.relays_bind (Program.relays_ask _ _) fun _ => trivial

theorem relays_masked (mask : Option BlueprintId) (v : BlueprintView) :
    (masked workspace mask v).Relays := by
  cases mask with
  | none => trivial
  | some mask =>
      refine Program.relays_bind ?_ fun _ => trivial
      refine Program.relays_bind (Program.relays_ask _ _) fun stored => ?_
      refine Program.relays_bind (Program.relays_orFail _ _) fun _ => ?_
      exact Program.relays_bind (Program.relays_ask _ _) fun _ => trivial

end Resolution

namespace Service

variable {policy : MaskPolicy} {who : Identity} {supply : Supply}

/-- No operation goes on after a call that the store has refused. -/
theorem relays_plan {d : Directory} {op : Operation} {mode : Mode} {action : Action Reply}
    (h : (plan policy who supply d op).1 = .ok (mode, action)) : action.Relays := by
  have hview : ∀ {source : Action BlueprintView} {mask : Option BlueprintId}, source.Relays →
      planView who source mask = .ok (mode, action) → action.Relays := by
    rintro source mask hsource ⟨⟩
    have hmasked := Resolution.relays_masked who.workspace mask
    exact Program.relays_map (Program.relays_bind hsource hmasked) _
  cases op with
  | create r =>
      simp only [plan] at h
      split at h
      · cases h
      · rename_i ref hvalid
        revert h
        cases (resolveProject who.workspace supply.candidate ref d).1 with
        | error e => rintro ⟨⟩
        | ok project =>
            rintro ⟨⟩
            have happend := Versioning.relays_append who supply.now project.id r.config r.draft
            exact Program.relays_map happend _
  | latest project mask => exact hview (Resolution.relays_effective who.workspace project none) h
  | get blueprint mask => exact hview (Resolution.relays_atBlueprint who.workspace blueprint) h
  | env project env mask =>
      exact hview (Resolution.relays_atEnvironment who.workspace project env) h
  | delta blueprint => exact hview (Resolution.relays_delta who.workspace blueprint) h
  | bind r =>
      simp only [plan] at h
      split at h
      · cases h
      · cases h
        exact Program.relays_map (Pinning.relays_bind policy who supply.now r) _
  | history project page size =>
      simp only [plan] at h
      split at h
      · cases h
      · cases h
        exact Program.relays_map (Resolution.relays_history who.workspace project _) _

/-- An operation of which a call is refused fails with what the refusal comes to. -/
theorem handle_of_refused_call {b : Backend} (s : Service b) {op : Operation} {mode : Mode}
    {action : Action Reply} (hplan : (plan policy who supply s.directory op).1 = .ok (mode, action))
    {v : b.Visit} (hv : v ∈ b.visits supply.ids action (b.start mode s.store) 0) {e : StoreError}
    (he : v.outcome = .error e) :
    (s.handle policy who supply op).result = .error (.ofStore e) := by
  rw [handle_eq_plan, hplan]
  change (b.inUnit mode supply.ids action s.store).result = _
  rw [Backend.result_inUnit]
  exact (relays_plan hplan).run b supply.ids hv he

/-- Whatever text the rows hold, each call that is answered with records is answered with those of all
rows that it selects, or it reports that one of these is corrupt. An operation that makes a call of the
latter kind fails inside. -/
theorem corrupt_rows_reported :
    (∀ {work : Database.Work} (workspace : String) (c : Call) (s : Database.Selection c.Answer),
      Database.Keyed work.tables → work.tables.selection workspace c = some s →
        c.skips ≤ Database.Tables.maxOffset →
          s.Answers (Database.perform workspace c work).1) ∧
    ∀ (policy : MaskPolicy) (who : Identity) (supply : Supply) (service : Service Database.backend)
      (op : Operation) (mode : Mode) (action : Action Reply),
      Database.Keyed service.store.tables →
      (plan policy who supply service.directory op).1 = .ok (mode, action) →
      ∀ v ∈ Database.backend.visits supply.ids action
          (Database.backend.start mode service.store) 0,
        ∀ s, v.work.tables.selection v.workspace v.call = some s →
          v.call.skips ≤ Database.Tables.maxOffset →
          ∀ row ∈ s.rows, (∀ record, ¬s.Spells row record) →
            ∃ e, (service.handle policy who supply op).result = .error e ∧
              (∃ damage, e = .store (.corrupt damage)) ∧ e.kind = .internal := by
  constructor
  · intro work workspace c s hkeyed hs hskips
    exact Database.answers_perform hkeyed workspace hs hskips
  · intro policy who supply service op mode action hkeyed hplan v hv s hs hskips row hrow hnone
    have hkept : Database.Keyed v.work.tables :=
      Program.keyed_visits supply.ids action ⟨mode, service.store, _⟩ hkeyed 0 v hv
    have hanswers := Database.answers_perform hkept v.workspace hs hskips
    obtain ⟨damage, hcorrupt⟩ := hanswers.corrupt row hrow hnone
    exact ⟨_, handle_of_refused_call service hplan hv hcorrupt, ⟨damage, rfl⟩, rfl⟩

/-- A blueprint of a kind that there is not is reported, while another table reads as before. -/
theorem corrupt_rows_reported_of_draft :
    let id : BlueprintId := ⟨.ofNat 5⟩
    let config : Config := ⟨⟨.ofNat 1⟩, .ofNat 2, ⟨"ann", .ofUnix 0 0, "bob", .ofUnix 0 0⟩⟩
    let draft : Database.BlueprintCells := ⟨"w", id.text, "", "", "draft", none, ⟨"", "", "", ""⟩⟩
    let store : Database := ⟨1, ⟨[.of "w" config], [draft], [], []⟩⟩
    let work := Database.backend.start .read store
    let supply : Supply := ⟨.ofUnix 0 0, fun _ => default, .ofNat 2⟩
    let service : Service Database.backend := ⟨store, .memory .empty⟩
    (Database.perform "w" (.configById config.id) work).1 = .ok (some config) ∧
      (∃ damage, (Database.perform "w" (.blueprintById id) work).1 = .error (.corrupt damage)) ∧
      ∃ e, (service.handle .reject ⟨"w", "ann"⟩ supply (.get id none)).result = .error e ∧
        (∃ damage, e = .store (.corrupt damage)) ∧ e.kind = .internal := by
  intro id config draft store work supply service
  have hdated : config.audit.Dated := by decide
  have hdraft : ∀ b, ¬draft.Spells b := by
    intro b hspells
    have hkind : BlueprintKind.parse "draft" = .ok b.kind := hspells.kind
    cases hkind
  have hplace : draft.workspace = "w" ∧ draft.id = id.text := ⟨rfl, rfl⟩
  have hkeyed : Database.Keyed store.tables := by constructor <;> simp [store]
  have hblueprints : store.tables.blueprints = [draft] := rfl
  have hconfigs : store.tables.configs = [.of "w" config] := rfl
  clear_value id config supply draft store
  have hspells : (Database.ConfigCells.of "w" config).Spells config :=
    (Database.ConfigCells.reports_read _).ok_iff config |>.mp
      ((Database.ConfigCells.read_of "w" config).of_sure hdated)
  have hselected : draft ∈ store.tables.blueprints.filter fun r =>
      r.workspace == "w" && r.id == id.text := by
    rw [hblueprints]
    simp [hplace]
  have hrows : store.tables.configs.filter (fun r =>
      r.workspace == "w" && r.id == config.id.text) = [.of "w" config] := by
    rw [hconfigs]
    simp [Database.ConfigCells.of]
  obtain ⟨hstore, hservice⟩ := corrupt_rows_reported
  have hfound := (@hstore work "w" (.configById config.id) _ hkeyed rfl
    (Nat.zero_le _)).ok [config]
  have hcorrupt := (@hstore work "w" (.blueprintById id) _ hkeyed rfl
    (Nat.zero_le _)).corrupt draft hselected hdraft
  refine ⟨hfound ?_, hcorrupt, ?_⟩
  · change List.Forall₂ _ (store.tables.configs.filter _) _
    rw [hrows]
    exact .cons hspells .nil
  · exact hservice .reject ⟨"w", "ann"⟩ supply service (.get id none) .read _ hkeyed rfl
      ⟨"w", .blueprintById id, work⟩ List.mem_cons_self _ rfl (Nat.zero_le _) draft hselected hdraft

end Service

end ConfigTimeline
