import ConfigTimeline.Proofs.Service.Answers
import ConfigTimeline.Proofs.Store.ReadUnits
import ConfigTimeline.Proofs.Timeline.Links
import ConfigTimeline.Proofs.Timeline.Masks

/-!
Reading a blueprint through an environment. Such a read is given the project and finds the blueprint by
the pin; a read by id is given the blueprint and finds the project by it. Since a pin points at a record
of its own project, both ask the store for the same from there on.
-/

namespace ConfigTimeline

/-- A call that reads from the first record on and has one answer only. -/
structure Call.Exact (c : Call) : Prop where
  reads : c.writes = false
  asked : c.asked = []
  skips : c.skips = 0
  same : ∀ a b, c.Same a b → a = b

namespace StoreKind

variable {kind : StoreKind} {s : Service kind.backend} {t : Memory.Tables}

/-- After a run on a store without contents, configs and pins are linked. -/
theorem run_linksKept (kind : StoreKind) (directory : Directory) (calls : List ServiceCall) :
    ∃ t, kind.tableModel.Holds ((Service.new kind directory).run calls).2.store t ∧
      LinksKept ((Service.new kind directory).run calls).1 t := by
  have hkept := kind.tableModel.run_keeps (P := LinksKept)
    (fun past t call result t' h heffect => h.concat heffect)
    (s := Service.new kind directory) kind.holds_empty LinksKept.nil calls
  simpa using hkept

/-- A store gives the one answer that a call has on the tables. -/
theorem answer_eq (hstore : kind.tableModel.Holds s.store t)
    (hsure : ∀ c : Call, c.skips = 0 → kind.tableModel.Sure t c) (workspace : String) {c : Call}
    (hc : c.Exact)
    {reference : c.Answer}
    (hreference :
      (Memory.perform workspace c (Memory.backend.start .read t)).1 = .ok reference) :
    s.answer workspace c = .ok reference := by
  have hmay := answer_mayAnswer hstore workspace hc.reads hc.asked
  rw [hreference] at hmay
  rcases hmay with hagree | ⟨hunsure, -⟩
  · cases hanswer : s.answer workspace c with
    | ok a =>
        rw [hanswer] at hagree
        exact congrArg Except.ok (hc.same a reference hagree)
    | error e =>
        rw [hanswer] at hagree
        exact hagree.elim
  · exact absurd (hsure c hc.skips) hunsure

/-- An action goes on with that answer, on the store as it was. -/
theorem run_ask (hstore : kind.tableModel.Holds s.store t)
    (hsure : ∀ c : Call, c.skips = 0 → kind.tableModel.Sure t c) {workspace : String} (c : Call)
    (hc : c.Exact) {reference : c.Answer}
    (hreference :
      (Memory.perform workspace c (Memory.backend.start .read t)).1 = .ok reference)
    {α : Type} (f : c.Answer → Action α) (ids : Nat → Ulid) (n : Nat) :
    kind.backend.run ids (Action.ask workspace c >>= f) (kind.backend.start .read s.store) n =
      kind.backend.run ids (f reference) (kind.backend.start .read s.store) n := by
  have hperform : kind.backend.perform workspace c (kind.backend.start .read s.store) =
      (.ok reference, kind.backend.start .read s.store) :=
    Prod.ext (answer_eq hstore hsure workspace hc hreference)
      (kind.perform_of_reads hc.reads workspace _)
  have hask : kind.backend.run ids (Action.ask workspace c) (kind.backend.start .read s.store) n =
      ⟨.ok reference, kind.backend.start .read s.store, n⟩ := by
    unfold Action.ask Program.ask Backend.run
    rw [hperform]
    rfl
  rw [kind.backend.run_bind, hask]

end StoreKind

namespace Memory

variable {t : Tables} {workspace : String} {project : ProjectId} {env : String}

def Tables.IsMask (t : Tables) (workspace : String) (id : BlueprintId) : Prop :=
  ∃ record ∈ recordsIn workspace t.blueprints, record.id = id ∧ record.kind = .mask

theorem isMask_iff (h : Constrained t) {record : Blueprint}
    (hrecord : record ∈ t.blueprintsOf workspace project) :
    t.IsMask workspace record.id ↔ record.kind = .mask := by
  have hstored := (mem_blueprintsOf.mp hrecord).1
  constructor
  · rintro ⟨mask, hmask, hid, hkind⟩
    rw [← eq_of_blueprintId h hmask hstored hid]
    exact hkind
  · intro hkind
    exact ⟨record, hstored, rfl, hkind⟩

theorem eq_of_pin (h : Constrained t) {pin other : Pin} (hpin : pin ∈ recordsIn workspace t.pins)
    (hother : other ∈ recordsIn workspace t.pins) (hproject : pin.project = other.project)
    (henv : pin.env = other.env) : pin = other := by
  have hplaces : ((recordsIn workspace t.pins).map fun pin => (pin.project, pin.env)).Nodup :=
    nodup_map_recordsIn h.pinEnvs workspace
  exact List.inj_on_of_nodup_map hplaces hpin hother (Prod.ext hproject henv)

/-- An environment is pinned to one blueprint. -/
theorem eq_of_pinned (h : Constrained t) {b b' : BlueprintId}
    (hb : t.Pinned workspace project env b) (hb' : t.Pinned workspace project env b') : b = b' := by
  obtain ⟨pin, hpin, hproject, henv, rfl⟩ := hb
  obtain ⟨other, hother, hproject', henv', rfl⟩ := hb'
  rw [eq_of_pin h hpin hother (hproject.trans hproject'.symm) (henv.trans henv'.symm)]

theorem find?_pinsOf (h : Constrained t) {b : BlueprintId} :
    ((t.pinsOf workspace project).find? (·.env == env)).map (·.blueprint) = some b ↔
      t.Pinned workspace project env b := by
  have hfound : ∀ {pin}, (t.pinsOf workspace project).find? (·.env == env) = some pin →
      t.Pinned workspace project env pin.blueprint := by
    intro pin hpin
    obtain ⟨hmem, hproject⟩ := List.mem_filter.mp (List.mem_of_find?_eq_some hpin)
    have henv := List.find?_some hpin
    exact ⟨pin, hmem, beq_iff_eq.mp hproject, beq_iff_eq.mp henv, rfl⟩
  constructor
  · intro hpinned
    obtain ⟨pin, hpin, rfl⟩ := Option.map_eq_some_iff.mp hpinned
    exact hfound hpin
  · intro hpinned
    have ⟨pin, hpin, hproject, henv, _⟩ := hpinned
    have hsome : ((t.pinsOf workspace project).find? (·.env == env)).isSome = true := by
      rw [List.find?_isSome]
      exact ⟨pin, List.mem_filter.mpr ⟨hpin, beq_iff_eq.mpr hproject⟩, beq_iff_eq.mpr henv⟩
    obtain ⟨found, hfind⟩ := Option.isSome_iff_exists.mp hsome
    rw [hfind]
    exact congrArg some (eq_of_pinned h (hfound hfind) hpinned)

end Memory

/-- What an environment leads to: the record that it is pinned to, unless that is a mask. -/
inductive EnvLookUp (t : Memory.Tables) (workspace : String) (project : ProjectId) (env : String) :
    Except NotFound Blueprint → Prop
  | noConfig (hconfig : t.configOf workspace project = none)
      (h : ∀ b, ¬t.Pinned workspace project env b) :
      EnvLookUp t workspace project env (.error (.config project))
  | unpinned (hconfig : t.configOf workspace project ≠ none)
      (h : ∀ b, ¬t.Pinned workspace project env b) :
      EnvLookUp t workspace project env (.error (.environment env))
  | mask (record : Blueprint) (hconfig : t.configOf workspace project ≠ none)
      (hpinned : t.Pinned workspace project env record.id)
      (hrecord : record ∈ t.blueprintsOf workspace project) (hkind : record.kind = .mask) :
      EnvLookUp t workspace project env (.error (.pinnedToMask env record.id))
  | blueprint (record : Blueprint) (hconfig : t.configOf workspace project ≠ none)
      (hpinned : t.Pinned workspace project env record.id)
      (hrecord : record ∈ t.blueprintsOf workspace project) (hkind : record.kind = .blueprint) :
      EnvLookUp t workspace project env (.ok record)

namespace EnvLookUp

variable {t : Memory.Tables} {workspace : String} {project : ProjectId} {env : String}
  {found : Except NotFound Blueprint}

theorem config_iff (h : EnvLookUp t workspace project env found) :
    found = .error (.config project) ↔ t.configOf workspace project = none := by
  cases h with
  | noConfig hconfig hpins => exact iff_of_true rfl hconfig
  | unpinned hconfig hpins => exact iff_of_false nofun hconfig
  | mask record hconfig hpinned hrecord hkind => exact iff_of_false nofun hconfig
  | blueprint record hconfig hpinned hrecord hkind => exact iff_of_false nofun hconfig

theorem environment_iff (h : EnvLookUp t workspace project env found) :
    found = .error (.environment env) ↔
      t.configOf workspace project ≠ none ∧ ∀ b, ¬t.Pinned workspace project env b := by
  cases h with
  | noConfig hconfig hpins => exact iff_of_false nofun fun h => h.1 hconfig
  | unpinned hconfig hpins => exact iff_of_true rfl ⟨hconfig, hpins⟩
  | mask record hconfig hpinned hrecord hkind =>
      exact iff_of_false nofun fun h => h.2 record.id hpinned
  | blueprint record hconfig hpinned hrecord hkind =>
      exact iff_of_false nofun fun h => h.2 record.id hpinned

theorem mask_iff (h : EnvLookUp t workspace project env found)
    (hconstrained : Memory.Constrained t) {b : BlueprintId} :
    found = .error (.pinnedToMask env b) ↔
      t.Pinned workspace project env b ∧ t.IsMask workspace b := by
  cases h with
  | noConfig hconfig hpins => exact iff_of_false nofun fun h => hpins b h.1
  | unpinned hconfig hpins => exact iff_of_false nofun fun h => hpins b h.1
  | mask record hconfig hpinned hrecord hkind =>
      constructor
      · intro hrefused
        obtain rfl : record.id = b := by
          injection hrefused with hwhat
          injection hwhat
        exact ⟨hpinned, (Memory.isMask_iff hconstrained hrecord).mpr hkind⟩
      · rintro ⟨hother, -⟩
        rw [Memory.eq_of_pinned hconstrained hpinned hother]
  | blueprint record hconfig hpinned hrecord hkind =>
      refine iff_of_false nofun ?_
      rintro ⟨hother, hmask⟩
      obtain rfl := Memory.eq_of_pinned hconstrained hpinned hother
      rw [Memory.isMask_iff hconstrained hrecord, hkind] at hmask
      cases hmask

theorem ne_blueprint (h : EnvLookUp t workspace project env found) (b : BlueprintId) :
    found ≠ .error (.blueprint b) := by
  cases h <;> exact nofun

end EnvLookUp

namespace LinksKept

variable {log : List LogEntry} {t : Memory.Tables} {workspace : String} {project : ProjectId}
  {env : String} {b : BlueprintId}

/-- The record that an environment is pinned to is of its project, which so has a config. -/
theorem exists_pinned (h : LinksKept log t) (hpinned : t.Pinned workspace project env b) :
    t.configOf workspace project ≠ none ∧ ∃ record ∈ t.blueprintsOf workspace project,
      record.id = b ∧ (Rejecting log → record.kind = .blueprint) := by
  obtain ⟨pin, hpin, rfl, -, rfl⟩ := hpinned
  have hlinked := h.pins ⟨workspace, pin⟩ (mem_recordsIn.mp hpin)
  obtain ⟨config, hconfig, -⟩ := hlinked.config
  exact ⟨Option.ne_none_iff_exists'.mpr ⟨config, hconfig⟩, hlinked.target⟩

theorem envLookUp (h : LinksKept log t) (hconstrained : Memory.Constrained t)
    (workspace : String) (project : ProjectId) (env : String) :
    EnvLookUp t workspace project env (t.lookUpEnv workspace project env) := by
  unfold Memory.Tables.lookUpEnv
  cases hconfig : t.configOf workspace project with
  | none => exact .noConfig hconfig fun b hpinned => (h.exists_pinned hpinned).1 hconfig
  | some config =>
      have hsome : t.configOf workspace project ≠ none :=
        Option.ne_none_iff_exists'.mpr ⟨config, hconfig⟩
      dsimp only
      cases hpin : ((t.pinsOf workspace project).find? (·.env == env)).map (·.blueprint) with
      | none =>
          refine .unpinned hsome fun b hpinned => ?_
          rw [(Memory.find?_pinsOf hconstrained).mpr hpinned] at hpin
          cases hpin
      | some id =>
          have hpinned := (Memory.find?_pinsOf hconstrained).mp hpin
          obtain ⟨-, record, hrecord, rfl, -⟩ := h.exists_pinned hpinned
          have hfound : t.blueprintById workspace record.id = some record :=
            (Memory.blueprintById_eq_some hconstrained).mpr
              ⟨(Memory.mem_blueprintsOf.mp hrecord).1, rfl⟩
          dsimp only
          rw [hfound, Option.any_some]
          cases hkind : record.kind with
          | mask => exact .mask record hsome hpinned hrecord hkind
          | blueprint =>
              rw [if_neg (by decide), Memory.lookUp_of_mem hconstrained
                (h.recorded.configOf_ne_none hrecord) hrecord hkind]
              exact .blueprint record hsome hpinned hrecord hkind

end LinksKept

namespace Resolution

variable {kind : StoreKind} {s : Service kind.backend} {t : Memory.Tables} {workspace : String}
  {id : BlueprintId} {b : Blueprint}

/-- A read by id goes on in the project of the blueprint. -/
theorem run_atBlueprint (hstore : kind.tableModel.Holds s.store t)
    (hsure : ∀ c : Call, c.skips = 0 → kind.tableModel.Sure t c)
    (hfound : t.blueprintById workspace id = some b)
    (ids : Nat → Ulid) (n : Nat) :
    kind.backend.run ids (atBlueprint workspace id) (kind.backend.start .read s.store) n =
      kind.backend.run ids (effective workspace b.project (some id))
        (kind.backend.start .read s.store) n := by
  unfold atBlueprint
  rw [StoreKind.run_ask hstore hsure (.blueprintById id) ⟨rfl, rfl, rfl, fun _ _ h => h⟩
    (congrArg Except.ok hfound)]
  rfl

/-- A read through an environment goes on with the blueprint that it is pinned to, if that is no
mask. -/
theorem run_atEnvironment (hstore : kind.tableModel.Holds s.store t)
    (hsure : ∀ c : Call, c.skips = 0 → kind.tableModel.Sure t c) {project : ProjectId}
    {env : String} (hconfig : t.configOf workspace project ≠ none)
    (hpinned : ((t.pinsOf workspace project).find? (·.env == env)).map (·.blueprint) = some id)
    (hfound : t.blueprintById workspace id = some b) (hkind : b.kind = .blueprint)
    (ids : Nat → Ulid) (n : Nat) :
    kind.backend.run ids (atEnvironment workspace project env)
        (kind.backend.start .read s.store) n =
      kind.backend.run ids (effective workspace project (some id))
        (kind.backend.start .read s.store) n := by
  obtain ⟨config, hconfig⟩ := Option.ne_none_iff_exists'.mp hconfig
  unfold atEnvironment Action.config
  rw [bind_assoc, StoreKind.run_ask hstore hsure (.configOf project)
    ⟨rfl, rfl, rfl, fun _ _ h => h⟩ (congrArg Except.ok hconfig)]
  -- What has been found is handed on to the next call.
  change kind.backend.run ids (Action.ask workspace (.pinnedTo project env) >>= _) _ n = _
  rw [StoreKind.run_ask hstore hsure (.pinnedTo project env) ⟨rfl, rfl, rfl, fun _ _ h => h⟩
    (congrArg Except.ok hpinned)]
  change kind.backend.run ids (Action.ask workspace (.blueprintById id) >>= _) _ n = _
  rw [StoreKind.run_ask hstore hsure (.blueprintById id) ⟨rfl, rfl, rfl, fun _ _ h => h⟩
    (congrArg Except.ok hfound)]
  unfold refuseMask
  dsimp only
  rw [hkind]
  rfl

end Resolution

/-- An environment that is pinned to a blueprint reads as the blueprint does, with any mask. -/
theorem BlueprintRead.env_eq_get {kind : StoreKind} {s : Service kind.backend} {t : Memory.Tables}
    (hstore : kind.tableModel.Holds s.store t) (hlegible : t.Legible kind.tableModel.Sure)
    (policy : MaskPolicy) (who : Identity) (supply : Supply) (mask : Option BlueprintId)
    {project : ProjectId} {env : String} {record : Blueprint}
    (hconfig : t.configOf who.workspace project ≠ none)
    (hpinned : t.Pinned who.workspace project env record.id)
    (hrecord : record ∈ t.blueprintsOf who.workspace project) (hkind : record.kind = .blueprint) :
    (s.handle policy who supply (.env project env mask)).result =
      (s.handle policy who supply (.get record.id mask)).result := by
  have hconstrained := kind.tableModel.constrained (kind.tableModel.start .read hstore)
  obtain ⟨hstored, rfl⟩ := Memory.mem_blueprintsOf.mp hrecord
  have hfound : t.blueprintById who.workspace record.id = some record :=
    (Memory.blueprintById_eq_some hconstrained).mpr ⟨hstored, rfl⟩
  have henv := Resolution.run_atEnvironment hstore hlegible.answers hconfig
    ((Memory.find?_pinsOf hconstrained).mpr hpinned) hfound hkind supply.ids 0
  have hget := Resolution.run_atBlueprint hstore hlegible.answers hfound supply.ids 0
  change (s.view who.workspace supply (Resolution.atEnvironment who.workspace record.project env)
      mask).result =
    (s.view who.workspace supply (Resolution.atBlueprint who.workspace record.id) mask).result
  rw [Service.result_view, Service.result_view, kind.backend.run_bind, kind.backend.run_bind, henv,
    hget]

/-- After any calls, on either kind of store, a read through an environment reports a missing config
just where the project has none, a missing environment just where that has no pin, and a pin to a mask
just where there is such a pin. In all other cases it is the read by id of the blueprint that the
environment is pinned to, with the same answer or the same error. That blueprint is never missing, and
it is never a mask if all pins were made under the policy that rejects masks. The clock that a database
is used under shows years of four digits. -/
theorem Service.env_reads_agree (kind : StoreKind) (directory : Directory)
    (calls : List ServiceCall)
    (hclock : kind = .database → ∀ call ∈ calls, call.supply.now.FourDigitYear)
    (policy : MaskPolicy) (who : Identity) (supply : Supply) (project : ProjectId) (env : String)
    (mask : Option BlueprintId) :
    let ran := (Service.new kind directory).run calls
    let result (op : Operation) := (ran.2.handle policy who supply op).result
    let read := result (.env project env mask)
    ∃ t, kind.tableModel.Holds ran.2.store t ∧
      (read = .error (.notFound (.config project)) ↔ t.configOf who.workspace project = none) ∧
      (read = .error (.notFound (.environment env)) ↔
        t.configOf who.workspace project ≠ none ∧ ∀ b, ¬t.Pinned who.workspace project env b) ∧
      (∀ b, read = .error (.notFound (.pinnedToMask env b)) ↔
        t.Pinned who.workspace project env b ∧ t.IsMask who.workspace b) ∧
      (∀ b, t.Pinned who.workspace project env b → ¬t.IsMask who.workspace b →
        read = result (.get b mask)) ∧
      (∀ b, read ≠ .error (.notFound (.blueprint b))) ∧
      (Rejecting ran.1 → ∀ b, read ≠ .error (.notFound (.pinnedToMask env b))) := by
  intro ran result read
  obtain ⟨t, hstore, hkept⟩ := kind.run_linksKept directory calls
  have hconstrained : Memory.Constrained t :=
    kind.tableModel.constrained (kind.tableModel.start .read hstore)
  have hlegible := hkept.recorded.legible hclock
  have hmissing : ∀ what, (∀ id project, what ≠ .mask id project) →
      (read = .error (.notFound what) ↔ t.lookUpEnv who.workspace project env = .error what) :=
    fun _ hother => BlueprintRead.missing_iff hstore hlegible policy who supply (.env project env)
      mask hother
  have hlookUp := hkept.envLookUp hconstrained who.workspace project env
  have hmask : ∀ b, read = .error (.notFound (.pinnedToMask env b)) ↔
      t.Pinned who.workspace project env b ∧ t.IsMask who.workspace b :=
    fun b => (hmissing (.pinnedToMask env b) fun _ _ h => by cases h).trans (hlookUp.mask_iff hconstrained)
  refine ⟨t, hstore, (hmissing (.config project) fun _ _ h => by cases h).trans hlookUp.config_iff,
    (hmissing (.environment env) fun _ _ h => by cases h).trans hlookUp.environment_iff, hmask, ?_, ?_, ?_⟩
  · intro b hpinned hother
    obtain ⟨hconfig, record, hrecord, rfl, -⟩ := hkept.exists_pinned hpinned
    rw [Memory.isMask_iff hconstrained hrecord] at hother
    cases hkind : record.kind with
    | mask => exact absurd hkind hother
    | blueprint =>
        exact BlueprintRead.env_eq_get hstore hlegible policy who supply mask hconfig hpinned hrecord
          hkind
  · intro b hread
    exact hlookUp.ne_blueprint b ((hmissing (.blueprint b) fun _ _ h => by cases h).mp hread)
  · intro hrejecting b hread
    obtain ⟨hpinned, hismask⟩ := (hmask b).mp hread
    obtain ⟨-, record, hrecord, rfl, hkind⟩ := hkept.exists_pinned hpinned
    rw [Memory.isMask_iff hconstrained hrecord, hkind hrejecting] at hismask
    cases hismask

/-- An environment pinned to a blueprint, read under a mask, and one that is pinned to the mask. -/
theorem Service.env_reads_agree_deferred :
    let who : Identity := ⟨"w", "u"⟩
    let project : ProjectId := .ofNat 7
    let supply (first : Nat) : Supply :=
      ⟨.ofUnix 1700000000 0, fun n => .ofNat (first + n), project⟩
    let create (first id : Nat) (kind : BlueprintKind) : ServiceCall :=
      ⟨.reject, who, supply first,
        .create ⟨none, some "p", none, ⟨some ⟨.ofNat id⟩, kind, none, [⟨"k", "v", .string, none⟩]⟩⟩⟩
    let pins : PinRequest := ⟨project, [⟨"dev", ⟨.ofNat 2⟩⟩, ⟨"prod", ⟨.ofNat 1⟩⟩]⟩
    let calls := [create 10 1 .blueprint, create 20 2 .mask, ⟨.defer, who, supply 30, .bind pins⟩]
    let s := ((Service.new .database (.memory .empty)).run calls).2
    let result (op : Operation) := (s.handle .reject who (supply 40) op).result
    let mask : Option BlueprintId := some ⟨.ofNat 2⟩
    (∀ call ∈ calls, call.supply.now.FourDigitYear) ∧
      (∃ t, Database.tableModel.Holds s.store t ∧ t.Pinned "w" project "dev" ⟨.ofNat 2⟩ ∧
        t.IsMask "w" ⟨.ofNat 2⟩) ∧
      ∃ t b v, Database.tableModel.Holds s.store t ∧ t.Pinned "w" project "prod" b ∧
        result (.env project "prod" mask) = .ok (.view v) ∧
        result (.get b mask) = .ok (.view v) := by
  intro who project supply create pins calls s result mask
  have hclock : ∀ call ∈ calls, call.supply.now.FourDigitYear := by decide +kernel
  have hresults : result (.env project "dev" none) =
        .error (.notFound (.pinnedToMask "dev" ⟨.ofNat 2⟩)) ∧
      (viewOf? (result (.env project "prod" mask))).isSome = true := by
    decide +kernel
  obtain ⟨hdev, hprod⟩ := hresults
  obtain ⟨v, hv⟩ := Option.isSome_iff_exists.mp hprod
  have hread := eq_of_viewOf? hv
  refine ⟨hclock, ?_, ?_⟩
  · obtain ⟨t, hstore, -, -, hmask, -⟩ := Service.env_reads_agree .database (.memory .empty) calls
      (fun _ => hclock) .reject who (supply 40) project "dev" none
    exact ⟨t, hstore, (hmask ⟨.ofNat 2⟩).mp hdev⟩
  · obtain ⟨t, hstore, hconfig, henv, hmask, hagrees, -⟩ := Service.env_reads_agree .database
      (.memory .empty) calls (fun _ => hclock) .reject who (supply 40) project "prod" mask
    have hsome : t.configOf "w" project ≠ none := by
      intro hnone
      cases hread.symm.trans (hconfig.mpr hnone)
    have hpinned : ∃ b, t.Pinned "w" project "prod" b := by
      by_contra hfree
      cases hread.symm.trans (henv.mpr ⟨hsome, not_exists.mp hfree⟩)
    obtain ⟨b, hb⟩ := hpinned
    have hother : ¬t.IsMask "w" b := by
      intro hismask
      cases hread.symm.trans ((hmask b).mpr ⟨hb, hismask⟩)
    exact ⟨t, b, v, hstore, hb, hread, (hagrees b hb hother).symm.trans hread⟩

end ConfigTimeline
