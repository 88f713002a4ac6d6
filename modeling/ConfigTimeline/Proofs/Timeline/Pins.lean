import ConfigTimeline.Proofs.Timeline.Environments

/-!
The environments that a read shows with a blueprint. A store looks them up by the blueprint alone, over
all projects of the workspace; pins point at records of their own project, so that these are the
environments of the project of the blueprint that are pinned to it, and no others.
-/

namespace ConfigTimeline

def Operation.ShowsEnvs : Operation → Prop
  | .latest _ _ | .get _ _ | .env _ _ _ | .history _ _ _ => True
  | .create _ | .bind _ | .delta _ => False

def Reply.views : Reply → List BlueprintView
  | .view v => [v]
  | .pins _ => []
  | .page p => p.content

def Service.Displays {b : Backend} (s : Service b) (workspace : String) (v : BlueprintView) : Prop :=
  ∃ policy user supply op reply, op.ShowsEnvs ∧
    (s.handle policy ⟨workspace, user⟩ supply op).result = .ok reply ∧ v ∈ reply.views

namespace Memory

variable {t : Tables} {workspace : String} {project : ProjectId}

theorem mem_of_target {at? : Option BlueprintId} {b : Blueprint}
    (h : t.target workspace project at? = some b) : b ∈ recordsIn workspace t.blueprints := by
  cases at? with
  | none => exact (mem_newestFirst.mp (List.mem_of_head? h)).1
  | some id => exact List.mem_of_find?_eq_some (Option.filter_eq_some_iff.mp h).1

theorem mem_of_lookUp {at? : Option BlueprintId} {b : Blueprint}
    (h : t.lookUp workspace project at? = .ok b) : b ∈ recordsIn workspace t.blueprints :=
  mem_of_target (Tables.lookUp_eq_ok.mp h).2

theorem mem_of_read {read : BlueprintRead} {b : Blueprint} (h : read.lookUp t workspace = .ok b) :
    b ∈ recordsIn workspace t.blueprints := by
  cases read with
  | latest project => exact mem_of_lookUp h
  | get blueprint =>
      change t.lookUpId workspace blueprint = .ok b at h
      unfold Tables.lookUpId at h
      split at h
      · cases h
      · exact mem_of_lookUp h
  | env project name =>
      change t.lookUpEnv workspace project name = .ok b at h
      unfold Tables.lookUpEnv at h
      split at h
      · cases h
      · split at h
        · cases h
        · split at h
          · cases h
          · exact mem_of_lookUp h

theorem mem_envsOf {b : BlueprintId} {name : String} :
    name ∈ t.envsOf workspace b ↔
      ∃ pin ∈ recordsIn workspace t.pins, pin.blueprint = b ∧ pin.env = name := by
  rw [Tables.envsOf, (perm_sortBy _ _).mem_iff, List.mem_map]
  simp [and_assoc]

end Memory

namespace LinksKept

variable {log : List LogEntry} {t : Memory.Tables} {workspace : String} {b : Blueprint}

/-- Whatever points at a record of a workspace is of the project of the record. -/
theorem project_of_pin (h : LinksKept log t) (hconstrained : Memory.Constrained t)
    (hb : b ∈ recordsIn workspace t.blueprints) {pin : Pin} (hpin : pin ∈ recordsIn workspace t.pins)
    (hpoints : pin.blueprint = b.id) : pin.project = b.project := by
  obtain ⟨record, hrecord, hid, -⟩ := (h.pins ⟨workspace, pin⟩ (mem_recordsIn.mp hpin)).target
  obtain ⟨hstored, hproject⟩ := Memory.mem_blueprintsOf.mp hrecord
  obtain rfl := Memory.eq_of_blueprintId hconstrained hstored hb (hid.trans hpoints)
  exact hproject.symm

theorem mem_envsOf (h : LinksKept log t) (hconstrained : Memory.Constrained t)
    (hb : b ∈ recordsIn workspace t.blueprints) {name : String} :
    name ∈ t.envsOf workspace b.id ↔ t.Pinned workspace b.project name b.id := by
  rw [Memory.mem_envsOf]
  constructor
  · rintro ⟨pin, hpin, hpoints, rfl⟩
    exact ⟨pin, hpin, h.project_of_pin hconstrained hb hpin hpoints, rfl, hpoints⟩
  · rintro ⟨pin, hpin, -, henv, hpoints⟩
    exact ⟨pin, hpin, hpoints, henv⟩

/-- The environments of a record come in order of their names, each once. -/
theorem pairwise_envsOf (h : LinksKept log t) (hconstrained : Memory.Constrained t)
    (hb : b ∈ recordsIn workspace t.blueprints) :
    (t.envsOf workspace b.id).Pairwise (· < ·) := by
  have hplaces : ((recordsIn workspace t.pins).map fun pin => (pin.project, pin.env)).Nodup :=
    nodup_map_recordsIn hconstrained.pinEnvs workspace
  have hnodup : (((recordsIn workspace t.pins).filter (·.blueprint == b.id)).map (·.env)).Nodup := by
    -- The lookup does not ask for a project, but there is only one that the pins can be of.
    refine List.Nodup.map_on ?_ (hplaces.of_map.filter _)
    intro pin hpin other hother henv
    obtain ⟨hpin, hpoints⟩ := List.mem_filter.mp hpin
    obtain ⟨hother, hpoints'⟩ := List.mem_filter.mp hother
    have hproject := h.project_of_pin hconstrained hb hpin (beq_iff_eq.mp hpoints)
    have hproject' := h.project_of_pin hconstrained hb hother (beq_iff_eq.mp hpoints')
    exact Memory.eq_of_pin hconstrained hpin hother (hproject.trans hproject'.symm) henv
  exact pairwise_lt_sortBy (fun _ _ => decide_eq_true_iff) (by rwa [List.map_id'])

end LinksKept

/-- A record that is displayed is stored, and it is shown with what the tables have for it. -/
theorem TableModel.stored_of_displays {b : Backend} (model : TableModel b) {s : Service b}
    {t : Memory.Tables} (hstore : model.Holds s.store t) (hlegible : t.Legible fun _ _ => True)
    {workspace : String} {v : BlueprintView} (h : s.Displays workspace v) :
    v.blueprint ∈ recordsIn workspace t.blueprints ∧
      v.envs = t.envsOf workspace v.blueprint.id := by
  obtain ⟨policy, user, supply, op, reply, hshows, hresult, hv⟩ := h
  have hread : ∀ (read : BlueprintRead) mask,
      (s.handle policy ⟨workspace, user⟩ supply (read.operation mask)).result = .ok reply →
        v.blueprint ∈ recordsIn workspace t.blueprints ∧
          v.envs = t.envsOf workspace v.blueprint.id := by
    intro read mask hok
    obtain ⟨b, shown, values, hfound, hshown, rfl⟩ :=
      BlueprintRead.shown_of_ok hstore hlegible hok
    obtain rfl : v = { shown with values } := List.mem_singleton.mp hv
    obtain rfl : shown.blueprint = b := hshown.blueprint
    exact ⟨Memory.mem_of_read hfound, hshown.envs⟩
  cases op with
  | create r => exact hshows.elim
  | bind r => exact hshows.elim
  | delta blueprint => exact hshows.elim
  | latest project mask => exact hread (.latest project) mask hresult
  | get blueprint mask => exact hread (.get blueprint) mask hresult
  | env project name mask => exact hread (.env project name) mask hresult
  | history project page size =>
      obtain ⟨p, limit, offset, rfl, hcontent⟩ := model.page_of_ok hstore hlegible hresult
      have hmem : v ∈ t.history workspace project limit offset := hcontent ▸ hv
      obtain ⟨b, hb, rfl⟩ := List.mem_map.mp hmem
      have hlisted : b ∈ t.newestFirst workspace project .blueprint :=
        List.mem_of_mem_drop (List.mem_of_mem_take hb)
      exact ⟨(Memory.mem_newestFirst.mp hlisted).1, rfl⟩

/-- What is displayed with a record are the environments of its project that are pinned to it, in order
of their names, each once. -/
theorem LinksKept.envs_of_displays {log : List LogEntry} {t : Memory.Tables} (h : LinksKept log t)
    {b : Backend} (model : TableModel b) {s : Service b} (hstore : model.Holds s.store t)
    {workspace : String} {v : BlueprintView} (hv : s.Displays workspace v) :
    v.envs.Pairwise (· < ·) ∧
      ∀ name, name ∈ v.envs ↔ t.Pinned workspace v.blueprint.project name v.blueprint.id := by
  have hconstrained := model.constrained (model.start .read hstore)
  have hlegible : t.Legible fun _ _ => True :=
    ⟨fun _ _ => trivial, fun workspace project b =>
      (h.recorded.timelines workspace project).nodup_effectiveAt b⟩
  obtain ⟨hstored, henvs⟩ := model.stored_of_displays hstore hlegible hv
  rw [henvs]
  exact ⟨h.pairwise_envsOf hconstrained hstored, fun _ => h.mem_envsOf hconstrained hstored⟩

/-- A blueprint that is no mask is displayed where the store is sure of its answers. -/
theorem Recorded.exists_displayed {log : List LogEntry} {t : Memory.Tables} (h : Recorded log t)
    {b : Backend} (model : TableModel b) {s : Service b} (hstore : model.Holds s.store t)
    (hlegible : t.Legible model.Sure) {workspace : String} {project : ProjectId}
    {record : Blueprint} (hrecord : record ∈ t.blueprintsOf workspace project)
    (hkind : record.kind = .blueprint) : ∃ v, s.Displays workspace v ∧ v.blueprint = record := by
  have hconstrained := model.constrained (model.start .read hstore)
  let supply : Supply := ⟨.ofUnix 0 0, fun n => .ofNat n, .ofNat 0⟩
  obtain ⟨v, hresult, hshown⟩ := BlueprintRead.shows_of_found hstore hlegible .reject
    ⟨workspace, ""⟩ supply (.get record.id) (Memory.lookUpId_of_mem hconstrained
      (h.configOf_ne_none hrecord) hrecord hkind)
  exact ⟨v, ⟨.reject, "", supply, .get record.id none, .view v, trivial, hresult,
    List.mem_cons_self⟩, hshown.blueprint⟩

/-- After any calls, on either kind of store, whatever a read shows of a blueprint, with a mask or
without or in a page of a history, it names the environments of the project that are pinned to the
blueprint, in order and each once, and no others. So an environment that has been pinned anew is named
with the blueprint that it was pinned to, and with no other of the project. As long as the clock shows
years of four digits, there is no blueprint but can be shown. -/
theorem Service.envs_inverse_pins (kind : StoreKind) (directory : Directory)
    (calls : List ServiceCall) :
    let s := ((Service.new kind directory).run calls).2
    (∃ t, kind.tableModel.Holds s.store t ∧
      (∀ workspace v, s.Displays workspace v → v.envs.Pairwise (· < ·) ∧
        ∀ name, name ∈ v.envs ↔ t.Pinned workspace v.blueprint.project name v.blueprint.id) ∧
      ((kind = .database → ∀ call ∈ calls, call.supply.now.FourDigitYear) →
        ∀ workspace project, ∀ b ∈ t.blueprintsOf workspace project, b.kind = .blueprint →
          ∃ v, s.Displays workspace v ∧ v.blueprint = b)) ∧
      ∀ policy who supply r pins, (s.handle policy who supply (.bind r)).result = .ok pins →
        ∀ v, (s.handle policy who supply (.bind r)).service.Displays who.workspace v →
          v.blueprint.project = r.project → ∀ target ∈ r.targets,
            (target.env ∈ v.envs ↔ v.blueprint.id = target.blueprint) := by
  intro s
  obtain ⟨t, hstore, hkept⟩ := kind.run_linksKept directory calls
  refine ⟨⟨t, hstore, fun _ _ => hkept.envs_of_displays kind.tableModel hstore, ?_⟩, ?_⟩
  · intro hclock workspace project b hb hkind
    exact hkept.recorded.exists_displayed kind.tableModel hstore (hkept.recorded.legible hclock) hb
      hkind
  intro policy who supply r pins hok v hv hproject target htarget
  obtain ⟨t', hstore', ⟨e, herror, -⟩ | ⟨reply, hresult, hbound⟩⟩ :=
    kind.tableModel.bind_ends hstore policy who supply r
  · cases hok.symm.trans herror
  · have hlinked : LinksKept (_ ++ [⟨⟨policy, who, supply, .bind r⟩, .ok reply⟩]) t' :=
      hkept.concat (.bound r reply t' hbound)
    have hconstrained := kind.tableModel.constrained (kind.tableModel.start .read hstore')
    have hreached := hbound.reached target htarget
    rw [(hlinked.envs_of_displays kind.tableModel hstore' hv).2, hproject]
    constructor
    · exact fun hpinned => Memory.eq_of_pinned hconstrained hpinned hreached
    · intro hid
      rw [hid]
      exact hreached

/-- An environment that is moved from one blueprint to another. -/
theorem Service.envs_inverse_pins_moved :
    let who : Identity := ⟨"w", "u"⟩
    let project : ProjectId := .ofNat 7
    let supply (first : Nat) : Supply :=
      ⟨.ofUnix 1700000000 0, fun n => .ofNat (first + n), project⟩
    let create (first id : Nat) : ServiceCall :=
      ⟨.reject, who, supply first, .create ⟨none, some "p", none,
        ⟨some ⟨.ofNat id⟩, .blueprint, none, [⟨"k", "v", .string, none⟩]⟩⟩⟩
    let pin (id : Nat) : PinRequest := ⟨project, [⟨"prod", ⟨.ofNat id⟩⟩]⟩
    let calls := [create 10 1, create 20 2, ⟨.reject, who, supply 30, .bind (pin 1)⟩]
    let s := ((Service.new .memory (.memory .empty)).run calls).2
    let moved := (s.handle .reject who (supply 40) (.bind (pin 2))).service
    ∃ old new, moved.Displays "w" old ∧ old.blueprint.id = ⟨.ofNat 1⟩ ∧ "prod" ∉ old.envs ∧
      moved.Displays "w" new ∧ new.blueprint.id = ⟨.ofNat 2⟩ ∧ "prod" ∈ new.envs := by
  intro who project supply create pin calls s moved
  let result (id : Nat) := (moved.handle .reject who (supply 50) (.get ⟨.ofNat id⟩ none)).result
  let seen (id : Nat) := (viewOf? (result id)).map fun v => (v.blueprint.id, v.blueprint.project)
  have hresults : (s.handle .reject who (supply 40) (.bind (pin 2))).result.toOption.isSome = true ∧
      seen 1 = some (⟨.ofNat 1⟩, project) ∧ seen 2 = some (⟨.ofNat 2⟩, project) := by
    decide +kernel
  obtain ⟨hok, hold, hnew⟩ := hresults
  obtain ⟨pins, hpins⟩ : ∃ pins,
      (s.handle .reject who (supply 40) (.bind (pin 2))).result = .ok pins := by
    cases hbound : (s.handle .reject who (supply 40) (.bind (pin 2))).result with
    | ok pins => exact ⟨pins, rfl⟩
    | error e =>
        rw [hbound] at hok
        cases hok
  have hdisplays : ∀ {id seenId}, seen id = some (seenId, project) → ∃ v, moved.Displays "w" v ∧
      v.blueprint.id = seenId ∧ v.blueprint.project = project := by
    intro id seenId hseen
    obtain ⟨v, hv, hplace⟩ := Option.map_eq_some_iff.mp hseen
    exact ⟨v, ⟨.reject, "u", supply 50, .get ⟨.ofNat id⟩ none, .view v, trivial, eq_of_viewOf? hv,
      List.mem_cons_self⟩, congrArg Prod.fst hplace, congrArg Prod.snd hplace⟩
  obtain ⟨old, holdDisplays, holdId, holdProject⟩ := hdisplays hold
  obtain ⟨new, hnewDisplays, hnewId, hnewProject⟩ := hdisplays hnew
  have hall := (Service.envs_inverse_pins .memory (.memory .empty) calls).2 .reject who
    (supply 40) (pin 2) pins hpins
  have hnamed := (hall new hnewDisplays hnewProject _ List.mem_cons_self).mpr hnewId
  have hnotNamed : "prod" ∉ old.envs := by
    intro hmem
    have hmoved := (hall old holdDisplays holdProject _ List.mem_cons_self).mp hmem
    exact absurd (holdId.symm.trans hmoved) (by decide)
  exact ⟨old, new, holdDisplays, holdId, hnotNamed, hnewDisplays, hnewId, hnamed⟩

end ConfigTimeline
