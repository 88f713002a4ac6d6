import ConfigTimeline.Proofs.Service.Directories
import ConfigTimeline.Proofs.Service.Granting
import ConfigTimeline.Proofs.Timeline.Ordering
import ConfigTimeline.Proofs.Timeline.Resolved

/-!
When environments are pinned, and what has been pinned then. Whether a request is granted can be told
from the tables before it: the project has to have a config, the targets have to be records of the
project, and none of them a mask if the policy says so. Beyond that only the identifiers that are drawn
may be in use, as the service does not choose them.
-/

namespace ConfigTimeline

namespace Pinning

variable {policy : MaskPolicy} {who : Identity} {now : Instant} {r : PinRequest} {ids : Nat → Ulid}
  {n n' : Nat} {t t' : Memory.Tables} {outcome : Except ServiceError (List Pin)}

namespace Decided

variable (h : Decided policy who now r ids n t outcome t' n')

include h

theorem noConfig_iff :
    outcome = .error (.notFound (.config r.project)) ↔
      t.configOf who.workspace r.project = none := by
  cases h with
  | noConfig _ _ hnone => simp [hnone]
  | refused config e _ _ hconfig hchecked => cases hchecked <;> simp [hconfig]
  | clash config clash _ _ hconfig => simp [hconfig]
  | bound config hconfig => simp [hconfig]

theorem missing_iff :
    (∃ absent, outcome = .error (.notFound (.blueprints absent))) ↔
      t.configOf who.workspace r.project ≠ none ∧
        ∃ id ∈ r.wanted, ¬t.HasRecord who.workspace r.project id := by
  cases h with
  | noConfig _ _ hnone => simp [hnone]
  | refused config e _ _ hconfig hchecked =>
      cases hchecked with
      | missing absent hfirst hsome => simpa [hconfig] using hsome
      | masks masks hknown => simpa [hconfig] using hknown
  | clash config clash _ _ hconfig hchecked =>
      cases hchecked with
      | passed hknown => simpa [hconfig] using hknown
  | bound config hconfig hchecked =>
      cases hchecked with
      | passed hknown => simpa [hconfig] using hknown

theorem firstSeen_missing {absent : List BlueprintId}
    (herror : outcome = .error (.notFound (.blueprints absent))) :
    FirstSeen r.wanted (fun id => ¬t.HasRecord who.workspace r.project id) absent := by
  cases h with
  | noConfig => cases herror
  | refused config e _ _ hconfig hchecked =>
      obtain rfl := Except.error.inj herror
      cases hchecked with
      | missing _ hfirst => exact hfirst
  | clash => cases herror
  | bound => cases herror

theorem masks_iff :
    (∃ masks, outcome = .error (.notFound (.masksAsTargets masks))) ↔
      t.configOf who.workspace r.project ≠ none ∧
        (∀ id ∈ r.wanted, t.HasRecord who.workspace r.project id) ∧ policy = .reject ∧
          ∃ id ∈ r.wanted, t.HasMask who.workspace r.project id := by
  cases h with
  | noConfig _ _ hnone => simp [hnone]
  | refused config e _ _ hconfig hchecked =>
      cases hchecked with
      | missing absent hfirst hsome =>
          obtain ⟨id, hid, hunknown⟩ := hsome
          refine iff_of_false (by simp) ?_
          rintro ⟨-, hknown, -⟩
          exact hunknown (hknown id hid)
      | masks masks hknown hpolicy hfirst hsome =>
          exact iff_of_true ⟨masks, rfl⟩ ⟨by simp [hconfig], hknown, hpolicy, hsome⟩
  | clash config clash _ _ hconfig hchecked =>
      cases hchecked with
      | passed hknown hmasks =>
          refine iff_of_false (by simp) ?_
          rintro ⟨-, -, hpolicy, id, hid, hmask⟩
          exact hmasks hpolicy id hid hmask
  | bound config hconfig hchecked =>
      cases hchecked with
      | passed hknown hmasks =>
          refine iff_of_false (by simp) ?_
          rintro ⟨-, -, hpolicy, id, hid, hmask⟩
          exact hmasks hpolicy id hid hmask

theorem firstSeen_masks {masks : List BlueprintId}
    (herror : outcome = .error (.notFound (.masksAsTargets masks))) :
    FirstSeen r.wanted (t.HasMask who.workspace r.project) masks := by
  cases h with
  | noConfig => cases herror
  | refused config e _ _ hconfig hchecked =>
      obtain rfl := Except.error.inj herror
      cases hchecked with
      | masks _ _ _ hfirst => exact hfirst
  | clash => cases herror
  | bound => cases herror

theorem exists_pins (hconfig : t.configOf who.workspace r.project ≠ none)
    (hknown : ∀ id ∈ r.wanted, t.HasRecord who.workspace r.project id)
    (hmasks : policy = .reject → ∀ id ∈ r.wanted, ¬t.HasMask who.workspace r.project id)
    (hfresh : Fresh ids n (r.unpinned t who.workspace).length t who.workspace) :
    ∃ pins, outcome = .ok pins := by
  cases h with
  | noConfig _ _ hnone => exact absurd hnone hconfig
  | refused config e _ _ _ hchecked =>
      exact absurd hchecked ((Checked.passed hknown hmasks).not_error rfl e)
  | clash config clash _ _ _ _ hused => exact absurd hfresh hused
  | bound => exact ⟨_, rfl⟩

/-- Nothing goes wrong but what is missing, unless an identifier is in use. -/
theorem error_cases {e : ServiceError} (herror : outcome = .error e) :
    (∃ what, e = .notFound what) ∨ (∃ clash, e = .violation (.clash clash)) ∧
      ¬Fresh ids n (r.unpinned t who.workspace).length t who.workspace := by
  cases h with
  | noConfig =>
      obtain rfl := Except.error.inj herror
      exact Or.inl ⟨_, rfl⟩
  | refused config e _ _ hconfig hchecked =>
      obtain rfl := Except.error.inj herror
      cases hchecked with
      | missing => exact Or.inl ⟨_, rfl⟩
      | masks => exact Or.inl ⟨_, rfl⟩
  | clash config clash _ _ hconfig hchecked hused =>
      obtain rfl := Except.error.inj herror
      exact Or.inr ⟨⟨clash, rfl⟩, hused⟩
  | bound => cases herror

end Decided

/-- A request that has been granted is granted anew, and then finds its pins where it would have
them. -/
theorem Decided.again {later : Instant} {ids' : Nat → Ulid} {config : Config} {t'' : Memory.Tables}
    (hnames : r.names.Nodup) (hconfig : t.configOf who.workspace r.project = some config)
    (hchecked : Checked policy who.workspace r t (.ok ()))
    (hafter : t' = t.bound who now r config.id ids 0)
    (h : Decided policy who later r ids' 0 t' outcome t'' n') :
    outcome = .ok ((t'.pinsFor who.workspace r).map (·.renewed later)) ∧
      t'' = t'.renewed who.workspace r later ∧ n' = 0 := by
  subst hafter
  have hunpinned : r.unpinned (t.bound who now r config.id ids 0) who.workspace = [] :=
    Memory.unpinned_bound
  cases h with
  | noConfig _ _ hnone => cases hconfig.symm.trans hnone
  | refused config' e _ _ _ hrefused =>
      have hsame : (t.bound who now r config.id ids 0).blueprints = t.blueprints := rfl
      exact absurd hrefused (hchecked.not_error hsame e)
  | clash config' clash _ _ _ _ hused =>
      -- No identifier is drawn, so that none can be in use.
      rw [hunpinned] at hused
      exact absurd ⟨fun _ h => absurd h (Nat.not_lt_zero _), fun _ h => absurd h (Nat.not_lt_zero _)⟩
        hused
  | bound config' =>
      rw [Granted.bound_again hnames, Memory.pinsFor_renewed, hunpinned]
      exact ⟨rfl, rfl, rfl⟩

end Pinning

/-- How a valid request to pin environments ends, on a store that can answer. -/
theorem StoreKind.bind_settled {kind : StoreKind} {s : Service kind.backend} {t : Memory.Tables}
    (hstore : kind.tableModel.Holds s.store t) (hdated : kind = .database → t.Dated)
    (policy : MaskPolicy) (who : Identity) {supply : Supply}
    (hnow : kind = .database → supply.now.FourDigitYear) {r : PinRequest}
    (hvalid : r.validate = .ok ()) :
    ∃ outcome t', (s.handle policy who supply (.bind r)).result = outcome.map .pins ∧
      kind.tableModel.Holds (s.handle policy who supply (.bind r)).service.store t' ∧
      Pinning.Decided policy who supply.now r supply.ids 0 t outcome t'
        (s.handle policy who supply (.bind r)).drawn := by
  have hsure : ∀ c : Call, c.skips = 0 → kind.tableModel.Sure t c :=
    fun _ hskips => sure_of_dated hdated hskips
  have hsureAfter : ∀ config, ∀ c : Call, c.skips = 0 →
      kind.tableModel.Sure (t.bound who supply.now r config supply.ids 0) c :=
    fun _ _ hskips => sure_of_dated
      (fun hkind => Repinned.of_bound.dated (hnow hkind) (hdated hkind)) hskips
  obtain ⟨outcome, t', hresult, hstore', hdecided, -⟩ :=
    kind.tableModel.bind_settled hstore hvalid (fun _ _ _ _ h => h.of_error)
      (Pinning.ensures_bind (m := Memory.backend.start .write t) rfl
        (kind.tableModel.constrained (kind.tableModel.start .write hstore))
        (PinRequest.nodup_names hvalid) hsure hsureAfter)
  exact ⟨outcome, t', hresult, hstore', hdecided⟩

/-- After any calls, on either kind of store, a valid request to pin environments is refused just where
the tables say so. Without a config it is refused for that; then for the targets that are no records of
the project; then, if the policy asks for it, for those that are masks. What is reported are all such
targets, each once, in the order in which the request first names them. A request that passes is
granted, unless an identifier drawn for a pin is in use. Nothing else can go wrong, and whatever does
leaves the store as it was. -/
theorem Service.bind_decided (kind : StoreKind) (directory : Directory) (calls : List ServiceCall)
    (policy : MaskPolicy) (who : Identity) (supply : Supply) (r : PinRequest)
    (hclock : kind = .database →
      supply.now.FourDigitYear ∧ ∀ call ∈ calls, call.supply.now.FourDigitYear)
    (hvalid : r.validate = .ok ()) :
    let s := ((Service.new kind directory).run calls).2
    let bound := s.handle policy who supply (.bind r)
    ∃ t, kind.tableModel.Holds s.store t ∧
      let configured := t.configOf who.workspace r.project ≠ none
      let known := t.HasRecord who.workspace r.project
      let masked := t.HasMask who.workspace r.project
      let fresh :=
        Pinning.Fresh supply.ids 0 (r.unpinned t who.workspace).length t who.workspace
      (bound.result = .error (.notFound (.config r.project)) ↔ ¬configured) ∧
      ((∃ absent, bound.result = .error (.notFound (.blueprints absent))) ↔
        configured ∧ ∃ id ∈ r.wanted, ¬known id) ∧
      (∀ absent, bound.result = .error (.notFound (.blueprints absent)) →
        FirstSeen r.wanted (fun id => ¬known id) absent) ∧
      ((∃ masks, bound.result = .error (.notFound (.masksAsTargets masks))) ↔
        configured ∧ (∀ id ∈ r.wanted, known id) ∧ policy = .reject ∧
          ∃ id ∈ r.wanted, masked id) ∧
      (∀ masks, bound.result = .error (.notFound (.masksAsTargets masks)) →
        FirstSeen r.wanted masked masks) ∧
      (configured → (∀ id ∈ r.wanted, known id) →
        (policy = .reject → ∀ id ∈ r.wanted, ¬masked id) → fresh →
          ∃ pins, bound.result = .ok (.pins pins)) ∧
      ∀ e, bound.result = .error e →
        ((∃ what, e = .notFound what) ∨ (∃ clash, e = .violation (.clash clash)) ∧ ¬fresh) ∧
          bound.service.store = s.store := by
  intro s bound
  obtain ⟨t, hstore, hrecorded⟩ := kind.run_recorded directory calls
  obtain ⟨outcome, t', hresult, -, hdecided⟩ := StoreKind.bind_settled hstore
    (fun hkind => hrecorded.dated_of_clock (hclock hkind).2) policy who
    (fun hkind => (hclock hkind).1) hvalid
  have herror : ∀ e, bound.result = .error e ↔ outcome = .error e := by
    intro e
    rw [show bound.result = outcome.map .pins from hresult]
    cases outcome <;> simp [Except.map]
  refine ⟨t, hstore, ?_⟩
  simp only [herror, ne_eq, not_not]
  refine ⟨hdecided.noConfig_iff, hdecided.missing_iff, ?_, hdecided.masks_iff, ?_, ?_, ?_⟩
  · intro absent habsent
    exact hdecided.firstSeen_missing habsent
  · intro masks hmasks
    exact hdecided.firstSeen_masks hmasks
  · intro hconfig hknown hmasks hfresh
    obtain ⟨pins, rfl⟩ := hdecided.exists_pins hconfig hknown hmasks hfresh
    exact ⟨pins, hresult⟩
  · intro e hfailed
    exact ⟨hdecided.error_cases hfailed,
      Service.store_of_failed s policy who supply kind.sectors (.bind r) ((herror e).mpr hfailed)⟩

/-- A project with a blueprint and a mask: targets that are missing are reported before one that is a
mask, a mask is reported where there is nothing else, and a blueprint can be pinned. -/
theorem Service.bind_decided_named :
    let who : Identity := ⟨"w", "u"⟩
    let project : ProjectId := .ofNat 7
    let supply (first : Nat) : Supply :=
      ⟨.ofUnix 1700000000 0, fun n => .ofNat (first + n), project⟩
    let create (first id : Nat) (kind : BlueprintKind) : ServiceCall :=
      ⟨.reject, who, supply first, .create ⟨none, some "p", none,
        ⟨some ⟨.ofNat id⟩, kind, none, [⟨"k", "v", .string, none⟩]⟩⟩⟩
    let calls := [create 10 1 .blueprint, create 20 2 .mask]
    let s := ((Service.new .memory (.memory .empty)).run calls).2
    let pin (ids : List Nat) : PinRequest :=
      ⟨project, ids.zipIdx.map fun (id, i) => ⟨toString i, ⟨.ofNat id⟩⟩⟩
    let result (ids : List Nat) := (s.handle .reject who (supply 30) (.bind (pin ids))).result
    (∃ absent, result [9, 2, 8, 1, 9] = .error (.notFound (.blueprints absent)) ∧ absent.Nodup) ∧
      (∃ masks, result [1, 2, 2] = .error (.notFound (.masksAsTargets masks)) ∧ masks.Nodup) ∧
      ∃ pins, result [1, 1] = .ok (.pins pins) := by
  intro who project supply create calls s pin result
  have hdecided := fun ids => Service.bind_decided .memory (.memory .empty) calls .reject who
    (supply 30) (pin ids) (fun h => by cases h)
  obtain ⟨t, ⟨hstore, -⟩, -, hmissing, hfirst, -⟩ := hdecided [9, 2, 8, 1, 9] (by decide +kernel)
  obtain rfl : s.store = t := hstore
  obtain ⟨t, ⟨hstore, -⟩, -, -, -, hmasks, hfirstMasks, -⟩ := hdecided [1, 2, 2] (by decide +kernel)
  obtain rfl : s.store = t := hstore
  obtain ⟨t, ⟨hstore, -⟩, -, -, -, -, -, hgranted, -⟩ := hdecided [1, 1] (by decide +kernel)
  obtain rfl : s.store = t := hstore
  obtain ⟨absent, habsent⟩ := hmissing.mpr (by
    unfold Memory.Tables.HasRecord
    decide +kernel)
  obtain ⟨masks, hmasked⟩ := hmasks.mpr (by
    unfold Memory.Tables.HasRecord Memory.Tables.HasMask
    decide +kernel)
  refine ⟨⟨absent, habsent, (hfirst absent habsent).nodup⟩,
    ⟨masks, hmasked, (hfirstMasks masks hmasked).nodup⟩, ?_⟩
  have hfresh : Pinning.Fresh (supply 30).ids 0 ((pin [1, 1]).unpinned s.store "w").length s.store
      "w" := (Pinning.fresh_iff _ _ _ _ _).mpr (by decide +kernel)
  exact hgranted (by decide +kernel) (by unfold Memory.Tables.HasRecord; decide +kernel)
    (by unfold Memory.Tables.HasMask; decide +kernel) hfresh

/-- After any calls, on either kind of store, a request to pin environments that is granted has the pins
of its environments, each pointed at its target, and no others are touched. Granted anew, right after,
it has the same pins: no row is added, no identifier drawn, and no environment pinned to anything else.
Only the time at which the pins were last written is that of the later call. -/
theorem Service.bind_granted (kind : StoreKind) (directory : Directory) (calls : List ServiceCall)
    (policy : MaskPolicy) (who : Identity) (supply : Supply) (r : PinRequest) (reply : Reply) :
    let s := ((Service.new kind directory).run calls).2
    let bound := s.handle policy who supply (.bind r)
    bound.result = .ok reply →
      ∃ t t' config pins, kind.tableModel.Holds s.store t ∧
        kind.tableModel.Holds bound.service.store t' ∧
        ⟨who.workspace, config⟩ ∈ t.configs ∧ config.project = r.project ∧ reply = .pins pins ∧
        Granted who supply.now r config.id supply.ids t t' pins ∧
        bound.drawn = (r.unpinned t who.workspace).length ∧
        ∀ later, (kind = .database → later.now.FourDigitYear ∧ supply.now.FourDigitYear ∧
            ∀ call ∈ calls, call.supply.now.FourDigitYear) →
          let again := bound.service.handle policy who later (.bind r)
          let renewed := t'.renewed who.workspace r later.now
          again.result = .ok (.pins (pins.map (·.renewed later.now))) ∧ again.drawn = 0 ∧
            kind.tableModel.Holds again.service.store renewed ∧
            (∀ workspace project env b, renewed.Pinned workspace project env b ↔
              t'.Pinned workspace project env b) ∧
            (later.now = supply.now → renewed = t') := by
  intro s bound hok
  obtain ⟨t, hstore, hrecorded⟩ := kind.run_recorded directory calls
  have hvalid : r.validate = .ok () := by
    change (s.bind policy who supply r).result = .ok reply at hok
    unfold Service.bind at hok
    cases hvalidate : r.validate with
    | ok => rfl
    | error reason =>
        rw [hvalidate] at hok
        cases hok
  obtain ⟨t', hstore', ⟨e, herror, -⟩ | ⟨pins, hresult, hdecided⟩⟩ :=
    kind.tableModel.bind_ends_decided hstore policy who supply hvalid
  · cases hok.symm.trans herror
  obtain rfl := Except.ok.inj (hok.symm.trans hresult)
  obtain ⟨config, hconfig, hchecked, hafter, rfl, rfl, hdrawn⟩ := hdecided.of_ok
  have hconstrained := kind.tableModel.constrained (kind.tableModel.start .write hstore)
  obtain ⟨hrow, hproject⟩ := (Memory.configOf_eq_some hconstrained).mp hconfig
  refine ⟨t, _, config, _, hstore, hstore', hrow, hproject, rfl, .of_bound hafter,
    hdrawn.trans (Nat.zero_add _), ?_⟩
  intro later hdates again renewed
  have hdated : kind = .database → (t.bound who supply.now r config.id supply.ids 0).Dated :=
    fun hkind => Repinned.of_bound.dated (hdates hkind).2.1
      (hrecorded.dated_of_clock (hdates hkind).2.2)
  obtain ⟨outcome, t'', hresult', hstore'', hdecided'⟩ := StoreKind.bind_settled hstore' hdated
    policy who (fun hkind => (hdates hkind).1) hvalid
  obtain ⟨rfl, rfl, hnone⟩ :=
    hdecided'.again (PinRequest.nodup_names hvalid) hconfig hchecked rfl
  refine ⟨hresult', hnone, hstore'', fun _ _ _ _ => Memory.pinned_renewed, ?_⟩
  intro hsame
  apply Memory.renewed_eq_self
  intro row hrow hasks
  obtain ⟨target, -, -, -, -, hwritten⟩ := Granted.target_of_asks hrow hasks
  exact hwritten.trans hsame.symm

/-- An environment that another user moves and one that is new, on a database, and the same a second
later. -/
theorem Service.bind_granted_twice :
    let maker : Identity := ⟨"w", "u"⟩
    let mover : Identity := ⟨"w", "v"⟩
    let project : ProjectId := .ofNat 7
    let supply (seconds : Int) (first : Nat) : Supply :=
      ⟨.ofUnix seconds 0, fun n => .ofNat (first + n), project⟩
    let create (first id : Nat) : ServiceCall :=
      ⟨.reject, maker, supply 1700000000 first, .create ⟨none, some "p", none,
        ⟨some ⟨.ofNat id⟩, .blueprint, none, [⟨"k", "v", .string, none⟩]⟩⟩⟩
    let pin (targets : List PinTarget) : Operation := .bind ⟨project, targets⟩
    let calls := [create 10 1, create 20 2,
      ⟨.reject, maker, supply 1700000000 30, pin [⟨"prod", ⟨.ofNat 1⟩⟩]⟩]
    let s := ((Service.new .database (.memory .empty)).run calls).2
    let operation := pin [⟨"qa", ⟨.ofNat 2⟩⟩, ⟨"prod", ⟨.ofNat 2⟩⟩]
    let now := supply 1700000001 40
    let bound := s.handle .reject mover now operation
    let later := supply 1700000002 50
    let again := bound.service.handle .reject mover later operation
    let pins : List Pin :=
      [⟨⟨.ofNat 30⟩, project, ⟨.ofNat 10⟩, "prod", ⟨.ofNat 2⟩,
          ⟨"u", .ofUnix 1700000000 0, "v", now.now⟩⟩,
        ⟨⟨.ofNat 40⟩, project, ⟨.ofNat 10⟩, "qa", ⟨.ofNat 2⟩, ⟨"v", now.now, "v", now.now⟩⟩]
    bound.result = .ok (.pins pins) ∧ (pins.map (·.env)).Pairwise (· < ·) ∧
      again.result = .ok (.pins (pins.map (·.renewed later.now))) ∧ again.drawn = 0 := by
  intro maker mover project supply create pin calls s operation now bound later again pins
  have hok : bound.result = .ok (.pins pins) := by decide +kernel
  obtain ⟨t, t', config, answer, -, -, -, -, hanswer, hgranted, -, hagain⟩ :=
    Service.bind_granted .database (.memory .empty) calls .reject mover now
      ⟨project, [⟨"qa", ⟨.ofNat 2⟩⟩, ⟨"prod", ⟨.ofNat 2⟩⟩]⟩ (.pins pins) hok
  obtain rfl := Reply.pins.inj hanswer
  obtain ⟨hresult, hdrawn, -⟩ := hagain later (fun _ => by decide +kernel)
  exact ⟨hok, List.pairwise_map.mpr hgranted.sorted, hresult, hdrawn⟩

end ConfigTimeline
