import ConfigTimeline.Proofs.Service.Effects
import ConfigTimeline.Proofs.Service.Masking

/-!
What the service answers to an operation that reads, told from what its action ensures. Where the
store is sure of its answers, the outcome is the one that is ensured. Where it is not, the operation
may fail instead; but an answer that is given is the one that is ensured all the same.
-/

namespace ConfigTimeline

namespace TableModel

variable {b : Backend} (model : TableModel b) {s : Service b} {t : Memory.Tables} {mode : Mode}
  {ids : Nat → Ulid} {α : Type} {action : Action α} (reply : α → Reply)

/-- An action that is run as a unit of work has an outcome that it ensures. -/
theorem runAction_outcome (hstore : model.Holds s.store t) {Q : Except ServiceError α → Prop}
    (h : action.Ensures model.Sure ids (fun outcome _ _ => Q outcome)
      (Memory.backend.start mode t) 0) :
    ∃ outcome, Q outcome ∧
      (s.runAction mode ids (reply <$> action)).result = outcome.map reply := by
  obtain ⟨_, -, -, hQ⟩ := model.run (model.start mode hstore) h
  refine ⟨_, hQ, ?_⟩
  change (b.inUnit mode ids (reply <$> action) s.store).result = _
  rw [b.result_inUnit, b.result_map]

/-- An action that answers does so as it would if the store were sure of its answers. -/
theorem runAction_ok (hstore : model.Holds s.store t) {workspace : String} {P : Call → Prop}
    (hmakes : action.Makes workspace P) {Q : α → Prop}
    (h : action.Ensures (fun _ _ => True) ids (fun outcome _ _ => ∀ a, outcome = .ok a → Q a)
      (Memory.backend.start mode t) 0) {answer : Reply}
    (hresult : (s.runAction mode ids (reply <$> action)).result = .ok answer) :
    ∃ a, answer = reply a ∧ Q a := by
  obtain ⟨outcome, houtcome, hsame⟩ := model.runAction_outcome reply
    (Q := fun outcome => (∃ e, outcome = .error e) ∨ ∀ a, outcome = .ok a → Q a)
    hstore (hmakes.ensures_of_sure h)
  rw [hresult] at hsame
  cases outcome with
  | error e => cases hsame
  | ok a =>
      rcases houtcome with ⟨e, herror⟩ | hok
      · cases herror
      · exact ⟨a, Except.ok.inj hsame, hok a rfl⟩

end TableModel

namespace Service

variable {b : Backend} (s : Service b) (workspace : String) (supply : Supply)
  (action : Action BlueprintView)

theorem view_none :
    s.view workspace supply action none = s.runAction .read supply.ids (.view <$> action) := by
  have hplain : action >>= Resolution.masked workspace none = action := bind_pure action
  unfold view
  rw [hplain]

end Service

/-- What a record brought in, asked for by its id. -/
theorem TableModel.exists_delta {b : Backend} (model : TableModel b) {s : Service b}
    {t : Memory.Tables} (hstore : model.Holds s.store t) (hlegible : t.Legible model.Sure)
    (policy : MaskPolicy) (who : Identity) (supply : Supply) {record : Blueprint}
    (hfound : t.blueprintById who.workspace record.id = some record) :
    ∃ rows, rows.Perm (t.delta who.workspace record.id) ∧
      (s.handle policy who supply (.delta record.id)).result = .ok (.view ⟨record, [], rows⟩) := by
  have hensures : (Resolution.delta who.workspace record.id).Ensures model.Sure supply.ids
      (fun outcome _ _ => ∃ rows, rows.Perm (t.delta who.workspace record.id) ∧
        outcome = .ok ⟨record, [], rows⟩)
      (Memory.backend.start .read t) 0 := by
    refine (Resolution.ensures_delta (m := Memory.backend.start .read t) hlegible record.id).mono ?_
    rintro outcome m n - ⟨-, hdelta⟩
    have htables : (Memory.backend.start .read t).tables = t := rfl
    rw [htables, hfound] at hdelta
    exact hdelta
  obtain ⟨_, ⟨rows, hrows, rfl⟩, hresult⟩ := model.runAction_outcome .view hstore hensures
  refine ⟨rows, hrows, ?_⟩
  change (s.view who.workspace supply (Resolution.delta who.workspace record.id) none).result = _
  rw [Service.view_none]
  exact hresult

/-- Nothing but the mask can be missing where a mask is laid over what is there. -/
theorem Memory.Tables.Overlays.missing_eq {t : Tables} {workspace : String} {mask : BlueprintId}
    {v : BlueprintView} {what : NotFound}
    (h : t.Overlays workspace mask v (.error (.notFound what))) :
    what = .mask mask v.blueprint.project := by
  unfold Overlays lookUpMask at h
  cases hfound : (t.blueprintById workspace mask).filter
      fun b => b.project == v.blueprint.project && b.kind == .mask with
  | none =>
      rw [hfound] at h
      cases h
      rfl
  | some stored =>
      rw [hfound] at h
      obtain ⟨rows, -, hoverlaid⟩ := h
      cases hoverlaid

/-- A page of a project that has a config is answered where the store can skip the records before. -/
theorem TableModel.result_history {b : Backend} (model : TableModel b) {s : Service b}
    {t : Memory.Tables} (hstore : model.Holds s.store t) (hlegible : t.Legible model.Sure)
    (policy : MaskPolicy) (who : Identity) (supply : Supply) {project : ProjectId}
    (hconfig : (t.configOf who.workspace project).isSome = true) {page size : Nat}
    {request : PageRequest} (hrequest : PageRequest.of page size = .ok request)
    (hcounted : model.Sure t (.history project request.size request.offset)) :
    (s.handle policy who supply (.history project page size)).result =
      .ok (.page ⟨request.page, request.size,
        (t.newestFirst who.workspace project .blueprint).length,
        t.history who.workspace project request.size request.offset⟩) := by
  obtain ⟨config, hconfig⟩ := Option.isSome_iff_exists.mp hconfig
  have hensures : (Resolution.history who.workspace project request).Ensures model.Sure supply.ids
      (fun outcome _ _ => outcome = .ok ⟨request.page, request.size,
        (t.newestFirst who.workspace project .blueprint).length,
        t.history who.workspace project request.size request.offset⟩)
      (Memory.backend.start .read t) 0 := by
    refine (Resolution.ensures_history (m := Memory.backend.start .read t) hlegible project request
      hcounted).mono ?_
    rintro outcome m n - ⟨-, hpage⟩
    have htables : (Memory.backend.start .read t).tables = t := rfl
    rw [htables, hconfig] at hpage
    exact hpage
  obtain ⟨_, rfl, hresult⟩ := model.runAction_outcome .page hstore hensures
  change (s.history who.workspace supply project page size).result = _
  unfold Service.history
  rw [hrequest]
  exact hresult

/-- A page that is answered is part of the history of the project. This is so whether the store is
sure of its answers or not. -/
theorem TableModel.page_of_ok {b : Backend} (model : TableModel b) {s : Service b}
    {t : Memory.Tables} (hstore : model.Holds s.store t) (hlegible : t.Legible fun _ _ => True)
    {policy : MaskPolicy} {who : Identity} {supply : Supply} {project : ProjectId} {page size : Nat}
    {reply : Reply}
    (hresult : (s.handle policy who supply (.history project page size)).result = .ok reply) :
    ∃ p limit offset, reply = .page p ∧ p.content = t.history who.workspace project limit offset := by
  change (s.history who.workspace supply project page size).result = .ok reply at hresult
  unfold Service.history at hresult
  cases hrequest : PageRequest.of page size with
  | error reason =>
      rw [hrequest] at hresult
      cases hresult
  | ok request =>
      rw [hrequest] at hresult
      have hensures : (Resolution.history who.workspace project request).Ensures (fun _ _ => True)
          supply.ids (fun outcome _ _ => ∀ p, outcome = .ok p →
            p.content = t.history who.workspace project request.size request.offset)
          (Memory.backend.start .read t) 0 := by
        refine (Resolution.ensures_history (m := Memory.backend.start .read t) hlegible project
          request trivial).mono ?_
        rintro outcome m n - ⟨-, hpage⟩ p rfl
        split at hpage
        · cases hpage
        · rw [Except.ok.inj hpage]
          rfl
      obtain ⟨p, rfl, hcontent⟩ := model.runAction_ok .page hstore
        (Resolution.reads_history who.workspace project request) hensures hresult
      exact ⟨p, request.size, request.offset, rfl, hcontent⟩

theorem Memory.Tables.Shows.exists_shown {t : Tables} {workspace : String}
    {found : Except NotFound Blueprint} {v : BlueprintView} (h : t.Shows workspace found (.ok v)) :
    ∃ b, found = .ok b ∧ t.Shown workspace b v := by
  cases found with
  | error what => cases h
  | ok b =>
      obtain ⟨shown, hsame, hshown⟩ := h
      obtain rfl : v = shown := Except.ok.inj hsame
      exact ⟨b, rfl, hshown⟩

/-- A mask, if there is one, changes nothing but the values. -/
theorem Resolution.ensures_overlaid {sure : Memory.Tables → Call → Prop} {ids : Nat → Ulid}
    {m : Memory.Work} {n : Nat} {workspace : String} (h : m.tables.Legible sure)
    (mask : Option BlueprintId) (v : BlueprintView) :
    (masked workspace mask v).Ensures sure ids
      (fun outcome _ _ => ∀ shown, outcome = .ok shown → ∃ values, shown = { v with values }) m
      n := by
  cases mask with
  | none =>
      rintro shown hok
      exact ⟨v.values, (Except.ok.inj hok).symm⟩
  | some mask =>
      refine (ensures_masked h mask v).mono ?_
      rintro outcome m' n' - ⟨-, hoverlays⟩ shown rfl
      unfold Memory.Tables.Overlays at hoverlays
      split at hoverlays
      · cases hoverlays
      · obtain ⟨rows, -, hshown⟩ := hoverlays
        exact ⟨_, Except.ok.inj hshown⟩

namespace BlueprintRead

theorem reads_action (workspace : String) (read : BlueprintRead) :
    (read.action workspace).Makes workspace Call.Reads := by
  cases read with
  | latest project => exact Resolution.reads_effective workspace project none
  | get blueprint => exact Resolution.reads_atBlueprint workspace blueprint
  | env project name => exact Resolution.reads_atEnvironment workspace project name

variable {b : Backend} {model : TableModel b} {s : Service b} {t : Memory.Tables}

/-- The outcome of a read without a mask, given what is looked up for it. -/
theorem exists_outcome (hstore : model.Holds s.store t) (hlegible : t.Legible model.Sure)
    (policy : MaskPolicy) (who : Identity) (supply : Supply) (read : BlueprintRead) :
    ∃ outcome, t.Shows who.workspace (read.lookUp t who.workspace) outcome ∧
      (s.handle policy who supply (read.operation none)).result = outcome.map Reply.view := by
  rw [read.handle_operation, Service.view_none]
  refine model.runAction_outcome .view hstore ((read.ensures_action (m := Memory.backend.start .read t)
    hlegible).mono ?_)
  intro outcome _ _ _ hshows
  exact hshows.2

/-- What a read without a mask shows is what is looked up for it. -/
theorem exists_shown (hstore : model.Holds s.store t) (hlegible : t.Legible model.Sure)
    {policy : MaskPolicy} {who : Identity} {supply : Supply} {read : BlueprintRead}
    {v : BlueprintView}
    (hresult : (s.handle policy who supply (read.operation none)).result = .ok (.view v)) :
    ∃ b, read.lookUp t who.workspace = .ok b ∧ t.Shown who.workspace b v := by
  obtain ⟨outcome, hshows, hsame⟩ := exists_outcome hstore hlegible policy who supply read
  rw [hresult] at hsame
  cases outcome with
  | error e => cases hsame
  | ok shown =>
      obtain rfl : v = shown := Reply.view.inj (Except.ok.inj hsame)
      exact hshows.exists_shown

/-- A blueprint that is looked up with success is shown. -/
theorem shows_of_found (hstore : model.Holds s.store t) (hlegible : t.Legible model.Sure)
    (policy : MaskPolicy) (who : Identity) (supply : Supply) (read : BlueprintRead)
    {b : Blueprint} (hfound : read.lookUp t who.workspace = .ok b) :
    ∃ v, (s.handle policy who supply (read.operation none)).result = .ok (.view v) ∧
      t.Shown who.workspace b v := by
  obtain ⟨outcome, hshows, hsame⟩ := exists_outcome hstore hlegible policy who supply read
  rw [hfound] at hshows
  obtain ⟨v, rfl, hshown⟩ := hshows
  exact ⟨v, hsame, hshown⟩

/-- A read that answers, with a mask or without, shows what is looked up for it but for the values.
This is so whether the store is sure of its answers or not. -/
theorem shown_of_ok (hstore : model.Holds s.store t)
    (hlegible : t.Legible fun _ _ => True) {policy : MaskPolicy} {who : Identity} {supply : Supply}
    {read : BlueprintRead} {mask : Option BlueprintId} {reply : Reply}
    (hresult : (s.handle policy who supply (read.operation mask)).result = .ok reply) :
    ∃ b v values, read.lookUp t who.workspace = .ok b ∧ t.Shown who.workspace b v ∧
      reply = .view { v with values } := by
  rw [read.handle_operation] at hresult
  have hmakes : (read.action who.workspace >>= Resolution.masked who.workspace mask).Makes
      who.workspace Call.Reads :=
    Program.makes_bind (read.reads_action who.workspace) (Resolution.reads_masked who.workspace mask)
  have hensures : (read.action who.workspace >>= Resolution.masked who.workspace mask).Ensures
      (fun _ _ => True) supply.ids (fun outcome _ _ => ∀ shown, outcome = .ok shown →
        ∃ b v values, read.lookUp t who.workspace = .ok b ∧ t.Shown who.workspace b v ∧
          shown = { v with values })
      (Memory.backend.start .read t) 0 := by
    refine Program.ensures_bind
      ((read.ensures_action (m := Memory.backend.start .read t) hlegible).mono ?_)
    rintro (e | v) m n - ⟨rfl, hshows⟩
    · intro shown hok
      cases hok
    · obtain ⟨b, hfound, hshown⟩ := hshows.exists_shown
      exact (Resolution.ensures_overlaid hlegible mask v).mono fun _ _ _ _ hoverlaid shown hok =>
        (hoverlaid shown hok).elim fun values hvalues => ⟨b, v, values, hfound, hshown, hvalues⟩
  obtain ⟨shown, rfl, b, v, values, hfound, hshown, rfl⟩ :=
    model.runAction_ok .view hstore hmakes hensures hresult
  exact ⟨b, v, values, hfound, hshown, rfl⟩

/-- Whatever a read reports as missing, save for the mask, is what is looked up in vain. -/
theorem missing_iff (hstore : model.Holds s.store t) (hlegible : t.Legible model.Sure)
    (policy : MaskPolicy) (who : Identity) (supply : Supply) (read : BlueprintRead)
    (mask : Option BlueprintId) {what : NotFound} (hother : ∀ id project, what ≠ .mask id project) :
    (s.handle policy who supply (read.operation mask)).result = .error (.notFound what) ↔
      read.lookUp t who.workspace = .error what := by
  obtain ⟨outcome, hshows, hresult⟩ := exists_outcome hstore hlegible policy who supply read
  rw [handle_operation] at hresult ⊢
  cases hfound : read.lookUp t who.workspace with
  | error missing =>
      rw [hfound] at hshows
      obtain rfl : outcome = .error (.notFound missing) := hshows
      rw [Service.view_error s who.workspace supply hresult]
      simp
  | ok b =>
      rw [hfound] at hshows
      obtain ⟨v, rfl, -⟩ := hshows
      refine iff_of_false ?_ (fun h => by cases h)
      cases mask with
      | none =>
          rw [hresult]
          exact fun h => by cases h
      | some mask =>
          obtain ⟨-, overlaid, hoverlays, hmasked⟩ :=
            model.view_overlays hstore hlegible (read.ensures_action hlegible) hresult mask
          rw [hmasked]
          cases overlaid with
          | ok shown => exact fun h => by cases h
          | error e =>
              intro herror
              obtain rfl : e = .notFound what := Except.error.inj herror
              exact hother _ _ hoverlays.missing_eq

end BlueprintRead

end ConfigTimeline
