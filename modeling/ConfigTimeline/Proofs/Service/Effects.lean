import ConfigTimeline.Proofs.Service.Appending
import ConfigTimeline.Proofs.Service.Confinement
import ConfigTimeline.Proofs.Service.Repinning
import ConfigTimeline.Service.Operation

/-!
What an operation does to the tables of a store: a draft is appended, environments are pinned, or
nothing happens. Operations that fail do nothing.
-/

namespace ConfigTimeline

theorem ok_of_bind {ε α β : Type} {x : Except ε α} {f : α → Except ε β} {b : β}
    (h : (x >>= f) = .ok b) : ∃ a, x = .ok a ∧ f a = .ok b := by
  cases x with
  | error e => cases h
  | ok a => exact ⟨a, rfl, h⟩

/-- A check that goes through items one by one, and refuses one whose key has been seen, lets no key
pass twice. -/
theorem nodup_of_seen {ε α κ : Type} {key : α → κ} {check : Nat → List κ → List α → Except ε Unit}
    (hcheck : ∀ index seen a rest, check index seen (a :: rest) = .ok () →
      key a ∉ seen ∧ check (index + 1) (key a :: seen) rest = .ok ())
    {index : Nat} {seen : List κ} {items : List α} (h : check index seen items = .ok ()) :
    (items.map key).Nodup ∧ ∀ a ∈ items, key a ∉ seen := by
  induction items generalizing index seen with
  | nil => exact ⟨List.nodup_nil, List.forall_mem_nil _⟩
  | cons a rest ih =>
      obtain ⟨hnew, hrest⟩ := hcheck index seen a rest h
      obtain ⟨hnodup, hunseen⟩ := ih hrest
      constructor
      · rw [List.map_cons, List.nodup_cons]
        refine ⟨?_, hnodup⟩
        intro hmem
        obtain ⟨other, hother, hsame⟩ := List.mem_map.mp hmem
        exact hunseen other hother (hsame ▸ List.mem_cons_self)
      · intro other hother
        rcases List.mem_cons.mp hother with rfl | hlater
        · exact hnew
        · exact fun hseen => hunseen other hlater (List.mem_cons_of_mem _ hseen)

theorem Draft.checkValues_cons {index : Nat} {seen : List String} {v : NewValue}
    {rest : List NewValue} (h : checkValues index seen (v :: rest) = .ok ()) :
    v.key ∉ seen ∧ checkValues (index + 1) (v.key :: seen) rest = .ok () := by
  obtain ⟨_, _, hvalue⟩ := ok_of_bind h
  obtain ⟨_, _, hrest⟩ := ok_of_bind hvalue
  split at hrest
  · cases hrest
  · rename_i hnew
    exact ⟨hnew, hrest⟩

theorem PinRequest.checkTargets_cons {index : Nat} {seen : List String} {target : PinTarget}
    {rest : List PinTarget} (h : checkTargets index seen (target :: rest) = .ok ()) :
    target.env ∉ seen ∧ checkTargets (index + 1) (target.env :: seen) rest = .ok () := by
  obtain ⟨_, _, hrest⟩ := ok_of_bind h
  split at hrest
  · cases hrest
  · rename_i hnew
    exact ⟨hnew, hrest⟩

/-- A request that breaks no rule sets no key twice. -/
theorem CreateRequest.nodup_keys {r : CreateRequest} {ref : ProjectRef}
    (h : r.validate = .ok ref) : r.draft.keys.Nodup := by
  obtain ⟨_, _, hdraft⟩ := ok_of_bind h
  obtain ⟨_, hvalid, _⟩ := ok_of_bind hdraft
  unfold Draft.validate at hvalid
  extract_lets rest at hvalid
  have hvalues : rest () = .ok () := by
    split at hvalid <;> exact (ok_of_bind hvalid).choose_spec.2
  unfold rest at hvalues
  split at hvalues
  · cases hvalues
  · exact (nodup_of_seen (fun _ _ _ _ => Draft.checkValues_cons) hvalues).1

/-- A request that breaks no rule names no environment twice. -/
theorem PinRequest.nodup_names {r : PinRequest} (h : r.validate = .ok ()) : r.names.Nodup := by
  unfold PinRequest.validate at h
  split at h
  · cases h
  · exact (nodup_of_seen (fun _ _ _ _ => PinRequest.checkTargets_cons) h).1

def Call.Reads (c : Call) : Prop := c.writes = false ∧ c.asked = []

namespace Resolution

theorem reads_config (workspace : String) (project : ProjectId) :
    (Action.config workspace project).Makes workspace Call.Reads :=
  Program.makes_bind (Program.makes_ask ⟨rfl, rfl⟩) fun _ => Program.makes_orFail

theorem reads_target (workspace : String) (project : ProjectId) (at? : Option BlueprintId) :
    (target workspace project at?).Makes workspace Call.Reads := by
  cases at? <;>
    exact Program.makes_bind (Program.makes_ask ⟨rfl, rfl⟩) fun _ => Program.makes_orFail

theorem reads_effective (workspace : String) (project : ProjectId) (at? : Option BlueprintId) :
    (effective workspace project at?).Makes workspace Call.Reads := by
  refine Program.makes_bind (reads_config workspace project) fun _ => ?_
  refine Program.makes_bind (reads_target workspace project at?) fun blueprint => ?_
  refine Program.makes_bind (Program.makes_ask ⟨rfl, rfl⟩) fun values => ?_
  cases repeatedKey? [] values with
  | some key => trivial
  | none => exact Program.makes_bind (Program.makes_ask ⟨rfl, rfl⟩) fun _ => trivial

theorem reads_atEnvironment (workspace : String) (project : ProjectId) (env : String) :
    (atEnvironment workspace project env).Makes workspace Call.Reads := by
  refine Program.makes_bind (reads_config workspace project) fun _ => ?_
  refine Program.makes_bind (Program.makes_ask ⟨rfl, rfl⟩) fun _ => ?_
  refine Program.makes_bind Program.makes_orFail fun id => ?_
  refine Program.makes_bind (Program.makes_ask ⟨rfl, rfl⟩) fun stored => ?_
  refine Program.makes_bind ?_ fun _ => reads_effective workspace project (some id)
  cases stored with
  | none => trivial
  | some blueprint =>
      unfold refuseMask
      dsimp only
      cases blueprint.kind <;> trivial

theorem reads_atBlueprint (workspace : String) (id : BlueprintId) :
    (atBlueprint workspace id).Makes workspace Call.Reads := by
  refine Program.makes_bind (Program.makes_ask ⟨rfl, rfl⟩) fun _ => ?_
  refine Program.makes_bind Program.makes_orFail fun blueprint => ?_
  exact reads_effective workspace blueprint.project (some id)

theorem reads_delta (workspace : String) (id : BlueprintId) :
    (delta workspace id).Makes workspace Call.Reads := by
  refine Program.makes_bind (Program.makes_ask ⟨rfl, rfl⟩) fun _ => ?_
  refine Program.makes_bind Program.makes_orFail fun _ => ?_
  exact Program.makes_bind (Program.makes_ask ⟨rfl, rfl⟩) fun _ => trivial

theorem reads_history (workspace : String) (project : ProjectId) (page : PageRequest) :
    (history workspace project page).Makes workspace Call.Reads := by
  refine Program.makes_bind (reads_config workspace project) fun _ => ?_
  refine Program.makes_bind (Program.makes_ask ⟨rfl, rfl⟩) fun _ => ?_
  exact Program.makes_bind (Program.makes_ask ⟨rfl, rfl⟩) fun _ => trivial

theorem reads_masked (workspace : String) (mask : Option BlueprintId) (v : BlueprintView) :
    (masked workspace mask v).Makes workspace Call.Reads := by
  cases mask with
  | none => trivial
  | some mask =>
      refine Program.makes_bind ?_ fun _ => trivial
      refine Program.makes_bind (Program.makes_ask ⟨rfl, rfl⟩) fun _ => ?_
      refine Program.makes_bind Program.makes_orFail fun _ => ?_
      exact Program.makes_bind (Program.makes_ask ⟨rfl, rfl⟩) fun _ => trivial

end Resolution

/-- What an operation, handled with an outcome, does to the tables of a store. -/
inductive Effect (policy : MaskPolicy) (who : Identity) (supply : Supply) (t : Memory.Tables) :
    Operation → Except ServiceError Reply → Memory.Tables → Prop
  | failed (op : Operation) (e : ServiceError) : Effect policy who supply t op (.error e) t
  | created (r : CreateRequest) (project : ProjectId) (answer : BlueprintView)
      (t' : Memory.Tables) (hkeys : r.draft.keys.Nodup)
      (h : Versioning.Appended who supply.now project r.config r.draft t answer t') :
      Effect policy who supply t (.create r) (.ok (.view answer)) t'
  | bound (r : PinRequest) (reply : Reply) (t' : Memory.Tables)
      (h : Bound policy who supply.now r t t') :
      Effect policy who supply t (.bind r) (.ok reply) t'
  | read (op : Operation) (reply : Reply) (hcreate : ∀ r, op ≠ .create r) :
      Effect policy who supply t op (.ok reply) t

namespace TableModel

variable {b : Backend} (model : TableModel b) {s : Service b} {t : Memory.Tables}
  {policy : MaskPolicy}

/-- An action that fails leaves the tables as they were, and one that ends well leaves those that it
ends with. -/
theorem runAction_ends (hstore : model.Holds s.store t) {mode : Mode} {ids : Nat → Ulid}
    {action : Action Reply} {certain : Prop} {P : Reply → Memory.Tables → Prop}
    (h : action.Ensures model.Sure ids (Program.Ends certain fun reply m _ => P reply m.tables)
      (Memory.backend.start mode t) 0) :
    ∃ t', model.Holds (s.runAction mode ids action).service.store t' ∧
      ((∃ e, (s.runAction mode ids action).result = .error e ∧ ¬certain ∧ t' = t) ∨
        ∃ reply, (s.runAction mode ids action).result = .ok reply ∧ P reply t') := by
  obtain ⟨t', m, hholds, hends, hcase⟩ := model.inUnit hstore h
  refine ⟨t', hholds, ?_⟩
  change (∃ e, (b.inUnit mode ids action s.store).result = .error e ∧ ¬certain ∧ t' = t) ∨
    ∃ reply, (b.inUnit mode ids action s.store).result = .ok reply ∧ P reply t'
  rcases hcase with ⟨reply, hresult, rfl⟩ | ⟨e, hresult, ht⟩
  · rw [hresult] at hends
    exact Or.inr ⟨reply, hresult, hends⟩
  · rw [hresult] at hends
    exact Or.inl ⟨e, hresult, hends, ht⟩

/-- An action that only reads leaves the tables as they were. -/
theorem runAction_reads (hstore : model.Holds s.store t) {who : Identity} {supply : Supply}
    {op : Operation} (hcreate : ∀ r, op ≠ .create r) {mode : Mode} {action : Action Reply}
    (h : action.Makes who.workspace Call.Reads) :
    ∃ t', model.Holds (s.runAction mode supply.ids action).service.store t' ∧
      Effect policy who supply t op (s.runAction mode supply.ids action).result t' := by
  have hkept : action.Ensures model.Sure supply.ids (fun _ m _ => m.tables = t)
      (Memory.backend.start mode t) 0 := by
    refine h.ensures (I := fun tables => tables = t) ?_ ?_ ?_ rfl
    · intro c hc hwrites
      rw [hc.1] at hwrites
      cases hwrites
    · intro c hc
      rw [hc.2]
      exact List.nodup_nil
    · intro c m hc hm
      rw [Memory.perform_of_reads hc.1]
      exact hm
  obtain ⟨t', hholds, hcase⟩ := model.runAction_ends hstore (P := fun _ t' => t' = t) <|
    hkept.mono fun result m n _ hm => by
      cases result with
      | ok reply => exact hm
      | error e => exact not_false
  refine ⟨t', hholds, ?_⟩
  rcases hcase with ⟨e, hresult, -, rfl⟩ | ⟨reply, hresult, rfl⟩
  · rw [hresult]
    exact .failed op e
  · rw [hresult]
    exact .read op reply hcreate

theorem create_effect (hstore : model.Holds s.store t) (who : Identity) (supply : Supply)
    (r : CreateRequest) :
    ∃ t', model.Holds (s.create who supply r).service.store t' ∧
      Effect policy who supply t (.create r) (s.create who supply r).result t' := by
  unfold Service.create
  cases hvalid : r.validate with
  | error reason => exact ⟨t, hstore, .failed _ _⟩
  | ok ref =>
      dsimp only
      generalize Service.resolveProject who.workspace supply.candidate ref s.directory = resolved
      obtain ⟨project | project, directory⟩ := resolved
      · exact ⟨t, hstore, .failed _ _⟩
      · have hends : (Reply.view <$> Versioning.append who supply.now project.id r.config r.draft
            : Action Reply).Ensures model.Sure supply.ids
            (Program.Ends False fun reply m _ => ∃ answer, reply = .view answer ∧
              Versioning.Appended who supply.now project.id r.config r.draft t answer m.tables)
            (Memory.backend.start .write t) 0 := by
          apply Program.ends_map
          refine (Versioning.ends_append rfl who supply.now project.id r.config r.draft
            False.elim False.elim).mono ?_
          rintro (e | answer) m n - happended
          · exact not_false
          · exact ⟨answer, rfl, happended⟩
        obtain ⟨t', hholds, hcase⟩ := model.runAction_ends (s := { s with directory })
          (P := fun reply t' => ∃ answer, reply = .view answer ∧
            Versioning.Appended who supply.now project.id r.config r.draft t answer t')
          hstore hends
        refine ⟨t', hholds, ?_⟩
        rcases hcase with ⟨e, hresult, -, rfl⟩ | ⟨reply, hresult, answer, rfl, happended⟩
        · dsimp only
          rw [hresult]
          exact .failed _ e
        · dsimp only
          rw [hresult]
          exact .created r project.id answer t' (CreateRequest.nodup_keys hvalid) happended

/-- A valid request to pin environments ends as its action does. The tables are those that the action
leaves, if it is granted, and otherwise as they were. -/
theorem bind_settled (hstore : model.Holds s.store t) {policy : MaskPolicy} {who : Identity}
    {supply : Supply} {r : PinRequest} (hvalid : r.validate = .ok ())
    {Q : Except ServiceError (List Pin) → Memory.Tables → Nat → Prop}
    (hfailed : ∀ e t₁ t₂ n, Q (.error e) t₁ n → Q (.error e) t₂ n)
    (h : (Pinning.bind policy who supply.now r).Ensures model.Sure supply.ids
      (fun outcome m n => Q outcome m.tables n) (Memory.backend.start .write t) 0) :
    ∃ outcome t', (s.bind policy who supply r).result = outcome.map .pins ∧
      model.Holds (s.bind policy who supply r).service.store t' ∧
      Q outcome t' (s.bind policy who supply r).drawn ∧ ∀ e, outcome = .error e → t' = t := by
  have hbind : s.bind policy who supply r =
      s.runAction .write supply.ids (.pins <$> Pinning.bind policy who supply.now r) := by
    unfold Service.bind
    rw [hvalid]
  obtain ⟨t', m, hstore', ⟨outcome, hresult, hQ⟩, hends⟩ := model.inUnit hstore (h.map Reply.pins)
  rw [hbind]
  refine ⟨outcome, t', hresult, hstore', ?_⟩
  rcases hends with ⟨reply, hok, rfl⟩ | ⟨e, herror, rfl⟩
  · refine ⟨hQ, ?_⟩
    rintro e rfl
    cases hresult.symm.trans hok
  · cases outcome with
    | ok pins => cases hresult.symm.trans herror
    | error e => exact ⟨hfailed e _ _ _ hQ, fun _ _ => rfl⟩

/-- Whether the store can answer or not, a request that does not fail ends as the tables say. -/
theorem bind_ends_decided (hstore : model.Holds s.store t) (policy : MaskPolicy) (who : Identity)
    (supply : Supply) {r : PinRequest} (hvalid : r.validate = .ok ()) :
    ∃ t', model.Holds (s.bind policy who supply r).service.store t' ∧
      ((∃ e, (s.bind policy who supply r).result = .error e ∧ t' = t) ∨
        ∃ pins, (s.bind policy who supply r).result = .ok (.pins pins) ∧
          Pinning.Decided policy who supply.now r supply.ids 0 t (.ok pins) t'
            (s.bind policy who supply r).drawn) := by
  obtain ⟨outcome, t', hresult, hstore', hends, hsame⟩ := model.bind_settled hstore hvalid
    (Q := fun outcome t' n => (∃ e, outcome = .error e) ∨
      Pinning.Decided policy who supply.now r supply.ids 0 t outcome t' n)
    (fun e _ _ _ _ => Or.inl ⟨e, rfl⟩)
    ((Pinning.makes_bind policy who supply.now r).ensures_of_sure
      (Pinning.ensures_bind (m := Memory.backend.start .write t) rfl
        (model.constrained (model.start .write hstore)) (PinRequest.nodup_names hvalid)
        (fun _ _ => trivial) (fun _ _ _ => trivial)))
  refine ⟨t', hstore', ?_⟩
  cases outcome with
  | error e => exact Or.inl ⟨e, hresult, hsame e rfl⟩
  | ok pins =>
      rcases hends with ⟨e, herror⟩ | hdecided
      · cases herror
      · exact Or.inr ⟨pins, hresult, hdecided⟩

/-- Pinning environments fails or binds them. -/
theorem bind_ends (hstore : model.Holds s.store t) (policy : MaskPolicy) (who : Identity)
    (supply : Supply) (r : PinRequest) :
    ∃ t', model.Holds (s.bind policy who supply r).service.store t' ∧
      ((∃ e, (s.bind policy who supply r).result = .error e ∧ t' = t) ∨
        ∃ reply, (s.bind policy who supply r).result = .ok reply ∧
          Bound policy who supply.now r t t') := by
  cases hvalid : r.validate with
  | error reason =>
      unfold Service.bind
      rw [hvalid]
      exact ⟨t, hstore, Or.inl ⟨_, rfl, rfl⟩⟩
  | ok =>
      obtain ⟨t', hstore', hends⟩ := model.bind_ends_decided hstore policy who supply hvalid
      refine ⟨t', hstore', hends.imp_right ?_⟩
      rintro ⟨pins, hresult, hdecided⟩
      obtain ⟨config, hconfig, hchecked, -, rfl, -⟩ := hdecided.of_ok
      exact ⟨.pins pins, hresult,
        .of_bound (PinRequest.nodup_names hvalid) hconfig hchecked⟩

theorem bind_effect (hstore : model.Holds s.store t) (policy : MaskPolicy) (who : Identity)
    (supply : Supply) (r : PinRequest) :
    ∃ t', model.Holds (s.bind policy who supply r).service.store t' ∧
      Effect policy who supply t (.bind r) (s.bind policy who supply r).result t' := by
  obtain ⟨t', hholds, hcase⟩ := model.bind_ends hstore policy who supply r
  refine ⟨t', hholds, ?_⟩
  rcases hcase with ⟨e, hresult, rfl⟩ | ⟨reply, hresult, hbound⟩
  · rw [hresult]
    exact .failed _ e
  · rw [hresult]
    exact .bound r reply t' hbound

theorem view_effect (hstore : model.Holds s.store t) (who : Identity) (supply : Supply)
    {op : Operation} (hcreate : ∀ r, op ≠ .create r) {action : Action BlueprintView}
    (haction : action.Makes who.workspace Call.Reads) (mask : Option BlueprintId) :
    ∃ t', model.Holds (s.view who.workspace supply action mask).service.store t' ∧
      Effect policy who supply t op (s.view who.workspace supply action mask).result t' := by
  refine model.runAction_reads hstore hcreate ?_
  refine Program.makes_bind (Program.makes_bind haction ?_) fun _ => trivial
  exact Resolution.reads_masked who.workspace mask

theorem history_effect (hstore : model.Holds s.store t) (who : Identity) (supply : Supply)
    (project : ProjectId) (page size : Nat) :
    ∃ t', model.Holds (s.history who.workspace supply project page size).service.store t' ∧
      Effect policy who supply t (.history project page size)
        (s.history who.workspace supply project page size).result t' := by
  unfold Service.history
  cases PageRequest.of page size with
  | error reason => exact ⟨t, hstore, .failed _ _⟩
  | ok page =>
      refine model.runAction_reads hstore (fun _ h => by cases h) ?_
      exact Program.makes_bind (Resolution.reads_history who.workspace project page)
        fun _ => trivial

/-- An operation on a store that is read as tables leaves a store that is read as the tables that the
operation makes of them. -/
theorem handle_effect (hstore : model.Holds s.store t) (policy : MaskPolicy) (who : Identity)
    (supply : Supply) (op : Operation) :
    ∃ t', model.Holds (s.handle policy who supply op).service.store t' ∧
      Effect policy who supply t op (s.handle policy who supply op).result t' := by
  cases op with
  | create r => exact model.create_effect hstore who supply r
  | bind r => exact model.bind_effect hstore policy who supply r
  | history project page size => exact model.history_effect hstore who supply project page size
  | latest project mask =>
      exact model.view_effect hstore who supply (fun _ h => by cases h)
        (Resolution.reads_effective who.workspace project none) mask
  | get blueprint mask =>
      exact model.view_effect hstore who supply (fun _ h => by cases h)
        (Resolution.reads_atBlueprint who.workspace blueprint) mask
  | env project env mask =>
      exact model.view_effect hstore who supply (fun _ h => by cases h)
        (Resolution.reads_atEnvironment who.workspace project env) mask
  | delta blueprint =>
      exact model.view_effect hstore who supply (fun _ h => by cases h)
        (Resolution.reads_delta who.workspace blueprint) none

end TableModel

end ConfigTimeline
