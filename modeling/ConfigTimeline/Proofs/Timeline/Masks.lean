import ConfigTimeline.Proofs.Service.Masking
import ConfigTimeline.Proofs.Timeline.Deltas
import ConfigTimeline.Proofs.Timeline.Reads

/-!
Reading under a mask. A mask of the project of the blueprint that is read lays the rows of its draft
over the values, whole, and changes nothing else; anything that is no such mask is not found.
-/

namespace ConfigTimeline

/-- Rows with the same keys, each once, have the same row of each key, in whatever order they are. -/
theorem find?_key_eq_of_perm {rows rows' : List ValueRow} (h : rows.Perm rows')
    (hkeys : (rows.map (·.key)).Nodup) (key : String) :
    rows.find? (·.key == key) = rows'.find? (·.key == key) := by
  have hsame := h.filter (·.key == key)
  rw [filter_eq_toList_find? hkeys, filter_eq_toList_find? ((h.map _).nodup_iff.mp hkeys)] at hsame
  have hfound := congrArg List.head? (eq_toList_of_perm hsame)
  rwa [Option.head?_toList, Option.head?_toList] at hfound

/-- A view of which nothing has changed but the values, over which the rows that a draft brought in
have been laid: they have the keys of both, and each key of the draft has the row brought in. -/
structure Overlaid (draft : Draft) (made v shown : BlueprintView) : Prop where
  rest : shown = { v with values := shown.values }
  keys : (shown.values.map (·.key)).Nodup
  union : ∀ key, key ∈ shown.values.map (·.key) ↔
    key ∈ v.values.map (·.key) ∨ key ∈ draft.keys
  rows : ∀ key, shown.value? key = (made.value? key).or (v.value? key)
  submitted : ∀ key, (made.value? key).map ValueRow.submitted = draft.value? key

theorem Memory.Tables.Introduces.overlaid {t : Tables} {workspace : String} {draft : Draft}
    {made v : BlueprintView} (h : t.Introduces workspace draft made)
    (hkeys : (v.values.map (·.key)).Nodup) {rows : List ValueRow}
    (hrows : rows.Perm made.values) :
    Overlaid draft made v { v with values := overlay v.values rows } := by
  have hmade : (made.values.map (·.key)).Nodup := by
    rw [h.map_key]
    exact h.keys
  have hmask : (rows.map (·.key)).Nodup := (hrows.map _).nodup_iff.mpr hmade
  have hvalue : ∀ key, (overlay v.values rows).find? (·.key == key) =
      (made.value? key).or (v.value? key) := by
    intro key
    rw [find?_overlay hkeys hmask, find?_key_eq_of_perm hrows hmask]
    rfl
  refine {
    rest := rfl
    keys := nodup_keys_overlay v.values rows
    union := ?_
    rows := hvalue
    submitted := h.value?_eq }
  intro key
  rw [← isSome_value?, ← isSome_value?, ← h.map_key, ← isSome_value?, BlueprintView.value?, hvalue,
    Option.isSome_or, Bool.or_eq_true, or_comm]

/-- A mask that is looked up is one of the project. -/
theorem Memory.lookUpMask_eq_ok {t : Memory.Tables} (hconstrained : Memory.Constrained t)
    {workspace : String} {project : ProjectId} {id : BlueprintId} {b : Blueprint} :
    t.lookUpMask workspace project id = .ok b ↔
      b ∈ t.blueprintsOf workspace project ∧ b.id = id ∧ b.kind = .mask := by
  have hfound : t.lookUpMask workspace project id = .ok b ↔
      (t.blueprintById workspace id).filter (fun b => b.project == project && b.kind == .mask) =
        some b := by
    unfold Memory.Tables.lookUpMask
    split <;> simp [*]
  rw [hfound, Option.filter_eq_some_iff, blueprintById_eq_some hconstrained, mem_blueprintsOf,
    Bool.and_eq_true, beq_iff_eq, beq_iff_eq]
  tauto

theorem Memory.eq_of_lookUpMask {t : Memory.Tables} {workspace : String} {project : ProjectId}
    {id : BlueprintId} {what : NotFound}
    (h : t.lookUpMask workspace project id = .error what) : what = .mask id project := by
  unfold Memory.Tables.lookUpMask at h
  split at h
  · exact (Except.error.inj h).symm
  · cases h

def LogEntry.Created (entry : LogEntry) (workspace : String) (r : CreateRequest)
    (made : BlueprintView) : Prop :=
  entry.call.who.workspace = workspace ∧ entry.call.operation = .create r ∧
    entry.result = .ok (.view made)

/-- After any calls, on either kind of store, a read of a blueprint that fails does so under any mask.
One that goes through shows the same under a mask of the project, with the rows of its draft laid over
the values; under anything else it fails for want of such a mask. The clock that a database is used
under shows years of four digits. -/
theorem Service.masked_read (kind : StoreKind) (directory : Directory) (calls : List ServiceCall)
    (hclock : kind = .database → ∀ call ∈ calls, call.supply.now.FourDigitYear)
    (policy : MaskPolicy) (who : Identity) (supply : Supply) (read : BlueprintRead)
    (mask : BlueprintId) :
    let ran := (Service.new kind directory).run calls
    let result (mask? : Option BlueprintId) :=
      (ran.2.handle policy who supply (read.operation mask?)).result
    (∀ e, result none = .error e → result (some mask) = .error e) ∧
      ∀ reply, result none = .ok reply → ∃ v, reply = .view v ∧
        (ran.2.kindOf who.workspace v.blueprint.project mask = some .mask →
          ∃ entry ∈ ran.1, ∃ r made shown, entry.Created who.workspace r made ∧
            made.blueprint.id = mask ∧ result (some mask) = .ok (.view shown) ∧
            Overlaid r.draft made v shown) ∧
        (ran.2.kindOf who.workspace v.blueprint.project mask ≠ some .mask →
          result (some mask) = .error (.notFound (.mask mask v.blueprint.project))) := by
  intro ran result
  obtain ⟨t, hstore, hkept⟩ := kind.run_deltasKept directory calls
  have hconstrained : Memory.Constrained t :=
    kind.tableModel.constrained (kind.tableModel.start .read hstore)
  have hlegible := hkept.recorded.legible hclock
  have hresult : ∀ mask?, result mask? =
      (ran.2.view who.workspace supply (read.action who.workspace) mask?).result :=
    fun mask? => congrArg Handled.result (read.handle_operation ran.2 policy who supply mask?)
  refine ⟨?_, ?_⟩
  · intro e hplain
    rw [hresult] at hplain ⊢
    exact Service.view_error _ _ _ hplain
  intro reply hplain
  rw [hresult] at hplain
  obtain ⟨v, rfl⟩ := Service.view_ok _ _ _ hplain
  obtain ⟨hshows, outcome, hoverlays, hmasked⟩ := kind.tableModel.view_overlays hstore hlegible
    (read.ensures_action (m := Memory.backend.start .read t) hlegible) hplain mask
  rw [← hresult] at hmasked
  refine ⟨v, rfl, ?_⟩
  have hkind : ran.2.kindOf who.workspace v.blueprint.project mask = some .mask ↔
      ∃ b, t.lookUpMask who.workspace v.blueprint.project mask = .ok b := by
    rw [StoreKind.kindOf_eq_some hstore]
    exact exists_congr fun b => (Memory.lookUpMask_eq_ok hconstrained).symm
  unfold Memory.Tables.Overlays at hoverlays
  constructor
  · intro hmask
    obtain ⟨b, hfound⟩ := hkind.mp hmask
    rw [hfound] at hoverlays
    obtain ⟨rows, hrows, rfl⟩ := hoverlays
    obtain ⟨hb, hid, hkind⟩ := (Memory.lookUpMask_eq_ok hconstrained).mp hfound
    obtain ⟨entry, hentry, r, made, hoperation, hanswer, hworkspace, rfl⟩ :=
      hkept.recorded.exists_created hb
    have hintroduces := hkept.introduces entry hentry r made hoperation hanswer
    rw [hworkspace] at hintroduces
    rw [← hid, hintroduces.delta_of_mask hkind] at hrows
    exact ⟨entry, hentry, r, made, _, ⟨hworkspace, hoperation, hanswer⟩, hid, hmasked,
      hintroduces.overlaid hshows.keys hrows⟩
  · intro hnone
    cases hfound : t.lookUpMask who.workspace v.blueprint.project mask with
    | ok b => exact absurd (hkind.mpr ⟨b, hfound⟩) hnone
    | error what =>
        rw [hfound, Memory.eq_of_lookUpMask hfound] at hoverlays
        rw [hmasked, hoverlays]
        rfl

def viewOf? : Except ServiceError Reply → Option BlueprintView
  | .ok (.view v) => some v
  | _ => none

theorem eq_of_viewOf? {result : Except ServiceError Reply} {v : BlueprintView}
    (h : viewOf? result = some v) : result = .ok (.view v) := by
  unfold viewOf? at h
  split at h
  · rw [Option.some.inj h]
  · cases h

/-- The latest blueprint under a mask that sets a key anew, without the description that it had. -/
theorem Service.masked_read_latest :
    let who : Identity := ⟨"w", "u"⟩
    let project : ProjectId := .ofNat 7
    let supply (first : Nat) : Supply :=
      ⟨.ofUnix 1700000000 0, fun n => .ofNat (first + n), project⟩
    let create (first id : Nat) (kind : BlueprintKind) (v : NewValue) : ServiceCall :=
      ⟨.reject, who, supply first,
        .create ⟨none, some "p", none, ⟨some ⟨.ofNat id⟩, kind, none, [v]⟩⟩⟩
    let calls := [create 10 1 .blueprint ⟨"k", "old", .string, some "d"⟩,
      create 20 2 .mask ⟨"k", "new", .string, none⟩]
    let s := ((Service.new .database (.memory .empty)).run calls).2
    let result (mask : Option BlueprintId) :=
      (s.handle .reject who (supply 30) (.latest project mask)).result
    (∀ call ∈ calls, call.supply.now.FourDigitYear) ∧
      ∃ (r : CreateRequest) (made v shown : BlueprintView), result none = .ok (.view v) ∧
        result (some ⟨.ofNat 2⟩) = .ok (.view shown) ∧ Overlaid r.draft made v shown ∧
        shown.values.map ValueRow.submitted = [⟨"k", "new", .string, none⟩] := by
  intro who project supply create calls s result
  have hclock : ∀ call ∈ calls, call.supply.now.FourDigitYear := by decide +kernel
  have hresults : (viewOf? (result none)).map (·.blueprint.project) = some project ∧
      s.kindOf "w" project ⟨.ofNat 2⟩ = some .mask ∧
      (viewOf? (result (some ⟨.ofNat 2⟩))).map (·.values.map ValueRow.submitted) =
        some [⟨"k", "new", .string, none⟩] := by
    decide +kernel
  obtain ⟨hplain, hkind, hvalues⟩ := hresults
  obtain ⟨v, hv, hproject⟩ := Option.map_eq_some_iff.mp hplain
  obtain ⟨shown, hshown, hsubmitted⟩ := Option.map_eq_some_iff.mp hvalues
  obtain ⟨-, hread⟩ := Service.masked_read .database (.memory .empty) calls (fun _ => hclock)
    .reject who (supply 30) (.latest project) ⟨.ofNat 2⟩
  obtain ⟨v', hsame, hmask, -⟩ := hread (.view v) (eq_of_viewOf? hv)
  obtain rfl : v = v' := Reply.view.inj hsame
  rw [hproject] at hmask
  obtain ⟨_, -, r, made, shown', -, -, hmasked, hoverlaid⟩ := hmask hkind
  obtain rfl : shown = shown' :=
    Reply.view.inj (Except.ok.inj ((eq_of_viewOf? hshown).symm.trans hmasked))
  exact ⟨hclock, r, made, v, shown, eq_of_viewOf? hv, eq_of_viewOf? hshown, hoverlaid, hsubmitted⟩

end ConfigTimeline
