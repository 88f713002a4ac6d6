import ConfigTimeline.Proofs.Timeline.Ordering

/-!
Blueprints and masks that are to be made without an id of the caller's choice. The identifiers drawn
for the call being unused, it goes through, with one exception: a blueprint whose identifier does not
come after the latest one of its project gets the id next to that, which there is not if the latest
has the last id of its millisecond.
-/

namespace ConfigTimeline

/-- A program that goes on with the value of one that fails, fails alike. -/
theorem Program.ensures_error_bind {ε α β : Type} {sure : Memory.Tables → Call → Prop}
    {ids : Nat → Ulid} {p : Program ε α} {f : α → Program ε β} {e : ε} {m : Memory.Work} {n : Nat}
    (h : p.Ensures sure ids (fun result _ _ => result = .error e) m n) :
    (p >>= f).Ensures sure ids (fun result _ _ => result = .error e) m n := by
  apply ensures_bind
  refine h.mono ?_
  rintro result m' n' - rfl
  rfl

namespace Versioning

variable {sure : Memory.Tables → Call → Prop} {ids : Nat → Ulid} {m : Memory.Work} {n : Nat}

def draws (t : Memory.Tables) (workspace : String) (project : ProjectId)
    (chosen : Option ConfigId) (draft : Draft) : Nat :=
  configDraws t workspace project chosen + idDraws draft + draft.values.length

/-- The first identifiers of a supply are distinct, and no record of a workspace has one of them. -/
@[mk_iff]
structure Unused (t : Memory.Tables) (workspace : String) (ids : Nat → Ulid) (count : Nat) :
    Prop where
  distinct : ∀ j < count, ∀ i < j, ids i ≠ ids j
  configs : ∀ i < count, ∀ c ∈ recordsIn workspace t.configs, c.id.ulid ≠ ids i
  blueprints : ∀ i < count, ∀ b ∈ recordsIn workspace t.blueprints, b.id.ulid ≠ ids i
  values : ∀ i < count, ∀ row ∈ recordsIn workspace t.values, row.id.ulid ≠ ids i

/-- A blueprint that is not given the identifier drawn for it can be given the next one after the
latest. -/
def HasRoom (t : Memory.Tables) (workspace : String) (project : ProjectId) (draft : Draft)
    (u : Ulid) : Prop :=
  draft.kind = .blueprint → ∀ latest,
    (t.newestFirst workspace project .blueprint).head? = some latest → ¬latest.id < ⟨u⟩ →
      ∃ next, latest.id.ulid.next? = some next ∧
        ∀ b ∈ recordsIn workspace t.blueprints, b.id.ulid ≠ next

theorem exists_assigned? {t : Memory.Tables} {workspace : String} {project : ProjectId}
    {draft : Draft} {u : Ulid} (hid : draft.id = none)
    (hunused : ∀ b ∈ recordsIn workspace t.blueprints, b.id.ulid ≠ u)
    (hroom : HasRoom t workspace project draft u) :
    ∃ id, assigned? (t.newestFirst workspace project .blueprint).head? draft u = some id ∧
      ∀ b ∈ recordsIn workspace t.blueprints, b.id ≠ id := by
  have hdrawn : ∀ b ∈ recordsIn workspace t.blueprints, b.id ≠ ⟨u⟩ := by
    intro b hb hsame
    exact hunused b hb (congrArg Id.ulid hsame)
  unfold assigned?
  rw [hid]
  cases hkind : draft.kind with
  | mask => exact ⟨⟨u⟩, rfl, hdrawn⟩
  | blueprint =>
      cases hlatest : (t.newestFirst workspace project .blueprint).head? with
      | none => exact ⟨⟨u⟩, rfl, hdrawn⟩
      | some latest =>
          -- An identifier that is behind the latest blueprint is given up for the next one.
          by_cases hnewer : latest.id < ⟨u⟩
          · exact ⟨⟨u⟩, if_pos hnewer, hdrawn⟩
          · obtain ⟨next, hnext, hfree⟩ := hroom hkind latest hlatest hnewer
            refine ⟨⟨next⟩, ?_, ?_⟩
            · change (if latest.id < ⟨u⟩ then _ else latest.id.ulid.next?.map Id.mk) = _
              rw [if_neg hnewer, hnext]
              rfl
            · intro b hb hsame
              exact hfree b hb (congrArg Id.ulid hsame)

section Unused

variable {t : Memory.Tables} {who : Identity} {now : Instant} {project : ProjectId}
  {chosen : Option ConfigId} {draft : Draft}

/-- A config that is made for a draft has an id that no other config has. -/
theorem Unused.config_free
    (h : Unused t who.workspace ids (draws t who.workspace project chosen draft))
    (hchosen : t.configOf who.workspace project = none → ∀ id, chosen = some id →
      ∀ c ∈ recordsIn who.workspace t.configs, c.id ≠ id)
    (hnone : t.configOf who.workspace project = none) :
    ∀ c ∈ recordsIn who.workspace t.configs, c.id ≠ chosen.getD ⟨ids 0⟩ := by
  intro c hc
  cases chosen with
  | some given => exact hchosen hnone given rfl c hc
  | none =>
      have hdraws : configDraws t who.workspace project none = 1 := by
        simp [configDraws, hnone]
      have hcount : 0 < draws t who.workspace project none draft := by
        unfold draws
        omega
      intro hsame
      exact h.configs 0 hcount c hc (congrArg Id.ulid hsame)

/-- Unused identifiers are in nothing's way. -/
theorem Unused.clear
    (h : Unused t who.workspace ids (draws t who.workspace project chosen draft))
    (hid : draft.id = none) (hkeys : draft.keys.Nodup)
    (hchosen : t.configOf who.workspace project = none → ∀ id, chosen = some id →
      ∀ c ∈ recordsIn who.workspace t.configs, c.id ≠ id)
    (hroom : HasRoom t who.workspace project draft
      (ids (configDraws t who.workspace project chosen))) :
    Clear t ids 0 who now project chosen draft := by
  have hone : idDraws draft = 1 := by simp [idDraws, hid]
  have hcount : draws t who.workspace project chosen draft =
      configDraws t who.workspace project chosen + 1 + draft.values.length := by
    rw [draws, hone]
  refine {
    config := h.config_free hchosen
    onTime := fun id hsome => by simp [hid] at hsome
    blueprint := ?_
    keys := hkeys
    values := ?_
    distinct := ?_ }
  · rw [Nat.zero_add]
    exact exists_assigned? hid (h.blueprints _ (by omega)) hroom
  · intro i hi row hrow
    rw [Nat.zero_add, hone]
    exact h.values _ (by omega) row hrow
  · intro i j hij hj
    rw [Nat.zero_add, hone]
    exact h.distinct _ (by omega) _ (by omega)

end Unused

/-- Where the latest blueprint has the last id of its millisecond, an identifier that does not come
after it cannot be replaced. -/
theorem ensures_exhausted_assignId {workspace : String} {now : Instant} {project : ProjectId}
    {draft : Draft} {latest : Blueprint} (hid : draft.id = none) (hkind : draft.kind = .blueprint)
    (hsure : sure m.tables (.latest project .blueprint))
    (hlatest : (m.tables.newestFirst workspace project .blueprint).head? = some latest)
    (hstale : ¬latest.id < ⟨ids n⟩) (hlast : latest.id.ulid.next? = none) :
    (assignId workspace now project draft).Ensures sure ids
      (fun result _ _ => result = .error (.violation (.noIdAfter latest.id))) m n := by
  unfold assignId offeredId
  rw [hid, hkind]
  refine Program.ensures_bind ?_
  change (Action.ask workspace (.latest project .blueprint) >>= _ : Action BlueprintId).Ensures
    sure ids _ m (n + 1)
  refine Program.ensures_bind (Program.ensures_read (c := .latest project .blueprint) rfl
    List.nodup_nil rfl ?_ ?_)
  · intro found hfound
    obtain rfl : found = some latest := Eq.trans hfound hlatest
    change Program.Ensures sure ids _
      (if latest.id < ⟨ids n⟩ then _ else _) m (n + 1)
    rw [if_neg hstale, hlast]
    rfl
  · intro hunsure
    exact absurd hsure hunsure

theorem ensures_exhausted_append (hmode : m.mode = .write) {who : Identity} {now : Instant}
    {project : ProjectId} {chosen : Option ConfigId} {draft : Draft} {latest : Blueprint}
    (hsure : Answered sure who now project chosen m.tables)
    (hfree : m.tables.configOf who.workspace project = none →
      ∀ c ∈ recordsIn who.workspace m.tables.configs, c.id ≠ chosen.getD ⟨ids n⟩)
    (hid : draft.id = none) (hkind : draft.kind = .blueprint)
    (hlatest : (m.tables.newestFirst who.workspace project .blueprint).head? = some latest)
    (hstale : ¬latest.id < ⟨ids (n + configDraws m.tables who.workspace project chosen)⟩)
    (hlast : latest.id.ulid.next? = none) :
    (append who now project chosen draft).Ensures sure ids
      (fun result _ _ => result = .error (.violation (.noIdAfter latest.id))) m n := by
  unfold append
  apply Program.ensures_bind
  refine (ends_ensureConfig hmode who now project chosen
    (fun _ : True => hsure.before) fun _ => hfree).mono ?_
  rintro (e | config) m₁ n₁ - hends
  · exact absurd trivial hends
  · obtain ⟨hconfig, rfl⟩ := hends
    rw [← hconfig.newestFirst_eq] at hlatest
    exact Program.ensures_error_bind (ensures_exhausted_assignId hid hkind
      (hsure.after config m₁.tables hconfig _ rfl) hlatest hstale hlast)

end Versioning

/-- What is ensured of appending a draft holds of the result of a create. -/
theorem TableModel.create_result {b : Backend} (model : TableModel b) {s : Service b}
    {t : Memory.Tables} (hstore : model.Holds s.store t) {who : Identity} {supply : Supply}
    {r : CreateRequest} {ref : ProjectRef} {project : Project} (hvalid : r.validate = .ok ref)
    (hproject : (Service.resolveProject who.workspace supply.candidate ref s.directory).1 =
      .ok project)
    {Q : Except ServiceError BlueprintView → Prop}
    (h : (Versioning.append who supply.now project.id r.config r.draft).Ensures model.Sure
      supply.ids (fun result _ _ => Q result) (Memory.backend.start .write t) 0) :
    ∃ result, (s.create who supply r).result = result.map Reply.view ∧ Q result := by
  have hview : (Reply.view <$> Versioning.append who supply.now project.id r.config r.draft
      : Action Reply).Ensures model.Sure supply.ids
      (fun shown _ _ => ∃ result, shown = result.map Reply.view ∧ Q result)
      (Memory.backend.start .write t) 0 := by
    apply Program.ensures_bind
    refine h.mono ?_
    rintro (e | v) m n - hQ
    · exact ⟨.error e, rfl, hQ⟩
    · exact ⟨.ok v, rfl, hQ⟩
  obtain ⟨_, _, -, hends, -⟩ := model.inUnit hstore hview
  unfold Service.create
  rw [hvalid]
  dsimp only
  generalize Service.resolveProject who.workspace supply.candidate ref s.directory = resolved
    at hproject ⊢
  obtain ⟨found, directory⟩ := resolved
  obtain rfl : found = .ok project := hproject
  exact hends

section Create

variable {kind : StoreKind} {s : Service kind.backend} {t : Memory.Tables} {who : Identity}
  {supply : Supply} {r : CreateRequest} {ref : ProjectRef} {project : Project}

theorem StoreKind.answered {now : Instant} {id : ProjectId}
    (hnow : kind = .database → now.FourDigitYear) (hdated : kind = .database → t.Dated)
    (chosen : Option ConfigId) :
    Versioning.Answered kind.tableModel.Sure who now id chosen t where
  before _ hskips := sure_of_dated hdated hskips
  after _ _ hwith _ hskips :=
    sure_of_dated (fun hkind => hwith.dated (hnow hkind) (hdated hkind)) hskips

theorem StoreKind.create_of_clear (hstore : kind.tableModel.Holds s.store t)
    (hvalid : r.validate = .ok ref)
    (hproject : (Service.resolveProject who.workspace supply.candidate ref s.directory).1 =
      .ok project)
    (hsure : Versioning.Answered kind.tableModel.Sure who supply.now project.id r.config t)
    (hclear : Versioning.Clear t supply.ids 0 who supply.now project.id r.config r.draft) :
    ∃ v t', (s.create who supply r).result = .ok (.view v) ∧
      Versioning.Appended who supply.now project.id r.config r.draft t v t' := by
  have hends : (Versioning.append who supply.now project.id r.config r.draft).Ensures
      kind.tableModel.Sure supply.ids (fun result _ _ => ∃ v t', result = .ok v ∧
        Versioning.Appended who supply.now project.id r.config r.draft t v t')
      (Memory.backend.start .write t) 0 := by
    refine (Versioning.ends_append rfl who supply.now project.id r.config r.draft
      (fun _ : True => hsure) fun _ => hclear).mono ?_
    rintro (e | v) m n - hends
    · exact absurd trivial hends
    · exact ⟨v, m.tables, rfl, hends⟩
  obtain ⟨_, hresult, v, t', rfl, happended⟩ :=
    kind.tableModel.create_result hstore hvalid hproject hends
  exact ⟨v, t', hresult, happended⟩

end Create

/-- After any calls, on either kind of store, a create without an id of the caller's choice goes
through if the identifiers drawn for it are unused, and a blueprint comes after the latest one of its
project. If the identifier drawn for a blueprint does not, the one next to the latest has to be free;
if there is none, the create fails. -/
theorem Service.create_without_id (kind : StoreKind) (directory : Directory)
    (calls : List ServiceCall) (policy : MaskPolicy) (who : Identity) (supply : Supply)
    (r : CreateRequest) (ref : ProjectRef) (project : Project)
    (hclock : kind = .database →
      supply.now.FourDigitYear ∧ ∀ call ∈ calls, call.supply.now.FourDigitYear)
    (hvalid : r.validate = .ok ref) (hid : r.draft.id = none)
    (hproject : (Service.resolveProject who.workspace supply.candidate ref
      ((Service.new kind directory).run calls).2.directory).1 = .ok project) :
    let s := ((Service.new kind directory).run calls).2
    let created := (s.handle policy who supply (.create r)).result
    ∃ t, kind.tableModel.Holds s.store t ∧
      let latest := (t.newestFirst who.workspace project.id .blueprint).head?
      let drawn := supply.ids (Versioning.configDraws t who.workspace project.id r.config)
      Versioning.Unused t who.workspace supply.ids
          (Versioning.draws t who.workspace project.id r.config r.draft) →
        (t.configOf who.workspace project.id = none → ∀ id, r.config = some id →
          ∀ c ∈ recordsIn who.workspace t.configs, c.id ≠ id) →
        (Versioning.HasRoom t who.workspace project.id r.draft drawn →
          ∃ v, created = .ok (.view v) ∧
            (r.draft.kind = .blueprint → ∀ b ∈ latest, b.id < v.blueprint.id)) ∧
        ∀ b, r.draft.kind = .blueprint → latest = some b → ¬b.id < ⟨drawn⟩ →
          b.id.ulid.next? = none → created = .error (.violation (.noIdAfter b.id)) := by
  intro s created
  obtain ⟨t, hstore, hrecorded⟩ := kind.run_recorded directory calls
  have hsure : Versioning.Answered kind.tableModel.Sure who supply.now project.id r.config t :=
    StoreKind.answered (fun hkind => (hclock hkind).1)
      (fun hkind => hrecorded.dated_of_clock (hclock hkind).2) r.config
  refine ⟨t, hstore, ?_⟩
  intro latest drawn hunused hchosen
  constructor
  · intro hroom
    have hclear : Versioning.Clear t supply.ids 0 who supply.now project.id r.config r.draft :=
      hunused.clear hid (CreateRequest.nodup_keys hvalid) hchosen hroom
    obtain ⟨v, t', hresult, happended⟩ :=
      StoreKind.create_of_clear hstore hvalid hproject hsure hclear
    refine ⟨v, hresult, ?_⟩
    intro hkind b hb
    exact happended.newer hkind b (List.mem_of_head? hb)
  · intro b hkind hlatest hstale hlast
    have hdrawn : ¬b.id < ⟨supply.ids
        (0 + Versioning.configDraws t who.workspace project.id r.config)⟩ := by
      rw [Nat.zero_add]
      exact hstale
    obtain ⟨_, hresult, rfl⟩ := kind.tableModel.create_result hstore hvalid hproject
      (Versioning.ensures_exhausted_append rfl hsure (hunused.config_free hchosen) hid hkind
        hlatest hdrawn hlast)
    exact hresult

/-- The generator is behind an id that a caller chose, and the id next to that cannot be given: it is
of another millisecond, or a mask has it. -/
theorem Service.create_without_id_refused :
    let who : Identity := ⟨"w", "u"⟩
    let draft (id : Option BlueprintId) (kind : BlueprintKind) : Draft :=
      ⟨id, kind, none, [⟨"k", "v", .string, none⟩]⟩
    let supply (first : Nat) : Supply :=
      ⟨.ofUnix 1700000000 0, fun n => .ofNat (first + n), .ofNat 7⟩
    let create (first : Nat) (id : BlueprintId) (kind : BlueprintKind) : ServiceCall :=
      ⟨.reject, who, supply first, .create ⟨none, some "p", none, draft (some id) kind⟩⟩
    let request : CreateRequest := ⟨none, some "p", none, draft none .blueprint⟩
    let last : BlueprintId := ⟨.ofParts 0 (1 <<< 80 - 1)⟩
    let full := ((Service.new .memory (.memory .empty)).run [create 10 last .blueprint]).2
    let taken := ((Service.new .memory (.memory .empty)).run
      [create 10 ⟨.ofNat 50⟩ .blueprint, create 15 ⟨.ofNat 51⟩ .mask]).2
    request.validate = .ok (.name "p") ∧
      (Service.resolveProject "w" (.ofNat 7) (.name "p") full.directory).1 =
        .ok ⟨.ofNat 7, "p"⟩ ∧
      Versioning.Unused full.store "w" (supply 20).ids 2 ∧
      (full.handle .reject who (supply 20) (.create request)).result =
        .error (.violation (.noIdAfter last)) ∧
      (Service.resolveProject "w" (.ofNat 7) (.name "p") taken.directory).1 =
        .ok ⟨.ofNat 7, "p"⟩ ∧
      Versioning.Unused taken.store "w" (supply 20).ids 2 ∧
      (taken.handle .reject who (supply 20) (.create request)).result =
        .error (.violation (.clash (.blueprint ⟨.ofNat 51⟩))) := by
  refine ⟨by decide +kernel, by decide +kernel, ?_, by decide +kernel, by decide +kernel, ?_,
    by decide +kernel⟩
  · exact (Versioning.unused_iff _ _ _ _).mpr (by decide +kernel)
  · exact (Versioning.unused_iff _ _ _ _).mpr (by decide +kernel)

/-- The generator is behind an id that a caller chose, and the new blueprint comes next to that. -/
theorem Service.create_without_id_behind :
    let who : Identity := ⟨"w", "u"⟩
    let draft (id : Option BlueprintId) : Draft :=
      ⟨id, .blueprint, none, [⟨"k", "v", .string, none⟩]⟩
    let request (id : Option BlueprintId) : CreateRequest := ⟨none, some "p", none, draft id⟩
    let supply (first : Nat) : Supply :=
      ⟨.ofUnix 1700000000 0, fun n => .ofNat (first + n), .ofNat 7⟩
    let calls : List ServiceCall :=
      [⟨.reject, who, supply 10, .create (request (some ⟨.ofNat 50⟩))⟩]
    let s := ((Service.new .memory (.memory .empty)).run calls).2
    ∃ v, (s.handle .reject who (supply 20) (.create (request none))).result = .ok (.view v) ∧
      (⟨.ofNat 50⟩ : BlueprintId) < v.blueprint.id := by
  intro who draft request supply calls s
  obtain ⟨t, ⟨hstore, -⟩, hcreated⟩ := Service.create_without_id .memory (.memory .empty) calls
    .reject who (supply 20) (request none) (.name "p") ⟨.ofNat 7, "p"⟩ (fun h => by cases h)
    (by decide +kernel) rfl (by decide +kernel)
  obtain rfl : s.store = t := hstore
  have hlatest : ((Memory.Tables.newestFirst s.store "w" (.ofNat 7) .blueprint).head?).map (·.id) =
      some ⟨.ofNat 50⟩ := by decide +kernel
  obtain ⟨b, hb, hid⟩ := Option.map_eq_some_iff.mp hlatest
  have hunused : Versioning.Unused s.store "w" (supply 20).ids 2 :=
    (Versioning.unused_iff _ _ _ _).mpr (by decide +kernel)
  obtain ⟨hgoes, -⟩ := hcreated hunused (fun _ _ h => by cases h)
  obtain ⟨v, hok, hnewer⟩ := hgoes (by
    intro _ latest hfound _
    obtain rfl : b = latest := Option.some.inj (hb.symm.trans hfound)
    rw [hid]
    exact ⟨.ofNat 51, by decide +kernel, by decide +kernel⟩)
  refine ⟨v, hok, ?_⟩
  rw [← hid]
  exact hnewer rfl b hb

end ConfigTimeline
