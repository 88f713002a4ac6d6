import ConfigTimeline.Proofs.Store.Contents
import ConfigTimeline.Proofs.Timeline.Environments

/-!
Resolving a blueprint on a store whose rows may overlap. The service never stores a key so that it is
effective twice at a blueprint, but the calls of a store allow it: of the rows of a key only one may be
open, while those that have ended may cover one another. A blueprint resolves to all rows that are
effective there as long as no key repeats among them, and otherwise to the report of a key that does.
All reads come to that before a mask is looked at, so no mask hides a repeated key.
-/

namespace ConfigTimeline

namespace Resolution

variable {kind : StoreKind} {s : Service kind.backend} {t : Memory.Tables} {workspace : String}
  {b : Blueprint}

/-- A project that has a config resolves at the blueprint that is found for it. -/
theorem run_effective (hstore : kind.tableModel.Holds s.store t)
    (hsure : ∀ c : Call, c.skips = 0 → kind.tableModel.Sure t c) {project : ProjectId}
    {at? : Option BlueprintId} (hfound : t.lookUp workspace project at? = .ok b)
    (ids : Nat → Ulid) (n : Nat) :
    kind.backend.run ids (effective workspace project at?) (kind.backend.start .read s.store) n =
      kind.backend.run ids (resolveAt workspace project b) (kind.backend.start .read s.store) n := by
  obtain ⟨hsome, htarget⟩ := Memory.Tables.lookUp_eq_ok.mp hfound
  obtain ⟨config, hconfig⟩ := Option.ne_none_iff_exists'.mp hsome
  rw [effective_eq]
  unfold Action.config
  rw [bind_assoc, StoreKind.run_ask hstore hsure (.configOf project)
    ⟨rfl, rfl, rfl, fun _ _ h => h⟩ (congrArg Except.ok hconfig)]
  cases at? with
  | none =>
      change kind.backend.run ids
        ((Action.ask workspace (.latest project .blueprint) >>= _) >>= _) _ n = _
      rw [bind_assoc, StoreKind.run_ask hstore hsure (.latest project .blueprint)
        ⟨rfl, rfl, rfl, fun _ _ h => h⟩ (congrArg Except.ok htarget)]
      rfl
  | some id =>
      change kind.backend.run ids
        ((Action.ask workspace (.blueprintOfKind id project .blueprint) >>= _) >>= _) _ n = _
      rw [bind_assoc, StoreKind.run_ask hstore hsure (.blueprintOfKind id project .blueprint)
        ⟨rfl, rfl, rfl, fun _ _ h => h⟩ (congrArg Except.ok htarget)]
      rfl

end Resolution

namespace BlueprintRead

variable {kind : StoreKind} {s : Service kind.backend} {t : Memory.Tables} {workspace : String}
  {b : Blueprint}

/-- Every read resolves at the blueprint that is found for it, in the project of the blueprint. -/
theorem run_action (hstore : kind.tableModel.Holds s.store t)
    (hsure : ∀ c : Call, c.skips = 0 → kind.tableModel.Sure t c) {read : BlueprintRead}
    (hfound : read.lookUp t workspace = .ok b) (ids : Nat → Ulid) (n : Nat) :
    kind.backend.run ids (read.action workspace) (kind.backend.start .read s.store) n =
      kind.backend.run ids (Resolution.resolveAt workspace b.project b)
        (kind.backend.start .read s.store) n := by
  cases read with
  | latest project =>
      change t.lookUp workspace project none = .ok b at hfound
      obtain ⟨rfl, -⟩ := Memory.of_target (Memory.Tables.lookUp_eq_ok.mp hfound).2
      exact Resolution.run_effective hstore hsure hfound ids n
  | get id =>
      change t.lookUpId workspace id = .ok b at hfound
      unfold Memory.Tables.lookUpId at hfound
      split at hfound
      · cases hfound
      · rename_i stored hstored
        obtain ⟨hproject, -⟩ := Memory.of_target (Memory.Tables.lookUp_eq_ok.mp hfound).2
        rw [hproject]
        exact (Resolution.run_atBlueprint hstore hsure hstored ids n).trans
          (Resolution.run_effective hstore hsure hfound ids n)
  | env project name =>
      change t.lookUpEnv workspace project name = .ok b at hfound
      unfold Memory.Tables.lookUpEnv at hfound
      split at hfound
      · cases hfound
      split at hfound
      · cases hfound
      rename_i id hpinned
      split at hfound
      · cases hfound
      obtain ⟨hconfig, htarget⟩ := Memory.Tables.lookUp_eq_ok.mp hfound
      obtain ⟨rfl, hkind⟩ := Memory.of_target htarget
      have hstored := (Option.filter_eq_some_iff.mp htarget).1
      exact (Resolution.run_atEnvironment hstore hsure hconfig hpinned hstored hkind ids n).trans
        (Resolution.run_effective hstore hsure hfound ids n)

end BlueprintRead

/-- Whatever units of work have left in a store, a blueprint of a project with a config resolves to all
rows of the project that are effective there, if no two of them have one key. Otherwise a key that
several of them have is reported, and reported alike by every read that comes to the blueprint, under
any mask. The points in time that a database has been given are ones that its rows have room for. -/
theorem Service.overlaps_reported (kind : StoreKind) (s : Service kind.backend)
    (hreached : kind.Reached s.store) (policy : MaskPolicy) (who : Identity) (supply : Supply) :
    ∃ t, kind.tableModel.Holds s.store t ∧
      ∀ project, t.configOf who.workspace project ≠ none →
        ∀ b ∈ t.blueprintsOf who.workspace project, b.kind = .blueprint →
          let keys := (t.effective who.workspace project b.id).map (·.key)
          let resolved := (kind.backend.inUnit .read supply.ids
            (Resolution.effective who.workspace project (some b.id)) s.store).result
          (keys.Nodup → ∃ v, resolved = .ok v ∧ t.Shown who.workspace b v) ∧
            (¬keys.Nodup → ∃ key, 2 ≤ keys.count key ∧
              resolved = .error (.violation (.overlap key b.id)) ∧
              ∀ (read : BlueprintRead) (mask : Option BlueprintId),
                read = .get b.id ∨ read.lookUp t who.workspace = .ok b →
                  (s.handle policy who supply (read.operation mask)).result =
                    .error (.violation (.overlap key b.id))) := by
  obtain ⟨t, hstore, hdated⟩ := hreached.holds
  refine ⟨t, hstore, ?_⟩
  intro project hconfig b hb hkind keys resolved
  have hconstrained := kind.tableModel.constrained (kind.tableModel.start .read hstore)
  have hsure : ∀ c : Call, c.skips = 0 → kind.tableModel.Sure t c :=
    fun _ hskips => StoreKind.sure_of_dated hdated hskips
  have hfound := Memory.lookUp_of_mem hconstrained hconfig hb hkind
  have hfoundId := Memory.lookUpId_of_mem hconstrained hconfig hb hkind
  obtain ⟨-, rfl⟩ := Memory.mem_blueprintsOf.mp hb
  -- All reads of the blueprint are one program from here on.
  let ended := kind.backend.run supply.ids (Resolution.resolveAt who.workspace b.project b)
    (kind.backend.start .read s.store) 0
  have hresolved : resolved = ended.result := by
    change (kind.backend.inUnit .read supply.ids _ s.store).result = _
    rw [Backend.result_inUnit, Resolution.run_effective hstore hsure hfound]
  have hreports : t.Reports who.workspace b ended.result := by
    obtain ⟨m, -, -, -, hreports⟩ := kind.tableModel.run (kind.tableModel.start .read hstore)
      (Resolution.ensures_resolveAt (m := Memory.backend.start .read t) hsure b)
    exact hreports
  rw [hresolved]
  rcases hreports with ⟨hnodup, v, hok, hshown⟩ | ⟨key, htwice, herror⟩
  · exact ⟨fun _ => ⟨v, hok, hshown⟩, fun hrepeated => absurd hnodup hrepeated⟩
  · refine ⟨?_, ?_⟩
    · intro hnodup
      have honce : keys.count key ≤ 1 := List.nodup_iff_count_le_one.mp hnodup key
      exact absurd (htwice.trans honce) (by decide)
    intro _
    refine ⟨key, htwice, herror, ?_⟩
    intro read mask hread
    have hlookUp : read.lookUp t who.workspace = .ok b := by
      rcases hread with rfl | hread
      · exact hfoundId
      · exact hread
    rw [read.handle_operation, Service.result_view, kind.backend.run_bind,
      BlueprintRead.run_action hstore hsure hlookUp]
    change (kind.backend.run supply.ids _ _ 0).result = _ at herror
    rw [herror]
    rfl

/-- A key with a row that is open and one that ends later, under a mask that sets the key anew. -/
theorem Service.overlaps_reported_masked :
    let project : ProjectId := .ofNat 7
    let audit := Audit.made "u" (.ofUnix 1700000000 0)
    let blueprint (n : Nat) (kind : BlueprintKind) : Blueprint :=
      ⟨⟨.ofNat n⟩, project, kind, none, audit⟩
    let row (n start : Nat) (ending : Option BlueprintId) : ValueRow :=
      ⟨⟨.ofNat n⟩, project, "k", "v", .string, none, ⟨.ofNat start⟩, ending⟩
    let plan : Plan := ⟨.write, [⟨"w", .insertConfig ⟨⟨.ofNat 1⟩, project, audit⟩, .stop⟩,
      ⟨"w", .insertBlueprint ⟨.ofNat 1⟩ (blueprint 1 .blueprint), .stop⟩,
      ⟨"w", .insertBlueprint ⟨.ofNat 1⟩ (blueprint 2 .mask), .stop⟩,
      ⟨"w", .insertValues ⟨.ofNat 1⟩ [row 1 1 none, row 2 1 (some ⟨.ofNat 9⟩),
        row 3 2 (some ⟨.ofNat 2⟩)], .stop⟩], false⟩
    let memory := StoreKind.memory.backend
    let s : Service memory :=
      ⟨(memory.inUnit .write (fun _ => default) plan.program StoreKind.memory.empty).store,
        .memory .empty⟩
    let supply : Supply := ⟨.ofUnix 1700000000 0, fun _ => default, project⟩
    let result (mask : Option BlueprintId) :=
      (s.handle .reject ⟨"w", "u"⟩ supply (.get ⟨.ofNat 1⟩ mask)).result
    StoreKind.memory.Reached s.store ∧
      ∃ key, result none = .error (.violation (.overlap key ⟨.ofNat 1⟩)) ∧
        result (some ⟨.ofNat 2⟩) = .error (.violation (.overlap key ⟨.ofNat 1⟩)) := by
  intro project audit blueprint row plan memory s supply result
  have hreached : StoreKind.memory.Reached s.store := .unit .write _ _ .empty (fun h => by cases h)
  obtain ⟨t, ⟨hsame, -⟩, hresolves⟩ :=
    Service.overlaps_reported .memory s hreached .reject ⟨"w", "u"⟩ supply
  subst hsame
  obtain ⟨-, hrepeated⟩ := hresolves project (by decide +kernel) (blueprint 1 .blueprint)
    (by decide +kernel) rfl
  obtain ⟨key, -, -, hreads⟩ := hrepeated (by decide +kernel)
  exact ⟨hreached, key, hreads (.get ⟨.ofNat 1⟩) none (Or.inl rfl),
    hreads (.get ⟨.ofNat 1⟩) (some ⟨.ofNat 2⟩) (Or.inl rfl)⟩

end ConfigTimeline
