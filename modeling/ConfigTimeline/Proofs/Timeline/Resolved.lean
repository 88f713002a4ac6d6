import ConfigTimeline.Proofs.Service.Resolving
import ConfigTimeline.Proofs.Timeline.Chains

/-!
Reading any blueprint of a run back. Its values are never stored as such: they are the rows effective
there, and by the timelines those are what the commits up to it set each key to.
-/

namespace ConfigTimeline

namespace Timeline

variable {records : List Blueprint} {stored : List ValueRow} {commits before after : List Commit}
  {c : Commit}

/-- Of the rows of a key, the one that began last is effective. -/
theorem filter_effectiveAt_filter_key (h : Timeline records stored commits) (b : BlueprintId)
    (key : String) :
    (stored.filter (·.effectiveAt b)).filter (·.key == key) =
      ((chain key stored).filter fun row => decide (row.validFrom ≤ b)).getLast?.toList := by
  rw [List.filter_filter, filter_effectiveAt, (h.gapless key).filter_effectiveAt]

/-- No key is effective twice. -/
theorem nodup_effectiveAt (h : Timeline records stored commits) (b : BlueprintId) :
    ((stored.filter (·.effectiveAt b)).map (·.key)).Nodup := by
  refine nodup_map_of_filter fun key => ?_
  rw [h.filter_effectiveAt_filter_key]
  exact Option.length_toList_le

/-- The row that began last up to a commit holds what the commits up to that one configure. -/
theorem submitted_eq_configured (h : Timeline records stored (before ++ c :: after))
    (key : String) :
    ((chain key stored).filter fun row => decide (row.validFrom ≤ c.blueprint)).getLast?.map
        ValueRow.submitted =
      configured ((before ++ [c]).map Commit.draft) key := by
  rw [← getLast?_settings, ← filter_settings h.increasing, ← h.values key, List.filter_map,
    List.getLast?_map, Option.map_map]
  rfl

/-- A view of what is effective at a commit shows what the commits up to it configure. -/
theorem value?_eq_configured (h : Timeline records stored (before ++ c :: after))
    {v : BlueprintView} (hvalues : v.values.Perm (stored.filter (·.effectiveAt c.blueprint)))
    (hkeys : (v.values.map (·.key)).Nodup) (key : String) :
    (v.value? key).map ValueRow.submitted =
      configured ((before ++ [c]).map Commit.draft) key := by
  have hsame := hvalues.filter (·.key == key)
  rw [filter_eq_toList_find? hkeys, h.filter_effectiveAt_filter_key] at hsame
  have hfound := congrArg List.head? (eq_toList_of_perm hsame)
  rw [Option.head?_toList, Option.head?_toList] at hfound
  rw [← h.submitted_eq_configured, ← hfound]
  rfl

end Timeline

theorem Memory.of_target {t : Memory.Tables} {workspace : String} {project : ProjectId}
    {at? : Option BlueprintId} {b : Blueprint} (h : t.target workspace project at? = some b) :
    b.project = project ∧ b.kind = .blueprint := by
  cases at? with
  | none => exact (Memory.mem_newestFirst.mp (List.mem_of_head? h)).2
  | some id =>
      have hkept := (Option.filter_eq_some_iff.mp h).2
      simpa using hkept

/-- A result shows what a project is configured to after some commits, the last of which is that of
the blueprint asked for: under each key what the last draft that has the key sets it to. -/
def ShowsConfigured (project : ProjectId) (id : BlueprintId) (commits : List Commit)
    (result : Except ServiceError Reply) : Prop :=
  ∃ v, result = .ok (.view v) ∧ v.blueprint.id = id ∧ v.blueprint.project = project ∧
    v.blueprint.kind = .blueprint ∧ (v.values.map (·.key)).Nodup ∧
      ∀ key, (v.value? key).map ValueRow.submitted = configured (commits.map Commit.draft) key

namespace Recorded

variable {log : List LogEntry} {t : Memory.Tables} {workspace : String} {project : ProjectId}
  {before after : List Commit} {c : Commit}

theorem target_of_commit (h : Recorded log t) (hconstrained : Memory.Constrained t)
    (hcommits : commits workspace project log = before ++ c :: after) :
    ∃ b, t.blueprintById workspace c.blueprint = some b ∧ b.project = project ∧
      t.target workspace project (some c.blueprint) = some b := by
  have htimeline := h.timelines workspace project
  obtain ⟨b, hb, hkind, hid⟩ := htimeline.exists_record
    (hcommits ▸ List.mem_append_right before List.mem_cons_self)
  obtain ⟨hstored, hproject⟩ := Memory.mem_blueprintsOf.mp hb
  have hfound : t.blueprintById workspace c.blueprint = some b :=
    (Memory.blueprintById_eq_some hconstrained).mpr ⟨hstored, hid⟩
  refine ⟨b, hfound, hproject, ?_⟩
  simp [Memory.Tables.target, hfound, hproject, hkind]

/-- The latest blueprint of a project is that of the last commit. -/
theorem target_of_last (h : Recorded log t)
    (hcommits : commits workspace project log = before ++ [c]) :
    ∃ b, b.id = c.blueprint ∧ t.target workspace project none = some b := by
  have htimeline := h.timelines workspace project
  rw [hcommits] at htimeline
  obtain ⟨b, hb, hkind, hid⟩ := htimeline.exists_record
    (List.mem_append_right before List.mem_cons_self)
  obtain ⟨hstored, hproject⟩ := Memory.mem_blueprintsOf.mp hb
  have hlisted : b ∈ t.newestFirst workspace project .blueprint :=
    Memory.mem_newestFirst.mpr ⟨hstored, hproject, hkind⟩
  cases hlatest : (t.newestFirst workspace project .blueprint).head? with
  | none =>
      rw [List.head?_eq_none_iff.mp hlatest] at hlisted
      cases hlisted
  | some latest =>
      refine ⟨latest, ?_, hlatest⟩
      -- The greatest id belongs to some commit, and none comes after the last one.
      have hle := Memory.le_latest hlatest hlisted
      obtain ⟨hstored', hproject', hkind'⟩ :=
        Memory.mem_newestFirst.mp (List.mem_of_head? hlatest)
      obtain ⟨last, hlast, hid'⟩ := htimeline.exists_commit
        (Memory.mem_blueprintsOf.mpr ⟨hstored', hproject'⟩) hkind'
      have hge : latest.id ≤ c.blueprint := by
        rw [← hid']
        rcases List.mem_append.mp hlast with hearlier | hsame
        · exact le_of_lt ((List.pairwise_append.mp htimeline.increasing).2.2 last hearlier c
            List.mem_cons_self)
        · rw [List.mem_singleton.mp hsame]
      exact le_antisymm hge (hid ▸ hle)

theorem resolvable (h : Recorded log t)
    (hcommits : commits workspace project log = before ++ c :: after) {at? : Option BlueprintId}
    {b : Blueprint} (htarget : t.target workspace project at? = some b) :
    t.Resolvable workspace project at? := by
  have htimeline := h.timelines workspace project
  obtain ⟨record, hrecord, _⟩ := htimeline.exists_record
    (hcommits ▸ List.mem_append_right before List.mem_cons_self)
  exact ⟨h.configs workspace project (List.ne_nil_of_mem hrecord), b, htarget,
    htimeline.nodup_effectiveAt b.id⟩

theorem showsConfigured (h : Recorded log t)
    (hcommits : commits workspace project log = before ++ c :: after) {at? : Option BlueprintId}
    {v : BlueprintView} (hresolves : t.Resolves workspace project at? v)
    (hid : v.blueprint.id = c.blueprint) :
    ShowsConfigured project c.blueprint (before ++ [c]) (.ok (.view v)) := by
  have htimeline := h.timelines workspace project
  rw [hcommits] at htimeline
  have hvalues := hresolves.values
  rw [hid] at hvalues
  obtain ⟨hproject, hkind⟩ := Memory.of_target hresolves.target
  exact ⟨v, rfl, hid, hproject, hkind, hresolves.keys,
    htimeline.value?_eq_configured hvalues hresolves.keys⟩

section Ends

variable {sure : Memory.Tables → Call → Prop} {ids : Nat → Ulid}

theorem ends_atBlueprint (h : Recorded log t) (hconstrained : Memory.Constrained t)
    (hsure : ∀ c : Call, c.skips = 0 → sure t c)
    (hcommits : commits workspace project log = before ++ c :: after) :
    (Resolution.atBlueprint workspace c.blueprint).Ensures sure ids
      (Program.Ends True fun v _ _ =>
        ShowsConfigured project c.blueprint (before ++ [c]) (.ok (.view v)))
      (Memory.backend.start .read t) 0 := by
  obtain ⟨b, hfound, hproject, htarget⟩ := h.target_of_commit hconstrained hcommits
  have hresolvable : t.Resolvable workspace b.project (some c.blueprint) := by
    rw [hproject]
    exact h.resolvable hcommits htarget
  refine (Resolution.ends_atBlueprint workspace c.blueprint (fun _ : True => hsure)
    fun _ => ⟨b, hfound, hresolvable⟩).mono ?_
  rintro (e | v) m n - hends
  · exact hends
  · obtain ⟨-, b', hfound', hresolves⟩ := hends
    obtain rfl : b = b' := Option.some.inj (hfound.symm.trans hfound')
    rw [hproject] at hresolves
    have hsame : v.blueprint = b := Option.some.inj (hresolves.target.symm.trans htarget)
    refine h.showsConfigured hcommits hresolves ?_
    rw [hsame]
    exact ((Memory.blueprintById_eq_some hconstrained).mp hfound).2

theorem ends_latest (h : Recorded log t) (hsure : ∀ c : Call, c.skips = 0 → sure t c)
    (hcommits : commits workspace project log = before ++ [c]) :
    (Resolution.effective workspace project none).Ensures sure ids
      (Program.Ends True fun v _ _ =>
        ShowsConfigured project c.blueprint (before ++ [c]) (.ok (.view v)))
      (Memory.backend.start .read t) 0 := by
  obtain ⟨b, hid, htarget⟩ := h.target_of_last hcommits
  refine (Resolution.ends_effective workspace project none (fun _ : True => hsure)
    fun _ => h.resolvable hcommits htarget).mono ?_
  rintro (e | v) m n - hends
  · exact hends
  · obtain ⟨-, hresolves⟩ := hends
    have hsame : v.blueprint = b := Option.some.inj (hresolves.target.symm.trans htarget)
    exact h.showsConfigured hcommits hresolves (hsame ▸ hid)

end Ends

end Recorded

/-- The view that an action is certain to end with is the result of reading it. -/
theorem TableModel.view_of_certain {b : Backend} (model : TableModel b) {s : Service b}
    {t : Memory.Tables} (hstore : model.Holds s.store t) (workspace : String) {supply : Supply}
    {action : Action BlueprintView} {P : BlueprintView → Prop}
    (h : action.Ensures model.Sure supply.ids (Program.Ends True fun v _ _ => P v)
      (Memory.backend.start .read t) 0) :
    ∃ v, (s.view workspace supply action none).result = .ok (.view v) ∧ P v := by
  have hends : (Reply.view <$> (action >>= Resolution.masked workspace none)).Ensures model.Sure
      supply.ids (Program.Ends True fun reply _ _ => ∃ v, reply = .view v ∧ P v)
      (Memory.backend.start .read t) 0 :=
    Program.ends_map <| Program.ends_bind h fun v _ _ _ hv => ⟨v, rfl, hv⟩
  obtain ⟨_, -, hcase⟩ := model.runAction_ends (P := fun reply _ => ∃ v, reply = .view v ∧ P v)
    hstore hends
  rcases hcase with ⟨_, _, hfalse, _⟩ | ⟨reply, hresult, v, rfl, hv⟩
  · exact absurd trivial hfalse
  · exact ⟨v, hresult, hv⟩

/-- Where records read back, a store answers every call that skips no records. -/
theorem StoreKind.sure_of_dated {kind : StoreKind} {t : Memory.Tables}
    (h : kind = .database → t.Dated) {c : Call} (hskips : c.skips = 0) :
    kind.tableModel.Sure t c := by
  cases kind with
  | memory => trivial
  | database => exact ⟨h rfl, hskips ▸ Nat.zero_le _⟩

theorem Service.map_call_run {b : Backend} (s : Service b) (calls : List ServiceCall) :
    (s.run calls).1.map LogEntry.call = calls := by
  induction calls generalizing s with
  | nil => rfl
  | cons call rest ih => exact congrArg (call :: ·) (ih _)

/-- After any calls, on either kind of store, every blueprint of a project reads back as what the
drafts committed to the project up to it configure, and the latest one is the last that was committed.
The clock that a database is used under shows years of four digits, for which its rows have room. -/
theorem Service.every_blueprint_reads_back (kind : StoreKind) (directory : Directory)
    (calls : List ServiceCall)
    (hclock : kind = .database → ∀ call ∈ calls, call.supply.now.FourDigitYear)
    (policy : MaskPolicy) (who : Identity) (supply : Supply) (project : ProjectId) :
    let ran := (Service.new kind directory).run calls
    let committed := commits who.workspace project ran.1
    committed.Pairwise (fun a b => a.blueprint < b.blueprint) ∧
      (∀ id, ran.2.kindOf who.workspace project id = some .blueprint ↔
        ∃ c ∈ committed, c.blueprint = id) ∧
      (∀ before c after, committed = before ++ c :: after →
        ShowsConfigured project c.blueprint (before ++ [c])
          (ran.2.handle policy who supply (.get c.blueprint none)).result) ∧
      ∀ before c, committed = before ++ [c] →
        ShowsConfigured project c.blueprint (before ++ [c])
          (ran.2.handle policy who supply (.latest project none)).result := by
  obtain ⟨t, hstore, hrecorded⟩ := kind.run_recorded directory calls
  have hconstrained := kind.tableModel.constrained (kind.tableModel.start .read hstore)
  have htimeline := hrecorded.timelines who.workspace project
  have hsure : ∀ c : Call, c.skips = 0 → kind.tableModel.Sure t c := by
    intro c hskips
    refine StoreKind.sure_of_dated ?_ hskips
    intro hkind
    refine hrecorded.dated ?_
    intro entry hentry
    refine hclock hkind entry.call ?_
    rw [← Service.map_call_run (Service.new kind directory) calls]
    exact List.mem_map_of_mem hentry
  refine ⟨htimeline.increasing, ?_, ?_, ?_⟩
  · intro id
    rw [StoreKind.kindOf_eq_some hstore]
    constructor
    · rintro ⟨b, hb, rfl, hkind⟩
      exact htimeline.exists_commit hb hkind
    · rintro ⟨c, hc, rfl⟩
      obtain ⟨b, hb, hkind, hid⟩ := htimeline.exists_record hc
      exact ⟨b, hb, hid, hkind⟩
  · intro before c after hcommits
    obtain ⟨v, hresult, hshows⟩ := kind.tableModel.view_of_certain hstore who.workspace
      (hrecorded.ends_atBlueprint hconstrained hsure hcommits)
    exact hresult ▸ hshows
  · intro before c hcommits
    obtain ⟨v, hresult, hshows⟩ := kind.tableModel.view_of_certain hstore who.workspace
      (hrecorded.ends_latest hsure hcommits)
    exact hresult ▸ hshows

/-- A key that is set twice, read back at both blueprints. -/
theorem Service.every_blueprint_reads_back_rewritten :
    let who : Identity := ⟨"w", "u"⟩
    let project : ProjectId := .ofNat 7
    let draft (value : String) : Draft := ⟨none, .blueprint, none, [⟨"k", value, .string, none⟩]⟩
    let supply (first : Nat) : Supply :=
      ⟨.ofUnix 1700000000 0, fun n => .ofNat (first + n), project⟩
    let create (first : Nat) (value : String) : ServiceCall :=
      ⟨.reject, who, supply first, .create ⟨none, some "p", none, draft value⟩⟩
    let calls := [create 10 "old", create 20 "new"]
    let ran := (Service.new .database (.memory .empty)).run calls
    let first : Commit := ⟨⟨.ofNat 11⟩, draft "old"⟩
    let second : Commit := ⟨⟨.ofNat 20⟩, draft "new"⟩
    (∀ call ∈ calls, call.supply.now.FourDigitYear) ∧
      ShowsConfigured project first.blueprint [first]
        (ran.2.handle .reject who (supply 30) (.get first.blueprint none)).result ∧
      ShowsConfigured project second.blueprint [first, second]
        (ran.2.handle .reject who (supply 30) (.latest project none)).result := by
  intro who project draft supply create calls ran first second
  have hclock : ∀ call ∈ calls, call.supply.now.FourDigitYear := by decide
  have hcommits : commits who.workspace project ran.1 = [first, second] := by decide +kernel
  obtain ⟨-, -, hget, hlatest⟩ := Service.every_blueprint_reads_back .database (.memory .empty) calls
    (fun _ => hclock) .reject who (supply 30) project
  exact ⟨hclock, hget [] first [second] hcommits, hlatest [first] second hcommits⟩

end ConfigTimeline
