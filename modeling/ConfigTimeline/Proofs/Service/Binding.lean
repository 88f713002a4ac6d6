import ConfigTimeline.Proofs.Service.Targets
import ConfigTimeline.Proofs.Store.Moves
import ConfigTimeline.Proofs.Store.Writes

/-!
What a request to pin environments comes to, told from the tables without remainder. Past the checks of
its targets only an identifier that is in use can be in the way. A request that is granted points the
pins that are stored at their targets, where they stand, and adds one pin for each environment that had
none, under the next identifiers in the order of the request.
-/

namespace ConfigTimeline

namespace Pinning

variable {sure : Memory.Tables → Call → Prop} {ids : Nat → Ulid} {m : Memory.Work} {n : Nat}
  {policy : MaskPolicy} {who : Identity} {now : Instant} {r : PinRequest}

/-- The identifiers from a position on, so many of them, are distinct and used by no pin of a
workspace. -/
@[mk_iff]
structure Fresh (ids : Nat → Ulid) (n count : Nat) (t : Memory.Tables) (workspace : String) :
    Prop where
  distinct : ∀ j < count, ∀ i < j, ids (n + i) ≠ ids (n + j)
  unused : ∀ i < count, ∀ pin ∈ recordsIn workspace t.pins, pin.id.ulid ≠ ids (n + i)

theorem pairwise_apart_stamped {project : ProjectId} {config : ConfigId} {targets : List PinTarget}
    (hnames : (targets.map (·.env)).Nodup)
    (hids : ∀ j < targets.length, ∀ i < j, ids (n + i) ≠ ids (n + j)) :
    (Program.stamped (newPin who now project config) ids n targets).Pairwise Memory.PinsApart := by
  induction targets generalizing n with
  | nil => exact .nil
  | cons target rest ih =>
      obtain ⟨hfirst, hrest⟩ := List.nodup_cons.mp hnames
      refine .cons ?_ (ih hrest ?_)
      · intro pin hpin
        obtain ⟨i, hi, later, hlater, rfl⟩ := Program.mem_stamped hpin
        refine ⟨?_, ?_⟩
        · intro hsame
          have hclash := hids (i + 1) (Nat.succ_lt_succ hi) 0 (Nat.succ_pos i)
          rw [Nat.add_zero, Nat.add_comm i 1, ← Nat.add_assoc] at hclash
          exact hclash (congrArg Id.ulid hsame)
        · intro _ henv
          exact hfirst (List.mem_map.mpr ⟨later, hlater, henv.symm⟩)
      · intro j hj i hij
        have hlater := hids (j + 1) (Nat.succ_lt_succ hj) (i + 1) (Nat.succ_lt_succ hij)
        rwa [Nat.add_comm i 1, Nat.add_comm j 1, ← Nat.add_assoc, ← Nat.add_assoc] at hlater

/-- New pins are stored under the next identifiers, or one of these is in use. -/
theorem ensures_insertNew (hmode : m.mode = .write)
    (hconstrained : Memory.Constrained m.tables) {project : ProjectId} {config : ConfigId}
    {targets : List PinTarget} (hnames : (targets.map (·.env)).Nodup)
    (hnew : ∀ target ∈ targets, ∀ pin ∈ m.tables.pinsOf who.workspace project,
      pin.env ≠ target.env) :
    (insertNew who now project config targets).Ensures sure ids
      (fun outcome m' n' =>
        (outcome = .ok () ∧ n' = n + targets.length ∧ Memory.Constrained m'.tables ∧
          m'.tables = { m.tables with
            pins := m.tables.pins ++ (Program.stamped (newPin who now project config) ids n
              targets).map fun pin => ⟨who.workspace, pin⟩ }) ∨
        ((∃ clash, outcome = .error (.violation (.clash clash))) ∧
          ¬Fresh ids n targets.length m.tables who.workspace)) m n := by
  cases targets with
  | nil =>
      refine Or.inl ⟨rfl, rfl, hconstrained, ?_⟩
      rw [Program.stamped, List.map_nil, List.append_nil]
  | cons first rest =>
      unfold insertNew
      have hdrawn : (Program.freshFor (newPin who now project config) (first :: rest)
          : Action (List Pin)).Ensures sure ids (Program.Ends True _) m n :=
        Program.ends_freshFor _ (first :: rest) m n
      refine Program.ensures_bind (hdrawn.mono ?_)
      rintro (e | pins) m' n' - hmade
      · exact absurd trivial hmade
      obtain ⟨rfl, rfl, rfl⟩ := hmade
      refine Program.ensures_write (c := .insertPins _) rfl List.nodup_nil hmode ?_ ?_
      · intro a hok
        exact Or.inl ⟨rfl, rfl, Memory.constrained_perform who.workspace _ hconstrained,
          Memory.perform_insertPins_ok hmode (Prod.ext hok rfl)⟩
      · intro e herror e' hkind
        obtain ⟨clash, rfl⟩ :=
          StoreError.eq_conflict (hkind.trans (Memory.perform_insertPins_error hmode herror))
        refine Or.inr ⟨⟨clash, rfl⟩, ?_⟩
        intro hfresh
        have hstored : ∀ stored ∈ recordsIn who.workspace m'.tables.pins,
            ∀ pin ∈ Program.stamped (newPin who now project config) ids n (first :: rest),
              Memory.PinsApart stored pin := by
          intro stored hstored pin hpin
          obtain ⟨i, hi, target, htarget, rfl⟩ := Program.mem_stamped hpin
          refine ⟨fun hsame => hfresh.unused i hi stored hstored (congrArg Id.ulid hsame), ?_⟩
          intro hproject
          exact hnew target htarget stored (List.mem_filter.mpr ⟨hstored, beq_iff_eq.mpr hproject⟩)
        obtain ⟨a, hok⟩ := Memory.perform_insertPins_of_free hmode hstored
          (pairwise_apart_stamped hnames hfresh.distinct)
        rw [herror] at hok
        cases hok

/-- Pins that are there are all pointed at their targets. -/
theorem ensures_moveStored (hmode : m.mode = .write)
    (hconstrained : Memory.Constrained m.tables) {project : ProjectId} {targets : List PinTarget}
    (hnames : (targets.map (·.env)).Nodup)
    (hstored : ∀ target ∈ targets,
      (who.workspace, project, target.env) ∈ m.tables.pins.map Scoped.envPlace) :
    (moveStored who now project targets).Ensures sure ids
      (fun outcome m' n' => outcome = .ok () ∧ n' = n ∧ Memory.Constrained m'.tables ∧
        m'.tables = { m.tables with
          pins := m.tables.pins.map
            (Memory.repointed who.workspace project who.user now targets) }) m n := by
  have hmoved :
      (Memory.Work.updatePins who.workspace project who.user now targets m).1 = targets.length ∧ _ :=
    Memory.updatePins_eq hnames hconstrained.pinEnvs hstored
  obtain ⟨hcount, htables⟩ := hmoved
  cases targets with
  | nil => exact ⟨rfl, rfl, hconstrained, htables⟩
  | cons first rest =>
      have hkept := Memory.constrained_perform who.workspace
        (.updatePins project who.user now (first :: rest)) hconstrained
      have hperform : Memory.perform who.workspace
          (.updatePins project who.user now (first :: rest)) m =
            (.ok (first :: rest).length,
              (Memory.Work.updatePins who.workspace project who.user now (first :: rest) m).2) := by
        rw [← hcount]
        simp [Memory.perform, hmode]
      unfold moveStored
      refine Program.ensures_bind (Program.ensures_write
        (c := .updatePins project who.user now (first :: rest)) rfl List.nodup_nil hmode ?_ ?_)
      · intro moved hok
        rw [hperform] at hok hkept ⊢
        obtain rfl : (first :: rest).length = moved := Except.ok.inj hok
        simp only [Program.Then, if_pos]
        exact ⟨rfl, rfl, hkept, htables⟩
      · intro e herror
        rw [hperform] at herror
        cases herror

end Pinning

namespace Memory

variable {t : Tables} {workspace : String} {project : ProjectId}

def Tables.hasPin (t : Tables) (workspace : String) (project : ProjectId) (env : String) : Bool :=
  t.pins.any (pinsEnv workspace project env)

theorem hasPin_iff {env : String} :
    t.hasPin workspace project env = true ↔
      (workspace, project, env) ∈ t.pins.map Scoped.envPlace := by
  rw [Tables.hasPin, List.any_eq_true, List.mem_map]
  simp only [pinsEnv_iff]

theorem hasPin_iff_pinsOf {env : String} :
    t.hasPin workspace project env = true ↔ ∃ pin ∈ t.pinsOf workspace project, pin.env = env := by
  rw [hasPin_iff, List.mem_map]
  constructor
  · rintro ⟨⟨other, pin⟩, hrow, hplace⟩
    obtain ⟨rfl, hproject, henv⟩ := Scoped.envPlace_eq_iff.mp hplace
    exact ⟨pin, mem_pinsOf.mpr ⟨hrow, hproject⟩, henv⟩
  · rintro ⟨pin, hpin, rfl⟩
    obtain ⟨hrow, rfl⟩ := mem_pinsOf.mp hpin
    exact ⟨⟨workspace, pin⟩, hrow, rfl⟩

end Memory

def PinRequest.unpinned (r : PinRequest) (t : Memory.Tables) (workspace : String) :
    List PinTarget :=
  r.targets.filter fun target => !t.hasPin workspace r.project target.env

namespace Memory

def Tables.bound (t : Tables) (who : Identity) (now : Instant) (r : PinRequest) (config : ConfigId)
    (ids : Nat → Ulid) (n : Nat) : Tables :=
  { t with
    pins := t.pins.map (repointed who.workspace r.project who.user now r.targets) ++
      (Program.stamped (Pinning.newPin who now r.project config) ids n
        (r.unpinned t who.workspace)).map fun pin => ⟨who.workspace, pin⟩ }

def Tables.pinsFor (t : Tables) (workspace : String) (r : PinRequest) : List Pin :=
  sortBy (fun a b => decide (a.env ≤ b.env))
    ((t.pinsOf workspace r.project).filter fun pin => r.names.contains pin.env)

variable {t : Tables} {who : Identity} {now : Instant} {r : PinRequest} {config : ConfigId}
  {ids : Nat → Ulid} {n : Nat}

/-- The pins of a request come in order of their names, and no two have one name. -/
theorem pairwise_pinsFor (h : Constrained t) (workspace : String) (r : PinRequest) :
    (t.pinsFor workspace r).Pairwise fun a b => a.env < b.env := by
  have hplaces : ((recordsIn workspace t.pins).map fun pin => (pin.project, pin.env)).Nodup :=
    nodup_map_recordsIn h.pinEnvs workspace
  refine pairwise_lt_sortBy (fun _ _ => decide_eq_true_iff) ?_
  refine List.Nodup.map_on ?_ ((hplaces.of_map.filter _).filter _)
  intro pin hpin other hother henv
  obtain ⟨hpin, hproject⟩ := List.mem_filter.mp (List.mem_filter.mp hpin).1
  obtain ⟨hother, hproject'⟩ := List.mem_filter.mp (List.mem_filter.mp hother).1
  exact List.inj_on_of_nodup_map hplaces hpin hother
    (Prod.ext ((beq_iff_eq.mp hproject).trans (beq_iff_eq.mp hproject').symm) henv)

/-- A pin that is stored has a target among those with pins, if it has a target at all. -/
theorem repointed_stored {row : Scoped Pin} (hrow : row ∈ t.pins) :
    repointed who.workspace r.project who.user now
        (r.targets.filter fun target => t.hasPin who.workspace r.project target.env) row =
      repointed who.workspace r.project who.user now r.targets row := by
  have hsame : ∀ target : PinTarget, decide (t.hasPin who.workspace r.project target.env = true ∧
      pinsEnv who.workspace r.project target.env row = true) =
        pinsEnv who.workspace r.project target.env row := by
    intro target
    rw [Bool.eq_iff_iff, decide_eq_true_iff, and_iff_right_iff_imp]
    intro hhit
    rw [hasPin_iff, ← pinsEnv_iff.mp hhit]
    exact List.mem_map_of_mem hrow
  unfold repointed
  rw [List.find?_filter]
  simp only [hsame]

/-- A pin for an environment without one is not among those that are moved. -/
theorem repointed_added {target : PinTarget} (htarget : target ∈ r.unpinned t who.workspace)
    (u : Ulid) :
    repointed who.workspace r.project who.user now
        (r.targets.filter fun target => t.hasPin who.workspace r.project target.env)
        ⟨who.workspace, Pinning.newPin who now r.project config u target⟩ =
      ⟨who.workspace, Pinning.newPin who now r.project config u target⟩ := by
  apply repointed_of_forall
  intro stored hstored
  rw [Bool.eq_false_iff, ne_eq, pinsEnv_iff]
  intro hplace
  simp only [Scoped.envPlace, Pinning.newPin, Prod.mk.injEq, true_and] at hplace
  have hpinned := (List.mem_filter.mp hstored).2
  have hnone := (List.mem_filter.mp htarget).2
  rw [hplace, hpinned] at hnone
  cases hnone

/-- Adding pins and moving others is one change of the tables. -/
theorem bound_eq :
    t.bound who now r config ids n =
      { t with
        pins := (t.pins ++ (Program.stamped (Pinning.newPin who now r.project config) ids n
          (r.unpinned t who.workspace)).map fun pin => (⟨who.workspace, pin⟩ : Scoped Pin)).map
            (repointed who.workspace r.project who.user now
              (r.targets.filter fun target => t.hasPin who.workspace r.project target.env)) } := by
  unfold Tables.bound
  congr 1
  rw [List.map_append, List.map_map]
  congr 1
  · exact List.map_congr_left fun row hrow => (repointed_stored hrow).symm
  · apply List.map_congr_left
    intro pin hpin
    obtain ⟨i, -, target, htarget, rfl⟩ := Program.mem_stamped hpin
    exact (repointed_added htarget _).symm

end Memory

namespace Pinning

variable {sure : Memory.Tables → Call → Prop} {ids : Nat → Ulid} {m : Memory.Work} {n : Nat}
  {policy : MaskPolicy} {who : Identity} {now : Instant} {r : PinRequest}

/-- How a request to pin environments ends: with the outcome, the tables and the number of identifiers
drawn. After a failure the tables do not matter, as they are taken back. -/
inductive Decided (policy : MaskPolicy) (who : Identity) (now : Instant) (r : PinRequest)
    (ids : Nat → Ulid) (n : Nat) (t : Memory.Tables) :
    Except ServiceError (List Pin) → Memory.Tables → Nat → Prop
  | noConfig (t' : Memory.Tables) (n' : Nat) (hnone : t.configOf who.workspace r.project = none) :
      Decided policy who now r ids n t (.error (.notFound (.config r.project))) t' n'
  | refused (config : Config) (e : ServiceError) (t' : Memory.Tables) (n' : Nat)
      (hconfig : t.configOf who.workspace r.project = some config)
      (hchecked : Checked policy who.workspace r t (.error e)) :
      Decided policy who now r ids n t (.error e) t' n'
  | clash (config : Config) (clash : Clash) (t' : Memory.Tables) (n' : Nat)
      (hconfig : t.configOf who.workspace r.project = some config)
      (hchecked : Checked policy who.workspace r t (.ok ()))
      (hused : ¬Fresh ids n (r.unpinned t who.workspace).length t who.workspace) :
      Decided policy who now r ids n t (.error (.violation (.clash clash))) t' n'
  | bound (config : Config) (hconfig : t.configOf who.workspace r.project = some config)
      (hchecked : Checked policy who.workspace r t (.ok ()))
      (hconstrained : Memory.Constrained (t.bound who now r config.id ids n)) :
      Decided policy who now r ids n t
        (.ok ((t.bound who now r config.id ids n).pinsFor who.workspace r))
        (t.bound who now r config.id ids n) (n + (r.unpinned t who.workspace).length)

namespace Decided

variable {t t' : Memory.Tables} {n' : Nat}

/-- After a failure it does not matter what the tables have become. -/
theorem of_error {t₁ : Memory.Tables} {e : ServiceError}
    (h : Decided policy who now r ids n t (.error e) t' n') :
    Decided policy who now r ids n t (.error e) t₁ n' := by
  cases h with
  | noConfig _ _ hnone => exact .noConfig _ _ hnone
  | refused config e _ _ hconfig hchecked => exact .refused config e _ _ hconfig hchecked
  | clash config clash _ _ hconfig hchecked hused =>
      exact .clash config clash _ _ hconfig hchecked hused

theorem of_ok {pins : List Pin} (h : Decided policy who now r ids n t (.ok pins) t' n') :
    ∃ config, t.configOf who.workspace r.project = some config ∧
      Checked policy who.workspace r t (.ok ()) ∧ Memory.Constrained t' ∧
      t' = t.bound who now r config.id ids n ∧ pins = t'.pinsFor who.workspace r ∧
      n' = n + (r.unpinned t who.workspace).length := by
  cases h with
  | bound config hconfig hchecked hconstrained =>
      exact ⟨config, hconfig, hchecked, hconstrained, rfl, rfl, rfl⟩

end Decided

/-- The pins that a store tells for the names of a request are those of the tables. They sort in one
way only. -/
theorem sortBy_eq_pinsFor {t : Memory.Tables} (h : Memory.Constrained t) {workspace : String}
    {pins : List Pin}
    (hpins : pins.Perm ((t.pinsOf workspace r.project).filter fun pin => r.names.contains pin.env)) :
    sortBy (fun a b => decide (a.env ≤ b.env)) pins = t.pinsFor workspace r :=
  sortBy_eq_of_perm (fun _ _ => decide_eq_true_iff)
    (hpins.trans (perm_sortBy _ _).symm) (Memory.pairwise_pinsFor h workspace r)

theorem ensures_bind (hmode : m.mode = .write) (hconstrained : Memory.Constrained m.tables)
    (hnames : r.names.Nodup) (hsure : ∀ c : Call, c.skips = 0 → sure m.tables c)
    (hsureAfter : ∀ config, ∀ c : Call, c.skips = 0 →
      sure (m.tables.bound who now r config ids n) c) :
    (Pinning.bind policy who now r).Ensures sure ids
      (fun outcome m' n' => Decided policy who now r ids n m.tables outcome m'.tables n') m n := by
  unfold Pinning.bind
  refine Program.ensures_bind (Action.ensures_config (hsure _ rfl) (.noConfig m.tables n) ?_)
  intro config hconfig
  refine Program.ensures_bind ((ensures_checkTargets hsure hconstrained who.workspace).mono ?_)
  rintro (e | _) m₁ n₁ - ⟨rfl, rfl, hchecked⟩
  · exact .refused config e m₁.tables n₁ hconfig hchecked
  refine Program.ensures_bind (Action.ensures_ask (c := .pins r.project r.names) rfl List.nodup_nil
    rfl (hsure _ rfl) ?_)
  intro stored hsame
  have hstored : stored.Perm ((m₁.tables.pinsOf who.workspace r.project).filter fun pin =>
      r.names.contains pin.env) := hsame
  -- Whether an environment has a pin is told from the pins of the names of the request.
  have hisStored : ∀ target ∈ r.targets, stored.any (·.env == target.env) =
      m₁.tables.hasPin who.workspace r.project target.env := by
    intro target htarget
    have hname : r.names.contains target.env = true :=
      List.contains_iff_mem.mpr (List.mem_map_of_mem htarget)
    rw [Bool.eq_iff_iff, List.any_eq_true, Memory.hasPin_iff_pinsOf]
    constructor
    · rintro ⟨pin, hpin, henv⟩
      exact ⟨pin, (List.mem_filter.mp (hstored.mem_iff.mp hpin)).1, beq_iff_eq.mp henv⟩
    · rintro ⟨pin, hpin, henv⟩
      refine ⟨pin, hstored.mem_iff.mpr (List.mem_filter.mpr ⟨hpin, ?_⟩), beq_iff_eq.mpr henv⟩
      rw [henv]
      exact hname
  have hnew : r.targets.filter (fun target => !stored.any (·.env == target.env)) =
      r.unpinned m₁.tables who.workspace :=
    List.filter_congr fun target htarget => by rw [hisStored target htarget]
  have hold : r.targets.filter (fun target => stored.any (·.env == target.env)) =
      r.targets.filter fun target => m₁.tables.hasPin who.workspace r.project target.env :=
    List.filter_congr hisStored
  simp only [Program.Then, hnew, hold]
  refine Program.ensures_bind ((ensures_insertNew hmode hconstrained
    (hnames.sublist (List.filter_sublist.map _)) ?_).mono ?_)
  · intro target htarget pin hpin henv
    have hnone := (List.mem_filter.mp htarget).2
    rw [Memory.hasPin_iff_pinsOf.mpr ⟨pin, hpin, henv⟩] at hnone
    cases hnone
  rintro outcome m₂ n₂ hmode₂ (⟨rfl, rfl, hconstrained₂, htables₂⟩ | ⟨⟨clash, rfl⟩, hused⟩)
  case inr => exact .clash config clash m₂.tables n₂ hconfig hchecked hused
  refine Program.ensures_bind ((ensures_moveStored (hmode₂.trans hmode) hconstrained₂
    (hnames.sublist (List.filter_sublist.map _)) ?_).mono ?_)
  · intro target htarget
    rw [htables₂, List.map_append]
    exact List.mem_append_left _ (Memory.hasPin_iff.mp (List.mem_filter.mp htarget).2)
  rintro outcome m₃ n₃ - ⟨rfl, rfl, hconstrained₃, htables₃⟩
  have htables : m₃.tables = m₁.tables.bound who now r config.id ids n₁ := by
    rw [htables₃, htables₂, Memory.bound_eq]
    rfl
  refine Program.ensures_bind (Action.ensures_ask (c := .pins r.project r.names) rfl List.nodup_nil
    rfl (htables ▸ hsureAfter config.id (.pins r.project r.names) rfl) ?_)
  intro pins hpins
  have hdecided := Decided.bound config hconfig hchecked (htables ▸ hconstrained₃)
  rw [← htables, ← sortBy_eq_pinsFor hconstrained₃ hpins] at hdecided
  exact hdecided

end Pinning

end ConfigTimeline
