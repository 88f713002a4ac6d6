import ConfigTimeline.Proofs.Service.Resolving
import ConfigTimeline.Service.Pinning

/-!
The checks of the targets of a request to pin environments, told from the tables without remainder. They
come in a fixed order, and report every target that fails them, each once and in the order of the
request. A store may tell the kinds of records in whatever order it likes; it does not show.
-/

namespace ConfigTimeline

/-- The members of a list that pass a test, each once, in the order in which they are first seen. -/
structure FirstSeen {α : Type} [DecidableEq α] (items : List α) (P : α → Prop) (seen : List α) :
    Prop where
  mem : ∀ a, a ∈ seen ↔ a ∈ items ∧ P a
  order : seen.Pairwise fun a b => items.idxOf a < items.idxOf b

namespace FirstSeen

variable {α : Type} [DecidableEq α] {items seen : List α} {P : α → Prop}

theorem nodup (h : FirstSeen items P seen) : seen.Nodup :=
  h.order.imp fun hlt hsame => by
    subst hsame
    exact lt_irrefl _ hlt

/-- One more item is seen first unless it has been seen before. -/
theorem concat (h : FirstSeen items (fun _ => True) seen) (a : α) :
    FirstSeen (items ++ [a]) (fun _ => True) (if a ∈ seen then seen else seen ++ [a]) := by
  have hseen : ∀ b, b ∈ seen ↔ b ∈ items := fun b => (h.mem b).trans (and_iff_left trivial)
  have horder : seen.Pairwise fun b c => (items ++ [a]).idxOf b < (items ++ [a]).idxOf c := by
    refine h.order.imp_of_mem ?_
    intro b c hb hc hlt
    rwa [List.idxOf_append_of_mem ((hseen b).mp hb), List.idxOf_append_of_mem ((hseen c).mp hc)]
  split
  · rename_i hold
    refine ⟨?_, horder⟩
    intro b
    rw [hseen, List.mem_append, List.mem_singleton, and_true]
    constructor
    · exact Or.inl
    · rintro (hb | rfl)
      · exact hb
      · exact (hseen b).mp hold
  · rename_i hnew
    refine ⟨?_, ?_⟩
    · intro b
      rw [List.mem_append, List.mem_append, hseen, and_true]
    · rw [List.pairwise_append]
      refine ⟨horder, List.pairwise_singleton _ _, ?_⟩
      intro b hb last hlast
      rw [List.mem_singleton.mp hlast]
      have hnotMem : a ∉ items := fun ha => hnew ((hseen a).mpr ha)
      rw [List.idxOf_append_of_mem ((hseen b).mp hb), List.idxOf_append_of_notMem hnotMem]
      have hlt := List.idxOf_lt_length_iff.mpr ((hseen b).mp hb)
      omega

theorem filter (h : FirstSeen items (fun _ => True) seen) {p : α → Bool}
    (hp : ∀ a ∈ items, p a = true ↔ P a) : FirstSeen items P (seen.filter p) := by
  refine ⟨?_, h.order.filter p⟩
  intro a
  rw [List.mem_filter, h.mem, and_true]
  constructor
  · rintro ⟨ha, hpass⟩
    exact ⟨ha, (hp a ha).mp hpass⟩
  · rintro ⟨ha, hP⟩
    exact ⟨ha, (hp a ha).mpr hP⟩

theorem ne_nil_iff (h : FirstSeen items P seen) : seen ≠ [] ↔ ∃ a ∈ items, P a := by
  constructor
  · intro hne
    obtain ⟨a, ha⟩ := List.exists_mem_of_ne_nil seen hne
    exact ⟨a, (h.mem a).mp ha⟩
  · rintro ⟨a, ha⟩
    exact List.ne_nil_of_mem ((h.mem a).mpr ha)

end FirstSeen

namespace PinRequest

def wanted (r : PinRequest) : List BlueprintId := r.targets.map (·.blueprint)

/-- The blueprints asked for are those of the targets, in the order in which they are first seen. -/
theorem firstSeen_blueprints (r : PinRequest) :
    FirstSeen r.wanted (fun _ => True) r.blueprints := by
  have hfold : ∀ (rest : List PinTarget) (items seen : List BlueprintId),
      FirstSeen items (fun _ => True) seen →
        FirstSeen (items ++ rest.map (·.blueprint)) (fun _ => True) (rest.foldl
          (fun seen t => if t.blueprint ∈ seen then seen else seen ++ [t.blueprint]) seen) := by
    intro rest
    induction rest with
    | nil =>
        intro items seen h
        rwa [List.map_nil, List.append_nil]
    | cons target rest ih =>
        intro items seen h
        have hnext := ih _ _ (h.concat target.blueprint)
        rwa [List.append_assoc] at hnext
  exact hfold r.targets [] [] ⟨by simp, List.Pairwise.nil⟩

theorem nodup_blueprints (r : PinRequest) : r.blueprints.Nodup := r.firstSeen_blueprints.nodup

end PinRequest

namespace Memory

variable {t : Tables} {workspace : String} {project : ProjectId}

namespace Tables

def HasRecord (t : Tables) (workspace : String) (project : ProjectId) (id : BlueprintId) : Prop :=
  ∃ b ∈ t.blueprintsOf workspace project, b.id = id

def HasMask (t : Tables) (workspace : String) (project : ProjectId) (id : BlueprintId) : Prop :=
  ∃ b ∈ t.blueprintsOf workspace project, b.id = id ∧ b.kind = .mask

end Tables

/-- A store tells the kinds of all records of the project that it is asked for, and of no others. -/
theorem mem_kinds (h : Constrained t) {ids : List BlueprintId}
    {known : BlueprintId × BlueprintKind} :
    known ∈ t.kinds workspace project ids ↔
      known.1 ∈ ids ∧ ∃ b ∈ t.blueprintsOf workspace project,
        b.id = known.1 ∧ b.kind = known.2 := by
  unfold Tables.kinds
  rw [List.mem_filterMap]
  constructor
  · rintro ⟨id, hid, hfound⟩
    obtain ⟨b, hb, rfl⟩ := Option.map_eq_some_iff.mp hfound
    obtain ⟨hstored, hproject⟩ := Option.filter_eq_some_iff.mp hb
    obtain ⟨hrecord, rfl⟩ := (blueprintById_eq_some h).mp hstored
    exact ⟨hid, b, mem_blueprintsOf.mpr ⟨hrecord, beq_iff_eq.mp hproject⟩, rfl, rfl⟩
  · rintro ⟨hid, b, hb, hsame, hkind⟩
    obtain ⟨hrecord, hproject⟩ := mem_blueprintsOf.mp hb
    refine ⟨known.1, hid, Option.map_eq_some_iff.mpr ⟨b, ?_, Prod.ext hsame hkind⟩⟩
    rw [Option.filter_eq_some_iff]
    exact ⟨(blueprintById_eq_some h).mpr ⟨hrecord, hsame⟩, beq_iff_eq.mpr hproject⟩

end Memory

namespace Pinning

variable {sure : Memory.Tables → Call → Prop} {ids : Nat → Ulid} {m : Memory.Work} {n : Nat}
  {policy : MaskPolicy} {who : Identity} {now : Instant} {r : PinRequest}

/-- How the targets of a request pass the checks, or which of them fail. -/
inductive Checked (policy : MaskPolicy) (workspace : String) (r : PinRequest) (t : Memory.Tables) :
    Except ServiceError Unit → Prop
  | missing (absent : List BlueprintId)
      (hfirst : FirstSeen r.wanted (fun id => ¬t.HasRecord workspace r.project id) absent)
      (hsome : ∃ id ∈ r.wanted, ¬t.HasRecord workspace r.project id) :
      Checked policy workspace r t (.error (.notFound (.blueprints absent)))
  | masks (masks : List BlueprintId) (hknown : ∀ id ∈ r.wanted, t.HasRecord workspace r.project id)
      (hpolicy : policy = .reject)
      (hfirst : FirstSeen r.wanted (t.HasMask workspace r.project) masks)
      (hsome : ∃ id ∈ r.wanted, t.HasMask workspace r.project id) :
      Checked policy workspace r t (.error (.notFound (.masksAsTargets masks)))
  | passed (hknown : ∀ id ∈ r.wanted, t.HasRecord workspace r.project id)
      (hmasks : policy = .reject → ∀ id ∈ r.wanted, ¬t.HasMask workspace r.project id) :
      Checked policy workspace r t (.ok ())

theorem ensures_checkTargets (hsure : ∀ c : Call, c.skips = 0 → sure m.tables c)
    (hconstrained : Memory.Constrained m.tables) (workspace : String) :
    (checkTargets policy workspace r).Ensures sure ids
      (fun outcome m' n' => m' = m ∧ n' = n ∧ Checked policy workspace r m.tables outcome) m n := by
  unfold checkTargets
  refine Program.ensures_bind (Action.ensures_ask (c := .kinds r.project r.blueprints) rfl
    r.nodup_blueprints rfl (hsure _ rfl) ?_)
  intro kinds hsame
  have hkinds : kinds.Perm (m.tables.kinds workspace r.project r.blueprints) := hsame
  have hseen : ∀ id ∈ r.wanted, id ∈ r.blueprints :=
    fun id hid => (r.firstSeen_blueprints.mem id).mpr ⟨hid, trivial⟩
  have habsent : FirstSeen r.wanted (fun id => ¬m.tables.HasRecord workspace r.project id)
      (missingTargets r.blueprints kinds) := by
    refine r.firstSeen_blueprints.filter fun id hid => ?_
    rw [Bool.not_eq_true', Bool.eq_false_iff, ne_eq, List.any_eq_true, not_iff_not]
    constructor
    · rintro ⟨known, hknown, hsame⟩
      obtain ⟨-, b, hb, hb', -⟩ := (Memory.mem_kinds hconstrained).mp (hkinds.mem_iff.mp hknown)
      exact ⟨b, hb, hb'.trans (beq_iff_eq.mp hsame)⟩
    · rintro ⟨b, hb, rfl⟩
      exact ⟨(b.id, b.kind), hkinds.mem_iff.mpr ((Memory.mem_kinds hconstrained).mpr
        ⟨hseen _ hid, b, hb, rfl, rfl⟩), beq_self_eq_true _⟩
  have hmasks : FirstSeen r.wanted (m.tables.HasMask workspace r.project)
      (maskTargets r.blueprints kinds) := by
    refine r.firstSeen_blueprints.filter fun id hid => ?_
    rw [List.any_eq_true]
    constructor
    · rintro ⟨known, hknown, hsame⟩
      rw [Bool.and_eq_true, beq_iff_eq, beq_iff_eq] at hsame
      obtain ⟨-, b, hb, hb', hkind⟩ :=
        (Memory.mem_kinds hconstrained).mp (hkinds.mem_iff.mp hknown)
      exact ⟨b, hb, hb'.trans hsame.1, hkind.trans hsame.2⟩
    · rintro ⟨b, hb, rfl, hkind⟩
      refine ⟨(b.id, b.kind), hkinds.mem_iff.mpr ((Memory.mem_kinds hconstrained).mpr
        ⟨hseen _ hid, b, hb, rfl, rfl⟩), ?_⟩
      rw [hkind, beq_self_eq_true, beq_self_eq_true, Bool.and_self]
  simp only [Program.Then]
  split
  · rename_i hsome
    exact ⟨rfl, rfl, .missing _ habsent (habsent.ne_nil_iff.mp hsome)⟩
  · rename_i hnone
    have hknown : ∀ id ∈ r.wanted, m.tables.HasRecord workspace r.project id := by
      intro id hid
      by_contra hunknown
      exact hnone (habsent.ne_nil_iff.mpr ⟨id, hid, hunknown⟩)
    split
    · rename_i hrefused
      exact ⟨rfl, rfl, .masks _ hknown hrefused.2 hmasks (hmasks.ne_nil_iff.mp hrefused.1)⟩
    · rename_i hallowed
      refine ⟨rfl, rfl, .passed hknown ?_⟩
      intro hpolicy id hid hmask
      exact hallowed ⟨hmasks.ne_nil_iff.mpr ⟨id, hid, hmask⟩, hpolicy⟩

/-- Pins have no part in the checks, so that targets that pass them do so again. -/
theorem Checked.not_error {t' : Memory.Tables} (h : Checked policy workspace r t (.ok ()))
    (hsame : t'.blueprints = t.blueprints) (e : ServiceError) :
    ¬Checked policy workspace r t' (.error e) := by
  have hrecords : t'.blueprintsOf workspace r.project = t.blueprintsOf workspace r.project := by
    unfold Memory.Tables.blueprintsOf
    rw [hsame]
  cases h with
  | passed hknown hmasks =>
      intro herror
      cases herror with
      | missing absent hfirst hsome =>
          obtain ⟨id, hid, hunknown⟩ := hsome
          unfold Memory.Tables.HasRecord at hunknown
          rw [hrecords] at hunknown
          exact hunknown (hknown id hid)
      | masks masks hknown' hpolicy hfirst hsome =>
          obtain ⟨id, hid, hmask⟩ := hsome
          unfold Memory.Tables.HasMask at hmask
          rw [hrecords] at hmask
          exact hmasks hpolicy id hid hmask

end Pinning

end ConfigTimeline
