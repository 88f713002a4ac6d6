import ConfigTimeline.Proofs.Service.Separation
import ConfigTimeline.Proofs.Store.Commuting
import ConfigTimeline.Proofs.Timeline.History

/-!
Writes on two projects of a workspace commute. Each is one unit of work with its own time and its own
fresh identifiers; if both succeed in one order, they succeed in the other, with the same answers, and
leave the same rows.
-/

namespace ConfigTimeline

theorem follows_of_plain {α : Type} {workspace : String} {project : ProjectId} {p : Action α}
    (h : p.Makes workspace (Call.PlainOf project)) (x : Database.TableName × String) :
    p.Follows (Call.LooksUp x) (Call.Stores x) := by
  refine Program.follows_of_makes (h.mono ?_)
  rintro c ⟨-, hwrites | hnamed⟩ ⟨hreads, hx⟩
  · rw [hreads] at hwrites
    cases hwrites
  · rw [hnamed] at hx
    cases hx

theorem Program.WritesTo.map {ε α β : Type} {workspace : String} {project : ProjectId}
    {p : Program ε α} {f : α → β} (h : p.WritesTo workspace project) :
    (f <$> p).WritesTo workspace project where
  makes := makes_map h.makes
  stores x := follows_bind (h.stores x) fun _ => trivial

namespace Versioning

variable {who : Identity} {now : Instant} {project : ProjectId}

theorem must_addConfig (id : ConfigId) :
    (addConfig who now project id).Must (Call.Stores (.configs, id.text)) :=
  Program.must_bind_left (Program.must_ask ⟨rfl, List.mem_cons_self⟩)

/-- The config id of the caller's choice is looked up only to make a config with it. -/
theorem follows_ensureConfig (chosen : Option ConfigId) (x : Database.TableName × String) :
    (ensureConfig who now project chosen).Follows (Call.LooksUp x) (Call.Stores x) := by
  have hstored : (Action.ask who.workspace (.configOf project)).Makes who.workspace
      (Call.PlainOf project) := Program.makes_ask ⟨.of_eq rfl rfl rfl, Or.inr rfl⟩
  refine Program.follows_bind (follows_of_plain hstored x) fun stored => ?_
  cases stored with
  | some config => trivial
  | none =>
      cases chosen with
      | none => exact fun u => follows_of_plain (makes_addConfig ⟨u⟩) x
      | some id =>
          by_cases hx : x = (.configs, id.text)
          · subst hx
            refine Program.follows_bind_right (Program.yields_true _) ?_ ?_
            · intro taken _
              cases taken with
              | some other => trivial
              | none => exact must_addConfig id
            · intro taken _
              cases taken with
              | some other => trivial
              | none => exact follows_of_plain (makes_addConfig id) _
          · have hother : ¬Call.LooksUp x (.configById id) := fun h => hx (List.mem_singleton.mp h.2)
            refine Program.follows_bind
              (Program.follows_of_makes (Program.makes_ask hother)) fun taken => ?_
            cases taken with
            | some other => trivial
            | none => exact follows_of_plain (makes_addConfig id) x

theorem yields_offeredId {workspace : String} {draft : Draft} {id : BlueprintId}
    (h : draft.id = some id) : (offeredId workspace now draft).Yields (· = id) := by
  unfold offeredId
  rw [h]
  dsimp only
  split
  · trivial
  · refine Program.yields_bind (Program.yields_true _) fun taken _ => ?_
    cases taken with
    | some other => trivial
    | none => rfl

/-- A blueprint id of the caller's choice is used unchanged. -/
theorem yields_assignId {workspace : String} {draft : Draft} {id : BlueprintId}
    (h : draft.id = some id) : (assignId workspace now project draft).Yields (· = id) := by
  refine Program.yields_bind (yields_offeredId h) fun offered hoffered => ?_
  cases draft.kind with
  | mask => exact hoffered
  | blueprint =>
      refine Program.yields_bind (Program.yields_true _) fun latest _ => ?_
      cases latest with
      | none => exact hoffered
      | some latest =>
          dsimp only
          split
          · exact hoffered
          · rw [h]
            trivial

theorem must_appendAs (draft : Draft) (config : Config) (id : BlueprintId) :
    (appendAs who now project draft config id).Must (Call.Stores (.blueprints, id.text)) := by
  refine Program.must_bind_right (Program.yields_true _) fun _ _ => ?_
  exact Program.must_bind_left (Program.must_ask ⟨rfl, List.mem_cons_self⟩)

/-- Appending a draft writes to its project alone, and looks up the ids of its own records. -/
theorem writesTo_append (who : Identity) (now : Instant) (project : ProjectId)
    (chosen : Option ConfigId) (draft : Draft) :
    (append who now project chosen draft).WritesTo who.workspace project where
  makes := makes_append who now project chosen draft
  stores := by
    intro x
    rw [append_eq]
    refine Program.follows_bind (follows_ensureConfig chosen x) fun config => ?_
    have hafter : ∀ id, (appendAs who now project draft config id).Follows (Call.LooksUp x)
        (Call.Stores x) := fun id => follows_of_plain (makes_appendAs draft config id) x
    by_cases hx : ∃ id, draft.id = some id ∧ x = (.blueprints, id.text)
    · obtain ⟨id, hid, rfl⟩ := hx
      refine Program.follows_bind_right (yields_assignId hid) ?_ fun id _ => hafter id
      rintro _ rfl
      exact must_appendAs draft config _
    · have hother : (assignId who.workspace now project draft).Makes who.workspace
          fun c => ¬Call.LooksUp x c :=
        (makes_assignId who.workspace now project draft).mono fun _ hc hlooked =>
          hx (hc.2 x hlooked.2)
      exact Program.follows_bind (Program.follows_of_makes hother) hafter

end Versioning

/-- Pinning environments writes to their project alone, and looks up no ids. -/
theorem Pinning.writesTo_bind (policy : MaskPolicy) (who : Identity) (now : Instant)
    (r : PinRequest) : (bind policy who now r).WritesTo who.workspace r.project where
  makes := (makes_bind policy who now r).mono fun _ hc => hc.1
  stores := follows_of_plain (makes_bind policy who now r)

namespace StoreKind

/-- Stores with the same rows in each table, in whatever order. -/
def SameRows : (kind : StoreKind) → kind.backend.Store → kind.backend.Store → Prop
  | .memory => Memory.Tables.SameRows
  | .database => Database.SameRows

theorem sameRows_of_parts (kind : StoreKind) {store store' : kind.backend.Store} {k l : Sector}
    (hapart : l.both k.rest = l)
    (h : kind.sectors.ofStore k store = kind.sectors.ofStore k store')
    (h' : kind.sectors.ofStore l store = kind.sectors.ofStore l store')
    (hrest : kind.sectors.ofStore (l.rest.both k.rest) store =
      kind.sectors.ofStore (l.rest.both k.rest) store') : kind.SameRows store store' := by
  cases kind with
  | memory => exact Memory.Tables.sameRows_of_within hapart h h' hrest
  | database => exact Database.sameRows_of_within hapart h h' hrest

/-- The rows of a store that is read as tables are told apart by their ids. -/
theorem distinct_of_holds (kind : StoreKind) {store : kind.backend.Store} {t : Memory.Tables}
    (h : kind.tableModel.Holds store t) : kind.sectors.Distinct store := by
  cases kind with
  | memory =>
      obtain ⟨rfl, hconstrained⟩ := h
      exact hconstrained.nodup_places
  | database =>
      obtain ⟨hrepresents, hconstrained⟩ := h
      intro table
      have hplaces : Database.sectors.placesOf store table = t.places table :=
        hrepresents.places_eq table
      change ((Database.sectors.placesOf store table).map _).Nodup
      rw [hplaces]
      exact hconstrained.nodup_places table

end StoreKind

/-- A unit of work that writes to a project leaves a store that is read as tables. -/
theorem TableModel.holds_inUnit {b : Backend} (model : TableModel b) {α : Type} {workspace : String}
    {project : ProjectId} {p : Action α} (hp : p.Makes workspace (Call.OfProject project))
    {ids : Nat → Ulid} {store : b.Store} {t : Memory.Tables} (hstore : model.Holds store t) :
    ∃ t', model.Holds (b.inUnit .write ids p store).store t' := by
  have hensures : p.Ensures model.Sure ids (fun _ _ _ => True) (Memory.backend.start .write t) 0 :=
    hp.ensures (I := fun _ => True) (fun _ _ _ => rfl) (fun _ hc => hc.asked)
      (fun _ _ _ _ => trivial) trivial
  obtain ⟨t', -, hholds, -⟩ := model.inUnit hstore hensures
  exact ⟨t', hholds⟩

inductive Write
  /-- Appends a draft to the config of a project, made with the given id if there is none. -/
  | create (project : ProjectId) (chosen : Option ConfigId) (draft : Draft)
  | bind (policy : MaskPolicy) (request : PinRequest)

/-- A write, with all that goes into it: who writes, when, and with which fresh identifiers. -/
structure WriteUnit where
  who : Identity
  now : Instant
  ids : Nat → Ulid
  write : Write

namespace WriteUnit

def project (u : WriteUnit) : ProjectId :=
  match u.write with
  | .create project _ _ => project
  | .bind _ request => request.project

def action (u : WriteUnit) : Action Reply :=
  match u.write with
  | .create project chosen draft => .view <$> Versioning.append u.who u.now project chosen draft
  | .bind policy request => .pins <$> Pinning.bind policy u.who u.now request

def run (u : WriteUnit) (kind : StoreKind) (store : kind.backend.Store) :
    Settled kind.backend.Store ServiceError Reply :=
  kind.backend.inUnit .write u.ids u.action store

theorem writesTo_action (u : WriteUnit) : u.action.WritesTo u.who.workspace u.project := by
  unfold action project
  cases u.write with
  | create project chosen draft =>
      exact (Versioning.writesTo_append u.who u.now project chosen draft).map
  | bind policy request => exact (Pinning.writesTo_bind policy u.who u.now request).map

/-- A call that writes does so in such a unit of work. -/
theorem exists_of_plan {policy : MaskPolicy} {who : Identity} {supply : Supply} {d : Directory}
    {op : Operation} {action : Action Reply}
    (h : (Service.plan policy who supply d op).1 = .ok (.write, action)) :
    ∃ write, (⟨who, supply.now, supply.ids, write⟩ : WriteUnit).action = action := by
  cases op with
  | create r =>
      simp only [Service.plan] at h
      cases hvalid : r.validate with
      | error reason => simp [hvalid] at h
      | ok ref =>
          cases hproject : (Service.resolveProject who.workspace supply.candidate ref d).1 with
          | error e => simp [hvalid, hproject, Service.planCreate] at h
          | ok project =>
              simp only [hvalid, hproject, Service.planCreate, Except.ok.injEq, Prod.mk.injEq,
                true_and] at h
              exact ⟨.create project.id r.config r.draft, h⟩
  | bind r =>
      simp only [Service.plan] at h
      cases hvalid : r.validate with
      | error reason => simp [hvalid] at h
      | ok _ =>
          simp only [hvalid, Except.ok.injEq, Prod.mk.injEq, true_and] at h
          exact ⟨.bind policy r, h⟩
  | history project page size =>
      simp only [Service.plan] at h
      cases hpage : PageRequest.of page size <;> simp [hpage] at h
  | latest | get | env | delta => cases h

end WriteUnit

/-- Writes on two projects of a workspace commute. If two of them, made one after the other on a store
that calls have left behind, both succeed, then they both succeed in the other order, each with the
answer that it had, and leave the same rows. -/
theorem Service.writes_commute (kind : StoreKind) (directory : Directory) (calls : List ServiceCall)
    (first second : WriteUnit) (hworkspace : first.who.workspace = second.who.workspace)
    (hproject : first.project ≠ second.project) {x y : Reply} :
    let store := ((new kind directory).run calls).2.store
    let one := first.run kind store
    let both := second.run kind one.store
    let other := second.run kind store
    let swapped := first.run kind other.store
    one.result = .ok x → both.result = .ok y →
      other.result = .ok y ∧ swapped.result = .ok x ∧ kind.SameRows swapped.store both.store := by
  intro store one both other swapped hx hy
  obtain ⟨t, hstore, -⟩ := kind.run_recorded directory calls
  have hfirst := first.writesTo_action
  have hsecond := second.writesTo_action
  rw [← hworkspace] at hsecond
  obtain ⟨t₁, hone⟩ := kind.tableModel.holds_inUnit hfirst.makes hstore
  obtain ⟨t₂, hboth⟩ := kind.tableModel.holds_inUnit hsecond.makes hone
  obtain ⟨hother, hswapped, hparts⟩ := kind.sectors.commute hproject hfirst hsecond hx hy
    (kind.distinct_of_holds hboth)
  have hapart : (Sector.ofProject first.who.workspace second.project).both
      (Sector.ofProject first.who.workspace first.project).rest =
      Sector.ofProject first.who.workspace second.project := by
    funext w p
    by_cases hp : p = second.project.text
    · simp [Sector.both, Sector.rest, Sector.ofProject, hp, hproject.symm]
    · simp [Sector.both, Sector.rest, Sector.ofProject, hp]
  refine ⟨hother, hswapped, kind.sameRows_of_parts hapart (hparts _ (Or.inl rfl))
    (hparts _ (Or.inr (Or.inl rfl))) (hparts _ (Or.inr (Or.inr ⟨?_, ?_⟩)))⟩
  · simp [Sector.both, Sector.rest, Sector.ofProject]
  · simp [Sector.both, Sector.rest, Sector.ofProject]

/-- Results that are no errors have answers. -/
theorem exists_of_isOk {ε α β : Type} {first : Except ε α} {second : Except ε β} {P : α → β → Prop}
    (h : ∀ a b, first = .ok a → second = .ok b → P a b) (hfirst : first.isOk = true)
    (hsecond : second.isOk = true) : ∃ a b, P a b := by
  cases first with
  | error e => cases hfirst
  | ok a =>
      cases second with
      | error e => cases hsecond
      | ok b => exact ⟨a, b, h a b rfl rfl⟩

/-- A first blueprint of one project, which makes its config, and an environment of another project that
is pinned to its mask. -/
theorem Service.writes_commute_pinned :
    let who : Identity := ⟨"w", "u"⟩
    let now := Instant.ofUnix 0 0
    let ids (first : Nat) : Nat → Ulid := fun n => .ofNat (first + n)
    let mask : Draft := ⟨some ⟨.ofNat 1⟩, .mask, none, [⟨"k", "v", .string, none⟩]⟩
    let calls : List ServiceCall :=
      [⟨.reject, who, ⟨now, ids 10, .ofNat 7⟩, .create ⟨none, some "q", none, mask⟩⟩]
    let store := ((new .database (.memory .empty)).run calls).2.store
    let first : WriteUnit := ⟨who, now, ids 20, .create (.ofNat 8) (some ⟨.ofNat 2⟩)
      ⟨none, .blueprint, none, [⟨"k", "v", .string, none⟩]⟩⟩
    let second : WriteUnit :=
      ⟨who, now, ids 30, .bind .defer ⟨.ofNat 7, [⟨"prod", ⟨.ofNat 1⟩⟩]⟩⟩
    let one := first.run .database store
    let both := second.run .database one.store
    let other := second.run .database store
    let swapped := first.run .database other.store
    first.who.workspace = second.who.workspace ∧ first.project ≠ second.project ∧
      ∃ x y, one.result = .ok x ∧ both.result = .ok y ∧ other.result = .ok y ∧
        swapped.result = .ok x ∧ StoreKind.database.SameRows swapped.store both.store := by
  dsimp only
  refine ⟨rfl, by decide, exists_of_isOk (fun x y hx hy => ⟨hx, hy, ?_⟩) ?_ ?_⟩
  · exact Service.writes_commute .database (.memory .empty) _ _ _ (by rfl) (by decide) hx hy
  · decide +kernel
  · decide +kernel

end ConfigTimeline
