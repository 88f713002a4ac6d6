import Mathlib.Tactic.ByContra
import ConfigTimeline.Store.Memory.Unit

/-!
A unit of work on the store in memory is all or nothing. Every call notes with each change how to take
it back. The invariant is that the changes noted so far lead back to the tables at the start of the
unit: each kind of write keeps it, also one that stops midway through a batch, hence every call does
and hence every program, whatever refusals it ignores.
-/

namespace ConfigTimeline.Memory

/-- The tables that the changes noted so far lead back to. -/
def Work.origin (work : Work) : Tables := revertAll work.changes work.tables

theorem perform_of_reads {c : Call} (h : c.writes = false) (workspace : String) (work : Work) :
    (perform workspace c work).2 = work := by
  cases c <;> simp_all [perform, Call.writes]

/-- The answer of a call that only reads depends on nothing but the tables. -/
theorem perform_answer_of_reads {c : Call} (h : c.writes = false) (workspace : String)
    {a b : Work} (htables : a.tables = b.tables) :
    (perform workspace c a).1 = (perform workspace c b).1 := by
  cases c <;> simp_all [perform, Call.writes]

theorem perform_of_readMode {c : Call} {work : Work} (hc : c.writes = true)
    (hm : work.mode = .read) (workspace : String) :
    perform workspace c work = (.error .readOnly, work) := by
  simp [perform, hc, hm]

theorem revertAll_append (newer older : List Change) (t : Tables) :
    revertAll (newer ++ older) t = revertAll older (revertAll newer t) := by
  simp [revertAll]

/-- Changes that lead back to the tables before a write lead on to where these led. -/
theorem origin_of_revertAll {work : Work} (changes : List Change) {tables : Tables}
    (h : revertAll changes tables = work.tables) (mode : Mode) :
    Work.origin ⟨mode, tables, changes ++ work.changes⟩ = work.origin := by
  unfold Work.origin
  rw [revertAll_append, h]

theorem origin_insertConfig (work : Work) (workspace : String) (config : Config) :
    (work.insertConfig workspace config).2.origin = work.origin := by
  unfold Work.insertConfig
  split
  · rfl
  · apply origin_of_revertAll [.configAdded]
    simp [revertAll, Change.revert]

/-- A blueprint is taken back by its id, which no other row of its workspace has: had one had it, the
blueprint would not have been stored. -/
theorem origin_insertBlueprint (work : Work) (workspace : String) (blueprint : Blueprint) :
    (work.insertBlueprint workspace blueprint).2.origin = work.origin := by
  unfold Work.insertBlueprint
  split
  · rfl
  · rename_i hfree
    apply origin_of_revertAll [.blueprintAdded workspace blueprint.id]
    have hothers : ∀ row ∈ work.tables.blueprints,
        (!(row.workspace == workspace && row.record.id == blueprint.id)) = true := by
      intro row member
      by_contra hsame
      have hclash : work.tables.blueprints.any (fun r =>
          r.workspace == workspace && r.record.id == blueprint.id) = true :=
        List.any_eq_true.mpr ⟨row, member, by simpa using hsame⟩
      simp [blueprintClash, hclash] at hfree
    have hkept := List.filter_eq_self.mpr hothers
    simp only [revertAll, List.foldl_cons, List.foldl_nil, Change.revert, List.filter_append, hkept]
    simp

def places (hit : Scoped ValueRow → Bool) (rows : List (Scoped ValueRow)) : List Nat :=
  rows.zipIdx.filterMap fun (row, index) => if hit row then some index else none

theorem mem_places {hit : Scoped ValueRow → Bool} {rows : List (Scoped ValueRow)} {i : Nat} :
    i ∈ places hit rows ↔ ∃ row, rows[i]? = some row ∧ hit row = true := by
  simp only [places, List.mem_filterMap, List.mem_zipIdx_iff_getElem?]
  constructor
  · rintro ⟨⟨row, index⟩, hrow, hindex⟩
    split at hindex
    · rename_i hit
      cases hindex
      exact ⟨row, hrow, hit⟩
    · cases hindex
  · rintro ⟨row, hrow, hit⟩
    exact ⟨(row, i), hrow, by simp [hit]⟩

theorem length_places (hit : Scoped ValueRow → Bool) (rows : List (Scoped ValueRow)) :
    (places hit rows).length = rows.countP hit := by
  have htest : (fun place : Scoped ValueRow × Nat =>
      (if hit place.1 then some place.2 else none).isSome) = hit ∘ Prod.fst := by
    funext place
    rw [Function.comp_apply]
    cases hit place.1 <;> rfl
  unfold places
  rw [List.length_filterMap_eq_countP, htest, ← List.countP_map, List.zipIdx_map_fst]

def withEnd (validTo : Option BlueprintId) (row : Scoped ValueRow) : Scoped ValueRow :=
  { row with record := { row.record with validTo } }

theorem closeValues_eq (work : Work) (workspace : String) (project : ProjectId)
    (validTo : BlueprintId) (keys : List String) :
    work.closeValues workspace project validTo keys =
      let hit := Work.closes workspace project keys
      let closed := places hit work.tables.values
      (closed.length, ⟨work.mode,
        { work.tables with
          values := work.tables.values.map fun row =>
            if hit row then withEnd (some validTo) row else row },
        (closed.map Change.valueClosed).reverse ++ work.changes⟩) := rfl

/-- Taking back closings opens the rows at their places again, however often a place is named. -/
theorem revertAll_closings (closed : List Nat) (t : Tables) :
    ∃ values, revertAll (closed.map .valueClosed) t = { t with values } ∧
      ∀ i, values[i]? = if i ∈ closed then t.values[i]?.map (withEnd none) else t.values[i]? := by
  induction closed generalizing t with
  | nil => exact ⟨t.values, rfl, by simp⟩
  | cons place rest ih =>
      obtain ⟨values, hrevert, hvalues⟩ :=
        ih { t with values := t.values.modify place (withEnd none) }
      refine ⟨values, hrevert, ?_⟩
      intro i
      rw [hvalues i]
      by_cases hi : place = i
      · subst hi
        have htwice : (withEnd none <$> t.values[place]?).map (withEnd none) =
            t.values[place]?.map (withEnd none) := by
          cases t.values[place]? <;> rfl
        simp only [List.getElem?_modify_eq, List.mem_cons, true_or, if_true, htwice]
        split <;> rfl
      · have hne : i ≠ place := fun h => hi h.symm
        simp [hne, List.getElem?_modify_ne, hi]

theorem origin_closeValues (work : Work) (workspace : String) (project : ProjectId)
    (validTo : BlueprintId) (keys : List String) :
    (work.closeValues workspace project validTo keys).2.origin = work.origin := by
  rw [closeValues_eq]
  apply origin_of_revertAll
  rw [← List.map_reverse]
  obtain ⟨values, hrevert, hvalues⟩ := revertAll_closings
    (places (Work.closes workspace project keys) work.tables.values).reverse
    { work.tables with
      values := work.tables.values.map fun row =>
        if Work.closes workspace project keys row then withEnd (some validTo) row else row }
  rw [hrevert]
  have hsame : values = work.tables.values := by
    apply List.ext_getElem?
    intro i
    rw [hvalues i]
    simp only [List.mem_reverse, mem_places, List.getElem?_map]
    cases hrow : work.tables.values[i]? with
    | none => simp
    | some row =>
        by_cases hit : Work.closes workspace project keys row = true
        · have hopen : row.record.validTo = none := by
            simp only [Work.closes, ValueRow.isOpen, Bool.and_eq_true,
              Option.isNone_iff_eq_none] at hit
            exact hit.1.2
          simp only [Option.some.injEq, exists_eq_left', hit, if_true, Option.map_some, withEnd]
          rw [← hopen]
        · simp [hit]
  rw [hsame]

theorem revertAll_valuesAdded (n : Nat) (t : Tables) :
    revertAll (List.replicate n .valueAdded) t =
      { t with values := t.values.take (t.values.length - n) } := by
  induction n generalizing t with
  | zero => simp [revertAll]
  | succ n ih =>
      change revertAll (List.replicate n .valueAdded) { t with values := t.values.dropLast } = _
      rw [ih, List.dropLast_eq_take, List.take_take]
      congr 2
      simp only [List.length_take]
      omega

theorem revertAll_pinsAdded (n : Nat) (t : Tables) :
    revertAll (List.replicate n .pinAdded) t =
      { t with pins := t.pins.take (t.pins.length - n) } := by
  induction n generalizing t with
  | zero => simp [revertAll]
  | succ n ih =>
      change revertAll (List.replicate n .pinAdded) { t with pins := t.pins.dropLast } = _
      rw [ih, List.dropLast_eq_take, List.take_take]
      congr 2
      simp only [List.length_take]
      omega

/-- What a batch left behind is taken back also if the batch stopped midway. -/
theorem origin_insertValues (work : Work) (workspace : String) (rows : List ValueRow) :
    (work.insertValues workspace rows).2.origin = work.origin := by
  obtain ⟨kept, -, hkept⟩ := appendUntilClash_extends valueClash work.tables.values
    (rows.map fun row => ⟨workspace, row⟩)
  unfold Work.insertValues
  apply origin_of_revertAll
  rw [revertAll_valuesAdded, hkept]
  simp

theorem origin_insertPins (work : Work) (workspace : String) (rows : List Pin) :
    (work.insertPins workspace rows).2.origin = work.origin := by
  obtain ⟨kept, -, hkept⟩ := appendUntilClash_extends pinClash work.tables.pins
    (rows.map fun row => ⟨workspace, row⟩)
  unfold Work.insertPins
  apply origin_of_revertAll
  rw [revertAll_pinsAdded, hkept]
  simp

theorem origin_updatePin (work : Work) (workspace : String) (project : ProjectId) (user : String)
    (now : Instant) (target : PinTarget) :
    (work.updatePin workspace project user now target).2.origin = work.origin := by
  unfold Work.updatePin
  split
  · rfl
  · rename_i row index hfind
    have hrow : work.tables.pins[index]? = some row :=
      List.mem_zipIdx_iff_getElem?.mp (List.mem_of_find?_eq_some hfind)
    apply origin_of_revertAll [.pinMoved index row.record]
    have hsame : ∀ f : Scoped Pin → Scoped Pin, f row = row →
        work.tables.pins.modify index f = work.tables.pins := by
      intro f hf
      apply List.ext_getElem?
      intro i
      rw [List.getElem?_modify]
      by_cases hi : index = i
      · subst hi
        simp [hrow, hf]
      · simp [hi]
    simp only [revertAll, List.foldl_cons, List.foldl_nil, Change.revert, List.modify_modify_eq]
    rw [hsame _ rfl]

theorem origin_updatePins (workspace : String) (project : ProjectId) (user : String)
    (now : Instant) (targets : List PinTarget) (work : Work) :
    (Work.updatePins workspace project user now targets work).2.origin = work.origin := by
  induction targets generalizing work with
  | nil => rfl
  | cons target rest ih =>
      exact (ih _).trans (origin_updatePin work workspace project user now target)

/-- What a call may make of the state of a unit of work. Most calls leave it as it is, and so does a
write that is refused in a unit that only reads. -/
inductive Performed (workspace : String) (work : Work) : Call → Work → Prop
  | unchanged (c : Call) : Performed workspace work c work
  | insertConfig (config : Config) :
      Performed workspace work (.insertConfig config) (work.insertConfig workspace config).2
  | insertBlueprint (config : ConfigId) (blueprint : Blueprint) :
      Performed workspace work (.insertBlueprint config blueprint)
        (work.insertBlueprint workspace blueprint).2
  | closeValues (project : ProjectId) (validTo : BlueprintId) (keys : List String) :
      Performed workspace work (.closeValues project validTo keys)
        (work.closeValues workspace project validTo keys).2
  | insertValues (config : ConfigId) (rows : List ValueRow) :
      Performed workspace work (.insertValues config rows) (work.insertValues workspace rows).2
  | insertPins (pins : List Pin) :
      Performed workspace work (.insertPins pins) (work.insertPins workspace pins).2
  | updatePins (project : ProjectId) (user : String) (now : Instant) (targets : List PinTarget) :
      Performed workspace work (.updatePins project user now targets)
        (Work.updatePins workspace project user now targets work).2

theorem performed (workspace : String) (c : Call) (work : Work) :
    Performed workspace work c (perform workspace c work).2 := by
  cases hwrites : c.writes with
  | false =>
      rw [perform_of_reads hwrites]
      exact .unchanged c
  | true =>
      cases hmode : work.mode with
      | read =>
          rw [perform_of_readMode hwrites hmode]
          exact .unchanged c
      | write =>
          cases c <;> simp only [Call.writes, Bool.false_eq_true] at hwrites
          case insertConfig config =>
            simpa [perform, hmode] using Performed.insertConfig config
          case insertBlueprint config blueprint =>
            simpa [perform, hmode] using Performed.insertBlueprint config blueprint
          case closeValues project validTo keys =>
            simpa [perform, hmode] using Performed.closeValues project validTo keys
          case insertValues config rows =>
            simpa [perform, hmode] using Performed.insertValues config rows
          case insertPins pins =>
            simpa [perform, hmode] using Performed.insertPins pins
          case updatePins project user now targets =>
            simpa [perform, hmode] using Performed.updatePins project user now targets

/-- No call changes where the changes lead back to, whatever it is and whatever it answers. -/
theorem Performed.origin {workspace : String} {c : Call} {work after : Work}
    (h : Performed workspace work c after) : after.origin = work.origin := by
  cases h with
  | unchanged => rfl
  | insertConfig config => exact origin_insertConfig work workspace config
  | insertBlueprint _ blueprint => exact origin_insertBlueprint work workspace blueprint
  | closeValues project validTo keys =>
      exact origin_closeValues work workspace project validTo keys
  | insertValues _ rows => exact origin_insertValues work workspace rows
  | insertPins pins => exact origin_insertPins work workspace pins
  | updatePins project user now targets =>
      exact origin_updatePins workspace project user now targets work

theorem origin_perform (workspace : String) (c : Call) (work : Work) :
    (perform workspace c work).2.origin = work.origin :=
  (performed workspace c work).origin

/-- No program changes where the changes lead back to, wherever it ends. -/
theorem origin_run {ε α : Type} (ids : Nat → Ulid) (p : Program ε α) (work : Work) (drawn : Nat) :
    (backend.run ids p work drawn).work.origin = work.origin := by
  induction p generalizing work drawn with
  | done a => rfl
  | fail e => rfl
  | call workspace c next ih =>
      exact (ih _ _ _).trans (origin_perform workspace c work)
  | draw next ih => exact ih _ _ _

section Unit

variable {ε α : Type} {mode : Mode} {ids : Nat → Ulid} {p : Program ε α} {t : Tables}

theorem store_inUnit_of_ok {a : α}
    (h : (backend.run ids p (backend.start mode t) 0).result = .ok a) :
    (backend.inUnit mode ids p t).store =
      (backend.run ids p (backend.start mode t) 0).work.tables := by
  rw [Backend.inUnit_of_ok h]
  rfl

theorem store_inUnit_of_error {e : ε}
    (h : (backend.run ids p (backend.start mode t) 0).result = .error e) :
    (backend.inUnit mode ids p t).store = t := by
  rw [Backend.inUnit_of_error h]
  exact origin_run ids p (backend.start mode t) 0

end Unit

/-- A unit of work that fails leaves the tables as they were, row by row and field by field. One that
ends well leaves them as its program last saw them, so that every later question has the answer that
it had then. -/
theorem inUnit_atomic {ε α : Type} (mode : Mode) (ids : Nat → Ulid) (p : Program ε α)
    (t : Tables) :
    let ended := backend.run ids p (backend.start mode t) 0
    let settled := backend.inUnit mode ids p t
    settled.result = ended.result ∧
    (∀ e, ended.result = .error e → settled.store = t) ∧
    ∀ a, ended.result = .ok a → settled.store = ended.work.tables ∧
      ∀ workspace c, c.writes = false →
        (perform workspace c (backend.start .read settled.store)).1 =
          (perform workspace c ended.work).1 := by
  intro ended settled
  have horigin : revertAll ended.work.changes ended.work.tables = t :=
    origin_run ids p (backend.start mode t) 0
  cases hresult : ended.result with
  | error e =>
      have hsettled : settled = ⟨.error e, backend.rollback ended.work, ended.drawn⟩ :=
        Backend.inUnit_of_error hresult
      rw [hsettled]
      refine ⟨rfl, ?_, ?_⟩
      · intro _ _
        exact horigin
      · intro a h
        cases h
  | ok a =>
      have hsettled : settled = ⟨.ok a, backend.commit ended.work, ended.drawn⟩ :=
        Backend.inUnit_of_ok hresult
      rw [hsettled]
      refine ⟨rfl, ?_, ?_⟩
      · intro e h
        cases h
      · intro _ _
        refine ⟨rfl, ?_⟩
        intro workspace c hreads
        exact perform_answer_of_reads hreads workspace rfl

end ConfigTimeline.Memory
