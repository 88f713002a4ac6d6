import ConfigTimeline.Proofs.Store.Sector

/-!
Programs that stay in a part of a store. A program that makes its calls in one workspace, asks for
rows of the part and brings along ids that no other row has comes to the same on every store with the
same rows in the part, whatever other rows there are, and leaves these alone.
-/

namespace ConfigTimeline

variable {ε α β : Type}

def Backend.calls (b : Backend) (ids : Nat → Ulid) : Program ε α → b.Work → Nat → List Call
  | .done _, _, _ => []
  | .fail _, _, _ => []
  | .call workspace c next, work, n =>
      c :: b.calls ids (next (b.perform workspace c work).1) (b.perform workspace c work).2 n
  | .draw next, work, n => b.calls ids (next (ids n)) work (n + 1)

namespace Sectors

variable {b : Backend} (S : Sectors b) {k : Sector} {workspace : String} {ids : Nat → Ulid}

theorem mem_places_ofWork {work : b.Work} {table : Database.TableName} {place : Place} :
    place ∈ S.places (S.ofWork k work) table ↔
      place ∈ S.places work table ∧ k place.workspace place.project = true := by
  rw [S.places_ofWork, List.mem_filter]

/-- After a program every row stands where it stood. -/
theorem grow_run (p : Program ε α) (work : b.Work) (n : Nat) (table : Database.TableName) :
    S.places work table <+: S.places (b.run ids p work n).work table := by
  induction p generalizing work n with
  | done a => exact List.prefix_refl _
  | fail e => exact List.prefix_refl _
  | call w c next ih => exact (S.grow w c work table).trans (ih _ _ _)
  | draw next ih => exact ih _ _ _

/-- A program leaves the parts alone that its calls spare. -/
theorem spare_run {p : Program ε α} (h : p.Makes workspace fun c => c.Spares k workspace)
    (work : b.Work) (n : Nat) : S.ofWork k (b.run ids p work n).work = S.ofWork k work := by
  induction p generalizing work n with
  | done a => rfl
  | fail e => rfl
  | call w c next ih =>
      obtain ⟨rfl, hspares, -, hnext⟩ := h
      exact (ih _ (hnext _) _ n).trans (S.spare hspares work)
  | draw next ih => exact ih _ (h _) work (n + 1)

/-- A unit of work leaves the parts alone that its calls spare. -/
theorem spare_inUnit {p : Program ε α} (h : p.Makes workspace fun c => c.Spares k workspace)
    (mode : Mode) (store : b.Store) :
    S.ofStore k (b.inUnit mode ids p store).store = S.ofStore k store := by
  cases hresult : (b.run ids p (b.start mode store) 0).result with
  | ok a =>
      rw [Backend.inUnit_of_ok hresult, S.commit, S.spare_run h, ← S.commit, S.commit_start]
  | error e => rw [S.failed ((b.result_inUnit mode ids p store).trans hresult)]

/-- A call that asks for rows of a part, and for rows of all projects only if they are in it. -/
structure Asks (k : Sector) (workspace : String) (c : Call) : Prop where
  projects : ∀ p ∈ c.projects, k workspace p.text = true
  wide : c.isWide = true → ∀ p, k workspace p = true

theorem Asks.spares {c : Call} (h : Asks k workspace c) : c.Spares k.rest workspace := by
  intro p hp
  simp [Sector.rest, h.projects p hp]

/-- The rows of a working state that have one of some ids are all in the part. -/
def Clear (k : Sector) (workspace : String) (own : Database.TableName → String → Prop)
    (work : b.Work) : Prop :=
  ∀ table id, own table id → k.Owns workspace (S.places work table) id

variable {own : Database.TableName → String → Prop}

theorem Clear.perform {work : b.Work} (h : S.Clear k workspace own work) {c : Call}
    (hc : Asks k workspace c) : S.Clear k workspace own (b.perform workspace c work).2 := by
  intro table id hid place hplace hworkspace hsame
  by_contra hout
  -- A row that is not in the part was there before.
  have hrest : k.rest place.workspace place.project = true := by
    rw [hworkspace]
    simpa [Sector.rest] using hout
  have hafter := S.mem_places_ofWork.mpr ⟨hplace, hrest⟩
  rw [S.spare hc.spares] at hafter
  exact hout (h table id hid place (S.mem_places_ofWork.mp hafter).1 hworkspace hsame)

/-- A call stays in a part when the ids that it names are own ones, and when all ids of the part are. -/
theorem Clear.staysIn {work : b.Work} (h : S.Clear k workspace own work) {c : Call}
    (hc : Asks k workspace c) (hnamed : ∀ x ∈ c.named, own x.1 x.2)
    (hinside : ∀ table, ∀ place ∈ S.places work table, place.workspace = workspace →
      k workspace place.project = true → own table place.id) :
    c.StaysIn k workspace (S.places work) where
  projects := hc.projects
  named x hx := h x.1 x.2 (hnamed x hx)
  asked id _ := by
    by_cases hid : own .blueprints id.text
    · exact Or.inl (h _ _ hid)
    · refine Or.inr fun place hplace hworkspace hsame => ?_
      by_contra hin
      have hkeep : k workspace place.project = true := by simpa [Sector.rest] using hin
      refine hid ?_
      rw [← hsame]
      exact hinside _ place hplace hworkspace hkeep
  wide := hc.wide

/-- A program that stays in a part comes to the same on two working states with the same rows in the
part, and leaves the other rows of the second alone as well. Its own ids are those that its calls name
and those that the rows of the part have at the end. -/
theorem run_agrees (ids : Nat → Ulid) {p : Program ε α} (hp : p.Makes workspace (Asks k workspace))
    {work work' : b.Work} {n : Nat} (hnamed : ∀ c ∈ b.calls ids p work n, ∀ x ∈ c.named, own x.1 x.2)
    (hinside : ∀ table, ∀ place ∈ S.places (b.run ids p work n).work table,
      place.workspace = workspace → k workspace place.project = true → own table place.id)
    (hclear : S.Clear k workspace own work) (hclear' : S.Clear k workspace own work')
    (hsame : S.ofWork k work = S.ofWork k work') :
    (b.run ids p work' n).result = (b.run ids p work n).result ∧
      (b.run ids p work' n).drawn = (b.run ids p work n).drawn ∧
      S.ofWork k (b.run ids p work' n).work = S.ofWork k (b.run ids p work n).work := by
  induction p generalizing work work' n with
  | done a => exact ⟨rfl, rfl, hsame.symm⟩
  | fail e => exact ⟨rfl, rfl, hsame.symm⟩
  | call w c next ih =>
      obtain ⟨rfl, hc, -, hnext⟩ := hp
      have hown := hnamed c List.mem_cons_self
      have hnow : ∀ table, ∀ place ∈ S.places work table, place.workspace = w →
          k w place.project = true → own table place.id := fun table place hplace =>
        hinside table place ((S.grow_run (.call w c next) work n table).subset hplace)
      have hnow' : ∀ table, ∀ place ∈ S.places work' table, place.workspace = w →
          k w place.project = true → own table place.id := by
        intro table place hplace hworkspace hkeep
        have hkept : k place.workspace place.project = true := by
          rw [hworkspace]
          exact hkeep
        have hpart := S.mem_places_ofWork.mpr ⟨hplace, hkept⟩
        rw [← hsame] at hpart
        exact hnow table place (S.mem_places_ofWork.mp hpart).1 hworkspace hkeep
      obtain ⟨hanswer, hafter⟩ := S.perform (hclear.staysIn S hc hown hnow)
      obtain ⟨hanswer', hafter'⟩ := S.perform (hclear'.staysIn S hc hown hnow')
      rw [← hsame] at hanswer' hafter'
      have hanswers : (b.perform w c work').1 = (b.perform w c work).1 :=
        hanswer'.symm.trans hanswer
      have hrest := ih _ (hnext _)
        (fun later hlater => hnamed later (List.mem_cons_of_mem c hlater)) hinside
        (hclear.perform S hc) (hclear'.perform S hc) (hafter.symm.trans hafter')
      change (b.run ids (next (b.perform w c work').1) (b.perform w c work').2 n).result = _ ∧
        (b.run ids (next (b.perform w c work').1) (b.perform w c work').2 n).drawn = _ ∧
        S.ofWork k (b.run ids (next (b.perform w c work').1) (b.perform w c work').2 n).work = _
      rw [hanswers]
      exact hrest
  | draw next ih => exact ih _ (hp _) hnamed hinside hclear hclear' hsame

/-- A unit of work in a workspace comes to the same on two stores with the same rows in it. -/
theorem inUnit_agrees (ids : Nat → Ulid) {p : Program ε α}
    (hp : p.Makes workspace fun _ => True) (mode : Mode) {store store' : b.Store}
    (hsame : S.ofStore (.ofWorkspace workspace) store = S.ofStore (.ofWorkspace workspace) store') :
    (b.inUnit mode ids p store').result = (b.inUnit mode ids p store).result ∧
      S.ofStore (.ofWorkspace workspace) (b.inUnit mode ids p store').store =
        S.ofStore (.ofWorkspace workspace) (b.inUnit mode ids p store).store := by
  have hall : ∀ project, Sector.ofWorkspace workspace workspace project = true :=
    fun _ => beq_self_eq_true workspace
  have hclear : ∀ work : b.Work,
      S.Clear (.ofWorkspace workspace) workspace (fun _ _ => True) work :=
    fun _ _ _ _ _ _ _ _ => hall _
  have hstart : S.ofWork (.ofWorkspace workspace) (b.start mode store) =
      S.ofWork (.ofWorkspace workspace) (b.start mode store') := by
    rw [S.start, S.start, hsame]
  obtain ⟨hresult, -, hafter⟩ := S.run_agrees (n := 0) ids
    (hp.mono fun c _ => ⟨fun _ _ => hall _, fun _ => hall⟩) (fun _ _ _ _ => trivial)
    (fun _ _ _ _ _ => trivial) (hclear _) (hclear _) hstart
  refine ⟨by rw [b.result_inUnit, b.result_inUnit, hresult], ?_⟩
  cases hended : (b.run ids p (b.start mode store) 0).result with
  | ok a =>
      rw [Backend.inUnit_of_ok hended, Backend.inUnit_of_ok (hresult.trans hended), S.commit,
        S.commit, hafter]
  | error e =>
      rw [S.failed ((b.result_inUnit mode ids p store).trans hended),
        S.failed ((b.result_inUnit mode ids p store').trans (hresult.trans hended)), hsame]

end Sectors

end ConfigTimeline
