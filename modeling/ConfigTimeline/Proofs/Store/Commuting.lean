import ConfigTimeline.Proofs.Store.Replay

/-!
Units of work on two projects of a workspace. Each writes rows of its own project, but the ids of all
records of the workspace are told apart, so that one might take an id from the other. If both end well
in one order, all ids that either of them needs are different ones, and they end the same in the other
order. The ids that a unit needs are those of the records that it stores: an id that it looks up is one
that it stores a record with later on.
-/

namespace ConfigTimeline

variable {ε α β : Type}

namespace Program

variable {C D : Call → Prop} {Q : α → Prop}

/-- Unless it fails, a program makes a call that is as `C` says. -/
def Must (C : Call → Prop) : Program ε α → Prop
  | .done _ => False
  | .fail _ => True
  | .call _ c next => C c ∨ ∀ outcome, (next outcome).Must C
  | .draw next => ∀ u, (next u).Must C

/-- Unless it fails, a program makes a call that is as `C` says after each that is as `D` says. -/
def Follows (D C : Call → Prop) : Program ε α → Prop
  | .done _ => True
  | .fail _ => True
  | .call _ c next => (D c → ∀ outcome, (next outcome).Must C) ∧
      ∀ outcome, (next outcome).Follows D C
  | .draw next => ∀ u, (next u).Follows D C

theorem must_ask {refused : StoreError → ε} {workspace : String} {c : Call} (h : C c) :
    (ask refused workspace c).Must C :=
  Or.inl h

theorem must_bind_left {p : Program ε α} {f : α → Program ε β} (hp : p.Must C) :
    (p >>= f).Must C := by
  change (p.bind f).Must C
  induction p with
  | done a => exact hp.elim
  | fail e => trivial
  | call w c next ih => exact hp.imp_right fun hnext outcome => ih outcome (hnext outcome)
  | draw next ih => exact fun u => ih u (hp u)

theorem must_bind_right {p : Program ε α} {f : α → Program ε β} (hyields : p.Yields Q)
    (hf : ∀ a, Q a → (f a).Must C) : (p >>= f).Must C := by
  change (p.bind f).Must C
  induction p with
  | done a => exact hf a hyields
  | fail e => trivial
  | call w c next ih => exact Or.inr fun outcome => ih outcome (hyields outcome)
  | draw next ih => exact fun u => ih u (hyields u)

/-- What has to come after calls of both parts of a program comes after each in its own part. -/
theorem follows_bind {p : Program ε α} {f : α → Program ε β} (hp : p.Follows D C)
    (hf : ∀ a, (f a).Follows D C) : (p >>= f).Follows D C := by
  change (p.bind f).Follows D C
  induction p with
  | done a => exact hf a
  | fail e => trivial
  | call w c next ih =>
      exact ⟨fun hc outcome => must_bind_left (hp.1 hc outcome),
        fun outcome => ih outcome (hp.2 outcome)⟩
  | draw next ih => exact fun u => ih u (hp u)

/-- What has to come after calls of the first part of a program comes in the second. -/
theorem follows_bind_right {p : Program ε α} {f : α → Program ε β} (hyields : p.Yields Q)
    (hmust : ∀ a, Q a → (f a).Must C) (hf : ∀ a, Q a → (f a).Follows D C) :
    (p >>= f).Follows D C := by
  change (p.bind f).Follows D C
  induction p with
  | done a => exact hf a hyields
  | fail e => trivial
  | call w c next ih =>
      exact ⟨fun _ outcome => must_bind_right (hyields outcome) hmust,
        fun outcome => ih outcome (hyields outcome)⟩
  | draw next ih => exact fun u => ih u (hyields u)

theorem follows_of_makes {workspace : String} {p : Program ε α}
    (h : p.Makes workspace fun c => ¬D c) : p.Follows D C := by
  induction p with
  | done a => trivial
  | fail e => trivial
  | call w c next ih =>
      obtain ⟨-, hc, -, hnext⟩ := h
      exact ⟨fun hd => absurd hd hc, fun outcome => ih outcome (hnext outcome)⟩
  | draw next ih => exact fun u => ih u (h u)

end Program

namespace Backend

variable (b : Backend) {ids : Nat → Ulid} {C D : Call → Prop}

theorem mem_calls_of_must {p : Program ε α} (h : p.Must C) {work : b.Work} {n : Nat} {a : α}
    (hok : (b.run ids p work n).result = .ok a) : ∃ c ∈ b.calls ids p work n, C c := by
  induction p generalizing work n with
  | done a => exact h.elim
  | fail e => cases hok
  | call w c next ih =>
      rcases h with hc | hnext
      · exact ⟨c, List.mem_cons_self, hc⟩
      · obtain ⟨later, hlater, hholds⟩ := ih _ (hnext _) hok
        exact ⟨later, List.mem_cons_of_mem c hlater, hholds⟩
  | draw next ih => exact ih _ (h _) hok

theorem mem_calls_of_follows {p : Program ε α} (h : p.Follows D C) {work : b.Work} {n : Nat} {a : α}
    (hok : (b.run ids p work n).result = .ok a) {c : Call} (hc : c ∈ b.calls ids p work n)
    (hd : D c) : ∃ c ∈ b.calls ids p work n, C c := by
  induction p generalizing work n with
  | done a => cases hc
  | fail e => cases hok
  | call w first next ih =>
      have hrest : ∃ c ∈ b.calls ids (next (b.perform w first work).1)
          (b.perform w first work).2 n, C c := by
        rcases List.mem_cons.mp hc with rfl | hlater
        · exact b.mem_calls_of_must (h.1 hd _) hok
        · exact ih _ (h.2 _) hok hlater
      obtain ⟨later, hlater, hholds⟩ := hrest
      exact ⟨later, List.mem_cons_of_mem first hlater, hholds⟩
  | draw next ih => exact ih _ (h _) hok hc

theorem calls_of_makes {workspace : String} {P : Call → Prop} {p : Program ε α}
    (h : p.Makes workspace P) (work : b.Work) (n : Nat) : ∀ c ∈ b.calls ids p work n, P c := by
  induction p generalizing work n with
  | done a => exact List.forall_mem_nil _
  | fail e => exact List.forall_mem_nil _
  | call w c next ih =>
      obtain ⟨-, hc, -, hnext⟩ := h
      exact List.forall_mem_cons.mpr ⟨hc, ih _ (hnext _) _ n⟩
  | draw next ih => exact ih _ (h _) work (n + 1)

end Backend

def Call.LooksUp (x : Database.TableName × String) (c : Call) : Prop :=
  c.writes = false ∧ x ∈ c.named

def Call.Stores (x : Database.TableName × String) (c : Call) : Prop :=
  c.writes = true ∧ x ∈ c.named

/-- A program that makes calls about a project of a workspace, and looks up only ids that it stores
records with later on. -/
structure Program.WritesTo (workspace : String) (project : ProjectId) (p : Program ε α) : Prop where
  makes : p.Makes workspace (Call.OfProject project)
  stores : ∀ x, p.Follows (Call.LooksUp x) (Call.Stores x)

namespace Sectors

variable {b : Backend} (S : Sectors b) {workspace : String} {project : ProjectId} {ids : Nat → Ulid}

/-- A program that ends well has stored the records that its calls bring along. -/
theorem mem_places_of_ok {P : Call → Prop} {p : Program ε α} (h : p.Makes workspace P)
    {work : b.Work} {n : Nat} {a : α} (hok : (b.run ids p work n).result = .ok a) {c : Call}
    (hc : c ∈ b.calls ids p work n) (hwrites : c.writes = true) :
    ∀ x ∈ c.named, ∃ q ∈ c.projects,
      ⟨workspace, q.text, x.2⟩ ∈ S.places (b.run ids p work n).work x.1 := by
  induction p generalizing work n with
  | done a => cases hc
  | fail e => cases hok
  | call w first next ih =>
      obtain ⟨rfl, -, hrefused, hnext⟩ := h
      rcases List.mem_cons.mp hc with rfl | hlater
      · -- A refusal would have ended the program.
        have hanswered : ∃ answer, (b.perform w c work).1 = .ok answer := by
          cases hanswer : (b.perform w c work).1 with
          | ok answer => exact ⟨answer, rfl⟩
          | error e =>
              obtain ⟨e', hfail⟩ := hrefused e
              change (b.run ids (next (b.perform w c work).1) _ n).result = .ok a at hok
              rw [hanswer, hfail] at hok
              cases hok
        obtain ⟨answer, hanswer⟩ := hanswered
        intro x hx
        obtain ⟨q, hq, hstored⟩ := S.stored hwrites hanswer x hx
        exact ⟨q, hq, (S.grow_run (next _) _ n x.1).subset hstored⟩
      · exact ih _ (hnext _) hok hlater
  | draw next ih => exact ih _ (h _) hok hc

/-- Every id that the calls of a program name is that of a row of the project, if it ends well. -/
theorem mem_places_of_named {p : Program ε α} (h : p.WritesTo workspace project)
    {work : b.Work} {n : Nat} {a : α} (hok : (b.run ids p work n).result = .ok a) {c : Call}
    (hc : c ∈ b.calls ids p work n) : ∀ x ∈ c.named,
      ⟨workspace, project.text, x.2⟩ ∈ S.places (b.run ids p work n).work x.1 := by
  intro x hx
  have hstored : ∃ c ∈ b.calls ids p work n, Call.Stores x c := by
    cases hwrites : c.writes with
    | true => exact ⟨c, hc, hwrites, hx⟩
    | false => exact b.mem_calls_of_follows (h.stores x) hok hc ⟨hwrites, hx⟩
  obtain ⟨stores, hstores, hwrites, hnamed⟩ := hstored
  obtain ⟨q, hq, hplace⟩ := S.mem_places_of_ok h.makes hok hstores hwrites x hnamed
  rw [(b.calls_of_makes h.makes work n stores hstores).projects q hq] at hplace
  exact hplace

theorem ofProject_eq_true {w p : String} :
    Sector.ofProject workspace project w p = true ↔ w = workspace ∧ p = project.text := by
  simp [Sector.ofProject]

theorem asks_of_ofProject {c : Call} (h : c.OfProject project) :
    Asks (.ofProject workspace project) workspace c where
  projects p hp := ofProject_eq_true.mpr ⟨rfl, congrArg ProjectId.text (h.projects p hp)⟩
  wide hwide := by
    rw [h.narrow] at hwide
    cases hwide

theorem spares_of_ofProject {k : Sector} (h : k workspace project.text = false) {c : Call}
    (hc : c.OfProject project) : c.Spares k workspace := by
  intro p hp
  rw [hc.projects p hp]
  exact h

def placesOf (store : b.Store) : Database.TableName → List Place :=
  S.places (b.start .write store)

/-- No two rows of a workspace have the same id. -/
def Distinct (store : b.Store) : Prop :=
  ∀ table, ((S.placesOf store table).map fun p => (p.workspace, p.id)).Nodup

theorem mem_placesOf_ofStore {k : Sector} {store : b.Store} {table : Database.TableName}
    {place : Place} : place ∈ S.placesOf (S.ofStore k store) table ↔
      place ∈ S.placesOf store table ∧ k place.workspace place.project = true := by
  unfold placesOf
  rw [← S.start, S.mem_places_ofWork]

theorem grow_inUnit (p : Program ε α) (store : b.Store) (table : Database.TableName) :
    S.placesOf store table ⊆ S.placesOf (b.inUnit .write ids p store).store table := by
  cases hresult : (b.run ids p (b.start .write store) 0).result with
  | ok a =>
      rw [Backend.inUnit_of_ok hresult]
      unfold placesOf
      rw [S.places_start_commit]
      exact (S.grow_run p _ 0 table).subset
  | error e =>
      rw [S.failed ((b.result_inUnit .write ids p store).trans hresult)]
      exact List.Subset.refl _

/-- A unit of work on a project leaves the parts alone that the project is not in. -/
theorem spare_of_writesTo {p : Program ε α} (hp : p.WritesTo workspace project) {k : Sector}
    (hk : k workspace project.text = false) (store : b.Store) :
    S.ofStore k (b.inUnit .write ids p store).store = S.ofStore k store :=
  S.spare_inUnit (hp.makes.mono fun _ => spares_of_ofProject hk) .write store

/-- A row that is there after a unit of work on a project is one of the project, or was there before. -/
theorem mem_placesOf_inUnit {p : Program ε α} (hp : p.WritesTo workspace project) {store : b.Store}
    {table : Database.TableName} {place : Place}
    (h : place ∈ S.placesOf (b.inUnit .write ids p store).store table) :
    place ∈ S.placesOf (S.ofStore (.ofProject workspace project)
        (b.inUnit .write ids p store).store) table ∨
      place ∈ S.placesOf store table := by
  cases hown : Sector.ofProject workspace project place.workspace place.project with
  | true => exact Or.inl (S.mem_placesOf_ofStore.mpr ⟨h, hown⟩)
  | false =>
      have hrest : (Sector.ofProject workspace project).rest place.workspace place.project = true := by
        simp [Sector.rest, hown]
      have hout : (Sector.ofProject workspace project).rest workspace project.text = false := by
        simp [Sector.rest, Sector.ofProject]
      have hpart := S.mem_placesOf_ofStore.mpr ⟨h, hrest⟩
      rw [S.spare_of_writesTo hp hout] at hpart
      exact Or.inr (S.mem_placesOf_ofStore.mp hpart).1

/-- A unit of work that ends well on one store ends the same on another one with the same rows of its
project, if the rows of both stores are among rows that are told apart by their ids. -/
theorem replay {p : Program ε α} (hp : p.WritesTo workspace project) {store store' last : b.Store}
    {a : α} (hok : (b.inUnit .write ids p store).result = .ok a)
    (hsame : S.ofStore (.ofProject workspace project) store =
      S.ofStore (.ofProject workspace project) store')
    (hlast : S.Distinct last)
    (hafter : ∀ table, S.placesOf (b.inUnit .write ids p store).store table ⊆ S.placesOf last table)
    (hother : ∀ table, S.placesOf store' table ⊆ S.placesOf last table) :
    (b.inUnit .write ids p store').result = .ok a ∧
      S.ofStore (.ofProject workspace project) (b.inUnit .write ids p store').store =
        S.ofStore (.ofProject workspace project) (b.inUnit .write ids p store).store := by
  have hran : (b.run ids p (b.start .write store) 0).result = .ok a :=
    (b.result_inUnit .write ids p store).symm.trans hok
  have hend : S.placesOf (b.inUnit .write ids p store).store =
      S.places (b.run ids p (b.start .write store) 0).work := by
    rw [Backend.inUnit_of_ok hran]
    exact S.places_start_commit .write _
  rw [hend] at hafter
  -- The own ids are those of the rows of the project at the end. Among the rows of the last store no
  -- others have them.
  have hclear : ∀ work : b.Work, (∀ table, S.places work table ⊆ S.placesOf last table) →
      S.Clear (.ofProject workspace project) workspace
        (fun table id => ⟨workspace, project.text, id⟩ ∈
          S.places (b.run ids p (b.start .write store) 0).work table) work := by
    intro work hwork table id hid place hplace hworkspace hsame
    have hown := List.inj_on_of_nodup_map (hlast table) (hwork table hplace) (hafter table hid)
      (Prod.ext hworkspace hsame)
    rw [hown]
    exact ofProject_eq_true.mpr ⟨rfl, rfl⟩
  have hstart : S.ofWork (.ofProject workspace project) (b.start .write store) =
      S.ofWork (.ofProject workspace project) (b.start .write store') := by
    rw [S.start, S.start, hsame]
  obtain ⟨hresult, -, hpart⟩ := S.run_agrees ids (hp.makes.mono fun _ => asks_of_ofProject)
    (fun c hc x hx => S.mem_places_of_named hp hran hc x hx)
    (by
      rintro table ⟨w, q, id⟩ hplace rfl hkeep
      obtain ⟨-, rfl⟩ := ofProject_eq_true.mp hkeep
      exact hplace)
    (hclear _ fun table => List.Subset.trans (S.grow_run p _ 0 table).subset (hafter table))
    (hclear _ hother) hstart
  have hran' := hresult.trans hran
  rw [Backend.inUnit_of_ok hran', Backend.inUnit_of_ok hran, S.commit, S.commit, hpart]
  exact ⟨rfl, rfl⟩

/-- Units of work on two projects: if both end well one after the other, they do so in the other
order, with the same results, and leave the same rows in each project and outside. -/
theorem commute {q : ProjectId} (hother : project ≠ q) {first : Program ε α} {second : Program ε β}
    {ids' : Nat → Ulid} (hfirst : first.WritesTo workspace project)
    (hsecond : second.WritesTo workspace q) {store : b.Store} {x : α} {y : β}
    (hx : (b.inUnit .write ids first store).result = .ok x)
    (hy : (b.inUnit .write ids' second (b.inUnit .write ids first store).store).result = .ok y)
    (hdistinct : S.Distinct
      (b.inUnit .write ids' second (b.inUnit .write ids first store).store).store) :
    (b.inUnit .write ids' second store).result = .ok y ∧
      (b.inUnit .write ids first (b.inUnit .write ids' second store).store).result = .ok x ∧
      ∀ k : Sector, k = .ofProject workspace project ∨ k = .ofProject workspace q ∨
          (k workspace project.text = false ∧ k workspace q.text = false) →
        S.ofStore k (b.inUnit .write ids first (b.inUnit .write ids' second store).store).store =
          S.ofStore k (b.inUnit .write ids' second (b.inUnit .write ids first store).store).store := by
  have hq : Sector.ofProject workspace q workspace project.text = false := by
    simp [Sector.ofProject, ProjectId.text_inj, hother]
  have hproject : Sector.ofProject workspace project workspace q.text = false := by
    simp [Sector.ofProject, ProjectId.text_inj, hother.symm]
  have hgrow : ∀ table, S.placesOf store table ⊆
      S.placesOf (b.inUnit .write ids' second (b.inUnit .write ids first store).store).store
        table := fun table =>
    List.Subset.trans (S.grow_inUnit first store table) (S.grow_inUnit second _ table)
  -- The second unit, on the store that the first one has not seen.
  obtain ⟨hresult', hpart'⟩ := S.replay hsecond hy (S.spare_of_writesTo hfirst hq store) hdistinct
    (fun table => List.Subset.refl _) hgrow
  -- Whatever is there then is also there in the end.
  have hplaces : ∀ table, S.placesOf (b.inUnit .write ids' second store).store table ⊆
      S.placesOf (b.inUnit .write ids' second (b.inUnit .write ids first store).store).store
        table := by
    intro table place hplace
    rcases S.mem_placesOf_inUnit hsecond hplace with hown | hbefore
    · rw [hpart'] at hown
      exact (S.mem_placesOf_ofStore.mp hown).1
    · exact hgrow table hbefore
  obtain ⟨hresult, hpart⟩ := S.replay hfirst hx (S.spare_of_writesTo hsecond hproject store).symm
    hdistinct (fun table => S.grow_inUnit second _ table) hplaces
  refine ⟨hresult', hresult, ?_⟩
  rintro k (rfl | rfl | ⟨hk, hk'⟩)
  · rw [hpart, S.spare_of_writesTo hsecond hproject]
  · rw [S.spare_of_writesTo hfirst hq, hpart']
  · rw [S.spare_of_writesTo hfirst hk, S.spare_of_writesTo hsecond hk',
      S.spare_of_writesTo hsecond hk', S.spare_of_writesTo hfirst hk]

end Sectors

end ConfigTimeline
