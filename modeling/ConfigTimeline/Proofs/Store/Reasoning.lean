import ConfigTimeline.Proofs.Store.TableModel

/-!
Reasoning about programs on every store at once. `Ensures` says of a program what it comes to, from
the tables in memory alone: each call changes the tables as a call in memory does, and its outcome may
be any that a store may have. What a program ensures holds on each store that is read as tables, and
a unit of work that fails leaves the tables as they were.
-/

namespace ConfigTimeline

namespace Program

variable {ε α β : Type} {sure : Memory.Tables → Call → Prop} {ids : Nat → Ulid}

/-- However the calls of a program may be answered, it ends as `Q` says. -/
def Ensures (sure : Memory.Tables → Call → Prop) (ids : Nat → Ulid)
    (Q : Except ε α → Memory.Work → Nat → Prop) : Program ε α → Memory.Work → Nat → Prop
  | .done a, m, n => Q (.ok a) m n
  | .fail e, m, n => Q (.error e) m n
  | .call workspace c next, m, n =>
      (c.writes = true → m.mode = .write) ∧ c.asked.Nodup ∧
        ∀ outcome, c.MayAnswer (sure m.tables c) outcome (Memory.perform workspace c m).1 →
          Ensures sure ids Q (next outcome) (Memory.perform workspace c m).2 n
  | .draw next, m, n => Ensures sure ids Q (next (ids n)) m (n + 1)

/-- The value at the end is as `P` says, and if it is `certain` there is one. -/
def Ends (certain : Prop) (P : α → Memory.Work → Nat → Prop) :
    Except ε α → Memory.Work → Nat → Prop
  | .ok a, m, n => P a m n
  | .error _, _, _ => ¬certain

/-- What has to be ensured before a program that goes on with the value. -/
def Then (sure : Memory.Tables → Call → Prop) (ids : Nat → Ulid) (f : α → Program ε β)
    (Q : Except ε β → Memory.Work → Nat → Prop) : Except ε α → Memory.Work → Nat → Prop
  | .ok a, m, n => (f a).Ensures sure ids Q m n
  | .error e, m, n => Q (.error e) m n

theorem Ensures.mono {Q Q' : Except ε α → Memory.Work → Nat → Prop} {p : Program ε α}
    {m : Memory.Work} {n : Nat} (h : p.Ensures sure ids Q m n)
    (hQ : ∀ r m' n', m'.mode = m.mode → Q r m' n' → Q' r m' n') :
    p.Ensures sure ids Q' m n := by
  induction p generalizing m n with
  | done a => exact hQ _ _ _ rfl h
  | fail e => exact hQ _ _ _ rfl h
  | call workspace c next ih =>
      refine ⟨h.1, h.2.1, ?_⟩
      intro outcome houtcome
      refine ih outcome (h.2.2 outcome houtcome) ?_
      intro r m' n' hmode hr
      exact hQ r m' n' (hmode.trans (Memory.mode_perform workspace c m)) hr
  | draw next ih => exact ih _ h hQ

theorem ensures_bind {Q : Except ε β → Memory.Work → Nat → Prop} {p : Program ε α}
    {f : α → Program ε β} {m : Memory.Work} {n : Nat}
    (h : p.Ensures sure ids (Then sure ids f Q) m n) : (p >>= f).Ensures sure ids Q m n := by
  change (p.bind f).Ensures sure ids Q m n
  induction p generalizing m n with
  | done a => exact h
  | fail e => exact h
  | call workspace c next ih =>
      exact ⟨h.1, h.2.1, fun outcome houtcome => ih outcome (h.2.2 outcome houtcome)⟩
  | draw next ih => exact ih _ h

theorem Ensures.map {Q : Except ε α → Memory.Work → Nat → Prop} {p : Program ε α} {m : Memory.Work}
    {n : Nat} (h : p.Ensures sure ids Q m n) (f : α → β) :
    (f <$> p).Ensures sure ids (fun r m' n' => ∃ outcome, r = outcome.map f ∧ Q outcome m' n') m
      n := by
  refine ensures_bind (h.mono ?_)
  rintro (e | a) m' n' - hQ
  · exact ⟨.error e, rfl, hQ⟩
  · exact ⟨.ok a, rfl, hQ⟩

theorem ends_bind {certain : Prop} {P : α → Memory.Work → Nat → Prop}
    {P' : β → Memory.Work → Nat → Prop} {p : Program ε α} {f : α → Program ε β} {m : Memory.Work}
    {n : Nat} (h : p.Ensures sure ids (Ends certain P) m n)
    (hf : ∀ a m' n', m'.mode = m.mode → P a m' n' →
      (f a).Ensures sure ids (Ends certain P') m' n') :
    (p >>= f).Ensures sure ids (Ends certain P') m n := by
  apply ensures_bind
  refine h.mono ?_
  intro r m' n' hmode hr
  cases r with
  | ok a => exact hf a m' n' hmode hr
  | error e => exact hr

/-- A call that reads leaves the tables alone. It may fail only where the answer is not certain. -/
theorem ensures_read {c : Call} (hreads : c.writes = false) (hasked : c.asked.Nodup)
    {Q : Except ε c.Answer → Memory.Work → Nat → Prop} {refused : StoreError → ε}
    {workspace : String} {m : Memory.Work} {n : Nat} {reference : c.Answer}
    (hreference : (Memory.perform workspace c m).1 = .ok reference)
    (hok : ∀ a, c.Same a reference → Q (.ok a) m n)
    (herror : ¬sure m.tables c → ∀ e, Q (.error e) m n) :
    (ask refused workspace c).Ensures sure ids Q m n := by
  refine ⟨fun hwrites => by simp [hreads] at hwrites, hasked, ?_⟩
  intro outcome houtcome
  rw [Memory.perform_of_reads hreads]
  rw [hreference] at houtcome
  cases outcome with
  | ok a =>
      rcases houtcome with hsame | ⟨_, _, e, herr⟩
      · exact hok a hsame
      · cases herr
  | error e =>
      rcases houtcome with hagree | ⟨hunsure, _⟩
      · exact hagree.elim
      · exact herror hunsure _

theorem ends_read {certain : Prop} {c : Call} (hreads : c.writes = false)
    (hasked : c.asked.Nodup) {refused : StoreError → ε} {workspace : String} {m : Memory.Work}
    {n : Nat} {reference : c.Answer}
    (hreference : (Memory.perform workspace c m).1 = .ok reference)
    (hsure : certain → sure m.tables c) :
    (ask refused workspace c).Ensures sure ids
      (Ends certain fun a m' n' => m' = m ∧ n' = n ∧ c.Same a reference) m n := by
  refine ensures_read hreads hasked hreference ?_ ?_
  · intro a hsame
    exact ⟨rfl, rfl, hsame⟩
  · intro hunsure _ hcertain
    exact hunsure (hsure hcertain)

theorem eq_of_same {c : Call} (h : c.writes = true) {a b : c.Answer} (hsame : c.Same a b) :
    a = b := by
  cases c <;> first | exact hsame | cases h

/-- A call that writes changes the tables as in memory. It is refused where it is in memory, with a
refusal of the same kind. -/
theorem ensures_write {c : Call} (hwrites : c.writes = true) (hasked : c.asked.Nodup)
    {Q : Except ε c.Answer → Memory.Work → Nat → Prop} {refused : StoreError → ε}
    {workspace : String} {m : Memory.Work} {n : Nat} (hmode : m.mode = .write)
    (hok : ∀ a, (Memory.perform workspace c m).1 = .ok a →
      Q (.ok a) (Memory.perform workspace c m).2 n)
    (herror : ∀ e, (Memory.perform workspace c m).1 = .error e → ∀ e', e'.kind = e.kind →
      Q (.error (refused e')) (Memory.perform workspace c m).2 n) :
    (ask refused workspace c).Ensures sure ids Q m n := by
  refine ⟨fun _ => hmode, hasked, ?_⟩
  intro outcome houtcome
  have hagree : c.Agree outcome (Memory.perform workspace c m).1 := by
    refine houtcome.resolve_right ?_
    rintro ⟨_, hreads, _⟩
    simp [hwrites] at hreads
  cases hreference : (Memory.perform workspace c m).1 with
  | ok b =>
      rw [hreference] at hagree
      cases outcome with
      | ok a =>
          obtain rfl : a = b := eq_of_same hwrites hagree
          exact hok a hreference
      | error e => exact hagree.elim
  | error e =>
      rw [hreference] at hagree
      cases outcome with
      | ok a => exact hagree.elim
      | error e' => exact herror e hreference e' hagree

theorem ends_write {certain : Prop} {c : Call} (hwrites : c.writes = true)
    (hasked : c.asked.Nodup) {refused : StoreError → ε} {workspace : String} {m : Memory.Work}
    {n : Nat} (hmode : m.mode = .write)
    (hcertain : certain → ∃ a, (Memory.perform workspace c m).1 = .ok a) :
    (ask refused workspace c).Ensures sure ids
      (Ends certain fun a m' n' => n' = n ∧ Memory.perform workspace c m = (.ok a, m')) m n := by
  refine ensures_write hwrites hasked hmode ?_ ?_
  · intro a hok
    exact ⟨rfl, Prod.ext hok rfl⟩
  · intro e herror _ _ hc
    obtain ⟨a, hok⟩ := hcertain hc
    rw [hok] at herror
    cases herror

theorem ends_orFail {certain : Prop} {e : ε} {a : Option α} {m : Memory.Work} {n : Nat}
    (h : certain → a.isSome = true) :
    (orFail e a).Ensures sure ids
      (Ends certain fun x m' n' => m' = m ∧ n' = n ∧ a = some x) m n := by
  cases a with
  | some x => exact ⟨rfl, rfl, rfl⟩
  | none =>
      intro hcertain
      cases h hcertain

theorem ends_map {certain : Prop} {P : β → Memory.Work → Nat → Prop} {f : α → β}
    {p : Program ε α} {m : Memory.Work} {n : Nat}
    (h : p.Ensures sure ids (Ends certain fun a m' n' => P (f a) m' n') m n) :
    (f <$> p).Ensures sure ids (Ends certain P) m n :=
  ends_bind h fun _ _ _ _ hP => hP

/-- What is made of items, each with the next of the identifiers from a position on. -/
def stamped (make : Ulid → α → β) (ids : Nat → Ulid) : Nat → List α → List β
  | _, [] => []
  | n, a :: rest => make (ids n) a :: stamped make ids (n + 1) rest

theorem getElem?_stamped (make : Ulid → α → β) (ids : Nat → Ulid) (n : Nat) (items : List α)
    (i : Nat) : (stamped make ids n items)[i]? = items[i]?.map (make (ids (n + i))) := by
  induction items generalizing n i with
  | nil => rfl
  | cons a rest ih =>
      cases i with
      | zero => rfl
      | succ i =>
          rw [stamped, List.getElem?_cons_succ, List.getElem?_cons_succ, ih, Nat.add_right_comm,
            Nat.add_assoc]

theorem mem_stamped {make : Ulid → α → β} {items : List α} {b : β} {n : Nat}
    (h : b ∈ stamped make ids n items) :
    ∃ i < items.length, ∃ a ∈ items, b = make (ids (n + i)) a := by
  obtain ⟨i, hi⟩ := List.mem_iff_getElem?.mp h
  rw [getElem?_stamped, Option.map_eq_some_iff] at hi
  obtain ⟨a, ha, rfl⟩ := hi
  exact ⟨i, (List.getElem?_eq_some_iff.mp ha).1, a, List.mem_of_getElem? ha, rfl⟩

theorem exists_mem_stamped (make : Ulid → α → β) (ids : Nat → Ulid) (n : Nat) {items : List α}
    {a : α} (h : a ∈ items) : ∃ u, make u a ∈ stamped make ids n items := by
  obtain ⟨i, hi⟩ := List.mem_iff_getElem?.mp h
  refine ⟨ids (n + i), List.mem_of_getElem? (i := i) ?_⟩
  rw [getElem?_stamped, hi, Option.map_some]

theorem forall₂_stamped (make : Ulid → α → β) (items : List α) (n : Nat) :
    List.Forall₂ (fun a b => ∃ u, b = make u a) items (stamped make ids n items) := by
  induction items generalizing n with
  | nil => exact .nil
  | cons a rest ih => exact .cons ⟨ids n, rfl⟩ (ih (n + 1))

theorem ends_freshFor {certain : Prop} (make : Ulid → α → β) (items : List α) (m : Memory.Work)
    (n : Nat) :
    (freshFor make items : Program ε (List β)).Ensures sure ids
      (Ends certain fun made m' n' => m' = m ∧ made = stamped make ids n items ∧
        n' = n + items.length) m n := by
  induction items generalizing n with
  | nil => exact ⟨rfl, rfl, rfl⟩
  | cons a rest ih =>
      refine ends_bind (ih (n + 1)) ?_
      rintro made m' n' - ⟨rfl, rfl, rfl⟩
      refine ⟨rfl, rfl, ?_⟩
      rw [List.length_cons]
      omega

/-- Every call that a program may make is made in a workspace and is as `P` says, and the program fails
if the call is refused. -/
def Makes (workspace : String) (P : Call → Prop) : Program ε α → Prop
  | .done _ => True
  | .fail _ => True
  | .call w c next => w = workspace ∧ P c ∧ (∀ e, ∃ e', next (.error e) = .fail e') ∧
      ∀ outcome, (next outcome).Makes workspace P
  | .draw next => ∀ u, (next u).Makes workspace P

/-- Every value that a program may end with is as `Q` says. -/
def Yields (Q : α → Prop) : Program ε α → Prop
  | .done a => Q a
  | .fail _ => True
  | .call _ _ next => ∀ outcome, (next outcome).Yields Q
  | .draw next => ∀ u, (next u).Yields Q

def Fails (P : ε → Prop) : Program ε α → Prop
  | .done _ => True
  | .fail e => P e
  | .call _ _ next => ∀ outcome, (next outcome).Fails P
  | .draw next => ∀ u, (next u).Fails P

section Fails

variable {P : ε → Prop}

theorem fails_bind {p : Program ε α} {f : α → Program ε β} (hp : p.Fails P)
    (hf : ∀ a, (f a).Fails P) : (p >>= f).Fails P := by
  change (p.bind f).Fails P
  induction p with
  | done a => exact hf a
  | fail e => exact hp
  | call w c next ih => exact fun outcome => ih outcome (hp outcome)
  | draw next ih => exact fun u => ih u (hp u)

theorem fails_ask {refused : StoreError → ε} {workspace : String} {c : Call}
    (h : ∀ e, P (refused e)) : (ask refused workspace c).Fails P := by
  intro outcome
  cases outcome with
  | ok a => trivial
  | error e => exact h e

theorem fails_freshFor (make : Ulid → α → β) (items : List α) :
    (freshFor make items : Program ε (List β)).Fails P := by
  induction items with
  | nil => trivial
  | cons a rest ih => exact fun u => fails_bind ih fun _ => trivial

/-- What is ensured of a program is ensured together with what all of its failures are. -/
theorem Fails.ensures {p : Program ε α} {m : Memory.Work} {n : Nat}
    {Q : Except ε α → Memory.Work → Nat → Prop} (h : p.Fails P) (hQ : p.Ensures sure ids Q m n) :
    p.Ensures sure ids (fun r m' n' => Q r m' n' ∧ ∀ e, r = .error e → P e) m n := by
  induction p generalizing m n with
  | done a => exact ⟨hQ, fun _ herror => by cases herror⟩
  | fail e =>
      refine ⟨hQ, ?_⟩
      rintro _ ⟨⟩
      exact h
  | call workspace c next ih =>
      exact ⟨hQ.1, hQ.2.1, fun outcome houtcome =>
        ih outcome (h outcome) (hQ.2.2 outcome houtcome)⟩
  | draw next ih => exact ih _ (h _) hQ

end Fails

theorem yields_true (p : Program ε α) : p.Yields fun _ => True := by
  induction p with
  | done a => trivial
  | fail e => trivial
  | call w c next ih => exact ih
  | draw next ih => exact ih

theorem yields_bind {Q : α → Prop} {Q' : β → Prop} {p : Program ε α} {f : α → Program ε β}
    (hp : p.Yields Q) (hf : ∀ a, Q a → (f a).Yields Q') : (p >>= f).Yields Q' := by
  change (p.bind f).Yields Q'
  induction p with
  | done a => exact hf a hp
  | fail e => trivial
  | call w c next ih => exact fun outcome => ih outcome (hp outcome)
  | draw next ih => exact fun u => ih u (hp u)

theorem yields_freshFor (make : Ulid → α → β) (items : List α) :
    (freshFor make items : Program ε (List β)).Yields fun made =>
      ∀ b ∈ made, ∃ u a, b = make u a := by
  induction items with
  | nil => exact List.forall_mem_nil _
  | cons a rest ih =>
      intro u
      refine yields_bind ih fun made hmade => ?_
      exact List.forall_mem_cons.mpr ⟨⟨u, a, rfl⟩, hmade⟩

section Makes

variable {workspace : String} {P P' : Call → Prop}

theorem Makes.mono {p : Program ε α} (h : p.Makes workspace P) (hP : ∀ c, P c → P' c) :
    p.Makes workspace P' := by
  induction p with
  | done a => trivial
  | fail e => trivial
  | call w c next ih =>
      obtain ⟨hw, hc, hrefused, hnext⟩ := h
      exact ⟨hw, hP c hc, hrefused, fun outcome => ih outcome (hnext outcome)⟩
  | draw next ih => exact fun u => ih u (h u)

theorem makes_bind_of_yields {Q : α → Prop} {p : Program ε α} {f : α → Program ε β}
    (hp : p.Makes workspace P) (hyields : p.Yields Q)
    (hf : ∀ a, Q a → (f a).Makes workspace P) : (p >>= f).Makes workspace P := by
  change (p.bind f).Makes workspace P
  induction p with
  | done a => exact hf a hyields
  | fail e => trivial
  | call w c next ih =>
      obtain ⟨hw, hc, hrefused, hnext⟩ := hp
      refine ⟨hw, hc, ?_, fun outcome => ih outcome (hnext outcome) (hyields outcome)⟩
      intro e
      obtain ⟨e', hfail⟩ := hrefused e
      exact ⟨e', congrArg (fun q => q.bind f) hfail⟩
  | draw next ih => exact fun u => ih u (hp u) (hyields u)

theorem makes_bind {p : Program ε α} {f : α → Program ε β} (hp : p.Makes workspace P)
    (hf : ∀ a, (f a).Makes workspace P) : (p >>= f).Makes workspace P :=
  makes_bind_of_yields hp (yields_true p) fun a _ => hf a

theorem makes_map {p : Program ε α} {f : α → β} (hp : p.Makes workspace P) :
    (f <$> p).Makes workspace P :=
  makes_bind hp fun _ => trivial

theorem makes_ask {refused : StoreError → ε} {c : Call} (h : P c) :
    (ask refused workspace c).Makes workspace P := by
  refine ⟨rfl, h, fun e => ⟨refused e, rfl⟩, ?_⟩
  intro outcome
  cases outcome <;> trivial

theorem makes_orFail {e : ε} {a : Option α} : (orFail e a).Makes workspace P := by
  cases a <;> trivial

theorem makes_freshFor (make : Ulid → α → β) (items : List α) :
    (freshFor make items : Program ε (List β)).Makes workspace P := by
  induction items with
  | nil => trivial
  | cons a rest ih => exact fun u => makes_bind ih fun _ => trivial

/-- What every call keeps, a program keeps. -/
theorem Makes.ensures {p : Program ε α} {m : Memory.Work} {n : Nat} {I : Memory.Tables → Prop}
    (h : p.Makes workspace P) (hwrites : ∀ c, P c → c.writes = true → m.mode = .write)
    (hasked : ∀ c, P c → c.asked.Nodup)
    (hkept : ∀ c m', P c → I m'.tables → I (Memory.perform workspace c m').2.tables)
    (hm : I m.tables) : p.Ensures sure ids (fun _ m' _ => I m'.tables) m n := by
  induction p generalizing m n with
  | done a => exact hm
  | fail e => exact hm
  | call w c next ih =>
      obtain ⟨rfl, hc, -, hnext⟩ := h
      refine ⟨hwrites c hc, hasked c hc, ?_⟩
      intro outcome _
      refine ih outcome (hnext outcome) ?_ (hkept c m hc hm)
      intro c' hc' hwrites'
      exact (Memory.mode_perform w c m).trans (hwrites c' hc' hwrites')
  | draw next ih => exact ih _ (h _) hwrites hm

/-- What a program ensures where every answer is sure, it ensures everywhere, unless it fails. -/
theorem Makes.ensures_of_sure {p : Program ε α} {m : Memory.Work} {n : Nat}
    {Q : Except ε α → Memory.Work → Nat → Prop} (hmakes : p.Makes workspace P)
    (h : p.Ensures (fun _ _ => True) ids Q m n) :
    p.Ensures sure ids (fun outcome m' n' => (∃ e, outcome = .error e) ∨ Q outcome m' n') m n := by
  induction p generalizing m n with
  | done a => exact Or.inr h
  | fail e => exact Or.inr h
  | call w c next ih =>
      obtain ⟨-, -, hrefused, hnext⟩ := hmakes
      refine ⟨h.1, h.2.1, ?_⟩
      rintro outcome (hagree | ⟨-, -, e, rfl⟩)
      · exact ih outcome (hnext outcome) (h.2.2 outcome (Or.inl hagree))
      · -- The program gives up where the store refuses.
        obtain ⟨e', hfail⟩ := hrefused e
        rw [hfail]
        exact Or.inl ⟨e', rfl⟩
  | draw next ih => exact ih _ (hmakes _) h

end Makes

end Program

/-- A program goes on from where the one before it ended, unless that failed. -/
theorem Backend.run_bind {ε α β : Type} (b : Backend) (ids : Nat → Ulid) (p : Program ε α)
    (f : α → Program ε β) (work : b.Work) (n : Nat) :
    b.run ids (p >>= f) work n =
      match (b.run ids p work n).result with
      | .ok a => b.run ids (f a) (b.run ids p work n).work (b.run ids p work n).drawn
      | .error e => ⟨.error e, (b.run ids p work n).work, (b.run ids p work n).drawn⟩ := by
  change b.run ids (p.bind f) work n = _
  induction p generalizing work n with
  | done a => rfl
  | fail e => rfl
  | call workspace c next ih => exact ih _ _ _
  | draw next ih => exact ih _ _ _

theorem Backend.result_map {ε α β : Type} (b : Backend) (ids : Nat → Ulid) (f : α → β)
    (p : Program ε α) (work : b.Work) (n : Nat) :
    (b.run ids (f <$> p) work n).result = (b.run ids p work n).result.map f := by
  change (b.run ids (p >>= fun a => pure (f a)) work n).result = _
  rw [b.run_bind]
  cases (b.run ids p work n).result <;> rfl

/-- A unit of work has the result of its program, whether it is committed or rolled back. -/
theorem Backend.result_inUnit {ε α : Type} (b : Backend) (mode : Mode) (ids : Nat → Ulid)
    (p : Program ε α) (store : b.Store) :
    (b.inUnit mode ids p store).result = (b.run ids p (b.start mode store) 0).result := by
  unfold Backend.inUnit
  dsimp only
  split
  · rename_i hresult
    exact hresult.symm
  · rename_i hresult
    exact hresult.symm

namespace TableModel

variable {b : Backend} (model : TableModel b) {ε α : Type} {ids : Nat → Ulid}
  {Q : Except ε α → Memory.Work → Nat → Prop}

/-- What a program ensures holds where it ends on a store. -/
theorem run {p : Program ε α} {work : b.Work} {m : Memory.Work} {n : Nat}
    (hwithin : model.Within work m) (h : p.Ensures model.Sure ids Q m n) :
    ∃ m', model.Within (b.run ids p work n).work m' ∧ m'.origin = m.origin ∧
      Q (b.run ids p work n).result m' (b.run ids p work n).drawn := by
  induction p generalizing work m n with
  | done a => exact ⟨m, hwithin, rfl, h⟩
  | fail e => exact ⟨m, hwithin, rfl, h⟩
  | call workspace c next ih =>
      obtain ⟨hwrites, hasked, hnext⟩ := h
      obtain ⟨hafter, hanswer⟩ := model.perform workspace hwithin hwrites hasked
      obtain ⟨m', hwithin', horigin, hQ⟩ := ih _ hafter (hnext _ hanswer)
      exact ⟨m', hwithin', horigin.trans (Memory.origin_perform workspace c m), hQ⟩
  | draw next ih => exact ih _ hwithin h

/-- What a program ensures holds of the unit of work that it is: of the tables afterwards if it ends
well, while a failure leaves the tables as they were. -/
theorem inUnit {p : Program ε α} {store : b.Store} {t : Memory.Tables} {mode : Mode}
    (hstore : model.Holds store t)
    (h : p.Ensures model.Sure ids Q (Memory.backend.start mode t) 0) :
    ∃ t' m, model.Holds (b.inUnit mode ids p store).store t' ∧
      Q (b.inUnit mode ids p store).result m (b.inUnit mode ids p store).drawn ∧
      ((∃ a, (b.inUnit mode ids p store).result = .ok a ∧ t' = m.tables) ∨
        (∃ e, (b.inUnit mode ids p store).result = .error e ∧ t' = t)) := by
  obtain ⟨m, hwithin, horigin, hQ⟩ := model.run (model.start mode hstore) h
  cases hresult : (b.run ids p (b.start mode store) 0).result with
  | ok a =>
      rw [Backend.inUnit_of_ok hresult]
      rw [hresult] at hQ
      exact ⟨m.tables, m, model.commit hwithin, hQ, Or.inl ⟨a, rfl, rfl⟩⟩
  | error e =>
      rw [Backend.inUnit_of_error hresult]
      rw [hresult] at hQ
      have hrolled := model.rollback hwithin
      have hstart : m.origin = t := horigin
      rw [hstart] at hrolled
      exact ⟨t, m, hrolled, hQ, Or.inr ⟨e, rfl, rfl⟩⟩

end TableModel

end ConfigTimeline
