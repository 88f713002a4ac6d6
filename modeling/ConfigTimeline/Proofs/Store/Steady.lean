import ConfigTimeline.Proofs.Store.Equivalence
import ConfigTimeline.Proofs.Store.Reasoning

/-!
Programs that come to the same on a database and in memory. A database may list an answer in another
order, and of its refusals only the kind is the same; a steady program does not go by either. As a unit
of work it ends well on both stores or on neither, and afterwards the database stands for the tables in
memory as before.
-/

namespace ConfigTimeline

/-- A call that a unit of work that writes may make, and whose answers callers tell apart. -/
structure Call.Definite (c : Call) : Prop where
  admissible : c.Admissible .write
  same : ∀ a b, c.Same a b → a = b

/-- A call that asks for no kinds and skips no records is one if no order is left open. -/
theorem Call.definite_of {c : Call} (hasked : c.asked = []) (hskips : c.skips = 0) (hdated : c.Dated)
    (hsame : ∀ a b, c.Same a b → a = b) : c.Definite where
  admissible :=
    { writes := fun _ => rfl
      asked := by
        rw [hasked]
        exact List.nodup_nil
      skips := by
        rw [hskips]
        exact Nat.zero_le _
      dated := hdated }
  same := hsame

/-- Both outcomes are values, which are the same to callers, or both are errors. -/
def EndAlike {ε α : Type} (same : α → α → Prop) : Except ε α → Except ε α → Prop
  | .ok a, .ok b => same a b
  | .error _, .error _ => True
  | _, _ => False

section EndAlike

variable {ε α : Type} {same : α → α → Prop} {outcome outcome' : Except ε α}

theorem EndAlike.exists_ok (h : EndAlike same outcome outcome') {a : α} (hok : outcome = .ok a) :
    ∃ b, outcome' = .ok b := by
  rw [hok] at h
  cases outcome' with
  | ok b => exact ⟨b, rfl⟩
  | error e => exact h.elim

theorem EndAlike.exists_error (h : EndAlike same outcome outcome') {e : ε}
    (herror : outcome = .error e) : ∃ e', outcome' = .error e' := by
  rw [herror] at h
  cases outcome' with
  | ok b => exact h.elim
  | error e' => exact ⟨e', rfl⟩

end EndAlike

namespace Program

variable {ε α β : Type} {same : α → α → Prop} {mode : Mode}

/-- Programs that are the same, or that end at once and alike. -/
inductive Matches (same : α → α → Prop) : Program ε α → Program ε α → Prop
  | refl (p : Program ε α) : Matches same p p
  | done {a b : α} (h : same a b) : Matches same (.done a) (.done b)
  | fail (e f : ε) : Matches same (.fail e) (.fail f)

/-- A program that goes on alike after outcomes that callers take for the same. Its calls are such as
are asked of a unit of work. -/
def Steady (mode : Mode) (same : α → α → Prop) : Program ε α → Prop
  | .done a => same a a
  | .fail _ => True
  | .call _ c next => c.Admissible mode ∧
      (∀ a b, c.Agree a b → (next a).Matches same (next b)) ∧ ∀ a, (next a).Steady mode same
  | .draw next => ∀ u, (next u).Steady mode same

section Bind

variable {same' : β → β → Prop} {f : α → Program ε β}

theorem Matches.bind {p q : Program ε α} (h : p.Matches same q)
    (hf : ∀ a b, same a b → (f a).Matches same' (f b)) :
    (p.bind f).Matches same' (q.bind f) := by
  cases h with
  | refl => exact .refl _
  | done h => exact hf _ _ h
  | fail e e' => exact .fail e e'

theorem steady_bind_of {p : Program ε α} (hp : p.Steady mode same)
    (hmatches : ∀ a b, same a b → (f a).Matches same' (f b))
    (hf : ∀ a, (f a).Steady mode same') : (p >>= f).Steady mode same' := by
  change (p.bind f).Steady mode same'
  induction p with
  | done a => exact hf a
  | fail e => trivial
  | call workspace c next ih =>
      obtain ⟨hc, hnexts, hnext⟩ := hp
      exact ⟨hc, fun a b h => (hnexts a b h).bind hmatches, fun a => ih a (hnext a)⟩
  | draw next ih => exact fun u => ih u (hp u)

theorem steady_bind {p : Program ε α} (hp : p.Steady mode (· = ·))
    (hf : ∀ a, (f a).Steady mode same') : (p >>= f).Steady mode same' := by
  refine steady_bind_of hp ?_ hf
  rintro a _ rfl
  exact .refl _

end Bind

theorem steady_ask {refused : StoreError → ε} {workspace : String} {c : Call}
    (hc : c.Admissible mode) : (ask refused workspace c).Steady mode c.Same := by
  refine ⟨hc, ?_, ?_⟩
  · intro a b hagree
    cases a with
    | ok a =>
        cases b with
        | ok b => exact .done hagree
        | error e => exact hagree.elim
    | error e =>
        cases b with
        | ok b => exact hagree.elim
        | error e' => exact .fail _ _
  · intro outcome
    cases outcome with
    | ok a => exact Call.same_refl a
    | error e => trivial

/-- A program is steady if its calls leave no order open. -/
theorem Makes.steady {workspace : String} {p : Program ε α}
    (h : p.Makes workspace Call.Definite) : p.Steady .write (· = ·) := by
  induction p with
  | done a => rfl
  | fail e => trivial
  | call w c next ih =>
      obtain ⟨-, hc, hrefused, hnext⟩ := h
      refine ⟨hc.admissible, ?_, fun a => ih a (hnext a)⟩
      intro a b hagree
      cases a with
      | ok a =>
          cases b with
          | ok b =>
              cases hc.same a b hagree
              exact .refl _
          | error e => exact hagree.elim
      | error e =>
          cases b with
          | ok b => exact hagree.elim
          | error e' =>
              obtain ⟨f, hf⟩ := hrefused e
              obtain ⟨f', hf'⟩ := hrefused e'
              rw [hf, hf']
              exact .fail f f'
  | draw next ih => exact fun u => ih u (h u)

variable {ids : Nat → Ulid} {m : Memory.Work} {n : Nat}

/-- An end like that of a program in memory, with the same tables. -/
def Mirrors (same : α → α → Prop) (ids : Nat → Ulid) (p : Program ε α) (m : Memory.Work) (n : Nat)
    (outcome : Except ε α) (m' : Memory.Work) : Prop :=
  EndAlike same outcome (Memory.backend.run ids p m n).result ∧
    m' = (Memory.backend.run ids p m n).work ∧ m'.tables.Dated

theorem Matches.mirrors {sure : Memory.Tables → Call → Prop} {p q : Program ε α}
    (hmatches : p.Matches same q)
    (h : p.Ensures sure ids (fun outcome m' _ => Mirrors same ids p m n outcome m') m n) :
    p.Ensures sure ids (fun outcome m' _ => Mirrors same ids q m n outcome m') m n := by
  cases hmatches with
  | refl => exact h
  | done hsame =>
      obtain ⟨-, -, hdated⟩ := h
      exact ⟨hsame, rfl, hdated⟩
  | fail e e' =>
      obtain ⟨-, -, hdated⟩ := h
      exact ⟨trivial, rfl, hdated⟩

/-- Wherever its answers come from, a steady program ends as it does in memory. -/
theorem Steady.ensures {p : Program ε α} (h : p.Steady m.mode same) (hdated : m.tables.Dated) :
    p.Ensures Database.tableModel.Sure ids (fun outcome m' _ => Mirrors same ids p m n outcome m')
      m n := by
  induction p generalizing m n with
  | done a => exact ⟨h, rfl, hdated⟩
  | fail e => exact ⟨trivial, rfl, hdated⟩
  | call workspace c next ih =>
      obtain ⟨hc, hmatches, hnext⟩ := h
      refine ⟨hc.writes, hc.asked, ?_⟩
      intro outcome houtcome
      have hagree : c.Agree outcome (Memory.perform workspace c m).1 :=
        houtcome.resolve_right fun hrefused => hrefused.1 ⟨hdated, hc.skips⟩
      have hsteady : (next outcome).Steady (Memory.perform workspace c m).2.mode same := by
        rw [Memory.mode_perform]
        exact hnext outcome
      exact (hmatches _ _ hagree).mirrors
        (ih outcome hsteady (Memory.dated_perform workspace hc.dated hdated))
  | draw next ih => exact ih _ (h _) hdated

/-- A steady program as a unit of work on a database and on the tables that it stands for. -/
theorem Steady.inUnit {p : Program ε α} (h : p.Steady mode same) {store : Database}
    {t : Memory.Tables} (hstore : Database.tableModel.Holds store t) (hdated : t.Dated) :
    let settled := Database.backend.inUnit mode ids p store
    let settled' := Memory.backend.inUnit mode ids p t
    Database.tableModel.Holds settled.store settled'.store ∧ settled'.store.Dated ∧
      EndAlike same settled.result settled'.result := by
  intro settled settled'
  let start := Memory.backend.start mode t
  have hensures : p.Ensures Database.tableModel.Sure ids
      (fun outcome m' _ => Mirrors same ids p start 0 outcome m') start 0 := h.ensures hdated
  obtain ⟨t', _, hholds, ⟨halike, rfl, hdated'⟩, hcase⟩ :=
    Database.tableModel.inUnit hstore hensures
  have hresult : settled'.result = (Memory.backend.run ids p start 0).result :=
    Memory.backend.result_inUnit mode ids p t
  obtain ⟨hleft, hdatedLeft⟩ : settled'.store = t' ∧ t'.Dated := by
    rcases hcase with ⟨a, hok, rfl⟩ | ⟨e, herror, rfl⟩
    · obtain ⟨b, hok'⟩ := halike.exists_ok hok
      exact ⟨Memory.store_inUnit_of_ok hok', hdated'⟩
    · obtain ⟨e', herror'⟩ := halike.exists_error herror
      exact ⟨Memory.store_inUnit_of_error herror', hdated⟩
  rw [hresult, hleft]
  exact ⟨hholds, hdatedLeft, halike⟩

end Program

end ConfigTimeline
