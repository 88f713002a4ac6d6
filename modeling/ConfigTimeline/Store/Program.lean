import ConfigTimeline.Store.Call

/-!
Programs that run within a unit of work. A program makes calls on a store, whose answers and refusals
it may look at, and draws fresh identifiers; it ends with a value or with a failure. What the calls do
is left to the store, so one program describes one operation for every store there is.
-/

namespace ConfigTimeline

/-- A program that ends with an `α` or fails with an `ε`. -/
inductive Program (ε α : Type) where
  | done (a : α)
  | fail (e : ε)
  | call (workspace : String) (c : Call) (next : Except StoreError c.Answer → Program ε α)
  | draw (next : Ulid → Program ε α)

namespace Program

variable {ε ε' α β γ : Type}

def bind : Program ε α → (α → Program ε β) → Program ε β
  | .done a, f => f a
  | .fail e, _ => .fail e
  | .call workspace c next, f => .call workspace c fun answer => (next answer).bind f
  | .draw next, f => .draw fun u => (next u).bind f

instance : Monad (Program ε) where
  pure := .done
  bind := bind

theorem bind_done (p : Program ε α) : p.bind .done = p := by
  induction p with
  | done a => rfl
  | fail e => rfl
  | call workspace c next ih => simp [bind, ih]
  | draw next ih => simp [bind, ih]

theorem bind_bind (p : Program ε α) (f : α → Program ε β) (g : β → Program ε γ) :
    (p.bind f).bind g = p.bind fun a => (f a).bind g := by
  induction p with
  | done a => rfl
  | fail e => rfl
  | call workspace c next ih => simp [bind, ih]
  | draw next ih => simp [bind, ih]

instance : LawfulMonad (Program ε) :=
  LawfulMonad.mk' (Program ε) (fun p => bind_done p) (fun _ _ => rfl) bind_bind

/-- Makes a call and fails with what `refused` makes of a refusal. -/
def ask (refused : StoreError → ε) (workspace : String) (c : Call) : Program ε c.Answer :=
  .call workspace c fun
    | .ok answer => .done answer
    | .error e => .fail (refused e)

def fresh : Program ε Ulid := .draw .done

/-- The value at the end of a computation that makes no calls. -/
def ofExcept : Except ε α → Program ε α
  | .ok a => .done a
  | .error e => .fail e

def orFail (e : ε) : Option α → Program ε α
  | some a => .done a
  | none => .fail e

/-- A program with other words for its failures. -/
def mapFailure (f : ε → ε') : Program ε α → Program ε' α
  | .done a => .done a
  | .fail e => .fail (f e)
  | .call workspace c next => .call workspace c fun answer => (next answer).mapFailure f
  | .draw next => .draw fun u => (next u).mapFailure f

/-- A program that never fails and ends with the outcome of another one. -/
def attempt : Program ε α → Program ε' (Except ε α)
  | .done a => .done (.ok a)
  | .fail e => .done (.error e)
  | .call workspace c next => .call workspace c fun answer => (next answer).attempt
  | .draw next => .draw fun u => (next u).attempt

/-- A fresh identifier for each element of a list, in order. -/
def freshFor (make : Ulid → α → β) : List α → Program ε (List β)
  | [] => .done []
  | a :: rest => .draw fun u => (freshFor make rest).bind fun made => .done (make u a :: made)

end Program

end ConfigTimeline
