/-!
Finite maps as lists of keys and values. Each key occurs at most once; putting a value under a key
replaces the value it had.
-/

namespace ConfigTimeline

structure Index (κ α : Type) where
  entries : List (κ × α)
deriving DecidableEq

namespace Index

variable {κ α : Type} [DecidableEq κ]

def empty : Index κ α := ⟨[]⟩

def get? (m : Index κ α) (key : κ) : Option α := (m.entries.find? (·.1 == key)).map (·.2)

/-- The entries with a value put under a key. -/
def putEntry (key : κ) (a : α) : List (κ × α) → List (κ × α)
  | [] => [(key, a)]
  | entry :: rest => if entry.1 = key then (key, a) :: rest else entry :: putEntry key a rest

def put (m : Index κ α) (key : κ) (a : α) : Index κ α := ⟨putEntry key a m.entries⟩

def erase (m : Index κ α) (key : κ) : Index κ α := ⟨m.entries.filter (·.1 != key)⟩

def size (m : Index κ α) : Nat := m.entries.length

@[simp] theorem get?_empty (key : κ) : (empty : Index κ α).get? key = none := rfl

theorem find?_putEntry (key other : κ) (a : α) (entries : List (κ × α)) :
    ((putEntry key a entries).find? (·.1 == other)).map (·.2) =
      if other = key then some a else (entries.find? (·.1 == other)).map (·.2) := by
  induction entries with
  | nil =>
      by_cases h : other = key
      · simp [putEntry, h]
      · simp [putEntry, h, Ne.symm h]
  | cons entry rest ih =>
      by_cases hk : entry.1 = key
      · by_cases h : other = key
        · simp [putEntry, hk, h]
        · have : ¬key = other := fun e => h e.symm
          simp [putEntry, hk, h, this]
      · by_cases ho : entry.1 = other
        · have : ¬other = key := fun e => hk (ho.trans e)
          rw [putEntry, if_neg hk]
          simp [ho, this]
        · rw [putEntry, if_neg hk]
          have hb : (entry.1 == other) = false := by simpa using ho
          simpa [List.find?_cons, hb] using ih

/-- What is under a key after a value is put under one. -/
@[simp] theorem get?_put (m : Index κ α) (key other : κ) (a : α) :
    (m.put key a).get? other = if other = key then some a else m.get? other :=
  find?_putEntry key other a m.entries

end Index

end ConfigTimeline
