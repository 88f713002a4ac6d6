/-!
Rows of tables. A row belongs to a workspace; a batch of rows is stored one after another up to the
first that clashes with what is stored by then.
-/

namespace ConfigTimeline

structure Scoped (α : Type) where
  workspace : String
  record : α
deriving DecidableEq

variable {α κ : Type}

/-- The records of a workspace, in the order of their rows. -/
def recordsIn (workspace : String) (rows : List (Scoped α)) : List α :=
  rows.filterMap fun row => if row.workspace = workspace then some row.record else none

/-- Appends rows one by one. Stops at the first that clashes with the rows before it, and tells why. -/
def appendUntilClash (clash : List α → α → Option κ) (rows : List α) :
    List α → List α × Option κ
  | [] => (rows, none)
  | row :: rest =>
      match clash rows row with
      | some cause => (rows, some cause)
      | none => appendUntilClash clash (rows ++ [row]) rest

theorem mem_recordsIn {workspace : String} {rows : List (Scoped α)} {a : α} :
    a ∈ recordsIn workspace rows ↔ ⟨workspace, a⟩ ∈ rows := by
  simp only [recordsIn, List.mem_filterMap]
  constructor
  · rintro ⟨row, mem, h⟩
    split at h
    · rename_i hw
      cases row
      simp_all
    · cases h
  · intro mem
    exact ⟨_, mem, by simp⟩

/-- What is stored of a batch is its beginning, after the rows that were there. -/
theorem appendUntilClash_extends (clash : List α → α → Option κ) (rows batch : List α) :
    ∃ kept, kept <+: batch ∧ (appendUntilClash clash rows batch).1 = rows ++ kept := by
  induction batch generalizing rows with
  | nil => exact ⟨[], List.prefix_refl _, by simp [appendUntilClash]⟩
  | cons row rest ih =>
      cases hclash : clash rows row with
      | some cause => exact ⟨[], List.nil_prefix, by simp [appendUntilClash, hclash]⟩
      | none =>
          obtain ⟨kept, hkept, hrows⟩ := ih (rows ++ [row])
          refine ⟨row :: kept, (List.prefix_cons_inj row).mpr hkept, ?_⟩
          simp [appendUntilClash, hclash, hrows]

/-- A batch that met no clash is stored as a whole. -/
theorem appendUntilClash_of_none {clash : List α → α → Option κ} {rows batch : List α}
    (h : (appendUntilClash clash rows batch).2 = none) :
    (appendUntilClash clash rows batch).1 = rows ++ batch := by
  induction batch generalizing rows with
  | nil => simp [appendUntilClash]
  | cons row rest ih =>
      unfold appendUntilClash at h ⊢
      cases hclash : clash rows row with
      | some cause => simp [hclash] at h
      | none =>
          simp only [hclash] at h ⊢
          rw [ih h, List.append_assoc]
          rfl

theorem recordsIn_cons (workspace : String) (row : Scoped α) (rest : List (Scoped α)) :
    recordsIn workspace (row :: rest) =
      (if row.workspace = workspace then [row.record] else []) ++ recordsIn workspace rest := by
  unfold recordsIn
  by_cases hrow : row.workspace = workspace <;> simp [hrow]

theorem recordsIn_map_mk (workspace other : String) (records : List α) :
    recordsIn workspace (records.map fun a => ⟨other, a⟩) =
      if other = workspace then records else [] := by
  induction records with
  | nil => simp [recordsIn]
  | cons a rest ih =>
      rw [List.map_cons, recordsIn_cons, ih]
      split <;> rfl

theorem recordsIn_append (workspace : String) (left right : List (Scoped α)) :
    recordsIn workspace (left ++ right) = recordsIn workspace left ++ recordsIn workspace right := by
  simp [recordsIn]

end ConfigTimeline
