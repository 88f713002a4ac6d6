/-!
Numbers as lists of digits, most significant digit first. `digits base width n` writes the last
`width` digits of `n`, and `value base` reads a list of digits back. Identifiers (base 32 and 16)
and calendar fields (base 10) are written and read through this one pair.
-/

namespace ConfigTimeline.Positional

/-- The last `width` digits of `n` in the given base, most significant first. -/
def digits (base : Nat) : Nat → Nat → List Nat
  | 0, _ => []
  | width + 1, n => digits base width (n / base) ++ [n % base]

def value (base : Nat) (ds : List Nat) : Nat := ds.foldl (fun total d => total * base + d) 0

@[simp] theorem length_digits (base width n : Nat) : (digits base width n).length = width := by
  induction width generalizing n with
  | zero => rfl
  | succ width ih => simp [digits, ih]

theorem lt_of_mem_digits {base width n d : Nat} (hb : 0 < base) (h : d ∈ digits base width n) :
    d < base := by
  induction width generalizing n with
  | zero => simp [digits] at h
  | succ width ih =>
      simp only [digits, List.mem_append, List.mem_singleton] at h
      rcases h with h | rfl
      · exact ih h
      · exact Nat.mod_lt _ hb

theorem value_append_singleton (base d : Nat) (ds : List Nat) :
    value base (ds ++ [d]) = value base ds * base + d := by
  simp [value]

/-- Reading back the written digits gives the number, less what the width cuts off. -/
theorem value_digits (base width n : Nat) : value base (digits base width n) = n % Nat.pow base width := by
  induction width generalizing n with
  | zero => simp [digits, value, Nat.mod_one]
  | succ width ih =>
      have hpow : Nat.pow base (width + 1) = base * Nat.pow base width := Nat.mul_comm _ _
      rw [digits, value_append_singleton, ih, hpow, Nat.mod_mul, Nat.mul_comm base, Nat.add_comm]

def decimal? (c : Char) : Option Nat :=
  if '0' ≤ c ∧ c ≤ '9' then some (c.toNat - '0'.toNat) else none

/-- The number of a text of decimal digits, of which there has to be at least one. -/
def natural? (cs : List Char) : Option Nat :=
  if cs.isEmpty then none else (cs.mapM decimal?).map (value 10)

def decimalChar (d : Nat) : Char := Char.ofNat ('0'.toNat + d)

theorem decimal?_decimalChar {d : Nat} (h : d < 10) : decimal? (decimalChar d) = some d := by
  have all : ∀ d < 10, decimal? (decimalChar d) = some d := by decide
  exact all d h

def hex? (c : Char) : Option Nat :=
  if '0' ≤ c ∧ c ≤ '9' then some (c.toNat - '0'.toNat)
  else if 'a' ≤ c ∧ c ≤ 'f' then some (c.toNat - 'a'.toNat + 10)
  else if 'A' ≤ c ∧ c ≤ 'F' then some (c.toNat - 'A'.toNat + 10)
  else none

def hexChar (d : Nat) : Char :=
  if d < 10 then Char.ofNat ('0'.toNat + d) else Char.ofNat ('a'.toNat + (d - 10))

theorem hex?_hexChar {d : Nat} (h : d < 16) : hex? (hexChar d) = some d := by
  have all : ∀ d < 16, hex? (hexChar d) = some d := by decide
  exact all d h

def padded (width n : Nat) : List Char := (digits 10 width n).map decimalChar

/-- A number in as many decimal digits as it needs. -/
def plain (n : Nat) : List Char :=
  if n < 10 then [decimalChar n] else plain (n / 10) ++ [decimalChar (n % 10)]
termination_by n
decreasing_by omega

end ConfigTimeline.Positional
