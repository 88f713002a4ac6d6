import Mathlib.Data.List.Induction
import Mathlib.Data.String.Basic
import ConfigTimeline.Text.Positional

/-!
Decimal digits in a text: what numbers are written as, and where reading them stops.
-/

namespace ConfigTimeline.Positional

theorem value_foldl (base init : Nat) (ds : List Nat) :
    ds.foldl (fun total d => total * base + d) init = init * base ^ ds.length + value base ds := by
  induction ds using List.reverseRecOn with
  | nil => simp [value]
  | append_singleton ds d ih =>
      rw [List.foldl_append, ih, value_append_singleton, List.length_append, List.length_singleton,
        Nat.pow_succ]
      simp only [List.foldl_cons, List.foldl_nil]
      rw [Nat.add_mul, Nat.mul_assoc, Nat.add_assoc]

theorem value_cons (base d : Nat) (ds : List Nat) :
    value base (d :: ds) = d * base ^ ds.length + value base ds := by
  have h := value_foldl base d ds
  simpa [value] using h

theorem filterMap_decimals {ds : List Nat} (h : ∀ d ∈ ds, d < 10) :
    (ds.map decimalChar).filterMap decimal? = ds := by
  induction ds with
  | nil => rfl
  | cons d ds ih =>
      have hd := decimal?_decimalChar (h d List.mem_cons_self)
      have hrest := ih fun x hx => h x (List.mem_cons_of_mem d hx)
      simp [hd, hrest]

/-- The digits of a number that has no more of them than it needs. -/
theorem plain_eq_digits (n : Nat) :
    ∃ ds, plain n = ds.map decimalChar ∧ (∀ d ∈ ds, d < 10) ∧ value 10 ds = n ∧ ds ≠ [] ∧
      (n ≠ 0 → ds.head? ≠ some 0) := by
  induction n using plain.induct with
  | case1 n hsmall =>
      refine ⟨[n], ?_, ?_, ?_, List.cons_ne_nil n [], ?_⟩
      · rw [plain, if_pos hsmall]
        rfl
      · simpa using hsmall
      · simp [value]
      · simp
  | case2 n hlarge ih =>
      obtain ⟨ds, hplain, hdigits, hvalue, hsome, hhead⟩ := ih
      have hlast : n % 10 < 10 := Nat.mod_lt n (by decide)
      have hfirst : (ds ++ [n % 10]).head? = ds.head? := List.head?_append_of_ne_nil ds hsome
      refine ⟨ds ++ [n % 10], ?_, ?_, ?_, by simp, ?_⟩
      · rw [plain, if_neg hlarge, hplain, List.map_append]
        rfl
      · simpa [or_imp, forall_and, hlast] using hdigits
      · rw [value_append_singleton, hvalue]
        omega
      · rw [hfirst]
        intro _
        exact hhead (by omega)

theorem length_padded (width n : Nat) : (padded width n).length = width := by
  rw [padded, List.length_map, length_digits]

/-- A padded number starts with a digit. -/
theorem padded_eq_cons {width : Nat} (h : 0 < width) (n : Nat) :
    ∃ d cs, d < 10 ∧ padded width n = decimalChar d :: cs := by
  have hdigits : ∀ d ∈ digits 10 width n, d < 10 := fun _ => lt_of_mem_digits (by decide)
  have hsome : digits 10 width n ≠ [] := by
    rw [← List.length_pos_iff, length_digits]
    exact h
  obtain ⟨d, ds, hcons⟩ := List.exists_cons_of_ne_nil hsome
  rw [hcons] at hdigits
  exact ⟨d, ds.map decimalChar, hdigits d List.mem_cons_self, by rw [padded, hcons, List.map_cons]⟩

def NoDigit (rest : List Char) : Prop := ∀ c ∈ rest.head?, decimal? c = none

theorem noDigit_cons {c : Char} (h : decimal? c = none) (rest : List Char) : NoDigit (c :: rest) := by
  simpa [NoDigit] using h

theorem takeWhile_of_noDigit {rest : List Char} (h : NoDigit rest) :
    rest.takeWhile (fun c => (decimal? c).isSome) = [] := by
  cases rest with
  | nil => rfl
  | cons c rest => exact List.takeWhile_cons_of_neg (by simp [h c rfl])

theorem dropWhile_of_noDigit {rest : List Char} (h : NoDigit rest) :
    rest.dropWhile (fun c => (decimal? c).isSome) = rest := by
  cases rest with
  | nil => rfl
  | cons c rest => exact List.dropWhile_cons_of_neg (by simp [h c rfl])

/-- Digits are taken up to the first character that is none. -/
theorem takeWhile_decimals {ds : List Nat} (h : ∀ d ∈ ds, d < 10) {rest : List Char}
    (hrest : NoDigit rest) :
    (ds.map decimalChar ++ rest).takeWhile (fun c => (decimal? c).isSome) = ds.map decimalChar := by
  have hall : ∀ c ∈ ds.map decimalChar, (decimal? c).isSome = true := by
    intro c hc
    obtain ⟨d, hd, rfl⟩ := List.mem_map.mp hc
    rw [decimal?_decimalChar (h d hd), Option.isSome_some]
  rw [List.takeWhile_append_of_pos hall, takeWhile_of_noDigit hrest, List.append_nil]

theorem NoDigit.take {rest : List Char} (h : NoDigit rest) (count : Nat) :
    NoDigit (rest.take count) := by
  intro c hc
  cases count with
  | zero => simp at hc
  | succ count =>
      rw [List.head?_take, if_neg (Nat.succ_ne_zero count)] at hc
      exact h c hc

end ConfigTimeline.Positional
