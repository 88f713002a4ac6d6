import Mathlib.Data.String.Basic
import ConfigTimeline.Id

/-!
The text forms of identifiers. A text reads back as the identifier that it was written for, so no two
identifiers have one text, and sortable identifiers stand in the order of their texts: digits of one
width stand in the order of the numbers that they write, and the alphabet in the order of the digits.
-/

namespace ConfigTimeline

/-- Lists stand in the order of the lists of images, where the elements do. -/
theorem map_lt_map {α β : Type} [LT α] [LT β] {f : α → β} {left right : List α}
    (hlt : ∀ a ∈ left, ∀ b ∈ right, (f a < f b ↔ a < b))
    (heq : ∀ a ∈ left, ∀ b ∈ right, (f a = f b ↔ a = b)) :
    left.map f < right.map f ↔ left < right := by
  induction left generalizing right with
  | nil => cases right <;> simp
  | cons a left ih =>
      cases right with
      | nil => simp
      | cons b right =>
          have hfirst := hlt a List.mem_cons_self b List.mem_cons_self
          have hsame := heq a List.mem_cons_self b List.mem_cons_self
          have hrest := ih
            (fun x hx y hy => hlt x (List.mem_cons_of_mem a hx) y (List.mem_cons_of_mem b hy))
            (fun x hx y hy => heq x (List.mem_cons_of_mem a hx) y (List.mem_cons_of_mem b hy))
          simp only [List.map_cons, List.cons_lt_cons_iff, hfirst, hsame, hrest]

/-- Readers that succeed on each element succeed on the list. -/
theorem mapM_eq_some_map {α β : Type} {f : α → Option β} {g : α → β} {items : List α}
    (h : ∀ a ∈ items, f a = some (g a)) : items.mapM f = some (items.map g) := by
  induction items with
  | nil => rfl
  | cons a items ih =>
      have hfirst := h a List.mem_cons_self
      have hrest := ih fun x hx => h x (List.mem_cons_of_mem a hx)
      simp [hfirst, hrest]

/-- A list is read back from its images if each element is. -/
theorem mapM_map_eq_some {α β : Type} {f : α → β} {g : β → Option α} {items : List α}
    (h : ∀ a ∈ items, g (f a) = some a) : (items.map f).mapM g = some items := by
  rw [List.mapM_map, mapM_eq_some_map (f := g ∘ f) (g := id) h, List.map_id]

namespace Text

theorem utf8Len_eq_length {cs : List Char} (h : ∀ c ∈ cs, c.utf8Size = 1) :
    String.utf8Len cs = cs.length := by
  induction cs with
  | nil => rfl
  | cons c cs ih =>
      have hc := h c List.mem_cons_self
      have hrest := ih fun x hx => h x (List.mem_cons_of_mem c hx)
      simp [hc, hrest]

end Text

namespace Positional

theorem append_singleton_lt {left right : List Nat} (h : left.length = right.length) (x y : Nat) :
    left ++ [x] < right ++ [y] ↔ left < right ∨ left = right ∧ x < y := by
  induction left generalizing right with
  | nil =>
      have hright : right = [] := List.length_eq_zero_iff.mp h.symm
      subst hright
      simp [List.cons_lt_cons_iff]
  | cons d left ih =>
      cases right with
      | nil => cases h
      | cons e right =>
          have hlength : left.length = right.length := by simpa using h
          simp only [List.cons_append, List.cons_lt_cons_iff, ih hlength, List.cons.injEq]
          tauto

theorem digits_mod (base width n : Nat) :
    digits base width (n % base ^ width) = digits base width n := by
  induction width generalizing n with
  | zero => rfl
  | succ width ih =>
      have hquotient : n % base ^ (width + 1) / base = n / base % base ^ width := by
        rw [Nat.pow_succ, Nat.mod_mul_left_div_self]
      have hrest : n % base ^ (width + 1) % base = n % base :=
        Nat.mod_mod_of_dvd n (Nat.dvd_mul_left base (base ^ width))
      rw [digits, hquotient, hrest, ih, digits]

/-- Digits of one width are the same if and only if the numbers are, less what the width cuts off. -/
theorem digits_eq_digits (base width a b : Nat) :
    digits base width a = digits base width b ↔ a % base ^ width = b % base ^ width := by
  constructor
  · intro h
    have hvalue := congrArg (value base) h
    rwa [value_digits, value_digits] at hvalue
  · intro h
    rw [← digits_mod base width a, h, digits_mod]

/-- Digits of one width stand in the order of the numbers, less what the width cuts off. -/
theorem digits_lt_digits {base : Nat} (hbase : 0 < base) (width a b : Nat) :
    digits base width a < digits base width b ↔ a % base ^ width < b % base ^ width := by
  induction width generalizing a b with
  | zero => simp [digits, Nat.mod_one]
  | succ width ih =>
      have hlength : (digits base width (a / base)).length =
          (digits base width (b / base)).length := by simp
      rw [digits, digits, append_singleton_lt hlength, ih, digits_eq_digits, Nat.pow_succ,
        Nat.mul_comm, Nat.mod_mul, Nat.mod_mul]
      have ha := Nat.mod_lt a hbase
      have hb := Nat.mod_lt b hbase
      generalize a / base % base ^ width = q
      generalize b / base % base ^ width = r
      constructor
      · rintro (hqr | ⟨rfl, hlast⟩)
        · have hstep : base * (q + 1) ≤ base * r := Nat.mul_le_mul_left base hqr
          rw [Nat.mul_succ] at hstep
          omega
        · omega
      · intro h
        rcases Nat.lt_trichotomy q r with hqr | rfl | hrq
        · exact Or.inl hqr
        · exact Or.inr ⟨rfl, by omega⟩
        · have hstep : base * (r + 1) ≤ base * q := Nat.mul_le_mul_left base hrq
          rw [Nat.mul_succ] at hstep
          omega

end Positional

namespace Ulid

theorem digitChar_lt_digitChar {d e : Nat} (hd : d < 32) (he : e < 32) :
    digitChar d < digitChar e ↔ d < e := by
  have all : ∀ d < 32, ∀ e < 32, digitChar d < digitChar e ↔ d < e := by decide
  exact all d hd e he

theorem utf8Size_digitChar {d : Nat} (hd : d < 32) : (digitChar d).utf8Size = 1 := by
  have all : ∀ d < 32, (digitChar d).utf8Size = 1 := by decide
  exact all d hd

theorem digitChar_eq_digitChar {d e : Nat} (hd : d < 32) (he : e < 32) :
    digitChar d = digitChar e ↔ d = e := by
  constructor
  · intro h
    have hdigit := congrArg digit? h
    rw [digit?_digitChar hd, digit?_digitChar he] at hdigit
    exact Option.some.inj hdigit
  · rintro rfl
    rfl

theorem map_digitChar_lt {left right : List Nat} (hleft : ∀ d ∈ left, d < 32)
    (hright : ∀ d ∈ right, d < 32) :
    left.map digitChar < right.map digitChar ↔ left < right :=
  map_lt_map (fun d hd e he => digitChar_lt_digitChar (hleft d hd) (hright e he))
    (fun d hd e he => digitChar_eq_digitChar (hleft d hd) (hright e he))

theorem digits_lt_32 {u : Ulid} {d : Nat} (h : d ∈ Positional.digits 32 textLength u.toNat) :
    d < 32 :=
  Positional.lt_of_mem_digits (by decide) h

theorem toNat_mod (u : Ulid) : u.toNat % 32 ^ textLength = u.toNat := by
  have hbound : (1 <<< 128 : Nat) ≤ 32 ^ textLength := by decide
  exact Nat.mod_eq_of_lt (Nat.lt_of_lt_of_le u.toNat_lt hbound)

/-- The texts of identifiers stand in the order of the identifiers. -/
theorem text_lt_text (a b : Ulid) : a.text < b.text ↔ a < b := by
  rw [String.lt_iff, text, text, String.toList_ofList, String.toList_ofList, chars, chars,
    map_digitChar_lt (fun _ => digits_lt_32) (fun _ => digits_lt_32),
    Positional.digits_lt_digits (by decide), toNat_mod, toNat_mod, lt_def]

theorem utf8Size_of_mem_chars {u : Ulid} : ∀ c ∈ u.chars, c.utf8Size = 1 := by
  intro c hc
  obtain ⟨d, hd, rfl⟩ := List.mem_map.mp hc
  exact utf8Size_digitChar (digits_lt_32 hd)

theorem length_chars (u : Ulid) : u.chars.length = textLength := by
  rw [chars, List.length_map, Positional.length_digits]

theorem mapM_digit?_digitChar {ds : List Nat} (h : ∀ d ∈ ds, d < 32) :
    (ds.map digitChar).mapM digit? = some ds :=
  mapM_map_eq_some fun d hd => digit?_digitChar (h d hd)

/-- A text reads back as the identifier that it was written for. -/
theorem parse_text (u : Ulid) : parse u.text = .ok u := by
  have hsize : u.text.utf8ByteSize = textLength := by
    rw [text, String.utf8ByteSize_ofList, Text.utf8Len_eq_length utf8Size_of_mem_chars, length_chars]
  have hdigits : u.text.toList.mapM digit? = some (Positional.digits 32 textLength u.toNat) := by
    rw [text, String.toList_ofList, chars, mapM_digit?_digitChar fun _ => digits_lt_32]
  have hvalue : Positional.value 32 (Positional.digits 32 textLength u.toNat) = u.toNat :=
    (Positional.value_digits 32 textLength u.toNat).trans u.toNat_mod
  simp only [parse, hsize, hdigits, hvalue, ne_eq, not_true_eq_false, if_false, ofNat_toNat]

end Ulid

namespace Id

variable {kind : IdKind}

theorem parse_text (id : Id kind) : parse kind id.text = .ok id := by
  simp only [parse, text, Ulid.parse_text]

@[simp] theorem text_inj {a b : Id kind} : a.text = b.text ↔ a = b := by
  constructor
  · intro h
    have hparse := parse_text a
    rw [h, parse_text] at hparse
    exact (Except.ok.inj hparse).symm
  · rintro rfl
    rfl

@[simp] theorem text_lt_text {a b : Id kind} : a.text < b.text ↔ a < b :=
  Ulid.text_lt_text a.ulid b.ulid

@[simp] theorem text_le_text {a b : Id kind} : a.text ≤ b.text ↔ a ≤ b := by
  rw [← String.not_lt, text_lt_text]
  exact Nat.not_lt

end Id

namespace ProjectId

/-- Taking the hyphens out again gives the characters that they were put between. -/
theorem unhyphenate_hyphenate (sizes : List Nat) {cs : List Char}
    (h : cs.length = sizes.foldr (· + ·) 0) :
    unhyphenate sizes (hyphenate sizes cs) = some cs := by
  induction sizes generalizing cs with
  | nil =>
      have hnil : cs = [] := List.length_eq_zero_iff.mp h
      subst hnil
      rfl
  | cons n rest ih =>
      cases rest with
      | nil =>
          have hlength : cs.length = n := by simpa using h
          simp [hyphenate, unhyphenate, hlength]
      | cons m rest =>
          simp only [List.foldr_cons] at h ih
          have htake : (cs.take n).length = n := by
            rw [List.length_take]
            omega
          have hdrop : (cs.drop n).length = m + rest.foldr (· + ·) 0 := by
            rw [List.length_drop]
            omega
          have hhyphen : (hyphenate (n :: m :: rest) cs).drop n =
              '-' :: hyphenate (m :: rest) (cs.drop n) := by
            rw [hyphenate, List.drop_left' htake]
            exact List.cons_ne_nil m rest
          have hfirst : (hyphenate (n :: m :: rest) cs).take n = cs.take n := by
            rw [hyphenate, List.take_left' htake]
            exact List.cons_ne_nil m rest
          rw [unhyphenate, hhyphen, hfirst]
          · simp [ih hdrop]
          · exact List.cons_ne_nil m rest

theorem length_hyphenate {cs : List Char} (h : cs.length = 32) :
    (hyphenate groups cs).length = 36 := by
  simp [hyphenate, groups, h]

theorem mapM_hex?_hexChar {ds : List Nat} (h : ∀ d ∈ ds, d < 16) :
    (ds.map Positional.hexChar).mapM Positional.hex? = some ds :=
  mapM_map_eq_some fun d hd => Positional.hex?_hexChar (h d hd)

/-- A text reads back as the project identifier that it was written for. -/
theorem parse_text (p : ProjectId) : parse p.text = .ok p := by
  have hdigits : ∀ d ∈ Positional.digits 16 32 p.toNat, d < 16 :=
    fun _ => Positional.lt_of_mem_digits (by decide)
  have hcount : ((Positional.digits 16 32 p.toNat).map Positional.hexChar).length = 32 := by
    rw [List.length_map, Positional.length_digits]
  have hgroups : unhyphenate groups p.chars =
      some ((Positional.digits 16 32 p.toNat).map Positional.hexChar) :=
    unhyphenate_hyphenate groups hcount
  have hvalue : ofNat (Positional.value 16 (Positional.digits 16 32 p.toNat)) = p := by
    have hmod : p.toNat % Nat.pow 16 32 = p.toNat := Nat.mod_eq_of_lt p.toNat_lt
    have htwice : p.toNat % Nat.pow 16 32 % Nat.pow 16 32 = p.toNat := by rw [hmod, hmod]
    rw [Positional.value_digits]
    cases p
    simp only [ofNat, htwice]
  have hlength : p.chars.length = 36 := length_hyphenate hcount
  have hchars : ofChars p.chars = some p := by
    simp [ofChars, hlength, ofGroups, hgroups, ofHex, hcount, mapM_hex?_hexChar hdigits, hvalue]
  rw [parse, text, String.toList_ofList, hchars]

@[simp] theorem text_inj {a b : ProjectId} : a.text = b.text ↔ a = b := by
  constructor
  · intro h
    have hparse := parse_text a
    rw [h, parse_text] at hparse
    exact (Except.ok.inj hparse).symm
  · rintro rfl
    rfl

end ProjectId

end ConfigTimeline
