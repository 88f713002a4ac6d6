import ConfigTimeline.Proofs.Id.Text
import ConfigTimeline.Proofs.Text.Digits

/-!
The texts of sortable identifiers as a code that keeps the order. Identifiers stand in the order of the
bytes of their texts, which is what a database compares. A text is read if and only if it is 26
characters of the alphabet, in either case; it stands for the number that it writes in base 32, less the
two bits in excess, and so it is written again in the same way just where the first digit is below 8.
-/

namespace ConfigTimeline

namespace Positional

theorem value_lt_pow {base : Nat} {ds : List Nat} (h : ∀ d ∈ ds, d < base) :
    value base ds < base ^ ds.length := by
  induction ds with
  | nil => exact Nat.one_pos
  | cons d ds ih =>
      have hd : d + 1 ≤ base := h d List.mem_cons_self
      have hrest := ih fun x hx => h x (List.mem_cons_of_mem d hx)
      have hstep : (d + 1) * base ^ ds.length ≤ base * base ^ ds.length :=
        Nat.mul_le_mul_right _ hd
      rw [value_cons, List.length_cons, Nat.pow_succ, Nat.mul_comm _ base]
      rw [Nat.add_mul, Nat.one_mul] at hstep
      omega

/-- Writing the number that digits stand for gives the digits. -/
theorem digits_value {base : Nat} {ds : List Nat} (h : ∀ d ∈ ds, d < base) :
    digits base ds.length (value base ds) = ds := by
  induction ds using List.reverseRecOn with
  | nil => rfl
  | append_singleton ds d ih =>
      have hd : d < base := h d (by simp)
      have hbase : 0 < base := Nat.zero_lt_of_lt hd
      have hrest := ih fun x hx => h x (List.mem_append_left [d] hx)
      have hquotient : (value base ds * base + d) / base = value base ds := by
        rw [Nat.mul_comm, Nat.mul_add_div hbase, Nat.div_eq_of_lt hd, Nat.add_zero]
      have hlast : (value base ds * base + d) % base = d := by
        rw [Nat.mul_comm, Nat.mul_add_mod, Nat.mod_eq_of_lt hd]
      rw [List.length_append, List.length_singleton, value_append_singleton, digits, hquotient,
        hlast, hrest]

end Positional

namespace Text

/-- The bytes of a text in UTF-8. -/
def bytes (s : String) : List UInt8 := s.toUTF8.data.toList

theorem bytes_eq_map {s : String} (h : ∀ c ∈ s.toList, c.utf8Size = 1) :
    bytes s = s.toList.map (·.val.toUInt8) := by
  have hbytes : bytes s = s.toList.flatMap String.utf8EncodeChar := by
    conv => lhs; rw [← String.ofList_toList (s := s)]
    exact List.toList_data_toByteArray
  rw [hbytes, List.map_eq_flatMap]
  exact List.flatMap_congr fun c hc => String.utf8EncodeChar_eq_singleton (h c hc)

theorem toNat_byte {c : Char} (h : c.utf8Size = 1) : c.val.toUInt8.toNat = c.val.toNat := by
  have hbound : c.val.toNat ≤ 127 := UInt32.le_iff_toNat_le.mp (Char.utf8Size_eq_one_iff.mp h)
  rw [UInt32.toNat_toUInt8]
  omega

/-- Texts of one byte for each character stand in the order of their bytes. -/
theorem bytes_lt_bytes {s t : String} (hs : ∀ c ∈ s.toList, c.utf8Size = 1)
    (ht : ∀ c ∈ t.toList, c.utf8Size = 1) : bytes s < bytes t ↔ s < t := by
  rw [bytes_eq_map hs, bytes_eq_map ht, String.lt_iff]
  refine map_lt_map (fun c hc d hd => ?_) (fun c hc d hd => ?_)
  · rw [UInt8.lt_iff_toNat_lt, toNat_byte (hs c hc), toNat_byte (ht d hd), Char.lt_def,
      UInt32.lt_iff_toNat_lt]
  · rw [← UInt8.toNat_inj, toNat_byte (hs c hc), toNat_byte (ht d hd), UInt32.toNat_inj,
      Char.val_inj]

end Text

namespace Ulid

/-- The characters that are read: those of the alphabet, in either case. -/
def readable : List Char := alphabet ++ alphabet.map Char.toLower

/-- The place of a character in the alphabet, which is the digit that it writes. -/
def place (c : Char) : Nat := alphabet.idxOf c.toUpper

/-- The number that a text writes in base 32. -/
def written (s : String) : Nat := Positional.value 32 (s.toList.map place)

/-- A character is its own upper case, or the lower case of it. -/
theorem toUpper_cases (c : Char) : c.toUpper = c ∨ c.toUpper.toLower = c := by
  by_cases hlower : 'a'.val ≤ c.val ∧ c.val ≤ 'z'.val
  · have all : ∀ n < 123, 97 ≤ n → (Char.ofNat n).toUpper.toLower = Char.ofNat n := by decide
    have hfirst : 97 ≤ c.toNat := UInt32.le_iff_toNat_le.mp hlower.1
    have hlast : c.toNat ≤ 122 := UInt32.le_iff_toNat_le.mp hlower.2
    have hc := all c.toNat (Nat.lt_succ_of_le hlast) hfirst
    rw [Char.ofNat_toNat] at hc
    exact Or.inr hc
  · exact Or.inl (dif_neg hlower)

theorem mem_readable_iff (c : Char) : c ∈ readable ↔ c.toUpper ∈ alphabet := by
  constructor
  · have all : readable.all (fun c => c.toUpper ∈ alphabet) = true := by decide
    exact fun h => of_decide_eq_true (List.all_eq_true.mp all c h)
  · intro h
    rcases toUpper_cases c with hsame | hback
    · exact List.mem_append_left _ (hsame ▸ h)
    · exact List.mem_append_right _ (hback ▸ List.mem_map_of_mem h)

theorem utf8Size_of_readable {c : Char} (h : c ∈ readable) : c.utf8Size = 1 := by
  have all : readable.all (fun c => c.utf8Size = 1) = true := by decide
  exact of_decide_eq_true (List.all_eq_true.mp all c h)

theorem place_lt {c : Char} (h : c ∈ readable) : place c < 32 := by
  have all : readable.all (fun c => place c < 32) = true := by decide
  exact of_decide_eq_true (List.all_eq_true.mp all c h)

theorem digitChar_place {c : Char} (h : c ∈ readable) : digitChar (place c) = c.toUpper := by
  have all : readable.all (fun c => digitChar (place c) = c.toUpper) = true := by decide
  exact of_decide_eq_true (List.all_eq_true.mp all c h)

/-- The first eight digits are written as themselves. -/
theorem place_lt_eight {c : Char} (h : c ∈ readable) : place c < 8 ↔ '0' ≤ c ∧ c ≤ '7' := by
  have all : readable.all (fun c => place c < 8 ↔ '0' ≤ c ∧ c ≤ '7') = true := by decide
  exact of_decide_eq_true (List.all_eq_true.mp all c h)

theorem digit?_of_readable {c : Char} (h : c ∈ readable) : digit? c = some (place c) := by
  have all : readable.all (fun c => digit? c = some (place c)) = true := by decide
  exact of_decide_eq_true (List.all_eq_true.mp all c h)

theorem digit?_of_not_readable {c : Char} (h : c ∉ readable) : digit? c = none := by
  rw [digit?, List.findIdx?_eq_none_iff]
  intro x hx
  rw [beq_eq_false_iff_ne]
  rintro rfl
  exact h ((mem_readable_iff c).mpr hx)

theorem mapM_digit?_eq_none {cs : List Char} (h : ¬∀ c ∈ cs, c ∈ readable) :
    cs.mapM digit? = none := by
  induction cs with
  | nil => simp at h
  | cons c cs ih =>
      by_cases hc : c ∈ readable
      · have hrest : ¬∀ x ∈ cs, x ∈ readable := fun hall => h (List.forall_mem_cons.mpr ⟨hc, hall⟩)
        simp [digit?_of_readable hc, ih hrest]
      · simp [digit?_of_not_readable hc]

theorem parse_of_length {s : String} (h : s.utf8ByteSize ≠ textLength) :
    parse s = .error .length :=
  if_pos h

theorem parse_of_character {s : String} (hlength : s.utf8ByteSize = textLength)
    (h : ¬∀ c ∈ s.toList, c ∈ readable) : parse s = .error .character := by
  rw [parse, if_neg (not_not_intro hlength), mapM_digit?_eq_none h]

theorem parse_of_readable {s : String} (hlength : s.utf8ByteSize = textLength)
    (h : ∀ c ∈ s.toList, c ∈ readable) : parse s = .ok (ofNat (written s)) := by
  have hdigits : s.toList.mapM digit? = some (s.toList.map place) :=
    mapM_eq_some_map fun c hc => digit?_of_readable (h c hc)
  rw [parse, if_neg (not_not_intro hlength), hdigits]
  rfl

theorem lt_of_mem_places {s : String} (h : ∀ c ∈ s.toList, c ∈ readable) :
    ∀ d ∈ s.toList.map place, d < 32 := by
  intro d hd
  obtain ⟨c, hc, rfl⟩ := List.mem_map.mp hd
  exact place_lt (h c hc)

theorem length_toList {s : String} (hlength : s.utf8ByteSize = textLength)
    (h : ∀ c ∈ s.toList, c ∈ readable) : s.toList.length = textLength := by
  have hsize := String.utf8ByteSize_ofList s.toList
  rw [String.ofList_toList, Text.utf8Len_eq_length fun c hc => utf8Size_of_readable (h c hc)] at hsize
  rw [← hsize, hlength]

theorem written_lt {s : String} (hlength : s.utf8ByteSize = textLength)
    (h : ∀ c ∈ s.toList, c ∈ readable) : written s < 32 ^ textLength := by
  rw [← length_toList hlength h, ← List.length_map place]
  exact Positional.value_lt_pow (lt_of_mem_places h)

/-- The digits that a text writes are those of the number that it writes. -/
theorem digits_written {s : String} (hlength : s.utf8ByteSize = textLength)
    (h : ∀ c ∈ s.toList, c ∈ readable) :
    Positional.digits 32 textLength (written s) = s.toList.map place := by
  rw [← length_toList hlength h, ← List.length_map place]
  exact Positional.digits_value (lt_of_mem_places h)

theorem toUpper_eq_digits {s : String} (hlength : s.utf8ByteSize = textLength)
    (h : ∀ c ∈ s.toList, c ∈ readable) :
    s.toUpper.toList = (Positional.digits 32 textLength (written s)).map digitChar := by
  rw [digits_written hlength h, String.toUpper, String.toList_map, List.map_map]
  exact List.map_congr_left fun c hc => (digitChar_place (h c hc)).symm

/-- The text is that of the identifier which it is read as, but for its case, if and only if none of
its bits are in excess. -/
theorem text_eq_toUpper_iff {s : String} (hlength : s.utf8ByteSize = textLength)
    (h : ∀ c ∈ s.toList, c ∈ readable) :
    (ofNat (written s)).text = s.toUpper ↔ written s < 1 <<< 128 := by
  constructor
  · intro htext
    have hchars := congrArg (fun t : String => t.toList.mapM digit?) htext
    rw [text, String.toList_ofList, chars, toUpper_eq_digits hlength h,
      mapM_digit?_digitChar fun _ => digits_lt_32,
      mapM_digit?_digitChar fun _ => Positional.lt_of_mem_digits (by decide), Option.some.injEq,
      Positional.digits_eq_digits, toNat_mod] at hchars
    rw [← Nat.mod_eq_of_lt (written_lt hlength h), ← hchars]
    exact (ofNat (written s)).toNat_lt
  · intro hsmall
    have hnumber : (ofNat (written s)).toNat = written s := Nat.mod_eq_of_lt hsmall
    rw [text, chars, hnumber, ← toUpper_eq_digits hlength h, String.ofList_toList]

/-- The bits in excess are those of the first digit. -/
theorem written_lt_iff {s : String} (hlength : s.utf8ByteSize = textLength)
    (h : ∀ c ∈ s.toList, c ∈ readable) :
    written s < 1 <<< 128 ↔ ∃ c ∈ s.toList.head?, '0' ≤ c ∧ c ≤ '7' := by
  have hcount := length_toList hlength h
  have hplaces := lt_of_mem_places h
  unfold written
  cases hcs : s.toList with
  | nil =>
      rw [hcs] at hcount
      cases hcount
  | cons c cs =>
      rw [hcs] at h hcount hplaces
      have hrest := Positional.value_lt_pow fun d hd => hplaces d (List.mem_cons_of_mem _ hd)
      have hwidth : (cs.map place).length = 25 := by
        rw [List.length_map]
        exact Nat.succ.inj hcount
      have hfirst := place_lt_eight (h c List.mem_cons_self)
      rw [hwidth] at hrest
      rw [List.map_cons, Positional.value_cons, hwidth]
      simp only [List.head?_cons, Option.mem_some_iff, exists_eq_left', ← hfirst]
      omega

end Ulid

namespace Id

variable {kind : IdKind}

theorem parse_of_ulid {s : String} {u : Ulid} (h : Ulid.parse s = .ok u) : parse kind s = .ok ⟨u⟩ := by
  rw [parse, h]

theorem parse_of_flaw {s : String} {flaw : Ulid.Flaw} (h : Ulid.parse s = .error flaw) :
    parse kind s = .error ⟨kind.label, s, flaw.message⟩ := by
  rw [parse, h]

/-- The outcomes of reading a text: its length is looked at first, and then its characters. -/
theorem parse_cases (kind : IdKind) (s : String) :
    (s.utf8ByteSize ≠ 26 ∧ parse kind s = .error ⟨kind.label, s, "invalid length"⟩) ∨
      (s.utf8ByteSize = 26 ∧ (¬∀ c ∈ s.toList, c ∈ Ulid.readable) ∧
        parse kind s = .error ⟨kind.label, s, "invalid character"⟩) ∨
      (s.utf8ByteSize = 26 ∧ (∀ c ∈ s.toList, c ∈ Ulid.readable) ∧
        parse kind s = .ok ⟨.ofNat (Ulid.written s)⟩) := by
  by_cases hlength : s.utf8ByteSize = 26
  · by_cases hall : ∀ c ∈ s.toList, c ∈ Ulid.readable
    · exact .inr (.inr ⟨hlength, hall, parse_of_ulid (Ulid.parse_of_readable hlength hall)⟩)
    · exact .inr (.inl ⟨hlength, hall, parse_of_flaw (Ulid.parse_of_character hlength hall)⟩)
  · exact .inl ⟨hlength, parse_of_flaw (Ulid.parse_of_length hlength)⟩

theorem length_text (a : Id kind) : a.text.length = 26 := by
  rw [text, Ulid.text, String.length_ofList, Ulid.length_chars]
  rfl

theorem utf8Size_of_mem_text (a : Id kind) : ∀ c ∈ a.text.toList, c.utf8Size = 1 := by
  rw [text, Ulid.text, String.toList_ofList]
  exact Ulid.utf8Size_of_mem_chars

/-- Bytes of texts are compared as the identifiers are. -/
theorem bytes_text_lt (a b : Id kind) : Text.bytes a.text < Text.bytes b.text ↔ a < b := by
  rw [Text.bytes_lt_bytes (utf8Size_of_mem_text a) (utf8Size_of_mem_text b), text_lt_text]

/-- The texts of identifiers are a code that keeps the order, and all that is read beyond them are texts
in lower case and texts with bits in excess. -/
theorem texts_in_order (kind : IdKind) :
    (∀ a : Id kind, a.text.length = 26 ∧ parse kind a.text = .ok a) ∧
      (∀ a b : Id kind, (Text.bytes a.text < Text.bytes b.text ↔ a < b) ∧
        (a.text < b.text ↔ a < b) ∧ (a.text ≤ b.text ↔ a ≤ b) ∧ (a.text = b.text ↔ a = b)) ∧
      ∀ s : String,
        (parse kind s = .error ⟨kind.label, s, "invalid length"⟩ ↔ s.utf8ByteSize ≠ 26) ∧
        (parse kind s = .error ⟨kind.label, s, "invalid character"⟩ ↔
          s.utf8ByteSize = 26 ∧ ¬∀ c ∈ s.toList, c ∈ Ulid.readable) ∧
        ((∃ a, parse kind s = .ok a) ↔ s.utf8ByteSize = 26 ∧ ∀ c ∈ s.toList, c ∈ Ulid.readable) ∧
        ∀ a, parse kind s = .ok a →
          a.ulid.toNat = Ulid.written s % 2 ^ 128 ∧
            (a.text = s.toUpper ↔ ∃ c ∈ s.toList.head?, '0' ≤ c ∧ c ≤ '7') := by
  refine ⟨fun a => ⟨length_text a, parse_text a⟩,
    fun a b => ⟨bytes_text_lt a b, text_lt_text, text_le_text, text_inj⟩, fun s => ?_⟩
  rcases parse_cases kind s with
    ⟨hlength, hparse⟩ | ⟨hlength, hall, hparse⟩ | ⟨hlength, hall, hparse⟩
  · simp [hparse, hlength]
  · simp [hparse, hlength, hall]
  · have htext :=
      (Ulid.text_eq_toUpper_iff hlength hall).trans (Ulid.written_lt_iff hlength hall)
    refine ⟨by simp [hparse, hlength], ⟨fun herror => ?_, fun hflaw => absurd hall hflaw.2⟩,
      ⟨fun _ => ⟨hlength, hall⟩, fun _ => ⟨_, hparse⟩⟩, fun a ha => ?_⟩
    · rw [hparse] at herror
      cases herror
    · rw [hparse] at ha
      obtain rfl := Except.ok.inj ha
      exact ⟨rfl, htext⟩

/-- A text in lower case whose first digit is 8 is read without its excess bit. -/
theorem texts_in_order_excess :
    let s := "8zzzzzzzzzzzzzzzzzzzzzzzzz"
    let a : ValueId := ⟨.ofNat (2 ^ 125 - 1)⟩
    parse .value s = .ok a ∧ a.ulid.toNat = Ulid.written s % 2 ^ 128 ∧ a.text ≠ s.toUpper := by
  intro s a
  have hread : parse .value s = .ok a := by decide +kernel
  obtain ⟨-, -, houtcomes⟩ := texts_in_order .value
  obtain ⟨-, -, -, hok⟩ := houtcomes s
  obtain ⟨hnumber, htext⟩ := hok a hread
  have hfirst : s.toList.head? = some '8' := by decide +kernel
  refine ⟨hread, hnumber, fun hsame => ?_⟩
  obtain ⟨c, hc, -, hlast⟩ := htext.mp hsame
  rw [hfirst] at hc
  obtain rfl := Option.some.inj hc
  exact absurd hlast (by decide)

end Id

end ConfigTimeline
