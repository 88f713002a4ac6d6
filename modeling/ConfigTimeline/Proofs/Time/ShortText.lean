import ConfigTimeline.Proofs.Time.FullText

/-!
The text of points in time in JSON, whose fraction of the second has as few digits as lose nothing.
In a year of four digits the lenient form reads it back as the point in time, to the nanosecond and
with leap seconds.
-/

namespace ConfigTimeline.Instant

open Positional

theorem dropBlank_padded {width : Nat} (h : 0 < width) (n : Nat) (rest : List Char) :
    Text.dropBlank (padded width n ++ rest) = padded width n ++ rest := by
  obtain ⟨d, cs, hd, hcons⟩ := padded_eq_cons h n
  have hblank : ∀ d < 10, Text.isBlankChar (decimalChar d) = false := by decide
  rw [hcons]
  exact List.dropWhile_cons_of_neg (by simp [hblank d hd])

theorem readField_padded {n : Nat} {rest : List Char} (hn : n < 10 ^ 2) (hrest : NoDigit rest) :
    readField (padded 2 n ++ rest) = .ok (n, rest) := by
  rw [readField, dropBlank_padded (by decide)]
  exact readNumber_padded hn (by decide) (Nat.le_refl 2) hrest

theorem readYear_padded {n : Nat} {rest : List Char} (hn : n < 10 ^ 4) (hrest : NoDigit rest) :
    readYear (padded 4 n ++ rest) = .ok ((n : Int), rest) := by
  obtain ⟨d, cs, hd, hcons⟩ := padded_eq_cons (by decide : 0 < 4) n
  have hsigns : ∀ d < 10, decimalChar d ≠ '-' ∧ decimalChar d ≠ '+' := by decide
  have hread := readNumber_padded hn (by decide) (Nat.le_refl 4) hrest
  rw [hcons, List.cons_append] at hread ⊢
  rw [readYear.eq_3, hread]
  · rfl
  · intro tail hminus
    exact (hsigns d hd).1 (List.cons.inj hminus).1
  · intro tail hplus
    exact (hsigns d hd).2 (List.cons.inj hplus).1

theorem readMark_cons {c : Char} (h : Text.isBlankChar c = false) (rest : List Char) :
    readMark c (c :: rest) = .ok rest := by
  have hstart : Text.dropBlank (c :: rest) = c :: rest :=
    List.dropWhile_cons_of_neg (by simp [h])
  rw [readMark, hstart, readOne, if_pos (List.mem_singleton.mpr rfl)]

/-- The fraction of a second that is written is empty for a whole second, and else is read back. -/
theorem shortFraction_cases {nano : Nat} (h : nano < 10 ^ 9) {rest : List Char}
    (hrest : NoDigit rest) :
    (nano = 0 ∧ shortFraction nano = []) ∨
      ∃ digits, shortFraction nano = '.' :: digits ∧
        readFraction (digits ++ rest) = .ok (nano, rest) := by
  unfold shortFraction
  split_ifs with hzero hmillis hmicros
  · exact Or.inl ⟨hzero, rfl⟩
  · have hsmall : nano / 1000000 < 10 ^ 3 := by omega
    have hnano : nano / 1000000 * 10 ^ (9 - 3) = nano := by omega
    have hread := readFraction_padded hsmall (by decide) (by decide) hrest
    rw [hnano] at hread
    exact Or.inr ⟨_, rfl, hread⟩
  · have hsmall : nano / 1000 < 10 ^ 6 := by omega
    have hnano : nano / 1000 * 10 ^ (9 - 6) = nano := by omega
    have hread := readFraction_padded hsmall (by decide) (by decide) hrest
    rw [hnano] at hread
    exact Or.inr ⟨_, rfl, hread⟩
  · have hread := readFraction_padded h (by decide) (Nat.le_refl 9) hrest
    rw [Nat.sub_self, Nat.pow_zero, Nat.mul_one] at hread
    exact Or.inr ⟨_, rfl, hread⟩

/-- The text reads back as the point in time that it was written for. -/
theorem parseLenient_text {t : Instant} (h : t.FourDigitYear) : parseLenient t.text = .ok t := by
  have hchars : t.text.toList = _ :=
    String.toList_ofList.trans (chars_of_fourDigitYear h (shortFraction t.time.shownNano))
  have hfits := fieldsFit_of_fourDigitYear h
  have hdate := date_of_fourDigitYear h
  obtain ⟨hlow, hhigh⟩ := h
  have hdash (rest : List Char) : NoDigit ('-' :: rest) := noDigit_cons (by decide) rest
  have hcolon (rest : List Char) : NoDigit (':' :: rest) := noDigit_cons (by decide) rest
  have hT (rest : List Char) : NoDigit ('T' :: rest) := noDigit_cons (by decide) rest
  have hpoint (rest : List Char) : NoDigit ('.' :: rest) := noDigit_cons (by decide) rest
  have hZ : NoDigit ['Z'] := noDigit_cons (by decide) []
  have hstart (rest : List Char) := dropBlank_padded (by decide : 0 < 4) t.date.year.toNat rest
  have hmarkDash (rest : List Char) : readMark '-' ('-' :: rest) = .ok rest :=
    readMark_cons (by decide) rest
  have hmarkColon (rest : List Char) : readMark ':' (':' :: rest) = .ok rest :=
    readMark_cons (by decide) rest
  have hmarkT (rest : List Char) : readOne ['T', 't', ' '] ('T' :: rest) = .ok rest := by
    simp [readOne]
  have hutc : ¬(['Z'].take 3).map Char.toUpper = "UTC".toList := by decide
  have hblank : Text.dropBlank ['Z'] = ['Z'] := by decide
  have hoffset : readOffset (fun cs => .ok (dropColonOrBlank cs)) ['Z'] = .ok (0, []) := by
    simp [readOffset]
  have hknown : knownYear t.date.year = true := by
    rw [knownYear, decide_eq_true_eq]
    omega
  have hlocal : ofLocal t.date t.time 0 = t := ofLocal_utc t.date t.time
  have htime := TimeOfDay.ofShown?_shown t.time
  unfold parseLenient
  rw [hchars, hstart]
  rcases shortFraction_cases hfits.nano hZ with ⟨hwhole, hfraction⟩ | ⟨digits, hfraction, hread⟩
  · rw [hfraction, List.nil_append]
    rw [hwhole] at htime
    simp only [bind, Except.bind, readYear_padded hfits.year, readField_padded hfits.month,
      readField_padded hfits.day, readField_padded hfits.hour, readField_padded hfits.minute,
      readField_padded hfits.second, hdash, hcolon, hT, hZ, hmarkDash, hmarkColon, hmarkT, hutc, hblank,
      hoffset, hdate, htime, orFlaw, hlocal, hknown]
    rfl
  · rw [hfraction, List.cons_append]
    simp only [bind, Except.bind, readYear_padded hfits.year, readField_padded hfits.month,
      readField_padded hfits.day, readField_padded hfits.hour, readField_padded hfits.minute,
      readField_padded hfits.second, hdash, hcolon, hT, hpoint, hmarkDash, hmarkColon, hmarkT, hread,
      hutc, hblank, hoffset, hdate, htime, orFlaw, hlocal, hknown]
    rfl

end ConfigTimeline.Instant
