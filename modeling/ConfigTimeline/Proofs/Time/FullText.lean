import Mathlib.Data.List.Induction
import Mathlib.Data.String.Basic
import ConfigTimeline.Proofs.Text.Digits
import ConfigTimeline.Time.Text

/-!
The text that stored rows keep of points in time. In a year of four digits it reads back as the point
in time, to the nanosecond and with leap seconds. In any other year it starts with a sign, at which
reading fails: what is read back is never another point in time.
-/

namespace ConfigTimeline

namespace Date

theorem daysInMonth_le (year : Int) (month : Nat) : daysInMonth year month ≤ 31 := by
  unfold daysInMonth
  split
  · split <;> omega
  · split <;> omega

theorem of?_fields (d : Date) : of? d.year d.month d.day = some d := by
  have h : (1 ≤ d.month ∧ d.month ≤ 12) ∧ 1 ≤ d.day ∧ d.day ≤ daysInMonth d.year d.month :=
    ⟨⟨d.month_pos, d.month_le⟩, d.day_pos, d.day_le⟩
  simp [of?, h]

end Date

namespace TimeOfDay

/-- A leap second is shown as second 60 and read back as the second before, a billion nanoseconds
on. -/
theorem ofShown?_shown (t : TimeOfDay) :
    ofShown? t.hour t.minute t.shownSecond t.shownNano = some t := by
  have hfields : of? t.hour t.minute t.second t.nano = some t := by
    have h : ((t.hour < 24 ∧ t.minute < 60) ∧ t.second < 60) ∧ t.nano < 2000000000 ∧
        (1000000000 ≤ t.nano → t.second = 59) :=
      ⟨⟨⟨t.hour_lt, t.minute_lt⟩, t.second_lt⟩, t.nano_lt, t.leap⟩
    unfold of?
    rw [dif_pos h]
  have hnano := t.nano_lt
  have hsecond := t.second_lt
  by_cases hleap : 1000000000 ≤ t.nano
  · have hlast := t.leap hleap
    have hshown : t.shownSecond = 60 := by simp [shownSecond, hleap, hlast]
    have hrest : t.shownNano + 1000000000 = t.nano := by
      unfold shownNano
      omega
    rw [ofShown?, if_pos hshown, hrest, ← hlast, hfields]
  · have hshown : t.shownSecond = t.second := by simp [shownSecond, hleap]
    have hrest : t.shownNano = t.nano := by
      unfold shownNano
      omega
    have hordinary : t.shownSecond ≠ 60 := by omega
    rw [ofShown?, if_neg hordinary, hshown, hrest, hfields]

end TimeOfDay

namespace Instant

open Positional

theorem readPadded_digits {ds : List Nat} (h : ∀ d ∈ ds, d < 10) (rest : List Char) :
    readPadded ds.length (ds.map decimalChar ++ rest) = .ok (value 10 ds, rest) := by
  induction ds with
  | nil => rfl
  | cons d ds ih =>
      have hd := decimal?_decimalChar (h d List.mem_cons_self)
      have hrest := ih fun x hx => h x (List.mem_cons_of_mem d hx)
      simp only [List.length_cons, List.map_cons, List.cons_append, readPadded, hd, hrest]
      rw [value_cons]
      rfl

/-- A padded number reads back if its width is enough for it. -/
theorem readPadded_padded {width n : Nat} (h : n < 10 ^ width) (rest : List Char) :
    readPadded width (padded width n ++ rest) = .ok (n, rest) := by
  have hdigits : ∀ d ∈ digits 10 width n, d < 10 := fun _ => lt_of_mem_digits (by decide)
  have hread := readPadded_digits hdigits rest
  rw [length_digits, value_digits] at hread
  have hmod : n % Nat.pow 10 width = n := Nat.mod_eq_of_lt h
  rw [padded, hread, hmod]

/-- A padded number is read up to the first character that is not a digit, if as many digits are
allowed. -/
theorem readNumber_padded {bound width n : Nat} {rest : List Char} (hn : n < 10 ^ width)
    (hpositive : 0 < width) (hbound : width ≤ bound) (hrest : NoDigit rest) :
    readNumber bound (padded width n ++ rest) = .ok (n, rest) := by
  have hdigits : ∀ d ∈ digits 10 width n, d < 10 := fun _ => lt_of_mem_digits (by decide)
  have htake : (padded width n ++ rest).take bound =
      padded width n ++ rest.take (bound - width) := by
    rw [List.take_append, length_padded, List.take_of_length_le]
    rw [length_padded]
    exact hbound
  have hwhile : ((padded width n ++ rest).take bound).takeWhile (fun c => (decimal? c).isSome) =
      padded width n := by
    rw [htake]
    exact takeWhile_decimals hdigits (hrest.take _)
  have hvalue : value 10 ((padded width n).filterMap decimal?) = n := by
    have hmod : n % Nat.pow 10 width = n := Nat.mod_eq_of_lt hn
    rw [padded, filterMap_decimals hdigits, value_digits, hmod]
  have hsome : (padded width n).isEmpty = false := by
    rw [List.isEmpty_eq_false_iff, ← List.length_pos_iff, length_padded]
    exact hpositive
  have hdrop : (padded width n ++ rest).drop (padded width n).length = rest := List.drop_left
  unfold readNumber
  simp only [hwhile, hsome, hvalue, hdrop]
  cases hcs : padded width n ++ rest with
  | nil => simp [List.append_eq_nil_iff.mp hcs] at hsome
  | cons c cs => rfl

/-- Up to nine digits of a second stand for as many nanoseconds as their place says. -/
theorem readFraction_padded {width n : Nat} {rest : List Char} (hn : n < 10 ^ width)
    (hpositive : 0 < width) (hwidth : width ≤ 9) (hrest : NoDigit rest) :
    readFraction (padded width n ++ rest) = .ok (n * 10 ^ (9 - width), rest) := by
  have htaken : (padded width n ++ rest).length - rest.length = width := by
    rw [List.length_append, length_padded]
    omega
  rw [readFraction, readNumber_padded hn hpositive hwidth hrest]
  simp only [htaken, dropWhile_of_noDigit hrest]
  rfl

/-- The year is one that rows have room for: four digits and no sign. -/
def FourDigitYear (t : Instant) : Prop := 0 ≤ t.date.year ∧ t.date.year ≤ 9999

instance (t : Instant) : Decidable t.FourDigitYear :=
  inferInstanceAs (Decidable (0 ≤ t.date.year ∧ t.date.year ≤ 9999))

theorem ofLocal_utc (date : Date) (time : TimeOfDay) : ofLocal date time 0 = ⟨date, time⟩ := by
  have hhour := time.hour_lt
  have hminute := time.minute_lt
  have hsame : ((time.hour : Int) * 60 + time.minute - 0).toNat = time.hour * 60 + time.minute := by
    omega
  have hday : ¬(time.hour : Int) * 60 + time.minute - 0 < 0 := by omega
  have hnext : (time.hour : Int) * 60 + time.minute - 0 < 1440 := by omega
  have hhours : (time.hour * 60 + time.minute) / 60 % 24 = time.hour := by omega
  have hminutes : (time.hour * 60 + time.minute) % 60 = time.minute := by omega
  simp only [ofLocal, hday, hnext, if_false, if_true, hsame, hhours, hminutes]

theorem length_le_utf8Len (cs : List Char) : cs.length ≤ String.utf8Len cs := by
  induction cs with
  | nil => exact Nat.le_refl 0
  | cons c cs ih =>
      have hc := c.utf8Size_pos
      rw [String.utf8Len_cons, List.length_cons]
      omega

theorem chars_of_fourDigitYear {t : Instant} (h : t.FourDigitYear) (fraction : List Char) :
    t.chars fraction =
      padded 4 t.date.year.toNat ++ ('-' :: (padded 2 t.date.month ++ ('-' :: (padded 2 t.date.day ++
        ('T' :: (padded 2 t.time.hour ++ (':' :: (padded 2 t.time.minute ++ (':' ::
          (padded 2 t.time.shownSecond ++ (fraction ++ ['Z']))))))))))) := by
  have hyear : yearChars t.date.year = padded 4 t.date.year.toNat := if_pos h
  simp [chars, hyear]

structure FieldsFit (t : Instant) : Prop where
  year : t.date.year.toNat < 10 ^ 4
  month : t.date.month < 10 ^ 2
  day : t.date.day < 10 ^ 2
  hour : t.time.hour < 10 ^ 2
  minute : t.time.minute < 10 ^ 2
  second : t.time.shownSecond < 10 ^ 2
  nano : t.time.shownNano < 10 ^ 9

theorem fieldsFit_of_fourDigitYear {t : Instant} (h : t.FourDigitYear) : t.FieldsFit where
  year := by
    obtain ⟨hlow, hhigh⟩ := h
    omega
  month := by
    have := t.date.month_le
    omega
  day := by
    have := t.date.day_le
    have := Date.daysInMonth_le t.date.year t.date.month
    omega
  hour := by
    have := t.time.hour_lt
    omega
  minute := by
    have := t.time.minute_lt
    omega
  second := by
    have := t.time.second_lt
    unfold TimeOfDay.shownSecond
    split <;> omega
  nano := Nat.mod_lt _ (by decide)

theorem date_of_fourDigitYear {t : Instant} (h : t.FourDigitYear) :
    Date.of? (t.date.year.toNat : Int) t.date.month t.date.day = some t.date := by
  rw [Int.toNat_of_nonneg h.1, Date.of?_fields]

/-- The full text reads back as the point in time that it was written for. -/
theorem parseStrict_fullText {t : Instant} (h : t.FourDigitYear) :
    parseStrict t.fullText = .ok t := by
  have hchars : t.fullText.toList = _ :=
    String.toList_ofList.trans (chars_of_fourDigitYear h ('.' :: padded 9 t.time.shownNano))
  have hsize : ¬t.fullText.utf8ByteSize < 19 := by
    have hlength := length_le_utf8Len t.fullText.toList
    rw [← String.utf8ByteSize_ofList, String.ofList_toList, hchars] at hlength
    simp [padded] at hlength
    omega
  have hfits := fieldsFit_of_fourDigitYear h
  have hdate := date_of_fourDigitYear h
  have hmark (c : Char) (allowed rest : List Char) (hc : c ∈ allowed) :
      readOne allowed (c :: rest) = .ok rest := by
    simp [readOne, hc]
  have hfraction : readFraction (padded 9 t.time.shownNano ++ ['Z']) =
      .ok (t.time.shownNano, ['Z']) := by
    have hZ : NoDigit ['Z'] := noDigit_cons (by decide) []
    have hread := readFraction_padded hfits.nano (by decide) (Nat.le_refl 9) hZ
    rwa [Nat.sub_self, Nat.pow_zero, Nat.mul_one] at hread
  have hoffset : readOffset (readOne [':']) ['Z'] = .ok (0, []) := by simp [readOffset]
  have hlocal : ofLocal t.date t.time 0 = t := ofLocal_utc t.date t.time
  unfold parseStrict
  rw [if_neg hsize, hchars, List.cons_append]
  simp only [bind, Except.bind, readPadded_padded hfits.year, readPadded_padded hfits.month,
    readPadded_padded hfits.day, readPadded_padded hfits.hour, readPadded_padded hfits.minute,
    readPadded_padded hfits.second, hfraction, hmark, hdate, orFlaw,
    TimeOfDay.ofShown?_shown, hoffset, hlocal, List.mem_cons, true_or, List.not_mem_nil,
    or_false, checkOffset]
  rfl

/-- A year with a sign cannot be read back. -/
theorem parseStrict_fullText_of_signed {t : Instant} (h : ¬t.FourDigitYear) :
    ∃ flaw, parseStrict t.fullText = .error flaw := by
  have hsigned : ∃ mark rest, t.fullText.toList = mark :: rest ∧ decimal? mark = none := by
    have hyear : yearChars t.date.year =
        (if t.date.year < 0 then '-' else '+') ::
          (if t.date.year.natAbs < 10000 then padded 4 t.date.year.natAbs
            else plain t.date.year.natAbs) := if_neg h
    refine ⟨if t.date.year < 0 then '-' else '+', ?_, by simp [fullText, chars, hyear]; rfl, ?_⟩
    split <;> decide
  obtain ⟨mark, rest, htext, hmark⟩ := hsigned
  unfold parseStrict
  by_cases hsize : t.fullText.utf8ByteSize < 19
  · exact ⟨.tooShort, if_pos hsize⟩
  · refine ⟨.invalid, ?_⟩
    rw [if_neg hsize, htext]
    simp only [readPadded, hmark]
    rfl

end Instant

end ConfigTimeline
