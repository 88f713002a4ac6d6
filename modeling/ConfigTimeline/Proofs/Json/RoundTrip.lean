import Mathlib.Data.String.Basic
import ConfigTimeline.Json.Parser
import ConfigTimeline.Json.Printer
import ConfigTimeline.Proofs.Id.Text
import ConfigTimeline.Proofs.Text.Digits

/-!
The JSON texts of a value, compact and over several lines, are read back as the value: any text of
its strings, any integers, any depth. A reader takes a value off the front of a text (`Takes`), and
needs no more steps for it than the value has characters. There is one rule for each token, and both
ways of writing are read by the same rules, since blanks in front of a value make no difference.
-/

namespace ConfigTimeline.Json

open Positional

section Literals

/-- A character that is written as it is. -/
theorem readPieces_plain {c : Char} (hquote : c ≠ '"') (hbackslash : c ≠ '\\')
    (hcontrol : ¬c.toNat < 32) (cs : List Char) :
    readPieces (c :: cs) = (readPieces cs).map (Prod.map (.char c :: ·) id) := by
  have hkept : ¬(c = '\\' ∨ c.toNat < 32) := not_or.mpr ⟨hbackslash, hcontrol⟩
  rw [readPieces.eq_5 c cs hquote (fun _ _ _ _ _ h => absurd h hbackslash)
    (fun _ _ h => absurd h hbackslash), if_neg hkept]
  cases readPieces cs <;> rfl

theorem readPieces_escape {e c : Char} (h : escape? e = some c) (he : e ≠ 'u') (cs : List Char) :
    readPieces ('\\' :: e :: cs) = (readPieces cs).map (Prod.map (.char c :: ·) id) := by
  rw [readPieces.eq_4 e cs (fun _ _ _ _ _ hu => absurd hu he), h]
  cases readPieces cs <;> rfl

theorem readPieces_control {c : Char} (h : c.toNat < 32) (cs : List Char) :
    readPieces ('\\' :: 'u' :: (digits 16 4 c.toNat).map hexChar ++ cs) =
      (readPieces cs).map (Prod.map (.char c :: ·) id) := by
  have hdigits : ∀ d ∈ digits 16 4 c.toNat, d < 16 := fun _ => lt_of_mem_digits (by decide)
  have hread := ProjectId.mapM_hex?_hexChar hdigits
  have hvalue : value 16 (digits 16 4 c.toNat) = c.toNat := by
    have hmod : c.toNat % Nat.pow 16 4 = c.toNat :=
      Nat.mod_eq_of_lt (Nat.lt_trans h (by decide))
    rw [value_digits, hmod]
  obtain ⟨x, y, z, w, hfour⟩ : ∃ x y z w, digits 16 4 c.toNat = [x, y, z, w] := ⟨_, _, _, _, rfl⟩
  rw [hfour] at hread hvalue
  have hunit : unit? (hexChar x) (hexChar y) (hexChar z) (hexChar w) = some c.toNat := by
    simp only [List.map_cons, List.map_nil] at hread
    rw [unit?, hread, Option.map_some, hvalue]
  have hpiece : pieceOfUnit c.toNat = .char c := by
    have hordinary : ¬(0xD800 ≤ c.toNat ∧ c.toNat ≤ 0xDFFF) := by omega
    rw [pieceOfUnit, if_neg hordinary, Char.ofNat_toNat]
  rw [hfour]
  simp only [List.map_cons, List.map_nil, List.cons_append, List.nil_append]
  rw [readPieces.eq_3, hunit]
  cases readPieces cs with
  | none => rfl
  | some read =>
      simp only [hpiece]
      rfl

/-- However a character is written, it is read back as that character. -/
theorem readPieces_charChars (c : Char) (cs : List Char) :
    readPieces (charChars c ++ cs) = (readPieces cs).map (Prod.map (.char c :: ·) id) := by
  have hcode {n : Nat} (h : c.toNat = n) : Char.ofNat n = c := by rw [← h, Char.ofNat_toNat]
  unfold charChars
  split_ifs with hquote hbackslash hnewline hreturn htab hback hfeed hcontrol
  · subst hquote
    exact readPieces_escape rfl (by decide) cs
  · subst hbackslash
    exact readPieces_escape rfl (by decide) cs
  · subst hnewline
    exact readPieces_escape rfl (by decide) cs
  · subst hreturn
    exact readPieces_escape rfl (by decide) cs
  · subst htab
    exact readPieces_escape rfl (by decide) cs
  · have hletter : escape? 'b' = some c := congrArg some (hcode hback)
    exact readPieces_escape hletter (by decide) cs
  · have hletter : escape? 'f' = some c := congrArg some (hcode hfeed)
    exact readPieces_escape hletter (by decide) cs
  · exact readPieces_control hcontrol cs
  · exact readPieces_plain hquote hbackslash hcontrol cs

theorem readPieces_text (text rest : List Char) :
    readPieces (text.flatMap charChars ++ '"' :: rest) = some (text.map .char, rest) := by
  induction text with
  | nil => exact readPieces.eq_2 rest
  | cons c text ih =>
      rw [List.flatMap_cons, List.append_assoc, readPieces_charChars, ih]
      rfl

theorem joinPieces_chars (text : List Char) : joinPieces (text.map .char) = some text := by
  induction text with
  | nil => rfl
  | cons c text ih => rw [List.map_cons, joinPieces, ih, Option.map_some]

/-- A written literal starts with a quotation mark, and what follows it is read back. -/
theorem writeLiteral_eq_append (s : Literal) (rest : List Char) :
    ∃ body, writeLiteral s rest = '"' :: body ++ rest ∧
      readLiteral (body ++ rest) = some (s, rest) := by
  cases s with
  | none =>
      refine ⟨['\\', 'u', 'd', '8', '0', '0', '"'], rfl, ?_⟩
      simp only [List.cons_append, List.nil_append]
      have hunit : unit? 'd' '8' '0' '0' = some 0xD800 := by decide
      have hpiece : pieceOfUnit 0xD800 = .half 0xD800 := by decide
      rw [readLiteral, readPieces.eq_3, hunit, readPieces.eq_2]
      simp only [hpiece]
      rfl
  | some s =>
      have htail : s.toList.flatMap charChars ++ ['"'] ++ rest =
          s.toList.flatMap charChars ++ '"' :: rest := List.append_assoc _ _ _
      refine ⟨s.toList.flatMap charChars ++ ['"'], ?_, ?_⟩
      · rw [List.cons_append, htail]
        rfl
      rw [htail, readLiteral, readPieces_text, Option.map_some]
      simp only [joinPieces_chars, Option.map_some, String.ofList_toList]

end Literals

section Numbers

/-- A text that no number goes on with. -/
def Ends (rest : List Char) : Prop :=
  ∀ c ∈ rest.head?, isDigit c = false ∧ c ≠ '.' ∧ c ≠ 'e' ∧ c ≠ 'E'

theorem ends_nil : Ends [] := by simp [Ends]

theorem ends_cons {c : Char} (h : isDigit c = false ∧ c ≠ '.' ∧ c ≠ 'e' ∧ c ≠ 'E')
    (rest : List Char) : Ends (c :: rest) := by
  simpa [Ends] using h

variable {rest : List Char}

theorem Ends.noDigit (h : Ends rest) : NoDigit rest := by
  intro c hc
  have hdigit := (h c hc).1
  rwa [isDigit, Option.isSome_eq_false_iff, Option.isNone_iff_eq_none] at hdigit

theorem dropWhile_isDigit (h : Ends rest) : rest.dropWhile isDigit = rest :=
  dropWhile_of_noDigit h.noDigit

theorem dropFraction_of_ends (h : Ends rest) : dropFraction rest = some (false, rest) := by
  cases rest with
  | nil => rfl
  | cons c rest =>
      refine dropFraction.eq_2 _ ?_
      intro tail hpoint
      exact (h c rfl).2.1 (List.cons.inj hpoint).1

theorem dropExponent_of_ends (h : Ends rest) : dropExponent rest = some (false, rest) := by
  cases rest with
  | nil => rfl
  | cons c rest =>
      have hmark : ¬(c = 'e' ∨ c = 'E') := not_or.mpr (h c rfl).2.2
      simp only [dropExponent, if_neg hmark]

theorem isDigit_decimalChar {d : Nat} (h : d < 10) : isDigit (decimalChar d) = true := by
  rw [isDigit, decimal?_decimalChar h, Option.isSome_some]

/-- Digits are taken up to the first character that no number goes on with. -/
theorem readMagnitude_plain (negative : Bool) (n : Nat) (h : Ends rest) :
    readMagnitude negative (plain n ++ rest) =
      some (if negative && n == 0 then .other else .integer (if negative then -(n : Int) else n),
        rest) := by
  obtain ⟨ds, hplain, hdigits, hvalue, hsome, hhead⟩ := plain_eq_digits n
  have htake : (plain n ++ rest).takeWhile isDigit = plain n := by
    rw [hplain]
    exact takeWhile_decimals hdigits h.noDigit
  have hwell : ¬(plain n = [] ∨ (plain n).head? = some '0' ∧ (plain n).length ≠ 1) := by
    rintro (hnil | ⟨hzero, hmany⟩)
    · rw [hplain] at hnil
      exact hsome (List.map_eq_nil_iff.mp hnil)
    · by_cases hn : n = 0
      · subst hn
        exact hmany (by decide +kernel)
      · rw [hplain, List.head?_map, Option.map_eq_some_iff] at hzero
        obtain ⟨d, hd, hchar⟩ := hzero
        have hread := decimal?_decimalChar (hdigits d (List.mem_of_mem_head? hd))
        rw [hchar] at hread
        have hfirst : d = 0 := (Option.some.inj hread).symm
        rw [hfirst] at hd
        exact hhead hn hd
  have hback : value 10 ((plain n).filterMap decimal?) = n := by
    rw [hplain, filterMap_decimals hdigits, hvalue]
  unfold readMagnitude
  simp only [htake, if_neg hwell, List.drop_left, dropFraction_of_ends h, dropExponent_of_ends h,
    hback, Bool.false_or]
  cases negative <;> cases hn : n == 0 <;> simp_all

theorem plain_eq_cons (n : Nat) : ∃ c cs, plain n = c :: cs ∧ isDigit c = true := by
  obtain ⟨ds, hplain, hdigits, -, hsome, -⟩ := plain_eq_digits n
  obtain ⟨d, ds, rfl⟩ := List.exists_cons_of_ne_nil hsome
  exact ⟨decimalChar d, ds.map decimalChar, hplain,
    isDigit_decimalChar (hdigits d List.mem_cons_self)⟩

theorem ne_of_isDigit {c e : Char} (hc : isDigit c = true) (he : isDigit e = false) : c ≠ e := by
  rintro rfl
  rw [hc] at he
  cases he

/-- A written number starts with a digit or a minus, and is read back. -/
theorem readNumber_writeNumber (n : Number) (h : Ends rest) :
    readNumber (writeNumber n rest) = some (n, rest) ∧
      ∃ c body, writeNumber n rest = c :: body ++ rest ∧ (isDigit c = true ∨ c = '-') := by
  match n with
  | .integer (.ofNat n) =>
      obtain ⟨c, cs, hplain, hc⟩ := plain_eq_cons n
      refine ⟨?_, c, cs, by rw [writeNumber, hplain], Or.inl hc⟩
      have hunsigned : readNumber (plain n ++ rest) = readMagnitude false (plain n ++ rest) := by
        refine readNumber.eq_2 _ ?_
        intro tail hminus
        rw [hplain, List.cons_append] at hminus
        exact ne_of_isDigit hc (by decide) (List.cons.inj hminus).1
      rw [writeNumber, hunsigned, readMagnitude_plain false n h]
      rfl
  | .integer (.negSucc n) =>
      refine ⟨?_, '-', plain (n + 1), rfl, Or.inr rfl⟩
      have hsigned : readNumber (writeNumber (.integer (.negSucc n)) rest) =
          readMagnitude true (plain (n + 1) ++ rest) := rfl
      rw [hsigned, readMagnitude_plain true (n + 1) h]
      rfl
  | .other =>
      refine ⟨?_, '0', ['.', '5'], rfl, Or.inl (by decide)⟩
      have hdigits : ('0' :: '.' :: '5' :: rest).takeWhile isDigit = ['0'] := rfl
      have hfraction : dropFraction ('.' :: '5' :: rest) = some (true, rest) := by
        have hfive : isDigit '5' = true := by decide
        rw [dropFraction, dropDigits, if_pos hfive, dropWhile_isDigit h, Option.map_some]
      have hexponent := dropExponent_of_ends h
      have hunsigned : readNumber (writeNumber .other rest) =
          readMagnitude false ('0' :: '.' :: '5' :: rest) := rfl
      rw [hunsigned, readMagnitude]
      simp only [hdigits]
      simp [hfraction, hexponent]

end Numbers

section Readers

variable {α : Type} {read : Nat → List Char → Option (α × List Char)} {a : α}
variable {cs rest after : List Char} {name : Literal} {item : Json} {items : List Json}
variable {members : List (Literal × Json)}

theorem skipSpace_cons {c : Char} (h : isSpace c = true) (cs : List Char) :
    skipSpace (c :: cs) = skipSpace cs :=
  List.dropWhile_cons_of_pos h

theorem skipSpace_cons_of_not {c : Char} (h : isSpace c = false) (cs : List Char) :
    skipSpace (c :: cs) = c :: cs :=
  List.dropWhile_cons_of_neg (by simp [h])

theorem length_skipSpace_le (cs : List Char) : (skipSpace cs).length ≤ cs.length :=
  (List.dropWhile_suffix isSpace).length_le

/-- A reader takes a value off the front of a text, given at least as many steps as the characters
that it takes, of which there is at least one. -/
structure Takes (read : Nat → List Char → Option (α × List Char)) (a : α)
    (cs rest : List Char) : Prop where
  shorter : rest.length < cs.length
  read_eq : ∀ fuel, cs.length ≤ fuel + rest.length → read fuel cs = some (a, rest)

/-- It is enough to look at what a reader does with a first step. -/
theorem Takes.of_succ (hshorter : rest.length < cs.length)
    (h : ∀ fuel, cs.length ≤ fuel + 1 + rest.length → read (fuel + 1) cs = some (a, rest)) :
    Takes read a cs rest := by
  refine ⟨hshorter, ?_⟩
  intro fuel hfuel
  cases fuel with
  | zero => omega
  | succ fuel => exact h fuel hfuel

/-- Blanks in front make no difference to a reader that skips them. -/
theorem Takes.skip {ds : List Char}
    (hskips : ∀ fuel cs ds, skipSpace cs = skipSpace ds → read fuel cs = read fuel ds)
    (hsame : skipSpace ds = skipSpace cs) (hlonger : cs.length ≤ ds.length)
    (h : Takes read a cs rest) : Takes read a ds rest := by
  refine ⟨Nat.lt_of_lt_of_le h.shorter hlonger, ?_⟩
  intro fuel hfuel
  rw [hskips fuel ds cs hsame]
  exact h.read_eq fuel (Nat.le_trans hlonger hfuel)

theorem readValue_congr (fuel : Nat) (cs ds : List Char) (h : skipSpace cs = skipSpace ds) :
    readValue fuel cs = readValue fuel ds := by
  cases fuel with
  | zero => rw [readValue, readValue]
  | succ fuel => rw [readValue, readValue, h]

theorem readItems_congr (fuel : Nat) (cs ds : List Char) (h : skipSpace cs = skipSpace ds) :
    readItems fuel cs = readItems fuel ds := by
  cases fuel with
  | zero => rw [readItems, readItems]
  | succ fuel => rw [readItems, readItems, readValue_congr fuel cs ds h]

theorem readMembers_congr (fuel : Nat) (cs ds : List Char) (h : skipSpace cs = skipSpace ds) :
    readMembers fuel cs = readMembers fuel ds := by
  cases fuel with
  | zero => rw [readMembers, readMembers]
  | succ fuel => rw [readMembers, readMembers, h]

/-! ### One rule for each token -/

theorem takes_null : Takes readValue .null ('n' :: 'u' :: 'l' :: 'l' :: rest) rest := by
  refine .of_succ (by simp only [List.length_cons]; omega) ?_
  intro fuel _
  rfl

theorem takes_bool (b : Bool) : Takes readValue (.bool b) (write (.bool b) rest) rest := by
  cases b with
  | true =>
      refine .of_succ (by simp only [write, List.length_cons]; omega) ?_
      intro fuel _
      rfl
  | false =>
      refine .of_succ (by simp only [write, List.length_cons]; omega) ?_
      intro fuel _
      rfl

theorem readValue_number {c : Char} (hc : isDigit c = true ∨ c = '-') (fuel : Nat) (cs : List Char) :
    readValue (fuel + 1) (c :: cs) = (readNumber (c :: cs)).map (Prod.map .num id) := by
  have hother {e : Char} (hdigit : isDigit e = false) (hminus : e ≠ '-') : c ≠ e := by
    rintro rfl
    rcases hc with hc | hc
    · rw [hdigit] at hc
      cases hc
    · exact hminus hc
  have hblank : isSpace c = false := by
    simp only [isSpace, Bool.or_eq_false_iff, beq_eq_false_iff_ne]
    exact ⟨⟨⟨hother (by decide) (by decide), hother (by decide) (by decide)⟩,
      hother (by decide) (by decide)⟩, hother (by decide) (by decide)⟩
  rw [readValue, skipSpace_cons_of_not hblank]
  split
  · next h => cases h
  · next h => exact absurd (List.cons.inj h).1 (hother (by decide) (by decide))
  · next h => exact absurd (List.cons.inj h).1 (hother (by decide) (by decide))
  · next h => exact absurd (List.cons.inj h).1 (hother (by decide) (by decide))
  · next h => exact absurd (List.cons.inj h).1 (hother (by decide) (by decide))
  · next h => exact absurd (List.cons.inj h).1 (hother (by decide) (by decide))
  · next h => exact absurd (List.cons.inj h).1 (hother (by decide) (by decide))
  · rfl

theorem takes_num (n : Number) (h : Ends rest) :
    Takes readValue (.num n) (writeNumber n rest) rest := by
  obtain ⟨hread, c, body, hwrite, hc⟩ := readNumber_writeNumber n h
  rw [hwrite] at hread ⊢
  refine .of_succ (by simp only [List.length_cons, List.length_append]; omega) ?_
  intro fuel _
  rw [List.cons_append] at hread ⊢
  rw [readValue_number hc, hread]
  rfl

theorem takes_str (s : Literal) : Takes readValue (.str s) (writeLiteral s rest) rest := by
  obtain ⟨body, hwrite, hread⟩ := writeLiteral_eq_append s rest
  rw [hwrite]
  refine .of_succ (by simp only [List.length_cons, List.length_append]; omega) ?_
  intro fuel _
  have hquote : readValue (fuel + 1) ('"' :: body ++ rest) =
      (readLiteral (body ++ rest)).map (Prod.map .str id) := rfl
  rw [hquote, hread]
  rfl

theorem takes_arr_nil : Takes readValue (.arr []) ('[' :: ']' :: rest) rest := by
  refine .of_succ (by simp only [List.length_cons]; omega) ?_
  intro fuel _
  rfl

theorem takes_obj_nil : Takes readValue (.obj []) ('\x7b' :: '\x7d' :: rest) rest := by
  refine .of_succ (by simp only [List.length_cons]; omega) ?_
  intro fuel _
  rfl

/-- No value starts with a closing bracket. -/
theorem readValue_closing (fuel : Nat) (h : skipSpace cs = ']' :: rest) :
    readValue fuel cs = none := by
  cases fuel with
  | zero => rw [readValue]
  | succ fuel =>
      rw [readValue, h]
      rfl

theorem takes_arr (h : Takes readItems items cs rest) :
    Takes readValue (.arr items) ('[' :: cs) rest := by
  have hlonger := h.shorter
  refine .of_succ (by simp only [List.length_cons]; omega) ?_
  intro fuel hfuel
  rw [List.length_cons] at hfuel
  have hread := h.read_eq fuel (by omega)
  -- What elements can be read from does not start with the bracket of an empty array.
  have hopen : ∀ after, skipSpace cs ≠ ']' :: after := by
    intro after hclosing
    cases fuel with
    | zero => omega
    | succ fuel =>
        rw [readItems, readValue_closing fuel hclosing] at hread
        cases hread
  have hstart : skipSpace ('[' :: cs) = '[' :: cs := rfl
  rw [readValue, hstart]
  simp only [hread, Option.map_some]

theorem takes_obj (h : Takes readMembers members cs rest) :
    Takes readValue (.obj members) ('\x7b' :: cs) rest := by
  have hlonger := h.shorter
  refine .of_succ (by simp only [List.length_cons]; omega) ?_
  intro fuel hfuel
  rw [List.length_cons] at hfuel
  have hread := h.read_eq fuel (by omega)
  have hopen : ∀ after, skipSpace cs ≠ '\x7d' :: after := by
    intro after hclosing
    cases fuel with
    | zero => omega
    | succ fuel =>
        rw [readMembers, hclosing] at hread
        cases hread
  have hstart : skipSpace ('\x7b' :: cs) = '\x7b' :: cs := rfl
  rw [readValue, hstart]
  simp only [hread, Option.map_some]

theorem takes_item_last (h : Takes readValue item cs after) (hend : skipSpace after = ']' :: rest) :
    Takes readItems [item] cs rest := by
  have hlonger := h.shorter
  have hrest := length_skipSpace_le after
  rw [hend, List.length_cons] at hrest
  refine .of_succ (by omega) ?_
  intro fuel hfuel
  rw [readItems, h.read_eq fuel (by omega)]
  simp only [hend]

theorem takes_item_next (h : Takes readValue item cs (',' :: after))
    (hitems : Takes readItems items after rest) : Takes readItems (item :: items) cs rest := by
  have hlonger := h.shorter
  have hrest := hitems.shorter
  rw [List.length_cons] at hlonger
  refine .of_succ (by omega) ?_
  intro fuel hfuel
  have hcomma : skipSpace (',' :: after) = ',' :: after := rfl
  rw [readItems, h.read_eq fuel (by rw [List.length_cons]; omega)]
  simp only [hcomma, hitems.read_eq fuel (by omega)]
  rfl

theorem takes_member_last (h : Takes readValue item cs after)
    (hend : skipSpace after = '\x7d' :: rest) :
    Takes readMembers [(name, item)] (writeLiteral name (':' :: cs)) rest := by
  have hlonger := h.shorter
  have hrest := length_skipSpace_le after
  rw [hend, List.length_cons] at hrest
  obtain ⟨body, hwrite, hread⟩ := writeLiteral_eq_append name (':' :: cs)
  rw [hwrite]
  refine .of_succ (by simp only [List.length_cons, List.length_append]; omega) ?_
  intro fuel hfuel
  simp only [List.length_append, List.length_cons] at hfuel
  have hquote : skipSpace ('"' :: body ++ ':' :: cs) = '"' :: (body ++ ':' :: cs) := rfl
  have hcolon : skipSpace (':' :: cs) = ':' :: cs := rfl
  rw [readMembers, hquote]
  simp only [hread, hcolon, h.read_eq fuel (by omega), hend]

theorem takes_member_next (h : Takes readValue item cs (',' :: after))
    (hmembers : Takes readMembers members after rest) :
    Takes readMembers ((name, item) :: members) (writeLiteral name (':' :: cs)) rest := by
  have hlonger := h.shorter
  have hrest := hmembers.shorter
  rw [List.length_cons] at hlonger
  obtain ⟨body, hwrite, hread⟩ := writeLiteral_eq_append name (':' :: cs)
  rw [hwrite]
  refine .of_succ (by simp only [List.length_cons, List.length_append]; omega) ?_
  intro fuel hfuel
  simp only [List.length_append, List.length_cons] at hfuel
  have hquote : skipSpace ('"' :: body ++ ':' :: cs) = '"' :: (body ++ ':' :: cs) := rfl
  have hcolon : skipSpace (':' :: cs) = ':' :: cs := rfl
  have hcomma : skipSpace (',' :: after) = ',' :: after := rfl
  rw [readMembers, hquote]
  simp only [hread, hcolon, h.read_eq fuel (by rw [List.length_cons]; omega), hcomma,
    hmembers.read_eq fuel (by omega), Option.map_some]

end Readers

/-- A way of writing a value from which it is read back, whatever follows that no number goes on
with. -/
def Readable (text : List Char → List Char) (j : Json) : Prop :=
  ∀ {rest : List Char}, Ends rest → Takes readValue j (text rest) rest

section Compact

theorem ends_writeItems (items : List Json) (rest : List Char) : Ends (writeItems items rest) := by
  cases items <;> exact ends_cons (by decide) _

theorem ends_writeMembers (members : List (Literal × Json)) (rest : List Char) :
    Ends (writeMembers members rest) := by
  cases members <;> exact ends_cons (by decide) _

mutual

/-- A value on one line is read back. -/
theorem readable_write : ∀ j : Json, Readable (write j) j
  | .null, _, _ => takes_null
  | .bool b, _, _ => takes_bool b
  | .num n, _, h => takes_num n h
  | .str s, _, _ => takes_str s
  | .arr [], _, _ => takes_arr_nil
  | .arr (item :: items), rest, _ => takes_arr (takes_writeItems items (readable_write item) rest)
  | .obj [], _, _ => takes_obj_nil
  | .obj ((name, item) :: members), rest, _ =>
      takes_obj (takes_writeMembers members name (readable_write item) rest)

/-- The recursion is on the elements after the first, which is known to be read back. -/
theorem takes_writeItems : ∀ (items : List Json) {item : Json}, Readable (write item) item →
    ∀ rest, Takes readItems (item :: items) (write item (writeItems items rest)) rest
  | [], _, hitem, rest => takes_item_last (hitem (ends_writeItems [] rest)) rfl
  | next :: items, _, hitem, rest =>
      takes_item_next (hitem (ends_writeItems (next :: items) rest))
        (takes_writeItems items (readable_write next) rest)

theorem takes_writeMembers : ∀ (members : List (Literal × Json)) (name : Literal) {item : Json},
    Readable (write item) item → ∀ rest,
      Takes readMembers ((name, item) :: members)
        (writeLiteral name (':' :: write item (writeMembers members rest))) rest
  | [], _, _, hitem, rest => takes_member_last (hitem (ends_writeMembers [] rest)) rfl
  | (next, value) :: members, _, _, hitem, rest =>
      takes_member_next (hitem (ends_writeMembers ((next, value) :: members) rest))
        (takes_writeMembers members next (readable_write value) rest)

end

end Compact

section Deep

theorem skipSpace_newLine (depth : Nat) (cs : List Char) :
    skipSpace (newLine depth cs) = skipSpace cs := by
  have hgap : ∀ c ∈ '\n' :: List.replicate (2 * depth) ' ', isSpace c = true := by
    intro c hc
    rcases List.mem_cons.mp hc with rfl | hc
    · rfl
    · rw [List.eq_of_mem_replicate hc]
      rfl
  exact List.dropWhile_append_of_pos hgap

theorem length_le_newLine (depth : Nat) (cs : List Char) : cs.length ≤ (newLine depth cs).length := by
  rw [newLine, List.cons_append, List.length_cons, List.length_append]
  omega

theorem ends_newLine (depth : Nat) (cs : List Char) : Ends (newLine depth cs) :=
  ends_cons (by decide) _

theorem ends_writeDeepItems (depth : Nat) (items : List Json) (rest : List Char) :
    Ends (writeDeepItems depth items rest) := by
  cases items with
  | nil => exact ends_newLine depth _
  | cons => exact ends_cons (by decide) _

theorem ends_writeDeepMembers (depth : Nat) (members : List (Literal × Json)) (rest : List Char) :
    Ends (writeDeepMembers depth members rest) := by
  cases members with
  | nil => exact ends_newLine depth _
  | cons => exact ends_cons (by decide) _

variable {cs rest : List Char} {item : Json} {items : List Json} {members : List (Literal × Json)}

theorem takes_items_newLine (depth : Nat) (h : Takes readItems items cs rest) :
    Takes readItems items (newLine depth cs) rest :=
  h.skip readItems_congr (skipSpace_newLine depth cs) (length_le_newLine depth cs)

theorem takes_members_newLine (depth : Nat) (h : Takes readMembers members cs rest) :
    Takes readMembers members (newLine depth cs) rest :=
  h.skip readMembers_congr (skipSpace_newLine depth cs) (length_le_newLine depth cs)

theorem takes_space (h : Takes readValue item cs rest) : Takes readValue item (' ' :: cs) rest :=
  h.skip readValue_congr (skipSpace_cons rfl cs) (Nat.le_succ _)

mutual

/-- A value over several lines is read back, at any depth. -/
theorem readable_writeDeep : ∀ (j : Json) (depth : Nat), Readable (writeDeep depth j) j
  | .null, _, _, _ => takes_null
  | .bool true, _, _, _ => takes_bool true
  | .bool false, _, _, _ => takes_bool false
  | .num n, _, _, h => takes_num n h
  | .str s, _, _, _ => takes_str s
  | .arr [], _, _, _ => takes_arr_nil
  | .arr (item :: items), depth, rest, _ =>
      takes_arr (takes_items_newLine (depth + 1)
        (takes_writeDeepItems items depth (readable_writeDeep item (depth + 1)) rest))
  | .obj [], _, _, _ => takes_obj_nil
  | .obj ((name, item) :: members), depth, rest, _ =>
      takes_obj (takes_members_newLine (depth + 1)
        (takes_writeDeepMembers members depth name (readable_writeDeep item (depth + 1)) rest))

theorem takes_writeDeepItems : ∀ (items : List Json) (depth : Nat) {item : Json},
    Readable (writeDeep (depth + 1) item) item → ∀ rest,
      Takes readItems (item :: items)
        (writeDeep (depth + 1) item (writeDeepItems depth items rest)) rest
  | [], depth, _, hitem, rest =>
      takes_item_last (hitem (ends_writeDeepItems depth [] rest)) (skipSpace_newLine depth _)
  | next :: items, depth, _, hitem, rest =>
      takes_item_next (hitem (ends_writeDeepItems depth (next :: items) rest))
        (takes_items_newLine (depth + 1)
          (takes_writeDeepItems items depth (readable_writeDeep next (depth + 1)) rest))

theorem takes_writeDeepMembers : ∀ (members : List (Literal × Json)) (depth : Nat) (name : Literal)
    {item : Json}, Readable (writeDeep (depth + 1) item) item → ∀ rest,
      Takes readMembers ((name, item) :: members)
        (writeLiteral name (':' :: ' ' ::
          writeDeep (depth + 1) item (writeDeepMembers depth members rest))) rest
  | [], depth, _, _, hitem, rest =>
      takes_member_last (takes_space (hitem (ends_writeDeepMembers depth [] rest)))
        (skipSpace_newLine depth _)
  | (next, value) :: members, depth, _, _, hitem, rest =>
      takes_member_next
        (takes_space (hitem (ends_writeDeepMembers depth ((next, value) :: members) rest)))
        (takes_members_newLine (depth + 1)
          (takes_writeDeepMembers members depth next (readable_writeDeep value (depth + 1)) rest))

end

end Deep

theorem parse_of_takes {j : Json} {cs : List Char} (h : Takes readValue j cs []) :
    parse (String.ofList cs) = some j := by
  have hread := h.read_eq (2 * cs.length + 2) (by rw [List.length_nil]; omega)
  rw [parse, String.toList_ofList, parseChars, hread]
  rfl

/-- Any value is read back from its text on one line. -/
@[simp] theorem parse_render (j : Json) : parse j.render = some j :=
  parse_of_takes (readable_write j ends_nil)

/-- Any value is read back from its text over several lines. -/
@[simp] theorem parse_renderDeep (j : Json) : parse j.renderDeep = some j :=
  parse_of_takes (readable_writeDeep j 0 ends_nil)

end ConfigTimeline.Json
