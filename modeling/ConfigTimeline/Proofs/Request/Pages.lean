import ConfigTimeline.Proofs.Request.Wire
import ConfigTimeline.Request.Validation

/-!
The coordinates of pages. A request that is made of two numbers is checked, and both count from one. A
request that is read from a text is not checked: any two 32-bit words can be read, zero among them. The
records to skip are those of the pages before, except before page zero, where the number of the page
before wraps around.
-/

namespace ConfigTimeline

theorem Json.natUpTo?_le {bound n : Nat} {j : Json} (h : j.natUpTo? bound = some n) : n ≤ bound := by
  unfold Json.natUpTo? at h
  split at h
  · split at h
    · rename_i hrange
      cases h
      omega
    · cases h
  · cases h

theorem Json.required_natUpTo?_le {bound n : Nat} {slot : Option Json}
    (h : required (natUpTo? bound) slot = some n) : n ≤ bound := by
  obtain ⟨j, -, hj⟩ := Option.bind_eq_some_iff.mp h
  exact natUpTo?_le hj

namespace PageRequest

/-! ### The two ways to come by a request -/

/-- Page and size are 32-bit words. -/
structure InRange (r : PageRequest) : Prop where
  page : r.page ≤ Json.maxWord
  size : r.size ≤ Json.maxWord

theorem of_eq_ok_iff {page size : Nat} {r : PageRequest} :
    PageRequest.of page size = .ok r ↔ (1 ≤ page ∧ 1 ≤ size) ∧ r = ⟨page, size⟩ := by
  unfold PageRequest.of
  split
  · exact ⟨fun h => (nomatch h), fun ⟨⟨hpage, _⟩, _⟩ => by omega⟩
  · split
    · exact ⟨fun h => (nomatch h), fun ⟨⟨_, hsize⟩, _⟩ => by omega⟩
    · exact ⟨fun h => ⟨by omega, (Except.ok.inj h).symm⟩, fun ⟨_, h⟩ => h ▸ rfl⟩

theorem of_succ {i size : Nat} (hsize : 1 ≤ size) :
    PageRequest.of (i + 1) size = .ok ⟨i + 1, size⟩ :=
  of_eq_ok_iff.mpr ⟨⟨Nat.le_add_left 1 i, hsize⟩, rfl⟩

theorem ofJson_toJson {r : PageRequest} (h : r.InRange) : ofJson r.toJson = some r := by
  have hslots : r.toJson.slots fields = some [some (.nat r.page), some (.nat r.size)] :=
    Json.slots_record (by decide) rfl rfl
  simp [ofJson, hslots, Json.natUpTo?_nat h.page, Json.natUpTo?_nat h.size]

theorem inRange_of_ofJson {r : PageRequest} {j : Json} (h : ofJson j = some r) : r.InRange := by
  unfold ofJson at h
  split at h
  · obtain ⟨page, hpage, h⟩ := Option.bind_eq_some_iff.mp h
    obtain ⟨size, hsize, h⟩ := Option.bind_eq_some_iff.mp h
    cases h
    exact ⟨Json.required_natUpTo?_le hpage, Json.required_natUpTo?_le hsize⟩
  · cases h

/-- The JSON of a request in characters. -/
theorem write_toJson (r : PageRequest) :
    r.toJson.write [] = "\x7b\"page\":".toList ++ Positional.plain r.page ++
      ",\"size\":".toList ++ Positional.plain r.size ++ "\x7d".toList := by
  simp [toJson, Json.record, Json.nat, Json.write, Json.writeLiteral, Json.writeMembers,
    Json.writeNumber, Json.charChars]

theorem read_of_write {r : PageRequest} {text : String} (h : r.InRange)
    (htext : r.toJson.write [] = text.toList) : (Json.parse text).bind ofJson = some r := by
  have hrender : r.toJson.render = text := by rw [Json.render, htext, String.ofList_toList]
  exact hrender ▸ (readsBack_of (ofJson_toJson h)).line

/-- A request can be read from some text just if its numbers are words. -/
theorem exists_text_iff (r : PageRequest) :
    (∃ text, (Json.parse text).bind ofJson = some r) ↔ r.InRange := by
  constructor
  · rintro ⟨text, hread⟩
    obtain ⟨j, -, hj⟩ := Option.bind_eq_some_iff.mp hread
    exact inRange_of_ofJson hj
  · intro hrange
    exact ⟨_, read_of_write hrange String.toList_ofList.symm⟩

/-! ### The records to skip -/

/-- The number of the page before is a 32-bit word. -/
theorem offset_succ (i size : Nat) : (⟨i + 1, size⟩ : PageRequest).offset = i % 1 <<< 32 * size := by
  have hwrapped : i + 1 + (1 <<< 32 - 1) = i + 1 <<< 32 := by
    have hpositive : 0 < 1 <<< 32 := by decide
    omega
  change (i + 1 + (1 <<< 32 - 1)) % 1 <<< 32 * size = i % 1 <<< 32 * size
  rw [hwrapped, Nat.add_mod_right]

/-- Where the number of the page before is a 32-bit word, the count of records does not wrap around. -/
theorem offset_eq {i size : Nat} (h : i < 1 <<< 32) :
    (⟨i + 1, size⟩ : PageRequest).offset = i * size := by
  rw [offset_succ, Nat.mod_eq_of_lt h]

/-- The page before page zero is the greatest word. -/
theorem offset_zero (size : Nat) : (⟨0, size⟩ : PageRequest).offset = Json.maxWord * size := by
  have hbefore : (0 + (1 <<< 32 - 1)) % 1 <<< 32 = Json.maxWord := by decide
  exact congrArg (· * size) hbefore

theorem offset_le {page size : Nat} {request : PageRequest}
    (h : PageRequest.of page size = .ok request) : request.offset ≤ (page - 1) * size := by
  obtain ⟨⟨hpage, -⟩, rfl⟩ := of_eq_ok_iff.mp h
  obtain ⟨i, rfl⟩ := Nat.exists_eq_add_of_le' hpage
  rw [offset_succ, Nat.add_sub_cancel]
  exact Nat.mul_le_mul_right size (Nat.mod_le _ _)

/-- The product of two words is a word of twice the width. -/
theorem offset_le_maxLong {r : PageRequest} (h : r.InRange) : r.offset ≤ Json.maxLong := by
  have hbefore : (r.page + (1 <<< 32 - 1)) % 1 <<< 32 ≤ Json.maxWord :=
    Nat.le_pred_of_lt (Nat.mod_lt _ (by decide))
  calc r.offset ≤ Json.maxWord * Json.maxWord := Nat.mul_le_mul hbefore h.size
    _ ≤ Json.maxLong := by decide

/-- The records to skip are those of the pages before, unless the page is page zero and its size is not
zero. -/
theorem offset_exact_iff {r : PageRequest} (h : r.InRange) :
    (r.offset : Int) = (r.page - 1) * r.size ↔ 1 ≤ r.page ∨ r.size = 0 := by
  obtain ⟨page, size⟩ := r
  cases page with
  | zero =>
      have hgreatest : Json.maxWord = 4294967295 := by decide
      rw [offset_zero, hgreatest]
      simp only [Int.natCast_mul]
      omega
  | succ i =>
      have hword : i < 1 <<< 32 := Nat.lt_of_succ_le (h.page.trans (by decide))
      have hbefore : ((i + 1 : Nat) : Int) - 1 = i := by omega
      simp only [offset_eq hword, hbefore, Int.natCast_mul, Nat.le_add_left, true_or]

/-- A request that is made of two numbers counts both from one. One that is read from a text may have
any two words. Either way the number of records to skip is a word of twice the width, and it is that of
the records on the pages before, unless the page is page zero and its size is not zero: there the number
of the page before wraps around. -/
theorem coordinates_counted (r : PageRequest) :
    (∀ page size, PageRequest.of page size = .ok r ↔ (1 ≤ page ∧ 1 ≤ size) ∧ r = ⟨page, size⟩) ∧
      ((∃ text, (Json.parse text).bind ofJson = some r) ↔ r.InRange) ∧
      (r.InRange → r.offset ≤ Json.maxLong ∧
        ((r.offset : Int) = (r.page - 1) * r.size ↔ 1 ≤ r.page ∨ r.size = 0) ∧
        (r.page = 0 → r.offset = Json.maxWord * r.size)) := by
  refine ⟨fun page size => of_eq_ok_iff, exists_text_iff r, fun hrange => ?_⟩
  refine ⟨offset_le_maxLong hrange, offset_exact_iff hrange, fun hpage => ?_⟩
  obtain ⟨page, size⟩ := r
  cases hpage
  exact offset_zero size

/-- The last page of the greatest size is made of two words. Page zero of that size is read from a text,
and the records to skip before it are still a word of twice the width. -/
theorem coordinates_counted_greatest :
    let greatest := Json.maxWord
    let last : PageRequest := ⟨greatest, greatest⟩
    let zero : PageRequest := ⟨0, greatest⟩
    PageRequest.of greatest greatest = .ok last ∧ last.InRange ∧
      (last.offset : Int) = (greatest - 1) * greatest ∧
      (∃ text, (Json.parse text).bind ofJson = some zero) ∧
      zero.offset = greatest * greatest ∧ zero.offset ≤ Json.maxLong := by
  intro greatest last zero
  obtain ⟨hmade, -, hlast⟩ := coordinates_counted last
  obtain ⟨-, hread, hzero⟩ := coordinates_counted zero
  have hrange : last.InRange := ⟨le_rfl, le_rfl⟩
  have hrange' : zero.InRange := ⟨Nat.zero_le _, le_rfl⟩
  obtain ⟨hbound, -, hwrapped⟩ := hzero hrange'
  have hcounted : 1 ≤ last.page := by decide
  refine ⟨(hmade _ _).mpr ⟨by decide, rfl⟩, hrange, (hlast hrange).2.1.mpr (Or.inl hcounted), ?_⟩
  exact ⟨hread.mpr hrange', hwrapped rfl, hbound⟩

/-- Texts with a zero are read, although no request with a zero is made of two numbers. The records to
skip before page zero would be almost 2^33. -/
theorem zeros_read :
    (Json.parse "\x7b\"page\":1,\"size\":0\x7d").bind ofJson = some ⟨1, 0⟩ ∧
      PageRequest.of 1 0 = .error (.invalidPageSize 0) ∧
      (Json.parse "\x7b\"page\":0,\"size\":2\x7d").bind ofJson = some ⟨0, 2⟩ ∧
      PageRequest.of 0 2 = .error (.invalidPage 0) ∧
      (⟨0, 2⟩ : PageRequest).offset = 8589934590 := by
  refine ⟨read_of_write ⟨by decide, by decide⟩ ?_, rfl, read_of_write ⟨by decide, by decide⟩ ?_,
    rfl, by decide⟩
  · simp [write_toJson, Positional.plain, Positional.decimalChar]
  · simp [write_toJson, Positional.plain, Positional.decimalChar]

end PageRequest

end ConfigTimeline
