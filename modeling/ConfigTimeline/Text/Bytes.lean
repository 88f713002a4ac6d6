import ConfigTimeline.Text.Positional

/-!
Places in a text that are counted in bytes of UTF-8. A place within a character is none at which a
text can be cut. `dropBytes?` and `takeBytes?` cut a text in two, and give the parts back where the
place is the end of a part.

`ofBytes` makes a text of any bytes, and no two lists of bytes without the byte zero share one.
-/

namespace ConfigTimeline.Text

def byteCount : List Char → Nat
  | [] => 0
  | c :: cs => c.utf8Size + byteCount cs

/-- The text after its first `n` bytes, if a character ends there. -/
def dropBytes? : (n : Nat) → List Char → Option (List Char)
  | 0, cs => some cs
  | _ + 1, [] => none
  | n + 1, c :: cs => if c.utf8Size ≤ n + 1 then dropBytes? (n + 1 - c.utf8Size) cs else none

/-- The first `n` bytes of a text, if a character ends there. -/
def takeBytes? : (n : Nat) → List Char → Option (List Char)
  | 0, _ => some []
  | _ + 1, [] => none
  | n + 1, c :: cs =>
      if c.utf8Size ≤ n + 1 then (takeBytes? (n + 1 - c.utf8Size) cs).map (c :: ·) else none

/-- The bytes of a text from one place up to another, if characters end at both. -/
def slice? (start stop : Nat) (cs : List Char) : Option (List Char) :=
  (dropBytes? start cs).bind (takeBytes? (stop - start))

/-- The character that a list of bytes starts with. -/
def firstChar? (bytes : List UInt8) : Option Char :=
  [1, 2, 3, 4].findSome? fun size =>
    match (String.fromUTF8? ⟨(bytes.take size).toArray⟩).map String.toList with
    | some [c] => some c
    | _ => none

/-- A byte that belongs to no character, as NUL and its two hexadecimal digits. -/
def strayByte (byte : UInt8) : List Char :=
  '\x00' :: (Positional.digits 16 2 byte.toNat).map Positional.hexChar

/-- The text of some bytes after the first `skipped` ones, in which stray bytes are spelled out. -/
def ofBytes : (skipped : Nat) → List UInt8 → List Char
  | _, [] => []
  | skipped + 1, _ :: rest => ofBytes skipped rest
  | 0, byte :: rest =>
      match firstChar? (byte :: rest) with
      | some c => c :: ofBytes (c.utf8Size - 1) rest
      | none => strayByte byte ++ ofBytes 0 rest

@[simp] theorem byteCount_nil : byteCount [] = 0 := rfl

@[simp] theorem byteCount_cons (c : Char) (cs : List Char) :
    byteCount (c :: cs) = c.utf8Size + byteCount cs := rfl

theorem dropBytes?_zero (cs : List Char) : dropBytes? 0 cs = some cs := by
  cases cs <;> rfl

theorem takeBytes?_zero (cs : List Char) : takeBytes? 0 cs = some [] := by
  cases cs <;> rfl

/-- Dropping the bytes of a part leaves the text after it. -/
theorem dropBytes?_append (part rest : List Char) :
    dropBytes? (byteCount part) (part ++ rest) = some rest := by
  induction part with
  | nil => exact dropBytes?_zero rest
  | cons c part ih =>
      obtain ⟨n, hn⟩ := Nat.exists_eq_succ_of_ne_zero (Nat.ne_of_gt c.utf8Size_pos)
      have size : byteCount (c :: part) = (n + byteCount part) + 1 := by
        rw [byteCount_cons, hn]; omega
      have rest_size : n + byteCount part + 1 - c.utf8Size = byteCount part := by omega
      rw [size, List.cons_append, dropBytes?, if_pos (by omega), rest_size, ih]

/-- Taking the bytes of a part gives the part. -/
theorem takeBytes?_append (part rest : List Char) :
    takeBytes? (byteCount part) (part ++ rest) = some part := by
  induction part with
  | nil => exact takeBytes?_zero rest
  | cons c part ih =>
      obtain ⟨n, hn⟩ := Nat.exists_eq_succ_of_ne_zero (Nat.ne_of_gt c.utf8Size_pos)
      have size : byteCount (c :: part) = (n + byteCount part) + 1 := by
        rw [byteCount_cons, hn]; omega
      have rest_size : n + byteCount part + 1 - c.utf8Size = byteCount part := by omega
      rw [size, List.cons_append, takeBytes?, if_pos (by omega), rest_size, ih, Option.map_some]

end ConfigTimeline.Text
