import ConfigTimeline.Text.Blank

/-!
The flags of a pattern. `Flags.skip` says what does not count in front of a part: nothing, or under
the flag `x` blanks and comments.
-/

namespace ConfigTimeline.Text.Pattern

structure Flags where
  /-- Characters are matched, and not bytes. -/
  unicode : Bool
  /-- Letters match in either case. -/
  anyCase : Bool
  /-- Blanks and comments stand between the parts. -/
  spaced : Bool

namespace Flags

def standard : Flags := ⟨true, false, false⟩

def allowsLiteral (f : Flags) : Bool := !(f.unicode && f.anyCase)

/-- The letters of flags, and the hyphen that takes away those after it. -/
def letters : List Char := ['i', 'm', 's', 'U', 'u', 'x', 'R', '-']

/-- The flags that a list of letters makes of others. -/
def change (f : Flags) (word : List Char) : Option Flags :=
  let on := word.takeWhile (· != '-')
  let setting (letter : Char) (before : Bool) : Bool :=
    if on.contains letter then true else if word.contains letter then false else before
  if word.all letters.contains ∧ word.Nodup ∧ word.getLast? ≠ some '-' then
    some ⟨setting 'u' f.unicode, setting 'i' f.anyCase, setting 'x' f.spaced⟩
  else none

end Flags

/-- The text after the blanks and the comments at its front. A comment goes from a number sign to
the end of the line; the text may start within one. -/
def dropSpace : (inComment : Bool) → List Char → List Char
  | _, [] => []
  | true, c :: cs => dropSpace (c != '\n') cs
  | false, c :: cs =>
      if isBlankChar c then dropSpace false cs
      else if c = '#' then dropSpace true cs
      else c :: cs

def Flags.skip (f : Flags) (cs : List Char) : List Char :=
  if f.spaced then dropSpace false cs else cs

/-- The character that decides whether a hyphen in front of it makes a range. Of a comment no more
than the number sign and the blanks after it are passed over. -/
def Flags.peek? (f : Flags) (cs : List Char) : Option Char :=
  if f.spaced then
    match dropBlank cs with
    | '#' :: rest => (dropBlank rest).head?
    | rest => rest.head?
  else cs.head?

theorem length_dropSpace_le (inComment : Bool) (cs : List Char) :
    (dropSpace inComment cs).length ≤ cs.length := by
  induction cs generalizing inComment with
  | nil => simp [dropSpace]
  | cons c cs ih =>
      cases inComment with
      | true => exact Nat.le_succ_of_le (ih _)
      | false =>
          rw [dropSpace]
          split
          · exact Nat.le_succ_of_le (ih _)
          · split
            · exact Nat.le_succ_of_le (ih _)
            · exact Nat.le_refl _

/-- Passing over what does not count makes no text longer. -/
theorem Flags.length_skip_le (f : Flags) (cs : List Char) : (f.skip cs).length ≤ cs.length := by
  rw [Flags.skip]
  split
  · exact length_dropSpace_le false cs
  · exact Nat.le_refl _

end ConfigTimeline.Text.Pattern
