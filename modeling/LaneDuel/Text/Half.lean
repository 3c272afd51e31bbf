/-
# LaneDuel.Text.Half -- halves of a surrogate pair

An escaped text may name one half of a surrogate pair by itself.  No character
has that number, so a lone half is kept as a private character of its own and
shown by its number wherever characters are escaped.

The 2048 private characters from U+10D800 to U+10DFFF are used up for this: texts
that hold one of them as itself are left out.
-/

namespace LaneDuel.Text

set_option autoImplicit false

/-- What is added to the number of a half to get the character that keeps it. -/
def halfOffset : Nat := 0x100000

/-- The numbers of the halves. -/
def isHalfCode (n : Nat) : Bool := 0xd800 ≤ n && n < 0xe000

/-- The character with a number, or the one that keeps a half. -/
def ofUnit (n : Nat) : Char := Char.ofNat (if isHalfCode n then halfOffset + n else n)

/-- The number of the half that a character keeps. -/
def halfCode? (c : Char) : Option Nat :=
  let n := c.toNat - halfOffset
  if isHalfCode n then some n else none

/-- Whether a text holds a half. -/
def hasHalf (s : String) : Bool := s.toList.any fun c => (halfCode? c).isSome

end LaneDuel.Text
