/-
# LaneDuel.Text.Lines -- the lines of a text

A line ends at a line feed, a carriage return, both in this order, or at one of
the rarer separators.  The end of the last line may be missing.
-/

namespace LaneDuel.Text

set_option autoImplicit false

/-- A character that ends a line. -/
def endsLine (c : Char) : Bool :=
  let n := c.toNat
  (10 ≤ n && n ≤ 13) || (0x1c ≤ n && n ≤ 0x1e) || n == 0x85 || n == 0x2028 || n == 0x2029

/-- The lines of some characters; `line` is what the first one begins with, in
reverse. -/
def linesFrom (line : List Char) : List Char → List String
  | [] => if line.isEmpty then [] else [String.ofList line.reverse]
  | '\r' :: '\n' :: rest => String.ofList line.reverse :: linesFrom [] rest
  | c :: rest =>
    if endsLine c then String.ofList line.reverse :: linesFrom [] rest
    else linesFrom (c :: line) rest

def lines (s : String) : List String := linesFrom [] s.toList

end LaneDuel.Text
