/-
# LaneDuel.Text.Template -- texts with named gaps

A template holds names in braces.  Filling it puts the value of each name in the
place of its gap; a gap whose name has no value leaves the template unfilled.
-/

namespace LaneDuel.Text

set_option autoImplicit false

/-- One stretch of a template: a character or the name of a gap. -/
inductive Piece where
  | char (c : Char)
  | gap (name : String)
deriving DecidableEq, Repr

/-- The name being read, in reverse, if a brace is open. -/
def piecesFrom : Option (List Char) → List Char → List Piece
  | none, '\x7b' :: rest => piecesFrom (some []) rest
  | some name, '\x7d' :: rest => .gap (String.ofList name.reverse) :: piecesFrom none rest
  | none, c :: rest => .char c :: piecesFrom none rest
  | some name, c :: rest => piecesFrom (some (c :: name)) rest
  | _, [] => []

def pieces (template : String) : List Piece := piecesFrom none template.toList

def Piece.fill (values : List (String × String)) : Piece → Option String
  | .char c => some (String.singleton c)
  | .gap name => values.lookup name

/-- Every gap filled, or nothing when a value is missing. -/
def fill? (template : String) (values : List (String × String)) : Option String :=
  ((pieces template).mapM (Piece.fill values)).map String.join

end LaneDuel.Text
