/-
# LaneDuel.Command.Layout -- shown text in lines and columns

* `expandTabs` fills a line up to the next multiple of eight cells at each tab.
* `columnWidth` is the width of the widest line in a column; a tab has no width
  there, so that a line with tabs may be too wide for its own column.
* `wrap` breaks a line that is too wide between words, and `crop` cuts off what is
  still too wide.
* `rows` lays cells out; a row is as high as its highest cell.
-/
import LaneDuel.Text.Blank
import LaneDuel.Text.Lines
import LaneDuel.Text.Width

namespace LaneDuel.Command.Layout

set_option autoImplicit false

/-- The distance between two tab stops. -/
def tabStop : Nat := 8

/-- Fill up at tabs; `here` is how many cells the line has already. -/
def expandTabsFrom (here : Nat) : List Char → List Char
  | [] => []
  | '\t' :: rest =>
    let gap := tabStop - here % tabStop
    List.replicate gap ' ' ++ expandTabsFrom (here + gap) rest
  | c :: rest => c :: expandTabsFrom (here + Text.charWidth c) rest

def expandTabs (cs : List Char) : List Char := expandTabsFrom 0 cs

/-- The lines of a text, at line feeds only. -/
def splitLines (cs : List Char) : List (List Char) :=
  ((String.ofList cs).splitOn "\n").map String.toList

/-- A line without blanks at its ends. -/
def trimmed (cs : List Char) : String := String.ofList (Text.trimBy Text.isBlankOrSeparator cs)

/-- The lines of a text that is printed, without blanks at their right ends. -/
def printedLines (cs : List Char) : List String :=
  (splitLines cs).map fun line =>
    String.ofList ((expandTabs line).reverse.dropWhile Text.isBlankOrSeparator).reverse

/-! ## Columns -/

/-- How wide a text is. -/
def measure (cs : List Char) : Nat :=
  ((Text.lines (String.ofList cs)).map fun line => Text.width line.toList).foldl max 0

def columnWidth (cells : List (List Char)) : Nat := (cells.map measure).foldl max 0

/-- Cut a line into words, each with the blanks around it that no earlier word has.
Blanks after the last word are its own. -/
def words : Nat → List Char → List (List Char)
  | 0, _ => []
  | fuel + 1, cs =>
    let before := cs.takeWhile Text.isBlankOrSeparator
    let rest := cs.drop before.length
    let word := rest.takeWhile (!Text.isBlankOrSeparator ·)
    let after := (rest.drop word.length).takeWhile Text.isBlankOrSeparator
    if word.isEmpty then []
    else (before ++ word ++ after) :: words fuel ((rest.drop word.length).drop after.length)

/-- The line that words are being added to, and how many cells it has. -/
structure Wrapped where
  done : List (List Char)
  line : List Char
  cells : Nat

/-- Add a word.  One that does not fit begins a new line, unless it is the first. -/
def Wrapped.add (width : Nat) (w : Wrapped) (word : List Char) : Wrapped :=
  let bare := (word.reverse.dropWhile Text.isBlankOrSeparator).reverse
  let whole := Text.width word
  if w.cells + Text.width bare ≤ width then
    { w with line := w.line ++ word, cells := w.cells + whole }
  else if w.line.isEmpty && w.done.isEmpty then { w with line := word, cells := whole }
  else if width < Text.width bare || w.cells != 0 then
    ⟨w.done ++ [w.line], word, whole⟩
  else { w with line := w.line ++ word }

/-- Drop blanks at the end of a line that has too many characters. -/
def dropExcess (width : Nat) (cs : List Char) : List Char :=
  let blanks := (cs.reverse.takeWhile Text.isBlankOrSeparator).length
  cs.take (cs.length - min blanks (cs.length - width))

/-- The characters at the front that fit into so many cells. -/
def fitting (width : Nat) : List Char → List Char
  | [] => []
  | c :: rest =>
    if Text.charWidth c ≤ width then c :: fitting (width - Text.charWidth c) rest else []

/-- A line that is too wide ends in an ellipsis. -/
def crop (width : Nat) (cs : List Char) : List Char :=
  if Text.width cs ≤ width then cs
  else
    let front := fitting (width - 1) cs
    front ++ List.replicate (width - 1 - Text.width front) ' ' ++ ['…']

/-- Break a line that is too wide between words. -/
def wrap (width : Nat) (cs : List Char) : List (List Char) :=
  match words (cs.length + 1) cs with
  | [] => [cs]
  | ws =>
    let w := ws.foldl (Wrapped.add width) ⟨[], [], 0⟩
    w.done ++ [w.line]

/-- The lines of a cell in a column. -/
def cellLines (width : Nat) (cs : List Char) : List String :=
  (splitLines cs).flatMap fun line =>
    (wrap width (expandTabs line)).map fun part => trimmed (crop width (dropExcess width part))

/-- The cells of one row, line by line. -/
def rowLines (widths : List Nat) (row : List (List Char)) : List (List String) :=
  let columns := (widths.zip row).map fun (width, cell) => cellLines width cell
  (List.range ((columns.map List.length).foldl max 0)).map fun i =>
    columns.map fun lines => lines[i]?.getD ""

/-- Lay out rows of cells, the titles of the columns among them. -/
def rows (table : List (List (List Char))) : List (List String) :=
  let columns := (table.map List.length).foldl max 0
  let widths := (List.range columns).map fun i => columnWidth (table.filterMap (·[i]?))
  table.flatMap (rowLines widths)

end LaneDuel.Command.Layout
