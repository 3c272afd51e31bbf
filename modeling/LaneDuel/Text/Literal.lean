/-
# LaneDuel.Text.Literal -- values written in messages

Messages show a value in a notation of their own: texts in quotation marks,
`None`, `True` and `False`, lists in square brackets and objects in braces.

* `quote` chooses the single quotation mark unless the text holds one and no
  double one; the mark in use, the backslash and every character that is not
  printable are escaped.
* `Json.literal` writes any document, `Json.plain` the same but a text by itself
  without marks.
* `Json.writable` tells whether the integers in a document have few enough digits
  for either.
-/
import LaneDuel.Json.Basic
import LaneDuel.Text.Half
import LaneDuel.Text.Integer
import LaneDuel.Text.Printable

namespace LaneDuel

set_option autoImplicit false

namespace Text

/-- The single quotation mark. -/
def apostrophe : Char := Char.ofNat 39

/-- `n` in lower case hexadecimal with at least `width` digits. -/
def hex (width n : Nat) : String :=
  let ds := Nat.toDigits 16 n
  String.ofList (List.replicate (width - ds.length) '0' ++ ds)

/-- A character by its number, a lone half by the number of the half. -/
def escape (c : Char) : String :=
  let n := (halfCode? c).getD c.toNat
  if n < 0x100 then "\\x" ++ hex 2 n
  else if n < 0x10000 then "\\u" ++ hex 4 n
  else "\\U" ++ hex 8 n

/-- One character between the quotation marks `mark`. -/
def quoteChar (mark c : Char) : String :=
  if c = mark ∨ c = '\\' then String.ofList ['\\', c]
  else if c = '\n' then "\\n"
  else if c = '\r' then "\\r"
  else if c = '\t' then "\\t"
  else if isPrintable c then String.singleton c
  else escape c

/-- A text in quotation marks. -/
def quote (s : String) : String :=
  let cs := s.toList
  let mark := if cs.contains apostrophe && !cs.contains '"' then '"' else apostrophe
  String.singleton mark ++ String.join (cs.map (quoteChar mark)) ++ String.singleton mark

end Text

namespace Json

mutual

/-- A document in the notation of messages. -/
def literal : Json → String
  | .null => "None"
  | .bool true => "True"
  | .bool false => "False"
  | .num n => n.text
  | .str s => Text.quote s
  | .arr items => "[" ++ ", ".intercalate (literals items) ++ "]"
  | .obj ms => "\x7b" ++ ", ".intercalate (memberLiterals ms) ++ "\x7d"

def literals : List Json → List String
  | [] => []
  | v :: rest => literal v :: literals rest

def memberLiterals : List (String × Json) → List String
  | [] => []
  | (k, v) :: rest => (Text.quote k ++ ": " ++ literal v) :: memberLiterals rest

end

/-- A document as it stands in running text: a text is written as it is. -/
def plain : Json → String
  | .str s => s
  | v => literal v

mutual

/-- Whether every integer in a document can be written. -/
def writable : Json → Bool
  | .num (.int n) => Text.writable n
  | .arr items => writables items
  | .obj ms => memberWritables ms
  | _ => true

def writables : List Json → Bool
  | [] => true
  | v :: rest => writable v && writables rest

def memberWritables : List (String × Json) → Bool
  | [] => true
  | (_, v) :: rest => writable v && memberWritables rest

end

end Json

end LaneDuel
