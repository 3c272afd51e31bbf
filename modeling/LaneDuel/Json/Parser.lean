/-
# LaneDuel.Json.Parser -- reading documents

`Json.parse` reads one document from a text.  Numbers without a fraction or an
exponent are integers and may have at most `Text.digitLimit` digits; `NaN`,
`Infinity` and `-Infinity` are numbers; control characters inside a text must be
escaped.  A key that occurs twice keeps its first place and its last value.
How deeply lists and objects may be nested depends on the room that whoever asks has
left, so it is an argument.

Every refusal names a problem and the offset at which it was found, counted in
characters.  Inside the parser an offset is the number of characters that are
still unread (`Stop.at`), which is what a suffix of the text knows about itself.
-/
import LaneDuel.Json.Basic
import LaneDuel.Text.Half
import LaneDuel.Text.Integer

namespace LaneDuel.Json

set_option autoImplicit false

/-- What can be wrong with the text of a document. -/
inductive Problem where
  | value
  | key
  | colon
  | comma
  | extra
  | unterminated
  | control
  | escape
  | codeUnit
  | byteOrderMark
deriving DecidableEq, Repr

def Problem.text : Problem → String
  | .value => "Expecting value"
  | .key => "Expecting property name enclosed in double quotes"
  | .colon => "Expecting ':' delimiter"
  | .comma => "Expecting ',' delimiter"
  | .extra => "Extra data"
  | .unterminated => "Unterminated string starting at"
  | .control => "Invalid control character at"
  | .escape => "Invalid \\escape"
  | .codeUnit => "Invalid \\uXXXX escape"
  | .byteOrderMark => "Unexpected UTF-8 BOM (decode using utf-8-sig)"

/-- Why reading stopped: a problem with so many characters unread, an integer
with too many digits, or too many nested values. -/
inductive Stop where
  | at (problem : Problem) (unread : Nat)
  | tooManyDigits (count : Nat)
  | tooDeep
deriving DecidableEq, Repr

abbrev Scan (α : Type) := Except Stop (α × List Char)

def isGap (c : Char) : Bool := c == ' ' || c == '\t' || c == '\n' || c == '\r'

def skipGap (cs : List Char) : List Char := cs.dropWhile isGap

/-! ## Texts -/

def hexDigit? (c : Char) : Option Nat :=
  let n := c.toNat
  if 48 ≤ n ∧ n ≤ 57 then some (n - 48)
  else if 97 ≤ n ∧ n ≤ 102 then some (n - 87)
  else if 65 ≤ n ∧ n ≤ 70 then some (n - 55)
  else none

/-- The code unit that four hexadecimal digits name. -/
def codeUnit? (a b c d : Char) : Option Nat := do
  let a ← hexDigit? a
  let b ← hexDigit? b
  let c ← hexDigit? c
  let d ← hexDigit? d
  return ((a * 16 + b) * 16 + c) * 16 + d

/-- The character that a one-letter escape stands for. -/
def escaped? : Char → Option Char
  | '"' => some '"'
  | '\\' => some '\\'
  | '/' => some '/'
  | 'b' => some (Char.ofNat 8)
  | 'f' => some (Char.ofNat 12)
  | 'n' => some '\n'
  | 'r' => some '\r'
  | 't' => some '\t'
  | _ => none

/-- The code units of a text after its opening mark, which was met with `opening`
characters unread, up to the closing mark. -/
def scanUnits (opening : Nat) : List Char → Scan (List Nat)
  | '"' :: rest => .ok ([], rest)
  | '\\' :: 'u' :: a :: b :: c :: d :: rest =>
    match codeUnit? a b c d with
    | some n => if rest.isEmpty then .error (.at .codeUnit (rest.length + 5)) else
      (scanUnits opening rest).map fun (ns, more) => (n :: ns, more)
    | none => .error (.at .codeUnit (rest.length + 5))
  | '\\' :: 'u' :: rest => .error (.at .codeUnit (rest.length + 1))
  | ['\\'] => .error (.at .unterminated opening)
  | '\\' :: e :: rest =>
    match escaped? e with
    | some c => (scanUnits opening rest).map fun (ns, more) => (c.toNat :: ns, more)
    | none => .error (.at .escape (rest.length + 2))
  | c :: rest =>
    if c.toNat < 32 then .error (.at .control (rest.length + 1))
    else (scanUnits opening rest).map fun (ns, more) => (c.toNat :: ns, more)
  | [] => .error (.at .unterminated opening)

/-- Characters of code units: a high and a low surrogate in a row are one
character, a surrogate by itself is a lone half. -/
def ofUnits : List Nat → List Char
  | hi :: lo :: rest =>
    if 0xd800 ≤ hi ∧ hi < 0xdc00 ∧ 0xdc00 ≤ lo ∧ lo < 0xe000 then
      Char.ofNat (0x10000 + (hi - 0xd800) * 0x400 + (lo - 0xdc00)) :: ofUnits rest
    else Text.ofUnit hi :: ofUnits (lo :: rest)
  | [n] => [Text.ofUnit n]
  | [] => []

def scanText (opening : Nat) (cs : List Char) : Scan String :=
  (scanUnits opening cs).map fun (ns, rest) => (String.ofList (ofUnits ns), rest)

/-! ## Numbers -/

/-- The digits of a number's integer part: a single zero, or a run that starts
with another digit. -/
def scanWhole : List Char → Option (List Char × List Char)
  | '0' :: rest => some (['0'], rest)
  | c :: rest =>
    if c.isDigit then some (c :: rest.takeWhile Char.isDigit, rest.dropWhile Char.isDigit)
    else none
  | [] => none

/-- The digits after a point, if a point and a digit follow. -/
def scanFraction : List Char → List Char × List Char
  | '.' :: c :: rest =>
    if c.isDigit then (c :: rest.takeWhile Char.isDigit, rest.dropWhile Char.isDigit)
    else ([], '.' :: c :: rest)
  | cs => ([], cs)

/-- The exponent, if an `e` and at least one digit follow. -/
def scanExponent (cs : List Char) : Option (Int × List Char) :=
  match cs with
  | e :: rest =>
    if e = 'e' ∨ e = 'E' then
      let (negative, digits) := Text.splitSign rest
      match digits.takeWhile Char.isDigit with
      | [] => none
      | ds => some (Text.signed negative (Text.ofDigits (ds.filterMap Text.asciiDigit?)),
          digits.dropWhile Char.isDigit)
    else none
  | [] => none

def scanNumber (cs : List Char) : Scan Json :=
  let (negative, body) := match cs with
    | '-' :: rest => (true, rest)
    | _ => (false, cs)
  match scanWhole body with
  | none => .error (.at .value cs.length)
  | some (whole, rest) =>
    let (fraction, rest) := scanFraction rest
    let value := Text.ofDigits ((whole ++ fraction).filterMap Text.asciiDigit?)
    match scanExponent rest, fraction with
    | some (e, rest), _ =>
      .ok (.real (.ofDecimal negative value (e - fraction.length)), rest)
    | none, [] =>
      if whole.length ≤ Text.digitLimit then .ok (.int (Text.signed negative value), rest)
      else .error (.tooManyDigits whole.length)
    | none, _ => .ok (.real (.ofDecimal negative value (-(fraction.length : Int))), rest)

/-! ## Values -/

/-- A constant that is written out in full. -/
def scanConstant : List Char → Option (Json × List Char)
  | 'n' :: 'u' :: 'l' :: 'l' :: rest => some (.null, rest)
  | 't' :: 'r' :: 'u' :: 'e' :: rest => some (.bool true, rest)
  | 'f' :: 'a' :: 'l' :: 's' :: 'e' :: rest => some (.bool false, rest)
  | 'N' :: 'a' :: 'N' :: rest => some (.real .nan, rest)
  | 'I' :: 'n' :: 'f' :: 'i' :: 'n' :: 'i' :: 't' :: 'y' :: rest =>
    some (.real (.infinite false), rest)
  | '-' :: 'I' :: 'n' :: 'f' :: 'i' :: 'n' :: 'i' :: 't' :: 'y' :: rest =>
    some (.real (.infinite true), rest)
  | _ => none

mutual

/-- One value inside at most `room` more levels.  Each step uses up one of `fuel`. -/
def scanValue (room : Nat) : Nat → List Char → Scan Json
  | 0, cs => .error (.at .value cs.length)
  | fuel + 1, cs =>
    match cs with
    | [] => .error (.at .value 0)
    | '"' :: rest => (scanText cs.length rest).map fun (s, more) => (.str s, more)
    | '[' :: rest =>
      if room = 0 then .error .tooDeep else
      match skipGap rest with
      | ']' :: more => .ok (.arr [], more)
      | more => (scanItems (room - 1) fuel more).map fun (vs, more) => (.arr vs, more)
    | '\x7b' :: rest =>
      if room = 0 then .error .tooDeep else
      match skipGap rest with
      | '\x7d' :: more => .ok (.obj [], more)
      | more =>
        (scanMembers (room - 1) fuel more).map fun (ps, more) => (.obj (members ps), more)
    | _ =>
      match scanConstant cs with
      | some found => .ok found
      | none => scanNumber cs

/-- The values of a list, from the first one to the closing bracket. -/
def scanItems (room : Nat) : Nat → List Char → Scan (List Json)
  | 0, cs => .error (.at .value cs.length)
  | fuel + 1, cs =>
    (scanValue room fuel cs).bind fun (v, rest) =>
      match skipGap rest with
      | ']' :: more => .ok ([v], more)
      | ',' :: more =>
        (scanItems room fuel (skipGap more)).map fun (vs, more) => (v :: vs, more)
      | more => .error (.at .comma more.length)

/-- The pairs of an object, from the first key to the closing brace. -/
def scanMembers (room : Nat) : Nat → List Char → Scan (List (String × Json))
  | 0, cs => .error (.at .value cs.length)
  | fuel + 1, cs =>
    match cs with
    | '"' :: rest =>
      (scanText cs.length rest).bind fun (k, rest) =>
        match skipGap rest with
        | ':' :: rest =>
          (scanValue room fuel (skipGap rest)).bind fun (v, rest) =>
            match skipGap rest with
            | '\x7d' :: more => .ok ([(k, v)], more)
            | ',' :: more =>
              (scanMembers room fuel (skipGap more)).map fun (ps, more) => ((k, v) :: ps, more)
            | more => .error (.at .comma more.length)
        | more => .error (.at .colon more.length)
    | _ => .error (.at .key cs.length)

end

/-! ## Documents -/

/-- Why a text is no document. -/
inductive SyntaxError where
  | at (problem : Problem) (offset : Nat)
  | tooManyDigits (count : Nat)
  | tooDeep
deriving DecidableEq, Repr

def Stop.toError (total : Nat) : Stop → SyntaxError
  | .at problem unread => .at problem (total - unread)
  | .tooManyDigits n => .tooManyDigits n
  | .tooDeep => .tooDeep

/-- Read a text that is one document with gaps around it; `levels` of lists and objects may
be open at once. -/
def parseChars (levels : Nat) (cs : List Char) : Except SyntaxError Json :=
  if cs.head? = some (Char.ofNat 0xfeff) then .error (.at .byteOrderMark 0)
  else
    let read := (scanValue levels (2 * cs.length + 2) (skipGap cs)).bind fun (v, rest) =>
      match skipGap rest with
      | [] => .ok v
      | more => .error (.at .extra more.length)
    read.mapError (Stop.toError cs.length)

def parse (levels : Nat) (s : String) : Except SyntaxError Json := parseChars levels s.toList

/-- The line and the column, both from one, of an offset. -/
def lineColumn (cs : List Char) (offset : Nat) : Nat × Nat :=
  let before := cs.take offset
  (before.count '\n' + 1, (before.reverse.takeWhile (· != '\n')).length + 1)

/-- A problem and where it is. -/
def Problem.message (problem : Problem) (cs : List Char) (offset : Nat) : String :=
  let (line, column) := lineColumn cs offset
  s!"{problem.text}: line {line} column {column} (char {offset})"

end LaneDuel.Json
