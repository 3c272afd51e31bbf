/-
# LaneDuel.Text.Percent -- values put into a text in order

A percent sign in a format starts a directive: flags, a width, a precision and a
letter that says how the next value is written.  Every value must be used and
every directive must find one; two percent signs stand for one.

* `s` and `r` write any value, plainly or as a literal, and `a` as a literal in
  ASCII.
* `d`, `i` and `u` write a number without its fraction; `x`, `X` and `o` an
  integer in another base; `c` one character.
* `f`, `e` and `g` write a number with fixed places, in scientific form or with
  significant digits, six unless a precision is given.
-/
import LaneDuel.Text.Literal
import LaneDuel.Text.Places

namespace LaneDuel.Text

set_option autoImplicit false

/-- Why a format and its values do not go together. -/
inductive FormatFault where
  /-- The number or the type of the values is wrong. -/
  | mismatch
  /-- The format itself is wrong, or a value that has no number is asked for one. -/
  | malformed (message : String)
  /-- A number is outside the range that is asked for. -/
  | outOfRange
  /-- There is no room for a text of this length. -/
  | noRoom
deriving DecidableEq, Repr

/-- How a directive lays its value out. -/
structure Directive where
  left : Bool
  plus : Bool
  space : Bool
  zero : Bool
  alternate : Bool
  width : Nat
  precision : Option Nat

def Directive.bare : Directive := ⟨false, false, false, false, false, 0, none⟩

namespace Directive

def withFlag (d : Directive) : Char → Option Directive
  | '-' => some { d with left := true }
  | '+' => some { d with plus := true }
  | ' ' => some { d with space := true }
  | '0' => some { d with zero := true }
  | '#' => some { d with alternate := true }
  | _ => none

/-- Fill up to the width with spaces. -/
def pad (d : Directive) (s : String) : String :=
  let gap := String.ofList (List.replicate (d.width - s.length) ' ')
  if d.left then s ++ gap else gap ++ s

/-- A text, cut at the precision. -/
def layText (d : Directive) (s : String) : String :=
  match d.precision with
  | some p => d.pad (String.ofList (s.toList.take p))
  | none => d.pad s

/-- A number given by its sign, what stands before its digits, and its digits. -/
def layNumber (d : Directive) (negative : Bool) (lead digits : String) : String :=
  let sign := if negative then "-" else if d.plus then "+" else if d.space then " " else ""
  let digits := String.ofList (List.replicate (d.precision.getD 0 - digits.length) '0') ++ digits
  if d.zero && !d.left then
    let fixed := sign.length + lead.length + digits.length
    sign ++ lead ++ String.ofList (List.replicate (d.width - fixed) '0') ++ digits
  else d.pad (sign ++ lead ++ digits)

end Directive

/-- An integer; truth values are integers. -/
def integer? : Json → Option Int
  | .num (.int n) => some n
  | .bool b => some (if b then 1 else 0)
  | _ => none

def integer (v : Json) : Except FormatFault Int :=
  match integer? v with
  | some n => .ok n
  | none => .error .mismatch

/-- The integer part of a number. -/
def wholePart : Json → Except FormatFault Int
  | .num (.real .nan) => .error (.malformed "cannot convert float NaN to integer")
  | .num (.real x) =>
    match x.truncate? with
    | some n => .ok n
    | none => .error .outOfRange
  | v => integer v

/-- A number in double precision. -/
def double (v : Json) : Except FormatFault Double :=
  match v with
  | .num (.real x) => .ok x
  | v => do
    match (Number.int (← integer v)).toDouble? with
    | some x => .ok x
    | none => .error .outOfRange

/-- The longest text that is laid out. -/
def roomLimit : Nat := 10000000

/-- The most digits that a precision can ask of an integer. -/
def digitRoom : Nat := 2147483644

/-- A literal with escapes for everything outside ASCII. -/
def asciiLiteral (v : Json) : String :=
  String.join (v.literal.toList.map fun c =>
    if c.toNat < 0x80 then String.singleton c else escape c)

def inBase (base : Nat) (n : Int) : String := String.ofList (Nat.toDigits base n.natAbs)

/-- One value under the letter of a directive; `none` for an unknown letter. -/
def lay (d : Directive) (letter : Char) (v : Json) : Option (Except FormatFault String) :=
  let whole := fun (read : Except FormatFault Int) (base : Nat) (lead : String)
      (f : String → String) => do
    let n ← read
    if digitRoom < d.precision.getD 0 then throw .outOfRange
    if roomLimit < d.precision.getD 0 then throw .noRoom
    return d.layNumber (n < 0) (if d.alternate then lead else "") (f (inBase base n))
  let broken := fun (form : Ratio → Nat → Bool → String) (f : String → String) => do
    let x ← double v
    if roomLimit < d.precision.getD 0 then throw .noRoom
    let digits := match x with
      | .finite _ m q => form ((Ratio.ofNat m).shiftTwo q) (d.precision.getD 6) d.alternate
      | .infinite _ => "inf"
      | .nan => "nan"
    return { d with precision := none }.layNumber x.isNegative "" (f digits)
  match letter with
  | 's' => some (.ok (d.layText v.plain))
  | 'r' => some (.ok (d.layText v.literal))
  | 'a' => some (.ok (d.layText (asciiLiteral v)))
  | 'f' => some (broken fixed id)
  | 'F' => some (broken fixed String.toUpper)
  | 'e' => some (broken scientific id)
  | 'E' => some (broken scientific String.toUpper)
  | 'g' => some (broken general id)
  | 'G' => some (broken general String.toUpper)
  | 'd' | 'i' | 'u' => some (whole (wholePart v) 10 "" id)
  | 'x' => some (whole (integer v) 16 "0x" id)
  | 'X' => some (whole (integer v) 16 "0X" String.toUpper)
  | 'o' => some (whole (integer v) 8 "0o" id)
  | 'c' => some (match v with
    | .str s => if s.length = 1 then .ok (d.pad s) else .error .mismatch
    | v => do
      let n ← integer v
      if 0 ≤ n ∧ n < 0x110000 then .ok (d.pad (String.singleton (ofUnit n.toNat)))
      else .error .outOfRange)
  | _ => none

/-- What a width or a precision may be. -/
structure Extent where
  /-- How it is called. -/
  name : String
  /-- The greatest one; a value goes down to one less than its opposite. -/
  limit : Nat

def Extent.width : Extent := ⟨"width", 9223372036854775807⟩

def Extent.precision : Extent := ⟨"precision", 2147483647⟩

/-- A run of digits as a number, or the next value in place of a star. -/
def Extent.read (e : Extent) (cs : List Char) (values : List Json) :
    Except FormatFault (Option Int × List Char × List Json) :=
  match cs with
  | '*' :: rest =>
    match values with
    | v :: vs => do
      let n ← integer v
      if -(e.limit : Int) - 1 ≤ n ∧ n ≤ e.limit then .ok (some n, rest, vs)
      else .error .outOfRange
    | [] => .error .mismatch
  | _ =>
    match cs.takeWhile Char.isDigit with
    | [] => .ok (none, cs, values)
    | ds =>
      let n := ds.foldl (fun n c => 10 * n + (c.toNat - 48)) 0
      if n ≤ e.limit then .ok (some n, cs.dropWhile Char.isDigit, values)
      else .error (.malformed (e.name ++ " too big"))

/-- A letter for the length of a number may stand before the letter of the
directive and means nothing. -/
def skipLength : List Char → List Char
  | 'h' :: rest | 'l' :: rest | 'L' :: rest => rest
  | cs => cs

/-- The complaint about a letter that no directive has; letters outside ASCII are
not shown. -/
def unknownLetter (letter : Char) (index : Nat) : String :=
  let shown := if 31 ≤ letter.toNat ∧ letter.toNat < 127 then letter else '?'
  s!"unsupported format character '{shown}' (0x{hex 1 letter.toNat}) at index {index}"

def readFlags (d : Directive) : List Char → Directive × List Char
  | [] => (d, [])
  | c :: rest =>
    match d.withFlag c with
    | some d => readFlags d rest
    | none => (d, c :: rest)

/-- One directive after its percent sign: what it writes, the rest of the format
and the values left.  A negative width fills up on the right. -/
def readDirective (total : Nat) (cs : List Char) (values : List Json) :
    Except FormatFault (String × List Char × List Json) := do
  let (d, cs) := readFlags .bare cs
  let (width, cs, values) ← Extent.width.read cs values
  let (precision, cs, values) ← match cs with
    | '.' :: rest => do
      let (p, rest, values) ← Extent.precision.read rest values
      pure (some (p.getD 0).toNat, rest, values)
    | cs => pure (none, cs, values)
  let width := width.getD 0
  let d := { d with left := d.left || width < 0, width := width.natAbs, precision }
  match skipLength cs with
  | [] => .error (.malformed "incomplete format")
  | letter :: rest =>
    match values with
    | [] => .error .mismatch
    | v :: vs =>
      let tooWide := decide (roomLimit < d.width)
      match lay (if tooWide then { d with width := 0 } else d) letter v with
      | some written =>
        let written ← written
        if tooWide then .error .noRoom else return (written, rest, vs)
      | none => .error (.malformed (unknownLetter letter (total - rest.length - 1)))

/-- Go through a format; each directive uses up one of `fuel`. -/
def percentFrom (total : Nat) : Nat → List Char → List Json → Except FormatFault String
  | _, [], [] => .ok ""
  | _, [], _ :: _ => .error .mismatch
  | fuel, c :: cs, values =>
    if c != '%' then
      match fuel with
      | 0 => .error .mismatch
      | fuel + 1 => (percentFrom total fuel cs values).map (String.singleton c ++ ·)
    else
      match fuel, cs with
      | 0, _ => .error .mismatch
      | fuel + 1, '%' :: rest => (percentFrom total fuel rest values).map ("%" ++ ·)
      | _, '(' :: _ => .error .mismatch
      | fuel + 1, cs =>
        match readDirective total cs values with
        | .ok (s, rest, values) => (percentFrom total fuel rest values).map (s ++ ·)
        | .error f => .error f

/-- The format with its values put in. -/
def percent (format : String) (values : List Json) : Except FormatFault String :=
  let cs := format.toList
  percentFrom cs.length (cs.length + 1) cs values

end LaneDuel.Text
