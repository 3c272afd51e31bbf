/-
# LaneDuel.Text.Integer -- integers written out

Two ways to read an integer.  Both allow white space around it and a sign.

* `readInt?` takes the decimal digits of any script, at most 4300 of them, with
  single underscores between digits.
* `readTolerantInt` takes ASCII digits.  Leading zeros, single underscores, and a
  point that zeros follow are left out, so that `007.00` is the integer 7.

The limit holds for writing as well: an integer of more digits is not `writable`.
-/
import LaneDuel.Text.Blank
import LaneDuel.Text.Digit

namespace LaneDuel.Text

set_option autoImplicit false

/-- The most digits a written integer may have. -/
def digitLimit : Nat := 4300

/-- Whether a number has at most so many digits. -/
def fitsDigits : Nat → Nat → Bool
  | 0, n => n == 0
  | k + 1, n => n == 0 || fitsDigits k (n / 10)

/-- Whether an integer has few enough digits to be written. -/
def writable (n : Int) : Bool := fitsDigits digitLimit n.natAbs

/-- The values of digits that single underscores may separate.  There is at
least one, and an underscore stands only between two digits. -/
def digitRun? (digit? : Char → Option Nat) : List Char → Option (List Nat)
  | [] => none
  | [c] => (digit? c).map ([·])
  | c :: '_' :: rest => do
    let d ← digit? c
    let ds ← digitRun? digit? rest
    return d :: ds
  | c :: rest => do
    let d ← digit? c
    let ds ← digitRun? digit? rest
    return d :: ds

/-- The number that digits name, most significant first. -/
def ofDigits (ds : List Nat) : Nat := ds.foldl (fun n d => 10 * n + d) 0

/-- Split a sign off; true means negative. -/
def splitSign : List Char → Bool × List Char
  | '-' :: rest => (true, rest)
  | '+' :: rest => (false, rest)
  | cs => (false, cs)

def signed (negative : Bool) (n : Nat) : Int := if negative then -(n : Int) else n

/-- An integer in the decimal digits of any script. -/
def readInt? (s : String) : Option Int :=
  let (negative, digits) := splitSign (trim s)
  match digitRun? decimalDigit? digits with
  | some ds => if ds.length ≤ digitLimit then some (signed negative (ofDigits ds)) else none
  | none => none

/-! ## Tolerant reading -/

/-- Why a text is no integer. -/
inductive IntegerFault where
  | unreadable
  | tooLong
deriving DecidableEq, Repr

/-- An integer with an optional minus sign and no leading zeros.  A number that
begins well and has too many characters is too long, whatever follows. -/
def readStrictInt (cs : List Char) : Except IntegerFault Int :=
  let (negative, digits) := match cs with
    | '-' :: rest => (true, rest)
    | _ => (false, cs)
  match digits with
  | [] => .error .unreadable
  | ['0'] => .ok 0
  | '0' :: _ => .error .unreadable
  | _ =>
    let run := digits.takeWhile Char.isDigit
    if run.isEmpty then .error .unreadable
    else if digitLimit < run.length + (if negative then 1 else 0) then .error .tooLong
    else if run.length = digits.length then
      .ok (signed negative (ofDigits (run.filterMap asciiDigit?)))
    else .error .unreadable

/-- What follows leading zeros and the underscores among them, with `last` the
character before: at least one character is left, and a zero before a point. -/
def skipZeros (last : Char) : List Char → Option (List Char)
  | [] => some [last]
  | '0' :: rest => skipZeros '0' rest
  | '_' :: rest => skipZeros '_' rest
  | '.' :: rest => some (last :: '.' :: rest)
  | c :: rest => if c.isDigit || c == '-' then some (c :: rest) else none

/-- A number without leading zeros. -/
def withoutLeadingZeros : List Char → Option (List Char)
  | '0' :: rest => skipZeros '0' rest
  | c :: rest => if c.isDigit || c == '-' then some (c :: rest) else none
  | [] => none

/-- The characters before a point that zeros and nothing else follow; all of them
otherwise. -/
def dropZeroFraction (cs : List Char) : List Char :=
  match cs.dropWhile (· != '.') with
  | _ :: '0' :: rest => if rest.all (· == '0') then cs.takeWhile (· != '.') else cs
  | _ => cs

/-- Whether every underscore has another character on both sides. -/
def underscoresSeparate : List Char → Bool
  | [] => false
  | ['_'] => false
  | '_' :: '_' :: _ => false
  | [_] => true
  | _ :: rest => underscoresSeparate rest

/-- Single underscores left out. -/
def withoutUnderscores (cs : List Char) : List Char :=
  if cs.head? != some '_' && underscoresSeparate cs then cs.filter (· != '_') else cs

/-- An integer as people write it, with white space around. -/
def readTolerantInt (s : String) : Except IntegerFault Int :=
  let cs := trim s
  match readStrictInt cs with
  | .ok n => .ok n
  | .error .tooLong => .error .tooLong
  | .error .unreadable =>
    let unsigned := match cs with
      | '+' :: rest => rest
      | _ => cs
    match (withoutLeadingZeros unsigned).map (withoutUnderscores ∘ dropZeroFraction) with
    | none => .error .unreadable
    | some cleaned =>
      match readStrictInt cleaned with
      | .ok n => .ok n
      | .error _ => .error .unreadable

end LaneDuel.Text
