/-
# LaneDuel.Double.Shortest -- the fewest digits that name a number

A finite number is written with as few decimal digits as still read back as the
same number.  On the grid of `n` digits only the two neighbours of the number can
do so; the first grid with one that does is taken, and of two the nearer one (of
two equally near ones the even one).

* `Double.digits` are the digits, with the power of ten of the first one.
* `Double.text` writes them positionally while that power is from -4 to 15, and
  in scientific form with at least two digits of exponent outside that range.
-/
import LaneDuel.Double

namespace LaneDuel.Double

set_option autoImplicit false

/-- The neighbours of a size on the grid of a power of ten, the nearer one first
and of two equally near ones the even one. -/
def neighbours (x : Ratio) (grid : Int) : List Nat :=
  let y := x.shiftTen (-grid)
  if y.nearest = y.floor then [y.floor, y.floor + 1] else [y.floor + 1, y.floor]

/-- The nearest decimal of the first grid on which one reads back, as a factor and
a power of ten.  `fuel` bounds the grids that are tried, finer each time. -/
def shortestFrom (x : Ratio) (target : Double) : Nat → Int → Nat × Int
  | 0, grid => ((x.shiftTen (-grid)).nearest, grid)
  | fuel + 1, grid =>
    match (neighbours x grid).find? fun n => ofDecimal false n grid == target with
    | some n => (n, grid)
    | none => shortestFrom x target fuel (grid - 1)

/-- Seventeen digits name every number. -/
def maxDigits : Nat := 17

/-- Digits without the zeros at their end. -/
def withoutEndZeros (ds : List Char) : List Char := (ds.reverse.dropWhile (· == '0')).reverse

/-- The digits of a size that is not zero, and the power of ten of the first. -/
def digitsOf (m : Nat) (q : Int) : List Char × Int :=
  let x := (Ratio.ofNat m).shiftTwo q
  let (n, grid) := shortestFrom x (finite false m q) maxDigits x.leadTen
  let ds := Nat.toDigits 10 n
  (withoutEndZeros ds, (ds.length : Int) - 1 + grid)

/-- A power of ten with its sign and at least two digits. -/
def powerText (power : Int) : String :=
  let digits := toString power.natAbs
  (if power < 0 then "e-" else "e+") ++ if digits.length < 2 then "0" ++ digits else digits

/-- Digits laid out by the power of ten of the first one. -/
def layout (ds : List Char) (lead : Int) : String :=
  if lead < -4 ∨ 16 ≤ lead then
    let fraction := match ds.drop 1 with
      | [] => ""
      | rest => "." ++ String.ofList rest
    String.ofList (ds.take 1) ++ fraction ++ powerText lead
  else if lead < 0 then "0." ++ String.ofList (List.replicate (lead.natAbs - 1) '0' ++ ds)
  else
    let whole := lead.toNat + 1
    let filled := ds ++ List.replicate (whole - ds.length) '0'
    let fraction := match filled.drop whole with
      | [] => "0"
      | rest => String.ofList rest
    String.ofList (filled.take whole) ++ "." ++ fraction

/-- The sign of what is negative. -/
def signText (negative : Bool) : String := if negative then "-" else ""

/-- The text of a size. -/
def sizeText (m : Nat) (q : Int) : String :=
  if m = 0 then "0.0"
  else
    let (ds, lead) := digitsOf m q
    layout ds lead

/-- A number in the notation of messages. -/
def text : Double → String
  | finite negative m q => signText negative ++ sizeText m q
  | infinite negative => signText negative ++ "inf"
  | nan => "nan"

/-- A number in the notation of documents. -/
def documentText : Double → String
  | finite negative m q => signText negative ++ sizeText m q
  | infinite negative => signText negative ++ "Infinity"
  | nan => "NaN"

end LaneDuel.Double
