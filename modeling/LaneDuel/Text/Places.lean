/-
# LaneDuel.Text.Places -- fractions with a chosen number of digits

A fraction is rounded to the nearest one that has the digits asked for, and a
half goes to the even neighbour.  Its size is a `Ratio`; the sign is for the
caller.  What is rounded is the exact size, so the double nearest to 2.675, which
is a little less, is 2.67 with two places.

* `fixed` writes so many digits after the point.
* `scientific` writes one digit before the point and a power of ten.
* `general` writes so many significant digits, positionally where the power of
  ten is small, and drops zeros at the end.
-/
import LaneDuel.Double.Shortest

namespace LaneDuel.Text

set_option autoImplicit false

/-- Put a point after the first `whole` digits.  A point that nothing follows is
only kept if asked for. -/
def pointed (whole : Nat) (digits : List Char) (keepPoint : Bool) : String :=
  let fraction := digits.drop whole
  String.ofList (digits.take whole)
    ++ if fraction.isEmpty && !keepPoint then "" else "." ++ String.ofList fraction

/-- With `places` digits after the point. -/
def fixed (x : Ratio) (places : Nat) (keepPoint : Bool) : String :=
  let exact := x.usefulPlaces places
  let digits := Nat.toDigits 10 (x.shiftTen exact).nearest
  let digits := List.replicate (exact + 1 - digits.length) '0' ++ digits
  pointed (digits.length - exact) (digits ++ List.replicate (places - exact) '0') keepPoint

/-- The power of ten of the first digit and `count` significant digits.  Rounding
up to the next power of ten makes one digit more, a zero. -/
def significant (x : Ratio) (count : Nat) : Int × List Char :=
  if x.num = 0 then (0, List.replicate count '0')
  else
    let exact := min count (x.usefulPlaces (count - 1 - x.leadTen).toNat + 1 + x.leadTen).toNat
    let exact := max exact 1
    let digits := Nat.toDigits 10 (x.shiftTen (exact - 1 - x.leadTen)).nearest
    (x.leadTen + (digits.length - exact),
      digits.take exact ++ List.replicate (count - exact) '0')

/-- One digit before the point and `places` after it. -/
def scientific (x : Ratio) (places : Nat) (keepPoint : Bool) : String :=
  let (lead, digits) := significant x (places + 1)
  pointed 1 digits keepPoint ++ Double.powerText lead

/-- Drop the zeros after the last other digit, but none of the first `whole`. -/
def withoutZeros (whole : Nat) (digits : List Char) : List Char :=
  digits.take whole ++ ((digits.drop whole).reverse.dropWhile (· == '0')).reverse

/-- With `count` significant digits; zeros at the end are kept with the point. -/
def general (x : Ratio) (count : Nat) (keepPoint : Bool) : String :=
  let count := max count 1
  let (lead, digits) := significant x count
  let shown := fun whole digits =>
    pointed whole (if keepPoint then digits else withoutZeros whole digits) keepPoint
  if -4 ≤ lead ∧ lead < count then
    if lead < 0 then shown 1 (List.replicate lead.natAbs '0' ++ digits)
    else shown (lead.toNat + 1) digits
  else shown 1 digits ++ Double.powerText lead

end LaneDuel.Text
