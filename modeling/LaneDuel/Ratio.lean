/-
# LaneDuel.Ratio -- sizes of fractions

A `Ratio` is the size of a fraction, a quotient of two natural numbers whose
divisor is not zero.  Signs are for whoever writes the number down.

* `shiftTen` and `shiftTwo` move it along the powers of ten and of two.
* `leadTen` and `leadTwo` say which power its first digit stands for.
* `nearest` is the nearest natural number; a half goes to the even neighbour.
-/

namespace LaneDuel

set_option autoImplicit false

/-- The size of a fraction, `num / den`. -/
structure Ratio where
  num : Nat
  den : Nat
deriving DecidableEq, Repr

namespace Ratio

def ofNat (n : Nat) : Ratio := ⟨n, 1⟩

/-- The fraction times a power of a base. -/
def shift (base : Nat) (x : Ratio) (e : Int) : Ratio :=
  if 0 ≤ e then ⟨x.num * Nat.pow base e.toNat, x.den⟩
  else ⟨x.num, x.den * Nat.pow base e.natAbs⟩

/-- The fraction times a power of ten. -/
def shiftTen (x : Ratio) (e : Int) : Ratio := x.shift 10 e

/-- The fraction times a power of two. -/
def shiftTwo (x : Ratio) (e : Int) : Ratio := x.shift 2 e

/-- The greatest natural number that is not above the fraction. -/
def floor (x : Ratio) : Nat := x.num / x.den

/-- The nearest natural number; a half goes to the even neighbour. -/
def nearest (x : Ratio) : Nat :=
  let rest := 2 * (x.num % x.den)
  if rest < x.den ∨ (rest = x.den ∧ x.floor % 2 = 0) then x.floor else x.floor + 1

/-- One less than a guess that is too high. -/
def settleLead (base : Nat) (x : Ratio) (guess : Int) : Int :=
  let y := x.shift base (-guess)
  if y.den ≤ y.num then guess else guess - 1

/-- The power of ten of the first digit of a fraction that is not zero. -/
def leadTen (x : Ratio) : Int :=
  x.settleLead 10 ((Nat.toDigits 10 x.num).length - (Nat.toDigits 10 x.den).length)

/-- So many decimal places, or fewer if fewer write the fraction exactly: where the
divisor is a power of two, its exponent is enough. -/
def usefulPlaces (x : Ratio) (places : Nat) : Nat :=
  if x.den = Nat.pow 2 x.den.log2 then min places x.den.log2 else places

/-- The power of two of the first binary digit of a fraction that is not zero. -/
def leadTwo (x : Ratio) : Int := x.settleLead 2 (x.num.log2 - x.den.log2)

end Ratio

end LaneDuel
