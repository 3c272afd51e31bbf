/-
# LaneDuel.Double -- numbers of double precision

A finite `Double` is a natural number below 2^53 times a power of two from -1074
to 971, with a sign that zero has too.  It is kept with an odd factor
(`Double.reduce`), so equal numbers of equal sign are equal values.  Beside them
are two infinities and what is no number at all.

* `Double.round` is the number nearest to a fraction, a half going to the even
  factor; beyond the range it is infinite.
* `Double.ofDecimal` reads digits and a power of ten.
* `Double.add` adds exactly and rounds once.
-/
import LaneDuel.Ratio

namespace LaneDuel

set_option autoImplicit false

inductive Double where
  /-- The factor times two to the power. -/
  | finite (negative : Bool) (factor : Nat) (power : Int)
  | infinite (negative : Bool)
  | nan
deriving DecidableEq, Repr, Inhabited

namespace Double

def zero (negative : Bool) : Double := finite negative 0 0

/-- How many binary digits a factor has at most. -/
def precision : Nat := 53

/-- The least power of two that a factor stands at. -/
def minPower : Int := -1074

/-- All numbers are below two to this power. -/
def maxPower : Int := 1024

/-- Move at most `fuel` factors of two into the power. -/
def dropTwos : Nat → Nat → Int → Nat × Int
  | 0, m, q => (m, q)
  | fuel + 1, m, q => if m % 2 = 0 then dropTwos fuel (m / 2) (q + 1) else (m, q)

/-- The number with its factor made odd; zero has the power zero. -/
def reduce (negative : Bool) (m : Nat) (q : Int) : Double :=
  if m = 0 then zero negative
  else
    let (m, q) := dropTwos (m.log2 + 1) m q
    finite negative m q

/-- The number nearest to a fraction. -/
def round (negative : Bool) (x : Ratio) : Double :=
  if x.num = 0 then zero negative
  else
    let q := max (x.leadTwo - (precision - 1 : Nat)) minPower
    let m := (x.shiftTwo (-q)).nearest
    if maxPower ≤ m.log2 + q then infinite negative else reduce negative m q

/-- The number nearest to `digits * 10 ^ exponent`.  Powers far outside the range
are not worked out. -/
def ofDecimal (negative : Bool) (digits : Nat) (exponent : Int) : Double :=
  let lead := (Nat.toDigits 10 digits).length + exponent
  if digits = 0 ∨ lead < -400 then zero negative
  else if 400 < lead then infinite negative
  else round negative ((Ratio.ofNat digits).shiftTen exponent)

/-- The number nearest to an integer. -/
def ofInt (n : Int) : Double := round (n < 0) (.ofNat n.natAbs)

/-! ## Values -/

def isZero : Double → Bool
  | finite _ 0 _ => true
  | _ => false

def isNegative : Double → Bool
  | finite negative _ _ | infinite negative => negative
  | nan => false

/-- The size of a finite number. -/
def size? : Double → Option Ratio
  | finite _ m q => some ((Ratio.ofNat m).shiftTwo q)
  | _ => none

/-- A finite number without its fraction. -/
def truncate? (x : Double) : Option Int :=
  x.size?.map fun s => if x.isNegative then -(s.floor : Int) else s.floor

/-- The integer that a number is equal to, if it is one. -/
def toInt? : Double → Option Int
  | finite negative m q =>
    if 0 ≤ q then
      let n : Int := m * Nat.pow 2 q.toNat
      some (if negative then -n else n)
    else none
  | _ => none

/-! ## Sums -/

/-- The factor, with its sign, at a lower power of two. -/
def factorAt (lower : Int) (negative : Bool) (m : Nat) (q : Int) : Int :=
  let n : Int := m * Nat.pow 2 (q - lower).toNat
  if negative then -n else n

def add : Double → Double → Double
  | finite s m q, finite t n r =>
    let lower := min q r
    let sum := factorAt lower s m q + factorAt lower t n r
    if sum = 0 then zero (s && t)
    else round (sum < 0) ((Ratio.ofNat sum.natAbs).shiftTwo lower)
  | infinite s, infinite t => if s = t then infinite s else nan
  | infinite s, finite .. | finite .., infinite s => infinite s
  | nan, _ | _, nan => nan

def neg : Double → Double
  | finite s m q => finite (!s) m q
  | infinite s => infinite (!s)
  | nan => nan

end Double

end LaneDuel
