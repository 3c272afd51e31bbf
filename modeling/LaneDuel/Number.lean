/-
# LaneDuel.Number -- integers and numbers of double precision

A number in a document is an integer of any size, or a number of double precision
where it is written with a fraction or an exponent.  Comparing is exact also
between the two sorts; adding an integer to a double rounds the integer first.

* `Number.compare?` orders numbers; what is no number has no place in the order.
* `Number.add?` and `Number.sub?` fail where an integer is beyond all doubles.
-/
import LaneDuel.Double.Shortest

namespace LaneDuel

set_option autoImplicit false

/-- A number of a document: written plainly, or with a fraction or an exponent. -/
inductive Number where
  | int (n : Int)
  | real (x : Double)
deriving DecidableEq, Repr, Inhabited

namespace Number

/-- The notation of messages. -/
def text : Number → String
  | int n => toString n
  | real x => x.text

/-- The notation of documents. -/
def documentText : Number → String
  | int n => toString n
  | real x => x.documentText

/-- Zero in any form. -/
def isZero : Number → Bool
  | int n => n == 0
  | real x => x.isZero

/-- The integer that a number is equal to, if it is one. -/
def toInt? : Number → Option Int
  | int n => some n
  | real x => x.toInt?

/-! ## Order -/

/-- The exact value of a finite number, as a quotient. -/
def quotient? : Number → Option (Int × Nat)
  | int n => some (n, 1)
  | real x => x.size?.map fun s => (if x.isNegative then -(s.num : Int) else s.num, s.den)

/-- The place of a number among the infinities: below all, finite, or above all. -/
def region? : Number → Option Int
  | int _ | real (.finite ..) => some 0
  | real (.infinite negative) => some (if negative then -1 else 1)
  | real .nan => none

def compare? (a b : Number) : Option Ordering :=
  match a.quotient?, b.quotient? with
  | some (n, d), some (m, e) => some (compare (n * e) (m * d))
  | _, _ => do return compare (← a.region?) (← b.region?)

def equal (a b : Number) : Bool := a.compare? b == some .eq

def less (a b : Number) : Bool := a.compare? b == some .lt

def atMost (a b : Number) : Bool := a.less b || a.equal b

/-! ## Sums -/

/-- A number in double precision; none for an integer beyond the range. -/
def toDouble? : Number → Option Double
  | int n =>
    match Double.ofInt n with
    | .infinite _ => none
    | x => some x
  | real x => some x

def add? : Number → Number → Option Number
  | int a, int b => some (int (a + b))
  | a, b => do return real ((← a.toDouble?).add (← b.toDouble?))

def sub? : Number → Number → Option Number
  | int a, int b => some (int (a - b))
  | a, b => do return real ((← a.toDouble?).add (← b.toDouble?).neg)

@[simp] theorem add?_int (a b : Int) : add? (int a) (int b) = some (int (a + b)) := rfl

@[simp] theorem sub?_int (a b : Int) : sub? (int a) (int b) = some (int (a - b)) := rfl

end Number

end LaneDuel
