/-
# LaneDuel.Loose.Value -- reckoning with values of any type

The fields of a loose card or player hold whatever a document gives them.  What
is done with a field decides what it must be: adding needs a number on both
sides, comparing needs two numbers or two texts, and a value that is looked up
in a set must be neither a list nor an object.

* Truth values are the numbers one and nothing, so `same` finds `true` and 1 equal.
* An integer beyond the range of doubles cannot meet a double.
-/
import LaneDuel.Failure

namespace LaneDuel.Loose

set_option autoImplicit false

/-- The number that a value is. -/
def number? : Json → Option Number
  | .num n => some n
  | .bool b => some (.int (if b then 1 else 0))
  | _ => none

def number (v : Json) : Except Failure Number :=
  match number? v with
  | some n => .ok n
  | none => .error .wrongType

/-- A number that came out, unless it is beyond the range. -/
def inRange : Option Number → Except Failure Json
  | some n => .ok (.num n)
  | none => .error .outOfRange

/-- The sum of two numbers, or two texts or lists in a row. -/
def add : Json → Json → Except Failure Json
  | .str a, .str b => .ok (.str (a ++ b))
  | .arr a, .arr b => .ok (.arr (a ++ b))
  | a, b => do inRange ((← number a).add? (← number b))

/-- What a value becomes when another one is added to it: a list takes in whatever
can be gone through. -/
def increase (a b : Json) : Except Failure Json :=
  match a, b.elements? with
  | .arr xs, some ys => .ok (.arr (xs ++ ys))
  | .arr _, none => .error .wrongType
  | a, _ => add a b

def sub (a b : Json) : Except Failure Json := do inRange ((← number a).sub? (← number b))

/-! ## Comparing -/

mutual

/-- Whether two values are equal, numbers by their value. -/
def same : Json → Json → Bool
  | .null, .null => true
  | .str a, .str b => a == b
  | .arr as, .arr bs => sameItems as bs
  | .obj as, .obj bs => as.length == bs.length && sameMembers bs as
  | a, b =>
    match number? a, number? b with
    | some x, some y => x.equal y
    | _, _ => false

def sameItems : List Json → List Json → Bool
  | [], [] => true
  | a :: as, b :: bs => same a b && sameItems as bs
  | _, _ => false

/-- Whether every member is among some others. -/
def sameMembers (others : List (String × Json)) : List (String × Json) → Bool
  | [] => true
  | (k, v) :: rest =>
    (match Json.find? others k with
      | some w => same v w
      | none => false) && sameMembers others rest

end

/-- Whether a value comes before another one. -/
def less (a b : Json) : Except Failure Bool :=
  match a, b with
  | .str s, .str t => .ok (s < t)
  | a, b => do return (← number a).less (← number b)

def atMost (a b : Json) : Except Failure Bool := do return (← number a).atMost (← number b)

/-- The greater of two values, the first of equal ones. -/
def larger (a b : Json) : Except Failure Json := do
  if ← less a b then return b else return a

/-- The lesser of two values, the first of equal ones. -/
def smaller (a b : Json) : Except Failure Json := do
  if ← less b a then return b else return a

/-! ## Sets and counts -/

/-- Whether a value can be looked up in a set. -/
def isKey : Json → Bool
  | .arr _ | .obj _ => false
  | _ => true

/-- Whether a value is in a set. -/
def isAmong (set : List Json) (v : Json) : Except Failure Bool :=
  if isKey v then .ok (set.any (same v)) else .error .wrongType

/-- The set of what a value holds. -/
def asSet (v : Json) : Except Failure (List Json) :=
  match v.elements? with
  | some vs => if vs.all isKey then .ok vs else .error .wrongType
  | none => .error .wrongType

/-- An integer, where only an integer will do. -/
def integer : Json → Except Failure Int
  | .num (.int n) => .ok n
  | .bool b => .ok (if b then 1 else 0)
  | _ => .error .wrongType

end LaneDuel.Loose
