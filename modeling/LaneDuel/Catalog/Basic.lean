/-
# LaneDuel.Catalog.Basic -- card numbers and their entries

A catalog holds one entry for each card number.  Reading the raw form goes pair
by pair in order: keys that begin with an underscore are remarks, every other key
is a card number in any spelling, and the first pair that is wrong ends it.
-/
import LaneDuel.Failure
import LaneDuel.Schema.CardEffect

namespace LaneDuel

set_option autoImplicit false

structure Catalog where
  entries : List (Int × CardEffect)

namespace Catalog

def empty : Catalog := ⟨[]⟩

/-- Put an entry in: in place where the number is known, at the end otherwise. -/
def insert : List (Int × CardEffect) → Int → CardEffect → List (Int × CardEffect)
  | [], id, e => [(id, e)]
  | (i, d) :: rest, id, e => if i = id then (i, e) :: rest else (i, d) :: insert rest id e

def register (c : Catalog) (id : Int) (e : CardEffect) : Catalog := ⟨insert c.entries id e⟩

def get? (c : Catalog) (id : Int) : Option CardEffect := c.entries.lookup id

def has (c : Catalog) (id : Int) : Bool := (c.get? id).isSome

def size (c : Catalog) : Nat := c.entries.length

/-- The numbers in ascending order. -/
def cardIds (c : Catalog) : List Int := (c.entries.map (·.1)).mergeSort (· ≤ ·)

/-- The numbers of the cards that act at a time. -/
def byTrigger (c : Catalog) (t : Trigger) : List Int :=
  c.cardIds.filter fun id => (c.get? id).map (·.trigger) == some t

/-! ## Reading -/

/-- The card number that a key spells; it is positive. -/
def readId (key : String) : Except Failure Int :=
  let message := "invalid card id: " ++ Text.quote key
  match Text.readInt? key with
  | none => .error (.game (.catalog message none none))
  | some id => if id ≤ 0 then .error (.game (.catalog message (some id) none)) else .ok id

def readEntry (id : Int) (v : Json) : Except Failure CardEffect :=
  match CardEffect.codec.read v with
  | .ok e => .ok e
  | .refused issues => .error (.misfitEntry id issues)
  | .untenable => .error .wrongType

def isRemark (key : String) : Bool := key.toList.head? == some '_'

/-- One pair of the raw form. -/
def addPair (c : Catalog) (pair : String × Json) : Except Failure Catalog :=
  if isRemark pair.1 then .ok c
  else do
    let id ← readId pair.1
    let e ← readEntry id pair.2
    return c.register id e

def ofMembers (ms : List (String × Json)) : Except Failure Catalog := ms.foldlM addPair empty

end Catalog

end LaneDuel
