/-
# LaneDuel.Loose.Catalog -- card numbers of any type

A card number may be asked for by any value that can be looked up: a number finds
the entry of an equal number, a text or null finds nothing in a checked catalog.

* `LaneDuel.Catalog.find` looks a value up in a checked catalog.
* A loose `Catalog` may also have been given entries under other values.  Its
  numbers can be listed only if they can be put in order.
* `Catalog.ofPairs` reads a checked catalog whose keys need not be texts.
-/
import LaneDuel.Catalog.Basic
import LaneDuel.Loose.Value

namespace LaneDuel

set_option autoImplicit false

/-- The entry under a value. -/
def Catalog.find (c : Catalog) (id : Json) : Except Failure (Option CardEffect) :=
  if Loose.isKey id then .ok (((Loose.number? id).bind Number.toInt?).bind c.get?)
  else .error .wrongType

namespace Loose

structure Catalog where
  entries : List (Json × CardEffect)

namespace Catalog

def ofChecked (c : LaneDuel.Catalog) : Catalog := ⟨c.entries.map fun (id, e) => (.int id, e)⟩

/-- Put an entry in; a known number stays as it was first written. -/
def insert : List (Json × CardEffect) → Json → CardEffect → List (Json × CardEffect)
  | [], id, e => [(id, e)]
  | (i, d) :: rest, id, e => if same i id then (i, e) :: rest else (i, d) :: insert rest id e

def register (c : Catalog) (id : Json) (e : CardEffect) : Except Failure Catalog :=
  if isKey id then .ok ⟨insert c.entries id e⟩ else .error .wrongType

def find (c : Catalog) (id : Json) : Except Failure (Option CardEffect) :=
  if isKey id then .ok ((c.entries.find? fun (i, _) => same i id).map (·.2))
  else .error .wrongType

def size (c : Catalog) : Nat := c.entries.length

/-- Put a value before the first one that comes after it. -/
def place (v : Json) : List Json → Except Failure (List Json)
  | [] => .ok [v]
  | w :: ws => do
    if ← less v w then return v :: w :: ws else return w :: (← place v ws)

/-- The numbers in ascending order. -/
def cardIds (c : Catalog) : Except Failure (List Json) :=
  (c.entries.map (·.1)).foldlM (fun sorted id => place id sorted) []

/-- The numbers of the cards that act at a time. -/
def byTrigger (c : Catalog) (t : Trigger) : Except Failure (List Json) := do
  (← c.cardIds).filterM fun id => do return (← c.find id).map (·.trigger) == some t

/-! ## Reading -/

/-- A catalog key that is no text, as an integer; fractions are cut off. -/
def truncated : Json → Except Failure (Option Int)
  | .bool b => .ok (some (if b then 1 else 0))
  | .num n =>
    match n.quotient?, n.compare? n with
    | some (numerator, denominator), _ => .ok (some (Int.tdiv numerator denominator))
    | none, some _ => .error .outOfRange
    | none, none => .ok none
  | _ => .error .wrongType

/-- The card number that a key stands for; it is positive. -/
def readId : Json → Except Failure Int
  | .str key => LaneDuel.Catalog.readId key
  | key => do
    let message := "invalid card id: " ++ key.literal
    match ← truncated key with
    | none => throw (.game (.catalog message none none))
    | some id => if id ≤ 0 then throw (.game (.catalog message (some id) none)) else return id

def isRemark : Json → Bool
  | .str key => LaneDuel.Catalog.isRemark key
  | _ => false

/-- One pair of the raw form. -/
def addPair (c : LaneDuel.Catalog) (pair : Json × Json) : Except Failure LaneDuel.Catalog :=
  if isRemark pair.1 then .ok c
  else do
    let id ← readId pair.1
    return c.register id (← LaneDuel.Catalog.readEntry id pair.2)

/-- Put a pair in; a known key keeps its place. -/
def setPair : List (Json × Json) → Json × Json → List (Json × Json)
  | [], pair => [pair]
  | (k, v) :: rest, pair =>
    if same k pair.1 then (k, pair.2) :: rest else (k, v) :: setPair rest pair

def ofPairs (pairs : List (Json × Json)) : Except Failure LaneDuel.Catalog :=
  if pairs.all fun (k, _) => isKey k then (pairs.foldl setPair []).foldlM addPair .empty
  else .error .wrongType

end Catalog

end Loose

end LaneDuel
