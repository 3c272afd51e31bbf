/-
# LaneDuel.Loose.Look -- looking into a loose state

Searching goes zone by zone in the order asked for, in each zone red before blue,
and in each list from the front.  Empty places are passed over; a value that is
no card has no instance id and ends the search.

* `State.locate` is the first place of a card with an instance id.
* `State.originOf?` looks through all of red, all of blue, then the piles.
-/
import LaneDuel.Loose.State

namespace LaneDuel.Loose

set_option autoImplicit false

/-- The card of an item that is not empty. -/
def Item.occupant? : Item → Except Failure (Option Card)
  | .card c => .ok (some c)
  | .value v => if v.isNull then .ok none else .error .noFields

namespace Row

/-- The index of the first card with an instance id, counted from `start`. -/
def findFrom (id : Json) : Nat → List Item → Except Failure (Option Nat)
  | _, [] => .ok none
  | start, item :: rest => do
    match ← item.occupant? with
    | some c => if same c.instanceId id then return some start else findFrom id (start + 1) rest
    | none => findFrom id (start + 1) rest

def find (r : Row) (id : Json) : Except Failure (Option Nat) := do
  findFrom id 0 (← r.contents)

/-- The item at an index; none outside the list. -/
def at? (r : Row) (index : Json) : Except Failure (Option Item) := do
  let length ← match r with
    | items xs => .ok xs.length
    | value v =>
      match v.elements? with
      | some vs => .ok vs.length
      | none => .error .wrongType
  if !(← atMost (.int 0) index) || !(← less index (.nat length)) then return none
  else return (← r.contents)[(← integer index).toNat]?

/-- The cards that lie there. -/
def occupants (r : Row) : Except Failure (List Card) := do
  return (← (← r.contents).mapM Item.occupant?).filterMap id

end Row

/-- The first success of a search through a list. -/
def firstOf {α β : Type} (search : α → Except Failure (Option β)) :
    List α → Except Failure (Option β)
  | [] => .ok none
  | a :: as => do
    match ← search a with
    | some b => return some b
    | none => firstOf search as

namespace State

/-- The first place of a card with an instance id in some zones. -/
def locate (s : State) (id : Json) (zones : List Zone) : Except Failure (Option Slot) :=
  firstOf (fun zone => firstOf (fun side => do
    return (← ((s.player side).zone zone).find id).map fun i => ⟨side, zone, i⟩) Side.both) zones

def itemAt (s : State) (side : Side) (zone : Zone) (index : Json) : Except Failure (Option Item) :=
  ((s.player side).zone zone).at? index

/-- The first card with an instance id in some zones. -/
def findCard (s : State) (id : Json) (zones : List Zone) : Except Failure (Option Card) := do
  match ← s.locate id zones with
  | some slot =>
    match ← s.itemAt slot.side slot.zone (.nat slot.index) with
    | some item => item.occupant?
    | none => return none
  | none => return none

/-- The cards on the lanes of the given sides. -/
def fieldCards (s : State) (sides : List Side) : Except Failure (List Card) := do
  return (← sides.mapM fun side => (s.player side).battlefield.occupants).flatten

/-- Every card of every zone: red, blue, then the piles. -/
def allCards (s : State) : Except Failure (List Card) := do
  let ofPlayers ← Side.both.mapM fun side => do
    let p := s.player side
    return (← p.battlefield.occupants) ++ (← p.buildings.occupants) ++ (← p.hand.cards)
  return ofPlayers.flatten ++ s.deck ++ s.miracleDeck ++ s.discardPile

/-- Where the first card with an instance id lies, going through all of red, then
all of blue, then the piles. -/
def originOf? (s : State) (id : String) : Except Failure (Option Origin) := do
  let onSide ← firstOf (fun side => firstOf (fun zone => do
    return (← ((s.player side).zone zone).find (.str id)).map fun i =>
      Origin.slot ⟨side, zone, i⟩) [Zone.battlefield, .buildings, .hand]) Side.both
  match onSide with
  | some o => return some o
  | none => return [Pile.deck, .miracleDeck, .discardPile].findSome? fun pile =>
      ((s.pile pile).findIdx? fun c => same c.instanceId (.str id)).map (Origin.pile pile ·)

/-- The card that lies at an origin in the state. -/
def cardOf? (s : State) : Origin → Option Card
  | .slot slot =>
    match (s.player slot.side).zone slot.zone with
    | .items xs =>
      match xs[slot.index]? with
      | some (.card c) => some c
      | _ => none
    | .value _ => none
  | .pile p i => (s.pile p)[i]?
  | .actor | .target => none

end State

end LaneDuel.Loose
