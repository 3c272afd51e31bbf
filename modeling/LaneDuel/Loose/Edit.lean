/-
# LaneDuel.Loose.Edit -- what the turn loop does to a state

Between two plays the turn loop puts cards down, hands cards out and sets fields.
Nothing it sets is checked; a later copy or document of the state may fail for it.
Of several fields those before the first unknown one are set.
-/
import LaneDuel.Loose.Look

namespace LaneDuel.Loose

set_option autoImplicit false

/-- The position that an index names; a negative one counts from the end. -/
def position? (index : Int) (length : Nat) : Option Nat :=
  let i := if index < 0 then index + length else index
  if 0 ≤ i ∧ i < length then some i.toNat else none

namespace Row

/-- Put an item into the place that an index names. -/
def putAt (r : Row) (index : Json) (item : Item) : Except Failure Row :=
  match r with
  | .items xs => do
    match position? (← integer index) xs.length with
    | some i => return .items (xs.set i item)
    | none => throw .noSuchIndex
  | .value _ => .error .wrongType

def push (r : Row) (c : Card) : Except Failure Row :=
  match r with
  | .items xs => .ok (.items (xs ++ [.card c]))
  | .value _ => .error .noFields

end Row

/-- Set a field by its name.  A player takes any other name without a trace. -/
def Player.set (p : Player) (key : String) (v : Json) : Player :=
  match key with
  | "health" => { p with health := v }
  | "coins" => { p with coins := v }
  | "battlefield" => { p with battlefield := .ofJson v }
  | "buildings" => { p with buildings := .ofJson v }
  | "hand" => { p with hand := .ofJson v }
  | _ => p

namespace State

/-- Put a card, or nothing, into a place. -/
def putAt (s : State) (side : Side) (zone : Zone) (index : Json) (card : Option Card) :
    Except Failure State := do
  let p := s.player side
  let item := (card.map Item.card).getD (.value .null)
  return s.setPlayer side (p.setZone zone (← (p.zone zone).putAt index item))

/-- Add a card to the end of a hand. -/
def pushHand (s : State) (side : Side) (card : Card) : Except Failure State := do
  let p := s.player side
  return s.setPlayer side { p with hand := ← p.hand.push card }

/-- Add a card to the end of a pile. -/
def pushPile (s : State) (pile : Pile) (card : Card) : State :=
  s.setPile pile (s.pile pile ++ [card])

/-- Set a player's fields in order. -/
def editPlayer (s : State) (side : Side) (fields : List (String × Json)) : State :=
  s.setPlayer side (fields.foldl (fun p (k, v) => p.set k v) (s.player side))

/-- Replace the card at an origin. -/
def setCard (s : State) (o : Origin) (c : Card) : State :=
  match o with
  | .slot slot =>
    let p := s.player slot.side
    match p.zone slot.zone with
    | .items xs =>
      s.setPlayer slot.side (p.setZone slot.zone (.items (xs.set slot.index (.card c))))
    | .value _ => s
  | .pile p i => s.setPile p ((s.pile p).set i c)
  | .actor | .target => s

/-- Set a card's fields in order; also answers why this ended early, if it did. -/
def setFields (c : Card) : List (String × Json) → Card × Option Failure
  | [] => (c, none)
  | (k, v) :: rest =>
    match c.set k v with
    | .ok c => setFields c rest
    | .error f => (c, some f)

/-- Set the fields of the card at an origin. -/
def editCard (s : State) (o : Origin) (fields : List (String × Json)) : State × Option Failure :=
  match s.cardOf? o with
  | some c =>
    let (c, failed) := setFields c fields
    (s.setCard o c, failed)
  | none => (s, some .noSuchName)

end State

end LaneDuel.Loose
