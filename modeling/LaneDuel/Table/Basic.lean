/-
# LaneDuel.Table.Basic -- who has which cards where

A `Table` is one position of the game: two players with their lanes, building
slots and hands, three shared piles, and the signals that the turn loop reads.
It is generic in what stands for a number, for the signals and for a card.  A
`State` is a table of cards; while a chain of effects runs, a table of `Origin`s
says where each card of the start has moved, and the cards' own values are kept
beside it.

* A `Slot` is a place on one player's side; `Table.cardAt` looks into it.
* An `Origin` names a card by the place it had when the chain began.
-/
import LaneDuel.Card
import LaneDuel.Side

namespace LaneDuel

set_option autoImplicit false

universe u v

inductive Zone where
  | battlefield
  | buildings
  | hand
deriving DecidableEq, Repr

instance : Vocabulary Zone where
  members := [.battlefield, .buildings, .hand]
  word
    | .battlefield => "battlefield"
    | .buildings => "buildings"
    | .hand => "hand"

instance : LawfulVocabulary Zone where
  mem_members a := by cases a <;> decide
  word_inj a b := by cases a <;> cases b <;> decide

inductive Pile where
  | deck
  | miracleDeck
  | discardPile
deriving DecidableEq, Repr

instance : Vocabulary Pile where
  members := [.deck, .miracleDeck, .discardPile]
  word
    | .deck => "deck"
    | .miracleDeck => "miracle_deck"
    | .discardPile => "discard_pile"

instance : LawfulVocabulary Pile where
  mem_members a := by cases a <;> decide
  word_inj a b := by cases a <;> cases b <;> decide

/-- A place on one side.  For the hand the index counts its cards. -/
structure Slot where
  side : Side
  zone : Zone
  index : Nat
deriving DecidableEq, Repr

/-- The place a card had when a chain of effects began.  The acting card and the
target have places of their own when they came from outside the table. -/
inductive Origin where
  | slot (s : Slot)
  | pile (p : Pile) (index : Nat)
  | actor
  | target
deriving DecidableEq, Repr

/-- Lanes and building slots may be empty; a hand has no gaps. -/
structure Player (ν : Type) (α : Type u) where
  health : ν
  coins : ν
  battlefield : List (Option α)
  buildings : List (Option α)
  hand : List α
deriving DecidableEq, Repr

/-- What the turn loop keeps beside the cards.  The selected card is a copy. -/
structure Signals where
  turn : Int
  phase : String
  selected : Option Card
  skipToNextTurn : Bool
  immediateVictory : Option Side
deriving DecidableEq, Repr

/-- The first card of a deck is drawn next; the last of the discard pile was
discarded last. -/
structure Table (ν σ : Type) (α : Type u) where
  red : Player ν α
  blue : Player ν α
  deck : List α
  miracleDeck : List α
  discardPile : List α
  signals : σ
deriving DecidableEq, Repr

abbrev State := Table Int Signals Card

namespace Player

variable {ν : Type} {α : Type u} {β : Type v}

/-- The contents of a zone, gaps included. -/
def zone (p : Player ν α) : Zone → List (Option α)
  | .battlefield => p.battlefield
  | .buildings => p.buildings
  | .hand => p.hand.map some

/-- The cards on the lanes, in lane order. -/
def fieldCards (p : Player ν α) : List α := p.battlefield.filterMap id

/-- All cards of a player: lanes, buildings, hand. -/
def cards (p : Player ν α) : List α :=
  p.battlefield.filterMap id ++ p.buildings.filterMap id ++ p.hand

def map (f : α → β) (p : Player ν α) : Player ν β where
  health := p.health
  coins := p.coins
  battlefield := p.battlefield.map (Option.map f)
  buildings := p.buildings.map (Option.map f)
  hand := p.hand.map f

end Player

namespace Table

variable {ν σ : Type} {α : Type u} {β : Type v}

def player (t : Table ν σ α) : Side → Player ν α
  | .red => t.red
  | .blue => t.blue

def setPlayer (t : Table ν σ α) (s : Side) (p : Player ν α) : Table ν σ α :=
  match s with
  | .red => { t with red := p }
  | .blue => { t with blue := p }

def modifyPlayer (t : Table ν σ α) (s : Side) (f : Player ν α → Player ν α) : Table ν σ α :=
  t.setPlayer s (f (t.player s))

def pile (t : Table ν σ α) : Pile → List α
  | .deck => t.deck
  | .miracleDeck => t.miracleDeck
  | .discardPile => t.discardPile

def setPile (t : Table ν σ α) (p : Pile) (cards : List α) : Table ν σ α :=
  match p with
  | .deck => { t with deck := cards }
  | .miracleDeck => { t with miracleDeck := cards }
  | .discardPile => { t with discardPile := cards }

def map (f : α → β) (t : Table ν σ α) : Table ν σ β where
  red := t.red.map f
  blue := t.blue.map f
  deck := t.deck.map f
  miracleDeck := t.miracleDeck.map f
  discardPile := t.discardPile.map f
  signals := t.signals

/-- The cards on the lanes of the given sides. -/
def fieldCards (t : Table ν σ α) (sides : List Side) : List α :=
  sides.flatMap fun s => (t.player s).fieldCards

/-- Every card of every zone: red, blue, then the piles.  The selected card is a
copy and does not count. -/
def cards (t : Table ν σ α) : List α :=
  t.red.cards ++ t.blue.cards ++ t.deck ++ t.miracleDeck ++ t.discardPile

@[simp] theorem player_setPlayer_self (t : Table ν σ α) (s : Side) (p : Player ν α) :
    (t.setPlayer s p).player s = p := by cases s <;> rfl

theorem player_setPlayer_ne (t : Table ν σ α) {s s' : Side} (p : Player ν α) (h : s' ≠ s) :
    (t.setPlayer s p).player s' = t.player s' := by
  cases s <;> cases s' <;> first | rfl | exact absurd rfl h

end Table

/-- The number of lanes where nothing else is said. -/
def standardLanes : Nat := 4

/-- The health where nothing else is said. -/
def standardHealth : Int := 30

/-- The instance ids of all cards of a state. -/
def State.instanceIds (s : State) : List String := s.cards.map (·.instanceId)

end LaneDuel
