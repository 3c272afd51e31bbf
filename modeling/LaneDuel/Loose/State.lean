/-
# LaneDuel.Loose.State -- states as documents give them

A loose state has the shape of a state with values of any type.  The turn loop may
put anything in the place of a zone, so a zone is a `Row`: cards and other values
in a list, or something that is no list.

* `State.ofJson` and `State.toJson` read and write documents.  Lanes that are
  missing or falsy are four empty lanes, and a falsy lane is an empty lane.  A hand
  or a pile may be missing but not null.  Both players must be there and no third
  one may be.
* `State.board` copies a state to play on: a table of cards, on which every zone
  is in order.  `State.ofBoard` is the way back.
* `Board.check?` is the checked state that a board is, if it is one.
-/
import LaneDuel.Loose.Card
import LaneDuel.Table.Locate

namespace LaneDuel.Loose

set_option autoImplicit false

/-- What lies in one place of a zone; null is nothing. -/
inductive Item where
  | card (c : Card)
  | value (v : Json)
deriving DecidableEq, Repr

inductive Row where
  | items (items : List Item)
  /-- What is no list. -/
  | value (v : Json)
deriving DecidableEq, Repr

structure Player where
  health : Json
  coins : Json
  battlefield : Row
  buildings : Row
  hand : Row
deriving DecidableEq, Repr

structure Signals where
  turn : Json
  phase : Json
  selected : Option Card
  skipToNextTurn : Json
  immediateVictory : Option Side
deriving DecidableEq, Repr

structure State where
  red : Player
  blue : Player
  deck : List Card
  miracleDeck : List Card
  discardPile : List Card
  signals : Signals
deriving DecidableEq, Repr

/-- A loose state in which every zone is in order. -/
abbrev Board := Table Json Signals Card

namespace Item

def isEmpty : Item → Bool
  | card _ => false
  | value v => v.isNull

/-- A field of the card; other values have no fields. -/
def asCard : Item → Except Failure Card
  | card c => .ok c
  | value _ => .error .noFields

/-- The card on a lane; a falsy value is an empty lane. -/
def asLane : Item → Except Failure (Option Card)
  | card c => .ok (some c)
  | value v => if v.truthy then .error .noFields else .ok none

end Item

namespace Row

def ofLanes (lanes : List (Option Card)) : Row :=
  items (lanes.map fun lane => (lane.map Item.card).getD (.value .null))

def ofCards (cards : List Card) : Row := items (cards.map .card)

/-- What the turn loop sets a zone to. -/
def ofJson : Json → Row
  | .arr vs => items (vs.map .value)
  | v => value v

/-- What a row holds when it is gone through. -/
def contents : Row → Except Failure (List Item)
  | items xs => .ok xs
  | value v =>
    match v.elements? with
    | some vs => .ok (vs.map .value)
    | none => .error .wrongType

def lanes (r : Row) : Except Failure (List (Option Card)) := do (← r.contents).mapM Item.asLane

def cards (r : Row) : Except Failure (List Card) := do (← r.contents).mapM Item.asCard

end Row

/-! ## Players -/

/-- A card, or null where there is none. -/
def cardOrNull : Option Card → Except Failure Json
  | some c => c.toJson
  | none => .ok .null

def lanesToJson (lanes : List (Option Card)) : Except Failure Json :=
  (lanes.mapM cardOrNull).map .arr

def cardsToJson (cards : List Card) : Except Failure Json := (cards.mapM Card.toJson).map .arr

namespace Player

def zone (p : Player) : Zone → Row
  | .battlefield => p.battlefield
  | .buildings => p.buildings
  | .hand => p.hand

def setZone (p : Player) (z : Zone) (r : Row) : Player :=
  match z with
  | .battlefield => { p with battlefield := r }
  | .buildings => { p with buildings := r }
  | .hand => { p with hand := r }

def readLanes (ms : List (String × Json)) (key : String) : Except Failure Row :=
  match Json.find? ms key with
  | none => .ok (.ofLanes (List.replicate standardLanes none))
  | some v =>
    if v.truthy then
      match v.elements? with
      | some vs => do
        return .ofLanes (← vs.mapM fun v => if v.truthy then (Card.ofJson v).map some else .ok none)
      | none => .error .wrongType
    else .ok (.ofLanes (List.replicate standardLanes none))

/-- The cards of a field; a field left out has none. -/
def readCards (ms : List (String × Json)) (key : String) : Except Failure (List Card) :=
  match Json.find? ms key with
  | none => .ok []
  | some v =>
    match v.elements? with
    | some vs => vs.mapM Card.ofJson
    | none => .error .wrongType

def ofJson (v : Json) : Except Failure Player := do
  let .obj ms := v | .error .noFields
  return {
    health := (Json.find? ms "health").getD (.int standardHealth)
    coins := (Json.find? ms "coins").getD (.int 0)
    battlefield := ← readLanes ms "battlefield"
    buildings := ← readLanes ms "buildings"
    hand := .ofCards (← readCards ms "hand") }

def toJson (p : Player) : Except Failure Json := do
  return .obj [
    ("health", p.health),
    ("coins", p.coins),
    ("battlefield", ← lanesToJson (← p.battlefield.lanes)),
    ("buildings", ← lanesToJson (← p.buildings.lanes)),
    ("hand", ← cardsToJson (← p.hand.cards))]

/-- A player with empty lanes and no cards. -/
def start (lanes : Nat) (health : Json) : Player where
  health := health
  coins := .int 0
  battlefield := .ofLanes (List.replicate lanes none)
  buildings := .ofLanes (List.replicate lanes none)
  hand := .ofCards []

def board (p : Player) : Except Failure (LaneDuel.Player Json Card) := do
  let copyLane := fun (lane : Item) => do
    match ← lane.asLane with
    | some c => return some (← c.copy)
    | none => return none
  return {
    health := p.health
    coins := p.coins
    battlefield := ← (← p.battlefield.contents).mapM copyLane
    buildings := ← (← p.buildings.contents).mapM copyLane
    hand := ← (← p.hand.contents).mapM fun item => do (← item.asCard).copy }

def ofBoard (p : LaneDuel.Player Json Card) : Player where
  health := p.health
  coins := p.coins
  battlefield := .ofLanes p.battlefield
  buildings := .ofLanes p.buildings
  hand := .ofCards p.hand

end Player

/-! ## States -/

namespace State

def player (s : State) : Side → Player
  | .red => s.red
  | .blue => s.blue

def setPlayer (s : State) (side : Side) (p : Player) : State :=
  match side with
  | .red => { s with red := p }
  | .blue => { s with blue := p }

def pile (s : State) : Pile → List Card
  | .deck => s.deck
  | .miracleDeck => s.miracleDeck
  | .discardPile => s.discardPile

def setPile (s : State) (p : Pile) (cards : List Card) : State :=
  match p with
  | .deck => { s with deck := cards }
  | .miracleDeck => { s with miracleDeck := cards }
  | .discardPile => { s with discardPile := cards }

/-- A member of the players: its name is the word of a side, and is read first. -/
def readMember (name : String) (v : Json) : Except Failure (Side × Player) :=
  match (Vocabulary.read? name : Option Side) with
  | some side => (Player.ofJson v).map fun p => (side, p)
  | none =>
    .error (.game (.invalidState (Failure.notMember "Side" (.str name)).valueText? "players"))

/-- Both players.  Their members are read in the order of the document; that one of them
is missing is found out afterwards. -/
def readPlayers (v : Json) : Except Failure (Player × Player) := do
  let .obj members := v | .error .noFields
  let players ← members.mapM fun m => readMember m.1 m.2
  match players.lookup .red, players.lookup .blue with
  | some red, some blue => .ok (red, blue)
  | _, _ => .error (.game (.invalidState none "players"))

/-- A side, or none where the value is falsy. -/
def readVictory (v : Json) : Except Failure (Option Side) :=
  if v.truthy then (Vocabulary.ofJson "Side" v).map some else .ok none

def readSelected (v : Json) : Except Failure (Option Card) :=
  if v.truthy then (Card.ofJson v).map some else .ok none

def ofJson (v : Json) : Except Failure State := do
  let .obj ms := v | .error .wrongType
  let some players := Json.find? ms "players"
    | .error (.game (.invalidState (some (Text.quote "players")) "players"))
  let (red, blue) ← readPlayers players
  let field := fun key absent => (Json.find? ms key).getD absent
  return {
    red, blue
    deck := ← Player.readCards ms "deck"
    miracleDeck := ← Player.readCards ms "miracle_deck"
    discardPile := ← Player.readCards ms "discard_pile"
    signals := {
      turn := field "turn" (.int 1)
      phase := field "phase" (.str "idle")
      selected := ← readSelected (field "selected_card" .null)
      skipToNextTurn := field "skip_to_next_turn" (.bool false)
      immediateVictory := ← readVictory (field "immediate_victory" .null) } }

def toJson (s : State) : Except Failure Json := do
  return .obj [
    ("players", .obj [("red", ← s.red.toJson), ("blue", ← s.blue.toJson)]),
    ("deck", ← cardsToJson s.deck),
    ("miracle_deck", ← cardsToJson s.miracleDeck),
    ("discard_pile", ← cardsToJson s.discardPile),
    ("turn", s.signals.turn),
    ("phase", s.signals.phase),
    ("selected_card", ← cardOrNull s.signals.selected),
    ("skip_to_next_turn", s.signals.skipToNextTurn),
    ("immediate_victory",
      Json.ofOption (fun v => .str (Vocabulary.word v)) s.signals.immediateVictory)]

/-- Two empty players and empty piles. -/
def start (lanes : Nat) (health : Json) : State where
  red := .start lanes health
  blue := .start lanes health
  deck := []
  miracleDeck := []
  discardPile := []
  signals := ⟨.int 1, .str "idle", none, .bool false, none⟩

/-- A copy to play on. -/
def board (s : State) : Except Failure Board := do
  return {
    red := ← s.red.board
    blue := ← s.blue.board
    deck := ← s.deck.mapM Card.copy
    miracleDeck := ← s.miracleDeck.mapM Card.copy
    discardPile := ← s.discardPile.mapM Card.copy
    signals := { s.signals with selected := ← s.signals.selected.mapM Card.copy } }

def ofBoard (b : Board) : State where
  red := .ofBoard b.red
  blue := .ofBoard b.blue
  deck := b.deck
  miracleDeck := b.miracleDeck
  discardPile := b.discardPile
  signals := b.signals

end State

/-! ## Checked states -/

namespace Board

def checkPlayer? (p : LaneDuel.Player Json Card) : Option (LaneDuel.Player Int LaneDuel.Card) :=
  match p.health, p.coins with
  | .num (.int health), .num (.int coins) => do
    return {
      health, coins
      battlefield := ← p.battlefield.mapM (·.mapM Card.check?)
      buildings := ← p.buildings.mapM (·.mapM Card.check?)
      hand := ← p.hand.mapM Card.check? }
  | _, _ => none

def checkSignals? (s : Signals) : Option LaneDuel.Signals :=
  match s.turn, s.phase, s.skipToNextTurn with
  | .num (.int turn), .str phase, .bool skip => do
    return {
      turn, phase
      selected := ← s.selected.mapM Card.check?
      skipToNextTurn := skip
      immediateVictory := s.immediateVictory }
  | _, _, _ => none

def check? (b : Board) : Option LaneDuel.State := do
  return {
    red := ← checkPlayer? b.red
    blue := ← checkPlayer? b.blue
    deck := ← b.deck.mapM Card.check?
    miracleDeck := ← b.miracleDeck.mapM Card.check?
    discardPile := ← b.discardPile.mapM Card.check?
    signals := ← checkSignals? b.signals }

def ofCheckedPlayer (p : LaneDuel.Player Int LaneDuel.Card) : LaneDuel.Player Json Card :=
  let q := p.map Card.ofChecked
  ⟨.int q.health, .int q.coins, q.battlefield, q.buildings, q.hand⟩

def ofCheckedSignals (s : LaneDuel.Signals) : Signals where
  turn := .int s.turn
  phase := .str s.phase
  selected := s.selected.map Card.ofChecked
  skipToNextTurn := .bool s.skipToNextTurn
  immediateVictory := s.immediateVictory

def ofChecked (s : LaneDuel.State) : Board where
  red := ofCheckedPlayer s.red
  blue := ofCheckedPlayer s.blue
  deck := s.deck.map Card.ofChecked
  miracleDeck := s.miracleDeck.map Card.ofChecked
  discardPile := s.discardPile.map Card.ofChecked
  signals := ofCheckedSignals s.signals

end Board

/-- A checked state as a loose one. -/
def State.ofChecked (s : LaneDuel.State) : State := .ofBoard (.ofChecked s)

/-- The checked state that a state is, if it is one. -/
def State.check? (s : State) : Option LaneDuel.State := s.board.toOption.bind Board.check?

end LaneDuel.Loose
