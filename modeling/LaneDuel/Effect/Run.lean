/-
# LaneDuel.Effect.Run -- a chain of effects under way

While a chain runs, cards are named by their origins.  The table says where each
of them is now, `Run.cards` what it is now, so moving a card and changing it are
independent: a move only touches the table, a change only touches the cards.  A
`Binding` keeps naming the acting card and the target wherever they have gone.

* `Run.enter` starts a run on a state, `Run.snapshot` is the state it has reached.
* `Run.edit` changes one card and tells what happened; `Run.visit` does so for a
  list of cards in order.
-/
import LaneDuel.Journal.Event
import LaneDuel.Random
import LaneDuel.Table.Locate

namespace LaneDuel

set_option autoImplicit false

/-- Who acts, with which card, on which target. -/
structure Binding where
  player : Side
  actor : Origin
  target : Option Origin
deriving DecidableEq, Repr

namespace Binding

def opponent (b : Binding) : Side := b.player.opponent

end Binding

/-- The sides of a scope; both sides stand in their own order, red first. -/
def Scope.sides (acting : Side) : Scope → List Side
  | .own => [acting]
  | .opponent => [acting.opponent]
  | .both => Side.both

structure Run (ρ : Type) where
  table : Table Int Signals Origin
  cards : Origin → Card
  source : ρ
  log : List Event

/-! ## Origins of a table -/

namespace Table

universe u

variable {ν σ : Type} {α : Type u}

/-- The places of some lanes, gaps kept. -/
def laneOrigins (side : Side) (zone : Zone) (lanes : List (Option α)) : List (Option Origin) :=
  lanes.zipIdx.map fun (c, i) => c.map fun _ => .slot ⟨side, zone, i⟩

def pileOrigins (p : Pile) (cards : List α) : List Origin :=
  cards.zipIdx.map fun (_, i) => .pile p i

def playerOrigins (side : Side) (p : Player ν α) : Player ν Origin where
  health := p.health
  coins := p.coins
  battlefield := laneOrigins side .battlefield p.battlefield
  buildings := laneOrigins side .buildings p.buildings
  hand := p.hand.zipIdx.map fun (_, i) => .slot ⟨side, .hand, i⟩

/-- The table on which every card lies at its own origin. -/
def origins (t : Table ν σ α) : Table ν σ Origin where
  red := playerOrigins .red t.red
  blue := playerOrigins .blue t.blue
  deck := pileOrigins .deck t.deck
  miracleDeck := pileOrigins .miracleDeck t.miracleDeck
  discardPile := pileOrigins .discardPile t.discardPile
  signals := t.signals

/-- The card of an origin.  `actor` and `target` are the cards that came from
outside; an origin without a card counts as the acting card. -/
def cardOf (t : Table ν σ α) (actor target : α) : Origin → α
  | .slot slot => (t.cardAt slot).getD actor
  | .pile p i => (t.pile p)[i]?.getD actor
  | .actor => actor
  | .target => target

end Table

namespace Run

variable {ρ : Type}

/-- A run that has just begun. -/
def enter (s : State) (actor target : Card) (source : ρ) : Run ρ :=
  ⟨Table.origins s, Table.cardOf s actor target, source, []⟩

/-- The state that the run has reached. -/
def snapshot (r : Run ρ) : State := r.table.map r.cards

def tell (r : Run ρ) (events : List Event) : Run ρ := { r with log := r.log ++ events }

def notice (r : Run ρ) (n : Notice) : Run ρ := r.tell [.notice n]

def trace (r : Run ρ) (t : Trace) : Run ρ := r.tell [.trace t]

def put (r : Run ρ) (o : Origin) (c : Card) : Run ρ :=
  { r with cards := fun x => if x = o then c else r.cards x }

/-- Change one card, and tell of it. -/
def edit (change : Card → Card × List Event) (r : Run ρ) (o : Origin) : Run ρ :=
  (r.put o (change (r.cards o)).1).tell (change (r.cards o)).2

/-- Change some cards one after another. -/
def visit (r : Run ρ) (os : List Origin) (change : Card → Card × List Event) : Run ρ :=
  os.foldl (edit change) r

def modifyTable (r : Run ρ) (f : Table Int Signals Origin → Table Int Signals Origin) :
    Run ρ :=
  { r with table := f r.table }

def modifyPlayer (r : Run ρ) (s : Side) (f : Player Int Origin → Player Int Origin) : Run ρ :=
  r.modifyTable fun t => t.modifyPlayer s f

def player (r : Run ρ) (s : Side) : Player Int Origin := r.table.player s

/-- The cards on the lanes of one side. -/
def field (r : Run ρ) (s : Side) : List Origin := (r.player s).fieldCards

/-- The first card with an instance id in some zones. -/
def findById (r : Run ρ) (id : String) (zones : List Zone) : Option Origin :=
  r.table.findCard (fun o => (r.cards o).instanceId == id) zones

end Run

end LaneDuel
