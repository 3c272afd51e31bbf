/-
# LaneDuel.Loose.Run -- a chain of effects on a loose board

As on checked states, cards are named by their origins, moving them only touches
the table, and changing them only touches the cards.  Here an effect may fail half
way; `Act` keeps the run that was reached, so what was done before stays done.

A `Scene` may lack the acting card.  Every notice, and every trace that is
recorded, names it, so nothing can be told without one.

A notice is put into words when it is told, which fails where a number that it shows
has too many digits.  Integers within the names of loose cards, and what traces show,
are taken to be short enough.
-/
import LaneDuel.Effect.Run
import LaneDuel.Loose.State

namespace LaneDuel.Loose

set_option autoImplicit false

/-- Who acts, with which card, on which target. -/
structure Scene where
  player : Side
  actor : Option Origin
  target : Option Origin
  /-- Whether traces are recorded. -/
  tracing : Bool

def Scene.opponent (b : Scene) : Side := b.player.opponent

structure Run (ρ : Type) where
  table : Table Json Signals Origin
  cards : Origin → Card
  source : ρ
  log : List Event

/-- A step that may fail; the run it has reached is kept. -/
abbrev Act (ρ : Type) (α : Type) := ExceptT Failure (StateM (Run ρ)) α

namespace Run

variable {ρ : Type}

/-- A run that has just begun. -/
def enter (b : Board) (actor target : Card) (source : ρ) : Run ρ :=
  ⟨Table.origins b, Table.cardOf b actor target, source, []⟩

/-- The board that the run has reached. -/
def snapshot (r : Run ρ) : Board := r.table.map r.cards

end Run

namespace Act

variable {ρ : Type}

/-- Go on with what has been worked out, or fail. -/
def ofExcept {α : Type} : Except Failure α → Act ρ α
  | .ok a => pure a
  | .error f => throw f

def look (o : Origin) : Act ρ Card := return (← get).cards o

def put (o : Origin) (c : Card) : Act ρ Unit :=
  modify fun r => { r with cards := fun x => if x = o then c else r.cards x }

def modifyTable (f : Table Json Signals Origin → Table Json Signals Origin) : Act ρ Unit :=
  modify fun r => { r with table := f r.table }

def player (s : Side) : Act ρ (LaneDuel.Player Json Origin) := return (← get).table.player s

def modifyPlayer (s : Side)
    (f : LaneDuel.Player Json Origin → LaneDuel.Player Json Origin) : Act ρ Unit :=
  modifyTable fun t => t.modifyPlayer s f

/-- Take from the source of chance. -/
def draw {α : Type} (f : ρ → α × ρ) : Act ρ α := do
  let r ← get
  let (a, source) := f r.source
  set { r with source }
  return a

/-- The acting card's origin. -/
def actor (b : Scene) : Act ρ Origin :=
  match b.actor with
  | some o => pure o
  | none => throw .noFields

def tell (b : Scene) (e : Event) : Act ρ Unit := do
  let _ ← actor b
  modify fun r => { r with log := r.log ++ [e] }

/-- Tell a notice, if it can be put into words. -/
def notice (b : Scene) (n : Notice) : Act ρ Unit :=
  if n.writable then tell b (.notice n) else throw .tooLongToWrite

/-- A trace; one that is not recorded needs no acting card. -/
def trace (b : Scene) (t : Trace) : Act ρ Unit :=
  if b.actor.isNone && !b.tracing then pure () else tell b (.trace t)

/-- The cards on the lanes of one side. -/
def field (s : Side) : Act ρ (List Origin) := return (← player s).fieldCards

/-- The first place on a battlefield of a card with an instance id. -/
def locate (id : Json) : Act ρ (Option Slot) := do
  let r ← get
  return r.table.locate (fun o => same (r.cards o).instanceId id) [.battlefield]

/-- Whether one of some cards passes a test; later ones are not asked. -/
def anyCard (os : List Origin) (test : Card → Except Failure Bool) : Act ρ Bool := do
  match os with
  | [] => return false
  | o :: rest => if ← ofExcept (test (← look o)) then return true else anyCard rest test

/-- The cards that pass a test. -/
def keep (os : List Origin) (test : Card → Except Failure Bool) : Act ρ (List Origin) :=
  os.filterM fun o => do ofExcept (test (← look o))

end Act

end LaneDuel.Loose
