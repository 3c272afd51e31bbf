/-
# LaneDuel.Engine.Basic -- playing a card

`Engine.resolve` plays a card on a state.  In this order: a card without an entry
does nothing; a target that is on neither battlefield is lost; an entry that needs
a target and gets none is refused; an entry with a mode of its own is left to the
table; otherwise the calls run one after another and both players are settled.
Only the last case runs anything, and only there does the source advance.

Calls that the library cannot carry out are reported and skipped, so every card
can be played on every state.  What happened is told in events, not in words: a number
of too many digits stops no play here, but `Loose.Engine.resolve` fails on it.
-/
import LaneDuel.Catalog.Basic
import LaneDuel.Effect.Library

namespace LaneDuel

set_option autoImplicit false

structure Engine where
  catalog : Catalog
  library : Library

/-- Who plays which card on which target.  The cards may be stale copies: only
their instance ids are looked up in the state. -/
structure Invocation where
  player : Side
  card : Card
  target : Option Card

inductive Status where
  | noEffect
  | applied
  | aborted
  | uiMode
deriving DecidableEq, Repr

instance : Vocabulary Status where
  members := [.noEffect, .applied, .aborted, .uiMode]
  word
    | .noEffect => "no_effect"
    | .applied => "applied"
    | .aborted => "aborted"
    | .uiMode => "ui_mode"

/-- What playing a card came to. -/
structure Resolution (α : Type) where
  state : α
  status : Status
  events : List Event

/-- A resolution, and the source as it was left. -/
structure Outcome (ρ : Type) where
  resolution : Resolution State
  source : ρ

namespace Engine

/-! ## Binding -/

/-- The zones in which the acting card is looked for, in this order. -/
def actorZones : List Zone := [.battlefield, .hand, .buildings]

/-- The acting card's place in the state, or its own place outside. -/
def bindActor (s : State) (card : Card) : Origin :=
  match State.locate s card.instanceId actorZones with
  | some slot => .slot slot
  | none => .actor

/-- The target's place on a battlefield. -/
def bindTarget (s : State) (target : Card) : Option Origin :=
  (State.locate s target.instanceId [.battlefield]).map .slot

def bind (s : State) (inv : Invocation) : Binding :=
  ⟨inv.player, bindActor s inv.card, inv.target.bind (bindTarget s)⟩

/-- A target was given and is on neither battlefield. -/
def targetLost (s : State) (inv : Invocation) : Bool :=
  match inv.target with
  | some t => (bindTarget s t).isNone
  | none => false

/-! ## Running a chain -/

variable {ρ : Type} [RandomSource ρ]

/-- Run some calls in order; `index` counts them for the trace. -/
def runCalls (library : Library) (cardId : Int) (b : Binding) : Nat → List Call → Run ρ → Run ρ
  | _, [], r => r
  | index, call :: calls, r =>
    match library.atom? call with
    | none => runCalls library cardId b (index + 1) calls (r.notice (.unknownAtom call.name))
    | some a =>
      runCalls library cardId b (index + 1) calls
        (a.perform b (r.trace (.step cardId index call.name)))

/-- Health and coins are cut off at zero once the whole chain has run. -/
def settlePlayer {α : Type} (p : Player Int α) : Player Int α :=
  { p with health := max 0 p.health, coins := max 0 p.coins }

def settle {σ α : Type} (t : Table Int σ α) : Table Int σ α :=
  { t with red := settlePlayer t.red, blue := settlePlayer t.blue }

/-- The run on a state before any call. -/
def begin (s : State) (inv : Invocation) (source : ρ) : Run ρ :=
  Run.enter s inv.card (inv.target.getD inv.card) source

/-! ## Playing a card -/

/-- An end that leaves the state and the source as they were. -/
def leave (s : State) (source : ρ) (status : Status) (events : List Event) : Outcome ρ :=
  ⟨⟨s, status, events⟩, source⟩

/-- The end of a run. -/
def finish (r : Run ρ) : Outcome ρ := ⟨⟨settle r.snapshot, .applied, r.log⟩, r.source⟩

def resolve (e : Engine) (cardId : Int) (inv : Invocation) (s : State) (source : ρ) : Outcome ρ :=
  match e.catalog.get? cardId with
  | none => leave s source .noEffect []
  | some entry =>
    if targetLost s inv then leave s source .aborted [.notice .targetLost]
    else if entry.needsTarget && inv.target.isNone then
      leave s source .aborted [.notice (.targetRequired entry.name)]
    else
      match entry.uiMode with
      | some mode => leave s source .uiMode [.notice (.uiMode entry.name mode)]
      | none =>
        finish (runCalls e.library cardId (bind s inv) 0 entry.effects (begin s inv source))

end Engine

end LaneDuel
