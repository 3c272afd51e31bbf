/-
# LaneDuel.Loose.Engine -- playing a card on a loose state

The same course as on checked states, asked for with values of any type.  The
entry is looked up first; without one nothing is looked at.  Then the state is
copied, the acting card is found, the acting side is read and the target is found.

* `Engine.resolve` plays the card on the checked state where there is one, and
  step by step on the loose board where there is not.  A checked play puts nothing
  into words; where some notice of it cannot be, the loose board shows how far it got.
* A play that fails leaves no state, but the source of chance stays advanced.
* `Engine.isValidTarget` and `Engine.passiveBonus` answer without playing.
-/
import LaneDuel.Engine.Query
import LaneDuel.Loose.Catalog
import LaneDuel.Loose.Library
import LaneDuel.Loose.Look

namespace LaneDuel.Loose

set_option autoImplicit false

structure Engine where
  catalog : LaneDuel.Catalog
  library : Library

/-- Who plays which card on which target. -/
structure Invocation where
  player : Json
  card : Option Card
  target : Option Card

/-- What a play came to, and the source as it was left. -/
structure Outcome (ρ : Type) where
  result : Except Failure (Resolution State)
  source : ρ

/-! ## Checked plays -/

/-- A play on a checked state. -/
structure Checked where
  engine : LaneDuel.Engine
  cardId : Int
  invocation : LaneDuel.Invocation
  state : LaneDuel.State

def Invocation.check? (inv : Invocation) : Option LaneDuel.Invocation := do
  let .str word := inv.player | none
  let target ← match inv.target with
    | some t => t.check?.map some
    | none => some none
  return ⟨← Vocabulary.read? word, ← (← inv.card).check?, target⟩

/-- The checked play that a play is, if everything in it has its type. -/
def Engine.check? (e : Engine) (cardId : Json) (inv : Invocation) (b : Board) :
    Option Checked := do
  let .num (.int cardId) := cardId | none
  return ⟨⟨e.catalog, ← e.library.check?⟩, cardId, ← inv.check?, ← b.check?⟩

/-- Play on the checked state; where that is left alone, so is the given one. -/
def Checked.resolve {ρ : Type} [RandomSource ρ] (c : Checked) (given : State) (source : ρ) :
    Outcome ρ :=
  let outcome := c.engine.resolve c.cardId c.invocation c.state source
  let r := outcome.resolution
  let state := if r.status = .applied then .ofChecked r.state else given
  ⟨.ok ⟨state, r.status, r.events⟩, outcome.source⟩

/-- The checked play, if all that it tells can be put into words. -/
def Checked.resolve? {ρ : Type} [RandomSource ρ] (c : Checked) (given : State) (source : ρ) :
    Option (Outcome ρ) :=
  let outcome := c.engine.resolve c.cardId c.invocation c.state source
  if outcome.resolution.events.all Event.writable then some (c.resolve given source) else none

namespace Engine

def ofChecked (e : LaneDuel.Engine) : Engine := ⟨e.catalog, .ofChecked e.library⟩

/-- The checked engine with the same catalog, for questions that need no library. -/
def plain (e : Engine) : LaneDuel.Engine := ⟨e.catalog, .standard⟩

/-! ## Binding -/

def locateIn (b : Board) (id : Json) (zones : List Zone) : Option Origin :=
  (Table.locate b (fun c => same c.instanceId id) zones).map .slot

/-- A play that is ready to run: its scene, its run, and the target it was given. -/
structure Prepared (ρ : Type) where
  scene : Scene
  run : Run ρ
  aimed : Bool

/-- Bind the acting card, the acting side and the target, in this order.  An acting
card that lies nowhere is copied. -/
def prepare {ρ : Type} (tracing : Bool) (inv : Invocation) (b : Board) (source : ρ) :
    Except Failure (Prepared ρ) := do
  let some card := inv.card | .error .noFields
  let place := locateIn b card.instanceId LaneDuel.Engine.actorZones
  let own ← if place.isSome then .ok card else card.copy
  let side ← Vocabulary.ofJson "Side" inv.player
  let target := inv.target.bind fun t => locateIn b t.instanceId [.battlefield]
  return ⟨⟨side, some (place.getD .actor), target, tracing⟩,
    .enter b own (inv.target.getD own) source, inv.target.isSome⟩

/-! ## Running a chain -/

variable {ρ : Type} [RandomSource ρ]

/-- Run some calls in order; `index` counts them for the trace. -/
def runCalls (library : Library) (cardId : Json) (b : Scene) : Nat → List Call → Act ρ Unit
  | _, [] => pure ()
  | index, call :: calls => do
    match library.build call with
    | .error _ => Act.notice b (.unknownAtom call.name)
    | .ok executor =>
      Act.trace b (.step (.ofJson cardId) index call.name)
      executor.perform b
    runCalls library cardId b (index + 1) calls

/-- Health and coins are cut off at zero once the whole chain has run. -/
def settlePlayer (s : Side) : Act ρ Unit := do
  let health ← Act.ofExcept (larger (.int 0) (← Act.player s).health)
  Act.modifyPlayer s fun p => { p with health }
  let coins ← Act.ofExcept (larger (.int 0) (← Act.player s).coins)
  Act.modifyPlayer s fun p => { p with coins }

/-- Run a chain to its end. -/
def play (e : Engine) (cardId : Json) (effects : List Call) (p : Prepared ρ) : Outcome ρ :=
  let chain := do
    runCalls e.library cardId p.scene 0 effects
    Side.both.forM settlePlayer
  let (ended, run) := (chain : Act ρ Unit).run p.run
  ⟨ended.map fun _ => ⟨.ofBoard run.snapshot, .applied, run.log⟩, run.source⟩

/-! ## Playing a card -/

/-- An end that leaves the state and the source as they were. -/
def leave (s : State) (source : ρ) (status : Status) (events : List Event) : Outcome ρ :=
  ⟨.ok ⟨s, status, events⟩, source⟩

/-- Play an entry that has been prepared. -/
def resolveEntry (e : Engine) (cardId : Json) (entry : CardEffect) (s : State) (p : Prepared ρ) :
    Outcome ρ :=
  if p.aimed && p.scene.target.isNone then
    leave s p.run.source .aborted [.notice .targetLost]
  else if entry.needsTarget && !p.aimed then
    leave s p.run.source .aborted [.notice (.targetRequired entry.name)]
  else
    match entry.uiMode with
    | some mode => leave s p.run.source .uiMode [.notice (.uiMode entry.name mode)]
    | none => e.play cardId entry.effects p

/-- Play an entry on the loose copy of a state. -/
def resolveLoose (e : Engine) (tracing : Bool) (cardId : Json) (entry : CardEffect)
    (inv : Invocation) (s : State) (b : Board) (source : ρ) : Outcome ρ :=
  match prepare tracing inv b source with
  | .error f => ⟨.error f, source⟩
  | .ok p => e.resolveEntry cardId entry s p

/-- Play a card. -/
def resolve (e : Engine) (tracing : Bool) (cardId : Json) (inv : Invocation) (s : State)
    (source : ρ) : Outcome ρ :=
  match e.catalog.find cardId with
  | .error f => ⟨.error f, source⟩
  | .ok none => leave s source .noEffect []
  | .ok (some entry) =>
    match s.board with
    | .error f => ⟨.error f, source⟩
    | .ok b =>
      ((e.check? cardId inv b).bind (·.resolve? s source)).getD
        (e.resolveLoose tracing cardId entry inv s b source)

/-! ## Asking without playing -/

/-- Whether the acting side leaves a side out of a scope.  The acting side is only
read where the scope depends on it. -/
def outOfScope (acting : Option Json) (scope : Option Scope) (side : Side) :
    Except Failure Bool :=
  match acting, scope with
  | some v, some .own | some v, some .opponent => do
    return LaneDuel.Engine.outOfScope (← Vocabulary.ofJson "Side" v) scope side
  | _, _ => .ok false

/-- Whether the card with an instance id is in the filter's zone and scope and
fits it. -/
def validIn (f : TargetFilter) (id : Json) (s : State) (acting : Option Json) :
    Except Failure Bool := do
  match ← s.locate id [f.location.zone] with
  | none => return false
  | some slot =>
    if ← outOfScope acting f.player slot.side then return false
    match ← s.itemAt slot.side slot.zone (.nat slot.index) with
    | some item => meets ⟨f.race, f.rarity, f.kind⟩ (← item.asCard)
    | none => return false

/-- Whether a target is valid for a card on a loose state.  Every target is where
no filter is consulted. -/
def isValidLoosely (e : Engine) (cardId : Json) (target : Option Card) (s : State)
    (acting : Option Json) : Except Failure Bool := do
  match (← e.catalog.find cardId).bind LaneDuel.Engine.consultedBy with
  | none => return true
  | some f =>
    match target with
    | some t => validIn f t.instanceId s acting
    | none => throw .noFields

/-- Whether a target is valid for a card. -/
def isValidTarget (e : Engine) (cardId : Json) (target : Option Card) (s : State)
    (acting : Option Json) : Except Failure Bool :=
  match cardId, acting, target.bind Card.check?, s.check? with
  | .num (.int id), none, some t, some s => .ok (e.plain.isValidTarget id t s none)
  | .num (.int id), some (.str word), some t, some s' =>
    match Vocabulary.read? word with
    | some side => .ok (e.plain.isValidTarget id t s' (some side))
    | none => e.isValidLoosely cardId target s acting
  | _, _, _, _ => e.isValidLoosely cardId target s acting

/-- The bonus of the card's aura on a loose state. -/
def bonusLoosely (e : Engine) (cardId : Json) (s : State) : Except Failure StatBonus := do
  match (← e.catalog.find cardId).bind (·.aura) with
  | none => return .none
  | some aura =>
    let cards ← s.fieldCards Side.both
    let count := (← cards.filterM fun c => c.hasAnyRace aura.races).length
    return if aura.threshold ≤ count then aura.bonus else .none

/-- The bonus of the card's aura: all of it or nothing. -/
def passiveBonus (e : Engine) (cardId : Json) (s : State) : Except Failure StatBonus :=
  match cardId, s.check? with
  | .num (.int id), some s => .ok (e.plain.passiveBonus id s)
  | _, _ => e.bonusLoosely cardId s

end Engine

end LaneDuel.Loose
