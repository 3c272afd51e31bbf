/-
# LaneDuel.Engine.Query -- asking without playing

What the table wants to know before a card is played: whether it needs a target
and which targets are valid, and the bonus of a passive aura.
-/
import LaneDuel.Engine.Basic

namespace LaneDuel.Engine

set_option autoImplicit false

def needsTarget (e : Engine) (cardId : Int) : Bool :=
  ((e.catalog.get? cardId).map (·.needsTarget)).getD false

def targetFilter (e : Engine) (cardId : Int) : Option TargetFilter :=
  (e.catalog.get? cardId).bind (·.targetFilter)

def description (e : Engine) (cardId : Int) : String :=
  ((e.catalog.get? cardId).map (·.description)).getD ""

def trigger (e : Engine) (cardId : Int) : Option Trigger :=
  (e.catalog.get? cardId).map (·.trigger)

def uiMode (e : Engine) (cardId : Int) : Option UiMode :=
  (e.catalog.get? cardId).bind (·.uiMode)

/-- The bonus of the card's aura: all of it or nothing. -/
def passiveBonus (e : Engine) (cardId : Int) (s : State) : StatBonus :=
  match (e.catalog.get? cardId).bind (·.aura) with
  | none => .none
  | some aura =>
    let count := (s.fieldCards Side.both).countP (·.hasRace aura.races)
    if aura.threshold ≤ count then aura.bonus else .none

/-! ## Valid targets -/

/-- Whether a scope leaves a side out, seen from the acting side. -/
def outOfScope (acting : Side) (scope : Option Scope) (side : Side) : Bool :=
  match scope with
  | some .own => side != acting
  | some .opponent => side != acting.opponent
  | _ => false

/-- Whether a card fits what a filter asks of races, rarities and kind. -/
def fits (f : TargetFilter) (c : Card) : Bool :=
  if (asked f.race).any fun races => !c.hasRace races then false
  else if (asked f.rarity).any fun rarities => !rarities.contains c.rarity then false
  else if f.kind.any fun kind => c.kind != kind then false
  else true

/-- Whether the card with an instance id is in the filter's zone and scope and
fits it.  Without an acting side every scope stands for both sides. -/
def validIn (f : TargetFilter) (id : String) (s : State) (acting : Option Side) : Bool :=
  match State.locate s id [f.location.zone] with
  | none => false
  | some slot =>
    !(acting.any fun side => outOfScope side f.player slot.side)
      && (s.cardAt slot).any (fits f)

/-- The filter that an entry has consulted about targets, if any. -/
def consultedBy (entry : CardEffect) : Option TargetFilter :=
  if entry.needsTarget then entry.targetFilter else none

/-- The filter that is consulted about targets of a card, if any is. -/
def consulted (e : Engine) (cardId : Int) : Option TargetFilter :=
  (e.catalog.get? cardId).bind consultedBy

/-- Whether a target is valid for a card.  Every target is where no filter is
consulted. -/
def isValidTarget (e : Engine) (cardId : Int) (target : Card) (s : State)
    (acting : Option Side) : Bool :=
  match e.consulted cardId with
  | none => true
  | some f => validIn f target.instanceId s acting

end LaneDuel.Engine
