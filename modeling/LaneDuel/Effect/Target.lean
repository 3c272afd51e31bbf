/-
# LaneDuel.Effect.Target -- which cards an effect reaches

* `Condition.admits` decides whether one card meets a condition.
* `Run.targets` lists the cards of a filter, with what there is to tell about
  the search: the one card of a special mode, or the cards of a scope and zone
  narrowed by race, then by rarity, then by kind.
-/
import LaneDuel.Effect.Run
import LaneDuel.Schema.Filter

namespace LaneDuel

set_option autoImplicit false

/-- A list of names asks for something only if it is there and not empty. -/
def asked : Option (List String) → Option (List String)
  | some (n :: ns) => some (n :: ns)
  | _ => none

/-- A card meets a condition when it has one of the races, one of the rarities
and the kind that are asked for. -/
def Condition.admits (c : Condition) (card : Card) : Bool :=
  (match asked c.race with
    | some races => card.hasRace races
    | none => true)
  && (match asked c.rarity with
    | some rarities => rarities.contains card.rarity
    | none => true)
  && (match c.kind with
    | some kind => card.kind == kind
    | none => true)

/-- Without a condition every card is admitted. -/
def admits (c : Option Condition) (card : Card) : Bool :=
  match c with
  | some c => c.admits card
  | none => true

namespace TargetFilter

/-- Keep what has one of the races asked for. -/
def narrowByRace (f : TargetFilter) (cards : Origin → Card) (os : List Origin) : List Origin :=
  match asked f.race with
  | some races => os.filter fun o => (cards o).hasRace races
  | none => os

/-- Keep what has one of the rarities asked for. -/
def narrowByRarity (f : TargetFilter) (cards : Origin → Card) (os : List Origin) : List Origin :=
  match asked f.rarity with
  | some rarities => os.filter fun o => rarities.contains (cards o).rarity
  | none => os

/-- Keep what is of the kind asked for. -/
def narrowByKind (f : TargetFilter) (cards : Origin → Card) (os : List Origin) : List Origin :=
  match f.kind with
  | some kind => os.filter fun o => (cards o).kind == kind
  | none => os

end TargetFilter

namespace Run

variable {ρ : Type}

/-- The cards in the scope and zone of a filter; no scope, no cards. -/
def candidates (r : Run ρ) (b : Binding) (f : TargetFilter) : List Origin :=
  match f.player with
  | some scope =>
    (scope.sides b.player).flatMap fun s => ((r.player s).zone f.location.zone).filterMap id
  | none => []

/-- The cards that a filter reaches, and what the search has to tell. -/
def targets (r : Run ρ) (b : Binding) (f : TargetFilter) : List Origin × List Event :=
  match f.target with
  | some .own =>
    match r.findById (r.cards b.actor).instanceId [.battlefield] with
    | some o => ([o], [])
    | none => ([], [.notice (.selfNotFound (r.cards b.actor).name)])
  | some .selected => (b.target.toList, [])
  | none =>
    let found := r.candidates b f
    let chosen :=
      f.narrowByKind r.cards (f.narrowByRarity r.cards (f.narrowByRace r.cards found))
    (chosen,
      [.trace (.candidates f.player (f.location == .hand) found.length),
        .trace (.chosen (chosen.map fun o => Text.quote (r.cards o).name))])

/-- Change every card that a filter reaches. -/
def reach (r : Run ρ) (b : Binding) (f : TargetFilter)
    (change : Card → Card × List Event) : Run ρ :=
  (r.tell (r.targets b f).2).visit (r.targets b f).1 change

end Run

end LaneDuel
