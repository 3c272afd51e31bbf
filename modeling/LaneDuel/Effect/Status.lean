/-
# LaneDuel.Effect.Status -- frost and immunity

Freezing replaces what was left of an earlier frost.  The first attack of a card
freezes its target once and for all: the card remembers that it was used.
-/
import LaneDuel.Effect.Target

namespace LaneDuel.Effect

set_option autoImplicit false

def frost (turns : Nat) (c : Card) : Card × List Event :=
  ({ c with frozen := turns }, [.notice (.cardFrozen c.name turns)])

def thaw (c : Card) : Card × List Event :=
  if c.isFrozen then ({ c with frozen := 0 }, [.notice (.cardUnfrozen c.name)]) else (c, [])

def shield (c : Card) : Card × List Event :=
  ({ c with immune := true }, [.notice (.cardImmune c.name)])

variable {ρ : Type}

def freeze (turns : Nat) (f : TargetFilter) (b : Binding) (r : Run ρ) : Run ρ :=
  r.reach b f (frost turns)

def removeDebuffs (f : TargetFilter) (b : Binding) (r : Run ρ) : Run ρ := r.reach b f thaw

def addImmunity (f : TargetFilter) (b : Binding) (r : Run ρ) : Run ρ := r.reach b f shield

/-- The acting card's first attack. -/
def firstAttack (turns : Int) (b : Binding) (r : Run ρ) : Run ρ :=
  let card := r.cards b.actor
  if card.firstActionUsed then r.trace (.alreadyUsed card.name)
  else
    let r := r.put b.actor { card with firstActionUsed := true }
    match b.target with
    | none => r.notice (.firstAttack card.name)
    | some o =>
      let target := r.cards o
      (r.put o { target with frozen := turns }).notice
        (.firstAttackFreeze card.name target.name turns)

end LaneDuel.Effect
