/-
# LaneDuel.Effect.Removal -- cards leaving the lanes

Both effects put cards on top of the discard pile and leave their lanes empty.
`kill` takes the cards of a filter one by one, finding each by its instance id;
`clearField` sweeps whole battlefields lane by lane and can spare races.
-/
import LaneDuel.Effect.Target

namespace LaneDuel

set_option autoImplicit false

namespace Table

/-- Empty one lane. -/
def clearLane {ν σ α : Type} (t : Table ν σ α) (side : Side) (index : Nat) : Table ν σ α :=
  t.modifyPlayer side fun p => { p with battlefield := p.battlefield.set index none }

/-- Put cards on top of the discard pile, the last one topmost. -/
def discard {ν σ α : Type} (t : Table ν σ α) (cards : List α) : Table ν σ α :=
  { t with discardPile := t.discardPile ++ cards }

end Table

namespace Effect

variable {ρ : Type}

/-- Take the first card on the lanes with the instance id of the given one. -/
def killOne (r : Run ρ) (o : Origin) : Run ρ :=
  let hit := fun x => (r.cards x).instanceId == (r.cards o).instanceId
  match r.table.locate hit [.battlefield] with
  | none => r.trace (.notOnBattlefield (r.cards o).name)
  | some slot =>
    match r.table.cardAt slot with
    | none => r
    | some found =>
      (r.modifyTable fun t => (t.clearLane slot.side slot.index).discard [found]).notice
        (.cardKilled (r.cards found).name)

def kill (f : TargetFilter) (b : Binding) (r : Run ρ) : Run ρ :=
  (r.targets b f).1.foldl killOne (r.tell (r.targets b f).2)

/-- Whether a card stays when the field is cleared. -/
def spared (except : Option (List String)) (c : Card) : Bool :=
  match asked except with
  | some races => c.hasRace races
  | none => false

/-- The lanes with the cards that must go taken off. -/
def sweep {α : Type} (goes : α → Bool) (lanes : List (Option α)) : List (Option α) :=
  lanes.map fun lane => lane.filter fun o => !goes o

/-- Clear one battlefield. -/
def clearSide (except : Option (List String)) (r : Run ρ) (side : Side) : Run ρ :=
  let goes := fun o => !spared except (r.cards o)
  let gone := (r.field side).filter goes
  ((r.modifyPlayer side fun p => { p with battlefield := sweep goes p.battlefield }).modifyTable
    fun t => t.discard gone).tell
    (gone.map fun o => .notice (.cardCleared (r.cards o).name))

def clearField (f : Option ClearFieldFilter) (b : Binding) (r : Run ρ) : Run ρ :=
  let scope := match f with
    | some f => f.player
    | none => .both
  let except := f.bind (·.exceptRace)
  (scope.sides b.player).foldl (clearSide except) r

end Effect

end LaneDuel
