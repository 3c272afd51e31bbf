/-
# LaneDuel.Table.Locate -- where a card lies

Searching goes zone by zone in the order asked for, in each zone red before
blue, and in each list from the front.

* `Table.occupied` lists the taken slots of some zones in that order.
* `Table.locate` is the first of them whose card passes a test.
* `Table.cardAt` is the card in a slot; a slot beyond the list is empty.
-/
import LaneDuel.Table.Basic

namespace LaneDuel.Table

set_option autoImplicit false

universe u

variable {ν σ : Type} {α : Type u}

/-- The taken places of one zone of one side, with what lies there. -/
def occupiedIn (t : Table ν σ α) (zone : Zone) (side : Side) : List (Slot × α) :=
  ((t.player side).zone zone).zipIdx.filterMap fun (card, index) =>
    card.map fun c => (⟨side, zone, index⟩, c)

/-- The taken places of some zones in the order of search. -/
def occupied (t : Table ν σ α) (zones : List Zone) : List (Slot × α) :=
  zones.flatMap fun zone => Side.both.flatMap fun side => t.occupiedIn zone side

/-- The first place whose card passes the test. -/
def locate (t : Table ν σ α) (hit : α → Bool) (zones : List Zone) : Option Slot :=
  ((t.occupied zones).find? fun (_, c) => hit c).map (·.1)

def cardAt (t : Table ν σ α) (slot : Slot) : Option α :=
  (((t.player slot.side).zone slot.zone)[slot.index]?).join

/-- The card in the first place whose card passes the test. -/
def findCard (t : Table ν σ α) (hit : α → Bool) (zones : List Zone) : Option α :=
  (t.locate hit zones).bind t.cardAt

end LaneDuel.Table

namespace LaneDuel.State

/-- The first place of a card with the given instance id. -/
def locate (s : State) (id : String) (zones : List Zone) : Option Slot :=
  Table.locate s (fun c => c.instanceId == id) zones

/-- The first card with the given instance id. -/
def findCard (s : State) (id : String) (zones : List Zone) : Option Card :=
  Table.findCard s (fun c => c.instanceId == id) zones

end LaneDuel.State
