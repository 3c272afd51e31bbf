/-
# LaneDuel.Proofs.Table.Mirror -- the same position with the colours exchanged

`Table.mirror` gives each player the other's place, and an immediate victory goes
to the other side.  The piles and the rest of the signals stay.  A mirrored slot is
the same slot on the other side (`cardAt_mirror`), and the names of a mirrored table
are the mirrored names (`origins_mirror`).
-/
import LaneDuel.Proofs.Table.Origins

namespace LaneDuel

set_option autoImplicit false

universe u v

def Signals.mirror (g : Signals) : Signals :=
  { g with immediateVictory := g.immediateVictory.map Side.opponent }

/-- The slot of the same zone and index on the other side. -/
def Slot.mirror (slot : Slot) : Slot := { slot with side := slot.side.opponent }

@[simp] theorem Slot.mirror_mirror (slot : Slot) : slot.mirror.mirror = slot := by
  simp [mirror]

namespace Table

variable {ν : Type} {α : Type u} {β : Type v}

/-- Red and blue exchanged. -/
def mirror (t : Table ν Signals α) : Table ν Signals α :=
  { t with red := t.blue, blue := t.red, signals := t.signals.mirror }

@[simp] theorem player_mirror (t : Table ν Signals α) (s : Side) :
    t.mirror.player s = t.player s.opponent := by cases s <;> rfl

theorem mirror_map (f : α → β) (t : Table ν Signals α) : (t.map f).mirror = t.mirror.map f := rfl

theorem mem_cards_mirror {t : Table ν Signals α} {a : α} :
    a ∈ t.mirror.cards ↔ a ∈ t.cards := by
  simp only [mirror, cards, List.mem_append]
  tauto

@[simp] theorem cardAt_mirror (t : Table ν Signals α) (slot : Slot) :
    t.mirror.cardAt slot.mirror = t.cardAt slot := by
  simp [cardAt, Slot.mirror]

end Table

/-- A name of a table, as the mirrored table has it. -/
def Origin.mirror : Origin → Origin
  | .slot place => .slot place.mirror
  | o => o

@[simp] theorem Origin.mirror_mirror (o : Origin) : o.mirror.mirror = o := by
  cases o <;> simp [mirror]

namespace Table

variable {ν : Type} {α : Type u}

theorem playerOrigins_mirror (s : Side) (p : Player ν α) :
    (playerOrigins s p).map Origin.mirror = playerOrigins s.opponent p := by
  have lanes : ∀ z (l : List (Option α)),
      (laneOrigins s z l).map (Option.map Origin.mirror) = laneOrigins s.opponent z l := by
    intro z l
    simp only [laneOrigins, List.map_map]
    apply List.map_congr_left
    rintro ⟨lane, i⟩ -
    cases lane <;> rfl
  simp [playerOrigins, Player.map, lanes, Function.comp_def, Origin.mirror, Slot.mirror]

theorem origins_mirror (t : Table ν Signals α) :
    origins t.mirror = (origins t).mirror.map Origin.mirror := by
  apply ext_players
  · intro s
    rw [player_origins, player_mirror, player_map, player_mirror, player_origins,
      playerOrigins_mirror, Side.opponent_opponent]
  · simp [mirror, origins, map, pileOrigins, Function.comp_def, Origin.mirror]
  · simp [mirror, origins, map, pileOrigins, Function.comp_def, Origin.mirror]
  · simp [mirror, origins, map, pileOrigins, Function.comp_def, Origin.mirror]
  · rfl

/-- A mirrored name stands for the same card. -/
theorem cardOf_mirror (t : Table ν Signals α) (actor target : α) (o : Origin) :
    t.mirror.cardOf actor target o.mirror = t.cardOf actor target o := by
  cases o with
  | slot slot => simp [Origin.mirror, cardOf]
  | pile p i => cases p <;> rfl
  | actor => rfl
  | target => rfl

end Table

end LaneDuel
