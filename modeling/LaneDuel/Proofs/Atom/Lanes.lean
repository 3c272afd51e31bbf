/-
# LaneDuel.Proofs.Atom.Lanes -- atoms that change cards where they lie

Some atoms move nothing and change cards of the battlefields only.  What such an atom
makes of a state is told lane by lane: the state after it is the state before it with
other lanes (`Table.withLanes`), and every lane is compared with itself
(`Run.forall₂_lanes`).

That nothing off the lanes changes rests on the names of a run: on a table without
repetition the name of a card on a lane is the name of no building, no card of a hand
and no card of a pile (`Table.not_mem_of_field`).
-/
import LaneDuel.Proofs.Effect.Shrinking

namespace LaneDuel

set_option autoImplicit false

namespace Table

variable {ν σ α β : Type}

/-- A table with the lanes of another one. -/
def withLanes (t u : Table ν σ α) : Table ν σ α :=
  { t with red.battlefield := u.red.battlefield, blue.battlefield := u.blue.battlefield }

@[simp] theorem player_withLanes (t u : Table ν σ α) (s : Side) :
    (t.withLanes u).player s
      = { t.player s with battlefield := (u.player s).battlefield } := by cases s <;> rfl

/-- On a table without repetition a card that lies on a lane lies nowhere else. -/
theorem not_mem_of_field {t : Table ν σ α} (once : t.cards.Nodup) {s : Side} {a : α}
    (onField : a ∈ (t.player s).fieldCards) :
    (∀ s', some a ∉ (t.player s').buildings ∧ a ∉ (t.player s').hand) ∧ ∀ p, a ∉ t.pile p := by
  classical
  have atMost := List.nodup_iff_count_le_one.mp once a
  rw [count_cards t s] at atMost
  simp only [Player.cards, List.count_append] at atMost
  -- the one place that the count allows is taken
  have lies := List.count_pos_iff.mpr onField
  simp only [Player.fieldCards] at lies
  constructor
  · simp only [← mem_taken, ← List.count_eq_zero]
    rw [Side.forall_iff s]
    omega
  · intro p
    rw [← List.count_eq_zero]
    cases p <;> simp only [pile] <;> omega

/-- Read through two functions that agree off the lanes, a table differs in its lanes
alone. -/
theorem map_eq_withLanes {t : Table ν σ α} (once : t.cards.Nodup) {f g : α → β}
    (same : ∀ a, (∀ s, a ∉ (t.player s).fieldCards) → g a = f a) :
    t.map g = (t.map f).withLanes (t.map g) := by
  have off : ∀ a, (∃ s, some a ∈ (t.player s).buildings ∨ a ∈ (t.player s).hand) ∨
      (∃ p, a ∈ t.pile p) → g a = f a := by
    intro a lies
    refine same a fun s onField => ?_
    obtain ⟨houses, piles⟩ := not_mem_of_field once onField
    rcases lies with ⟨s', built | held⟩ | ⟨p, there⟩
    · exact (houses s').1 built
    · exact (houses s').2 held
    · exact piles p there
  have piles : ∀ p, (t.pile p).map g = (t.pile p).map f :=
    fun p => List.map_congr_left fun a there => off a (.inr ⟨p, there⟩)
  refine ext_players ?_ (piles .deck) (piles .miracleDeck) (piles .discardPile) rfl
  intro s
  have hand : (t.player s).hand.map g = (t.player s).hand.map f :=
    List.map_congr_left fun a held => off a (.inl ⟨s, .inr held⟩)
  have buildings : (t.player s).buildings.map (Option.map g)
      = (t.player s).buildings.map (Option.map f) := by
    refine List.map_congr_left fun lane member => ?_
    cases lane with
    | none => rfl
    | some a => exact congrArg some (off a (.inl ⟨s, .inl member⟩))
  simp only [player_map, player_withLanes, Player.map, hand, buildings]

/-- Where the lanes of one side are those of the table itself, the other side's are all
that another table's lanes change. -/
theorem withLanes_eq_modifyPlayer {t u : Table ν σ α} {s : Side}
    (still : (u.player s.opponent).battlefield = (t.player s.opponent).battlefield) :
    t.withLanes u
      = t.modifyPlayer s fun p => { p with battlefield := (u.player s).battlefield } := by
  refine ext_players ?_ (by simp [withLanes]) (by simp [withLanes]) (by simp [withLanes])
    (by simp [withLanes])
  rw [Side.forall_iff s]
  simp [still]

end Table

namespace Run

variable {ρ : Type}

section Once

variable {r : Run ρ} (once : r.table.cards.Nodup)
include once

theorem lanes_nodup (s : Side) : (r.field s ++ r.field s.opponent).Nodup :=
  (r.table.fieldCards_both_perm s).nodup_iff.mp
    ((Table.fieldCards_both_sublist r.table).nodup once)

theorem field_nodup (s : Side) : (r.field s).Nodup := (List.nodup_append.mp (lanes_nodup once s)).1

/-- No card stands on both sides. -/
theorem not_mem_field_opponent {s : Side} {o : Origin} (here : o ∈ r.field s) :
    o ∉ r.field s.opponent :=
  fun there => (List.nodup_append.mp (lanes_nodup once s)).2.2 o here o there rfl

end Once

/-- The lanes of two stages between which no card has moved, lane by lane: empty ones stay
empty, and a card is compared with itself. -/
theorem forall₂_lanes {r r' : Run ρ} (still : r'.table = r.table) {s : Side}
    {R : Card → Card → Prop} (each : ∀ o ∈ r.field s, R (r.cards o) (r'.cards o)) :
    List.Forall₂ (Option.Rel R) (r.snapshot.player s).battlefield
      (r'.snapshot.player s).battlefield := by
  rw [battlefield_snapshot, battlefield_snapshot, still, List.forall₂_map_left_iff,
    List.forall₂_map_right_iff, List.forall₂_same]
  intro lane member
  cases lane with
  | none => exact .none
  | some o => exact .some (each o (mem_taken.mpr member))

end Run

end LaneDuel
