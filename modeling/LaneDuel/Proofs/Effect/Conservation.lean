/-
# LaneDuel.Proofs.Effect.Conservation -- an effect loses and doubles no card

A move rearranges the table (`Table.Rearranges`): the same cards lie on it, every
building slot is as it was, and the lanes are as many as before, up to an exchange
of the sides.  Every effect rearranges the table and keeps the lasting part of
every card (`Run.Conserves`); `perform_conserves` says so of all atoms at once.

Moves are shown to lose nothing by counting how often a name lies on the table.
Only the exchange of hands needs more: it takes cards out by instance id, so the
ids must be distinct and chance must not choose a card twice.
-/
import LaneDuel.Proofs.Effect.Edits
import LaneDuel.Proofs.Random

namespace LaneDuel

set_option autoImplicit false

namespace Side

theorem forall_iff (s : Side) {P : Side → Prop} : (∀ s', P s') ↔ P s ∧ P s.opponent := by
  constructor
  · intro h
    exact ⟨h s, h s.opponent⟩
  · rintro ⟨own, other⟩ s'
    rcases eq_or_eq_opponent s s' with rfl | rfl
    · exact own
    · exact other

end Side

/-! ## Rearranged tables -/

namespace Table

variable {ν σ α : Type}

/-- The same cards lie on the table, buildings stand where they stood, and the
battlefields have their lengths, exchanged or not. -/
structure Rearranges (t t' : Table ν σ α) : Prop where
  cards : t'.cards.Perm t.cards
  buildings : ∀ s, (t'.player s).buildings = (t.player s).buildings
  lanes : (∀ s, (t'.player s).battlefield.length = (t.player s).battlefield.length) ∨
    ∀ s, (t'.player s).battlefield.length = (t.player s.opponent).battlefield.length

namespace Rearranges

variable {t t' t'' : Table ν σ α}

theorem refl (t : Table ν σ α) : t.Rearranges t :=
  ⟨List.Perm.refl _, fun _ => rfl, Or.inl fun _ => rfl⟩

theorem trans (h : t.Rearranges t') (h' : t'.Rearranges t'') : t.Rearranges t'' where
  cards := h'.cards.trans h.cards
  buildings s := (h'.buildings s).trans (h.buildings s)
  lanes := by
    rcases h.lanes with same | crossed
    · rcases h'.lanes with same' | crossed'
      · exact Or.inl fun s => (same' s).trans (same s)
      · exact Or.inr fun s => (crossed' s).trans (same s.opponent)
    · rcases h'.lanes with same' | crossed'
      · exact Or.inr fun s => (same' s).trans (crossed s)
      · refine Or.inl fun s => (crossed' s).trans ?_
        rw [crossed, Side.opponent_opponent]

/-- The lanes and buildings stay, the cards too. -/
theorem of_cards (cards : t'.cards.Perm t.cards)
    (lanes : ∀ s, (t'.player s).battlefield = (t.player s).battlefield)
    (buildings : ∀ s, (t'.player s).buildings = (t.player s).buildings) : t.Rearranges t' :=
  ⟨cards, buildings, Or.inl fun s => congrArg List.length (lanes s)⟩

/-- One player's hand and the piles change, with the same cards in all. -/
theorem of_deal (t : Table ν σ α) (s : Side) (f : Player ν α → Player ν α) (d m p : List α)
    (lanes : (f (t.player s)).battlefield = (t.player s).battlefield)
    (buildings : (f (t.player s)).buildings = (t.player s).buildings)
    (same : ((f (t.player s)).hand ++ d ++ m ++ p).Perm
      ((t.player s).hand ++ t.deck ++ t.miracleDeck ++ t.discardPile)) :
    t.Rearranges ((Table.mk t.red t.blue d m p t.signals).modifyPlayer s f) := by
  apply of_cards
  · classical
    rw [List.perm_iff_count]
    intro a
    have dealt := same.count_eq a
    rw [count_cards _ s, count_cards t s]
    simp only [List.count_append] at dealt
    simp only [player_modifyPlayer_self, player_modifyPlayer_opponent, player_mk,
      modifyPlayer_deck, modifyPlayer_miracleDeck, modifyPlayer_discardPile, Player.cards,
      lanes, buildings, List.count_append]
    omega
  · rw [Side.forall_iff s]
    simp [lanes]
  · rw [Side.forall_iff s]
    simp [buildings]

/-- One player's health or coins change. -/
theorem of_numbers (t : Table ν σ α) (s : Side) (f : Player ν α → Player ν α)
    (lanes : (f (t.player s)).battlefield = (t.player s).battlefield)
    (buildings : (f (t.player s)).buildings = (t.player s).buildings)
    (hand : (f (t.player s)).hand = (t.player s).hand) :
    t.Rearranges (t.modifyPlayer s f) :=
  of_deal t s f t.deck t.miracleDeck t.discardPile lanes buildings (by rw [hand])

theorem of_signals (t : Table ν σ α) (g : σ) : t.Rearranges { t with signals := g } :=
  of_cards (List.Perm.refl _) (fun s => by rw [player_mk]) (fun s => by rw [player_mk])

end Rearranges

/-! ## Moves of the lanes -/

/-- Emptying a lane takes its card off. -/
theorem taken_set_none {lanes : List (Option α)} {i : Nat} {c : α}
    (h : lanes[i]? = some (some c)) :
    (c :: (lanes.set i none).filterMap id).Perm (lanes.filterMap id) := by
  induction lanes generalizing i with
  | nil => simp at h
  | cons lane lanes ih =>
      cases i with
      | zero =>
          simp only [List.getElem?_cons_zero, Option.some.injEq] at h
          subst h
          exact List.Perm.refl _
      | succ i =>
          have rest := ih (by simpa using h)
          rw [List.set_cons_succ]
          cases lane with
          | none => exact rest
          | some d => exact (List.Perm.swap d c _).trans (rest.cons d)

theorem clearLane_discard_rearranges {t : Table ν σ α} {slot : Slot} {c : α}
    (onField : slot.zone = .battlefield) (there : t.cardAt slot = some c) :
    t.Rearranges ((t.clearLane slot.side slot.index).discard [c]) := by
  rw [cardAt, Option.join_eq_some_iff, onField] at there
  refine ⟨?_, ?_, Or.inl ?_⟩
  · classical
    rw [List.perm_iff_count]
    intro a
    have moved := (taken_set_none there).count_eq a
    rw [count_cards _ slot.side, count_cards t slot.side]
    simp only [discard, clearLane, player_mk, player_modifyPlayer_self,
      player_modifyPlayer_opponent, modifyPlayer_deck, modifyPlayer_miracleDeck,
      modifyPlayer_discardPile, Player.cards, List.count_append]
    rw [← List.singleton_append, List.count_append] at moved
    simp only [Player.zone] at moved
    omega
  · rw [Side.forall_iff slot.side]
    simp [discard, clearLane]
  · rw [Side.forall_iff slot.side]
    simp [discard, clearLane]

theorem taken_sweep (goes : α → Bool) (lanes : List (Option α)) :
    (Effect.sweep goes lanes).filterMap id
      = (lanes.filterMap id).filter fun o => !goes o := by
  rw [Effect.sweep, List.filterMap_map, List.filter_filterMap]
  rfl

end Table

/-! ## Runs that conserve the cards -/

namespace Run

variable {ρ : Type}

/-- A later stage of a run has the cards of an earlier one. -/
structure Conserves (r r' : Run ρ) : Prop where
  table : r.table.Rearranges r'.table
  lasting : ∀ o, (r'.cards o).lasting = (r.cards o).lasting

namespace Conserves

variable {r r' r'' : Run ρ}

theorem refl (r : Run ρ) : r.Conserves r := ⟨.refl _, fun _ => rfl⟩

theorem trans (h : r.Conserves r') (h' : r'.Conserves r'') : r.Conserves r'' :=
  ⟨h.table.trans h'.table, fun o => (h'.lasting o).trans (h.lasting o)⟩

/-- Only cards were changed, in their stats and marks. -/
theorem of_edits (table : r'.table = r.table)
    (lasting : ∀ o, (r'.cards o).lasting = (r.cards o).lasting) : r.Conserves r' :=
  ⟨table ▸ .refl _, lasting⟩

/-- Only the table was rearranged. -/
theorem of_moves (table : r.table.Rearranges r'.table) (cards : r'.cards = r.cards) :
    r.Conserves r' :=
  ⟨table, fun o => by rw [cards]⟩

theorem of_fold {step : Run ρ → Origin → Run ρ} (each : ∀ (r : Run ρ) o, r.Conserves (step r o))
    (r : Run ρ) (os : List Origin) : r.Conserves (os.foldl step r) := by
  induction os generalizing r with
  | nil => exact refl r
  | cons o os ih => exact (each r o).trans (ih (step r o))

theorem instanceId (h : r.Conserves r') (o : Origin) :
    (r'.cards o).instanceId = (r.cards o).instanceId :=
  Card.instanceId_eq (h.lasting o)

theorem mem_cards_iff (h : r.Conserves r') (o : Origin) :
    o ∈ r'.table.cards ↔ o ∈ r.table.cards :=
  h.table.cards.mem_iff

theorem ids (h : r.Conserves r') :
    (r'.table.cards.map fun o => (r'.cards o).instanceId).Perm
      (r.table.cards.map fun o => (r.cards o).instanceId) := by
  simp only [h.instanceId]
  exact h.table.cards.map _

theorem distinct (h : r.Conserves r') (distinct : r.Distinct) : r'.Distinct :=
  h.ids.nodup_iff.mpr distinct

end Conserves

theorem tell_conserves (r : Run ρ) (es : List Event) : r.Conserves (r.tell es) :=
  .of_moves (.refl _) rfl

theorem edit_conserves {change : Card → Card × List Event} (lasts : Effect.Lasts change)
    (r : Run ρ) (o : Origin) : r.Conserves (r.edit change o) :=
  .of_edits rfl (edit_lasting lasts r o)

theorem reach_conserves {change : Card → Card × List Event} (lasts : Effect.Lasts change)
    (b : Binding) (f : TargetFilter) (r : Run ρ) : r.Conserves (r.reach b f change) :=
  .of_edits (reach_table r b f change) (reach_lasting lasts r b f)

end Run

end LaneDuel
