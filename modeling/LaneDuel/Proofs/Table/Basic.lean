/-
# LaneDuel.Proofs.Table.Basic -- reading a table after a change

What a change leaves alone, and what it does to the cards as a whole.

* `player_modifyPlayer_*`: a change to one player is seen on that side only.
* `count_cards`: how often a card lies on a table, counted from either side.
  Moves are shown to lose nothing by this count.
* `map_map`, `map_congr`: a table of names read as cards, and renamed.
-/
import Mathlib.Data.List.Perm.Basic
import LaneDuel.Table.Locate

namespace LaneDuel

set_option autoImplicit false

universe u v w

namespace Side

@[simp] theorem ne_opponent (s : Side) : s ≠ s.opponent := (opponent_ne s).symm

theorem eq_or_eq_opponent (s s' : Side) : s' = s ∨ s' = s.opponent := by
  cases s <;> cases s' <;> simp [opponent]

theorem mem_both (s : Side) : s ∈ both := by cases s <;> decide

end Side

/-! ## Lanes -/

/-- The cards on some lanes, after each card was replaced. -/
theorem taken_map {α : Type u} {β : Type v} (f : α → β) (lanes : List (Option α)) :
    (lanes.map (Option.map f)).filterMap id = (lanes.filterMap id).map f := by
  rw [List.filterMap_map, List.map_filterMap]
  rfl

theorem mem_taken {α : Type u} {lanes : List (Option α)} {a : α} :
    a ∈ lanes.filterMap id ↔ some a ∈ lanes := by
  rw [List.mem_filterMap]
  constructor
  · rintro ⟨lane, member, eq⟩
    exact (eq : lane = some a) ▸ member
  · intro member
    exact ⟨some a, member, rfl⟩

namespace Player

variable {ν : Type} {α : Type u} {β : Type v} {γ : Type w}

@[simp] theorem zone_map (f : α → β) (p : Player ν α) (z : Zone) :
    (p.map f).zone z = (p.zone z).map (Option.map f) := by
  cases z <;> simp [zone, map, Function.comp_def]

@[simp] theorem fieldCards_map (f : α → β) (p : Player ν α) :
    (p.map f).fieldCards = p.fieldCards.map f :=
  taken_map f p.battlefield

@[simp] theorem cards_map (f : α → β) (p : Player ν α) :
    (p.map f).cards = p.cards.map f := by
  simp only [cards, map, taken_map, List.map_append]

theorem map_map (f : α → β) (g : β → γ) (p : Player ν α) :
    (p.map f).map g = p.map (g ∘ f) := by
  simp [map]

theorem mem_cards {p : Player ν α} {a : α} :
    a ∈ p.cards ↔ some a ∈ p.battlefield ∨ some a ∈ p.buildings ∨ a ∈ p.hand := by
  simp only [cards, List.mem_append, mem_taken, or_assoc]

theorem cards_eq_flatMap (p : Player ν α) :
    p.cards = [Zone.battlefield, .buildings, .hand].flatMap fun z =>
      (p.zone z).filterMap id := by
  simp [cards, zone, List.filterMap_map]

theorem map_congr {f g : α → β} {p : Player ν α} (same : ∀ a ∈ p.cards, f a = g a) :
    p.map f = p.map g := by
  have lanes : ∀ l : List (Option α), (∀ a, some a ∈ l → f a = g a) →
      l.map (Option.map f) = l.map (Option.map g) := by
    intro l agree
    apply List.map_congr_left
    intro lane member
    cases lane with
    | none => rfl
    | some a => exact congrArg some (agree a member)
  have battlefield := lanes p.battlefield fun a h => same a (mem_cards.mpr (.inl h))
  have buildings := lanes p.buildings fun a h => same a (mem_cards.mpr (.inr (.inl h)))
  have hand : p.hand.map f = p.hand.map g :=
    List.map_congr_left fun a h => same a (mem_cards.mpr (.inr (.inr h)))
  simp only [map, battlefield, buildings, hand]

/-- What lies in a zone is one of the player's cards. -/
theorem mem_cards_of_zone {p : Player ν α} {z : Zone} {a : α} (h : some a ∈ p.zone z) :
    a ∈ p.cards := by
  rw [mem_cards]
  cases z with
  | battlefield => exact .inl h
  | buildings => exact .inr (.inl h)
  | hand => exact .inr (.inr (by simpa [zone] using h))

end Player

namespace Table

variable {ν σ : Type} {α : Type u} {β : Type v} {γ : Type w}

/-! ## A change to one player -/

@[simp] theorem player_modifyPlayer_self (t : Table ν σ α) (s : Side)
    (f : Player ν α → Player ν α) : (t.modifyPlayer s f).player s = f (t.player s) :=
  player_setPlayer_self t s _

@[simp] theorem player_modifyPlayer_opponent (t : Table ν σ α) (s : Side)
    (f : Player ν α → Player ν α) :
    (t.modifyPlayer s f).player s.opponent = t.player s.opponent :=
  player_setPlayer_ne t _ (Side.opponent_ne s)

@[simp] theorem player_modifyPlayer_of_opponent (t : Table ν σ α) (s : Side)
    (f : Player ν α → Player ν α) :
    (t.modifyPlayer s.opponent f).player s = t.player s :=
  player_setPlayer_ne t _ (Side.ne_opponent s)

@[simp] theorem modifyPlayer_deck (t : Table ν σ α) (s : Side) (f : Player ν α → Player ν α) :
    (t.modifyPlayer s f).deck = t.deck := by cases s <;> rfl

@[simp] theorem modifyPlayer_miracleDeck (t : Table ν σ α) (s : Side)
    (f : Player ν α → Player ν α) :
    (t.modifyPlayer s f).miracleDeck = t.miracleDeck := by cases s <;> rfl

@[simp] theorem modifyPlayer_discardPile (t : Table ν σ α) (s : Side)
    (f : Player ν α → Player ν α) :
    (t.modifyPlayer s f).discardPile = t.discardPile := by cases s <;> rfl

@[simp] theorem modifyPlayer_signals (t : Table ν σ α) (s : Side)
    (f : Player ν α → Player ν α) : (t.modifyPlayer s f).signals = t.signals := by
  cases s <;> rfl

theorem modifyPlayer_eq_self {t : Table ν σ α} {s : Side} {f : Player ν α → Player ν α}
    (same : f (t.player s) = t.player s) : t.modifyPlayer s f = t := by
  rw [modifyPlayer, same]
  cases s <;> rfl

/-- Changing the piles or the signals leaves both players alone. -/
@[simp] theorem player_mk (t : Table ν σ α) (d m p : List α) (g : σ) (s : Side) :
    (Table.mk t.red t.blue d m p g).player s = t.player s := by cases s <;> rfl

/-- Two tables are equal when both players, all piles and the signals are. -/
theorem ext_players {t t' : Table ν σ α} (players : ∀ s, t.player s = t'.player s)
    (deck : t.deck = t'.deck) (miracleDeck : t.miracleDeck = t'.miracleDeck)
    (discardPile : t.discardPile = t'.discardPile) (signals : t.signals = t'.signals) :
    t = t' := by
  have red := players .red
  have blue := players .blue
  cases t; cases t'
  simp_all [player]

/-! ## A table read through a function -/

@[simp] theorem player_map (f : α → β) (t : Table ν σ α) (s : Side) :
    (t.map f).player s = (t.player s).map f := by cases s <;> rfl

@[simp] theorem cards_map (f : α → β) (t : Table ν σ α) : (t.map f).cards = t.cards.map f := by
  simp [cards, map]

theorem map_map (f : α → β) (g : β → γ) (t : Table ν σ α) :
    (t.map f).map g = t.map (g ∘ f) := by
  simp [map, Player.map_map]

theorem map_congr {f g : α → β} {t : Table ν σ α} (same : ∀ a ∈ t.cards, f a = g a) :
    t.map f = t.map g := by
  have piles : ∀ l : List α, (∀ a ∈ l, a ∈ t.cards) → l.map f = l.map g :=
    fun l sub => List.map_congr_left fun a h => same a (sub a h)
  have red : t.red.map f = t.red.map g :=
    Player.map_congr fun a h => same a (by simp [cards, h])
  have blue : t.blue.map f = t.blue.map g :=
    Player.map_congr fun a h => same a (by simp [cards, h])
  simp only [map, red, blue, piles t.deck fun a h => by simp [cards, h],
    piles t.miracleDeck fun a h => by simp [cards, h],
    piles t.discardPile fun a h => by simp [cards, h]]

theorem fieldCards_map (f : α → β) (t : Table ν σ α) (sides : List Side) :
    (t.map f).fieldCards sides = (t.fieldCards sides).map f := by
  simp [fieldCards, List.map_flatMap]

/-! ## Counting cards -/

/-- How often a card lies on a table: with one player, with the other, in the piles. -/
theorem count_cards [DecidableEq α] (t : Table ν σ α) (s : Side) (a : α) :
    t.cards.count a = (t.player s).cards.count a + (t.player s.opponent).cards.count a
      + t.deck.count a + t.miracleDeck.count a + t.discardPile.count a := by
  cases s with
  | red => simp only [cards, player, Side.opponent, List.count_append]
  | blue =>
      simp only [cards, player, Side.opponent, List.count_append]
      omega

theorem mem_cards {t : Table ν σ α} {a : α} :
    a ∈ t.cards ↔ (∃ s, a ∈ (t.player s).cards) ∨ ∃ p, a ∈ t.pile p := by
  simp only [cards, List.mem_append]
  constructor
  · rintro ((((red | blue) | deck) | miracleDeck) | discardPile)
    · exact .inl ⟨.red, red⟩
    · exact .inl ⟨.blue, blue⟩
    · exact .inr ⟨.deck, deck⟩
    · exact .inr ⟨.miracleDeck, miracleDeck⟩
    · exact .inr ⟨.discardPile, discardPile⟩
  · rintro (⟨s, held⟩ | ⟨p, lies⟩)
    · cases s <;> simp_all [player]
    · cases p <;> simp_all [pile]

theorem mem_cards_of_player {t : Table ν σ α} {s : Side} {a : α} (h : a ∈ (t.player s).cards) :
    a ∈ t.cards :=
  mem_cards.mpr (.inl ⟨s, h⟩)

theorem hand_sublist_cards (t : Table ν σ α) (s : Side) : (t.player s).hand.Sublist t.cards := by
  have own : (t.player s).hand.Sublist (t.player s).cards := List.sublist_append_right _ _
  refine own.trans ?_
  cases s with
  | red =>
      simp only [cards, List.append_assoc]
      exact List.sublist_append_left _ _
  | blue =>
      simp only [cards, List.append_assoc]
      exact (List.sublist_append_left _ _).trans (List.sublist_append_right _ _)

theorem fieldCards_both_sublist (t : Table ν σ α) : (t.fieldCards Side.both).Sublist t.cards := by
  have lanes : ∀ p : Player ν α, p.fieldCards.Sublist p.cards := fun p =>
    (List.sublist_append_left _ _).trans (List.sublist_append_left _ _)
  have players : (t.fieldCards Side.both).Sublist (t.red.cards ++ t.blue.cards) := by
    simp only [fieldCards, Side.both, List.flatMap_cons, List.flatMap_nil, List.append_nil]
    exact (lanes t.red).append (lanes t.blue)
  simp only [cards, List.append_assoc] at players ⊢
  exact players.trans ((List.sublist_append_left _ _).append_left _)

end Table

end LaneDuel
