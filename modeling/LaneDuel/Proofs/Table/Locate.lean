/-
# LaneDuel.Proofs.Table.Locate -- what a search finds

A search is sound and complete: `locate` answers a taken slot of the zones asked
for whose card passes the test, and answers nothing only where there is none
(`locate_eq_some`, `locate_eq_none_iff`).  Which slot comes first matters only
while several cards pass; where one card at most does, the card found is told by
membership alone (`findCard_eq_some_iff`).
-/
import LaneDuel.Proofs.Table.Basic

namespace LaneDuel.Table

set_option autoImplicit false

universe u v

variable {ν σ : Type} {α : Type u} {β : Type v}

/-! ## Taken slots -/

theorem mem_occupiedIn {t : Table ν σ α} {zone : Zone} {side : Side} {slot : Slot} {c : α} :
    (slot, c) ∈ t.occupiedIn zone side ↔
      slot.side = side ∧ slot.zone = zone ∧ t.cardAt slot = some c := by
  simp only [occupiedIn, List.mem_filterMap, Prod.exists, List.mem_zipIdx_iff_getElem?, cardAt,
    Option.join_eq_some_iff]
  constructor
  · rintro ⟨lane, index, found, same⟩
    cases lane with
    | none => simp at same
    | some d =>
        simp only [Option.map_some, Option.some.injEq, Prod.mk.injEq] at same
        obtain ⟨rfl, rfl⟩ := same
        exact ⟨rfl, rfl, found⟩
  · rintro ⟨rfl, rfl, found⟩
    exact ⟨some c, slot.index, found, rfl⟩

theorem mem_occupied {t : Table ν σ α} {zones : List Zone} {slot : Slot} {c : α} :
    (slot, c) ∈ t.occupied zones ↔ slot.zone ∈ zones ∧ t.cardAt slot = some c := by
  simp only [occupied, List.mem_flatMap, mem_occupiedIn]
  constructor
  · rintro ⟨zone, asked, side, -, rfl, rfl, found⟩
    exact ⟨asked, found⟩
  · rintro ⟨asked, found⟩
    exact ⟨slot.zone, asked, slot.side, Side.mem_both slot.side, rfl, rfl, found⟩

theorem occupiedIn_map_snd (t : Table ν σ α) (zone : Zone) (side : Side) :
    (t.occupiedIn zone side).map Prod.snd = ((t.player side).zone zone).filterMap id := by
  rw [occupiedIn, List.map_filterMap]
  conv_rhs => rw [← List.zipIdx_map_fst 0 ((t.player side).zone zone), List.filterMap_map]
  refine List.filterMap_congr fun p _ => ?_
  rcases p with ⟨card, index⟩
  cases card <;> rfl

theorem mem_fieldCards_both {t : Table ν σ α} {a : α} :
    a ∈ t.fieldCards Side.both ↔ ∃ slot, slot.zone = .battlefield ∧ t.cardAt slot = some a := by
  have listed : t.fieldCards Side.both = (t.occupied [.battlefield]).map Prod.snd := by
    simp only [fieldCards, occupied, List.flatMap_singleton, List.map_flatMap, occupiedIn_map_snd]
    rfl
  simp only [listed, List.mem_map, Prod.exists, exists_eq_right, mem_occupied,
    List.mem_singleton]

theorem mem_cards_of_cardAt {t : Table ν σ α} {slot : Slot} {c : α}
    (h : t.cardAt slot = some c) : c ∈ t.cards := by
  rw [cardAt, Option.join_eq_some_iff] at h
  exact mem_cards_of_player (Player.mem_cards_of_zone (List.mem_of_getElem? h))

/-! ## Searching -/

theorem locate_eq_some {t : Table ν σ α} {hit : α → Bool} {zones : List Zone} {slot : Slot}
    (h : t.locate hit zones = some slot) :
    slot.zone ∈ zones ∧ ∃ c, t.cardAt slot = some c ∧ hit c := by
  obtain ⟨⟨slot', c⟩, found, rfl⟩ := Option.map_eq_some_iff.mp h
  obtain ⟨asked, there⟩ := mem_occupied.mp (List.mem_of_find?_eq_some found)
  have passes := List.find?_some found
  exact ⟨asked, c, there, passes⟩

theorem locate_eq_none_iff {t : Table ν σ α} {hit : α → Bool} {zones : List Zone} :
    t.locate hit zones = none ↔
      ∀ slot c, slot.zone ∈ zones → t.cardAt slot = some c → hit c = false := by
  simp only [locate, Option.map_eq_none_iff, List.find?_eq_none, Prod.forall, mem_occupied,
    Bool.not_eq_true, and_imp]

theorem findCard_eq_some {t : Table ν σ α} {hit : α → Bool} {zones : List Zone} {c : α}
    (h : t.findCard hit zones = some c) :
    hit c ∧ ∃ slot, slot.zone ∈ zones ∧ t.cardAt slot = some c := by
  obtain ⟨slot, located, there⟩ := Option.bind_eq_some_iff.mp h
  obtain ⟨asked, c', there', passes⟩ := locate_eq_some located
  have same : c' = c := Option.some.inj (there'.symm.trans there)
  exact ⟨same ▸ passes, slot, asked, there⟩

theorem findCard_eq_none_iff {t : Table ν σ α} {hit : α → Bool} {zones : List Zone} :
    t.findCard hit zones = none ↔
      ∀ slot c, slot.zone ∈ zones → t.cardAt slot = some c → hit c = false := by
  rw [← locate_eq_none_iff, findCard, Option.bind_eq_none_iff]
  constructor
  · intro never
    cases located : t.locate hit zones with
    | none => rfl
    | some slot =>
        obtain ⟨-, c, there, -⟩ := locate_eq_some located
        rw [never slot located] at there
        cases there
  · intro missing slot located
    rw [missing] at located
    cases located

/-- Where at most one card passes the test, the order of search does not matter. -/
theorem findCard_eq_some_iff {t : Table ν σ α} {hit : α → Bool} {zones : List Zone}
    (unique : ∀ a ∈ t.cards, ∀ b ∈ t.cards, hit a → hit b → a = b) {c : α} :
    t.findCard hit zones = some c ↔
      hit c ∧ ∃ slot, slot.zone ∈ zones ∧ t.cardAt slot = some c := by
  refine ⟨findCard_eq_some, ?_⟩
  rintro ⟨passes, slot, asked, there⟩
  cases found : t.findCard hit zones with
  | none =>
      have fails := findCard_eq_none_iff.mp found slot c asked there
      rw [passes] at fails
      cases fails
  | some d =>
      obtain ⟨passes', slot', -, there'⟩ := findCard_eq_some found
      rw [unique d (mem_cards_of_cardAt there') c (mem_cards_of_cardAt there) passes' passes]

/-! ## Searching a table read through a function -/

@[simp] theorem cardAt_map (f : α → β) (t : Table ν σ α) (slot : Slot) :
    (t.map f).cardAt slot = (t.cardAt slot).map f := by
  simp only [cardAt, player_map, Player.zone_map, List.getElem?_map]
  cases ((t.player slot.side).zone slot.zone)[slot.index]? <;> rfl

theorem occupied_map (f : α → β) (t : Table ν σ α) (zones : List Zone) :
    (t.map f).occupied zones = (t.occupied zones).map fun (slot, c) => (slot, f c) := by
  have inZone : ∀ zone side, (t.map f).occupiedIn zone side
      = (t.occupiedIn zone side).map fun (slot, c) => (slot, f c) := by
    intro zone side
    simp only [occupiedIn, player_map, Player.zone_map, List.zipIdx_map, List.filterMap_map,
      List.map_filterMap]
    congr 1
    funext ⟨lane, index⟩
    cases lane <;> rfl
  simp only [occupied, inZone, List.map_flatMap]

theorem locate_map (f : α → β) (t : Table ν σ α) (hit : β → Bool) (zones : List Zone) :
    (t.map f).locate hit zones = t.locate (fun a => hit (f a)) zones := by
  simp only [locate, occupied_map, List.find?_map, Option.map_map]
  rfl

end LaneDuel.Table
