/-
# LaneDuel.Proofs.Table.Origins -- naming the cards of a table by their places

`Table.origins` names every card by its place and `Table.cardOf` reads the card
of a name.  Reading the names back is the table itself (`origins_map_cardOf`),
also for a table that already holds names of an earlier one; the names depend on
the shape of the table only (`origins_map`), and no two places share one
(`origins_nodup`).
-/
import Mathlib.Data.List.Sigma
import LaneDuel.Effect.Run
import LaneDuel.Proofs.Table.Locate

namespace LaneDuel.Table

set_option autoImplicit false

universe u v

variable {ν σ : Type} {α : Type u} {β : Type v}

@[simp] theorem player_origins (t : Table ν σ α) (s : Side) :
    (origins t).player s = playerOrigins s (t.player s) := by cases s <;> rfl

/-- In every zone the names are those of the taken slots. -/
theorem zone_playerOrigins (s : Side) (p : Player ν α) (z : Zone) :
    (playerOrigins s p).zone z = laneOrigins s z (p.zone z) := by
  cases z with
  | battlefield => rfl
  | buildings => rfl
  | hand => simp [Player.zone, playerOrigins, laneOrigins, List.zipIdx_map, Function.comp_def]

theorem getElem?_laneOrigins (s : Side) (z : Zone) (lanes : List (Option α)) (i : Nat) :
    (laneOrigins s z lanes)[i]? = lanes[i]?.map fun c => c.map fun _ => .slot ⟨s, z, i⟩ := by
  simp only [laneOrigins, List.getElem?_map, List.getElem?_zipIdx, Option.map_map, Nat.zero_add]
  rfl

theorem cardAt_origins (t : Table ν σ α) (slot : Slot) :
    (origins t).cardAt slot = (t.cardAt slot).map fun _ => .slot slot := by
  simp only [cardAt, player_origins, zone_playerOrigins, getElem?_laneOrigins]
  cases ((t.player slot.side).zone slot.zone)[slot.index]? <;> rfl

/-! ## No name is given twice -/

/-- Different lanes have different names. -/
theorem laneOrigins_nodup (s : Side) (z : Zone) (lanes : List (Option α)) :
    ((laneOrigins s z lanes).filterMap id).Nodup := by
  rw [laneOrigins, List.filterMap_map, List.Nodup, List.pairwise_filterMap]
  refine (List.pairwise_map.mp (List.nodup_zipIdx_map_snd lanes)).imp ?_
  rintro ⟨c, i⟩ ⟨d, j⟩ apart o here o' there same
  obtain ⟨-, -, rfl⟩ := Option.map_eq_some_iff.mp (here : c.map _ = some o)
  obtain ⟨-, -, rfl⟩ := Option.map_eq_some_iff.mp (there : d.map _ = some o')
  exact apart (congrArg Slot.index (Origin.slot.inj same))

theorem slot_of_mem_laneOrigins {s : Side} {z : Zone} {lanes : List (Option α)} {o : Origin}
    (member : o ∈ (laneOrigins s z lanes).filterMap id) : ∃ i, o = .slot ⟨s, z, i⟩ := by
  obtain ⟨i, found⟩ := List.mem_iff_getElem?.mp (mem_taken.mp member)
  rw [getElem?_laneOrigins] at found
  obtain ⟨lane, -, named⟩ := Option.map_eq_some_iff.mp found
  obtain ⟨-, -, rfl⟩ := Option.map_eq_some_iff.mp named
  exact ⟨i, rfl⟩

/-- Different cards of a pile have different names. -/
theorem pileOrigins_nodup (p : Pile) (cards : List α) : (pileOrigins p cards).Nodup := by
  refine List.pairwise_map.mpr
    ((List.pairwise_map.mp (List.nodup_zipIdx_map_snd cards)).imp ?_)
  intro a b apart same
  exact apart (Origin.pile.inj same).2

theorem pile_of_mem_pileOrigins {p : Pile} {cards : List α} {o : Origin}
    (member : o ∈ pileOrigins p cards) : ∃ i, o = .pile p i := by
  obtain ⟨a, -, rfl⟩ := List.mem_map.mp member
  exact ⟨a.2, rfl⟩

theorem slot_of_mem_playerOrigins {s : Side} {p : Player ν α} {o : Origin}
    (member : o ∈ (playerOrigins s p).cards) : ∃ z i, o = .slot ⟨s, z, i⟩ := by
  rw [Player.cards_eq_flatMap, List.mem_flatMap] at member
  obtain ⟨z, -, lies⟩ := member
  rw [zone_playerOrigins] at lies
  exact ⟨z, slot_of_mem_laneOrigins lies⟩

theorem playerOrigins_nodup (s : Side) (p : Player ν α) : (playerOrigins s p).cards.Nodup := by
  rw [Player.cards_eq_flatMap, List.nodup_flatMap]
  simp only [zone_playerOrigins]
  have apart : ∀ z z', z ≠ z' → List.Disjoint ((laneOrigins s z (p.zone z)).filterMap id)
      ((laneOrigins s z' (p.zone z')).filterMap id) := by
    intro z z' other o here there
    obtain ⟨i, rfl⟩ := slot_of_mem_laneOrigins here
    obtain ⟨j, same⟩ := slot_of_mem_laneOrigins there
    exact other (congrArg Slot.zone (Origin.slot.inj same))
  have zones : List.Pairwise (· ≠ ·) [Zone.battlefield, .buildings, .hand] := by decide
  exact ⟨fun z _ => laneOrigins_nodup s z _, zones.imp fun other => apart _ _ other⟩

/-- **Different places have different names.** -/
theorem origins_nodup (t : Table ν σ α) : (origins t).cards.Nodup := by
  have players : List.Disjoint (playerOrigins .red t.red).cards
      (playerOrigins .blue t.blue).cards := by
    intro o here there
    obtain ⟨z, i, rfl⟩ := slot_of_mem_playerOrigins here
    obtain ⟨z', j, same⟩ := slot_of_mem_playerOrigins there
    cases same
  have dealt : ∀ s p (q : Player ν α) (l : List α),
      List.Disjoint (playerOrigins s q).cards (pileOrigins p l) := by
    intro s p q l o here there
    obtain ⟨z, i, rfl⟩ := slot_of_mem_playerOrigins here
    obtain ⟨j, same⟩ := pile_of_mem_pileOrigins there
    cases same
  have piles : ∀ p p' (l l' : List α), p ≠ p' →
      List.Disjoint (pileOrigins p l) (pileOrigins p' l') := by
    intro p p' l l' other o here there
    obtain ⟨i, rfl⟩ := pile_of_mem_pileOrigins here
    obtain ⟨j, same⟩ := pile_of_mem_pileOrigins there
    exact other (Origin.pile.inj same).1
  have held := (playerOrigins_nodup .red t.red).append (playerOrigins_nodup .blue t.blue) players
  have deck := held.append (pileOrigins_nodup .deck t.deck)
    (List.disjoint_append_left.mpr ⟨dealt _ _ _ _, dealt _ _ _ _⟩)
  have miracles := deck.append (pileOrigins_nodup .miracleDeck t.miracleDeck)
    (List.disjoint_append_left.mpr ⟨List.disjoint_append_left.mpr
      ⟨dealt _ _ _ _, dealt _ _ _ _⟩, piles _ _ _ _ (by decide)⟩)
  exact miracles.append (pileOrigins_nodup .discardPile t.discardPile)
    (List.disjoint_append_left.mpr ⟨List.disjoint_append_left.mpr
      ⟨List.disjoint_append_left.mpr ⟨dealt _ _ _ _, dealt _ _ _ _⟩,
        piles _ _ _ _ (by decide)⟩, piles _ _ _ _ (by decide)⟩)

/-! ## Reading the names back -/

theorem cardOf_slot (t : Table ν σ α) (actor target : α) {slot : Slot} {c : α}
    (h : t.cardAt slot = some c) : t.cardOf actor target (.slot slot) = c := by
  rw [cardOf, h, Option.getD_some]

theorem zone_map_cardOf (t : Table ν σ α) (actor target : α) (s : Side) (z : Zone) :
    ((playerOrigins s (t.player s)).zone z).map (Option.map (t.cardOf actor target))
      = (t.player s).zone z := by
  apply List.ext_getElem?
  intro i
  rw [zone_playerOrigins, List.getElem?_map, getElem?_laneOrigins]
  cases found : ((t.player s).zone z)[i]? with
  | none => rfl
  | some lane =>
      cases lane with
      | none => rfl
      | some c =>
          have there : t.cardAt ⟨s, z, i⟩ = some c := by rw [cardAt, found, Option.join_some]
          simp only [Option.map_some, cardOf_slot t actor target there]

theorem pile_map_cardOf (t : Table ν σ α) (actor target : α) (p : Pile) :
    (pileOrigins p (t.pile p)).map (t.cardOf actor target) = t.pile p := by
  apply List.ext_getElem?
  intro i
  simp only [pileOrigins, List.getElem?_map, List.getElem?_zipIdx, Option.map_map, Nat.zero_add]
  cases found : (t.pile p)[i]? with
  | none => rfl
  | some c =>
      simp only [Option.map_some, Function.comp_apply, cardOf, found, Option.getD_some]

theorem origins_map_cardOf (t : Table ν σ α) (actor target : α) :
    (origins t).map (t.cardOf actor target) = t := by
  apply ext_players
  · intro s
    have hand := zone_map_cardOf t actor target s .hand
    simp only [Player.zone, List.map_map] at hand
    rw [player_map, player_origins]
    cases same : t.player s with
    | mk health coins battlefield buildings held =>
        have lanes := zone_map_cardOf t actor target s .battlefield
        have houses := zone_map_cardOf t actor target s .buildings
        rw [same] at lanes houses hand
        simp only [Player.map, Player.mk.injEq]
        refine ⟨rfl, rfl, lanes, houses, ?_⟩
        have unwrapped := congrArg (List.filterMap id) hand
        simpa [List.filterMap_map, Function.comp_def] using unwrapped
  · exact pile_map_cardOf t actor target .deck
  · exact pile_map_cardOf t actor target .miracleDeck
  · exact pile_map_cardOf t actor target .discardPile
  · rfl

/-- On a table without repetition a card lies in one slot only: its places have
different names, and reading them back is injective. -/
theorem cardAt_inj {t : Table ν σ α} (distinct : t.cards.Nodup) {slot slot' : Slot} {c : α}
    (here : t.cardAt slot = some c) (there : t.cardAt slot' = some c) : slot = slot' := by
  have named : ∀ place, t.cardAt place = some c → Origin.slot place ∈ (origins t).cards := by
    intro place found
    have holds : (origins t).cardAt place = some (.slot place) := by
      rw [cardAt_origins, found, Option.map_some]
    exact mem_cards_of_cardAt holds
  have read : ((origins t).cards.map (t.cardOf c c)).Nodup := by
    rw [← cards_map, origins_map_cardOf]
    exact distinct
  have same : Origin.slot slot = Origin.slot slot' := by
    apply List.inj_on_of_nodup_map read (named slot here) (named slot' there)
    rw [cardOf_slot t c c here, cardOf_slot t c c there]
  exact Origin.slot.inj same

theorem origins_map (f : α → β) (t : Table ν σ α) : origins (t.map f) = origins t := by
  have lanes : ∀ s z (l : List (Option α)),
      laneOrigins s z (l.map (Option.map f)) = laneOrigins s z l := by
    intro s z l
    apply List.ext_getElem?
    intro i
    rw [getElem?_laneOrigins, getElem?_laneOrigins, List.getElem?_map]
    cases l[i]? with
    | none => rfl
    | some lane => cases lane <;> rfl
  simp [origins, map, playerOrigins, Player.map, pileOrigins, lanes, List.zipIdx_map,
    Function.comp_def]

end LaneDuel.Table
