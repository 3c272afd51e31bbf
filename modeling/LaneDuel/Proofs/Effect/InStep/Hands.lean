/-
# LaneDuel.Proofs.Effect.InStep.Hands -- decks, discards and hands, in step

Drawing, shuffling back and the exchange of hands keep corresponding runs in step.
Shuffling and picking ask the source for positions only, so renamed cards come out
in the renamed order with the same source left over.
-/
import LaneDuel.Proofs.Effect.Moves
import LaneDuel.Proofs.Effect.Target

namespace LaneDuel

set_option autoImplicit false

open Correspondence (Matches)

namespace Effect

variable {φ : Correspondence} {ρ : Type} {l r : Run ρ} {b : Binding}

/-! ## Piles and hands -/

/-- A new hand of cards of the game. -/
theorem hand_matches (h : φ.Matches l r) {s : Side} (hand hand' : List Origin → List Origin)
    (same : hand' ((l.table.player s).hand.map φ.name)
      = (hand (l.table.player s).hand).map φ.name)
    (alive : ∀ o ∈ hand (l.table.player s).hand, φ.live o) :
    φ.Matches (l.modifyPlayer s fun p => { p with hand := hand p.hand })
      (r.modifyPlayer (φ.side s) fun p => { p with hand := hand' p.hand }) := by
  refine h.modifyPlayer ?_ ?_
  · simp only [Player.map, same]
  · intro o held
    rcases Player.mem_cards.mp held with onLane | inBuilding | inHand
    · exact h.live_of_player (Player.mem_cards.mpr (.inl onLane))
    · exact h.live_of_player (Player.mem_cards.mpr (.inr (.inl inBuilding)))
    · exact alive o inHand

theorem addToHand_matches (h : φ.Matches l r) (s : Side) {gained : List Origin}
    (alive : ∀ o ∈ gained, φ.live o) :
    φ.Matches (l.modifyPlayer s (addToHand gained))
      (r.modifyPlayer (φ.side s) (addToHand (gained.map φ.name))) := by
  refine hand_matches h (fun hand => hand ++ gained) (fun hand => hand ++ gained.map φ.name)
    (by rw [List.map_append]) fun o held => ?_
  rcases List.mem_append.mp held with before | fresh
  · exact h.live_of_hand before
  · exact alive o fresh

theorem drawDiscarded_matches (h : φ.Matches l r) (amount : Nat) :
    φ.Matches (drawDiscarded amount b l) (drawDiscarded amount (φ.binding b) r) := by
  have lies := h.live_of_pile .discardPile
  unfold drawDiscarded
  simp only [h.discardPile, List.isEmpty_map, ← List.map_reverse, ← List.map_take,
    ← List.map_drop, φ.binding_player]
  split
  · exact h.tell fun _ => rfl
  · have taken : ∀ o ∈ l.table.discardPile.reverse.take amount, φ.live o :=
      fun o drawn => lies o (List.mem_reverse.mp (List.mem_of_mem_take drawn))
    have kept : ∀ o ∈ (l.table.discardPile.reverse.drop amount).reverse, φ.live o :=
      fun o stays => lies o (List.mem_reverse.mp (List.mem_of_mem_drop (List.mem_reverse.mp stays)))
    generalize (l.table.discardPile.reverse.drop amount).reverse = left at kept ⊢
    have cut := h.piles l.table.deck l.table.miracleDeck left
      (f := fun t => { t with discardPile := left })
      (g := fun t => { t with discardPile := left.map φ.name }) rfl
      (by rw [← h.deck, ← h.miracleDeck]) (h.live_of_pile .deck) (h.live_of_pile .miracleDeck) kept
    refine (addToHand_matches cut b.player taken).tell fun uncrossed => ?_
    rw [List.map_map, φ.side_of_uncrossed uncrossed]
    apply List.map_congr_left
    intro o drawn
    rw [Function.comp_apply, h.cards o (taken o drawn)]

theorem shuffleInto_map [RandomSource ρ] {α β : Type} (f : α → β) (deck cards : List α)
    (source : ρ) : shuffleInto (deck.map f) (cards.map f) source
      = ((shuffleInto deck cards source).1.map f, (shuffleInto deck cards source).2) := by
  unfold shuffleInto
  rw [List.isEmpty_map]
  split
  · rfl
  · rw [← List.map_append, shuffle_map]

theorem shuffleInto_live [RandomSource ρ] {deck cards : List Origin}
    (deckLive : ∀ o ∈ deck, φ.live o) (cardsLive : ∀ o ∈ cards, φ.live o) (source : ρ) :
    ∀ o ∈ (shuffleInto deck cards source).1, φ.live o := by
  intro o lies
  rcases List.mem_append.mp ((shuffleInto_perm deck cards source).mem_iff.mp lies) with old | new
  · exact deckLive o old
  · exact cardsLive o new

theorem redraw_matches [RandomSource ρ] (h : φ.Matches l r) :
    φ.Matches (redraw b l) (redraw (φ.binding b) r) := by
  have held : ∀ o ∈ (l.table.player b.player).hand, φ.live o :=
    fun o inHand => h.live_of_hand inHand
  have miraclesSame := h.filter (·.isMiracle) held
  have normalsSame := h.filter (fun c => !c.isMiracle) held
  have miraclesLive : ∀ o ∈ (l.table.player b.player).hand.filter fun o => (l.cards o).isMiracle,
      φ.live o := fun o kept => held o (List.mem_filter.mp kept).1
  have normalsLive : ∀ o ∈ (l.table.player b.player).hand.filter fun o => !(l.cards o).isMiracle,
      φ.live o := fun o kept => held o (List.mem_filter.mp kept).1
  unfold redraw
  simp only [φ.binding_player, Run.player_eq, h.hand, miraclesSame, normalsSame, h.deck,
    h.miracleDeck, h.source, shuffleInto_map, List.isEmpty_map, List.length_map, ← List.map_take,
    ← List.map_drop, ← List.map_append]
  generalize (l.table.player b.player).hand.filter (fun o => (l.cards o).isMiracle)
    = miracles at miraclesLive ⊢
  generalize (l.table.player b.player).hand.filter (fun o => !(l.cards o).isMiracle)
    = normals at normalsLive ⊢
  by_cases empty : (l.table.player b.player).hand.isEmpty = true
  · simp only [empty, if_true]
    exact h.tell fun _ => rfl
  · simp only [empty, Bool.false_eq_true, if_false]
    have inDeck : ∀ o ∈ l.table.deck, φ.live o := h.live_of_pile .deck
    have inMiracleDeck : ∀ o ∈ l.table.miracleDeck, φ.live o := h.live_of_pile .miracleDeck
    have deckLive := shuffleInto_live inDeck normalsLive l.source
    generalize shuffleInto l.table.deck normals l.source = shuffled at deckLive ⊢
    have miracleLive := shuffleInto_live inMiracleDeck miraclesLive shuffled.2
    generalize shuffleInto l.table.miracleDeck miracles shuffled.2 = shuffledMiracles
      at miracleLive ⊢
    have ahead := h.withSource shuffledMiracles.2
    have left := ahead.piles (shuffled.1.drop normals.length)
      (shuffledMiracles.1.drop miracles.length) l.table.discardPile
      (f := fun t => { t with
        deck := shuffled.1.drop normals.length
        miracleDeck := shuffledMiracles.1.drop miracles.length })
      (g := fun t => { t with
        deck := (shuffled.1.drop normals.length).map φ.name
        miracleDeck := (shuffledMiracles.1.drop miracles.length).map φ.name })
      rfl (by rw [← h.discardPile]) (fun o rest => deckLive o (List.mem_of_mem_drop rest))
      (fun o rest => miracleLive o (List.mem_of_mem_drop rest)) (h.live_of_pile .discardPile)
    have drawn := hand_matches left (s := b.player)
      (fun _ => shuffled.1.take normals.length ++ shuffledMiracles.1.take miracles.length)
      (fun _ => (shuffled.1.take normals.length
        ++ shuffledMiracles.1.take miracles.length).map φ.name) rfl ?_
    · refine drawn.tell fun uncrossed => ?_
      rw [φ.side_of_uncrossed uncrossed]
    · intro o drawn
      rcases List.mem_append.mp drawn with normal | miracle
      · exact deckLive o (List.mem_of_mem_take normal)
      · exact miracleLive o (List.mem_of_mem_take miracle)

theorem drawWanted_matches (h : φ.Matches l r) (base bonus : Nat) :
    φ.Matches (drawWanted base bonus b l) (drawWanted base bonus (φ.binding b) r) := by
  have lies := h.live_of_pile .deck
  have left := h.piles (l.table.deck.drop (base + bonus)) l.table.miracleDeck l.table.discardPile
    (f := fun t => { t with deck := t.deck.drop (base + bonus) })
    (g := fun t => { t with deck := t.deck.drop (base + bonus) }) rfl ?_
    (fun o rest => lies o (List.mem_of_mem_drop rest)) (h.live_of_pile .miracleDeck)
    (h.live_of_pile .discardPile)
  · unfold drawWanted
    simp only [h.deck, φ.binding_player, List.length_map, ← List.map_take]
    refine (addToHand_matches left b.player fun o drawn => ?_).tell fun uncrossed => ?_
    · exact lies o (List.mem_of_mem_take drawn)
    · rw [φ.side_of_uncrossed uncrossed]
  · rw [h.deck, ← List.map_drop, ← h.miracleDeck, ← h.discardPile]

theorem draw_matches (h : φ.Matches l r) (base bonus : Nat)
    (condition : Option FieldRaceCondition) :
    φ.Matches (draw base bonus condition b l) (draw base bonus condition (φ.binding b) r) := by
  have earned : ∀ c, raceOnField c (φ.binding b) r = raceOnField c b l := by
    intro c
    have same := h.anyOnField b.player c.player (·.hasRace c.races)
    rw [List.any_map, List.any_map] at same
    exact same
  unfold draw
  simp only [earned]
  exact drawWanted_matches h base _

/-! ## The exchange of hands -/

theorem without_matches (h : φ.Matches l r) {gone hand : List Origin}
    (goneLive : ∀ o ∈ gone, φ.live o) (handLive : ∀ o ∈ hand, φ.live o) :
    without r.cards (gone.map φ.name) (hand.map φ.name)
      = (without l.cards gone hand).map φ.name := by
  have ids : (gone.map φ.name).map (fun o => (r.cards o).instanceId)
      = gone.map fun o => (l.cards o).instanceId := by
    rw [List.map_map]
    apply List.map_congr_left
    intro o given
    rw [Function.comp_apply, h.cards o (goneLive o given)]
  rw [without, without, ids]
  exact h.filter
    (fun c => !(gone.map fun o => (l.cards o).instanceId).contains c.instanceId) handLive

theorem tradeHand_matches (h : φ.Matches l r) (s : Side) {gone gained : List Origin}
    (goneLive : ∀ o ∈ gone, φ.live o) (gainedLive : ∀ o ∈ gained, φ.live o) :
    φ.Matches (l.modifyPlayer s (tradeHand l.cards gone gained))
      (r.modifyPlayer (φ.side s) (tradeHand r.cards (gone.map φ.name) (gained.map φ.name))) := by
  have handLive : ∀ o ∈ (l.table.player s).hand, φ.live o := fun o held => h.live_of_hand held
  refine hand_matches h (fun hand => without l.cards gone hand ++ gained)
    (fun hand => without r.cards (gone.map φ.name) hand ++ gained.map φ.name) ?_ fun o held => ?_
  · rw [without_matches h goneLive handLive, List.map_append]
  · rcases List.mem_append.mp held with kept | got
    · exact handLive o (List.mem_filter.mp kept).1
    · exact gainedLive o got

theorem exchange_matches (h : φ.Matches l r) {given taken : List Origin}
    (givenLive : ∀ o ∈ given, φ.live o) (takenLive : ∀ o ∈ taken, φ.live o) :
    φ.Matches (exchange given taken b l)
      (exchange (given.map φ.name) (taken.map φ.name) (φ.binding b) r) := by
  unfold exchange
  simp only [List.isEmpty_map, List.length_map, φ.binding_opponent, φ.binding_player]
  by_cases nothing : (given.isEmpty && taken.isEmpty) = true
  · simp only [nothing, if_true]
    exact h.tell fun _ => rfl
  · simp only [nothing, Bool.false_eq_true, if_false]
    have first := tradeHand_matches h b.player givenLive takenLive
    have second := tradeHand_matches first b.player.opponent takenLive givenLive
    exact second.tell fun _ => rfl

theorem eligible_matches (h : φ.Matches l r) (binds : φ.Binds b) :
    eligible (φ.binding b) r = (eligible b l).map φ.name := by
  have held : ∀ o ∈ (l.table.player b.player).hand, φ.live o :=
    fun o inHand => h.live_of_hand inHand
  have kept := h.filter (fun c => c.instanceId != (l.cards b.actor).instanceId) held
  rw [eligible, eligible]
  simp only [φ.binding_player, φ.binding_actor, Run.player_eq, h.hand, h.cards b.actor binds.1]
  exact kept

theorem swapHands_matches [RandomSource ρ] (h : φ.Matches l r) (binds : φ.Binds b)
    (amount : Nat) : φ.Matches (swapHands amount b l) (swapHands amount (φ.binding b) r) := by
  have held : ∀ s, ∀ o ∈ (l.table.player s).hand, φ.live o :=
    fun s o inHand => h.live_of_hand inHand
  unfold swapHands
  simp only [eligible_matches h binds, φ.binding_opponent, Binding.opponent_eq, Run.player_eq,
    h.hand, h.source, List.length_map, pick_map]
  refine exchange_matches (h.withSource _) ?_ ?_
  · intro o chosen
    exact held b.player o (List.mem_filter.mp (mem_of_mem_pick chosen)).1
  · intro o chosen
    exact held b.player.opponent o (mem_of_mem_pick chosen)

end Effect

end LaneDuel
