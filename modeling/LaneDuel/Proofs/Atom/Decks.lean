/-
# LaneDuel.Proofs.Atom.Decks -- a redraw balances, and the decks stay apart

A redraw shuffles a hand back, the miracles into the miracle deck and the rest into the
common deck, and draws as many from each again.  Between a deck and its part of the hand
the cards are only rearranged, whatever chance answers, and nothing else changes
(`State.Redrawn`).  This needs neither a lawful source nor distinct ids, and it holds of an
empty hand, too.

Decks are apart when no miracle lies in the common deck and nothing but miracles in the
other one (`State.Separated`).  Then a redraw gives every sort back in its number
(`State.Redrawn.normals`, `State.Redrawn.miracles`).  Only a redraw puts cards into a
deck (`Atom.perform_decks`), and no effect changes the kind of a card, so decks that are
apart stay so through every chain (`runCalls_separated`).
-/
import LaneDuel.Proofs.Effect.Accounts
import LaneDuel.Proofs.Engine.Chain

namespace LaneDuel

set_option autoImplicit false

/-! ## States -/

namespace Table

variable {ν σ α β : Type}

/-- A table with another hand of one player and with other decks. -/
def deal (t : Table ν σ α) (s : Side) (hand deck miracleDeck : List α) : Table ν σ α :=
  Table.modifyPlayer { t with deck, miracleDeck } s fun p => { p with hand }

section Deal

variable (t : Table ν σ α) (s : Side) (hand deck miracleDeck : List α)

@[simp] theorem deal_deck : (t.deal s hand deck miracleDeck).deck = deck := by
  simp [deal]

@[simp] theorem deal_miracleDeck : (t.deal s hand deck miracleDeck).miracleDeck = miracleDeck := by
  simp [deal]

@[simp] theorem hand_deal : ((t.deal s hand deck miracleDeck).player s).hand = hand := by
  simp [deal]

theorem map_deal (f : α → β) : (t.deal s hand deck miracleDeck).map f
    = (t.map f).deal s (hand.map f) (deck.map f) (miracleDeck.map f) := by cases s <;> rfl

theorem deal_self : t.deal s (t.player s).hand t.deck t.miracleDeck = t :=
  modifyPlayer_eq_self rfl

end Deal

end Table

namespace Player

/-- The cards of a hand that are no miracles. -/
def normals (p : Player Int Card) : List Card := p.hand.filter fun c => !c.isMiracle

/-- The miracles of a hand. -/
def miracles (p : Player Int Card) : List Card := p.hand.filter fun c => c.isMiracle

theorem length_normals_add_miracles (p : Player Int Card) :
    p.normals.length + p.miracles.length = p.hand.length := by
  have sorts := (List.filter_append_perm (fun c : Card => c.isMiracle) p.hand).length_eq
  rw [List.length_append] at sorts
  simp only [normals, miracles]
  omega

end Player

namespace State

/-- What a redraw by a side makes of a state. -/
structure Redrawn (acting : Side) (s t : State) : Prop where
  deck : t.deck.length = s.deck.length
  miracleDeck : t.miracleDeck.length = s.miracleDeck.length
  hand : (t.player acting).hand.length = (s.player acting).hand.length
  /-- The front of the hand and the common deck: what lay in the deck or came back to it. -/
  drawn : ((t.player acting).hand.take (s.player acting).normals.length ++ t.deck).Perm
    (s.deck ++ (s.player acting).normals)
  /-- The rest of the hand and the miracle deck. -/
  drawnMiracles :
    ((t.player acting).hand.drop (s.player acting).normals.length ++ t.miracleDeck).Perm
      (s.miracleDeck ++ (s.player acting).miracles)
  frame : t = Table.deal s acting (t.player acting).hand t.deck t.miracleDeck

/-- No miracle lies in the common deck, and nothing else in the miracle deck. -/
structure Separated (s : State) : Prop where
  deck : ∀ c ∈ s.deck, c.isMiracle = false
  miracleDeck : ∀ c ∈ s.miracleDeck, c.isMiracle = true

instance (s : State) : Decidable s.Separated :=
  decidable_of_iff ((∀ c ∈ s.deck, c.isMiracle = false) ∧
      ∀ c ∈ s.miracleDeck, c.isMiracle = true)
    ⟨fun h => ⟨h.1, h.2⟩, fun h => ⟨h.deck, h.miracleDeck⟩⟩

namespace Redrawn

variable {acting : Side} {s t : State}

/-- Each deck deals as many cards as it got, and of what it held and got. -/
theorem of_deal {drawn drawnMiracles deck miracleDeck : List Card}
    (count : drawn.length = (s.player acting).normals.length)
    (count' : drawnMiracles.length = (s.player acting).miracles.length)
    (dealt : (drawn ++ deck).Perm (s.deck ++ (s.player acting).normals))
    (dealt' : (drawnMiracles ++ miracleDeck).Perm (s.miracleDeck ++ (s.player acting).miracles)) :
    s.Redrawn acting (Table.deal s acting (drawn ++ drawnMiracles) deck miracleDeck) where
  deck := by
    have total := dealt.length_eq
    rw [List.length_append, List.length_append] at total
    rw [Table.deal_deck]
    omega
  miracleDeck := by
    have total := dealt'.length_eq
    rw [List.length_append, List.length_append] at total
    rw [Table.deal_miracleDeck]
    omega
  hand := by
    have sorts := (s.player acting).length_normals_add_miracles
    rw [Table.hand_deal, List.length_append]
    omega
  drawn := by
    rw [Table.hand_deal, Table.deal_deck, List.take_left' count]
    exact dealt
  drawnMiracles := by
    rw [Table.hand_deal, Table.deal_miracleDeck, List.drop_left' count]
    exact dealt'
  frame := by rw [Table.hand_deal, Table.deal_deck, Table.deal_miracleDeck]

section Separated

variable (h : s.Redrawn acting t) (apart : s.Separated)
include h apart

/-- The common deck deals no miracles. -/
theorem not_isMiracle : ∀ c ∈ (t.player acting).hand.take (s.player acting).normals.length
    ++ t.deck, c.isMiracle = false := by
  intro c member
  rcases List.mem_append.mp (h.drawn.mem_iff.mp member) with lay | came
  · exact apart.deck c lay
  · simpa using (List.mem_filter.mp came).2

/-- The miracle deck deals miracles. -/
theorem isMiracle : ∀ c ∈ (t.player acting).hand.drop (s.player acting).normals.length
    ++ t.miracleDeck, c.isMiracle = true := by
  intro c member
  rcases List.mem_append.mp (h.drawnMiracles.mem_iff.mp member) with lay | came
  · exact apart.miracleDeck c lay
  · exact (List.mem_filter.mp came).2

theorem separated : t.Separated where
  deck c member := h.not_isMiracle apart c (List.mem_append_right _ member)
  miracleDeck c member := h.isMiracle apart c (List.mem_append_right _ member)

/-- As many cards that are no miracles come back as were held. -/
theorem normals : (t.player acting).normals.length = (s.player acting).normals.length := by
  have total := (s.player acting).length_normals_add_miracles
  have enough : (s.player acting).normals.length ≤ (t.player acting).hand.length := by
    rw [h.hand]
    omega
  have front : ((t.player acting).hand.take (s.player acting).normals.length).filter
      (fun c => !c.isMiracle) = (t.player acting).hand.take (s.player acting).normals.length := by
    refine List.filter_eq_self.mpr fun c member => ?_
    rw [h.not_isMiracle apart c (List.mem_append_left _ member), Bool.not_false]
  have back : ((t.player acting).hand.drop (s.player acting).normals.length).filter
      (fun c => !c.isMiracle) = [] := by
    refine List.filter_eq_nil_iff.mpr fun c member => ?_
    rw [h.isMiracle apart c (List.mem_append_left _ member)]
    simp
  rw [Player.normals, ← List.take_append_drop (s.player acting).normals.length
    (t.player acting).hand, List.filter_append, front, back, List.append_nil,
    List.length_take_of_le enough]

/-- And as many miracles. -/
theorem miracles : (t.player acting).miracles.length = (s.player acting).miracles.length := by
  have before := (s.player acting).length_normals_add_miracles
  have after := (t.player acting).length_normals_add_miracles
  have same := h.normals apart
  have hand := h.hand
  omega

end Separated

end Redrawn

end State

/-! ## The redraw -/

namespace Effect

variable {ρ : Type} [RandomSource ρ]

/-- As many cards as were put into a deck can be drawn from it, and with what is left they
are the deck and the cards put into it. -/
theorem shuffleInto_deals (deck cards : List Origin) (source : ρ) :
    ((shuffleInto deck cards source).1.take cards.length).length = cards.length ∧
      ((shuffleInto deck cards source).1.take cards.length
        ++ (shuffleInto deck cards source).1.drop cards.length).Perm (deck ++ cards) := by
  have shuffled := shuffleInto_perm deck cards source
  have enough : cards.length ≤ (shuffleInto deck cards source).1.length := by
    rw [shuffled.length_eq, List.length_append]
    omega
  rw [List.take_append_drop]
  exact ⟨List.length_take_of_le enough, shuffled⟩

theorem redraw_cards (b : Binding) (r : Run ρ) : (redraw b r).cards = r.cards := by
  unfold redraw
  simp only
  split <;> rfl

/-- What a redraw does to the table, an empty hand included: each deck deals as many cards
as it got, and of what it held and got. -/
theorem redraw_deals (b : Binding) (r : Run ρ) :
    let normals := (r.player b.player).hand.filter fun o => !(r.cards o).isMiracle
    let miracles := (r.player b.player).hand.filter fun o => (r.cards o).isMiracle
    ∃ drawn drawnMiracles deck miracleDeck : List Origin,
      drawn.length = normals.length ∧ drawnMiracles.length = miracles.length ∧
      (drawn ++ deck).Perm (r.table.deck ++ normals) ∧
      (drawnMiracles ++ miracleDeck).Perm (r.table.miracleDeck ++ miracles) ∧
      (redraw b r).table = r.table.deal b.player (drawn ++ drawnMiracles) deck miracleDeck := by
  intro normals miracles
  by_cases empty : (r.player b.player).hand.isEmpty = true
  · have held : (r.player b.player).hand = [] := List.isEmpty_iff.mp empty
    have noNormals : normals = [] := by simp only [normals, held, List.filter_nil]
    have noMiracles : miracles = [] := by simp only [miracles, held, List.filter_nil]
    rw [noNormals, noMiracles]
    refine ⟨[], [], r.table.deck, r.table.miracleDeck, rfl, rfl, ?_, ?_, ?_⟩
    · rw [List.nil_append, List.append_nil]
    · rw [List.nil_append, List.append_nil]
    · have still : (redraw b r).table = r.table := by
        rw [redraw, if_pos empty]
        rfl
      have same := r.table.deal_self b.player
      rw [← Run.player_eq, held] at same
      rw [still, List.append_nil, same]
  · obtain ⟨count, dealt⟩ := shuffleInto_deals r.table.deck normals r.source
    obtain ⟨count', dealt'⟩ := shuffleInto_deals r.table.miracleDeck miracles
      (shuffleInto r.table.deck normals r.source).2
    refine ⟨_, _, _, _, count, count', dealt, dealt', ?_⟩
    rw [redraw, if_neg empty]
    rfl

theorem redraw_redrawn (b : Binding) (r : Run ρ) :
    State.Redrawn b.player r.snapshot (redraw b r).snapshot := by
  obtain ⟨drawn, drawnMiracles, deck, miracleDeck, count, count', dealt, dealt', table⟩ :=
    redraw_deals b r
  have normals : (r.snapshot.player b.player).normals
      = ((r.player b.player).hand.filter fun o => !(r.cards o).isMiracle).map r.cards := by
    rw [Player.normals, Run.hand_snapshot, List.filter_map]
    rfl
  have miracles : (r.snapshot.player b.player).miracles
      = ((r.player b.player).hand.filter fun o => (r.cards o).isMiracle).map r.cards := by
    rw [Player.miracles, Run.hand_snapshot, List.filter_map]
    rfl
  have snapshot : (redraw b r).snapshot = Table.deal r.snapshot b.player
      (drawn.map r.cards ++ drawnMiracles.map r.cards) (deck.map r.cards)
      (miracleDeck.map r.cards) := by
    rw [Run.snapshot, redraw_cards, table, Table.map_deal, List.map_append]
    rfl
  rw [snapshot]
  refine .of_deal ?_ ?_ ?_ ?_
  · rw [normals, List.length_map, List.length_map, count]
  · rw [miracles, List.length_map, List.length_map, count']
  · rw [normals, ← List.map_append]
    exact (dealt.map r.cards).trans (.of_eq List.map_append)
  · rw [miracles, ← List.map_append]
    exact (dealt'.map r.cards).trans (.of_eq List.map_append)

end Effect

/-! ## Decks under other effects -/

/-- The two decks of a table. -/
def Table.decks {ν σ α : Type} (t : Table ν σ α) : List α × List α := (t.deck, t.miracleDeck)

@[simp] theorem Table.decks_modifyPlayer {ν σ α : Type} (t : Table ν σ α) (s : Side)
    (f : Player ν α → Player ν α) : (t.modifyPlayer s f).decks = t.decks := by
  rw [decks, modifyPlayer_deck, modifyPlayer_miracleDeck, decks]

namespace Effect

variable {ρ : Type}

theorem fold_decks {α : Type} {step : Run ρ → α → Run ρ}
    (each : ∀ (r : Run ρ) a, (step r a).table.decks = r.table.decks) (r : Run ρ) (as : List α) :
    (as.foldl step r).table.decks = r.table.decks := by
  induction as generalizing r with
  | nil => rfl
  | cons a as ih => exact (ih (step r a)).trans (each r a)

theorem killOne_decks (r : Run ρ) (o : Origin) : (killOne r o).table.decks = r.table.decks := by
  unfold killOne
  simp only
  split
  · rfl
  · split
    · rfl
    · exact r.table.decks_modifyPlayer _ _

theorem clearSide_decks (except : Option (List String)) (r : Run ρ) (side : Side) :
    (clearSide except r side).table.decks = r.table.decks :=
  r.table.decks_modifyPlayer side _

theorem swapBattlefields_decks (b : Binding) (r : Run ρ) :
    (swapBattlefields b r).table.decks = r.table.decks :=
  (Table.decks_modifyPlayer _ b.opponent _).trans (r.table.decks_modifyPlayer b.player _)

theorem drawDiscarded_decks (amount : Nat) (b : Binding) (r : Run ρ) :
    (drawDiscarded amount b r).table.decks = r.table.decks := by
  unfold drawDiscarded
  simp only
  split
  · rfl
  · exact Table.decks_modifyPlayer _ b.player _

theorem exchange_decks (given taken : List Origin) (b : Binding) (r : Run ρ) :
    (exchange given taken b r).table.decks = r.table.decks := by
  unfold exchange
  split
  · rfl
  · exact (Table.decks_modifyPlayer _ b.opponent _).trans (r.table.decks_modifyPlayer b.player _)

theorem execute_decks (c : KillCondition) (b : Binding) (r : Run ρ) :
    (execute c b r).table.decks = r.table.decks := by
  unfold execute
  simp only
  split
  · exact r.table.decks_modifyPlayer b.opponent _
  · rfl

theorem draw_decks (base bonus : Nat) (condition : Option FieldRaceCondition) (b : Binding)
    (r : Run ρ) : ∃ drawn, (draw base bonus condition b r).table.decks
      = (r.table.deck.drop drawn, r.table.miracleDeck) :=
  ⟨_, Table.decks_modifyPlayer _ b.player _⟩

end Effect

/-- **Only a redraw puts cards into a deck**, and only a redraw and a draw touch one. -/
theorem Atom.perform_decks {ρ : Type} [RandomSource ρ] (b : Binding) (r : Run ρ) {a : Atom}
    (other : a ≠ .discardAndRedraw) :
    ∃ drawn, (a.perform b r).table.decks = (r.table.deck.drop drawn, r.table.miracleDeck) := by
  have still : (a.perform b r).table.decks = r.table.decks →
      ∃ drawn, (a.perform b r).table.decks = (r.table.deck.drop drawn, r.table.miracleDeck) :=
    fun same => ⟨0, same⟩
  cases edits : a.edit? with
  | some e =>
      refine still ?_
      rw [perform_of_edit? edits, Run.reach_table]
  | none =>
      cases a with
      | playerHeal | playerDamage | gainCoins => exact still (r.table.decks_modifyPlayer _ _)
      | killCard f => exact still (Effect.fold_decks Effect.killOne_decks (r.tell _) _)
      | clearField f => exact still (Effect.fold_decks (Effect.clearSide_decks _) r _)
      | conditionalKillPlayer c => exact still (Effect.execute_decks c b r)
      | cascadeDamage base =>
          refine still ?_
          rw [perform, Effect.cascade_table]
      | drawFromDiscard amount => exact still (Effect.drawDiscarded_decks amount b r)
      | discardAndRedraw => exact absurd rfl other
      | drawCards base bonus c => exact Effect.draw_decks base bonus c b r
      | hellLordBonus =>
          refine still ?_
          rw [perform, Effect.hellLord_table]
      | swapBattlefields => exact still (Effect.swapBattlefields_decks b r)
      | freezeOnFirstAttack turns =>
          refine still ?_
          rw [perform, Effect.firstAttack_table]
      | swapRandomHands amount => exact still (Effect.exchange_decks _ _ b { r with source := _ })
      | skipTurn | uiModeMessage => exact still rfl
      | _ => cases edits

/-! ## Decks apart -/

theorem Card.isMiracle_eq {c d : Card} (h : c.lasting = d.lasting) : c.isMiracle = d.isMiracle := by
  change c.lasting.isMiracle = d.lasting.isMiracle
  rw [h]

/-- **No atom mixes the decks.** -/
theorem Atom.perform_separated {ρ : Type} [RandomSource ρ] (b : Binding) {r : Run ρ} (a : Atom)
    (apart : State.Separated r.snapshot) : State.Separated (a.perform b r).snapshot := by
  by_cases redraw : a = .discardAndRedraw
  · subst redraw
    exact (Effect.redraw_redrawn b r).separated apart
  · obtain ⟨drawn, decks⟩ := perform_decks b r redraw
    obtain ⟨deck, miracleDeck⟩ := Prod.mk.inj decks
    have kind : ∀ o, ((a.perform b r).cards o).isMiracle = (r.cards o).isMiracle :=
      fun o => Card.isMiracle_eq (perform_lasting b r a o)
    refine ⟨fun c member => ?_, fun c member => ?_⟩
    · obtain ⟨o, lies, rfl⟩ := List.mem_map.mp member
      rw [deck] at lies
      rw [kind]
      exact apart.deck _ (List.mem_map_of_mem (List.mem_of_mem_drop lies))
    · obtain ⟨o, lies, rfl⟩ := List.mem_map.mp member
      rw [miracleDeck] at lies
      rw [kind]
      exact apart.miracleDeck _ (List.mem_map_of_mem lies)

theorem Engine.runCalls_separated {ρ : Type} [RandomSource ρ] (library : Library) (cardId : Int)
    (b : Binding) (index : Nat) (calls : List Call) {r : Run ρ}
    (apart : State.Separated r.snapshot) :
    State.Separated (runCalls library cardId b index calls r).snapshot :=
  runCalls_invariant (P := fun r' => State.Separated r'.snapshot) (fun _ _ => id)
    (fun _ _ _ => id) (fun _ a h => a.perform_separated b h) index calls apart

/-- **A redraw balances, and the decks stay apart.**  Whatever the stage of a run and the luck:
a redraw gives as many cards as it took, from each deck out of what the deck held and got
back, and changes nothing else.  Where the decks are apart every sort comes back in its
number, and any chain of calls leaves them apart. -/
theorem Atom.redraw_by_sort {ρ : Type} [RandomSource ρ] (b : Binding) (r : Run ρ) :
    let before := r.snapshot
    let after := (Atom.discardAndRedraw.perform b r).snapshot
    State.Redrawn b.player before after ∧
      (State.Separated before → State.Separated after ∧
        (after.player b.player).normals.length = (before.player b.player).normals.length ∧
        (after.player b.player).miracles.length = (before.player b.player).miracles.length) ∧
      ∀ (library : Library) (cardId : Int) (index : Nat) (calls : List Call),
        State.Separated before →
          State.Separated (Engine.runCalls library cardId b index calls r).snapshot := by
  intro before after
  have redrawn : State.Redrawn b.player before after := Effect.redraw_redrawn b r
  refine ⟨redrawn, fun apart => ?_, fun library cardId index calls apart => ?_⟩
  · exact ⟨redrawn.separated apart, redrawn.normals apart, redrawn.miracles apart⟩
  · exact Engine.runCalls_separated library cardId b index calls apart

namespace Example

open Engine

/-- Red shuffles a squire and an omen back, and has one card of each sort again; whatever
the chain goes on with, the decks of the duel stay apart. -/
theorem squire_redrawn :
    let omen : Invocation := ⟨.red, card "omen" .miracle, none⟩
    let r := begin duel omen (Lcg.ofSeed 7)
    let after := (Atom.discardAndRedraw.perform (bind duel omen) r).snapshot
    let calls : List Call := [.known (.killCard (onField .both)), .known (.drawFromDiscard 3),
      .known .discardAndRedraw, .known (.swapRandomHands 1)]
    State.Separated r.snapshot ∧ State.Separated after ∧
      (after.player .red).normals.length = 1 ∧ (after.player .red).miracles.length = 1 ∧
      State.Separated (chain .standard 1 omen duel (Lcg.ofSeed 7) calls).snapshot := by
  intro omen r after calls
  have begun : r.snapshot = duel := Run.snapshot_enter duel _ _ _
  have apart : State.Separated r.snapshot := by
    rw [begun]
    decide
  obtain ⟨-, sorts, chains⟩ := Atom.redraw_by_sort (bind duel omen) r
  obtain ⟨still, normals, miracles⟩ := sorts apart
  rw [begun] at normals miracles
  exact ⟨apart, still, normals, miracles, chains .standard 1 0 calls apart⟩

end Example

end LaneDuel
