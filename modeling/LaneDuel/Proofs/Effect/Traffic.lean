/-
# LaneDuel.Proofs.Effect.Traffic -- how many cards lie where

Cards leave the lanes only for the discard pile, and the discard pile only for a hand,
and each card that goes either way has an entry of its own (`removalKeys`,
`retrievalKeys`).  So the numbers of cards on the lanes and in the discard pile are told
by the entries.  A redraw puts cards into both decks and takes as many out again, a draw
takes cards out of the common deck, and nothing else touches a deck.

`Run.Balances` says this of two stages of a run, `Atom.perform_balances` of every atom.
It needs neither distinct instance ids nor a lawful source: where a hand loses a card,
neither lanes nor piles are concerned.
-/
import LaneDuel.Proofs.Effect.Tells

namespace LaneDuel

set_option autoImplicit false

/-- The keys of the entries that tell of a card that has left a lane. -/
def removalKeys : List String := ["effect.card_killed", "effect.card_cleared"]

/-- The keys of the entries that tell of a card taken back from the discard pile. -/
def retrievalKeys : List String := ["effect.draw_from_discard"]

/-- Of events that all have one key, all are counted or none. -/
theorem Event.countP_keyed {α : Type} {event : α → Event} (key : String)
    (same : ∀ a, (event a).key = key) (keys : List String) (as : List α) :
    (as.map event).countP (isKeyed keys) = if key ∈ keys then as.length else 0 := by
  rw [List.countP_map]
  split
  · rename_i counted
    exact List.countP_eq_length.mpr fun a _ => by simpa [isKeyed, same]
  · rename_i other
    exact List.countP_eq_zero.mpr fun a _ => by simpa [isKeyed, same]

/-! ## The number of cards on the lanes -/

namespace Table

variable {ν σ α : Type}

/-- How many cards lie on the lanes of both sides. -/
def fieldSize (t : Table ν σ α) : Nat := (t.fieldCards Side.both).length

theorem fieldSize_eq (t : Table ν σ α) (s : Side) :
    t.fieldSize = (t.player s).fieldCards.length + (t.player s.opponent).fieldCards.length := by
  rw [fieldSize, (t.fieldCards_both_perm s).length_eq, List.length_append]

theorem fieldSize_of_lanes {t t' : Table ν σ α}
    (lanes : ∀ s, (t'.player s).battlefield = (t.player s).battlefield) :
    t'.fieldSize = t.fieldSize := by
  simp only [fieldSize_eq _ .red, Player.fieldCards, lanes]

/-- One player's lanes stay as they are, whatever else changes. -/
theorem fieldSize_modifyPlayer (t : Table ν σ α) (s : Side) {f : Player ν α → Player ν α}
    (lanes : (f (t.player s)).battlefield = (t.player s).battlefield) :
    (t.modifyPlayer s f).fieldSize = t.fieldSize := by
  refine fieldSize_of_lanes ?_
  rw [Side.forall_iff s]
  simp [lanes]

@[simp] theorem fieldSize_map {β : Type} (f : α → β) (t : Table ν σ α) :
    (t.map f).fieldSize = t.fieldSize := by
  rw [fieldSize, fieldCards_map, List.length_map, fieldSize]

end Table

/-! ## Balances -/

namespace Run

variable {ρ : Type}

/-- Between two stages of a run the lanes have lost as many cards as entries tell, the
discard pile has got these and lost what was taken back, the miracle deck is as large as
it was and the common deck no larger. -/
structure Balances (r r' : Run ρ) : Prop where
  field : r'.table.fieldSize + r'.tally removalKeys = r.table.fieldSize + r.tally removalKeys
  discardPile :
    r'.table.discardPile.length + r'.table.fieldSize + r'.tally retrievalKeys
      = r.table.discardPile.length + r.table.fieldSize + r.tally retrievalKeys
  miracleDeck : r'.table.miracleDeck.length = r.table.miracleDeck.length
  deck : r'.table.deck.length ≤ r.table.deck.length

namespace Balances

variable {r r' r'' : Run ρ}

theorem refl (r : Run ρ) : r.Balances r := ⟨rfl, rfl, rfl, Nat.le_refl _⟩

theorem trans (h : r.Balances r') (h' : r'.Balances r'') : r.Balances r'' :=
  ⟨h'.field.trans h.field, h'.discardPile.trans h.discardPile,
    h'.miracleDeck.trans h.miracleDeck, Nat.le_trans h'.deck h.deck⟩

theorem fold {α : Type} {step : Run ρ → α → Run ρ}
    (each : ∀ (r : Run ρ) a, r.Balances (step r a)) (r : Run ρ) (as : List α) :
    r.Balances (as.foldl step r) := by
  induction as generalizing r with
  | nil => exact refl r
  | cons a as ih => exact (each r a).trans (ih (step r a))

/-- An effect that tells by other keys, and moves no card between the lanes and the
discard pile. -/
theorem of_tells (keys : List String) (told : r.Tells keys r')
    (apart : ∀ key ∈ keys, key ∉ removalKeys ∧ key ∉ retrievalKeys)
    (field : r'.table.fieldSize = r.table.fieldSize)
    (piles : r'.table.discardPile.length = r.table.discardPile.length ∧
      r'.table.miracleDeck.length = r.table.miracleDeck.length ∧
      r'.table.deck.length ≤ r.table.deck.length) : r.Balances r' where
  field := by rw [field, told.tally_eq (by decide) fun key own => (apart key own).1]
  discardPile := by
    rw [piles.1, field, told.tally_eq (by decide) fun key own => (apart key own).2]
  miracleDeck := piles.2.1
  deck := piles.2.2

/-- An effect that tells by other keys, and moves nothing at all. -/
theorem of_table (keys : List String) (told : r.Tells keys r')
    (apart : ∀ key ∈ keys, key ∉ removalKeys ∧ key ∉ retrievalKeys)
    (table : r'.table = r.table) : r.Balances r' := by
  refine .of_tells keys told apart ?_ ?_
  · rw [table]
  · rw [table]
    exact ⟨rfl, rfl, Nat.le_refl _⟩

/-- Cards go from the lanes of one side to the discard pile, and each is told of. -/
theorem of_removal (side : Side) (lanes : List (Option Origin)) (gone : List Origin)
    (table : r'.table =
      (r.table.modifyPlayer side fun p => { p with battlefield := lanes }).discard gone)
    (parted : (lanes.filterMap id).length + gone.length = (r.field side).length)
    (removed : r'.tally removalKeys = r.tally removalKeys + gone.length)
    (retrieved : r'.tally retrievalKeys = r.tally retrievalKeys) : r.Balances r' := by
  have left : r'.table.fieldSize + gone.length = r.table.fieldSize := by
    have own : (r'.table.player side).fieldCards = lanes.filterMap id := by
      simp [table, Table.discard, Player.fieldCards]
    have other : (r'.table.player side.opponent).fieldCards
        = (r.table.player side.opponent).fieldCards := by
      simp [table, Table.discard, Player.fieldCards]
    rw [Table.fieldSize_eq _ side, Table.fieldSize_eq _ side, own, other]
    simp only [Run.field, player_eq] at parted
    omega
  have pile : r'.table.discardPile.length = r.table.discardPile.length + gone.length := by
    simp [table, Table.discard]
  refine ⟨by omega, by omega, ?_, ?_⟩
  · simp [table, Table.discard]
  · simp [table, Table.discard]

/-- Stages that come to the same table have told of as many cards that left a lane. -/
theorem tally_congr (h : r.Balances r') (h' : r.Balances r'') (same : r''.table = r'.table) :
    r''.tally removalKeys = r'.tally removalKeys := by
  have told := h.field
  have told' := h'.field
  rw [same] at told'
  omega

/-- From a stage with nothing told yet, the states and the log agree on the numbers. -/
theorem of_fresh (h : r.Balances r') (fresh : r.log = []) :
    Table.fieldSize r'.snapshot + r'.tally removalKeys = Table.fieldSize r.snapshot ∧
      r'.snapshot.discardPile.length + r'.tally retrievalKeys
        = r.snapshot.discardPile.length + r'.tally removalKeys := by
  have untold : ∀ keys, r.tally keys = 0 := fun keys => by rw [tally, fresh, List.countP_nil]
  have pile : ∀ r : Run ρ, r.snapshot.discardPile.length = r.table.discardPile.length :=
    fun r => List.length_map _
  have field := h.field
  have discardPile := h.discardPile
  rw [untold] at field discardPile
  simp only [snapshot, Table.fieldSize_map] at pile ⊢
  rw [pile, pile]
  omega

end Balances

end Run

/-! ## Effects -/

namespace Effect

open Run (Balances)

variable {ρ : Type}

theorem killOne_balances (r : Run ρ) (o : Origin) : r.Balances (killOne r o) := by
  unfold killOne
  simp only
  split
  · exact .of_table [] (.of_tell r (by simp [Event.key])) (by simp) rfl
  · rename_i slot located
    obtain ⟨onField, -⟩ := Table.locate_eq_some located
    split
    · exact .refl r
    · rename_i found there
      refine .of_removal slot.side
        ((r.table.player slot.side).battlefield.set slot.index none) [found] rfl ?_ ?_ ?_
      · rw [Table.cardAt, Option.join_eq_some_iff, List.mem_singleton.mp onField] at there
        exact (Table.taken_set_none there).length_eq
      · exact Run.tally_tell _ _ _
      · exact Run.tally_tell _ _ _

theorem kill_balances (f : TargetFilter) (b : Binding) (r : Run ρ) :
    r.Balances (kill f b r) := by
  have searched : r.Balances (r.tell (r.targets b f).2) :=
    .of_table ["engine.self_not_found"] (r.search_tells b f List.mem_cons_self)
      (by decide) rfl
  exact searched.trans (.fold killOne_balances _ _)

theorem clearSide_balances (except : Option (List String)) (r : Run ρ) (side : Side) :
    r.Balances (clearSide except r side) := by
  refine .of_removal side
    (sweep (fun o => !spared except (r.cards o)) (r.table.player side).battlefield)
    ((r.field side).filter fun o => !spared except (r.cards o)) rfl ?_ ?_ ?_
  · rw [Table.taken_sweep]
    have parted := (List.filter_append_perm (fun o => !spared except (r.cards o))
      (r.field side)).length_eq
    rw [List.length_append] at parted
    rw [← parted, Nat.add_comm]
    rfl
  · refine (Run.tally_tell _ _ _).trans ?_
    rw [Event.countP_keyed "effect.card_cleared" fun _ => rfl, if_pos (by decide)]
    rfl
  · refine (Run.tally_tell _ _ _).trans ?_
    rw [Event.countP_keyed "effect.card_cleared" fun _ => rfl, if_neg (by decide)]
    rfl

theorem clearField_balances (f : Option ClearFieldFilter) (b : Binding) (r : Run ρ) :
    r.Balances (clearField f b r) :=
  .fold (clearSide_balances _) r _

theorem swapBattlefields_fieldSize (b : Binding) (r : Run ρ) :
    (swapBattlefields b r).table.fieldSize = r.table.fieldSize := by
  rw [Table.fieldSize_eq _ b.player, Table.fieldSize_eq _ b.player]
  simp only [swapBattlefields, Run.notice_eq_tell, Run.tell_table, Run.modifyPlayer_eq,
    Run.modifyTable_table, Run.player_eq, Binding.opponent_eq, Player.fieldCards,
    Table.player_modifyPlayer_self, Table.player_modifyPlayer_opponent,
    Table.player_modifyPlayer_of_opponent]
  omega

theorem drawDiscarded_balances (amount : Nat) (b : Binding) (r : Run ρ) :
    r.Balances (drawDiscarded amount b r) := by
  have field : (drawDiscarded amount b r).table.fieldSize = r.table.fieldSize :=
    Table.fieldSize_of_lanes (drawDiscarded_lanes amount b r)
  have removed : (drawDiscarded amount b r).tally removalKeys = r.tally removalKeys :=
    (drawDiscarded_tells amount b r).tally_eq (by decide) (by decide)
  refine ⟨by rw [field, removed], ?_, ?_, ?_⟩
  · rw [field]
    unfold drawDiscarded
    simp only
    split
    · exact congrArg (_ + ·) (Run.tally_tell _ _ _)
    · rw [Run.tally_tell,
        Event.countP_keyed "effect.draw_from_discard" fun _ => rfl, if_pos (by decide)]
      simp only [Run.tell_table, Run.modifyPlayer_eq, Run.modifyTable_table,
        Table.modifyPlayer_discardPile, List.length_reverse, List.length_drop, List.length_take]
      change _ + (r.tally retrievalKeys + _) = _
      omega
  · unfold drawDiscarded
    simp only
    split <;> simp
  · unfold drawDiscarded
    simp only
    split <;> simp

/-- What is shuffled into a deck is taken out of it again in number. -/
theorem length_drop_shuffleInto [RandomSource ρ] (deck cards : List Origin) (source : ρ) :
    ((shuffleInto deck cards source).1.drop cards.length).length = deck.length := by
  rw [List.length_drop, (shuffleInto_perm deck cards source).length_eq, List.length_append,
    Nat.add_sub_cancel]

theorem redraw_balances [RandomSource ρ] (b : Binding) (r : Run ρ) :
    r.Balances (redraw b r) := by
  refine .of_tells _ (redraw_tells b r) (by decide) (Table.fieldSize_of_lanes (redraw_lanes b r)) ?_
  unfold redraw
  simp only
  split
  · exact ⟨rfl, rfl, Nat.le_refl _⟩
  · simp only [Run.tell_table, Run.modifyPlayer_eq, Run.modifyTable_table,
      Table.modifyPlayer_discardPile, Table.modifyPlayer_miracleDeck, Table.modifyPlayer_deck,
      length_drop_shuffleInto, Nat.le_refl, and_self]

theorem draw_balances (base bonus : Nat) (condition : Option FieldRaceCondition) (b : Binding)
    (r : Run ρ) : r.Balances (draw base bonus condition b r) := by
  refine .of_tells _ (drawWanted_tells base _ b r) (by decide)
    (Table.fieldSize_of_lanes (draw_lanes base bonus condition b r)) ?_
  simp [draw, drawWanted]

theorem exchange_balances (given taken : List Origin) (b : Binding) (r : Run ρ) :
    r.Balances (exchange given taken b r) := by
  unfold exchange
  split
  · exact .of_table AtomKind.swapRandomHands.keys
      (.of_notice _ rfl (by decide) rfl) (by decide) rfl
  · refine .of_tells AtomKind.swapRandomHands.keys
      (.of_notice _ rfl List.mem_cons_self rfl) (by decide) ?_ (by simp)
    exact (Table.fieldSize_modifyPlayer _ b.opponent rfl).trans
      (r.table.fieldSize_modifyPlayer b.player rfl)

theorem swapHands_balances [RandomSource ρ] (amount : Nat) (b : Binding) (r : Run ρ) :
    r.Balances (swapHands amount b r) := by
  unfold swapHands
  simp only
  generalize pick (eligible b r) _ r.source = given
  generalize pick (r.player b.opponent).hand _ given.2 = taken
  have moved := exchange_balances given.1 taken.1 b { r with source := taken.2 }
  -- the source is not part of a balance
  exact ⟨moved.field, moved.discardPile, moved.miracleDeck, moved.deck⟩

theorem execute_balances (c : KillCondition) (b : Binding) (r : Run ρ) :
    r.Balances (execute c b r) := by
  refine .of_tells _ (execute_tells c b r) (by decide)
    (Table.fieldSize_of_lanes (execute_lanes c b r)) ?_
  unfold execute
  simp only
  split <;> simp

/-- A change of one player's numbers. -/
theorem numbers_balances (keys : List String) (r : Run ρ) (s : Side)
    {f : Player Int Origin → Player Int Origin} {es : List Event}
    (told : r.Tells keys ((r.modifyPlayer s f).tell es))
    (apart : ∀ key ∈ keys, key ∉ removalKeys ∧ key ∉ retrievalKeys)
    (lanes : (f (r.table.player s)).battlefield = (r.table.player s).battlefield) :
    r.Balances ((r.modifyPlayer s f).tell es) :=
  .of_tells keys told apart (r.table.fieldSize_modifyPlayer s lanes) (by simp)

end Effect

/-- **Every atom moves cards by the entries it tells.** -/
theorem Atom.perform_balances {ρ : Type} [RandomSource ρ] (b : Binding) (r : Run ρ) (a : Atom) :
    r.Balances (a.perform b r) := by
  have told := a.perform_tells b r
  cases edits : a.edit? with
  | some e =>
      rw [perform_of_edit? edits] at told ⊢
      have apart : ∀ key ∈ a.kind.keys, key ∉ removalKeys ∧ key ∉ retrievalKeys := by
        cases a <;> cases edits <;> simp [Atom.kind, AtomKind.keys, removalKeys, retrievalKeys]
      exact .of_table _ told apart (Run.reach_table _ _ _ _)
  | none =>
      cases a with
      | playerHeal amount f =>
          exact Effect.numbers_balances AtomKind.playerHeal.keys r _ told (by decide) rfl
      | playerDamage amount f =>
          exact Effect.numbers_balances AtomKind.playerDamage.keys r _ told (by decide) rfl
      | gainCoins amount c =>
          exact Effect.numbers_balances AtomKind.gainCoins.keys r _ told (by decide) rfl
      | killCard f => exact Effect.kill_balances f b r
      | clearField f => exact Effect.clearField_balances f b r
      | conditionalKillPlayer c => exact Effect.execute_balances c b r
      | cascadeDamage base =>
          exact .of_table AtomKind.cascadeDamage.keys told (by decide)
            (Effect.cascade_table base b r)
      | drawFromDiscard amount => exact Effect.drawDiscarded_balances amount b r
      | discardAndRedraw => exact Effect.redraw_balances b r
      | drawCards base bonus c => exact Effect.draw_balances base bonus c b r
      | hellLordBonus =>
          exact .of_table AtomKind.hellLordBonus.keys told (by decide) (Effect.hellLord_table b r)
      | swapBattlefields =>
          refine .of_tells AtomKind.swapBattlefields.keys told (by decide)
            (Effect.swapBattlefields_fieldSize b r) ?_
          simp [perform, Effect.swapBattlefields]
      | freezeOnFirstAttack turns =>
          exact .of_table AtomKind.freezeOnFirstAttack.keys told (by decide)
            (Effect.firstAttack_table turns b r)
      | swapRandomHands amount => exact Effect.swapHands_balances amount b r
      | skipTurn =>
          exact .of_tells AtomKind.skipTurn.keys told (by decide)
            (Table.fieldSize_of_lanes fun s => by cases s <;> rfl) ⟨rfl, rfl, Nat.le_refl _⟩
      | uiModeMessage message =>
          exact .of_table AtomKind.uiModeMessage.keys told (by decide) rfl
      | _ => cases edits

end LaneDuel
