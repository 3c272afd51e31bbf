/-
# LaneDuel.Proofs.Effect.Moves -- every atom conserves the cards

Each effect in turn, then all of them: `Atom.perform_conserves` is the one step
from which conservation over whole runs follows by induction.  An exchange of
hands is the only effect that relies on distinct instance ids.
-/
import LaneDuel.Proofs.Effect.Conservation

namespace LaneDuel

set_option autoImplicit false

open Run (Conserves)

namespace Effect

variable {ρ : Type}

/-! ## Leaving the lanes -/

theorem killOne_conserves (r : Run ρ) (o : Origin) : r.Conserves (killOne r o) := by
  unfold killOne
  simp only
  split
  · exact r.tell_conserves _
  · rename_i slot located
    obtain ⟨onField, -⟩ := Table.locate_eq_some located
    split
    · exact .refl r
    · rename_i found there
      exact .of_moves
        (Table.clearLane_discard_rearranges (by simpa using onField) there) rfl

theorem kill_conserves (f : TargetFilter) (b : Binding) (r : Run ρ) :
    r.Conserves (kill f b r) := by
  exact (r.tell_conserves _).trans (.of_fold killOne_conserves _ _)

theorem clearSide_conserves (except : Option (List String)) (r : Run ρ) (side : Side) :
    r.Conserves (clearSide except r side) := by
  refine .of_moves ?_ rfl
  simp only [clearSide, Run.tell_table, Run.modifyPlayer_eq, Run.modifyTable_table]
  refine ⟨?_, ?_, Or.inl ?_⟩
  · rw [List.perm_iff_count]
    intro o
    -- every card on the lanes either stays or goes
    have parted := (List.filter_append_perm (fun o => !spared except (r.cards o))
      (r.field side)).count_eq o
    rw [Table.count_cards _ side, Table.count_cards r.table side]
    simp only [Table.discard, Table.player_mk, Table.player_modifyPlayer_self,
      Table.player_modifyPlayer_opponent, Table.modifyPlayer_deck,
      Table.modifyPlayer_miracleDeck, Table.modifyPlayer_discardPile, Player.cards,
      Table.taken_sweep, List.count_append]
    simp only [Run.field, Run.player_eq, Player.fieldCards, List.count_append] at parted ⊢
    omega
  · rw [Side.forall_iff side]
    simp [Table.discard]
  · rw [Side.forall_iff side]
    simp [Table.discard, sweep]

theorem clearField_conserves (f : Option ClearFieldFilter) (b : Binding) (r : Run ρ) :
    r.Conserves (clearField f b r) := by
  unfold clearField
  simp only
  generalize Scope.sides b.player _ = sides
  induction sides generalizing r with
  | nil => exact .refl r
  | cons side sides ih =>
      exact (clearSide_conserves _ r side).trans (ih (clearSide _ r side))

theorem swapBattlefields_conserves (b : Binding) (r : Run ρ) :
    r.Conserves (swapBattlefields b r) := by
  refine .of_moves ?_ rfl
  simp only [swapBattlefields, Run.notice_eq_tell, Run.tell_table, Run.modifyPlayer_eq,
    Run.modifyTable_table, Run.player_eq, Binding.opponent_eq]
  refine ⟨?_, ?_, Or.inr ?_⟩
  · rw [List.perm_iff_count]
    intro o
    rw [Table.count_cards _ b.player, Table.count_cards r.table b.player]
    simp only [Table.player_modifyPlayer_self, Table.player_modifyPlayer_opponent,
      Table.player_modifyPlayer_of_opponent, Table.modifyPlayer_deck,
      Table.modifyPlayer_miracleDeck, Table.modifyPlayer_discardPile, Player.cards,
      List.count_append]
    omega
  · rw [Side.forall_iff b.player]
    simp
  · rw [Side.forall_iff b.player]
    simp

/-! ## Piles and hands -/

theorem drawDiscarded_conserves (amount : Nat) (b : Binding) (r : Run ρ) :
    r.Conserves (drawDiscarded amount b r) := by
  unfold drawDiscarded
  simp only
  split
  · exact r.tell_conserves _
  · refine .of_moves (.of_deal r.table b.player (addToHand _) _ _ _ rfl rfl ?_) rfl
    rw [List.perm_iff_count]
    intro o
    have parted := congrArg (List.count o)
      (List.take_append_drop amount r.table.discardPile.reverse)
    simp only [List.count_append, List.count_reverse] at parted
    simp only [addToHand, List.count_append, List.count_reverse]
    omega

theorem shuffleInto_perm [RandomSource ρ] {α : Type} (deck cards : List α) (source : ρ) :
    (shuffleInto deck cards source).1.Perm (deck ++ cards) := by
  unfold shuffleInto
  split
  · rename_i none_
    rw [List.isEmpty_iff.mp none_, List.append_nil]
  · exact shuffle_perm (deck ++ cards) source

theorem redraw_conserves [RandomSource ρ] (b : Binding) (r : Run ρ) :
    r.Conserves (redraw b r) := by
  unfold redraw
  simp only
  split
  · exact r.tell_conserves _
  · refine .of_moves (.of_deal r.table b.player (fun p => { p with hand := _ }) _ _ _
      rfl rfl ?_) rfl
    have sorts := List.filter_append_perm (fun o => (r.cards o).isMiracle)
      (r.table.player b.player).hand
    simp only [Run.player_eq]
    generalize (r.table.player b.player).hand.filter (fun o => (r.cards o).isMiracle)
      = miracles at sorts ⊢
    generalize (r.table.player b.player).hand.filter (fun o => !(r.cards o).isMiracle)
      = normals at sorts ⊢
    have deck := shuffleInto_perm r.table.deck normals r.source
    generalize shuffleInto r.table.deck normals r.source = shuffled at deck ⊢
    have miracleDeck := shuffleInto_perm r.table.miracleDeck miracles shuffled.2
    generalize shuffleInto r.table.miracleDeck miracles shuffled.2
      = shuffledMiracles at miracleDeck ⊢
    rw [List.perm_iff_count] at sorts deck miracleDeck ⊢
    intro o
    have fromHand := sorts o
    have intoDeck := deck o
    have intoMiracles := miracleDeck o
    have parted := congrArg (List.count o) (List.take_append_drop normals.length shuffled.1)
    have partedMiracles := congrArg (List.count o)
      (List.take_append_drop miracles.length shuffledMiracles.1)
    simp only [List.count_append] at *
    omega

theorem draw_conserves (base bonus : Nat) (condition : Option FieldRaceCondition) (b : Binding)
    (r : Run ρ) : r.Conserves (draw base bonus condition b r) := by
  unfold draw drawWanted
  simp only
  generalize base + _ = wanted
  refine .of_moves (.of_deal r.table b.player (addToHand _) _ _ _ rfl rfl ?_) rfl
  rw [List.perm_iff_count]
  intro o
  have parted := congrArg (List.count o) (List.take_append_drop wanted r.table.deck)
  simp only [List.count_append] at parted
  simp only [addToHand, List.count_append]
  omega

/-! ## The exchange of hands -/

/-- What a hand without repetition gives up is what it lacks afterwards. -/
theorem filter_not_mem_append_perm {α : Type} [DecidableEq α] {hand gone : List α}
    (distinct : hand.Nodup) (sub : ∀ a ∈ gone, a ∈ hand) (once : gone.Nodup) :
    ((hand.filter fun a => !decide (a ∈ gone)) ++ gone).Perm hand := by
  have chosen : (hand.filter fun a => decide (a ∈ gone)).Perm gone := by
    rw [List.perm_ext_iff_of_nodup (distinct.filter _) once]
    intro a
    rw [List.mem_filter, decide_eq_true_iff]
    exact ⟨fun h => h.2, fun h => ⟨sub a h, h⟩⟩
  exact (chosen.symm.append_left _).trans
    (List.perm_append_comm.trans (List.filter_append_perm (fun a => decide (a ∈ gone)) hand))

/-- The cards given up are exactly what the hand without them lacks. -/
theorem without_perm {cards : Origin → Card} {gone hand : List Origin} (distinct : hand.Nodup)
    (ids : ∀ a ∈ hand, ∀ b ∈ hand, (cards a).instanceId = (cards b).instanceId → a = b)
    (sub : ∀ o ∈ gone, o ∈ hand) (once : gone.Nodup) :
    (without cards gone hand ++ gone).Perm hand := by
  have byName : without cards gone hand = hand.filter fun o => !decide (o ∈ gone) := by
    apply List.filter_congr
    intro o held
    congr 1
    rw [Bool.eq_iff_iff, List.contains_iff_mem, List.mem_map, decide_eq_true_iff]
    constructor
    · rintro ⟨g, given, same⟩
      exact ids g (sub g given) o held same ▸ given
    · intro given
      exact ⟨o, given, rfl⟩
  rw [byName]
  exact filter_not_mem_append_perm distinct sub once

theorem exchange_conserves {r : Run ρ} (distinct : r.Distinct) (b : Binding)
    {given taken : List Origin} (own : ∀ o ∈ given, o ∈ (r.table.player b.player).hand)
    (others : ∀ o ∈ taken, o ∈ (r.table.player b.player.opponent).hand)
    (once : given.Nodup) (once' : taken.Nodup) : r.Conserves (exchange given taken b r) := by
  unfold exchange
  split
  · exact r.tell_conserves _
  · have inHand : ∀ s, ∀ a ∈ (r.table.player s).hand, a ∈ r.table.cards :=
      fun s a held => (Table.hand_sublist_cards r.table s).subset held
    have ids : ∀ s, ∀ a ∈ (r.table.player s).hand, ∀ c ∈ (r.table.player s).hand,
        (r.cards a).instanceId = (r.cards c).instanceId → a = c :=
      fun s a ha c hc same => distinct.eq_of_id (inHand s a ha) (inHand s c hc) same
    have hands : ∀ s, (r.table.player s).hand.Nodup :=
      fun s => (Table.hand_sublist_cards r.table s).nodup distinct.nodup
    have ownLeft := without_perm (hands b.player) (ids b.player) own once
    have othersLeft := without_perm (hands b.player.opponent) (ids b.player.opponent) others once'
    refine .of_moves (.of_cards ?_ ?_ ?_) rfl
    · rw [List.perm_iff_count]
      intro o
      have ownCount := ownLeft.count_eq o
      have othersCount := othersLeft.count_eq o
      rw [List.count_append] at ownCount othersCount
      rw [Table.count_cards _ b.player, Table.count_cards r.table b.player]
      simp only [Run.notice_eq_tell, Run.tell_table, Run.modifyPlayer_eq,
        Run.modifyTable_table, Binding.opponent_eq, tradeHand, Table.player_modifyPlayer_self,
        Table.player_modifyPlayer_opponent, Table.player_modifyPlayer_of_opponent,
        Table.modifyPlayer_deck, Table.modifyPlayer_miracleDeck,
        Table.modifyPlayer_discardPile, Player.cards, List.count_append]
      omega
    · rw [Side.forall_iff b.player]
      simp [tradeHand]
    · rw [Side.forall_iff b.player]
      simp [tradeHand]

theorem swapHands_conserves [RandomSource ρ] [LawfulRandomSource ρ] {r : Run ρ}
    (distinct : r.Distinct) (amount : Nat) (b : Binding) :
    r.Conserves (swapHands amount b r) := by
  have hands : ∀ s, (r.table.player s).hand.Nodup :=
    fun s => (Table.hand_sublist_cards r.table s).nodup distinct.nodup
  unfold swapHands
  simp only
  have ahead : ∀ source : ρ, r.Conserves { r with source } := fun _ => .of_moves (.refl _) rfl
  refine (ahead _).trans (exchange_conserves ((ahead _).distinct distinct) b ?_ ?_ ?_ ?_)
  · intro o chosen
    exact (List.mem_filter.mp (mem_of_mem_pick chosen)).1
  · intro o chosen
    exact mem_of_mem_pick chosen
  · exact pick_nodup ((hands b.player).filter _) (Nat.min_le_right _ _) _
  · exact pick_nodup (hands b.player.opponent) (Nat.min_le_right _ _) _

/-! ## Changes to cards, players and signals -/

theorem hellLord_conserves (b : Binding) (r : Run ρ) : r.Conserves (hellLord b r) := by
  have own := Run.visit_lasting (lasts_buffMonster (hellLordBuff ((r.field b.player).map r.cards)))
    r (r.field b.player)
  refine .of_edits (by simp [hellLord]) fun o => ?_
  exact (Run.visit_lasting lasts_debuffMonster _ _ o).trans (own o)

theorem cascade_conserves (base : Int) (b : Binding) (r : Run ρ) :
    r.Conserves (cascade base b r) := by
  unfold cascade
  generalize (byHealth r.cards (r.field b.opponent)).zipIdx = ranked
  induction ranked generalizing r with
  | nil => exact .refl r
  | cons first ranked ih =>
      exact (r.edit_conserves (lasts_hit (cascadeAt base first.2)) first.1).trans (ih _)

theorem firstAttack_conserves (turns : Int) (b : Binding) (r : Run ρ) :
    r.Conserves (firstAttack turns b r) := by
  rw [firstAttack_eq]
  split
  · exact r.tell_conserves _
  · have used := r.edit_conserves lasts_remember b.actor
    split
    · exact used.trans (Run.tell_conserves _ _)
    · exact used.trans (Run.edit_conserves (lasts_chill _ _) _ _)

theorem execute_conserves (c : KillCondition) (b : Binding) (r : Run ρ) :
    r.Conserves (execute c b r) := by
  unfold execute
  simp only
  split
  · refine .of_moves ?_ rfl
    exact (Table.Rearranges.of_numbers r.table b.opponent (fun p => { p with health := 0 })
      rfl rfl rfl).trans (.of_signals _ _)
  · exact r.tell_conserves _

end Effect

namespace Atom

variable {ρ : Type} [RandomSource ρ]

/-- All atoms but an exchange of hands conserve the cards of any run. -/
theorem perform_conserves_of_not_swap (b : Binding) (r : Run ρ) {a : Atom}
    (other : ∀ amount, a ≠ .swapRandomHands amount) : r.Conserves (a.perform b r) := by
  cases edits : a.edit? with
  | some e =>
      rw [perform_of_edit? edits]
      exact Run.reach_conserves (lasts_of_edit? edits) b e.1 r
  | none =>
      cases a with
      | playerHeal amount f =>
          exact .of_moves (.of_numbers _ _ (Effect.addHealth amount) rfl rfl rfl) rfl
      | playerDamage amount f =>
          exact .of_moves (.of_numbers _ _ (Effect.addHealth (-amount)) rfl rfl rfl) rfl
      | gainCoins amount c =>
          exact .of_moves (.of_numbers _ _ (Effect.addCoins _) rfl rfl rfl) rfl
      | killCard f => exact Effect.kill_conserves f b r
      | clearField f => exact Effect.clearField_conserves f b r
      | conditionalKillPlayer c => exact Effect.execute_conserves c b r
      | cascadeDamage base => exact Effect.cascade_conserves base b r
      | drawFromDiscard amount => exact Effect.drawDiscarded_conserves amount b r
      | discardAndRedraw => exact Effect.redraw_conserves b r
      | drawCards base bonus c => exact Effect.draw_conserves base bonus c b r
      | hellLordBonus => exact Effect.hellLord_conserves b r
      | swapBattlefields => exact Effect.swapBattlefields_conserves b r
      | freezeOnFirstAttack turns => exact Effect.firstAttack_conserves turns b r
      | swapRandomHands amount => exact absurd rfl (other amount)
      | skipTurn => exact .of_moves (.of_signals _ _) rfl
      | uiModeMessage message => exact r.tell_conserves _
      | _ => cases edits

/-- **No atom loses, doubles or rewrites a card.** -/
theorem perform_conserves [LawfulRandomSource ρ] {r : Run ρ} (distinct : r.Distinct)
    (b : Binding) (a : Atom) : r.Conserves (a.perform b r) := by
  by_cases swap : ∃ amount, a = .swapRandomHands amount
  · obtain ⟨amount, rfl⟩ := swap
    exact Effect.swapHands_conserves distinct amount b
  · exact perform_conserves_of_not_swap b r fun amount same => swap ⟨amount, same⟩

/-- No atom rewrites a card, wherever it may move it and whatever ids repeat. -/
theorem perform_lasting (b : Binding) (r : Run ρ) (a : Atom) (o : Origin) :
    ((a.perform b r).cards o).lasting = (r.cards o).lasting := by
  by_cases swap : ∃ amount, a = .swapRandomHands amount
  · obtain ⟨amount, rfl⟩ := swap
    simp only [perform, Effect.swapHands, Effect.exchange]
    split <;> rfl
  · exact (perform_conserves_of_not_swap b r fun amount same => swap ⟨amount, same⟩).lasting o

end Atom

end LaneDuel
