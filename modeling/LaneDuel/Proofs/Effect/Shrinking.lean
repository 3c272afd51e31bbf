/-
# LaneDuel.Proofs.Effect.Shrinking -- nothing comes onto the table

Effects move cards between lanes, hands and piles.  None brings a card onto the
table from outside, and none brings one back onto the battlefields
(`Table.Shrinks`); so what is said of every card of a start holds of every card
later, and what lies on the lanes stays without repetition.  This needs neither
distinct instance ids nor a lawful source: where an exchange of hands loses a card
whose id repeats, the table only shrinks.
-/
import LaneDuel.Proofs.Effect.Moves

namespace LaneDuel

set_option autoImplicit false

/-! ## Tables that only lose cards -/

namespace Table

variable {ν σ α : Type}

/-- The cards on the lanes of both sides, counted from either of them. -/
theorem fieldCards_both_perm (t : Table ν σ α) (s : Side) :
    (t.fieldCards Side.both).Perm
      ((t.player s).fieldCards ++ (t.player s.opponent).fieldCards) := by
  cases s with
  | red => simp [fieldCards, Side.both, Side.opponent]
  | blue =>
      simp only [fieldCards, Side.both, Side.opponent, List.flatMap_cons, List.flatMap_nil,
        List.append_nil]
      exact List.perm_append_comm

/-- Nothing has come onto the table, and nothing onto a battlefield. -/
structure Shrinks (t t' : Table ν σ α) : Prop where
  cards : ∀ a ∈ t'.cards, a ∈ t.cards
  field : (t'.fieldCards Side.both).Subperm (t.fieldCards Side.both)

namespace Shrinks

variable {t t' t'' : Table ν σ α}

theorem refl (t : Table ν σ α) : t.Shrinks t := ⟨fun _ h => h, List.Subperm.refl _⟩

theorem trans (h : t.Shrinks t') (h' : t'.Shrinks t'') : t.Shrinks t'' :=
  ⟨fun a member => h.cards a (h'.cards a member), h'.field.trans h.field⟩

/-- The lanes stay as they are. -/
theorem of_lanes (cards : ∀ a ∈ t'.cards, a ∈ t.cards)
    (lanes : ∀ s, (t'.player s).battlefield = (t.player s).battlefield) : t.Shrinks t' := by
  refine ⟨cards, ?_⟩
  have same : t'.fieldCards Side.both = t.fieldCards Side.both := by
    simp only [fieldCards, Player.fieldCards, lanes]
  rw [same]

/-- The cards were rearranged off the lanes. -/
theorem of_rearranges (h : t.Rearranges t')
    (lanes : ∀ s, (t'.player s).battlefield = (t.player s).battlefield) : t.Shrinks t' :=
  of_lanes (fun _ => h.cards.mem_iff.mp) lanes

/-- One player's health or coins change. -/
theorem of_numbers (t : Table ν σ α) (s : Side) (f : Player ν α → Player ν α)
    (lanes : (f (t.player s)).battlefield = (t.player s).battlefield)
    (buildings : (f (t.player s)).buildings = (t.player s).buildings)
    (hand : (f (t.player s)).hand = (t.player s).hand) : t.Shrinks (t.modifyPlayer s f) := by
  refine of_rearranges (.of_numbers t s f lanes buildings hand) ?_
  rw [Side.forall_iff s]
  simp [lanes]

/-- The lanes of one side lose cards, those of the other stay. -/
theorem of_side (s : Side) (cards : ∀ a ∈ t'.cards, a ∈ t.cards)
    (fewer : (t'.player s).fieldCards.Subperm (t.player s).fieldCards)
    (other : (t'.player s.opponent).battlefield = (t.player s.opponent).battlefield) :
    t.Shrinks t' := by
  refine ⟨cards, ?_⟩
  have same : (t'.player s.opponent).fieldCards = (t.player s.opponent).fieldCards := by
    rw [Player.fieldCards, other, Player.fieldCards]
  rw [(fieldCards_both_perm t' s).subperm_right, (fieldCards_both_perm t s).subperm_left, same,
    List.subperm_append_right]
  exact fewer

end Shrinks

end Table

/-! ## What each effect does to the table -/

namespace Effect

variable {ρ : Type}

theorem fold_shrinks {α : Type} {step : Run ρ → α → Run ρ}
    (each : ∀ (r : Run ρ) a, r.table.Shrinks (step r a).table) (r : Run ρ) (as : List α) :
    r.table.Shrinks (as.foldl step r).table := by
  induction as generalizing r with
  | nil => exact .refl _
  | cons a as ih => exact (each r a).trans (ih (step r a))

theorem killOne_shrinks (r : Run ρ) (o : Origin) : r.table.Shrinks (killOne r o).table := by
  have conserved := killOne_conserves r o
  have cards := fun x => (conserved.mem_cards_iff x).mp
  unfold killOne at cards ⊢
  simp only at cards ⊢
  split at cards
  · exact .refl _
  · rename_i slot located
    obtain ⟨onField, -⟩ := Table.locate_eq_some located
    split at cards
    · exact .refl _
    · rename_i found there
      refine .of_side slot.side cards ?_ (by simp [Table.discard, Table.clearLane])
      rw [Table.cardAt, Option.join_eq_some_iff, List.mem_singleton.mp onField] at there
      simp only [Run.notice_eq_tell, Run.tell_table, Run.modifyTable_table, Table.discard,
        Table.clearLane, Table.player_mk, Table.player_modifyPlayer_self, Player.fieldCards]
      exact (List.sublist_cons_self _ _).subperm.trans (Table.taken_set_none there).subperm

theorem kill_shrinks (f : TargetFilter) (b : Binding) (r : Run ρ) :
    r.table.Shrinks (kill f b r).table := by
  exact fold_shrinks killOne_shrinks (r.tell _) _

theorem clearSide_shrinks (except : Option (List String)) (r : Run ρ) (side : Side) :
    r.table.Shrinks (clearSide except r side).table := by
  have conserved := clearSide_conserves except r side
  refine .of_side side (fun o => (conserved.mem_cards_iff o).mp) ?_
    (by simp [clearSide, Table.discard])
  simp only [clearSide, Run.tell_table, Run.modifyPlayer_eq, Run.modifyTable_table, Table.discard,
    Table.player_mk, Table.player_modifyPlayer_self, Player.fieldCards, Table.taken_sweep]
  exact List.filter_sublist.subperm

theorem clearField_shrinks (f : Option ClearFieldFilter) (b : Binding) (r : Run ρ) :
    r.table.Shrinks (clearField f b r).table := by
  exact fold_shrinks (clearSide_shrinks _) _ _

theorem swapBattlefields_shrinks (b : Binding) (r : Run ρ) :
    r.table.Shrinks (swapBattlefields b r).table := by
  refine ⟨fun o => ((swapBattlefields_conserves b r).mem_cards_iff o).mp, ?_⟩
  rw [(Table.fieldCards_both_perm _ b.player).subperm_right,
    (Table.fieldCards_both_perm _ b.player).subperm_left]
  simp only [swapBattlefields, Run.notice_eq_tell, Run.tell_table, Run.modifyPlayer_eq,
    Run.modifyTable_table, Run.player_eq, Binding.opponent_eq, Player.fieldCards,
    Table.player_modifyPlayer_self, Table.player_modifyPlayer_opponent,
    Table.player_modifyPlayer_of_opponent]
  exact List.perm_append_comm.subperm

/-- A hand after a trade holds some of what it held and what it gained. -/
theorem mem_cards_tradeHand {cards : Origin → Card} {gone gained : List Origin}
    {p : Player Int Origin} {o : Origin} (member : o ∈ (tradeHand cards gone gained p).cards) :
    o ∈ p.cards ∨ o ∈ gained := by
  simp only [Player.mem_cards, tradeHand, without, List.mem_append, List.mem_filter] at member ⊢
  rcases member with lane | building | ⟨kept, -⟩ | got
  · exact .inl (.inl lane)
  · exact .inl (.inr (.inl building))
  · exact .inl (.inr (.inr kept))
  · exact .inr got

/-- Cards that come into a hand come out of the other, also where ids repeat. -/
theorem exchange_shrinks {r : Run ρ} (b : Binding) {given taken : List Origin}
    (own : ∀ o ∈ given, o ∈ (r.table.player b.player).hand)
    (others : ∀ o ∈ taken, o ∈ (r.table.player b.player.opponent).hand) :
    r.table.Shrinks (exchange given taken b r).table := by
  have inHand : ∀ s, ∀ o ∈ (r.table.player s).hand, o ∈ r.table.cards :=
    fun s o held => (Table.hand_sublist_cards r.table s).subset held
  unfold exchange
  split
  · exact .refl _
  · simp only [Run.notice_eq_tell, Run.tell_table, Run.modifyPlayer_eq, Run.modifyTable_table,
      Binding.opponent_eq]
    refine .of_lanes ?_ (by rw [Side.forall_iff b.player]; simp [tradeHand])
    intro o member
    rcases Table.mem_cards.mp member with ⟨s, held⟩ | ⟨p, lies⟩
    · rcases Side.eq_or_eq_opponent b.player s with rfl | rfl
      · rw [Table.player_modifyPlayer_of_opponent, Table.player_modifyPlayer_self] at held
        rcases mem_cards_tradeHand held with kept | got
        · exact Table.mem_cards_of_player kept
        · exact inHand _ o (others o got)
      · rw [Table.player_modifyPlayer_self, Table.player_modifyPlayer_opponent] at held
        rcases mem_cards_tradeHand held with kept | got
        · exact Table.mem_cards_of_player kept
        · exact inHand _ o (own o got)
    · refine Table.mem_cards.mpr (.inr ⟨p, ?_⟩)
      cases p <;> simpa [Table.pile] using lies

theorem swapHands_shrinks [RandomSource ρ] (amount : Nat) (b : Binding) (r : Run ρ) :
    r.table.Shrinks (swapHands amount b r).table := by
  unfold swapHands
  simp only
  have ahead : ∀ source : ρ, r.table.Shrinks ({ r with source } : Run ρ).table := fun _ => .refl _
  refine (ahead _).trans (exchange_shrinks b ?_ ?_)
  · intro o chosen
    exact (List.mem_filter.mp (mem_of_mem_pick chosen)).1
  · intro o chosen
    exact mem_of_mem_pick chosen

theorem cascade_table (base : Int) (b : Binding) (r : Run ρ) :
    (cascade base b r).table = r.table :=
  Run.foldl_edit_table r _

theorem drawDiscarded_lanes (amount : Nat) (b : Binding) (r : Run ρ) (s : Side) :
    ((drawDiscarded amount b r).table.player s).battlefield
      = (r.table.player s).battlefield := by
  revert s
  unfold drawDiscarded
  simp only
  split
  · exact fun _ => rfl
  · rw [Side.forall_iff b.player]
    simp [addToHand]

theorem redraw_lanes [RandomSource ρ] (b : Binding) (r : Run ρ) (s : Side) :
    ((redraw b r).table.player s).battlefield = (r.table.player s).battlefield := by
  revert s
  unfold redraw
  simp only
  split
  · exact fun _ => rfl
  · rw [Side.forall_iff b.player]
    simp

theorem draw_lanes (base bonus : Nat) (condition : Option FieldRaceCondition) (b : Binding)
    (r : Run ρ) (s : Side) :
    ((draw base bonus condition b r).table.player s).battlefield
      = (r.table.player s).battlefield := by
  revert s
  unfold draw drawWanted
  rw [Side.forall_iff b.player]
  simp [addToHand]

theorem execute_lanes (c : KillCondition) (b : Binding) (r : Run ρ) (s : Side) :
    ((execute c b r).table.player s).battlefield = (r.table.player s).battlefield := by
  revert s
  unfold execute
  simp only
  split
  · rw [Side.forall_iff b.opponent]
    simp
  · exact fun _ => rfl

end Effect

/-- **No atom brings a card onto the table, or onto a battlefield.** -/
theorem Atom.perform_shrinks {ρ : Type} [RandomSource ρ] (b : Binding) (r : Run ρ) (a : Atom) :
    r.table.Shrinks (a.perform b r).table := by
  cases edits : a.edit? with
  | some e =>
      rw [perform_of_edit? edits, Run.reach_table]
      exact .refl _
  | none =>
      cases a with
      | playerHeal amount f => exact .of_numbers _ _ _ rfl rfl rfl
      | playerDamage amount f => exact .of_numbers _ _ _ rfl rfl rfl
      | gainCoins amount c => exact .of_numbers _ _ _ rfl rfl rfl
      | killCard f => exact Effect.kill_shrinks f b r
      | clearField f => exact Effect.clearField_shrinks f b r
      | conditionalKillPlayer c =>
          exact .of_rearranges (Effect.execute_conserves c b r).table
            (Effect.execute_lanes c b r)
      | cascadeDamage base =>
          rw [perform, Effect.cascade_table]
          exact .refl _
      | drawFromDiscard amount =>
          exact .of_rearranges (Effect.drawDiscarded_conserves amount b r).table
            (Effect.drawDiscarded_lanes amount b r)
      | discardAndRedraw =>
          exact .of_rearranges (Effect.redraw_conserves b r).table
            (Effect.redraw_lanes b r)
      | drawCards base bonus c =>
          exact .of_rearranges (Effect.draw_conserves base bonus c b r).table
            (Effect.draw_lanes base bonus c b r)
      | hellLordBonus =>
          change r.table.Shrinks (Effect.hellLord b r).table
          simp only [Effect.hellLord, Run.visit_table]
          exact .refl _
      | swapBattlefields => exact Effect.swapBattlefields_shrinks b r
      | freezeOnFirstAttack turns =>
          change r.table.Shrinks (Effect.firstAttack turns b r).table
          rw [Effect.firstAttack_eq]
          split
          · exact .refl _
          · split <;> exact .refl _
      | swapRandomHands amount => exact Effect.swapHands_shrinks amount b r
      | skipTurn => exact .of_lanes (fun _ h => h) fun s => by cases s <;> rfl
      | uiModeMessage message => exact .refl _
      | _ => cases edits

end LaneDuel
