/-
# LaneDuel.Proofs.Effect.Limits -- hit points, frost and the upper limit

A card is within its limits when its hit points do not pass the upper limit and
its frost is not negative.  Every change keeps a card within them, and every change
but one leaves the upper limit at least where it was (`Card.Upholds`); the one that
does not is the hell lord's, whose losses are told exactly (`hellLord_maxHp`).

Origins keep naming their cards wherever these have moved, so nothing is asked
here of instance ids or of the source.
-/
import LaneDuel.Proofs.Effect.Shrinking

namespace LaneDuel

set_option autoImplicit false

/-! ## Cards -/

/-- Hit points up to their limit, and no negative frost. -/
structure Card.WithinLimits (c : Card) : Prop where
  hp : c.hp ≤ c.maxHp
  frozen : 0 ≤ c.frozen

instance (c : Card) : Decidable c.WithinLimits :=
  decidable_of_iff (c.hp ≤ c.maxHp ∧ 0 ≤ c.frozen)
    ⟨fun h => ⟨h.1, h.2⟩, fun h => ⟨h.hp, h.frozen⟩⟩

/-- A later form of a card: still within its limits, and the upper one not lowered. -/
structure Card.Upholds (c d : Card) : Prop where
  limits : c.WithinLimits → d.WithinLimits
  maxHp : c.maxHp ≤ d.maxHp

namespace Card.Upholds

theorem refl (c : Card) : c.Upholds c := ⟨id, Int.le_refl _⟩

theorem trans {c d e : Card} (h : c.Upholds d) (h' : d.Upholds e) : c.Upholds e :=
  ⟨h'.limits ∘ h.limits, Int.le_trans h.maxHp h'.maxHp⟩

/-- Attack and marks other than frost are not in question. -/
theorem of_eq {c d : Card} (hp : d.hp = c.hp) (maxHp : d.maxHp = c.maxHp)
    (frozen : d.frozen = c.frozen) : c.Upholds d where
  limits within := ⟨by rw [hp, maxHp]; exact within.hp, by rw [frozen]; exact within.frozen⟩
  maxHp := Int.le_of_eq maxHp.symm

theorem addHp (c : Card) (amount : Int) : c.Upholds (c.addHp amount) where
  limits within := ⟨Int.le_max_right _ _, within.frozen⟩
  maxHp := Int.le_max_left _ _

theorem strengthen (c : Card) {amount : Int} (positive : 0 ≤ amount) :
    c.Upholds (c.strengthen amount) where
  limits within := ⟨Int.add_le_add_right within.hp amount, within.frozen⟩
  maxHp := Int.le_add_of_nonneg_right positive

theorem loseHp (c : Card) {amount : Int} (positive : 0 ≤ amount) :
    c.Upholds (c.loseHp amount) where
  limits within := ⟨Int.le_trans (Int.sub_le_self _ positive) within.hp, within.frozen⟩
  maxHp := Int.le_refl _

theorem freeze (c : Card) {turns : Int} (positive : 0 ≤ turns) :
    c.Upholds { c with frozen := turns } where
  limits within := ⟨within.hp, positive⟩
  maxHp := Int.le_refl _

end Card.Upholds

/-! ## Changes -/

namespace Effect

/-- A change that upholds the limits of every card. -/
def Upholds (change : Card → Card × List Event) : Prop :=
  ∀ c : Card, c.Upholds (change c).1

theorem upholds_changeAtk (amount : Int) (condition : Option Condition) :
    Upholds (changeAtk amount condition) := by
  intro c
  unfold changeAtk
  split <;> exact .of_eq rfl rfl rfl

theorem upholds_changeHp (amount : Int) (condition : Option Condition) :
    Upholds (changeHp amount condition) := by
  intro c
  unfold changeHp
  split
  · exact .addHp c amount
  · exact .refl c

theorem upholds_changeAtkWithBonus (base bonus : Int) (condition : Condition) :
    Upholds (changeAtkWithBonus base bonus condition) := by
  intro c
  unfold changeAtkWithBonus
  simp only
  split
  · exact .refl c
  · split <;> exact .of_eq rfl rfl rfl

theorem upholds_changeHpWithBonus (base bonus : Int) (condition : Condition) :
    Upholds (changeHpWithBonus base bonus condition) := by
  intro c
  unfold changeHpWithBonus
  simp only
  split
  · exact .refl c
  · split <;> exact .addHp c _

theorem upholds_frost (turns : Nat) : Upholds (frost turns) :=
  fun c => .freeze c (Int.natCast_nonneg turns)

theorem upholds_thaw : Upholds thaw := by
  intro c
  unfold thaw
  split
  · exact .freeze c (Int.le_refl 0)
  · exact .refl c

theorem upholds_shield : Upholds shield := fun _ => .of_eq rfl rfl rfl

theorem upholds_remember : Upholds remember := fun _ => .of_eq rfl rfl rfl

theorem upholds_chill (attacker : String) (turns : Nat) : Upholds (chill attacker turns) :=
  fun c => .freeze c (Int.natCast_nonneg turns)

theorem upholds_buffMonster {amount : Int} (positive : 0 ≤ amount) :
    Upholds (buffMonster amount) := by
  intro c
  unfold buffMonster
  split
  · exact .strengthen c positive
  · exact .refl c

theorem upholds_hit {damage : Int} (positive : 0 ≤ damage) : Upholds (hit damage) :=
  fun c => .loseHp c positive

/-- The hell lord's loss keeps the distance of the hit points to their limit. -/
theorem debuffMonster_within {c : Card} (within : c.WithinLimits) :
    (debuffMonster c).1.WithinLimits := by
  unfold debuffMonster
  split
  · exact ⟨Int.sub_le_sub_right within.hp hellLordLoss, within.frozen⟩
  · exact within

theorem hellLordBuff_nonneg (own : List Card) : 0 ≤ hellLordBuff own := by
  unfold hellLordBuff
  split <;> decide

end Effect

theorem Atom.upholds_of_edit? {a : Atom} {f : TargetFilter} {change : Card → Card × List Event}
    (h : a.edit? = some (f, change)) : Effect.Upholds change := by
  cases a with
  | modifyAtk amount f c => cases h; exact Effect.upholds_changeAtk amount c
  | modifyHp amount f c => cases h; exact Effect.upholds_changeHp amount c
  | conditionalModifyAtk base bonus c f =>
      cases h; exact Effect.upholds_changeAtkWithBonus base bonus c
  | conditionalModifyHp base bonus c f =>
      cases h; exact Effect.upholds_changeHpWithBonus base bonus c
  | freeze turns f => cases h; exact Effect.upholds_frost turns
  | removeDebuffs f => cases h; exact Effect.upholds_thaw
  | addImmunity f => cases h; exact Effect.upholds_shield
  | _ => cases h

/-! ## Changes in a run -/

namespace Run

variable {ρ : Type}

theorem edit_upholds {change : Card → Card × List Event} (upholds : Effect.Upholds change)
    (r : Run ρ) (o x : Origin) : (r.cards x).Upholds ((r.edit change o).cards x) := by
  rw [edit_cards]
  split
  · rename_i same
    rw [same]
    exact upholds _
  · exact .refl _

theorem visit_upholds {change : Card → Card × List Event} (upholds : Effect.Upholds change)
    (r : Run ρ) (os : List Origin) (x : Origin) :
    (r.cards x).Upholds ((r.visit os change).cards x) := by
  induction os generalizing r with
  | nil => exact .refl _
  | cons o os ih => exact (edit_upholds upholds r o x).trans (ih (r.edit change o))

theorem visit_within {change : Card → Card × List Event}
    (keeps : ∀ c : Card, c.WithinLimits → (change c).1.WithinLimits) (r : Run ρ)
    (os : List Origin) {x : Origin} (within : (r.cards x).WithinLimits) :
    ((r.visit os change).cards x).WithinLimits := by
  induction os generalizing r with
  | nil => exact within
  | cons o os ih =>
      refine ih (r.edit change o) ?_
      rw [edit_cards]
      split
      · rename_i same
        exact keeps _ (same ▸ within)
      · exact within

/-- A visit of cards without repetition changes each of them once. -/
theorem visit_cards_of_nodup (change : Card → Card × List Event) (r : Run ρ) {os : List Origin}
    (once : os.Nodup) (x : Origin) :
    (r.visit os change).cards x = if x ∈ os then (change (r.cards x)).1 else r.cards x := by
  have named : os.map (fun o => o) = os := List.map_id' os
  split
  · rename_i member
    exact foldl_edit_cards r (named.symm ▸ once) member
  · rename_i other
    exact foldl_edit_cards_of_not_mem r (named.symm ▸ other)

end Run

/-! ## Effects other than changes -/

namespace Effect

variable {ρ : Type}

theorem fold_cards {α : Type} {step : Run ρ → α → Run ρ}
    (each : ∀ (r : Run ρ) a, (step r a).cards = r.cards) (r : Run ρ) (as : List α) :
    (as.foldl step r).cards = r.cards := by
  induction as generalizing r with
  | nil => rfl
  | cons a as ih => exact (ih (step r a)).trans (each r a)

theorem killOne_cards (r : Run ρ) (o : Origin) : (killOne r o).cards = r.cards := by
  unfold killOne
  simp only
  split
  · rfl
  · split <;> rfl

theorem clearSide_cards (except : Option (List String)) (r : Run ρ) (side : Side) :
    (clearSide except r side).cards = r.cards := rfl

theorem cascade_upholds (base : Int) (b : Binding) (r : Run ρ) (o : Origin) :
    (r.cards o).Upholds ((cascade base b r).cards o) := by
  unfold cascade
  generalize (byHealth r.cards (r.field b.opponent)).zipIdx = ranked
  induction ranked generalizing r with
  | nil => exact .refl _
  | cons first ranked ih =>
      have positive : 0 ≤ cascadeAt base first.2 :=
        Int.le_trans (by decide) (Int.le_max_left 1 _)
      exact (Run.edit_upholds (upholds_hit positive) r first.1 o).trans (ih _)

theorem firstAttack_upholds (turns : Nat) (b : Binding) (r : Run ρ) (o : Origin) :
    (r.cards o).Upholds ((firstAttack turns b r).cards o) := by
  rw [firstAttack_eq]
  split
  · exact .refl _
  · have used := Run.edit_upholds upholds_remember r b.actor o
    split
    · exact used
    · exact used.trans (Run.edit_upholds (upholds_chill _ turns) _ _ o)

end Effect

/-- **No atom but the hell lord's bonus lowers an upper limit or breaks one.** -/
theorem Atom.perform_upholds {ρ : Type} [RandomSource ρ] (b : Binding) (r : Run ρ) {a : Atom}
    (other : a ≠ .hellLordBonus) (o : Origin) :
    (r.cards o).Upholds ((a.perform b r).cards o) := by
  have still : (a.perform b r).cards = r.cards →
      (r.cards o).Upholds ((a.perform b r).cards o) := by
    intro same
    rw [same]
    exact .refl _
  cases edits : a.edit? with
  | some e =>
      rw [perform_of_edit? edits]
      exact Run.visit_upholds (upholds_of_edit? edits) (r.tell _) _ o
  | none =>
      cases a with
      | killCard f => exact still (Effect.fold_cards Effect.killOne_cards (r.tell _) _)
      | clearField f =>
          exact still (Effect.fold_cards (Effect.clearSide_cards (f.bind (·.exceptRace))) r _)
      | conditionalKillPlayer c =>
          refine still ?_
          rw [perform, Effect.execute]
          split <;> rfl
      | cascadeDamage base => exact Effect.cascade_upholds base b r o
      | drawFromDiscard amount =>
          refine still ?_
          rw [perform, Effect.drawDiscarded]
          split <;> rfl
      | discardAndRedraw =>
          refine still ?_
          rw [perform, Effect.redraw]
          split <;> rfl
      | hellLordBonus => exact absurd rfl other
      | freezeOnFirstAttack turns => exact Effect.firstAttack_upholds turns b r o
      | swapRandomHands amount =>
          refine still ?_
          simp only [perform, Effect.swapHands, Effect.exchange]
          split <;> rfl
      | playerHeal | playerDamage | gainCoins | drawCards | swapBattlefields | skipTurn
      | uiModeMessage => exact still rfl
      | _ => cases edits

/-! ## The hell lord -/

namespace Effect

variable {ρ : Type}

/-- What the hell lord weakens: the monsters on the opponent's battlefield, but for
the legendary ones. -/
structure Weakened (b : Binding) (r : Run ρ) (o : Origin) : Prop where
  onField : o ∈ r.field b.opponent
  monster : (r.cards o).hasRace [monsterRace] = true
  common : (r.cards o).rarity ≠ legendary

theorem hellLord_within (b : Binding) (r : Run ρ) {o : Origin}
    (within : (r.cards o).WithinLimits) : ((hellLord b r).cards o).WithinLimits := by
  have own := (Run.visit_upholds (upholds_buffMonster
    (hellLordBuff_nonneg ((r.field b.player).map r.cards))) r (r.field b.player) o).limits within
  exact Run.visit_within (fun _ => debuffMonster_within) _ _ own

/-- On lanes without repetition the hell lord changes every card once: by the loss on
the other side, by the bonus on the acting side. -/
theorem hellLord_cards (b : Binding) {r : Run ρ}
    (once : (r.table.fieldCards Side.both).Nodup) (o : Origin) :
    (hellLord b r).cards o =
      if o ∈ r.field b.opponent then (debuffMonster (r.cards o)).1
      else if o ∈ r.field b.player then
        (buffMonster (hellLordBuff ((r.field b.player).map r.cards)) (r.cards o)).1
      else r.cards o := by
  have parted : (r.field b.player ++ r.field b.opponent).Nodup :=
    (r.table.fieldCards_both_perm b.player).nodup_iff.mp once
  obtain ⟨own, others, apart⟩ := List.nodup_append.mp parted
  have first := Run.visit_cards_of_nodup
    (buffMonster (hellLordBuff ((r.field b.player).map r.cards))) r own o
  unfold hellLord
  simp only
  generalize stage : r.visit (r.field b.player) _ = r' at first ⊢
  have lanes : r'.field b.opponent = r.field b.opponent := by
    rw [← stage]
    simp [Run.field]
  rw [lanes, Run.visit_cards_of_nodup _ _ others]
  by_cases onField : o ∈ r.field b.opponent
  · have elsewhere : o ∉ r.field b.player := fun own => apart o own o onField rfl
    rw [if_pos onField, if_pos onField, first, if_neg elsewhere]
  · rw [if_neg onField, if_neg onField, first]

/-- **The hell lord lowers the upper limit of what it weakens by its loss, and of
nothing else.** -/
theorem hellLord_maxHp (b : Binding) {r : Run ρ}
    (once : (r.table.fieldCards Side.both).Nodup) (o : Origin) :
    (Weakened b r o → ((hellLord b r).cards o).maxHp = (r.cards o).maxHp - hellLordLoss) ∧
      (¬ Weakened b r o → (r.cards o).maxHp ≤ ((hellLord b r).cards o).maxHp) := by
  rw [hellLord_cards b once o]
  constructor
  · rintro ⟨onField, monster, common⟩
    rw [if_pos onField, debuffMonster, if_pos (by simp [monster, common])]
    rfl
  · intro spared
    split
    · rename_i onField
      rw [debuffMonster]
      split
      · rename_i both
        simp only [Bool.and_eq_true, bne_iff_ne] at both
        exact absurd ⟨onField, both.1, both.2⟩ spared
      · exact Int.le_refl _
    · split
      · exact (upholds_buffMonster (hellLordBuff_nonneg _) _).maxHp
      · exact Int.le_refl _

end Effect

theorem Atom.perform_within {ρ : Type} [RandomSource ρ] (b : Binding) (r : Run ρ) (a : Atom)
    {o : Origin} (within : (r.cards o).WithinLimits) :
    ((a.perform b r).cards o).WithinLimits := by
  by_cases lord : a = .hellLordBonus
  · subst lord
    exact Effect.hellLord_within b r within
  · exact (perform_upholds b r lord o).limits within

end LaneDuel
