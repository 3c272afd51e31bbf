/-
# LaneDuel.Proofs.Atom.HellLord -- the hell lord takes sides

The hell lord's bonus compares every card of the battlefields with itself, before and
after (`hellLord_takes_sides`).  On the acting side nothing is lowered, and every monster
has the same bonus on all three stats (`Card.Favoured`).  On the other side no hit points
are gained, and no attack above zero (`Card.Harmed`).  Nothing else changes.

Attack is not only lowered there: it is cut off at zero, and attack may be negative.  A
monster whose attack other effects have driven below zero has it lifted to zero by what is
meant to weaken it (`Card.Harmed.raised`, `Example.ogre_emboldened`).
-/
import LaneDuel.Proofs.Atom.Lanes
import LaneDuel.Proofs.Effect.Accounts
import LaneDuel.Proofs.Engine.Limits

namespace LaneDuel

set_option autoImplicit false

/-! ## One card -/

namespace Card

/-- A monster that the hell lord weakens when it stands against him: any but a legendary
one. -/
def isPrey (c : Card) : Bool :=
  c.hasRace [Effect.monsterRace] && c.rarity != Effect.legendary

/-- A card of the acting side before and after: a monster has the bonus on all three
stats, any other card is as it was, and nothing is lowered. -/
structure Favoured (bonus : Int) (c d : Card) : Prop where
  monster : c.hasRace [Effect.monsterRace] = true →
    d = { c with atk := c.atk + bonus, hp := c.hp + bonus, maxHp := c.maxHp + bonus }
  other : c.hasRace [Effect.monsterRace] = false → d = c
  atk : c.atk ≤ d.atk
  hp : c.hp ≤ d.hp
  maxHp : c.maxHp ≤ d.maxHp

/-- A card of the other side before and after: whatever is no prey is as it was, and prey
has the loss on its hit points and their limit, nothing but the stats being touched. -/
structure Harmed (c d : Card) : Prop where
  spared : c.isPrey = false → d = c
  prey : c.isPrey = true →
    d = { c with atk := d.atk, hp := c.hp - 3, maxHp := c.maxHp - 3 }
  hp : d.hp ≤ c.hp
  maxHp : d.maxHp ≤ c.maxHp
  atk : d.atk ≤ max 0 c.atk
  /-- Attack is gained where prey had less than none, and nowhere else. -/
  raised : c.atk < d.atk ↔ c.isPrey = true ∧ c.atk < 0

end Card

namespace Effect

theorem favoured_buffMonster {bonus : Int} (positive : 0 ≤ bonus) (c : Card) :
    c.Favoured bonus (buffMonster bonus c).1 := by
  cases monster : c.hasRace [monsterRace] with
  | false =>
      have still : (buffMonster bonus c).1 = c := by simp [buffMonster, monster]
      rw [still]
      exact ⟨fun h => by simp [monster] at h, fun _ => rfl, Int.le_refl _, Int.le_refl _,
        Int.le_refl _⟩
  | true =>
      have gained : (buffMonster bonus c).1 = c.strengthen bonus := by simp [buffMonster, monster]
      rw [gained]
      exact ⟨fun _ => rfl, fun h => by simp [monster] at h, Int.le_add_of_nonneg_right positive,
        Int.le_add_of_nonneg_right positive, Int.le_add_of_nonneg_right positive⟩

theorem harmed_debuffMonster (c : Card) : c.Harmed (debuffMonster c).1 := by
  cases prey : c.isPrey with
  | false =>
      have still : (debuffMonster c).1 = c := by
        rw [Card.isPrey] at prey
        simp [debuffMonster, prey]
      rw [still]
      refine ⟨fun _ => rfl, fun h => by simp [prey] at h, Int.le_refl _, Int.le_refl _,
        Int.le_max_right _ _, ?_⟩
      simp [prey]
  | true =>
      have lost : (debuffMonster c).1 = c.weaken hellLordLoss := by
        rw [Card.isPrey] at prey
        simp [debuffMonster, prey]
      rw [lost]
      refine ⟨fun h => by simp [prey] at h, fun _ => rfl, ?_, ?_, ?_, ?_⟩
      · exact Int.sub_le_self _ (by decide)
      · exact Int.sub_le_self _ (by decide)
      · simp only [Card.weaken, hellLordLoss]
        omega
      · simp only [Card.weaken, hellLordLoss, prey, true_and]
        omega

/-! ## The battlefields -/

variable {ρ : Type}

/-- A card off the lanes is none of the hell lord's business. -/
theorem hellLord_cards_off (b : Binding) {r : Run ρ} (once : r.table.cards.Nodup) {o : Origin}
    (off : ∀ s, o ∉ r.field s) : (hellLord b r).cards o = r.cards o := by
  have lanes := (Table.fieldCards_both_sublist r.table).nodup once
  rw [hellLord_cards b lanes, if_neg (off b.opponent), if_neg (off b.player)]

theorem hellLord_own (b : Binding) {r : Run ρ} (once : r.table.cards.Nodup) {o : Origin}
    (onField : o ∈ r.field b.player) :
    (r.cards o).Favoured (hellLordBuff ((r.field b.player).map r.cards))
      ((hellLord b r).cards o) := by
  have lanes := (Table.fieldCards_both_sublist r.table).nodup once
  have elsewhere : o ∉ r.field b.opponent := Run.not_mem_field_opponent once onField
  rw [hellLord_cards b lanes, if_neg elsewhere, if_pos onField]
  exact favoured_buffMonster (hellLordBuff_nonneg _) _

theorem hellLord_other (b : Binding) {r : Run ρ} (once : r.table.cards.Nodup) {o : Origin}
    (onField : o ∈ r.field b.opponent) : (r.cards o).Harmed ((hellLord b r).cards o) := by
  have lanes := (Table.fieldCards_both_sublist r.table).nodup once
  rw [hellLord_cards b lanes, if_pos onField]
  exact harmed_debuffMonster _

/-- One stage and the next: other lanes, and nothing else. -/
theorem hellLord_lanes (b : Binding) {r : Run ρ} (once : r.table.cards.Nodup) :
    let before := r.snapshot
    let after := (hellLord b r).snapshot
    let bonus := hellLordBuff (before.player b.player).fieldCards
    after = Table.withLanes before after ∧
      List.Forall₂ (Option.Rel (Card.Favoured bonus)) (before.player b.player).battlefield
        (after.player b.player).battlefield ∧
      List.Forall₂ (Option.Rel Card.Harmed) (before.player b.player.opponent).battlefield
        (after.player b.player.opponent).battlefield := by
  intro before after bonus
  have still : (hellLord b r).table = r.table := hellLord_table b r
  have own : bonus = hellLordBuff ((r.field b.player).map r.cards) :=
    congrArg hellLordBuff (r.fieldCards_snapshot b.player)
  refine ⟨?_, ?_, ?_⟩
  · simp only [after, before, Run.snapshot, still]
    exact Table.map_eq_withLanes once fun o off => hellLord_cards_off b once off
  · rw [own]
    exact Run.forall₂_lanes still fun o onField => hellLord_own b once onField
  · exact Run.forall₂_lanes still fun o onField => hellLord_other b once onField

end Effect

/-- **The hell lord takes sides.**  Whatever the state, he changes cards of the battlefields
only: the acting side's are favoured by one bonus, larger when a demon stands among them,
and the other side's are harmed. -/
theorem Atom.hellLord_takes_sides {ρ : Type} [RandomSource ρ] (b : Binding) (s : State)
    (actor target : Card) (source : ρ) :
    let own := (s.player b.player).fieldCards
    let bonus : Int := if own.any (·.hasRace [Effect.demonRace]) then 4 else 3
    let after := (Atom.hellLordBonus.perform b (Run.enter s actor target source)).snapshot
    after = Table.withLanes s after ∧
      List.Forall₂ (Option.Rel (Card.Favoured bonus)) (s.player b.player).battlefield
        (after.player b.player).battlefield ∧
      List.Forall₂ (Option.Rel Card.Harmed) (s.player b.player.opponent).battlefield
        (after.player b.player.opponent).battlefield := by
  have once : (Run.enter s actor target source).table.cards.Nodup := Table.origins_nodup s
  have lanes := Effect.hellLord_lanes b once
  rw [Run.snapshot_enter] at lanes
  exact lanes

namespace Example

open Engine

/-- Red frightens the monster of the lair out of its attack and more, then calls the hell
lord against it: weakened, it has more attack than before. -/
theorem ogre_emboldened :
    let omen : Invocation := ⟨.red, card "omen" .miracle, none⟩
    let cowed : State := (chain .standard 1 omen lair (Lcg.ofSeed 7)
      [.known (.modifyAtk (-5) (onField .opponent) none)]).snapshot
    let after := (Atom.hellLordBonus.perform (bind cowed omen)
      (Run.enter cowed omen.card omen.card (Lcg.ofSeed 7))).snapshot
    ¬ List.Forall₂ (Option.Rel fun c d : Card => d.atk ≤ c.atk)
      (cowed.player .blue).battlefield (after.player .blue).battlefield := by
  intro omen cowed after lowered
  have before : (cowed.player .blue).battlefield.map (Option.map (·.atk)) = [none, some (-3)] := by
    decide
  have lifted : (after.player .blue).battlefield.map (Option.map (·.atk)) = [none, some 0] := by
    decide
  have attacks : List.Forall₂ (Option.Rel fun x y : Int => y ≤ x) [none, some (-3)]
      [none, some 0] := by
    rw [← before, ← lifted, List.forall₂_map_left_iff, List.forall₂_map_right_iff]
    refine lowered.imp fun lane lane' compared => ?_
    cases compared with
    | none => exact .none
    | some le => exact .some le
  simp at attacks

end Example

end LaneDuel
