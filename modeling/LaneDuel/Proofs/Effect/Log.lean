/-
# LaneDuel.Proofs.Effect.Log -- what was told stays told

Every effect only adds to the log of its run: what was there before is the beginning of
what is there after.  So the traces of earlier calls are still there when a chain ends.
-/
import LaneDuel.Effect.Perform
import LaneDuel.Proofs.Effect.Run

namespace LaneDuel

set_option autoImplicit false

variable {ρ : Type}

namespace Run

theorem log_prefix_tell (r : Run ρ) (es : List Event) : r.log <+: (r.tell es).log :=
  List.prefix_append r.log es

theorem log_prefix_foldl {α : Type} {step : Run ρ → α → Run ρ}
    (each : ∀ (r : Run ρ) a, r.log <+: (step r a).log) (r : Run ρ) (as : List α) :
    r.log <+: (as.foldl step r).log := by
  induction as generalizing r with
  | nil => exact List.prefix_rfl
  | cons a as ih => exact (each r a).trans (ih (step r a))

theorem log_prefix_edit (change : Card → Card × List Event) (r : Run ρ) (o : Origin) :
    r.log <+: (r.edit change o).log :=
  log_prefix_tell (r.put o (change (r.cards o)).1) _

theorem log_prefix_visit (r : Run ρ) (os : List Origin) (change : Card → Card × List Event) :
    r.log <+: (r.visit os change).log :=
  log_prefix_foldl (log_prefix_edit change) r os

theorem log_prefix_reach (r : Run ρ) (b : Binding) (f : TargetFilter)
    (change : Card → Card × List Event) : r.log <+: (r.reach b f change).log :=
  (log_prefix_tell r _).trans (log_prefix_visit _ _ change)

end Run

namespace Effect

open Run

variable (b : Binding) (r : Run ρ)

theorem kill_log (f : TargetFilter) : r.log <+: (kill f b r).log := by
  refine (log_prefix_tell r _).trans (log_prefix_foldl (fun r o => ?_) _ _)
  simp only [killOne]
  split
  · exact log_prefix_tell r _
  · split
    · exact List.prefix_rfl
    · exact log_prefix_tell (r.modifyTable _) _

theorem clearField_log (f : Option ClearFieldFilter) : r.log <+: (clearField f b r).log :=
  log_prefix_foldl (fun r side => log_prefix_tell ((r.modifyPlayer side _).modifyTable _) _) r _

theorem hellLord_log : r.log <+: (hellLord b r).log :=
  (log_prefix_visit r _ _).trans (log_prefix_visit _ _ debuffMonster)

theorem cascade_log (base : Int) : r.log <+: (cascade base b r).log :=
  log_prefix_foldl (fun r (o, rank) => log_prefix_edit (hit (cascadeAt base rank)) r o) r _

theorem execute_log (c : KillCondition) : r.log <+: (execute c b r).log := by
  unfold execute
  simp only
  split
  · exact log_prefix_tell ((r.modifyPlayer b.opponent _).modifyTable _) _
  · exact log_prefix_tell r _

theorem firstAttack_log (turns : Int) : r.log <+: (firstAttack turns b r).log := by
  unfold firstAttack
  simp only
  split
  · exact log_prefix_tell r _
  · split
    · exact log_prefix_tell (r.put b.actor _) _
    · exact log_prefix_tell ((r.put b.actor _).put _ _) _

theorem drawDiscarded_log (amount : Nat) : r.log <+: (drawDiscarded amount b r).log := by
  unfold drawDiscarded
  simp only
  split
  · exact log_prefix_tell r _
  · exact log_prefix_tell ((r.modifyTable _).modifyPlayer b.player _) _

theorem redraw_log [RandomSource ρ] : r.log <+: (redraw b r).log := by
  unfold redraw
  simp only
  split
  · exact log_prefix_tell r _
  · exact List.prefix_append r.log _

theorem exchange_log (given taken : List Origin) : r.log <+: (exchange given taken b r).log := by
  unfold exchange
  split
  · exact log_prefix_tell r _
  · exact log_prefix_tell ((r.modifyPlayer b.player _).modifyPlayer b.opponent _) _

theorem swapHands_log [RandomSource ρ] (amount : Nat) : r.log <+: (swapHands amount b r).log := by
  rcases first : pick (eligible b r) (min amount (eligible b r).length) r.source
    with ⟨given, source⟩
  rcases second : pick (r.player b.opponent).hand (min amount (r.player b.opponent).hand.length)
    source with ⟨taken, source'⟩
  simp only [swapHands, first, second]
  exact exchange_log b { r with source := source' } given taken

end Effect

/-- **What was told stays told**, whatever atom is carried out. -/
theorem Atom.perform_log [RandomSource ρ] (b : Binding) (r : Run ρ) (a : Atom) :
    r.log <+: (a.perform b r).log := by
  cases a with
  | modifyAtk amount f c => exact r.log_prefix_reach b f _
  | modifyHp amount f c => exact r.log_prefix_reach b f _
  | conditionalModifyAtk base bonus c f => exact r.log_prefix_reach b f _
  | conditionalModifyHp base bonus c f => exact r.log_prefix_reach b f _
  | playerHeal amount f => exact (r.modifyPlayer _ _).log_prefix_tell _
  | playerDamage amount f => exact (r.modifyPlayer _ _).log_prefix_tell _
  | killCard f => exact Effect.kill_log b r f
  | clearField f => exact Effect.clearField_log b r f
  | freeze turns f => exact r.log_prefix_reach b f _
  | removeDebuffs f => exact r.log_prefix_reach b f _
  | gainCoins amount c => exact (r.modifyPlayer _ _).log_prefix_tell _
  | conditionalKillPlayer c => exact Effect.execute_log b r c
  | cascadeDamage base => exact Effect.cascade_log b r base
  | drawFromDiscard amount => exact Effect.drawDiscarded_log b r amount
  | discardAndRedraw => exact Effect.redraw_log b r
  | drawCards base bonus c => exact ((r.modifyTable _).modifyPlayer _ _).log_prefix_tell _
  | hellLordBonus => exact Effect.hellLord_log b r
  | swapBattlefields => exact ((r.modifyPlayer _ _).modifyPlayer _ _).log_prefix_tell _
  | freezeOnFirstAttack turns => exact Effect.firstAttack_log b r turns
  | addImmunity f => exact r.log_prefix_reach b f _
  | swapRandomHands amount => exact Effect.swapHands_log b r amount
  | skipTurn => exact (r.modifyTable _).log_prefix_tell _
  | uiModeMessage message => exact r.log_prefix_tell _

end LaneDuel
