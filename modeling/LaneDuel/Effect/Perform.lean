/-
# LaneDuel.Effect.Perform -- carrying out an atom

A checked atom always can be carried out: `Atom.perform` is a total function of
the binding and the run.
-/
import LaneDuel.Effect.Board
import LaneDuel.Effect.Hands
import LaneDuel.Effect.Players
import LaneDuel.Effect.Removal
import LaneDuel.Effect.Stats
import LaneDuel.Effect.Status
import LaneDuel.Schema.Atom

namespace LaneDuel

set_option autoImplicit false

/-- Carry out a checked atom. -/
def Atom.perform {ρ : Type} [RandomSource ρ] (b : Binding) (r : Run ρ) : Atom → Run ρ
  | modifyAtk amount f c => Effect.modifyAtk amount f c b r
  | modifyHp amount f c => Effect.modifyHp amount f c b r
  | conditionalModifyAtk base bonus c f => Effect.conditionalModifyAtk base bonus c f b r
  | conditionalModifyHp base bonus c f => Effect.conditionalModifyHp base bonus c f b r
  | playerHeal amount f => Effect.heal amount f b r
  | playerDamage amount f => Effect.damage amount f b r
  | killCard f => Effect.kill f b r
  | clearField f => Effect.clearField f b r
  | freeze turns f => Effect.freeze turns f b r
  | removeDebuffs f => Effect.removeDebuffs f b r
  | gainCoins amount c => Effect.gainCoins amount c b r
  | conditionalKillPlayer c => Effect.execute c b r
  | cascadeDamage base => Effect.cascade base b r
  | drawFromDiscard amount => Effect.drawDiscarded amount b r
  | discardAndRedraw => Effect.redraw b r
  | drawCards base bonus c => Effect.draw base bonus c b r
  | hellLordBonus => Effect.hellLord b r
  | swapBattlefields => Effect.swapBattlefields b r
  | freezeOnFirstAttack turns => Effect.firstAttack turns b r
  | addImmunity f => Effect.addImmunity f b r
  | swapRandomHands amount => Effect.swapHands amount b r
  | skipTurn => Effect.skipTurn r
  | uiModeMessage message => Effect.uiMessage message r

end LaneDuel
