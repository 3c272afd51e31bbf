/-
# LaneDuel.Proofs.Loose.Players -- health, coins and signals on typed runs

Numbers of players are read as values, reckoned with and written back.  On a typed run
each such step is an integer operation, and the amount that is told is the number then
there.
-/
import LaneDuel.Proofs.Loose.Does
import LaneDuel.Proofs.Table.Basic

namespace LaneDuel.Loose.Act.Does

set_option autoImplicit false

variable {ρ : Type} {r : LaneDuel.Run ρ} (tracing : Bool) (b : Binding)

/-! ## Health and coins -/

/-- What a number of a player is after it was changed. -/
theorem changed (s : Side) (f : LaneDuel.Player Int Origin → LaneDuel.Player Int Origin) :
    (r.modifyPlayer s f).player s = f (r.player s) :=
  Table.player_modifyPlayer_self r.table s f

theorem heal (amount : Int) (f : PlayerFilter) :
    Does (Act.heal amount f (.ofBinding tracing b)) r () (Effect.heal amount f b r) := by
  rw [Effect.heal, changed]
  refine (player _).bind ((ofExcept (add_int _ _)).bind ?_)
  exact (modifyPlayer _ rfl).bind (notice tracing b _)

theorem damage (amount : Int) (f : PlayerFilter) :
    Does (Act.damage amount f (.ofBinding tracing b)) r () (Effect.damage amount f b r) := by
  rw [Effect.damage, changed]
  refine (player _).bind ((ofExcept (sub_int _ _)).bind ?_)
  exact (modifyPlayer _ rfl).bind (notice tracing b _)

theorem pay (amount : Int) : Does (Act.pay (.int amount) (.ofBinding tracing b)) r ()
    (Effect.pay amount b r) := by
  rw [Effect.pay, changed]
  refine (player _).bind ((ofExcept (increase_int _ _)).bind ?_)
  exact (modifyPlayer _ rfl).bind (notice tracing b _)

theorem gainCoins (amount : Nat) (condition : Option CoinCondition) :
    Does (Act.gainCoins amount condition (.ofBinding tracing b)) r ()
      (Effect.gainCoins amount condition b r) := by
  cases condition with
  | none => exact (pure amount).bind (pay tracing b amount)
  | some c =>
      have any : ((r.table.fieldCards Side.both).any fun o => c.toCondition.admits (r.cards o))
          = ((r.table.fieldCards Side.both).map r.cards).any c.toCondition.admits := by
        rw [List.any_map]
        rfl
      rw [Effect.gainCoins, Effect.coinsDue, ← any]
      refine get.bind ?_
      rw [Run.fieldCards_ofChecked]
      refine (anyCard (meets c.toCondition) (meets_ofChecked · c.toCondition) _).bind ?_
      cases (r.table.fieldCards Side.both).any fun o => c.toCondition.admits (r.cards o) with
      | true => exact (pure c.bonus).bind (pay tracing b c.bonus)
      | false => exact (pure amount).bind (pay tracing b amount)

theorem execute (c : KillCondition) : Does (Act.execute c (.ofBinding tracing b)) r ()
    (Effect.execute c b r) := by
  refine (player b.opponent).bind ?_
  refine (ofExcept (atMost_int (r.player b.opponent).health c.threshold)).bind ?_
  rw [Effect.execute]
  by_cases falls : (r.player b.opponent).health ≤ c.threshold
  · rw [if_pos falls, decide_eq_true falls]
    exact (modifyPlayer _ rfl).bind ((modifyTable rfl).bind (notice tracing b _))
  · rw [if_neg falls, decide_eq_false falls]
    exact notice tracing b _

/-! ## The board and its signals -/

theorem swapBattlefields : Does (Act.swapBattlefields (.ofBinding tracing b)) r ()
    (Effect.swapBattlefields b r) := by
  refine (player _).bind ((player _).bind ?_)
  exact (modifyPlayer _ rfl).bind ((modifyPlayer _ rfl).bind (notice tracing b _))

theorem skipTurn : Does (Act.skipTurn (.ofBinding tracing b)) r () (Effect.skipTurn r) :=
  (modifyTable rfl).bind (notice tracing b _)

end LaneDuel.Loose.Act.Does
