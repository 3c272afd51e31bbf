/-
# LaneDuel.Proofs.Loose.Perform -- carrying out calls on typed runs

On a typed run a checked atom does what it does on the checked run (`Does.perform`).
An effect told by raw members does so too where its parameters have the types that it
needs: `Executor.effect?` is then its checked effect (`Does.carryOut`).
-/
import LaneDuel.Loose.Library
import LaneDuel.Proofs.Effect.Log
import LaneDuel.Proofs.Loose.Cards
import LaneDuel.Proofs.Loose.Hands
import LaneDuel.Proofs.Loose.Players
import LaneDuel.Proofs.Loose.Removal

namespace LaneDuel.Loose

set_option autoImplicit false

variable {ρ : Type}

theorem Act.Does.perform [RandomSource ρ] {r : LaneDuel.Run ρ} (tracing : Bool) (b : Binding)
    (a : Atom) : Does (Act.perform (.ofBinding tracing b) a) r () (a.perform b r) := by
  cases a with
  | modifyAtk amount f c => exact modifyAtk tracing b amount f c
  | modifyHp amount f c => exact modifyHp tracing b amount f c
  | conditionalModifyAtk base bonus c f => exact conditionalModifyAtk tracing b base bonus f c
  | conditionalModifyHp base bonus c f => exact conditionalModifyHp tracing b base bonus f c
  | playerHeal amount f => exact heal tracing b amount f
  | playerDamage amount f => exact damage tracing b amount f
  | killCard f => exact kill tracing b f
  | clearField f => exact clearField tracing b f
  | freeze turns f => exact freeze tracing b f turns
  | removeDebuffs f => exact removeDebuffs tracing b f
  | gainCoins amount c => exact gainCoins tracing b amount c
  | conditionalKillPlayer c => exact execute tracing b c
  | cascadeDamage base => exact cascade tracing b base
  | drawFromDiscard amount => exact drawDiscarded tracing b amount
  | discardAndRedraw => exact redraw tracing b
  | drawCards base bonus c => exact drawCards tracing b base bonus c
  | hellLordBonus => exact hellLord tracing b
  | swapBattlefields => exact swapBattlefields tracing b
  | freezeOnFirstAttack turns => exact firstAttack tracing b turns
  | addImmunity f => exact addImmunity tracing b f
  | swapRandomHands amount =>
      exact swapHands tracing b (fun n => .ok (min amount n)) amount fun _ => rfl
  | skipTurn => exact skipTurn tracing b
  | uiModeMessage message => exact notice tracing b _

/-! ## What a call can be told -/

section Effects

variable (ρ) [RandomSource ρ]

/-- The checked effect of raw members, if the parameters have the types that it needs:
amounts are integers, the one that a source is asked for is none below zero, a message is
a text, and there is no condition. -/
def Raw.effect? : Raw → Option (Binding → LaneDuel.Run ρ → LaneDuel.Run ρ)
  | .plain a => some fun b r => a.perform b r
  | .gainCoins (.num (.int amount)) .null => some (Effect.pay amount)
  | .cascadeDamage (.num (.int base)) => some (Effect.cascade base)
  | .drawFromDiscard (.num (.int amount)) => some (Effect.drawDiscarded amount.toNat)
  | .drawCards (.num (.int base)) .null => some fun b => Effect.drawSigned b base 0
  | .freezeOnFirstAttack (.num (.int turns)) => some (Effect.firstAttack turns)
  | .swapRandomHands (.num (.int (.ofNat amount))) => some (Effect.swapHands amount)
  | .uiModeMessage (.str message) => some fun _ => Effect.uiMessage message
  | _ => none

/-- The checked effect of what was built, if it has one. -/
def Executor.effect? : Executor → Option (Binding → LaneDuel.Run ρ → LaneDuel.Run ρ)
  | .checked a => some fun b r => a.perform b r
  | .unchecked u => u.effect? ρ

end Effects

section CarryingOut

variable [RandomSource ρ] {r : LaneDuel.Run ρ}

/-- No source refuses an amount that is not below zero. -/
theorem Raw.limit_nat (amount n : Nat) : Raw.limit ρ (.nat amount) n = .ok (min amount n) := by
  have least : min (amount : Int) n = (min amount n : Nat) := by omega
  have allowed : atMost (.int 0) (.int (min amount n : Nat)) = .ok true := by
    rw [atMost_int, decide_eq_true (Int.natCast_nonneg _)]
  rw [Raw.limit, Json.nat, Json.nat, smaller_int, least, Except.ok_bind, allowed, Except.ok_bind,
    Bool.not_true, Bool.and_false]
  rfl

namespace Act.Does

variable (tracing : Bool) (b : Binding)

/-- An empty pile is told of before the amount is looked at. -/
theorem drawFromDiscard (amount : Int) :
    Does (Act.performRaw (.ofBinding tracing b) (.drawFromDiscard (.int amount))) r ()
      (Effect.drawDiscarded amount.toNat b r) := by
  have laid : (Run.ofChecked r).table.discardPile = r.table.discardPile := rfl
  refine get.bind ?_
  rw [laid]
  cases empty : r.table.discardPile.isEmpty with
  | true =>
      have told : Effect.drawDiscarded amount.toNat b r = r.notice .discardEmpty := if_pos empty
      rw [told]
      exact notice tracing b _
  | false => exact (ofExcept rfl).bind (drawDiscarded tracing b amount.toNat)

theorem drawRaw (base : Int) :
    Does (Act.performRaw (.ofBinding tracing b) (.drawCards (.int base) .null)) r ()
      (Effect.drawSigned b base 0 r) := by
  have whole : integer (.int (base + 0)) = .ok base := congrArg Except.ok (Int.add_zero base)
  exact (ofExcept (add_int base 0)).bind ((ofExcept whole).bind (drawSigned tracing b base 0))

theorem performRaw {u : Raw} {f : Binding → LaneDuel.Run ρ → LaneDuel.Run ρ}
    (sound : u.effect? ρ = some f) :
    Does (Act.performRaw (.ofBinding tracing b) u) r () (f b r) := by
  unfold Raw.effect? at sound
  split at sound <;> cases sound
  · exact perform tracing b _
  · exact get.bind (pay tracing b _)
  · exact cascade tracing b _
  · exact drawFromDiscard tracing b _
  · exact drawRaw tracing b _
  · exact firstAttack tracing b _
  · exact swapHands tracing b _ _ (Raw.limit_nat _)
  · exact notice tracing b _

theorem carryOut {x : Executor} {f : Binding → LaneDuel.Run ρ → LaneDuel.Run ρ}
    (sound : x.effect? ρ = some f) :
    Does (x.perform (.ofBinding tracing b)) r () (f b r) := by
  cases x with
  | checked a =>
      cases sound
      exact perform tracing b a
  | unchecked u => exact performRaw tracing b sound

end Act.Does

theorem Executor.effect?_log {x : Executor} {f : Binding → LaneDuel.Run ρ → LaneDuel.Run ρ}
    (sound : x.effect? ρ = some f) (b : Binding) (r : LaneDuel.Run ρ) :
    r.log <+: (f b r).log := by
  cases x with
  | checked a =>
      cases sound
      exact a.perform_log b r
  | unchecked u =>
      unfold effect? Raw.effect? at sound
      simp only at sound
      split at sound <;> cases sound
      · exact Atom.perform_log b r _
      · exact (r.modifyPlayer _ _).log_prefix_tell _
      · exact Effect.cascade_log b r _
      · exact Effect.drawDiscarded_log b r _
      · exact ((r.modifyTable _).modifyPlayer _ _).log_prefix_tell _
      · exact Effect.firstAttack_log b r _
      · exact Effect.swapHands_log b r _
      · exact r.log_prefix_tell _

end CarryingOut

end LaneDuel.Loose
