/-
# LaneDuel.Effect.Players -- health and coins

Health is not cut off at zero here: a heal later in the same chain counts in
full, and the engine settles both players at the end.
-/
import LaneDuel.Effect.Target

namespace LaneDuel

set_option autoImplicit false

/-- The side of a party. -/
def Party.side (acting : Side) : Party → Side
  | .own => acting
  | .opponent => acting.opponent

namespace Effect

variable {ρ : Type}

def addHealth (amount : Int) (p : Player Int Origin) : Player Int Origin :=
  { p with health := p.health + amount }

def addCoins (amount : Int) (p : Player Int Origin) : Player Int Origin :=
  { p with coins := p.coins + amount }

def heal (amount : Int) (f : PlayerFilter) (b : Binding) (r : Run ρ) : Run ρ :=
  let side := f.player.side b.player
  let r := r.modifyPlayer side (addHealth amount)
  r.notice (.playerHeal side amount (r.player side).health)

def damage (amount : Int) (f : PlayerFilter) (b : Binding) (r : Run ρ) : Run ρ :=
  let side := f.player.side b.player
  let r := r.modifyPlayer side (addHealth (-amount))
  r.notice (.playerDamage side amount (r.player side).health)

/-- The acting player gets coins. -/
def pay (amount : Int) (b : Binding) (r : Run ρ) : Run ρ :=
  let r := r.modifyPlayer b.player (addCoins amount)
  r.notice (.coinsGained b.player amount (r.player b.player).coins)

/-- The amount, or the bonus when a card on either field meets the condition. -/
def coinsDue (amount : Nat) (condition : Option CoinCondition) (cards : List Card) : Nat :=
  match condition with
  | some c => if cards.any c.toCondition.admits then c.bonus else amount
  | none => amount

def gainCoins (amount : Nat) (condition : Option CoinCondition) (b : Binding) (r : Run ρ) :
    Run ρ :=
  pay (coinsDue amount condition ((r.table.fieldCards Side.both).map r.cards)) b r

/-- The opponent falls at once when their health is at the threshold or below. -/
def execute (c : KillCondition) (b : Binding) (r : Run ρ) : Run ρ :=
  let health := (r.player b.opponent).health
  if health ≤ c.threshold then
    ((r.modifyPlayer b.opponent fun p => { p with health := 0 }).modifyTable
      fun t => { t with signals.immediateVictory := some b.player }).notice
        (.executeSuccess c.threshold)
  else r.notice (.executeFail health c.threshold)

end Effect

end LaneDuel
