/-
# LaneDuel.Effect.Stats -- changing attack and hit points

* `modifyAtk`, `modifyHp` add an amount to the cards of a filter that meet a
  condition; the conditional forms add a base amount and a bonus where a
  condition holds.  Adding hit points lifts the upper limit when they pass it,
  and never lowers it.
* `hellLord` strengthens the acting side's monsters and weakens the opponent's
  monsters that are not legendary.
* `cascade` hits the opponent's cards from the healthiest down, one point less
  each time.
-/
import LaneDuel.Effect.Target

namespace LaneDuel

set_option autoImplicit false

namespace Card

def addAtk (c : Card) (amount : Int) : Card := { c with atk := c.atk + amount }

/-- Add hit points; the upper limit follows them up, not down. -/
def addHp (c : Card) (amount : Int) : Card :=
  { c with hp := c.hp + amount, maxHp := max c.maxHp (c.hp + amount) }

/-- All three stats rise by the same amount. -/
def strengthen (c : Card) (amount : Int) : Card :=
  { c with atk := c.atk + amount, hp := c.hp + amount, maxHp := c.maxHp + amount }

/-- All three stats fall by the same amount, attack to zero at the least. -/
def weaken (c : Card) (amount : Int) : Card :=
  { c with atk := max 0 (c.atk - amount), hp := c.hp - amount, maxHp := c.maxHp - amount }

def loseHp (c : Card) (amount : Int) : Card := { c with hp := c.hp - amount }

end Card

namespace Effect

/-! ## Amounts -/

def changeAtk (amount : Int) (condition : Option Condition) (c : Card) : Card × List Event :=
  if admits condition c then
    (c.addAtk amount, [.notice (.atkChanged c.name amount (c.addAtk amount).atk)])
  else (c, [.trace (.conditionSkip c.name)])

def changeHp (amount : Int) (condition : Option Condition) (c : Card) : Card × List Event :=
  if admits condition c then
    let d := c.addHp amount
    (d, [.notice (.hpChanged c.name amount d.hp d.maxHp)])
  else (c, [])

/-- The bonus that a card earns under a condition. -/
def bonusFor (bonus : Int) (condition : Condition) (c : Card) : Int :=
  if condition.admits c then bonus else 0

def changeAtkWithBonus (base bonus : Int) (condition : Condition) (c : Card) :
    Card × List Event :=
  let extra := bonusFor bonus condition c
  let d := c.addAtk (base + extra)
  if base + extra = 0 then (c, [])
  else if extra = 0 then (d, [.notice (.atkChanged c.name (base + extra) d.atk)])
  else (d, [.notice (.atkChangedBonus c.name (base + extra) base extra d.atk)])

def changeHpWithBonus (base bonus : Int) (condition : Condition) (c : Card) :
    Card × List Event :=
  let extra := bonusFor bonus condition c
  let d := c.addHp (base + extra)
  if base + extra = 0 then (c, [])
  else if extra = 0 then (d, [.notice (.hpChanged c.name (base + extra) d.hp d.maxHp)])
  else (d, [.notice (.hpChangedBonus c.name (base + extra) base extra d.hp d.maxHp)])

variable {ρ : Type}

def modifyAtk (amount : Int) (f : TargetFilter) (condition : Option Condition) (b : Binding)
    (r : Run ρ) : Run ρ :=
  r.reach b f (changeAtk amount condition)

def modifyHp (amount : Int) (f : TargetFilter) (condition : Option Condition) (b : Binding)
    (r : Run ρ) : Run ρ :=
  r.reach b f (changeHp amount condition)

def conditionalModifyAtk (base bonus : Int) (condition : Condition) (f : TargetFilter)
    (b : Binding) (r : Run ρ) : Run ρ :=
  r.reach b f (changeAtkWithBonus base bonus condition)

def conditionalModifyHp (base bonus : Int) (condition : Condition) (f : TargetFilter)
    (b : Binding) (r : Run ρ) : Run ρ :=
  r.reach b f (changeHpWithBonus base bonus condition)

/-! ## The hell lord -/

def demonRace : String := "恶魔"

def monsterRace : String := "怪物"

def legendary : String := "legendary"

/-- The bonus for the acting side's monsters: more when a demon is among its cards. -/
def hellLordBuff (own : List Card) : Int :=
  if own.any (·.hasRace [demonRace]) then 4 else 3

def hellLordLoss : Int := 3

def buffMonster (amount : Int) (c : Card) : Card × List Event :=
  if c.hasRace [monsterRace] then
    let d := c.strengthen amount
    (d, [.notice (.hellLordBuff c.name amount d.atk d.hp)])
  else (c, [])

def debuffMonster (c : Card) : Card × List Event :=
  if c.hasRace [monsterRace] && c.rarity != legendary then
    let d := c.weaken hellLordLoss
    (d, [.notice (.hellLordDebuff c.name hellLordLoss d.atk d.hp)])
  else (c, [])

def hellLord (b : Binding) (r : Run ρ) : Run ρ :=
  let own := r.field b.player
  let r := r.visit own (buffMonster (hellLordBuff (own.map r.cards)))
  r.visit (r.field b.opponent) debuffMonster

/-! ## Cascades -/

/-- A hit, and a defeat when no hit points are left. -/
def hit (damage : Int) (c : Card) : Card × List Event :=
  let d := c.loseHp damage
  (d, .notice (.cascadeHit c.name damage d.hp)
    :: if d.hp ≤ 0 then [.notice (.cardDefeated c.name)] else [])

/-- Cards by hit points from the highest down; equal ones stay in lane order. -/
def byHealth (cards : Origin → Card) (os : List Origin) : List Origin :=
  os.mergeSort fun a b => (cards b).hp ≤ (cards a).hp

/-- The damage at a rank, counted from zero; at least one point. -/
def cascadeAt (base : Int) (rank : Nat) : Int := max 1 (base - rank)

def cascade (base : Int) (b : Binding) (r : Run ρ) : Run ρ :=
  (byHealth r.cards (r.field b.opponent)).zipIdx.foldl
    (fun r (o, rank) => r.edit (hit (cascadeAt base rank)) o) r

end Effect

end LaneDuel
