/-
# LaneDuel.Loose.Perform -- effects on a loose board

The same effects as on checked states, in the order in which they touch the board,
so that a value that will not do stops them there.

* `Act.targets` lists the cards of a filter.
* `Act.perform` carries out a checked atom.
-/
import LaneDuel.Effect.Perform
import LaneDuel.Loose.Run

namespace LaneDuel.Loose

set_option autoImplicit false

/-- A card meets a condition when it has one of the races, one of the rarities
and the kind that are asked for. -/
def meets (c : Condition) (card : Card) : Except Failure Bool := do
  if let some races := asked c.race then
    if !(← card.hasAnyRace races) then return false
  if let some rarities := asked c.rarity then
    if !rarities.any card.isRarity then return false
  if let some kind := c.kind then
    if !card.kind.isKind kind then return false
  return true

/-- Without a condition every card is admitted. -/
def admits (c : Option Condition) (card : Card) : Except Failure Bool :=
  match c with
  | some c => meets c card
  | none => .ok true

namespace Act

variable {ρ : Type}

/-! ## Targets -/

def scopeCandidates (b : Scene) (f : TargetFilter) : Act ρ (List Origin) := do
  let r ← get
  match f.player with
  | some scope =>
    return (scope.sides b.player).flatMap fun s =>
      ((r.table.player s).zone f.location.zone).filterMap id
  | none => return []

/-- The cards that a filter reaches. -/
def targets (b : Scene) (f : TargetFilter) : Act ρ (List Origin) := do
  match f.target with
  | some .own =>
    let card ← look (← actor b)
    match ← locate card.instanceId with
    | some slot => return ((← get).table.cardAt slot).toList
    | none =>
      notice b (.selfNotFound card.name.plain)
      return []
  | some .selected => return b.target.toList
  | none =>
    let found ← scopeCandidates b f
    trace b (.candidates f.player (f.location == .hand) found.length)
    let found ← match asked f.race with
      | some races => keep found (·.hasAnyRace races)
      | none => pure found
    let found ← match asked f.rarity with
      | some rarities => keep found fun c => .ok (rarities.any c.isRarity)
      | none => pure found
    let found ← match f.kind with
      | some kind => keep found fun c => .ok (c.kind.isKind kind)
      | none => pure found
    let names ← found.mapM fun o => return (← look o).name.literal
    trace b (.chosen names)
    return found

/-! ## Stats -/

/-- Add to the attack of a card. -/
def addAtk (o : Origin) (amount : Int) : Act ρ Card := do
  let c ← look o
  let c := { c with atk := ← ofExcept (add c.atk (.int amount)) }
  put o c
  return c

/-- Add hit points; the upper limit follows them up, not down. -/
def addHp (o : Origin) (amount : Int) : Act ρ Card := do
  let c ← look o
  let c := { c with hp := ← ofExcept (add c.hp (.int amount)) }
  put o c
  let c := { c with maxHp := ← ofExcept (larger c.maxHp c.hp) }
  put o c
  return c

def modifyAtk (amount : Int) (f : TargetFilter) (condition : Option Condition) (b : Scene) :
    Act ρ Unit := do
  for o in ← targets b f do
    let c ← look o
    if ← ofExcept (admits condition c) then
      let c ← addAtk o amount
      notice b (.atkChanged c.name.plain amount (.ofJson c.atk))
    else trace b (.conditionSkip c.name.plain)

def modifyHp (amount : Int) (f : TargetFilter) (condition : Option Condition) (b : Scene) :
    Act ρ Unit := do
  for o in ← targets b f do
    if ← ofExcept (admits condition (← look o)) then
      let c ← addHp o amount
      notice b (.hpChanged c.name.plain amount (.ofJson c.hp) (.ofJson c.maxHp))

def conditionalModifyAtk (base bonus : Int) (condition : Condition) (f : TargetFilter)
    (b : Scene) : Act ρ Unit := do
  for o in ← targets b f do
    let extra := if ← ofExcept (meets condition (← look o)) then bonus else 0
    if base + extra ≠ 0 then
      let c ← addAtk o (base + extra)
      notice b (if extra = 0 then .atkChanged c.name.plain (base + extra) (.ofJson c.atk)
        else .atkChangedBonus c.name.plain (base + extra) base extra (.ofJson c.atk))

def conditionalModifyHp (base bonus : Int) (condition : Condition) (f : TargetFilter)
    (b : Scene) : Act ρ Unit := do
  for o in ← targets b f do
    let extra := if ← ofExcept (meets condition (← look o)) then bonus else 0
    if base + extra ≠ 0 then
      let c ← addHp o (base + extra)
      notice b (if extra = 0 then
          .hpChanged c.name.plain (base + extra) (.ofJson c.hp) (.ofJson c.maxHp)
        else .hpChangedBonus c.name.plain (base + extra) base extra (.ofJson c.hp)
          (.ofJson c.maxHp))

/-- Add to hit points and their upper limit alike. -/
def addBoth (o : Origin) (amount : Int) : Act ρ Card := do
  let c ← look o
  let c := { c with hp := ← ofExcept (add c.hp (.int amount)) }
  put o c
  let c := { c with maxHp := ← ofExcept (add c.maxHp (.int amount)) }
  put o c
  return c

def hellLord (b : Scene) : Act ρ Unit := do
  let own ← field b.player
  let buff := if ← anyCard own (·.hasAnyRace [Effect.demonRace]) then 4 else 3
  for o in own do
    if ← ofExcept ((← look o).hasAnyRace [Effect.monsterRace]) then
      let _ ← addAtk o buff
      let c ← addBoth o buff
      notice b (.hellLordBuff c.name.plain buff (.ofJson c.atk) (.ofJson c.hp))
  for o in ← field b.opponent do
    let c ← look o
    if (← ofExcept (c.hasAnyRace [Effect.monsterRace])) && !c.isRarity Effect.legendary then
      let weakened ← ofExcept do
        larger (.int 0) (← sub c.atk (.int Effect.hellLordLoss))
      put o { c with atk := weakened }
      let c ← addBoth o (-Effect.hellLordLoss)
      notice b (.hellLordDebuff c.name.plain Effect.hellLordLoss (.ofJson c.atk) (.ofJson c.hp))

/-- Cards by hit points from the highest down; equal ones stay in lane order. -/
def byHealth (os : List Origin) : Act ρ (List Origin) := do
  let keyed ← os.mapM fun o => do return (← ofExcept (number (← look o).hp), o)
  return (keyed.mergeSort fun a b => !a.1.less b.1).map (·.2)

/-- One point less each time, but at least one. -/
def cascade (base : Json) (b : Scene) : Act ρ Unit := do
  for (o, rank) in (← byHealth (← field b.opponent)).zipIdx do
    let damage ← ofExcept do larger (.int 1) (← sub base (.nat rank))
    let c ← look o
    let c := { c with hp := ← ofExcept (sub c.hp damage) }
    put o c
    notice b (.cascadeHit c.name.plain (.ofJson damage) (.ofJson c.hp))
    if ← ofExcept (atMost c.hp (.int 0)) then notice b (.cardDefeated c.name.plain)

/-! ## Players -/

def heal (amount : Int) (f : PlayerFilter) (b : Scene) : Act ρ Unit := do
  let side := f.player.side b.player
  let health ← ofExcept (add (← player side).health (.int amount))
  modifyPlayer side fun p => { p with health }
  notice b (.playerHeal side amount (.ofJson health))

def damage (amount : Int) (f : PlayerFilter) (b : Scene) : Act ρ Unit := do
  let side := f.player.side b.player
  let health ← ofExcept (sub (← player side).health (.int amount))
  modifyPlayer side fun p => { p with health }
  notice b (.playerDamage side amount (.ofJson health))

/-- The acting player gets coins. -/
def pay (amount : Json) (b : Scene) : Act ρ Unit := do
  let coins ← ofExcept (increase (← player b.player).coins amount)
  modifyPlayer b.player fun p => { p with coins }
  notice b (.coinsGained b.player (.ofJson amount) (.ofJson coins))

def gainCoins (amount : Nat) (condition : Option CoinCondition) (b : Scene) : Act ρ Unit := do
  let due ← match condition with
    | some c =>
      let cards := (← get).table.fieldCards Side.both
      if ← anyCard cards (meets c.toCondition) then pure c.bonus else pure amount
    | none => pure amount
  pay (.nat due) b

def execute (c : KillCondition) (b : Scene) : Act ρ Unit := do
  let health := (← player b.opponent).health
  if ← ofExcept (atMost health (.int c.threshold)) then
    modifyPlayer b.opponent fun p => { p with health := .int 0 }
    modifyTable fun t => { t with signals.immediateVictory := some b.player }
    notice b (.executeSuccess c.threshold)
  else notice b (.executeFail (.ofJson health) c.threshold)

/-! ## Removal -/

def kill (f : TargetFilter) (b : Scene) : Act ρ Unit := do
  for o in ← targets b f do
    let c ← look o
    match ← locate c.instanceId with
    | none => trace b (.notOnBattlefield c.name.plain)
    | some slot =>
      if let some found := (← get).table.cardAt slot then
        modifyTable fun t => (t.clearLane slot.side slot.index).discard [found]
        notice b (.cardKilled (← look found).name.plain)

/-- Whether a card stays when the field is cleared. -/
def spared (except : Option (List String)) (c : Card) : Except Failure Bool :=
  match asked except with
  | some races => c.hasAnyRace races
  | none => .ok false

def clearField (f : Option ClearFieldFilter) (b : Scene) : Act ρ Unit := do
  let scope := match f with
    | some f => f.player
    | none => .both
  let except := f.bind (·.exceptRace)
  for side in scope.sides b.player do
    for (lane, index) in (← player side).battlefield.zipIdx do
      if let some o := lane then
        let c ← look o
        if !(← ofExcept (spared except c)) then
          modifyTable fun t => (t.clearLane side index).discard [o]
          notice b (.cardCleared c.name.plain)

/-! ## Status -/

def freeze (turns : Nat) (f : TargetFilter) (b : Scene) : Act ρ Unit := do
  for o in ← targets b f do
    let c ← look o
    put o { c with frozen := .nat turns }
    notice b (.cardFrozen c.name.plain turns)

def removeDebuffs (f : TargetFilter) (b : Scene) : Act ρ Unit := do
  for o in ← targets b f do
    let c ← look o
    if ← ofExcept c.isFrozen then
      put o { c with frozen := .int 0 }
      notice b (.cardUnfrozen c.name.plain)

def addImmunity (f : TargetFilter) (b : Scene) : Act ρ Unit := do
  for o in ← targets b f do
    let c ← look o
    put o { c with immune := .bool true }
    notice b (.cardImmune c.name.plain)

/-- The acting card's first attack. -/
def firstAttack (turns : Json) (b : Scene) : Act ρ Unit := do
  let own ← actor b
  let c ← look own
  if c.firstActionUsed.truthy then trace b (.alreadyUsed c.name.plain)
  else
    put own { c with firstActionUsed := .bool true }
    match b.target with
    | none => notice b (.firstAttack c.name.plain)
    | some o =>
      let target ← look o
      put o { target with frozen := turns }
      notice b (.firstAttackFreeze c.name.plain target.name.plain (.ofJson turns))

/-! ## Decks and hands -/

def drawDiscarded (amount : Nat) (b : Scene) : Act ρ Unit := do
  if (← get).table.discardPile.isEmpty then notice b .discardEmpty
  else
    for _ in List.range (min amount (← get).table.discardPile.length) do
      if let some o := (← get).table.discardPile.getLast? then
        modifyTable fun t => { t with discardPile := t.discardPile.dropLast }
        modifyPlayer b.player (Effect.addToHand [o])
        notice b (.drawFromDiscard b.player (← look o).name.plain)

variable [RandomSource ρ]

/-- Shuffle the hand back and draw as many cards of each sort again. -/
def redraw (b : Scene) : Act ρ Unit := do
  let hand := (← player b.player).hand
  if hand.isEmpty then trace b .emptyHand
  else
    let miracles ← keep hand fun c => .ok c.isMiracle
    let normals ← keep hand fun c => .ok !c.isMiracle
    modifyPlayer b.player fun p => { p with hand := [] }
    let deck ← draw (Effect.shuffleInto (← get).table.deck normals)
    let miracleDeck ← draw (Effect.shuffleInto (← get).table.miracleDeck miracles)
    modifyTable fun t => { t with deck, miracleDeck }
    notice b (.handShuffledBack b.player (normals.length + miracles.length))
    let drawn := deck.take normals.length
    let drawnMiracles := miracleDeck.take miracles.length
    modifyTable fun t => { t with
      deck := deck.drop normals.length
      miracleDeck := miracleDeck.drop miracles.length }
    modifyPlayer b.player (Effect.addToHand (drawn ++ drawnMiracles))
    notice b (.redraw b.player drawn.length drawnMiracles.length)

/-- How many cards a wish takes from a deck: a negative wish leaves so many. -/
def available (length : Nat) (wanted : Int) : Nat :=
  if 0 ≤ wanted then wanted.toNat else length - wanted.natAbs

/-- Draw the base amount, which is shown as it was given, and the bonus. -/
def drawWanted (base : Int) (bonus : Nat) (b : Scene) : Act ρ Unit := do
  let wanted := base + bonus
  let deck := (← get).table.deck
  let count := available deck.length wanted
  let drawn := deck.take count
  modifyTable fun t => { t with deck := deck.drop count }
  modifyPlayer b.player (Effect.addToHand drawn)
  notice b (if bonus = 0 then .cardsDrawn b.player drawn.length
    else .cardsDrawnBonus b.player drawn.length base bonus)
  if (drawn.length : Int) < wanted then notice b (.deckShort wanted drawn.length)

def drawCards (base bonus : Nat) (condition : Option FieldRaceCondition) (b : Scene) :
    Act ρ Unit := do
  let earned ← match condition with
    | some c =>
      anyCard ((← get).table.fieldCards (c.player.sides b.player)) (·.hasAnyRace c.races)
    | none => pure false
  drawWanted base (if earned then bonus else 0) b

/-- The instance ids of some cards, as a set. -/
def idSet (os : List Origin) : Act ρ (List Json) := do
  let ids ← os.mapM fun o => return (← look o).instanceId
  if ids.all isKey then return ids else throw .wrongType

/-- A hand without the cards whose instance ids are in a set. -/
def without (ids : List Json) (hand : List Origin) : Act ρ (List Origin) :=
  keep hand fun c => (isAmong ids c.instanceId).map (!·)

/-- The cards of the acting player's hand that may be given away. -/
def eligible (b : Scene) : Act ρ (List Origin) := do
  let hand := (← player b.player).hand
  if hand.isEmpty then return []
  else
    let own := (← look (← actor b)).instanceId
    keep hand fun c => .ok !(same c.instanceId own)

/-- Exchange cards of both hands; `limit` says how many of so many there are. -/
def swapHands (limit : Nat → Except Failure Nat) (b : Scene) : Act ρ Unit := do
  let own ← eligible b
  let others := (← player b.opponent).hand
  let count ← ofExcept (limit own.length)
  let given ← draw (pick own count)
  let count ← ofExcept (limit others.length)
  let taken ← draw (pick others count)
  if given.isEmpty && taken.isEmpty then notice b .handsSwapEmpty
  else
    let givenIds ← idSet given
    let takenIds ← idSet taken
    let left ← without givenIds (← player b.player).hand
    modifyPlayer b.player fun p => { p with hand := left }
    let left ← without takenIds others
    modifyPlayer b.opponent fun p => { p with hand := left }
    modifyPlayer b.player (Effect.addToHand taken)
    modifyPlayer b.opponent (Effect.addToHand given)
    notice b (.handsSwapped given.length taken.length)

/-! ## The board and its signals -/

def swapBattlefields (b : Scene) : Act ρ Unit := do
  let own := (← player b.player).battlefield
  let others := (← player b.opponent).battlefield
  modifyPlayer b.player fun p => { p with battlefield := others }
  modifyPlayer b.opponent fun p => { p with battlefield := own }
  notice b .battlefieldsSwapped

def skipTurn (b : Scene) : Act ρ Unit := do
  modifyTable fun t => { t with signals.skipToNextTurn := .bool true }
  notice b .skipTurn

/-! ## Atoms -/

/-- Carry out a checked atom. -/
def perform (b : Scene) : Atom → Act ρ Unit
  | .modifyAtk amount f c => modifyAtk amount f c b
  | .modifyHp amount f c => modifyHp amount f c b
  | .conditionalModifyAtk base bonus c f => conditionalModifyAtk base bonus c f b
  | .conditionalModifyHp base bonus c f => conditionalModifyHp base bonus c f b
  | .playerHeal amount f => heal amount f b
  | .playerDamage amount f => damage amount f b
  | .killCard f => kill f b
  | .clearField f => clearField f b
  | .freeze turns f => freeze turns f b
  | .removeDebuffs f => removeDebuffs f b
  | .gainCoins amount c => gainCoins amount c b
  | .conditionalKillPlayer c => execute c b
  | .cascadeDamage base => cascade (.nat base) b
  | .drawFromDiscard amount => drawDiscarded amount b
  | .discardAndRedraw => redraw b
  | .drawCards base bonus c => drawCards base bonus c b
  | .hellLordBonus => hellLord b
  | .swapBattlefields => swapBattlefields b
  | .freezeOnFirstAttack turns => firstAttack (.nat turns) b
  | .addImmunity f => addImmunity f b
  | .swapRandomHands amount => swapHands (fun n => .ok (min amount n)) b
  | .skipTurn => skipTurn b
  | .uiModeMessage message => notice b (.uiMessage message)

end Act

end LaneDuel.Loose
