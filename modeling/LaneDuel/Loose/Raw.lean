/-
# LaneDuel.Loose.Raw -- effects told by unchecked members

A call by a name that is no kind of atom may still be carried out when its name
has been given to a kind.  Its members were never checked: they must have the
parameters' own names, and an effect may find out only while it runs that a
value is not what it needs.  What it did before stays done.

* `Raw.ofMembers?` is the effect of a kind with raw members, unless their names do
  not fit the kind's parameters.
* `Act.performRaw` carries it out.
-/
import LaneDuel.Loose.Perform

namespace LaneDuel.Loose

set_option autoImplicit false

/-- An effect with raw values.  `broken` needs a field of a value that has none
before it can do anything. -/
inductive Raw where
  | plain (a : Atom)
  | broken
  | gainCoins (amount condition : Json)
  | cascadeDamage (base : Json)
  | drawFromDiscard (amount : Json)
  | drawCards (base condition : Json)
  | freezeOnFirstAttack (turns : Json)
  | swapRandomHands (amount : Json)
  | uiModeMessage (message : Json)

namespace Raw

/-! ## Matching members with parameters -/

/-- Whether some members are named after parameters: every required one is
there, and every member is required or optional. -/
def fits (required optional : List String) (ms : List (String × Json)) : Bool :=
  required.all (fun p => (Json.find? ms p).isSome)
    && ms.all fun (k, _) => required.contains k || optional.contains k

/-- The required and the optional parameters of a kind. -/
def parameterNames : AtomKind → List String × List String
  | .modifyAtk | .modifyHp => (["amount", "filter"], ["condition"])
  | .conditionalModifyAtk | .conditionalModifyHp =>
    (["base_amount", "bonus_amount", "condition", "filter"], [])
  | .playerHeal | .playerDamage => (["amount", "filter"], [])
  | .killCard | .removeDebuffs | .addImmunity => (["filter"], [])
  | .clearField => ([], ["filter"])
  | .freeze => (["turns", "filter"], [])
  | .gainCoins => (["amount"], ["condition"])
  | .conditionalKillPlayer => (["condition"], [])
  | .cascadeDamage => (["base_damage"], [])
  | .drawFromDiscard | .swapRandomHands => (["amount"], [])
  | .drawCards => (["base_amount"], ["bonus_amount", "condition"])
  | .freezeOnFirstAttack => (["turns"], [])
  | .uiModeMessage => (["message"], [])
  | .discardAndRedraw | .hellLordBonus | .swapBattlefields | .skipTurn => ([], [])

/-- The effect of a kind with members that fit it.  Filters, and the conditions
that are always consulted, would have to be checked models. -/
def ofFitting (k : AtomKind) (ms : List (String × Json)) : Raw :=
  let get := fun p => (Json.find? ms p).getD .null
  match k with
  | .clearField => if (get "filter").isNull then plain (.clearField none) else broken
  | .gainCoins => gainCoins (get "amount") (get "condition")
  | .cascadeDamage => cascadeDamage (get "base_damage")
  | .drawFromDiscard => drawFromDiscard (get "amount")
  | .drawCards => drawCards (get "base_amount") (get "condition")
  | .freezeOnFirstAttack => freezeOnFirstAttack (get "turns")
  | .swapRandomHands => swapRandomHands (get "amount")
  | .uiModeMessage => uiModeMessage (get "message")
  | .discardAndRedraw => plain .discardAndRedraw
  | .hellLordBonus => plain .hellLordBonus
  | .swapBattlefields => plain .swapBattlefields
  | .skipTurn => plain .skipTurn
  | .modifyAtk | .modifyHp | .conditionalModifyAtk | .conditionalModifyHp | .playerHeal
  | .playerDamage | .killCard | .freeze | .removeDebuffs | .conditionalKillPlayer
  | .addImmunity => broken

/-- The effect of a kind with raw members, if their names fit. -/
def ofMembers? (k : AtomKind) (ms : List (String × Json)) : Option Raw :=
  let (required, optional) := parameterNames k
  if fits required optional ms then some (ofFitting k ms) else none

/-- How many of `n` cards an amount asks a source for.  Fewer than none are for the
source to refuse. -/
def limit (ρ : Type) [RandomSource ρ] (amount : Json) (n : Nat) : Except Failure Nat := do
  let wanted ← smaller amount (.nat n)
  if RandomSource.refusesNegative ρ && !(← atMost (.int 0) wanted) then .error .negativeChoice
  else return (← integer wanted).toNat

end Raw

/-! ## Carrying out -/

/-- Carry out an effect with raw values. -/
def Act.performRaw {ρ : Type} [RandomSource ρ] (b : Scene) : Raw → Act ρ Unit
  | .plain a => perform b a
  | .broken => throw .noFields
  | .gainCoins amount condition => do
    if !condition.isNull && !((← get).table.fieldCards Side.both).isEmpty then throw .noFields
    pay amount b
  | .cascadeDamage base => cascade base b
  | .drawFromDiscard amount => do
    if (← get).table.discardPile.isEmpty then notice b .discardEmpty
    else drawDiscarded (← ofExcept (integer amount)).toNat b
  | .drawCards base condition => do
    if !condition.isNull then throw .noFields
    let total ← ofExcept (add base (.int 0))
    drawWanted (← ofExcept (integer total)) 0 b
  | .freezeOnFirstAttack turns => firstAttack turns b
  | .swapRandomHands amount => swapHands (Raw.limit ρ amount) b
  | .uiModeMessage message =>
    if message.writable then notice b (.uiMessage message.plain) else throw .tooLongToWrite

end LaneDuel.Loose
