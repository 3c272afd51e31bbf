/-
# LaneDuel.Loose.Library -- which names mean which effects

A loose library gives names to the kinds of atoms.  The standard one gives every
kind its own word; further names can be added and any name taken away.

* `Library.build` finds what a call means: `unknown` when its name means nothing,
  `misfit` when the kind behind the name takes other parameters.
* `Library.check?` is the library of kinds that it is, if every kind has its own
  word and no other name.
-/
import LaneDuel.Effect.Library
import LaneDuel.Loose.Raw

namespace LaneDuel.Loose

set_option autoImplicit false

/-- Names with their kinds.  A name without a kind is taken but means nothing. -/
structure Library where
  names : List (String × Option AtomKind)

/-- Why a call cannot be carried out. -/
inductive BuildFault where
  | unknown
  | misfit
deriving DecidableEq, Repr

/-- A call that can be carried out. -/
inductive Executor where
  | checked (a : Atom)
  | unchecked (u : Raw)

namespace Meaning

open AtomKind

/-- The effect of a kind told by the parameters of an atom that may be of another
kind.  Kinds with the same parameters can stand for each other; where a filter
is of another model, the effect breaks when it looks into it. -/
def retell (k : AtomKind) (a : Atom) : Option Executor :=
  match k, a with
  | modifyAtk, .modifyHp n f c => some (.checked (.modifyAtk n f c))
  | modifyHp, .modifyAtk n f c => some (.checked (.modifyHp n f c))
  | conditionalModifyAtk, .conditionalModifyHp n m c f =>
    some (.checked (.conditionalModifyAtk n m c f))
  | conditionalModifyHp, .conditionalModifyAtk n m c f =>
    some (.checked (.conditionalModifyHp n m c f))
  | playerHeal, .playerDamage n f => some (.checked (.playerHeal n f))
  | playerDamage, .playerHeal n f => some (.checked (.playerDamage n f))
  | modifyAtk, .playerHeal .. | modifyAtk, .playerDamage ..
  | modifyHp, .playerHeal .. | modifyHp, .playerDamage .. => some (.unchecked .broken)
  | killCard, .removeDebuffs f | killCard, .addImmunity f => some (.checked (.killCard f))
  | removeDebuffs, .killCard f | removeDebuffs, .addImmunity f =>
    some (.checked (.removeDebuffs f))
  | addImmunity, .killCard f | addImmunity, .removeDebuffs f => some (.checked (.addImmunity f))
  | clearField, .killCard .. | clearField, .removeDebuffs .. | clearField, .addImmunity ..
  | killCard, .clearField .. | removeDebuffs, .clearField .. | addImmunity, .clearField .. =>
    some (.unchecked .broken)
  | drawFromDiscard, .swapRandomHands n => some (.checked (.drawFromDiscard n))
  | swapRandomHands, .drawFromDiscard n => some (.checked (.swapRandomHands n))
  | gainCoins, .drawFromDiscard n | gainCoins, .swapRandomHands n =>
    some (.checked (.gainCoins n none))
  | clearField, .discardAndRedraw | clearField, .hellLordBonus | clearField, .swapBattlefields
  | clearField, .skipTurn => some (.checked (.clearField none))
  | discardAndRedraw, .hellLordBonus | discardAndRedraw, .swapBattlefields
  | discardAndRedraw, .skipTurn => some (.checked .discardAndRedraw)
  | hellLordBonus, .discardAndRedraw | hellLordBonus, .swapBattlefields
  | hellLordBonus, .skipTurn => some (.checked .hellLordBonus)
  | swapBattlefields, .discardAndRedraw | swapBattlefields, .hellLordBonus
  | swapBattlefields, .skipTurn => some (.checked .swapBattlefields)
  | skipTurn, .discardAndRedraw | skipTurn, .hellLordBonus
  | skipTurn, .swapBattlefields => some (.checked .skipTurn)
  | k, a => if a.kind = k then some (.checked a) else none

/-- The effect of a kind for a call. -/
def build (k : AtomKind) : Call → Option Executor
  | .known a => retell k a
  | .unknown _ ms => (Raw.ofMembers? k ms).map .unchecked

end Meaning

namespace Library

/-- Every kind of a checked library under its own word. -/
def ofChecked (l : LaneDuel.Library) : Library := ⟨l.kinds.map fun k => (k.word, some k)⟩

def standard : Library := ofChecked .standard

def has (l : Library) (name : String) : Bool := (l.names.lookup name).isSome

/-- The kind that a name means, if it means one. -/
def kind? (l : Library) (name : String) : Option AtomKind := (l.names.lookup name).join

/-- Give a name a meaning, or another one. -/
def register (l : Library) (name : String) (k : Option AtomKind) : Library :=
  ⟨l.names.filter (·.1 != name) ++ [(name, k)]⟩

def unregister (l : Library) (name : String) : Library := ⟨l.names.filter (·.1 != name)⟩

/-- Let a new name mean what an old one means. -/
def addAlias (l : Library) (new old : String) : Library := l.register new (l.kind? old)

/-- The names in alphabetical order. -/
def sortedNames (l : Library) : List String :=
  (l.names.map (·.1)).mergeSort (fun a b => a < b || a == b)

def build (l : Library) (c : Call) : Except BuildFault Executor :=
  match l.kind? c.name with
  | none => .error .unknown
  | some k =>
    match Meaning.build k c with
    | none => .error .misfit
    | some e => .ok e

/-- The kinds of a library in which every name is the word of its kind. -/
def check? (l : Library) : Option LaneDuel.Library := do
  let kinds ← l.names.mapM fun (name, k) => do
    let k ← k
    if k.word == name then some k else none
  return ⟨kinds⟩

end Library

/-- Carry out what was built. -/
def Executor.perform {ρ : Type} [RandomSource ρ] (b : Scene) : Executor → Act ρ Unit
  | checked a => Act.perform b a
  | unchecked u => Act.performRaw b u

end LaneDuel.Loose
