/-
# LaneDuel.Schema.Atom -- the calls that effects are made of

An `Atom` is a checked call: one of twenty-three kinds with the parameters of
that kind.  A `Call` is what an entry lists: an atom, or a call by a name that
is no kind, with its members kept as they were given.

* `AtomKind.record` describes the parameters of a kind.
* `Call.codec` reads and writes calls; the paths of its issues begin with the
  kind's word, or with `unknown`.
* `Call.toJson` writes a call unless what it is told is nested too deeply.
-/
import LaneDuel.Failure
import LaneDuel.Schema.Filter

namespace LaneDuel

set_option autoImplicit false

open Schema

inductive AtomKind where
  | modifyAtk
  | modifyHp
  | conditionalModifyAtk
  | conditionalModifyHp
  | playerHeal
  | playerDamage
  | killCard
  | clearField
  | freeze
  | removeDebuffs
  | gainCoins
  | conditionalKillPlayer
  | cascadeDamage
  | drawFromDiscard
  | discardAndRedraw
  | drawCards
  | hellLordBonus
  | swapBattlefields
  | freezeOnFirstAttack
  | addImmunity
  | swapRandomHands
  | skipTurn
  | uiModeMessage
deriving DecidableEq, Repr

namespace AtomKind

def all : List AtomKind := [
  modifyAtk, modifyHp, conditionalModifyAtk, conditionalModifyHp, playerHeal, playerDamage,
  killCard, clearField, freeze, removeDebuffs, gainCoins, conditionalKillPlayer, cascadeDamage,
  drawFromDiscard, discardAndRedraw, drawCards, hellLordBonus, swapBattlefields,
  freezeOnFirstAttack, addImmunity, swapRandomHands, skipTurn, uiModeMessage]

def word : AtomKind → String
  | modifyAtk => "modifyAtk"
  | modifyHp => "modifyHp"
  | conditionalModifyAtk => "conditionalModifyAtk"
  | conditionalModifyHp => "conditionalModifyHp"
  | playerHeal => "playerHeal"
  | playerDamage => "playerDamage"
  | killCard => "killCard"
  | clearField => "clearField"
  | freeze => "freeze"
  | removeDebuffs => "removeDebuffs"
  | gainCoins => "gainCoins"
  | conditionalKillPlayer => "conditionalKillPlayer"
  | cascadeDamage => "cascadeDamage"
  | drawFromDiscard => "drawFromDiscard"
  | discardAndRedraw => "discardAndRedraw"
  | drawCards => "drawCards"
  | hellLordBonus => "hellLordBonus"
  | swapBattlefields => "swapBattlefields"
  | freezeOnFirstAttack => "freezeOnFirstAttack"
  | addImmunity => "addImmunity"
  | swapRandomHands => "swapRandomHands"
  | skipTurn => "skipTurn"
  | uiModeMessage => "uiModeMessage"

instance : Vocabulary AtomKind := ⟨all, word⟩

/-- The name of the model: the word with a capital. -/
def modelName (k : AtomKind) : String := k.word.capitalize

end AtomKind

/-- A call whose parameters have been checked.  Counts cannot be negative;
amounts of change can. -/
inductive Atom where
  | modifyAtk (amount : Int) (filter : TargetFilter) (condition : Option Condition)
  | modifyHp (amount : Int) (filter : TargetFilter) (condition : Option Condition)
  | conditionalModifyAtk (base bonus : Int) (condition : Condition) (filter : TargetFilter)
  | conditionalModifyHp (base bonus : Int) (condition : Condition) (filter : TargetFilter)
  | playerHeal (amount : Int) (filter : PlayerFilter)
  | playerDamage (amount : Int) (filter : PlayerFilter)
  | killCard (filter : TargetFilter)
  | clearField (filter : Option ClearFieldFilter)
  | freeze (turns : Nat) (filter : TargetFilter)
  | removeDebuffs (filter : TargetFilter)
  | gainCoins (amount : Nat) (condition : Option CoinCondition)
  | conditionalKillPlayer (condition : KillCondition)
  | cascadeDamage (base : Nat)
  | drawFromDiscard (amount : Nat)
  | discardAndRedraw
  | drawCards (base bonus : Nat) (condition : Option FieldRaceCondition)
  | hellLordBonus
  | swapBattlefields
  | freezeOnFirstAttack (turns : Nat)
  | addImmunity (filter : TargetFilter)
  | swapRandomHands (amount : Nat)
  | skipTurn
  | uiModeMessage (message : String)
deriving DecidableEq, Repr

namespace Atom

def kind : Atom → AtomKind
  | modifyAtk .. => .modifyAtk
  | modifyHp .. => .modifyHp
  | conditionalModifyAtk .. => .conditionalModifyAtk
  | conditionalModifyHp .. => .conditionalModifyHp
  | playerHeal .. => .playerHeal
  | playerDamage .. => .playerDamage
  | killCard .. => .killCard
  | clearField .. => .clearField
  | freeze .. => .freeze
  | removeDebuffs .. => .removeDebuffs
  | gainCoins .. => .gainCoins
  | conditionalKillPlayer .. => .conditionalKillPlayer
  | cascadeDamage .. => .cascadeDamage
  | drawFromDiscard .. => .drawFromDiscard
  | discardAndRedraw => .discardAndRedraw
  | drawCards .. => .drawCards
  | hellLordBonus => .hellLordBonus
  | swapBattlefields => .swapBattlefields
  | freezeOnFirstAttack .. => .freezeOnFirstAttack
  | addImmunity .. => .addImmunity
  | swapRandomHands .. => .swapRandomHands
  | skipTurn => .skipTurn
  | uiModeMessage .. => .uiModeMessage

/-! ## Parameters by kind -/

/-- An amount, the cards it is added to, and a condition on each of them. -/
abbrev Change := Int × TargetFilter × Option Condition

/-- A base amount, a bonus, the condition for the bonus, and the cards. -/
abbrev ConditionalChange := Int × Int × Condition × TargetFilter

def changeRecord : Record Change :=
  .both (.required (.plain "amount") .int)
    (.both (.required (.plain "filter") TargetFilter.record.codec)
      (.optional (.plain "condition") Condition.record.codec))

def conditionalRecord : Record ConditionalChange :=
  .both (.required ⟨"base_amount", "baseAmount"⟩ .int)
    (.both (.required ⟨"bonus_amount", "bonusAmount"⟩ .int)
      (.both (.required (.plain "condition") Condition.record.codec)
        (.required (.plain "filter") TargetFilter.record.codec)))

/-- A change of a player's health; `absent` is whose it is when left out. -/
def healthRecord (absent : Party) : Record (Int × PlayerFilter) :=
  .both (.required (.plain "amount") .int)
    (.defaulted (.plain "filter") PlayerFilter.record.codec ⟨absent⟩)

def filterRecord : Record TargetFilter := .required (.plain "filter") TargetFilter.record.codec

def drawRecord : Record (Nat × Nat × Option FieldRaceCondition) :=
  .both (.required ⟨"base_amount", "baseAmount"⟩ .nat)
    (.both (.defaulted ⟨"bonus_amount", "bonusAmount"⟩ .nat 0)
      (.optional (.plain "condition") FieldRaceCondition.record.codec))

end Atom

namespace AtomKind

/-- What a call of a kind is told. -/
abbrev Parameters : AtomKind → Type
  | modifyAtk | modifyHp => Atom.Change
  | conditionalModifyAtk | conditionalModifyHp => Atom.ConditionalChange
  | playerHeal | playerDamage => Int × PlayerFilter
  | killCard | removeDebuffs | addImmunity => TargetFilter
  | clearField => Option ClearFieldFilter
  | freeze => Nat × TargetFilter
  | gainCoins => Nat × Option CoinCondition
  | conditionalKillPlayer => KillCondition
  | cascadeDamage | drawFromDiscard | freezeOnFirstAttack | swapRandomHands => Nat
  | drawCards => Nat × Nat × Option FieldRaceCondition
  | discardAndRedraw | hellLordBonus | swapBattlefields | skipTurn => Unit
  | uiModeMessage => String

def record : (k : AtomKind) → Record k.Parameters
  | modifyAtk | modifyHp => Atom.changeRecord
  | conditionalModifyAtk | conditionalModifyHp => Atom.conditionalRecord
  | playerHeal => Atom.healthRecord .own
  | playerDamage => Atom.healthRecord .opponent
  | killCard | removeDebuffs | addImmunity => Atom.filterRecord
  | clearField => .optional (.plain "filter") ClearFieldFilter.record.codec
  | freeze => .both (.required (.plain "turns") .nat) Atom.filterRecord
  | gainCoins =>
    .both (.required (.plain "amount") .nat)
      (.optional (.plain "condition") CoinCondition.record.codec)
  | conditionalKillPlayer => .required (.plain "condition") KillCondition.record.codec
  | cascadeDamage => .required ⟨"base_damage", "baseDamage"⟩ .nat
  | drawFromDiscard | swapRandomHands => .required (.plain "amount") .nat
  | freezeOnFirstAttack => .required (.plain "turns") .nat
  | drawCards => Atom.drawRecord
  | discardAndRedraw | hellLordBonus | swapBattlefields | skipTurn => .nothing
  | uiModeMessage => .required (.plain "message") .text

end AtomKind

namespace Atom

/-- The atom of a kind with given parameters. -/
def of : (k : AtomKind) → k.Parameters → Atom
  | .modifyAtk, (amount, f, c) => modifyAtk amount f c
  | .modifyHp, (amount, f, c) => modifyHp amount f c
  | .conditionalModifyAtk, (base, bonus, c, f) => conditionalModifyAtk base bonus c f
  | .conditionalModifyHp, (base, bonus, c, f) => conditionalModifyHp base bonus c f
  | .playerHeal, (amount, f) => playerHeal amount f
  | .playerDamage, (amount, f) => playerDamage amount f
  | .killCard, f => killCard f
  | .clearField, f => clearField f
  | .freeze, (turns, f) => freeze turns f
  | .removeDebuffs, f => removeDebuffs f
  | .gainCoins, (amount, c) => gainCoins amount c
  | .conditionalKillPlayer, c => conditionalKillPlayer c
  | .cascadeDamage, base => cascadeDamage base
  | .drawFromDiscard, amount => drawFromDiscard amount
  | .discardAndRedraw, _ => discardAndRedraw
  | .drawCards, (base, bonus, c) => drawCards base bonus c
  | .hellLordBonus, _ => hellLordBonus
  | .swapBattlefields, _ => swapBattlefields
  | .freezeOnFirstAttack, turns => freezeOnFirstAttack turns
  | .addImmunity, f => addImmunity f
  | .swapRandomHands, amount => swapRandomHands amount
  | .skipTurn, _ => skipTurn
  | .uiModeMessage, message => uiModeMessage message

def parameters : (a : Atom) → a.kind.Parameters
  | modifyAtk amount f c | modifyHp amount f c => (amount, f, c)
  | conditionalModifyAtk base bonus c f | conditionalModifyHp base bonus c f => (base, bonus, c, f)
  | playerHeal amount f | playerDamage amount f => (amount, f)
  | killCard f | removeDebuffs f | addImmunity f => f
  | clearField f => f
  | freeze turns f => (turns, f)
  | gainCoins amount c => (amount, c)
  | conditionalKillPlayer c => c
  | cascadeDamage n | drawFromDiscard n | freezeOnFirstAttack n | swapRandomHands n => n
  | drawCards base bonus c => (base, bonus, c)
  | discardAndRedraw | hellLordBonus | swapBattlefields | skipTurn => ()
  | uiModeMessage message => message

@[simp] theorem of_parameters (a : Atom) : of a.kind a.parameters = a := by cases a <;> rfl

@[simp] theorem kind_of (k : AtomKind) (p : k.Parameters) : (of k p).kind = k := by
  cases k <;> rfl

end Atom

/-! ## Calls -/

/-- What an entry asks for: a checked atom, or something under another name. -/
inductive Call where
  | known (a : Atom)
  | unknown (name : String) (members : List (String × Json))
deriving Repr

namespace Call

/-- The name that the call is made by. -/
def name : Call → String
  | known a => a.kind.word
  | unknown name _ => name

def atomField : Field := .plain "atom"

/-- The members of a call of a kind, its name included. -/
def knownRecord (k : AtomKind) : Record k.Parameters :=
  (Record.both (.constant atomField k.word) k.record).iso Prod.snd fun p => ((), p)

/-- A call by a name that is no kind: the name is a text, the rest is kept. -/
def readUnknown : Json → Verdict Call
  | .obj ms =>
    match Json.find? ms "atom" with
    | none => .refused [⟨[.key "atom"], .missing⟩]
    | some (.str name) => .ok (.unknown name (ms.filter fun (k, _) => k != "atom"))
    | some _ => .refused [⟨[.key "atom"], .notText⟩]
  | _ => .fault .notObject

/-- Read a call.  A name that is a list or an object cannot be looked up at all. -/
def read (v : Json) : Verdict Call :=
  match v.get? "atom" with
  | some (.arr _) | some (.obj _) => .untenable
  | some (.str s) =>
    match (Vocabulary.read? s : Option AtomKind) with
    | some k => (((knownRecord k).codec.read v).under (.key k.word)).map fun p => known (.of k p)
    | none => (readUnknown v).under (.key "unknown")
  | _ => (readUnknown v).under (.key "unknown")

/-- The members that are told of an unknown call: those that are not null. -/
def told (ms : List (String × Json)) : List (String × Json) := ms.filter fun (_, v) => !v.isNull

/-- An unknown call is written without the members that are null; numbers in it
that are not finite are written as null. -/
def write : Call → Json
  | known a => (knownRecord a.kind).codec.write a.parameters
  | unknown name ms => .obj (("atom", .str name) :: Json.membersOnlyFinite (told ms))

/-- How many levels of values an unknown call may be told in writing. -/
def writtenLevels : Nat := 255

/-- Whether the call can be written. -/
def isWritable : Call → Bool
  | known _ => true
  | unknown _ ms => Json.membersNestWithin (told ms) writtenLevels

/-- The call in writing. -/
def toJson (c : Call) : Except Failure Json :=
  if c.isWritable then .ok c.write else .error .tooDeepToWrite

def codec : Codec Call := ⟨read, write⟩

/-- The name of the model that the call was checked against. -/
def modelName : Call → String
  | known a => a.kind.modelName
  | unknown .. => "UnknownAtom"

/-- The names of what the call is told. -/
def parameterNames : Call → List String
  | known a => a.kind.record.fields.map (·.name)
  | unknown _ ms => ms.map (·.1)

end Call

end LaneDuel
