/-
# LaneDuel.Schema.Filter -- filters, conditions and bonuses

The small models that atoms and catalog entries are made of.  Each type is
followed by its record.
-/
import LaneDuel.Journal.Event
import LaneDuel.Schema.Codec
import LaneDuel.Table.Basic

namespace LaneDuel

set_option autoImplicit false

open Schema

/-- A filter may name one card instead of a class of cards. -/
inductive TargetMode where
  | own
  | selected
deriving DecidableEq, Repr

instance : Vocabulary TargetMode where
  members := [.own, .selected]
  word
    | .own => "self"
    | .selected => "selected"

instance : LawfulVocabulary TargetMode where
  mem_members a := by cases a <;> decide
  word_inj a b := by cases a <;> cases b <;> decide

/-- Where a filter looks. -/
inductive Location where
  | battlefield
  | hand
deriving DecidableEq, Repr

instance : Vocabulary Location where
  members := [.battlefield, .hand]
  word
    | .battlefield => "battlefield"
    | .hand => "hand"

instance : LawfulVocabulary Location where
  mem_members a := by cases a <;> decide
  word_inj a b := by cases a <;> cases b <;> decide

def Location.zone : Location → Zone
  | .battlefield => .battlefield
  | .hand => .hand

/-- One of the two players, seen from the acting side. -/
inductive Party where
  | own
  | opponent
deriving DecidableEq, Repr

instance : Vocabulary Party where
  members := [.own, .opponent]
  word
    | .own => "self"
    | .opponent => "opponent"

instance : LawfulVocabulary Party where
  mem_members a := by cases a <;> decide
  word_inj a b := by cases a <;> cases b <;> decide

/-- When the turn loop triggers a card. -/
inductive Trigger where
  | onPlay
  | onTurnStart
  | onAfterBattle
  | passive
deriving DecidableEq, Repr

instance : Vocabulary Trigger where
  members := [.onPlay, .onTurnStart, .onAfterBattle, .passive]
  word
    | .onPlay => "onPlay"
    | .onTurnStart => "onTurnStart"
    | .onAfterBattle => "onAfterBattle"
    | .passive => "passive"

instance : LawfulVocabulary Trigger where
  mem_members a := by cases a <;> decide
  word_inj a b := by cases a <;> cases b <;> decide

/-! ## Conditions on a card -/

/-- What must hold of a card.  An absent or empty list asks for nothing. -/
structure Condition where
  race : Option (List String)
  rarity : Option (List String)
  kind : Option Kind
deriving DecidableEq, Repr

/-- The three narrowing fields that filters and conditions share. -/
def Condition.record : Record Condition :=
  (Record.both (.optional (.plain "race") .names)
    (.both (.optional (.plain "rarity") .names)
      (.optional (.plain "type") (.word Kind .notMember)))).iso
    (fun (race, rarity, kind) => ⟨race, rarity, kind⟩)
    (fun c => (c.race, c.rarity, c.kind))

/-- A condition on the field that changes an amount of coins. -/
structure CoinCondition extends Condition where
  bonus : Nat
deriving DecidableEq, Repr

def CoinCondition.record : Record CoinCondition :=
  (Condition.record.both (.required (.plain "bonus") .nat)).iso
    (fun (c, bonus) => ⟨c, bonus⟩) (fun c => (c.toCondition, c.bonus))

/-- Some race stands on the field of some player. -/
structure FieldRaceCondition where
  races : List String
  player : Scope
deriving DecidableEq, Repr

def FieldRaceCondition.record : Record FieldRaceCondition :=
  (Record.both (.constant (.plain "type") "hasRaceOnField")
    (.both (.required (.plain "races") .names)
      (.defaulted (.plain "player") (.word Scope .notMember) .own))).iso
    (fun (_, races, player) => ⟨races, player⟩) (fun c => ((), c.races, c.player))

/-- The opponent's health is at most the threshold. -/
structure KillCondition where
  threshold : Int
deriving DecidableEq, Repr

def KillCondition.record : Record KillCondition :=
  (Record.required ⟨"player_hp_threshold", "playerHpThreshold"⟩ .int).iso
    (fun n => ⟨n⟩) (fun c => c.threshold)

/-! ## Filters -/

/-- Which cards an atom reaches.  With a mode it is that one card; otherwise the
cards of the scope in a zone, narrowed by race, rarity and kind. -/
structure TargetFilter where
  target : Option TargetMode
  player : Option Scope
  location : Location
  race : Option (List String)
  rarity : Option (List String)
  kind : Option Kind
deriving DecidableEq, Repr

def TargetFilter.record : Record TargetFilter :=
  (Record.both (.optional (.plain "target") (.word TargetMode .notMember))
    (.both (.optional (.plain "player") (.word Scope .notMember))
      (.both (.defaulted (.plain "location") (.word Location .notLiteral) .battlefield)
        Condition.record))).iso
    (fun (target, player, location, c) => ⟨target, player, location, c.race, c.rarity, c.kind⟩)
    (fun f => (f.target, f.player, f.location, ⟨f.race, f.rarity, f.kind⟩))

/-- Whose health changes. -/
structure PlayerFilter where
  player : Party
deriving DecidableEq, Repr

def PlayerFilter.record : Record PlayerFilter :=
  (Record.defaulted (.plain "player") (.word Party .notLiteral) .opponent).iso
    (fun p => ⟨p⟩) (fun f => f.player)

/-- Which battlefields are cleared, and which races stay. -/
structure ClearFieldFilter where
  player : Scope
  exceptRace : Option (List String)
deriving DecidableEq, Repr

def ClearFieldFilter.record : Record ClearFieldFilter :=
  (Record.both (.defaulted (.plain "player") (.word Scope .notMember) .both)
    (.optional ⟨"except_race", "exceptRace"⟩ .names)).iso
    (fun (player, spared) => ⟨player, spared⟩) (fun f => (f.player, f.exceptRace))

/-! ## Auras -/

structure StatBonus where
  atk : Int
  hp : Int
deriving DecidableEq, Repr

def StatBonus.none : StatBonus := ⟨0, 0⟩

def StatBonus.record : Record StatBonus :=
  (Record.both (.defaulted (.plain "atk") .int 0) (.defaulted (.plain "hp") .int 0)).iso
    (fun (atk, hp) => ⟨atk, hp⟩) (fun b => (b.atk, b.hp))

/-- A bonus that holds while enough cards of some races are on the field. -/
structure CountRaceAura where
  races : List String
  threshold : Int
  bonus : StatBonus
deriving DecidableEq, Repr

def CountRaceAura.record : Record CountRaceAura :=
  (Record.both (.constant (.plain "type") "countRace")
    (.both (.required (.plain "races") .names)
      (.both (.required (.plain "threshold") (.atLeast 1))
        (.required (.plain "bonus") StatBonus.record.codec)))).iso
    (fun (_, races, threshold, bonus) => ⟨races, threshold, bonus⟩)
    (fun a => ((), a.races, a.threshold, a.bonus))

end LaneDuel
