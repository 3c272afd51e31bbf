/-
# LaneDuel.Journal.Event -- what happened, before it is put into words

Every effect says what it did as an `Event`: a `Notice` that players read, or a
`Trace` of a single step for those who watch the engine.  Events hold names,
sides and numbers; the locale comes in only when a notice is put into words.

* `Notice.key` and `Notice.level` do not depend on the phrasebook.
* `Notice.fillings` is what a notice has for the gaps of its text, and `Notice.text`
  the phrasebook's text for the key with the gaps filled.
* A notice is put into words when it is told.  The standing texts show all of its
  fillings, so one with an integer of too many digits is not told at all: it is not
  `Notice.writable`.
-/
import LaneDuel.Amount
import LaneDuel.Phrasebook.Basic
import LaneDuel.Text.Literal

namespace LaneDuel

set_option autoImplicit false

inductive Level where
  | debug
  | info
  | error
deriving DecidableEq, Repr

instance : Vocabulary Level where
  members := [.debug, .info, .error]
  word
    | .debug => "debug"
    | .info => "info"
    | .error => "error"

instance : LawfulVocabulary Level where
  mem_members a := by cases a <;> decide
  word_inj a b := by cases a <;> cases b <;> decide

/-- Whose cards a filter looks at, seen from the acting side. -/
inductive Scope where
  | own
  | opponent
  | both
deriving DecidableEq, Repr

instance : Vocabulary Scope where
  members := [.own, .opponent, .both]
  word
    | .own => "self"
    | .opponent => "opponent"
    | .both => "both"

instance : LawfulVocabulary Scope where
  mem_members a := by cases a <;> decide
  word_inj a b := by cases a <;> cases b <;> decide

/-- A way of playing a card that the table takes over from the engine. -/
inductive UiMode where
  | reposition
  | laneSwap
deriving DecidableEq, Repr

instance : Vocabulary UiMode where
  members := [.reposition, .laneSwap]
  word
    | .reposition => "reposition"
    | .laneSwap => "laneSwap"

instance : LawfulVocabulary UiMode where
  mem_members a := by cases a <;> decide
  word_inj a b := by cases a <;> cases b <;> decide

/-- What fills a gap in the text of a notice. -/
inductive Filling where
  | plain (s : String)
  | number (n : Amount)
  | count (n : Nat)
  /-- A change is shown with its sign, zero without one. -/
  | change (n : Int)
  | side (s : Side)
  | mode (m : UiMode)

namespace Filling

def text (b : Phrasebook) : Filling → String
  | plain s => s
  | number n => n.text
  | count n => toString n
  | change n => if 0 < n then s!"+{n}" else toString n
  | side s => b.sideName (Vocabulary.word s)
  | mode m => b.text ("mode." ++ Vocabulary.word m) []

/-- Whether the integers in it have few enough digits to be written. -/
def writable : Filling → Bool
  | number n => n.writable
  | count n => Text.writable n
  | change n => Text.writable n
  | plain _ | side _ | mode _ => true

end Filling

/-- What players are told. -/
inductive Notice where
  | atkChanged (name : String) (delta : Int) (atk : Amount)
  | atkChangedBonus (name : String) (delta base bonus : Int) (atk : Amount)
  | hpChanged (name : String) (delta : Int) (hp maxHp : Amount)
  | hpChangedBonus (name : String) (delta base bonus : Int) (hp maxHp : Amount)
  | hellLordBuff (name : String) (amount : Int) (atk hp : Amount)
  | hellLordDebuff (name : String) (amount : Int) (atk hp : Amount)
  | playerHeal (side : Side) (amount : Int) (health : Amount)
  | playerDamage (side : Side) (amount : Int) (health : Amount)
  | coinsGained (side : Side) (amount coins : Amount)
  | executeSuccess (threshold : Int)
  | executeFail (health : Amount) (threshold : Int)
  | cardKilled (name : String)
  | cardCleared (name : String)
  | cardFrozen (name : String) (turns : Int)
  | cardUnfrozen (name : String)
  | cardImmune (name : String)
  | cascadeHit (name : String) (damage hp : Amount)
  | cardDefeated (name : String)
  | firstAttack (name : String)
  | firstAttackFreeze (name target : String) (turns : Amount)
  | drawFromDiscard (side : Side) (name : String)
  | discardEmpty
  | handShuffledBack (side : Side) (count : Nat)
  | redraw (side : Side) (normal miracle : Nat)
  | cardsDrawn (side : Side) (count : Nat)
  | cardsDrawnBonus (side : Side) (count : Nat) (base bonus : Int)
  | deckShort (wanted : Int) (count : Nat)
  | handsSwapped (own opponent : Nat)
  | handsSwapEmpty
  | battlefieldsSwapped
  | skipTurn
  | uiMessage (message : String)
  | targetLost
  | targetRequired (card : String)
  | unknownAtom (atom : String)
  | selfNotFound (name : String)
  | uiMode (card : String) (mode : UiMode)
deriving DecidableEq, Repr

namespace Notice

def key : Notice → String
  | atkChanged .. => "effect.atk_changed"
  | atkChangedBonus .. => "effect.atk_changed_bonus"
  | hpChanged .. => "effect.hp_changed"
  | hpChangedBonus .. => "effect.hp_changed_bonus"
  | hellLordBuff .. => "effect.hell_lord_buff"
  | hellLordDebuff .. => "effect.hell_lord_debuff"
  | playerHeal .. => "effect.player_heal"
  | playerDamage .. => "effect.player_damage"
  | coinsGained .. => "effect.coins_gained"
  | executeSuccess .. => "effect.execute_success"
  | executeFail .. => "effect.execute_fail"
  | cardKilled .. => "effect.card_killed"
  | cardCleared .. => "effect.card_cleared"
  | cardFrozen .. => "effect.card_frozen"
  | cardUnfrozen .. => "effect.card_unfrozen"
  | cardImmune .. => "effect.card_immune"
  | cascadeHit .. => "effect.cascade_hit"
  | cardDefeated .. => "effect.card_defeated"
  | firstAttack .. => "effect.first_attack"
  | firstAttackFreeze .. => "effect.first_attack_freeze"
  | drawFromDiscard .. => "effect.draw_from_discard"
  | discardEmpty => "effect.discard_empty"
  | handShuffledBack .. => "effect.hand_shuffled_back"
  | redraw .. => "effect.redraw"
  | cardsDrawn .. => "effect.cards_drawn"
  | cardsDrawnBonus .. => "effect.cards_drawn_bonus"
  | deckShort .. => "effect.deck_short"
  | handsSwapped .. => "effect.hands_swapped"
  | handsSwapEmpty => "effect.hands_swap_empty"
  | battlefieldsSwapped => "effect.battlefields_swapped"
  | skipTurn => "effect.skip_turn"
  | uiMessage .. => "effect.ui_mode"
  | targetLost => "engine.target_lost"
  | targetRequired .. => "engine.target_required"
  | unknownAtom .. => "engine.unknown_atom"
  | selfNotFound .. => "engine.self_not_found"
  | uiMode .. => "engine.ui_mode"

def level : Notice → Level
  | targetLost | targetRequired .. | unknownAtom .. | selfNotFound .. => .error
  | _ => .info

/-- The values for the gaps of the notice's text. -/
def fillings : Notice → List (String × Filling)
  | atkChanged name d atk => [("name", .plain name), ("delta", .change d), ("atk", .number atk)]
  | atkChangedBonus name d base bonus atk =>
    [("name", .plain name), ("delta", .change d), ("base", .number base),
      ("bonus", .number bonus), ("atk", .number atk)]
  | hpChanged name d hp maxHp =>
    [("name", .plain name), ("delta", .change d), ("hp", .number hp), ("max_hp", .number maxHp)]
  | hpChangedBonus name d base bonus hp maxHp =>
    [("name", .plain name), ("delta", .change d), ("base", .number base),
      ("bonus", .number bonus), ("hp", .number hp), ("max_hp", .number maxHp)]
  | hellLordBuff name amount atk hp | hellLordDebuff name amount atk hp =>
    [("name", .plain name), ("amount", .number amount), ("atk", .number atk), ("hp", .number hp)]
  | playerHeal side amount health =>
    [("side", .side side), ("delta", .change amount), ("health", .number health)]
  | playerDamage side amount health =>
    [("side", .side side), ("amount", .number amount), ("health", .number health)]
  | coinsGained side amount coins =>
    [("side", .side side), ("amount", .number amount), ("coins", .number coins)]
  | executeSuccess threshold => [("threshold", .number threshold)]
  | executeFail health threshold =>
    [("health", .number health), ("threshold", .number threshold)]
  | cardKilled name | cardCleared name | cardUnfrozen name | cardImmune name
  | cardDefeated name | firstAttack name | selfNotFound name => [("name", .plain name)]
  | cardFrozen name turns => [("name", .plain name), ("turns", .number turns)]
  | cascadeHit name damage hp =>
    [("name", .plain name), ("damage", .number damage), ("hp", .number hp)]
  | firstAttackFreeze name target turns =>
    [("name", .plain name), ("target", .plain target), ("turns", .number turns)]
  | drawFromDiscard side name => [("side", .side side), ("name", .plain name)]
  | handShuffledBack side count | cardsDrawn side count =>
    [("side", .side side), ("count", .count count)]
  | redraw side normal miracle =>
    [("side", .side side), ("normal", .count normal), ("miracle", .count miracle)]
  | cardsDrawnBonus side count base bonus =>
    [("side", .side side), ("count", .count count), ("base", .number base),
      ("bonus", .number bonus)]
  | deckShort wanted count => [("wanted", .number wanted), ("count", .count count)]
  | handsSwapped own opponent =>
    [("self_count", .count own), ("opponent_count", .count opponent)]
  | uiMessage message => [("message", .plain message)]
  | targetRequired card => [("card", .plain card)]
  | unknownAtom atom => [("atom", .plain atom)]
  | uiMode card mode => [("card", .plain card), ("mode", .mode mode)]
  | discardEmpty | handsSwapEmpty | battlefieldsSwapped | skipTurn | targetLost => []

/-- The text of a notice that is writable. -/
def text (b : Phrasebook) (n : Notice) : String :=
  b.text n.key (n.fillings.map fun gap => (gap.1, gap.2.text b))

/-- Whether every gap can be filled. -/
def writable (n : Notice) : Bool := n.fillings.all fun gap => gap.2.writable

end Notice

/-- Single steps of the engine. -/
inductive Trace where
  | step (cardId : Amount) (index : Nat) (atom : String)
  | candidates (scope : Option Scope) (hand : Bool) (count : Nat)
  /-- The names, as literals. -/
  | chosen (names : List String)
  | conditionSkip (name : String)
  | notOnBattlefield (name : String)
  | alreadyUsed (name : String)
  | emptyHand
deriving DecidableEq, Repr

namespace Trace

/-- A scope as a trace shows it. -/
def scopeText : Option Scope → String
  | none => "None"
  | some .own => "PlayerScope.SELF"
  | some .opponent => "PlayerScope.OPPONENT"
  | some .both => "PlayerScope.BOTH"

/-- The text of a trace.  Integers of any length are written: a card's number, and those
within names that are no texts. -/
def text : Trace → String
  | step cardId index atom => s!"card {cardId.text} step {index}: {atom}"
  | candidates scope hand count =>
    s!"resolve {scopeText scope}/" ++ (if hand then "hand" else "battlefield")
      ++ s!": {count} candidates"
  | chosen names => "resolve result: [" ++ ", ".intercalate names ++ "]"
  | conditionSkip name => s!"modifyAtk skip {name} (condition)"
  | notOnBattlefield name => s!"killCard: {name} not on battlefield"
  | alreadyUsed name => s!"freezeOnFirstAttack: {name} already used"
  | emptyHand => "discardAndRedraw: empty hand"

end Trace

inductive Event where
  | notice (n : Notice)
  | trace (t : Trace)
deriving DecidableEq, Repr

namespace Event

def level : Event → Level
  | notice n => n.level
  | trace _ => .debug

def key : Event → String
  | notice n => n.key
  | trace _ => "trace"

def text (b : Phrasebook) : Event → String
  | notice n => n.text b
  | trace t => t.text

/-- Whether an event can be put into words; a trace is taken to be. -/
def writable : Event → Bool
  | notice n => n.writable
  | trace _ => true

end Event

end LaneDuel
