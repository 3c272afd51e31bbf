/-
# LaneDuel.Card -- a card in play

Every card has an instance id of its own; the card number is shared by all
copies and is the key of the effect catalog.  Stats are integers of any size and
sign.  A race slot may be blank.
-/
import LaneDuel.Number
import LaneDuel.Vocabulary

namespace LaneDuel

set_option autoImplicit false

inductive Kind where
  | battlefield
  | support
  | miracle
deriving DecidableEq, Repr, Inhabited

instance : Vocabulary Kind where
  members := [.battlefield, .support, .miracle]
  word
    | .battlefield => "battlefield"
    | .support => "support"
    | .miracle => "miracle"

instance : LawfulVocabulary Kind where
  mem_members a := by cases a <;> decide
  word_inj a b := by cases a <;> cases b <;> decide

structure Card where
  cardId : Int
  instanceId : String
  name : String
  kind : Kind
  rarity : String
  primaryRace : String
  secondaryRace : String
  atk : Int
  hp : Int
  maxHp : Int
  cost : Number
  effect : String
  frozen : Int
  immune : Bool
  abilityUsed : Bool
  firstActionUsed : Bool
deriving DecidableEq, Repr, Inhabited

namespace Card

/-- The race labels that are not blank. -/
def races (c : Card) : List String := [c.primaryRace, c.secondaryRace].filter (· != "")

/-- One of the two race slots is in the list.  A blank slot is in a list that
names the blank race. -/
def hasRace (c : Card) (races : List String) : Bool :=
  races.contains c.primaryRace || races.contains c.secondaryRace

def isFrozen (c : Card) : Bool := 0 < c.frozen

def isMiracle (c : Card) : Bool := c.kind == .miracle

/-- Number, name, attack and hit points in short. -/
def summary (c : Card) : String := s!"CardInstance({c.cardId}, {c.name}, {c.atk}/{c.hp})"

end Card

end LaneDuel
