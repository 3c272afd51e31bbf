/-
# LaneDuel.Side -- the two sides of a duel

Red comes before blue wherever both are searched or listed.
-/
import LaneDuel.Vocabulary

namespace LaneDuel

set_option autoImplicit false

inductive Side where
  | red
  | blue
deriving DecidableEq, Repr

namespace Side

def opponent : Side → Side
  | red => blue
  | blue => red

/-- Both sides in their standing order. -/
def both : List Side := [red, blue]

instance : Vocabulary Side where
  members := both
  word
    | red => "red"
    | blue => "blue"

instance : LawfulVocabulary Side where
  mem_members a := by cases a <;> decide
  word_inj a b := by cases a <;> cases b <;> decide

@[simp] theorem opponent_opponent (s : Side) : s.opponent.opponent = s := by cases s <;> rfl

theorem opponent_ne (s : Side) : s.opponent ≠ s := by cases s <;> decide

end Side

end LaneDuel
