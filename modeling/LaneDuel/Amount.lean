/-
# LaneDuel.Amount -- values as they are shown

What an event says about a number is either the number itself or, where a loose
card or player holds something else in its place, that value as it is shown.
-/
import LaneDuel.Text.Literal

namespace LaneDuel

set_option autoImplicit false

inductive Amount where
  | count (n : Int)
  | shown (v : Json)
deriving DecidableEq, Repr

namespace Amount

def text : Amount → String
  | count n => toString n
  | shown v => v.plain

/-- Whether the integers in it have few enough digits to be written. -/
def writable : Amount → Bool
  | count n => Text.writable n
  | shown v => v.writable

def ofJson : Json → Amount
  | .num (.int n) => count n
  | v => shown v

instance : Coe Int Amount := ⟨count⟩

end Amount

end LaneDuel
