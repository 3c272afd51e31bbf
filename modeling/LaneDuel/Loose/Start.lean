/-
# LaneDuel.Loose.Start -- new states

A new state has empty lanes and empty hands.  How many lanes there are and how
healthy the players are is taken from the settings where it is not given; the
health may be given as any value, the number of lanes must be an integer that a
list can have as its length.
-/
import LaneDuel.Loose.State
import LaneDuel.Settings

namespace LaneDuel.Loose

set_option autoImplicit false

/-- The greatest length that can be asked of a list. -/
def greatestLength : Int := 9223372036854775807

/-- The greatest length for which there is room. -/
def roomyLength : Int := 100000000

/-- A number of lanes; below nothing there are none. -/
def laneCount (v : Json) : Except Failure Nat := do
  let n ← integer v
  if n < -greatestLength - 1 ∨ greatestLength < n then throw .outOfRange
  else if roomyLength < n then throw .noRoom
  else return n.toNat

/-- A new state.  Null counts as not given. -/
def State.new (s : Settings) (lanes health : Json) : Except Failure State := do
  let lanes ← laneCount (if lanes.isNull then .int s.laneCount else lanes)
  return .start lanes (if health.isNull then .int s.startHealth else health)

/-- A new state from named arguments. -/
def State.newOf (s : Settings) (ms : List (String × Json)) : Except Failure State :=
  if ms.any fun (k, _) => k != "lane_count" && k != "start_health" then .error .wrongType
  else
    let given := fun key => (Json.find? ms key).getD .null
    State.new s (given "lane_count") (given "start_health")

end LaneDuel.Loose
