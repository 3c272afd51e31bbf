/-
# LaneDuel.Effect.Library -- which calls can be carried out

A library holds the kinds of atoms that are known to the engine; the standard one
holds all of them.  A call by any other name can only be reported.
-/
import LaneDuel.Effect.Perform

namespace LaneDuel

set_option autoImplicit false

structure Library where
  kinds : List AtomKind
deriving DecidableEq, Repr

namespace Library

/-- Every kind. -/
def standard : Library := ⟨AtomKind.all⟩

def has (l : Library) (k : AtomKind) : Bool := l.kinds.contains k

def unregister (l : Library) (k : AtomKind) : Library := ⟨l.kinds.filter (· != k)⟩

/-- The atom of a call, if the library has its kind. -/
def atom? (l : Library) : Call → Option Atom
  | .known a => if l.has a.kind then some a else none
  | .unknown .. => none

@[simp] theorem atom?_unknown (l : Library) (name : String) (ms : List (String × Json)) :
    l.atom? (.unknown name ms) = none := rfl

end Library

end LaneDuel
