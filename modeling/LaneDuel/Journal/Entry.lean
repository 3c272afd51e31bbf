/-
# LaneDuel.Journal.Entry -- the journal of a call

Events become entries when they are put into words.  Debug entries are recorded
only while tracing; a listener hears the message of every recorded entry.
-/
import LaneDuel.Journal.Event

namespace LaneDuel.Journal

set_option autoImplicit false

structure Entry where
  level : Level
  key : String
  message : String
deriving DecidableEq, Repr

def Entry.ofEvent (b : Phrasebook) (e : Event) : Entry := ⟨e.level, e.key, e.text b⟩

/-- Whether an entry of this level is recorded. -/
def recorded (tracing : Bool) (l : Level) : Bool := tracing || l != .debug

/-- The entries recorded of some events. -/
def entries (b : Phrasebook) (tracing : Bool) (events : List Event) : List Entry :=
  (events.map (Entry.ofEvent b)).filter fun e => recorded tracing e.level

/-- What players read: everything but traces. -/
def messages (es : List Entry) : List String :=
  (es.filter fun e => e.level != .debug).map (·.message)

def errors (es : List Entry) : List Entry := es.filter fun e => e.level == .error

/-- What a listener has heard. -/
def heard (es : List Entry) : List String := es.map (·.message)

end LaneDuel.Journal
