/-
# LaneDuel.Journal.Live -- a journal that is heard while it is written

Events come in one after another.  Each is put into words, recorded if its level is
recorded, and then told to the listener, where there is one.
-/
import LaneDuel.Journal.Entry

namespace LaneDuel.Journal

set_option autoImplicit false

structure Live where
  tracing : Bool
  entries : List Entry
  /-- What the listener has heard so far; nothing where nobody listens. -/
  listener : Option (List String)

namespace Live

/-- A journal without entries. -/
def start (tracing listening : Bool) : Live :=
  ⟨tracing, [], if listening then some [] else none⟩

/-- Record an entry and tell it. -/
def emit (j : Live) (e : Entry) : Live :=
  if recorded j.tracing e.level then
    { j with
      entries := j.entries ++ [e]
      listener := j.listener.map (· ++ [e.message]) }
  else j

/-- Write some events one after another. -/
def write (b : Phrasebook) (j : Live) (events : List Event) : Live :=
  events.foldl (fun j e => j.emit (.ofEvent b e)) j

end Live

end LaneDuel.Journal
