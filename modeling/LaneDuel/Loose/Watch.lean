/-
# LaneDuel.Loose.Watch -- plays that are watched

Who watches a play chooses whether traces are recorded, which phrasebook puts events into
words, and whether somebody listens while the journal is written.
-/
import LaneDuel.Journal.Live
import LaneDuel.Loose.Engine

namespace LaneDuel.Loose

set_option autoImplicit false

structure Watch where
  tracing : Bool
  book : Phrasebook
  listening : Bool

/-- What a play came to for those who watched it. -/
structure Watched where
  state : State
  status : Status
  entries : List Journal.Entry
  /-- What the listener has heard, where there was one. -/
  heard : Option (List String)

/-- The entries that are no traces. -/
def Watched.spoken (t : Watched) : List Journal.Entry :=
  t.entries.filter fun e => e.level != .debug

/-- Write the journal of a play, event by event. -/
def Watch.put (w : Watch) (r : Resolution State) : Watched :=
  let j := (Journal.Live.start w.tracing w.listening).write w.book r.events
  ⟨r.state, r.status, j.entries, j.listener⟩

/-- Play a card and write the journal; also answers the source as it was left. -/
def Engine.watch {ρ : Type} [RandomSource ρ] (e : Engine) (w : Watch) (cardId : Json)
    (inv : Invocation) (s : State) (source : ρ) : Except Failure Watched × ρ :=
  let o := e.resolve w.tracing cardId inv s source
  (o.result.map w.put, o.source)

end LaneDuel.Loose
