/-
# LaneDuel.Journal.Recorder -- writing into a journal

What an effect sees of the outside: who acts, and a journal to write messages
into by key or by format.  Every line of the journal names the acting card, so
nothing can be written without one.  Integers in arguments are taken to be short
enough to be written.
-/
import LaneDuel.Effect.Run
import LaneDuel.Failure
import LaneDuel.Journal.Entry
import LaneDuel.Text.Percent

namespace LaneDuel.Journal

set_option autoImplicit false

structure Recorder where
  player : Side
  /-- Whether there is an acting card. -/
  hasCard : Bool
  tracing : Bool
  entries : List Entry

namespace Recorder

/-- Record an entry if its level is recorded. -/
def record (r : Recorder) (e : Entry) : Except Failure Recorder :=
  if !r.hasCard then .error .noFields
  else if recorded r.tracing e.level then .ok { r with entries := r.entries ++ [e] }
  else .ok r

/-- The names of arguments that a message cannot have. -/
def reserved : List String := ["key", "level", "self"]

/-- Record the text of a key; answers the text. -/
def log (r : Recorder) (b : Phrasebook) (key : String) (level : Level)
    (args : List (String × Json)) : Except Failure (Recorder × String) :=
  if args.any fun (k, _) => reserved.contains k then .error .wrongType
  else do
    let message := b.text key (args.map fun (k, v) => (k, v.plain))
    return (← r.record ⟨level, key, message⟩, message)

/-- Record a trace; the format is only looked at while tracing. -/
def trace (r : Recorder) (format : String) (args : List Json) : Except Failure Recorder :=
  if !r.tracing then .ok r
  else
    match if args.isEmpty then .ok format else Text.percent format args with
    | .ok message => r.record ⟨.debug, "trace", message⟩
    | .error .mismatch => .error .wrongType
    | .error (.malformed message) => .error (.badFormat message)
    | .error .outOfRange => .error .outOfRange
    | .error .noRoom => .error .noRoom

/-- The acting side for its own word, the opponent's side for any other. -/
def sideOf (r : Recorder) (scope : Json) : Side :=
  match scope with
  | .str "self" => r.player
  | _ => r.player.opponent

/-- The sides of a scope by its word; no other word has sides. -/
def sidesFor (r : Recorder) (scope : Json) : List Side :=
  match scope with
  | .str s => ((Vocabulary.read? s : Option Scope).map (·.sides r.player)).getD []
  | _ => []

end Recorder

end LaneDuel.Journal
