/-
# LaneDuel.Command.Style -- styles by their definition

A style is defined by words: attributes that it switches on, or off after `not`, a
colour, a background after `on`, and an address after `link`.  Styles with the same
effect have the same name.

* `Style.name` is the name of a definition: the words of what it does, in a fixed
  order, or the definition itself in small letters where it defines no style.
-/
import LaneDuel.Command.Colour
import LaneDuel.Text.Blank

namespace LaneDuel.Command

set_option autoImplicit false

/-- What a definition asks for. -/
structure Style where
  /-- Attributes that are on or off; the first one of a name counts. -/
  switches : List (String × Bool)
  colour : Option String
  background : Option String
  link : Option String

namespace Style

/-- The attributes in the order of names. -/
def attributes : List String := [
  "bold", "dim", "italic", "underline", "blink", "blink2", "reverse", "conceal", "strike",
  "underline2", "frame", "encircle", "overline"]

/-- Short words for attributes. -/
def shortWords : List (String × String) := [
  ("d", "dim"), ("b", "bold"), ("i", "italic"), ("u", "underline"), ("r", "reverse"),
  ("c", "conceal"), ("s", "strike"), ("uu", "underline2"), ("o", "overline")]

def attribute? (word : String) : Option String :=
  if attributes.contains word then some word else shortWords.lookup word

def plain : Style := ⟨[], none, none, none⟩

def switch (s : Style) (name : String) (on : Bool) : Style :=
  { s with switches := (name, on) :: s.switches }

/-- Read the words of a definition; none where it defines no style. -/
def ofWords (s : Style) : List String → Except Failure (Option Style)
  | [] => .ok (some s)
  | word :: rest =>
    match Text.lower word, rest with
    | "on", colour :: rest => do
      if ← Colour.isOne colour then
        ofWords { s with background := some (Text.lower colour) } rest
      else return none
    | "not", word :: rest =>
      match attribute? word with
      | some a => ofWords (s.switch a false) rest
      | none => .ok none
    | "link", address :: rest => ofWords { s with link := some address } rest
    | "on", [] | "not", [] | "link", [] => .ok none
    | word, rest =>
      match attribute? word with
      | some a => ofWords (s.switch a true) rest
      | none => do
        if ← Colour.isOne word then ofWords { s with colour := some word } rest
        else return none

/-- The words of a style in their order. -/
def words (s : Style) : List String :=
  let switched := attributes.filterMap fun a =>
    (s.switches.lookup a).map fun on => if on then a else "not " ++ a
  switched ++ s.colour.toList ++ (s.background.map ("on " ++ ·)).toList
    ++ (s.link.map ("link " ++ ·)).toList

/-- The name of a definition. -/
def name (definition : String) : Except Failure String := do
  match ← ofWords plain (Text.splitBlank definition) with
  | some s => return if s.words.isEmpty then "none" else " ".intercalate s.words
  | none =>
    return Text.lower (String.ofList (Text.trimBy Text.isBlankOrSeparator definition.toList))

end Style

end LaneDuel.Command
