/-
# LaneDuel.Text.Emoji -- emoji by their short names

A short name between colons stands for an emoji.  A name that takes skin tones may
be followed by one, which is put after the first character of the emoji; a dash and
a word after the name ask for the colourful or the plain form.

* `Emoji.find?` is the emoji of a name in small letters.
* `Emoji.replace` puts emoji in the place of the names in a text; a name that is
  not known stays as it is, with both its colons.
-/
import LaneDuel.Text.Blank
import LaneDuel.Text.Emoji.Table
import LaneDuel.Text.Lower

namespace LaneDuel.Text.Emoji

set_option autoImplicit false

/-- The emoji with their names. -/
def entries : List (String × List String) :=
  (table.flatMap (·.splitOn ",")).map fun entry =>
    match entry.splitOn " " with
    | emoji :: names => (emoji, names)
    | [] => ("", [])

/-- The emoji that has a name, written as in the table. -/
def named? (name : String) : Option String :=
  entries.findSome? fun (emoji, names) => if names.contains name then some emoji else none

/-! ## Skin tones -/

/-- The names of the skin tones, as they follow another name, and their characters. -/
def tones : List (String × Char) := [
  ("_light_skin_tone", '🏻'), ("_medium-light_skin_tone", '🏼'),
  ("_medium_skin_tone", '🏽'), ("_medium-dark_skin_tone", '🏾'),
  ("_dark_skin_tone", '🏿')]

/-- The mark of the colourful form. -/
def colourful : Char := '\ufe0f'

/-- The mark of the plain form. -/
def monochrome : Char := '\ufe0e'

/-- An emoji in a skin tone, which takes the place of the mark of the colourful
form after the first character. -/
def tinted (tone : Char) (emoji : String) : String :=
  match emoji.toList with
  | c :: d :: rest =>
    String.ofList (if d == colourful then c :: tone :: rest else c :: tone :: d :: rest)
  | cs => String.ofList (cs ++ [tone])

/-- The text before an ending. -/
def before? (ending : String) (cs : List Char) : Option (List Char) :=
  if ending.toList.isSuffixOf cs then some (cs.take (cs.length - ending.length)) else none

/-- The emoji of a name. -/
def find? (name : String) : Option String :=
  if name.contains '~' then none
  else
    ((named? name).or (named? (name ++ "~"))).or <|
      tones.findSome? fun (ending, tone) => do
        let plain ← before? ending name.toList
        return tinted tone (← named? (String.ofList plain ++ "~"))

/-! ## Replacing -/

/-- What stands between two colons: a name, and the mark of the form that it asks
for. -/
def readName (cs : List Char) : List Char × List Char :=
  match before? "-emoji" cs, before? "-text" cs with
  | some name, _ => (name, [colourful])
  | none, some name => (name, [monochrome])
  | none, none => (cs, [])

/-- The characters that take the place of a name between colons. -/
def shown (cs : List Char) : List Char :=
  let (name, form) := readName cs
  match find? (lower (String.ofList name)) with
  | some emoji => emoji.toList ++ form
  | none => ':' :: cs ++ [':']

/-- Replace the names in a text; each stretch between colons uses up one of `fuel`.
A stretch with a blank in it is no name. -/
def replaceFrom : Nat → List Char → List Char
  | 0, cs => cs
  | _, [] => []
  | fuel + 1, ':' :: cs =>
    let name := cs.takeWhile fun c => c != ':' && !isBlankOrSeparator c
    match cs.drop name.length with
    | ':' :: rest => shown name ++ replaceFrom fuel rest
    | _ => ':' :: replaceFrom fuel cs
  | fuel + 1, c :: cs => c :: replaceFrom fuel cs

def replace (cs : List Char) : List Char := replaceFrom cs.length cs

end LaneDuel.Text.Emoji
