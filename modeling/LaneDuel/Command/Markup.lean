/-
# LaneDuel.Command.Markup -- styled text

A tag in square brackets switches a style on or off and does not show.  A
backslash before a tag makes it show.  A closing tag must close a tag of the same
style that is open; `[/]` closes the last one.  A tag that begins with an at sign
may carry a value, which must be readable when the tag is closed.

* `shown` is the text that a marked text shows.  In each stretch without tags the
  short names of emoji are replaced.
* `escape` marks a text so that its tags show.
-/
import LaneDuel.Command.Literal
import LaneDuel.Command.Style
import LaneDuel.Text.Emoji

namespace LaneDuel.Command.Markup

set_option autoImplicit false

/-! ## Parts -/

/-- What a tag begins with after its bracket. -/
def startsTag (c : Char) : Bool := c.isLower || c == '#' || c == '/' || c == '@'

/-- The inside of a tag and what follows it, where a tag begins: the shortest
stretch without an opening bracket up to a closing one. -/
def tagAt? : List Char → Option (List Char × List Char)
  | '[' :: c :: rest =>
    if startsTag c then
      match rest.dropWhile (fun d => d != ']' && d != '[') with
      | ']' :: more => some (c :: rest.takeWhile (fun d => d != ']' && d != '['), more)
      | _ => none
    else none
  | _ => none

/-- A stretch of text, or the inside of a tag. -/
inductive Part where
  | text (cs : List Char)
  | tag (inside : List Char)
deriving DecidableEq, Repr

/-- The run of backslashes at the front. -/
def backslashes (cs : List Char) : Nat := (cs.takeWhile (· == '\\')).length

/-- Some text as a part, if there is any. -/
def textPart (cs : List Char) : List Part := if cs.isEmpty then [] else [.text cs]

/-- Cut a marked text into parts; `before` is the text since the last tag, in
reverse.  Of the backslashes before a tag two count as one, and one left over makes
the tag show. -/
def parts : Nat → List Char → List Char → List Part
  | 0, before, _ => textPart before.reverse
  | _, before, [] => textPart before.reverse
  | fuel + 1, before, c :: cs =>
    let n := backslashes (c :: cs)
    match tagAt? ((c :: cs).drop n) with
    | some (inside, rest) =>
      textPart before.reverse ++ textPart (List.replicate (n / 2) '\\')
        ++ (if n % 2 = 1 then .text ('[' :: inside ++ [']']) else .tag inside)
        :: parts fuel [] rest
    | none =>
      if n = 0 then parts fuel (c :: before) cs
      else parts fuel (List.replicate n '\\' ++ before) ((c :: cs).drop n)

/-! ## Showing -/

/-- Characters that never show. -/
def isHidden (c : Char) : Bool :=
  c.toNat == 7 || c.toNat == 8 || c.toNat == 11 || c.toNat == 12 || c.toNat == 13

/-- Backslashes before brackets do not show. -/
def dropEscapes : List Char → List Char
  | '\\' :: '[' :: rest => '[' :: dropEscapes rest
  | c :: rest => c :: dropEscapes rest
  | [] => []

/-- What a stretch of text shows. -/
def shownText (cs : List Char) : List Char :=
  (Text.Emoji.replace (dropEscapes cs)).filter (!isHidden ·)

/-- A tag that is open: the name of its style, and the value that it carries. -/
structure OpenTag where
  name : String
  value : List Char
deriving DecidableEq, Repr

/-- The text before an equals sign, and the text after it. -/
def splitValue (inside : List Char) : List Char × List Char :=
  (inside.takeWhile (· != '='), (inside.dropWhile (· != '=')).drop 1)

/-- Take the innermost open tag of a name out. -/
def close (name : String) : List OpenTag → Option (OpenTag × List OpenTag)
  | [] => none
  | t :: rest =>
    if t.name == name then some (t, rest)
    else (close name rest).map fun (found, left) => (found, t :: left)

/-- A character of the name of a handler. -/
def isHandlerChar (c : Char) : Bool := c.isAlphanum || c == '_' || c == '.' || 128 ≤ c.toNat

/-- The value that is read where a value may follow the name of a handler in round
brackets. -/
def argumentOf (value : List Char) : List Char :=
  match value.dropWhile isHandlerChar with
  | [] => ['(', ')']
  | '(' :: rest =>
    if rest.getLast? == some ')' && !rest.contains '\n' then '(' :: rest else value
  | _ => value

/-- Whether a tag may be closed. -/
def OpenTag.isReadable (t : OpenTag) : Bool :=
  !"@".toList.isPrefixOf t.name.toList || t.value.isEmpty
    || Literal.isReadable (argumentOf (Text.trimBy Text.isBlankOrSeparator t.value))

/-- The tag that a closing tag closes, and those that stay open. -/
def closedBy (name : List Char) (opened : List OpenTag) :
    Except Failure (Option (OpenTag × List OpenTag)) :=
  if name.isEmpty then .ok (opened.head?.map fun t => (t, opened.drop 1))
  else (Style.name (String.ofList name)).map fun name => close name opened

/-- The tags that are open after a tag. -/
def follow (opened : List OpenTag) (inside : List Char) : Except Failure (List OpenTag) := do
  let (name, value) := splitValue inside
  match name with
  | '/' :: name =>
    match ← closedBy (Text.trimBy Text.isBlankOrSeparator name) opened with
    | some (t, left) => if t.isReadable then return left else throw .brokenMarkup
    | none => throw .brokenMarkup
  | name => return ⟨← Style.name (String.ofList name), value⟩ :: opened

/-- Go through the parts with the tags that are open, innermost first. -/
def showParts : List OpenTag → List Part → Except Failure (List Char)
  | _, [] => .ok []
  | opened, .text cs :: rest => (showParts opened rest).map (shownText cs ++ ·)
  | opened, .tag inside :: rest => do showParts (← follow opened inside) rest

/-- The text that shows. -/
def shown (marked : String) : Except Failure (List Char) :=
  let cs := marked.toList
  if cs.contains '[' then showParts [] (parts (cs.length + 1) [] cs)
  else .ok ((Text.Emoji.replace cs).filter (!isHidden ·))

/-! ## Escaping -/

/-- Mark the tags of a text so that they show. -/
def escapeFrom : Nat → List Char → List Char
  | 0, _ => []
  | _, [] => []
  | fuel + 1, c :: cs =>
    let n := backslashes (c :: cs)
    match tagAt? ((c :: cs).drop n) with
    | some (inside, rest) =>
      List.replicate (2 * n + 1) '\\' ++ '[' :: inside ++ ']' :: escapeFrom fuel rest
    | none =>
      if n = 0 then c :: escapeFrom fuel cs
      else List.replicate n '\\' ++ escapeFrom fuel ((c :: cs).drop n)

/-- A text marked so that it shows as it is.  A single backslash at the end is
doubled, so that it does not reach what follows. -/
def escape (s : String) : String :=
  let cs := s.toList
  let marked := escapeFrom (cs.length + 1) cs
  match marked.reverse with
  | ['\\'] => String.ofList (marked ++ ['\\'])
  | '\\' :: c :: _ => if c == '\\' then String.ofList marked else String.ofList (marked ++ ['\\'])
  | _ => String.ofList marked

end LaneDuel.Command.Markup
