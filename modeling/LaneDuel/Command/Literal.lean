/-
# LaneDuel.Command.Literal -- values written out in tags

A tag may carry a written value: a number, a text in quotation marks, one of three
names, or a tuple, list, set or mapping of values.  Only whether the value can be
read matters here, and what sort it is.

* `Literal.isReadable` decides whether a whole text is one value.
-/
import LaneDuel.Text.Blank

namespace LaneDuel.Command.Literal

set_option autoImplicit false

/-- What sort of value was read. -/
inductive Variety where
  /-- A number without a sign. -/
  | real
  | signedReal
  | imaginary
  | text
  | bytes
  /-- Another value that can be a member of a set. -/
  | fixed
  /-- A value that cannot. -/
  | changeable
deriving DecidableEq, Repr

/-- What was read, and the characters after it. -/
abbrev Reading := Option (Variety × List Char)

def isGap (c : Char) : Bool := c == ' ' || c == '\t' || c == '\n' || c == '\r' || c == '\x0c'

/-- Leave out blanks and remarks, which go from a number sign to the end of the
line; `inside` says that a remark has begun.  Only within brackets, which `deep`
tells, is the end of a line a blank. -/
def skipGapFrom (deep : Bool) : (inside : Bool) → List Char → List Char
  | _, [] => []
  | inside, c :: rest =>
    if c == '\n' && !deep then c :: rest
    else if inside then skipGapFrom deep (c != '\n') rest
    else if isGap c then skipGapFrom deep false rest
    else if c == '#' then skipGapFrom deep true rest
    else c :: rest

def skipGap (deep : Bool) (cs : List Char) : List Char := skipGapFrom deep false cs

/-! ## Numbers -/

/-- Digits of a class that single underscores may separate; at least one. -/
def isRun (digit : Char → Bool) : List Char → Bool
  | [] => false
  | [c] => digit c
  | c :: '_' :: rest => digit c && isRun digit rest
  | c :: rest => digit c && isRun digit rest

def isHexDigit (c : Char) : Bool :=
  c.isDigit || ('a' ≤ c && c ≤ 'f') || ('A' ≤ c && c ≤ 'F')

/-- Digits after a letter for their base; an underscore may come first. -/
def isBased (digit : Char → Bool) (ds : List Char) : Bool :=
  isRun digit (if ds.head? == some '_' then ds.drop 1 else ds)

/-- A fraction or exponent part, or digits before them; nothing is allowed too. -/
def isRunOrEmpty (ds : List Char) : Bool := ds.isEmpty || isRun Char.isDigit ds

def isExponentMark (c : Char) : Bool := c == 'e' || c == 'E'

/-- A number with a point or an exponent. -/
def isDecimal (cs : List Char) : Bool :=
  let mantissa := cs.takeWhile (!isExponentMark ·)
  let whole := mantissa.takeWhile (· != '.')
  let fraction := (mantissa.dropWhile (· != '.')).drop 1
  let goodMantissa := isRunOrEmpty whole && isRunOrEmpty fraction
    && !(whole.isEmpty && fraction.isEmpty)
  match cs.dropWhile (!isExponentMark ·) with
  | [] => goodMantissa && mantissa.contains '.'
  | _ :: '-' :: ds | _ :: '+' :: ds | _ :: ds => goodMantissa && isRun Char.isDigit ds

/-- An integer without a base has no leading zeros, unless it is zero. -/
def isPlainInteger (cs : List Char) : Bool :=
  isRun Char.isDigit cs && (cs.head? != some '0' || cs.all fun c => c == '0' || c == '_')

def isReal : List Char → Bool
  | '0' :: 'x' :: ds | '0' :: 'X' :: ds => isBased isHexDigit ds
  | '0' :: 'o' :: ds | '0' :: 'O' :: ds => isBased (fun c => '0' ≤ c && c ≤ '7') ds
  | '0' :: 'b' :: ds | '0' :: 'B' :: ds => isBased (fun c => c == '0' || c == '1') ds
  | cs => isPlainInteger cs || isDecimal cs

def varietyOfNumber (cs : List Char) : Option Variety :=
  match cs.reverse with
  | 'j' :: rest | 'J' :: rest =>
    if isDecimal rest.reverse || isRun Char.isDigit rest.reverse then some .imaginary else none
  | _ => if isReal cs then some .real else none

/-- The characters of a number at the front.  A sign belongs to it after the mark of
an exponent. -/
def numberLength (hex : Bool) (last : Char) : List Char → Nat
  | [] => 0
  | c :: rest =>
    if c.isAlphanum || c == '_' || c == '.'
        || ((c == '-' || c == '+') && !hex && isExponentMark last) then
      numberLength hex c rest + 1
    else 0

def readNumber (cs : List Char) : Reading := do
  let hex := "0x".toList.isPrefixOf cs || "0X".toList.isPrefixOf cs
  let n := numberLength hex ' ' cs
  return (← varietyOfNumber (cs.take n), cs.drop n)

/-! ## Texts -/

/-- So many hexadecimal digits. -/
def skipHex (n : Nat) (cs : List Char) : Option (List Char) :=
  if (cs.take n).length == n && (cs.take n).all isHexDigit then some (cs.drop n) else none

/-- The rest after the end of a text; `triple` says that three marks end it. -/
def skipText (mark : Char) (triple raw bytes : Bool) : Nat → List Char → Option (List Char)
  | 0, _ => none
  | _, [] => none
  | fuel + 1, '\\' :: c :: rest =>
    let escaped := match c with
      | 'x' => skipHex 2 rest
      | 'u' => if bytes then some rest else skipHex 4 rest
      | 'U' => if bytes then some rest else skipHex 8 rest
      | 'N' => if bytes then some rest else none
      | _ => some rest
    (if raw then some rest else escaped).bind (skipText mark triple raw bytes fuel)
  | fuel + 1, c :: rest =>
    if c == mark then
      if !triple then some rest
      else if rest.take 2 == [mark, mark] then some (rest.drop 2)
      else skipText mark triple raw bytes fuel rest
    else if (c == '\n' && !triple) || (bytes && 128 ≤ c.toNat) then none
    else skipText mark triple raw bytes fuel rest

/-- The letters before a text that say how it is read: whether as it stands, and
whether as bytes. -/
def marking? (letters : List Char) : Option (Bool × Bool) :=
  match letters.map Char.toLower with
  | [] | ['u'] => some (false, false)
  | ['r'] => some (true, false)
  | ['b'] => some (false, true)
  | ['r', 'b'] | ['b', 'r'] => some (true, true)
  | _ => none

def isMark (c : Char) : Bool := c == '"' || c.toNat == 39

/-- One text at the front, if there is one. -/
def readText? (cs : List Char) : Option (Option (Variety × List Char)) :=
  let letters := cs.takeWhile Char.isAlpha
  match marking? letters, cs.drop letters.length with
  | some (raw, bytes), mark :: rest =>
    if isMark mark then
      let triple := rest.take 2 == [mark, mark]
      let inside := if triple then rest.drop 2 else rest
      some ((skipText mark triple raw bytes (inside.length + 1) inside).map fun rest =>
        (if bytes then .bytes else .text, rest))
    else none
  | _, _ => none

/-- Texts in a row are one; they must be of one sort. -/
def readTexts (deep : Bool) : Nat → Variety → List Char → Reading
  | 0, variety, cs => some (variety, cs)
  | fuel + 1, variety, cs =>
    match readText? (skipGap deep cs) with
    | none => some (variety, cs)
    | some none => none
    | some (some (next, rest)) =>
      if next == variety then readTexts deep fuel variety rest else none

/-! ## Values -/

def isWordChar (c : Char) : Bool := c.isAlphanum || c == '_' || 128 ≤ c.toNat

/-- One of the names that stand for a value. -/
def readName (deep : Bool) (cs : List Char) : Reading :=
  let name := cs.takeWhile isWordChar
  let rest := cs.drop name.length
  if ["None", "True", "False"].contains (String.ofList name) then some (.fixed, rest)
  else if name == "set".toList then
    match skipGap deep rest with
    | '(' :: rest =>
      match skipGap true rest with
      | ')' :: rest => some (.changeable, rest)
      | _ => none
    | _ => none
  else none

/-- What the members of a bracket make. -/
inductive Bracket where
  | round
  | square
  | curly
deriving DecidableEq, Repr

def Bracket.closing : Bracket → Char
  | round => ')'
  | square => ']'
  | curly => '}'

/-- The members that were read so far. -/
structure Members where
  count : Nat
  variety : Variety
  /-- A comma came last. -/
  comma : Bool
  /-- The members are keys with values. -/
  mapping : Bool
  /-- A member cannot be in a set. -/
  changeable : Bool

def Members.none : Members := ⟨0, .fixed, false, false, false⟩

/-- What a bracket makes of its members.  Round brackets about one value without a
comma make nothing new. -/
def Bracket.close (b : Bracket) (m : Members) : Option Variety :=
  match b with
  | round =>
    if m.count == 1 && !m.comma then some m.variety
    else some (if m.changeable then .changeable else .fixed)
  | square => some .changeable
  | curly => if m.changeable then Option.none else some .changeable

/-- A sign before a number, or a sum of a real and an imaginary number. -/
def isSign (c : Char) : Bool := c == '-' || c == '+'

mutual

/-- A value; each one uses up some of `fuel`. -/
def readValue (deep : Bool) : Nat → List Char → Reading
  | 0, _ => none
  | fuel + 1, cs => do
    let (variety, rest) ← readSigned deep fuel cs
    match skipGap deep rest with
    | c :: more =>
      if isSign c then
        if variety == .real || variety == .signedReal then
          match ← readAtom deep fuel (skipGap deep more) with
          | (.imaginary, rest) => return (.fixed, rest)
          | _ => none
        else none
      else return (variety, rest)
    | [] => return (variety, rest)

/-- A value that may be a number with a sign. -/
def readSigned (deep : Bool) : Nat → List Char → Reading
  | 0, _ => none
  | fuel + 1, cs =>
    match skipGap deep cs with
    | c :: rest =>
      if isSign c then do
        match ← readAtom deep fuel (skipGap deep rest) with
        | (.real, rest) => return (.signedReal, rest)
        | (.imaginary, rest) => return (.fixed, rest)
        | _ => none
      else readAtom deep fuel (c :: rest)
    | [] => none

/-- A value without a sign. -/
def readAtom (deep : Bool) : Nat → List Char → Reading
  | 0, _ => none
  | fuel + 1, cs =>
    match cs with
    | '(' :: rest => readMembers fuel .round .none rest
    | '[' :: rest => readMembers fuel .square .none rest
    | '{' :: rest => readMembers fuel .curly .none rest
    | '.' :: '.' :: '.' :: rest => some (.fixed, rest)
    | c :: _ =>
      match readText? cs with
      | some text => do
        let (variety, rest) ← text
        readTexts deep fuel variety rest
      | none => if c.isDigit || c == '.' then readNumber cs else readName deep cs
    | [] => none

/-- The members of a bracket up to its end. -/
def readMembers : Nat → Bracket → Members → List Char → Reading
  | 0, _, _, _ => none
  | fuel + 1, b, m, cs =>
    match skipGap true cs with
    | [] => none
    | c :: rest =>
      if c == b.closing && (m.count == 0 || m.comma) then
        (b.close { m with comma := m.count != 1 || m.comma }).map fun variety => (variety, rest)
      else do
        let (variety, rest) ← readValue true fuel (c :: rest)
        let bad := m.changeable || variety == .changeable
        let (mapped, rest) ← match skipGap true rest with
          | ':' :: rest =>
            if b == .curly then (readValue true fuel rest).map fun (_, rest) => (true, rest)
            else none
          | rest => some (false, rest)
        if m.count != 0 && m.mapping != mapped then none
        let m := { m with
          variety, count := m.count + 1, mapping := mapped, comma := false, changeable := bad }
        match skipGap true rest with
        | ',' :: rest => readMembers fuel b { m with comma := true } rest
        | d :: rest =>
          if d == b.closing then (b.close m).map fun variety => (variety, rest) else none
        | [] => none

end

/-- Whether a text is one value, or values with commas after them; `first` says
that none was read yet. -/
def isTuple : Nat → (first : Bool) → List Char → Bool
  | 0, _, _ => false
  | fuel + 1, first, cs =>
    (!first && (skipGap true cs).isEmpty) ||
      match readValue false (fuel + 1) cs with
      | some (_, rest) =>
        (skipGap true rest).isEmpty ||
          match skipGap false rest with
          | ',' :: rest => isTuple fuel false rest
          | _ => false
      | none => false

/-- Whether a text is one value, or the members of a tuple.  Remarks may stand on
lines before it; then it begins at the start of its line. -/
def isReadable (cs : List Char) : Bool :=
  let body := skipGap true cs
  let before := cs.take (cs.length - body.length)
  (!before.contains '\n' || before.getLast? == some '\n')
    && isTuple (4 * cs.length + 8) true body

end LaneDuel.Command.Literal
