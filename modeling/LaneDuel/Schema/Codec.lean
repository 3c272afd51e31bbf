/-
# LaneDuel.Schema.Codec -- reading and writing descriptions by one definition

A `Codec` says how a type is read from a document, with every issue collected,
and how it is written.  A `Record` does the same for the members of an object,
field by field, so a model is described once and its reader and writer cannot
drift apart.

* A `Field` has two spellings.  Where both are given the preferred one counts and
  the other one is an extra member.
* Reading is tolerant: integers may be truth values, doubles without a fraction or
  texts, and truth values may be words.  Writing uses one form for each value.
* A plain text is taken as it is.  Where a text is looked into, for its length, an
  integer or a truth value, one with a lone half of a surrogate pair is refused.
-/
import LaneDuel.Json.Basic
import LaneDuel.Schema.Issue
import LaneDuel.Text.Half
import LaneDuel.Text.Integer

namespace LaneDuel.Schema

set_option autoImplicit false

universe u v

/-! ## Verdicts -/

/-- What reading comes to: a value, or the issues found, or `untenable` when a
value stands in a place that makes the whole description unreadable. -/
inductive Verdict (α : Type u) where
  | ok (a : α)
  | refused (issues : List Issue)
  | untenable
deriving Repr

namespace Verdict

variable {α : Type u} {β : Type v}

def map (f : α → β) : Verdict α → Verdict β
  | ok a => ok (f a)
  | refused is => refused is
  | untenable => untenable

/-- Both values, or all issues of both. -/
def both : Verdict α → Verdict β → Verdict (α × β)
  | ok a, ok b => ok (a, b)
  | ok _, refused js => refused js
  | refused is, ok _ => refused is
  | refused is, refused js => refused (is ++ js)
  | untenable, _ | _, untenable => untenable

/-- The verdict as seen from one step further out. -/
def under (step : Step) : Verdict α → Verdict α
  | ok a => ok a
  | refused is => refused (is.map (Issue.under step))
  | untenable => untenable

def fault (kind : IssueKind) : Verdict α := refused [⟨[], kind⟩]

/-- All values of a list of verdicts, or all issues. -/
def all : List (Verdict α) → Verdict (List α)
  | [] => ok []
  | v :: vs => (both v (all vs)).map fun (a, as) => a :: as

end Verdict

/-! ## Codecs of values -/

structure Codec (α : Type) where
  read : Json → Verdict α
  write : α → Json

namespace Codec

variable {α β : Type}

/-- Go on with a text that is whole. -/
def wholeText (s : String) (read : String → Verdict α) : Verdict α :=
  if Text.hasHalf s then .fault .brokenText else read s

def text : Codec String where
  read
    | .str s => .ok s
    | _ => .fault .notText
  write := .str

/-- A text of at least one character. -/
def nonEmptyText : Codec String where
  read
    | .str s => wholeText s fun s => if s = "" then .fault .textTooShort else .ok s
    | _ => .fault .notText
  write := .str

/-- The least number above those a double can be read as an integer of. -/
def realLimit : Int := 9223372036854775808

/-- The integer that a double is equal to, inside the limits. -/
def intOfReal (x : Double) : Verdict Int :=
  match x, x.toInt? with
  | .finite .., some n =>
    if -realLimit < n ∧ n < realLimit then .ok n else .fault .integerTooLong
  | .finite .., none => .fault .notWhole
  | _, _ => .fault .notFinite

def intOfText (s : String) : Verdict Int :=
  match Text.readTolerantInt s with
  | .ok n => .ok n
  | .error .unreadable => .fault .unreadableInteger
  | .error .tooLong => .fault .integerTooLong

def int : Codec Int where
  read
    | .num (.int n) => .ok n
    | .bool b => .ok (if b then 1 else 0)
    | .num (.real x) => intOfReal x
    | .str s => wholeText s intOfText
    | _ => .fault .notInteger
  write := Json.int

/-- An integer that is not below the bound. -/
def atLeast (bound : Int) : Codec Int where
  read v :=
    match int.read v with
    | .ok n => if bound ≤ n then .ok n else .fault .tooSmall
    | .refused is => .refused is
    | .untenable => .untenable
  write := Json.int

/-- A count, which is not negative. -/
def nat : Codec Nat where
  read v := ((atLeast 0).read v).map Int.toNat
  write n := Json.int n

def falseWords : List String := ["0", "off", "f", "false", "n", "no"]

def trueWords : List String := ["1", "on", "t", "true", "y", "yes"]

/-- A truth value in words, whatever the case of their ASCII letters. -/
def boolOfWord? (s : String) : Option Bool :=
  if falseWords.contains s.toLower then some false
  else if trueWords.contains s.toLower then some true
  else none

def boolOfInt (n : Int) : Verdict Bool :=
  if n = 0 then .ok false else if n = 1 then .ok true else .fault .unreadableBoolean

def boolOfText (s : String) : Verdict Bool :=
  match boolOfWord? s with
  | some b => .ok b
  | none => .fault .unreadableBoolean

def bool : Codec Bool where
  read
    | .bool b => .ok b
    | .num (.int n) =>
      if -realLimit ≤ n ∧ n < realLimit then boolOfInt n else .fault .notBoolean
    | .num (.real x) =>
      match intOfReal x with
      | .ok n => boolOfInt n
      | _ => .fault .notBoolean
    | .str s => wholeText s boolOfText
    | _ => .fault .notBoolean
  write := .bool

/-- A word of a vocabulary; `otherwise` is the issue with any other value. -/
def word (α : Type) [Vocabulary α] (otherwise : IssueKind) : Codec α where
  read
    | .str s =>
      match Vocabulary.read? s with
      | some a => .ok a
      | none => .fault otherwise
    | _ => .fault otherwise
  write a := .str (Vocabulary.word a)

/-- A value or null. -/
def nullable (c : Codec α) : Codec (Option α) where
  read
    | .null => .ok none
    | v => (c.read v).map some
  write
    | none => .null
    | some a => c.write a

/-- The verdicts on the items of a list, each under its position. -/
def readItems (c : Codec α) (start : Nat) : List Json → List (Verdict α)
  | [] => []
  | v :: vs => (c.read v).under (.index start) :: readItems c (start + 1) vs

def list (c : Codec α) : Codec (List α) where
  read
    | .arr vs => .all (readItems c 0 vs)
    | _ => .fault .notList
  write as := .arr (as.map c.write)

/-- A list of names; a single text is a list of one. -/
def names : Codec (List String) where
  read
    | .str s => (list text).read (.arr [.str s])
    | v => (list text).read v
  write := (list text).write

/-- A codec for a type that is another form of `α`. -/
def iso (f : α → β) (g : β → α) (c : Codec α) : Codec β where
  read v := (c.read v).map f
  write b := c.write (g b)

end Codec

/-! ## Fields and records -/

/-- A member that is known by two spellings: its name, and the preferred one in
which it is written. -/
structure Field where
  name : String
  preferred : String
deriving DecidableEq, Repr

namespace Field

/-- A field with one spelling. -/
def plain (name : String) : Field := ⟨name, name⟩

/-- The spelling that counts among some members, with its value. -/
def present? (f : Field) (ms : List (String × Json)) : Option (String × Json) :=
  match Json.find? ms f.preferred with
  | some v => some (f.preferred, v)
  | none => (Json.find? ms f.name).map fun v => (f.name, v)

end Field

/-- The members of an object as one value: the fields it declares, and how they
are read and written. -/
structure Record (α : Type) where
  fields : List Field
  read : List (String × Json) → Verdict α
  write : α → List (String × Json)

namespace Record

variable {α β : Type}

/-- No field at all. -/
def nothing : Record Unit := ⟨[], fun _ => .ok (), fun _ => []⟩

/-- A field that must be there. -/
def required (f : Field) (c : Codec α) : Record α where
  fields := [f]
  read ms :=
    match f.present? ms with
    | none => .refused [⟨[.key f.preferred], .missing⟩]
    | some (k, v) => (c.read v).under (.key k)
  write a := [(f.preferred, c.write a)]

/-- A field with a value to assume where it is left out. -/
def defaulted (f : Field) (c : Codec α) (absent : α) : Record α where
  fields := [f]
  read ms :=
    match f.present? ms with
    | none => .ok absent
    | some (k, v) => (c.read v).under (.key k)
  write a := [(f.preferred, c.write a)]

/-- A field that may be left out or null, and is not written then. -/
def optional (f : Field) (c : Codec α) : Record (Option α) where
  fields := [f]
  read ms :=
    match f.present? ms with
    | none => .ok none
    | some (k, v) => (c.nullable.read v).under (.key k)
  write
    | none => []
    | some a => [(f.preferred, c.write a)]

/-- A field that can have one value only. -/
def constant (f : Field) (value : String) : Record Unit where
  fields := [f]
  read ms :=
    match f.present? ms with
    | none => .ok ()
    | some (k, .str s) => if s = value then .ok () else .refused [⟨[.key k], .notLiteral⟩]
    | some (k, _) => .refused [⟨[.key k], .notLiteral⟩]
  write _ := [(f.preferred, .str value)]

def both (a : Record α) (b : Record β) : Record (α × β) where
  fields := a.fields ++ b.fields
  read ms := .both (a.read ms) (b.read ms)
  write p := a.write p.1 ++ b.write p.2

def iso (f : α → β) (g : β → α) (r : Record α) : Record β where
  fields := r.fields
  read ms := (r.read ms).map f
  write b := r.write (g b)

/-- The keys that the fields have among some members. -/
def keys (fields : List Field) (ms : List (String × Json)) : List String :=
  fields.filterMap fun f => (f.present? ms).map (·.1)

/-- The members that no field accounts for. -/
def extras (fields : List Field) (ms : List (String × Json)) : List (String × Json) :=
  ms.filter fun (k, _) => !(keys fields ms).contains k

/-- No member may be left over. -/
def noExtras (fields : List Field) (ms : List (String × Json)) : Verdict Unit :=
  match extras fields ms with
  | [] => .ok ()
  | more => .refused (more.map fun (k, _) => ⟨[.key k], .extra⟩)

/-- The record as a document of its own: an object without other members. -/
def codec (r : Record α) : Codec α where
  read
    | .obj ms => (Verdict.both (r.read ms) (noExtras r.fields ms)).map Prod.fst
    | _ => .fault .notObject
  write a := .obj (r.write a)

end Record

end LaneDuel.Schema
