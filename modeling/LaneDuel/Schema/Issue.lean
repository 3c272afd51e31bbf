/-
# LaneDuel.Schema.Issue -- what is wrong with a description, and where

Reading a description collects every issue.  An `Issue` has the path that leads
to it, in the keys that the description uses, and a kind.
-/
import LaneDuel.Vocabulary

namespace LaneDuel.Schema

set_option autoImplicit false

/-- A step of a path: a key or a tag, or a position in a list. -/
inductive Step where
  | key (name : String)
  | index (n : Nat)
deriving DecidableEq, Repr

def Step.text : Step → String
  | .key name => name
  | .index n => toString n

inductive IssueKind where
  | missing
  | extra
  | notObject
  | notList
  | notText
  | brokenText
  | textTooShort
  | notMember
  | notLiteral
  | tooSmall
  | notInteger
  | notWhole
  | unreadableInteger
  | integerTooLong
  | notFinite
  | notBoolean
  | unreadableBoolean
deriving DecidableEq, Repr

/-- The name under which a kind of issue is reported. -/
def IssueKind.text : IssueKind → String
  | .missing => "missing"
  | .extra => "extra_forbidden"
  | .notObject => "model_type"
  | .notList => "tuple_type"
  | .notText => "string_type"
  | .brokenText => "string_unicode"
  | .textTooShort => "string_too_short"
  | .notMember => "enum"
  | .notLiteral => "literal_error"
  | .tooSmall => "greater_than_equal"
  | .notInteger => "int_type"
  | .notWhole => "int_from_float"
  | .unreadableInteger => "int_parsing"
  | .integerTooLong => "int_parsing_size"
  | .notFinite => "finite_number"
  | .notBoolean => "bool_type"
  | .unreadableBoolean => "bool_parsing"

structure Issue where
  path : List Step
  kind : IssueKind
deriving DecidableEq, Repr

/-- The issue as seen from one step further out. -/
def Issue.under (step : Step) (i : Issue) : Issue := { i with path := step :: i.path }

/-- What issues are sorted by: the path joined with points, then the kind. -/
def Issue.sortKey (i : Issue) : String × String :=
  (".".intercalate (i.path.map Step.text), i.kind.text)

def Issue.precedes (a b : Issue) : Bool :=
  let (p, k) := a.sortKey
  let (q, l) := b.sortKey
  p < q || (p == q && (k < l || k == l))

/-- Issues in the order of a report. -/
def report (issues : List Issue) : List Issue := issues.mergeSort Issue.precedes

end LaneDuel.Schema
