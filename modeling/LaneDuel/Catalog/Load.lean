/-
# LaneDuel.Catalog.Load -- catalogs from files

A catalog file is a text in UTF-8 that is a document whose root is an object.
Line ends of every kind count as one character in the offsets of problems.  `levels`
of lists and objects in it may be open at once.
-/
import LaneDuel.Catalog.Basic
import LaneDuel.Files
import LaneDuel.Json.Parser

namespace LaneDuel

set_option autoImplicit false

namespace Text

/-- Every line end written as one line feed. -/
def unifyLines : List Char → List Char
  | '\r' :: '\n' :: rest => '\n' :: unifyLines rest
  | '\r' :: rest => '\n' :: unifyLines rest
  | c :: rest => c :: unifyLines rest
  | [] => []

end Text

namespace Catalog

/-- The catalog in the text of a file; `path` is shown in refusals. -/
def ofText (levels : Nat) (path : String) (text : String) : Except Failure Catalog :=
  let cs := Text.unifyLines text.toList
  match Json.parseChars levels cs with
  | .error (.at problem offset) =>
    .error (.game (.catalog (problem.message cs offset) none (some path)))
  | .error (.tooManyDigits count) => .error (.tooManyDigits count)
  | .error .tooDeep => .error .tooDeep
  | .ok (.obj ms) => ofMembers ms
  | .ok _ => .error (.game (.catalog "catalog root must be an object" none (some path)))

/-- The catalog in a file; `path` is shown in refusals. -/
def ofFile (levels : Nat) (path : String) : FileContent → Except Failure Catalog
  | .absent => .error (.game (.catalog ("catalog not found: " ++ path) none (some path)))
  | .directory => .error .isDirectory
  | .bytes content =>
    match String.fromUTF8? content with
    | some text => ofText levels path text
    | none => .error .notText

end Catalog

end LaneDuel
