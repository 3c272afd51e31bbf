/-
# LaneDuel.Failure -- why an operation gave no answer

One constructor for each cause, whatever part of the library it arises in.
-/
import LaneDuel.GameError
import LaneDuel.Schema.Issue

namespace LaneDuel

set_option autoImplicit false

inductive Failure where
  /-- A field was asked of a value that has no fields. -/
  | noFields
  /-- A value is of a type that the operation does not take. -/
  | wrongType
  /-- An index points outside a list. -/
  | noSuchIndex
  /-- No card or text has the given name. -/
  | noSuchName
  /-- Bytes are not the encoding of a text. -/
  | notText
  /-- A directory was opened as a file. -/
  | isDirectory
  /-- A file is where a directory is needed. -/
  | fileInPlace
  /-- A path leads through a file. -/
  | notDirectory
  /-- A number is beyond the range of what it is used for. -/
  | outOfRange
  /-- There is no room for a result. -/
  | noRoom
  /-- Values are nested too deeply to be read. -/
  | tooDeep
  /-- Values are nested too deeply to be written. -/
  | tooDeepToWrite
  /-- A settled configuration was written to. -/
  | readOnly
  /-- A word is not in a vocabulary, which is named. -/
  | notMember (vocabulary : String) (value : Json)
  | unsupportedLocale (locale : String)
  /-- An integer is written with too many digits. -/
  | tooManyDigits (count : Nat)
  /-- An integer has too many digits to be written. -/
  | tooLongToWrite
  /-- Fewer than no positions were to be chosen. -/
  | negativeChoice
  /-- A format for values in order is wrong. -/
  | badFormat (message : String)
  /-- A mark closes what was not opened. -/
  | brokenMarkup
  /-- A description does not fit its model. -/
  | misfit (issues : List Schema.Issue)
  /-- An entry of a catalog does not fit its model. -/
  | misfitEntry (cardId : Int) (issues : List Schema.Issue)
  | game (e : GameError)

namespace Failure

/-- The text about an integer that has too many digits to be written. -/
def digitsText : String :=
  "Exceeds the limit (4300 digits) for integer string conversion; "
    ++ "use sys.set_int_max_str_digits() to increase the limit"

/-- The text of a failure that a wrong value caused.  A value that cannot be written
fails once more where it is to be shown. -/
def valueText? : Failure → Option String
  | .notMember vocabulary value => some
      (if value.writable then value.literal ++ " is not a valid " ++ vocabulary else digitsText)
  | .badFormat message => some message
  | .tooDeepToWrite => some "Circular reference detected (depth exceeded)"
  | .unsupportedLocale locale => some ("Unsupported locale: " ++ locale)
  | .tooManyDigits count => some
      ("Exceeds the limit (4300 digits) for integer string conversion: value has "
        ++ toString count ++ " digits; use sys.set_int_max_str_digits() to increase the limit")
  | .tooLongToWrite => some digitsText
  | .negativeChoice => some "Sample larger than population or is negative"
  | _ => none

end Failure

/-- The member that a value spells; any other value is refused by name. -/
def Vocabulary.ofJson {α : Type} [Vocabulary α] (vocabulary : String) (v : Json) :
    Except Failure α :=
  match v with
  | .str s =>
    match Vocabulary.read? s with
    | some a => .ok a
    | none => .error (.notMember vocabulary v)
  | _ => .error (.notMember vocabulary v)

end LaneDuel
