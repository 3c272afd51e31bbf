/-
# LaneDuel.Phrasebook.Basic -- the texts of messages

Every message has a key; a phrasebook has a table of texts for each locale and
one locale in use.  A key that the table in use lacks, or has as an empty text,
is looked up in the Chinese table; a key unknown there too is shown in brackets.
A text whose gaps cannot all be filled is shown as it stands.
-/
import LaneDuel.Phrasebook.Chinese
import LaneDuel.Phrasebook.English
import LaneDuel.Side
import LaneDuel.Text.Template

namespace LaneDuel

set_option autoImplicit false

inductive Locale where
  | chinese
  | english
deriving DecidableEq, Repr

instance : Vocabulary Locale where
  members := [.chinese, .english]
  word
    | .chinese => "zh_CN"
    | .english => "en_US"

instance : LawfulVocabulary Locale where
  mem_members a := by cases a <;> decide
  word_inj a b := by cases a <;> cases b <;> decide

structure Phrasebook where
  locale : Locale
  chinese : List (String × String)
  english : List (String × String)

namespace Phrasebook

/-- The standing texts, with a locale in use. -/
def standard (locale : Locale) : Phrasebook :=
  ⟨locale, chineseTexts, englishTexts⟩

def table (b : Phrasebook) : Locale → List (String × String)
  | .chinese => b.chinese
  | .english => b.english

def setTable (b : Phrasebook) (l : Locale) (t : List (String × String)) : Phrasebook :=
  match l with
  | .chinese => { b with chinese := t }
  | .english => { b with english := t }

/-- The text of a key before its gaps are filled. -/
def template? (b : Phrasebook) (key : String) : Option String :=
  match (b.table b.locale).lookup key with
  | some "" | none => b.chinese.lookup key
  | some text => some text

/-- The text of a key with values for its gaps. -/
def text (b : Phrasebook) (key : String) (values : List (String × String)) : String :=
  match b.template? key with
  | none => "[" ++ key ++ "]"
  | some template => if values.isEmpty then template else (Text.fill? template values).getD template

/-- The displayed name of a side, given as its word. -/
def sideName (b : Phrasebook) (word : String) : String := b.text ("side." ++ word) []

/-- Take a text out of a table; answers the text. -/
def drop (b : Phrasebook) (l : Locale) (key : String) : Phrasebook × Option String :=
  (b.setTable l ((b.table l).filter (·.1 != key)), (b.table l).lookup key)

/-- Make a text empty. -/
def blank (b : Phrasebook) (l : Locale) (key : String) : Phrasebook :=
  b.setTable l ((b.table l).filter (·.1 != key) ++ [(key, "")])

end Phrasebook

end LaneDuel
