/-
# LaneDuel.GameError -- errors of the game's own

Each kind of error has a standing text in the phrasebook, used when no message
was given, and keeps what it is about.  The details shown beside the message
leave out what is unknown.
-/
import LaneDuel.Phrasebook.Basic
import LaneDuel.Text.Literal

namespace LaneDuel

set_option autoImplicit false

inductive GameErrorKind where
  | general
  | catalog
  | unknownAtom
  | targetNotFound
  | invalidState
deriving DecidableEq, Repr

instance : Vocabulary GameErrorKind where
  members := [.general, .catalog, .unknownAtom, .targetNotFound, .invalidState]
  word
    | .general => "GameError"
    | .catalog => "CatalogError"
    | .unknownAtom => "UnknownAtomError"
    | .targetNotFound => "TargetNotFoundError"
    | .invalidState => "InvalidStateError"

/-- The key of the standing text. -/
def GameErrorKind.phrase : GameErrorKind → String
  | .general => "exc.game_error"
  | .catalog => "exc.catalog_error"
  | .unknownAtom => "exc.unknown_atom"
  | .targetNotFound => "exc.target_not_found"
  | .invalidState => "exc.invalid_state"

/-- An error with the message it was given, if any, and what it is about. -/
structure GameError where
  kind : GameErrorKind
  message : Option Json
  subject : List (String × Json)

namespace GameError

def catalog (message : String) (cardId : Option Int) (path : Option String) : GameError :=
  ⟨.catalog, some (.str message),
    [("card_id", Json.ofOption Json.int cardId), ("path", Json.ofOption Json.str path)]⟩

def unknownAtom (name : String) : GameError := ⟨.unknownAtom, none, [("atom", .str name)]⟩

def invalidState (message : Option String) (field : String) : GameError :=
  ⟨.invalidState, message.map Json.str, [("field", .str field)]⟩

/-- The arguments that an error of a kind is made from, besides its message. -/
def subjectNames : GameErrorKind → List String
  | .general => ["details"]
  | .catalog => ["card_id", "path"]
  | .unknownAtom => ["atom"]
  | .targetNotFound => ["instance_id"]
  | .invalidState => ["field"]

/-- An error from named arguments.  Other names are refused, and an unknown atom
has to be named. -/
def ofMembers? (kind : GameErrorKind) (ms : List (String × Json)) : Option GameError :=
  let names := subjectNames kind
  if ms.any fun (k, _) => k != "message" && !names.contains k then none
  else if kind == .unknownAtom && (Json.find? ms "atom").isNone then none
  else some ⟨kind, (Json.find? ms "message").filter (!·.isNull),
    names.map fun k => (k, (Json.find? ms k).getD .null)⟩

/-- What the error is about, by name.  A general error is about nothing. -/
def attributes (e : GameError) : List (String × Json) :=
  if e.kind == .general then [] else e.subject

/-- The message in the given phrasebook. -/
def messageIn (e : GameError) (b : Phrasebook) : Json :=
  e.message.getD (.str (b.text e.kind.phrase []))

/-- What is shown beside the message.  A general error shows what it was given;
an unknown atom its name; the others what is known. -/
def details (e : GameError) : Json :=
  match e.kind with
  | .general =>
    let given := (Json.find? e.subject "details").getD .null
    if given.truthy then given else .obj []
  | .unknownAtom => .obj e.subject
  | .catalog => .obj (e.subject.filter fun (k, v) => if k == "path" then v.truthy else !v.isNull)
  | .targetNotFound | .invalidState => .obj (e.subject.filter fun (_, v) => v.truthy)

/-- The message, and the details after it unless there are none.  There is no
text when the message is no text and nothing follows it. -/
def textIn (e : GameError) (b : Phrasebook) : Option String :=
  let message := e.messageIn b
  if e.details.truthy then some (message.plain ++ " | Details: " ++ e.details.plain)
  else match message with
    | .str s => some s
    | _ => none

end GameError

end LaneDuel
