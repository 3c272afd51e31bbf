/-
# LaneDuel.Command.Arguments -- what the command line asks for

The command line is `[--catalog PATH] [--locale NAME] COMMAND ...`.  Options come
before the command and may be cut short as long as they stay unambiguous; a value
follows its option or an equals sign.  The words after the command are its own.

* `classify` tells words, options and the double dash apart.
* `parse` answers what to run, that help was asked for, or that the line is wrong.
-/
import LaneDuel.Text.Integer

namespace LaneDuel.Command

set_option autoImplicit false

inductive Order where
  | cards
  | show (cardId : Int)
  | validate (path : Option String)
deriving DecidableEq, Repr

/-- What to run, with the options that were given. -/
structure Invocation where
  catalog : Option String
  locale : Option String
  order : Order
deriving DecidableEq, Repr

/-- Why there is nothing to run. -/
inductive Refusal where
  | help
  | misuse
deriving DecidableEq, Repr

/-! ## Words and options -/

/-- What is written into an option: nothing, a value after an equals sign, or
something joined on to a single letter. -/
inductive Written where
  | nothing
  | value (text : String)
  | joined (text : String)
deriving DecidableEq, Repr

/-- A word of the command line.  An option has the spelling it stands for, if it
is known, and what is written into it. -/
inductive Word where
  | plain (text : String)
  | option (name : Option String) (written : Written)
  | dashes
deriving DecidableEq, Repr

/-- The text before the first equals sign and the text after it. -/
def splitAtEquals (s : String) : Option (String × String) :=
  let cs := s.toList
  match cs.dropWhile (· != '=') with
  | [] => none
  | _ :: rest => some (String.ofList (cs.takeWhile (· != '=')), String.ofList rest)

/-- A dash and a decimal number, which may begin with its point. -/
def isNegativeNumber (s : String) : Bool :=
  let isDigit := fun c => (Text.decimalDigit? c).isSome
  let cs := match s.toList.reverse with
    | '\n' :: rest => rest.reverse
    | _ => s.toList
  match cs with
  | '-' :: rest =>
    match rest.dropWhile isDigit with
    | [] => !rest.isEmpty
    | '.' :: fraction => !fraction.isEmpty && fraction.all isDigit
    | _ => false
  | _ => false

/-- The known options that a word may stand for, each with what is written into
it: longer spellings of a word with two dashes, and a single-letter option with
something joined on. -/
def completions (known : List String) (arg : String) : List (String × Written) :=
  match arg.toList with
  | '-' :: '-' :: _ =>
    let (start, written) := match splitAtEquals arg with
      | some (start, value) => (start, Written.value value)
      | none => (arg, .nothing)
    (known.filter fun o => start.toList.isPrefixOf o.toList).map fun o => (o, written)
  | '-' :: c :: rest =>
    known.filterMap fun o =>
      if o == String.ofList ['-', c] then some (o, .joined (String.ofList rest))
      else if arg.toList.isPrefixOf o.toList then some (o, .nothing)
      else none
  | _ => []

/-- What a word is, before any double dash.  An ambiguous option is refused. -/
def classify (known : List String) (arg : String) : Except Refusal Word :=
  if arg == "--" then .ok .dashes
  else if arg.toList.head? != some '-' then .ok (.plain arg)
  else if known.contains arg then .ok (.option (some arg) .nothing)
  else if arg == "-" then .ok (.plain arg)
  else
    match (splitAtEquals arg).filter fun (name, _) => known.contains name with
    | some (name, value) => .ok (.option (some name) (.value value))
    | none =>
      match completions known arg with
      | [(name, written)] => .ok (.option (some name) written)
      | _ :: _ :: _ => .error .misuse
      | [] =>
        if isNegativeNumber arg || arg.toList.contains ' ' then .ok (.plain arg)
        else .ok (.option none .nothing)

/-- What all words are, each with its text; after a double dash all are plain. -/
def classifyAll (known : List String) : List String → Except Refusal (List (Word × String))
  | [] => .ok []
  | arg :: rest => do
    let word ← classify known arg
    let more ← match word with
      | .dashes => pure (rest.map fun a => (Word.plain a, a))
      | _ => classifyAll known rest
    return (word, arg) :: more

/-! ## The words of a command -/

def helpNames : List String := ["-h", "--help"]

/-- An option that asks for help.  It takes no value; but a single letter may be
repeated in what is written into it. -/
def askHelp (name : String) : Written → Refusal
  | .nothing => .help
  | .value text | .joined text =>
    if name == "-h" && text != "" && text.toList.all (· == 'h') then .help else .misuse

/-- The argument of a command: none taken, one integer, or perhaps a path. -/
inductive Wanted where
  | nothing
  | integer
  | path
deriving DecidableEq, Repr

/-- What a command has got so far. -/
inductive Got where
  | waiting (w : Wanted)
  | integer (n : Int)
  | path (p : Option String)
  | nothing
deriving DecidableEq, Repr

def Got.take (text : String) : Wanted → Except Refusal Got
  | .integer =>
    match Text.readInt? text with
    | some n => .ok (.integer n)
    | none => .error .misuse
  | .path => .ok (.path (some text))
  | .nothing => .error .misuse

/-- A double dash goes with the argument it stands beside. -/
def skipDashes : List (Word × String) → List (Word × String)
  | (.dashes, _) :: rest => rest
  | ws => ws

/-- Go through the words of a command; `extra` says that one was left over. -/
def readOrder (fuel : Nat) (got : Got) (extra : Bool) (ws : List (Word × String)) :
    Except Refusal Got :=
  match fuel with
  | 0 => .error .misuse
  | fuel + 1 =>
    match ws, got with
    | [], .waiting .integer => .error .misuse
    | [], .waiting .path => if extra then .error .misuse else .ok (.path none)
    | [], got => if extra then .error .misuse else .ok got
    | (.option (some name) written, _) :: _, _ => .error (askHelp name written)
    | (.option none _, _) :: rest, got => readOrder fuel got true rest
    | (.plain text, _) :: rest, .waiting .integer | (.dashes, _) :: (.plain text, _) :: rest,
        .waiting .integer => do
      readOrder fuel (← Got.take text .integer) extra (skipDashes rest)
    | (.plain text, _) :: rest, .waiting .path | (.dashes, _) :: (.plain text, _) :: rest,
        .waiting .path => do
      readOrder fuel (← Got.take text .path) extra (skipDashes rest)
    | (.dashes, _) :: rest, .waiting .path => readOrder fuel (.path none) extra rest
    | _ :: rest, got => readOrder fuel got true rest

def readWanted (w : Wanted) (args : List String) : Except Refusal Got := do
  let ws ← classifyAll helpNames args
  let got := match w with
    | .nothing => Got.nothing
    | w => .waiting w
  readOrder (ws.length + 1) got false ws

/-- The command of a name, from the words after it. -/
def orderOf (name : String) (args : List String) : Except Refusal Order :=
  match name with
  | "cards" => (readWanted .nothing args).map fun _ => .cards
  | "show" => do
    match ← readWanted .integer args with
    | .integer n => .ok (.show n)
    | _ => .error .misuse
  | "validate" => do
    match ← readWanted .path args with
    | .path p => .ok (.validate p)
    | _ => .error .misuse
  | _ => .error .misuse

/-! ## The whole line -/

def optionNames : List String := helpNames ++ ["--catalog", "--locale"]

/-- A value after an equals sign.  A double dash there is no value, and takes back
one that was given before. -/
def writtenValue (text : String) : String := if text == "--" then "" else text

/-- Options up to the command, then the command.  An option that is not known is
held against the line only when the command has been read. -/
def readLine (catalog locale : Option String) (extra : Bool) :
    List (Word × String) → Except Refusal Invocation
  | [] => .error .misuse
  | (.dashes, _) :: _ => .error .misuse
  | (.plain name, _) :: rest => do
    let order ← orderOf name (rest.map (·.2))
    if extra then .error .misuse else .ok ⟨catalog, locale, order⟩
  | (.option none _, _) :: rest => readLine catalog locale true rest
  | (.option (some "--catalog") (.value value), _) :: rest =>
    readLine (some (writtenValue value)) locale extra rest
  | (.option (some "--locale") (.value value), _) :: rest =>
    readLine catalog (some (writtenValue value)) extra rest
  | (.option (some "--catalog") .nothing, _) :: (.plain value, _) :: rest =>
    readLine (some value) locale extra rest
  | (.option (some "--locale") .nothing, _) :: (.plain value, _) :: rest =>
    readLine catalog (some value) extra rest
  | (.option (some name) written, _) :: _ =>
    .error (if helpNames.contains name then askHelp name written else .misuse)

def parse (args : List String) : Except Refusal Invocation := do
  readLine none none false (← classifyAll optionNames args)

end LaneDuel.Command
