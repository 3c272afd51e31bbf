/-
# LaneDuel.Journal.Diary -- the log of the program itself

Separate from the journal of a call: lines that loggers write to a file and to
the console.  Handlers hang on the logger of the game; a record written to it or
to a logger below it reaches every handler whose level it has, if it has the
logger's own level first.

* `Diary.setup` attaches handlers as the settings say and never twice.
* `Diary.emit` writes one record; without a handler nothing is written.
* `Diary.lines?` shows a log file without the times of its records.
-/
import LaneDuel.Loose.Value
import LaneDuel.Settings
import LaneDuel.Text.Lines

namespace LaneDuel.Journal

set_option autoImplicit false

/-! ## Levels -/

/-- The numbers that level names stand for. -/
def levelNumbers : List (String × Int) := [
  ("CRITICAL", 50), ("FATAL", 50), ("ERROR", 40), ("WARN", 30), ("WARNING", 30), ("INFO", 20),
  ("DEBUG", 10), ("NOTSET", 0)]

/-- The name that is shown for a number. -/
def levelName (n : Int) : String :=
  if n = 50 then "CRITICAL" else if n = 40 then "ERROR" else if n = 30 then "WARNING"
  else if n = 20 then "INFO" else if n = 10 then "DEBUG" else if n = 0 then "NOTSET"
  else s!"Level {n}"

/-- The capital of a letter, as far as level names have it: the dotless i and the
long s have ASCII capitals. -/
def capital (c : Char) : Char :=
  if c.toNat = 0x131 then 'I' else if c.toNat = 0x17f then 'S' else c.toUpper

/-- The number of a level by name; unknown names count as INFO. -/
def levelOfName (name : String) : Int :=
  let cs := (Text.trimBy Text.isBlankOrSeparator name.toList).map capital
  (levelNumbers.lookup (String.ofList cs)).getD 20

/-- A level as it was given: a number, or a truth value that counts as one. -/
inductive Threshold where
  | number (n : Int)
  | truth (b : Bool)
deriving DecidableEq, Repr

namespace Threshold

def value : Threshold → Int
  | number n => n
  | truth b => if b then 1 else 0

def toJson : Threshold → Json
  | number n => .int n
  | truth b => .bool b

/-- A level given by number or name; nothing counts as no name. -/
def ofJson : Json → Except Failure Threshold
  | .num (.int n) => .ok (number n)
  | .bool b => .ok (truth b)
  | .str s => .ok (number (levelOfName s))
  | v => if v.truthy then .error .noFields else .ok (number (levelOfName ""))

end Threshold

/-! ## The diary -/

/-- Where a handler writes. -/
inductive Sink where
  | file (place : Place)
  | console
deriving DecidableEq, Repr

structure Handler where
  sink : Sink
  level : Threshold
deriving DecidableEq, Repr

def Handler.name (h : Handler) : String :=
  match h.sink with
  | .file _ => "battler_file"
  | .console => "battler_console"

def Sink.isFile : Sink → Bool
  | .file _ => true
  | .console => false

/-- The game's logger with its handlers, and what has been written so far.  A
level of zero means that of the root logger. -/
structure Diary where
  level : Int
  handlers : List Handler
  files : Files
  console : String

def gameLogger : String := "battler"

def rootLevel : Int := 30

namespace Diary

/-- Nothing has been set up or written yet. -/
def start (files : Files) : Diary := ⟨0, [], files, ""⟩

def effectiveLevel (d : Diary) : Int := if d.level = 0 then rootLevel else d.level

/-- Write a line to one handler's sink. -/
def write (d : Diary) (sink : Sink) (line : String) : Diary :=
  match sink with
  | .file place => { d with files := d.files.append place (line ++ "\n") }
  | .console => { d with console := d.console ++ line ++ "\n" }

/-- The logger of the game or one below it. -/
def concerns (logger : String) : Bool :=
  logger == gameLogger || (gameLogger ++ ".").toList.isPrefixOf logger.toList

/-- A line as handlers write it. -/
def line (logger : String) (level : Int) (message : String) : String :=
  levelName level ++ " " ++ logger ++ " | " ++ message

/-- Write one record. -/
def emit (d : Diary) (logger : String) (level : Int) (message : String) : Diary :=
  if concerns logger && d.effectiveLevel ≤ level then
    d.handlers.foldl (fun d h =>
      if h.level.value ≤ level then d.write h.sink (line logger level message) else d) d
  else d

/-- Attach a handler, or set the level of the one that is there. -/
def attach (d : Diary) (sink : Sink) (level : Threshold) : Diary :=
  if d.handlers.any fun h => h.sink.isFile == sink.isFile then
    { d with handlers := d.handlers.map fun h =>
        if h.sink.isFile == sink.isFile then { h with level } else h }
  else { d with handlers := d.handlers ++ [⟨sink, level⟩] }

/-- What setting up asks for. -/
structure Wish where
  enableFile : Json
  enableConsole : Json
  consoleLevel : Json
  /-- The size at which a log file is full; nothing is never full. -/
  maxBytes : Json

/-- The names of the arguments of setting up. -/
def wishNames : List String :=
  ["enable_file", "enable_console", "console_level", "max_bytes", "backup_count"]

def Wish.ofMembers (ms : List (String × Json)) : Except Failure Wish :=
  if ms.all fun (k, _) => wishNames.contains k then .ok
    { enableFile := (Json.find? ms "enable_file").getD (.bool true)
      enableConsole := (Json.find? ms "enable_console").getD (.bool false)
      consoleLevel := (Json.find? ms "console_level").getD (.str "WARNING")
      maxBytes := (Json.find? ms "max_bytes").getD (.int 1048576) }
  else .error .wrongType

/-- Why a directory cannot be made. -/
def blocked : Astray → Failure
  | .absent => .noSuchName
  | .throughFile => .notDirectory
  | .file => .fileInPlace

/-- Open the log file at a path, after making the directories on the way to it. -/
def openFile (d : Diary) (path : String) (w : Wish) (level : Threshold) : Except Failure Diary := do
  let onTheWay := (Text.pathSteps path).reverse.drop 1
  let files ← (d.files.makeDirectories (Place.start path) onTheWay).mapError blocked
  let _ ← Loose.less (.int 0) w.maxBytes
  let place := Place.ofPath path
  if files.isDirectory place then throw .isDirectory
  return { d with files := files.append place "" }.attach (.file place) level

/-- The file handler; the log file is opened once. -/
def attachFile (d : Diary) (s : Settings) (w : Wish) (level : Threshold) : Except Failure Diary :=
  if d.handlers.any (·.sink.isFile) then .ok (d.attach (.file []) level)
  else d.openFile s.logFile w level

/-- The console handler, if it is wished for. -/
def attachConsole (d : Diary) (w : Wish) : Except Failure Diary :=
  if w.enableConsole.truthy then (Threshold.ofJson w.consoleLevel).map (d.attach .console)
  else .ok d

/-- Set the logger up; answers the diary as it is then, also where it failed. -/
def setup (d : Diary) (s : Settings) (w : Wish) : Diary × Option Failure :=
  let level := if s.debugMode then 10 else levelOfName s.logLevel
  let d := { d with level }
  match if w.enableFile.truthy then d.attachFile s w (.number level) else .ok d with
  | .error f => (d, some f)
  | .ok d =>
    match d.attachConsole w with
    | .error f => (d, some f)
    | .ok d =>
      let file := if w.enableFile.truthy then s.logFile else "None"
      (d.emit gameLogger 10
        ("Logging ready | level=" ++ levelName level ++ " file=" ++ file ++ " console="
          ++ w.enableConsole.plain), none)

/-! ## Reading a log file -/

/-- Whether some text is made like a pattern, in which a zero stands for a digit. -/
def isLike (pattern : String) (cs : List Char) : Bool :=
  let fits := fun (p, c) => if p == '0' then Char.isDigit c else p == c
  cs.length == pattern.length && (pattern.toList.zip cs).all fits

/-- The name of a logger from a word that ends in a line number. -/
def loggerOf? (word : List Char) : Option String :=
  match word.reverse.dropWhile Char.isDigit with
  | ':' :: name =>
    if word.reverse.head?.any Char.isDigit then some (String.ofList name.reverse) else none
  | _ => none

/-- A line without its time and line number, if it has them. -/
def unstamped (s : String) : String :=
  let cs := s.toList
  let isWordEnd := fun c => c != ' '
  let rest := cs.drop 20
  let level := rest.takeWhile isWordEnd
  let afterLevel := (rest.dropWhile isWordEnd).dropWhile (· == ' ')
  match loggerOf? (afterLevel.takeWhile isWordEnd), afterLevel.dropWhile isWordEnd with
  | some logger, ' ' :: '|' :: ' ' :: message =>
    if isLike "0000-00-00 00:00:00 " (cs.take 20) then
      String.ofList level ++ " " ++ logger ++ " | " ++ String.ofList message
    else s
  | _, _ => s

/-- The lines of a log file. -/
def lines? (d : Diary) (path : String) : Except Failure (Option (List String)) :=
  match d.files.look path with
  | .absent => .ok none
  | .directory => .error .isDirectory
  | .bytes content =>
    match String.fromUTF8? content with
    | some text => .ok (some ((Text.lines text).map unstamped))
    | none => .error .notText

def consoleLines (d : Diary) : List String := Text.lines d.console

end Diary

end LaneDuel.Journal
