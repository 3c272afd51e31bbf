/-
# LaneDuel.Main -- the command line

Reads the environment and the named catalog file, asks `Command.report` what to
say, and prints it.
-/
import LaneDuel.Command.Report
import LaneDuel.Json.Pretty

namespace LaneDuel.Main

set_option autoImplicit false

/-- The environment variables that the settings read. -/
def variableNames : List String := [
  "BATTLER_LANES", "BATTLER_START_HEALTH", "BATTLER_CATALOG", "BATTLER_LOCALE",
  "BATTLER_LOG_LEVEL", "BATTLER_LOG_FILE", "BATTLER_DEBUG"]

def environment : IO Environment :=
  variableNames.filterMapM fun key => return (← IO.getEnv key).map fun value => (key, value)

/-- What is found at a path on disk. -/
def look (path : String) : IO FileContent := do
  try return .bytes (← IO.FS.readBinFile path)
  catch
    | .noFileOrDirectory .. => return .absent
    | _ => return .directory

/-- How many lists and objects may be open at once in a file. -/
def levels : Nat := 989

/-- The catalog at a path, or the bundled one. -/
def load (path : Option String) : IO (Except Failure Catalog) :=
  match path with
  | none => return .ok .bundled
  | some path => return Catalog.ofFile levels (Text.normalPath path) (← look (Text.normalPath path))

def printRows (rows : List (List String)) : IO Unit :=
  rows.forM fun cells => IO.println (" | ".intercalate cells)

def print (output : Command.Output) : IO Unit :=
  match output with
  | .lines text => text.forM IO.println
  | .table title rows => do
    IO.println title
    printRows rows
  | .document text value => do
    text.forM IO.println
    IO.println (value.pretty 0)

def usage : String :=
  "usage: battler [-h] [--catalog PATH] [--locale NAME] (cards | show ID | validate [PATH])"

/-- The report on an invocation. -/
def answer (s : Settings) (i : Command.Invocation) : IO (Except Failure Command.Report) := do
  match (Phrasebook.standard .chinese).use (i.localeName s) with
  | .error f => return .error f
  | .ok book => return Command.report book i.order (← load (i.catalogPath s))

end LaneDuel.Main

open LaneDuel in
def main (args : List String) : IO UInt32 := do
  match Command.parse args with
  | .error .help =>
    IO.println Main.usage
    return 0
  | .error .misuse =>
    IO.eprintln Main.usage
    return 2
  | .ok invocation =>
    match ← Main.answer (.ofEnvironment (← Main.environment)) invocation with
    | .ok report =>
      Main.print report.output
      return report.exitCode.toUInt32
    | .error f =>
      IO.eprintln (f.valueText?.getD "the catalog cannot be read")
      return 1
