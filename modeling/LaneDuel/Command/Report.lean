/-
# LaneDuel.Command.Report -- what the commands answer

`cards` lists the entries of a catalog, `show` prints one of them, and `validate`
says whether a catalog loads.  A catalog that does not load is reported with the
exit code 1; of entries that do not fit, only how many issues they have.
-/
import LaneDuel.Command.Arguments
import LaneDuel.Command.Layout
import LaneDuel.Command.Markup
import LaneDuel.Settings

namespace LaneDuel.Command

set_option autoImplicit false

/-- What is printed: lines, a table, or lines and a document. -/
inductive Output where
  | lines (text : List String)
  | table (title : String) (rows : List (List String))
  | document (text : List String) (value : Json)

structure Report where
  exitCode : Nat
  output : Output

/-- A given value; an empty one counts as not given. -/
def nonEmpty (s : Option String) : Option String := s.filter (· != "")

namespace Invocation

/-- The name of the locale to use. -/
def localeName (i : Invocation) (s : Settings) : String := (nonEmpty i.locale).getD s.locale

/-- The file of the catalog; none stands for the bundled catalog. -/
def catalogPath (i : Invocation) (s : Settings) : Option String :=
  let named := (nonEmpty i.catalog).or s.catalogPath
  match i.order with
  | .validate path => (nonEmpty path).or named
  | _ => named

end Invocation

/-- The lines of a marked text. -/
def printed (marked : String) : Except Failure (List String) :=
  (Markup.shown marked).map Layout.printedLines

/-- The message of a catalog that does not load; other failures stay failures. -/
def complaint (b : Phrasebook) : Failure → Except Failure String
  | .misfitEntry _ issues =>
    let n := issues.length
    .ok (toString n ++ if n = 1 then " validation error" else " validation errors")
  | .game e =>
    match e.textIn b with
    | some text => .ok text
    | none => .error .wrongType
  | f => .error f

/-- A catalog that did not load. -/
def refuse (b : Phrasebook) (f : Failure) : Except Failure Report := do
  let message := b.text "cli.invalid" [("error", ← complaint b f)]
  return ⟨1, .lines (← printed ("[red]" ++ Markup.escape message ++ "[/red]"))⟩

/-- The cells of one entry, as marked texts. -/
def cells (id : Int) (e : CardEffect) : List String := [
  toString id, e.name, Vocabulary.word e.kind, Vocabulary.word e.trigger,
  if e.needsTarget then "✓" else "", ", ".intercalate e.atomNames]

def columns : List String :=
  ["cli.col_id", "cli.col_name", "cli.col_kind", "cli.col_trigger", "cli.col_target",
    "cli.col_atoms"]

def reportCards (b : Phrasebook) (c : Catalog) : Except Failure Report := do
  let entries := c.cardIds.filterMap fun id => (c.get? id).map fun e => (id, e)
  let rows := entries.map fun (id, e) => cells id e
  let titles := columns.map fun key => b.text key []
  let table ← (titles :: rows).mapM fun row => row.mapM Markup.shown
  let title ← Markup.shown (b.text "cli.title" [])
  return ⟨0, .table (Layout.trimmed title) (Layout.rows table)⟩

def reportCard (b : Phrasebook) (c : Catalog) (id : Int) : Except Failure Report := do
  match c.get? id with
  | none =>
    let message := b.text "cli.not_found" [("card_id", toString id)]
    return ⟨1, .lines (← printed ("[red]" ++ message ++ "[/red]"))⟩
  | some e =>
    let kind : String := Vocabulary.word e.kind
    let trigger : String := Vocabulary.word e.trigger
    let head ← printed s!"[bold]{id}[/bold] {e.name}  ({kind}, {trigger})"
    let description ←
      if e.description = "" then .ok [] else printed (Markup.escape e.description)
    return ⟨0, .document (head ++ description) (← e.toJson)⟩

/-- The report on a catalog that was loaded, or why it was not. -/
def report (b : Phrasebook) (order : Order) (loaded : Except Failure Catalog) :
    Except Failure Report :=
  match loaded, order with
  | .error f, _ => refuse b f
  | .ok c, .cards => reportCards b c
  | .ok c, .show id => reportCard b c id
  | .ok c, .validate _ => do
    let message := b.text "cli.valid" [("count", toString c.size)]
    return ⟨0, .lines (← printed ("[green]" ++ message ++ "[/green]"))⟩

/-- Carry out an invocation on some files. -/
def run (book : Phrasebook) (s : Settings) (levels : Nat) (files : Files) (i : Invocation) :
    Except Failure Report := do
  let book ← book.use (i.localeName s)
  report book i.order ({ s with catalogPath := i.catalogPath s }.catalog levels files)

end LaneDuel.Command
