/-
# LaneDuel.Files -- what is found at a path

A tree of files as a value.  A `Place` is a list of steps, the innermost first:
the working directory is the place without steps, the directories above it are
made of steps up, and the root of all is a place of its own.

* `Files.follow` walks a path step by step; every place that it leaves must be a
  directory.
* `Files.look` is what a path leads to.
* `Files.makeDirectories` makes a directory and those on the way to it.
* `Place.ofPath` reads a path without looking at what is there.
-/
import LaneDuel.Text.Path

namespace LaneDuel

set_option autoImplicit false

/-- What a path leads to. -/
inductive FileContent where
  | absent
  | directory
  | bytes (content : ByteArray)

/-- Steps from the working directory or from the root, the innermost first. -/
abbrev Place := List String

namespace Place

/-- The root of all directories; no step is written like it. -/
def root : Place := ["/"]

/-- The directory around a place.  The root is around itself. -/
def up : Place → Place
  | [] => [".."]
  | ["/"] => root
  | ".." :: rest => ".." :: ".." :: rest
  | _ :: rest => rest

def enter (here : Place) (step : String) : Place := if step == ".." then here.up else step :: here

/-- Where a path starts. -/
def start (path : String) : Place := if Text.pathRoot path == "" then [] else root

/-- The place that a path spells. -/
def ofPath (path : String) : Place := (Text.pathSteps path).foldl enter (start path)

end Place

/-- Files with their contents, and directories that were made. -/
structure Files where
  contents : List (Place × ByteArray)
  made : List Place

/-- Why a place was not reached. -/
inductive Astray where
  | absent
  /-- A step leads through a file. -/
  | throughFile
  /-- A file is where a directory should be. -/
  | file
deriving DecidableEq, Repr

namespace Files

/-- The files of a working directory by their paths. -/
def ofList (files : List (String × ByteArray)) : Files :=
  ⟨files.map fun (path, content) => (Place.ofPath path, content), []⟩

def content? (fs : Files) (p : Place) : Option ByteArray := fs.contents.lookup p

/-- Whether a place is a directory.  Directories that hold a file are there. -/
def isDirectory (fs : Files) (p : Place) : Bool :=
  p.all (· == "..") || p == Place.root || fs.made.contains p
    || fs.contents.any fun (q, _) => p != q && p.isSuffixOf q

/-- Why a place is no directory. -/
def astray (fs : Files) (p : Place) : Astray :=
  if (fs.content? p).isSome then .throughFile else .absent

/-- Follow some steps from a place. -/
def follow (fs : Files) : Place → List String → Except Astray Place
  | here, [] => .ok here
  | here, step :: rest =>
    if fs.isDirectory here then fs.follow (here.enter step) rest else .error (fs.astray here)

/-- What a path leads to. -/
def look (fs : Files) (path : String) : FileContent :=
  match fs.follow (Place.start path) (Text.pathSteps path) with
  | .error _ => .absent
  | .ok p =>
    match fs.content? p with
    | some content => .bytes content
    | none => if fs.isDirectory p then .directory else .absent

/-! ## Making -/

/-- Make the directory that some steps, the last one first, lead to.  It may be
there already. -/
def makeDirectory (fs : Files) (start : Place) : List String → Except Astray Files
  | [] => .ok fs
  | last :: before => do
    let here ← fs.follow start before.reverse
    let place := here.enter last
    if !fs.isDirectory here then throw (fs.astray here)
    else if fs.isDirectory place then return fs
    else if (fs.content? place).isSome then throw .file
    else return { fs with made := place :: fs.made }

/-- Make a directory after those that are missing on the way to it. -/
def makeDirectories (fs : Files) (start : Place) : List String → Except Astray Files
  | [] => .ok fs
  | last :: before =>
    match fs.makeDirectory start (last :: before) with
    | .error .absent => do (← fs.makeDirectories start before).makeDirectory start (last :: before)
    | answer => answer

/-- Put a text at the end of a file, which is made where there is none. -/
def append (fs : Files) (p : Place) (text : String) : Files :=
  { fs with contents :=
      (p, (fs.content? p).getD .empty ++ text.toUTF8) :: fs.contents.filter (·.1 != p) }

end Files

end LaneDuel
