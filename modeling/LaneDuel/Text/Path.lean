/-
# LaneDuel.Text.Path -- paths as they are shown

A path is shown without empty and single-dot steps; steps up are kept.  Two
slashes at the beginning stay two.
-/

namespace LaneDuel.Text

set_option autoImplicit false

/-- The steps of a path, without empty and single-dot ones. -/
def pathSteps (path : String) : List String :=
  (path.splitOn "/").filter fun s => s != "" && s != "."

/-- What a path begins with: nothing, one slash, or exactly two. -/
def pathRoot (path : String) : String :=
  match path.toList with
  | '/' :: '/' :: '/' :: _ => "/"
  | '/' :: '/' :: _ => "//"
  | '/' :: _ => "/"
  | _ => ""

def normalPath (path : String) : String :=
  match pathRoot path ++ "/".intercalate (pathSteps path) with
  | "" => "."
  | shown => shown

end LaneDuel.Text
