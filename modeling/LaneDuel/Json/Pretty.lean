/-
# LaneDuel.Json.Pretty -- documents for people

Lists and objects that hold something take a line for each item, two more
spaces in for each level.
-/
import LaneDuel.Json.Printer

namespace LaneDuel.Json

set_option autoImplicit false

def indent (depth : Nat) : String := String.ofList (List.replicate (2 * depth) ' ')

/-- Items between brackets, one on each line. -/
def block (depth : Nat) (opening closing : String) (items : List String) : String :=
  if items.isEmpty then opening ++ closing
  else
    opening ++ "\n"
      ++ ",\n".intercalate (items.map fun item => indent (depth + 1) ++ item)
      ++ "\n" ++ indent depth ++ closing

mutual

def pretty (depth : Nat) : Json → String
  | .arr items => block depth "[" "]" (prettyItems (depth + 1) items)
  | .obj ms => block depth "\x7b" "\x7d" (prettyMembers (depth + 1) ms)
  | .null => "null"
  | .bool b => if b then "true" else "false"
  | .num n => n.documentText
  | .str s => renderText s

def prettyItems (depth : Nat) : List Json → List String
  | [] => []
  | v :: rest => pretty depth v :: prettyItems depth rest

def prettyMembers (depth : Nat) : List (String × Json) → List String
  | [] => []
  | (k, v) :: rest => (renderText k ++ ": " ++ pretty depth v) :: prettyMembers depth rest

end

end LaneDuel.Json
