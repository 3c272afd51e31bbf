/-
# LaneDuel.Json.Printer -- writing documents

The compact form of a document: no gaps, characters outside ASCII as they are,
quotation marks, backslashes, control characters and lone halves escaped.
-/
import LaneDuel.Json.Basic
import LaneDuel.Text.Literal

namespace LaneDuel.Json

set_option autoImplicit false

/-- One character inside quotation marks. -/
def escapeChar (c : Char) : String :=
  if c = '"' then "\\\""
  else if c = '\\' then "\\\\"
  else if c = '\n' then "\\n"
  else if c = '\r' then "\\r"
  else if c = '\t' then "\\t"
  else if c.toNat < 32 || (Text.halfCode? c).isSome then
    "\\u" ++ Text.hex 4 ((Text.halfCode? c).getD c.toNat)
  else String.singleton c

def renderText (s : String) : String :=
  "\"" ++ String.join (s.toList.map escapeChar) ++ "\""

mutual

/-- The compact form. -/
def render : Json → String
  | .null => "null"
  | .bool true => "true"
  | .bool false => "false"
  | .num n => n.documentText
  | .str s => renderText s
  | .arr items => "[" ++ ",".intercalate (renderItems items) ++ "]"
  | .obj ms => "\x7b" ++ ",".intercalate (renderMembers ms) ++ "\x7d"

def renderItems : List Json → List String
  | [] => []
  | v :: rest => render v :: renderItems rest

def renderMembers : List (String × Json) → List String
  | [] => []
  | (k, v) :: rest => (renderText k ++ ":" ++ render v) :: renderMembers rest

end

end LaneDuel.Json
