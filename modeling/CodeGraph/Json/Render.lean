import CodeGraph.Json.Value
import CodeGraph.Json.FloatText
import CodeGraph.Text.Escape

/-!
# Writing JSON text

`Value.compact` writes a value on one line without blanks; `Value.pretty` writes one item or
field per line, indented by two spaces per level, with `": "` after a name. In a string, the
quote and the backslash are escaped, the control characters with a short escape (`\b \t \n \f
\r`) use it and the others `\u00XX` (lowercase hex); every other character is written as is. A
float is written in its shortest form; a float that is not finite is written `null`.
-/

namespace CodeGraph.Json

def escapeJsonChar (c : Char) : String :=
  match c with
  | '"' => "\\\""
  | '\\' => "\\\\"
  | '\n' => "\\n"
  | '\r' => "\\r"
  | '\t' => "\\t"
  | '\x08' => "\\b"
  | '\x0c' => "\\f"
  | _ =>
    if c.toNat < 0x20 then
      let h := Text.hexDigits c.toNat
      "\\u" ++ String.ofList (List.replicate (4 - h.length) '0') ++ h
    else c.toString

def quote (s : String) : String :=
  "\"" ++ String.join (s.toList.map escapeJsonChar) ++ "\""

def Number.text : Number → String
  | .unsigned n => toString n
  | .signed n => toString n
  | .float f => (shortestText f).getD "null"

namespace Value

mutual

def compact : Value → String
  | .null => "null"
  | .bool b => toString b
  | .num n => n.text
  | .str s => quote s
  | .arr xs => "[" ++ ",".intercalate (compactItems xs) ++ "]"
  | .obj fs => "\x7b" ++ ",".intercalate (compactFields fs) ++ "\x7d"

def compactItems : List Value → List String
  | [] => []
  | v :: rest => compact v :: compactItems rest

def compactFields : List (String × Value) → List String
  | [] => []
  | (k, v) :: rest => (quote k ++ ":" ++ compact v) :: compactFields rest

end

def indent (level : Nat) : String :=
  String.ofList (List.replicate (2 * level) ' ')

mutual

def prettyAt (level : Nat) : Value → String
  | .arr [] => "[]"
  | .obj [] => "\x7b\x7d"
  | .arr xs => "[\n" ++ ",\n".intercalate (prettyItems level xs) ++ "\n" ++ indent level ++ "]"
  | .obj fs => "\x7b\n" ++ ",\n".intercalate (prettyFields level fs) ++ "\n" ++ indent level ++ "\x7d"
  | v => compact v

def prettyItems (level : Nat) : List Value → List String
  | [] => []
  | v :: rest => (indent (level + 1) ++ prettyAt (level + 1) v) :: prettyItems level rest

def prettyFields (level : Nat) : List (String × Value) → List String
  | [] => []
  | (k, v) :: rest => (indent (level + 1) ++ quote k ++ ": " ++ prettyAt (level + 1) v) :: prettyFields level rest

end

/-- A value written over lines with two spaces of indentation per level. -/
def pretty (v : Value) : String :=
  prettyAt 0 v

end Value

end CodeGraph.Json
