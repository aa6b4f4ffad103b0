/-!
# Quoting text for messages

Diagnostic messages show a text between double quotes with the characters that would not read
well escaped: the usual backslash escapes for NUL, tab, return, newline, backslash and the
quote, and `\u{hex}` for combining marks, control, format, separator and private characters.
-/

namespace CodeGraph.Text

def isCombining (n : Nat) : Bool :=
  (0x300 ≤ n && n ≤ 0x36F) || (0x483 ≤ n && n ≤ 0x489) || (0x591 ≤ n && n ≤ 0x5BD) ||
    (0x610 ≤ n && n ≤ 0x61A) || (0x64B ≤ n && n ≤ 0x65F) || (0x1AB0 ≤ n && n ≤ 0x1AFF) ||
    (0x1DC0 ≤ n && n ≤ 0x1DFF) || n == 0x200C || (0x20D0 ≤ n && n ≤ 0x20FF) ||
    (0xFE00 ≤ n && n ≤ 0xFE0F) || (0xFE20 ≤ n && n ≤ 0xFE2F) || (0xE0100 ≤ n && n ≤ 0xE01EF)

def isShown (n : Nat) : Bool :=
  !(n < 0x20 || (0x7F ≤ n && n ≤ 0x9F) || n == 0xA0 || n == 0xAD || n == 0x1680 ||
    (0x600 ≤ n && n ≤ 0x605) || n == 0x61C || n == 0x6DD || n == 0x70F || n == 0x180E ||
    (0x2000 ≤ n && n ≤ 0x200F) || (0x2028 ≤ n && n ≤ 0x202F) || (0x205F ≤ n && n ≤ 0x206F) ||
    n == 0x3000 || (0xD800 ≤ n && n ≤ 0xF8FF) || n == 0xFEFF || (0xFFF0 ≤ n && n ≤ 0xFFFB) ||
    n == 0xFFFE || n == 0xFFFF || n ≥ 0xF0000 || (0xE0000 ≤ n && n ≤ 0xE00FF))

def hexDigits (n : Nat) : String :=
  String.ofList (Nat.toDigits 16 n)

def escapeChar (c : Char) : String :=
  match c with
  | '\x00' => "\\0"
  | '\t' => "\\t"
  | '\r' => "\\r"
  | '\n' => "\\n"
  | '\\' => "\\\\"
  | '"' => "\\\""
  | _ =>
    if isCombining c.toNat || !isShown c.toNat then "\\u\x7b" ++ hexDigits c.toNat ++ "\x7d"
    else c.toString

/-- A text between double quotes, escaped for a message. -/
def quoteForMessage (s : String) : String :=
  "\"" ++ String.join (s.toList.map escapeChar) ++ "\""

end CodeGraph.Text
