import CodeGraph.Json.FloatText
import CodeGraph.Text.Escape

/-!
# Errors of JSON reading

A reading error is a message, with the line and column where the reader stood when the text
came from a document (none when the value came without text). `Fault` lists what can be wrong
with the text itself; the other messages say what was found where something else was expected.
-/

namespace CodeGraph.Json

/-- A reading error: its message, and the line and column of the text it happened at. -/
structure Error where
  message : String
  place : Option (Nat × Nat) := none
  deriving Inhabited

def Error.text (e : Error) : String :=
  match e.place with
  | some (l, c) => e.message ++ " at line " ++ toString l ++ " column " ++ toString c
  | none => e.message

inductive Fault where
  | eofList
  | eofObject
  | eofString
  | eofValue
  | expectedColon
  | expectedListCommaOrEnd
  | expectedObjectCommaOrEnd
  | expectedIdent
  | expectedValue
  | invalidEscape
  | invalidNumber
  | numberOutOfRange
  | controlCharacter
  | keyMustBeString
  | loneLeadingSurrogate
  | trailingComma
  | trailingCharacters
  | unexpectedEndOfHexEscape
  | recursionLimit
  deriving Inhabited, BEq

def Fault.message : Fault → String
  | .eofList => "EOF while parsing a list"
  | .eofObject => "EOF while parsing an object"
  | .eofString => "EOF while parsing a string"
  | .eofValue => "EOF while parsing a value"
  | .expectedColon => "expected `:`"
  | .expectedListCommaOrEnd => "expected `,` or `]`"
  | .expectedObjectCommaOrEnd => "expected `,` or `\x7d`"
  | .expectedIdent => "expected ident"
  | .expectedValue => "expected value"
  | .invalidEscape => "invalid escape"
  | .invalidNumber => "invalid number"
  | .numberOutOfRange => "number out of range"
  | .controlCharacter => "control character (\\u0000-\\u001F) found while parsing a string"
  | .keyMustBeString => "key must be a string"
  | .loneLeadingSurrogate => "lone leading surrogate in hex escape"
  | .trailingComma => "trailing comma"
  | .trailingCharacters => "trailing characters"
  | .unexpectedEndOfHexEscape => "unexpected end of hex escape"
  | .recursionLimit => "recursion limit exceeded"

inductive Unexpected where
  | bool (b : Bool)
  | unsigned (n : Nat)
  | signed (n : Int)
  | float (f : Float)
  | str (s : String)
  | null
  | seq
  | map
  | unitVariant

def Unexpected.text : Unexpected → String
  | .bool b => "boolean `" ++ toString b ++ "`"
  | .unsigned n => "integer `" ++ toString n ++ "`"
  | .signed n => "integer `" ++ toString n ++ "`"
  | .float f => "floating point `" ++ ((shortestText f).getD "NaN") ++ "`"
  | .str s => "string " ++ Text.quoteForMessage s
  | .null => "null"
  | .seq => "sequence"
  | .map => "map"
  | .unitVariant => "unit variant"

namespace Error

def plain (message : String) : Error := { message }

def invalidType (u : Unexpected) (expected : String) : Error :=
  plain ("invalid type: " ++ u.text ++ ", expected " ++ expected)

def invalidValue (u : Unexpected) (expected : String) : Error :=
  plain ("invalid value: " ++ u.text ++ ", expected " ++ expected)

def invalidLength (n : Nat) (expected : String) : Error :=
  plain ("invalid length " ++ toString n ++ ", expected " ++ expected)

def missingField (name : String) : Error :=
  plain ("missing field `" ++ name ++ "`")

def duplicateField (name : String) : Error :=
  plain ("duplicate field `" ++ name ++ "`")

def oneOf (names : List String) : String :=
  let q (n : String) := "`" ++ n ++ "`"
  match names with
  | [] => "nothing"
  | [a] => q a
  | [a, b] => q a ++ " or " ++ q b
  | _ => "one of " ++ ", ".intercalate (names.map q)

def unknownVariant (name : String) (variants : List String) : Error :=
  if variants.isEmpty then plain ("unknown variant `" ++ name ++ "`, there are no variants")
  else plain ("unknown variant `" ++ name ++ "`, expected " ++ oneOf variants)

def noVariant (enumName : String) : Error :=
  plain ("data did not match any variant of untagged enum " ++ enumName)

end Error

end CodeGraph.Json
