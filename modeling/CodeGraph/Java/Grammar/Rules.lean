import CodeGraph.Java.Grammar.Basic
import CodeGraph.Java.Syntax

/-!
# The productions that refer to each other

Each production is written against a `Rules` record supplying the productions it refers to one
level of nesting down; `Rules.upTo n` ties the knot for `n` levels, so every production is a
plain, total function.
-/

namespace CodeGraph.Java

structure Body where
  decls : List Decl
  found : Found
  deriving Inhabited

inductive Denotation where
  | name
  | field
  | element
  | value
  deriving DecidableEq, Inhabited

def Denotation.assignable : Denotation → Bool
  | .value => false
  | _ => true

/-- The productions that others refer to, each reading one construct and answering the type
declarations found inside it. `unary` takes whether a lambda may start the operand, and answers
what the operand denotes. -/
structure Rules where
  annotation : Grammar Found
  type : Grammar Found
  unannotatedType : Grammar Found
  simpleType : Grammar Found
  typeArguments : Grammar Found
  elementValue : Grammar Found
  unary : Bool → Grammar (Found × Denotation)
  expression : Grammar Found
  arrayInitializer : Grammar Found
  statement : Grammar Found
  block : Grammar Found
  switchBlock : Grammar Found
  formalParameters : Grammar (List Param × Found)
  classBody : Grammar Body
  typeDecl : Grammar Decl

def Rules.refusing : Rules where
  annotation := Grammar.refuse
  type := Grammar.refuse
  unannotatedType := Grammar.refuse
  simpleType := Grammar.refuse
  typeArguments := Grammar.refuse
  elementValue := Grammar.refuse
  unary := fun _ => Grammar.refuse
  expression := Grammar.refuse
  arrayInitializer := Grammar.refuse
  statement := Grammar.refuse
  block := Grammar.refuse
  switchBlock := Grammar.refuse
  formalParameters := Grammar.refuse
  classBody := Grammar.refuse
  typeDecl := Grammar.refuse

def Token.isMemberWord (t : Token) : Bool :=
  t.kind == .word && !(["class", "this", "super", "new"].contains t.text)

def Token.isPrimitive (t : Token) : Bool :=
  t.kind == .word && primitiveTypes.contains t.text

def Token.isModifier (t : Token) : Bool :=
  t.kind == .word && modifierWords.contains t.text

def Token.isLiteral (t : Token) : Bool :=
  t.kind == .number || t.kind == .character || t.kind == .string || t.kind == .unclosed ||
    (t.kind == .word && (t.text == "true" || t.text == "false" || t.text == "null"))

namespace Grammar

def atAnnotationType : Grammar Bool := do
  if !(← atSym "@") then return false
  match ← peekAt 1 with
  | some t => if t.isWord "interface" then joinedAt 1 else return false
  | none => return false

def atAnnotation : Grammar Bool := do
  return (← atSym "@") && !(← atAnnotationType)

def atNonSealed : Grammar Bool := do
  match ← peek, ← peekAt 1, ← peekAt 2 with
  | some a, some b, some c =>
    if a.isWord "non" && b.isSymbol "-" && c.isWord "sealed" then
      return (← joinedAt 1) && (← joinedAt 2)
    else return false
  | _, _, _ => return false

end Grammar

end CodeGraph.Java
