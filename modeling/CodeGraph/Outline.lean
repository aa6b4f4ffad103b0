/-!
# The outline of a source file

What a reader of one source file recovers, whatever the language: its package, its imports and
a tree of declarations. A type declaration holds its members in source order; a method is a
method or a constructor; a field declaration may introduce several names; a `group` is a
container without meaning of its own, such as an initializer block that declares a local type.
-/

namespace CodeGraph.Outline

inductive TypeKind where
  | classType
  | interfaceType
  | enumType
  | recordType
  | annotationType
  deriving DecidableEq, Repr, Inhabited

def TypeKind.name : TypeKind → String
  | .classType => "class"
  | .interfaceType => "interface"
  | .enumType => "enum"
  | .recordType => "record"
  | .annotationType => "annotation"

structure Import where
  path : String
  isStatic : Bool
  isWildcard : Bool
  deriving DecidableEq, Repr, Inhabited

structure Param where
  name : String
  typeName : String
  deriving DecidableEq, Repr, Inhabited

structure MethodDecl where
  name : String
  isConstructor : Bool
  params : List Param
  returnType : Option String
  modifiers : List String
  body : Option String
  startLine : Nat
  endLine : Nat
  deriving DecidableEq, Repr, Inhabited

structure FieldDecl where
  typeName : Option String
  names : List String
  modifiers : List String
  deriving DecidableEq, Repr, Inhabited

structure TypeHeader where
  name : String
  kind : TypeKind
  extended : List String
  implemented : List String
  modifiers : List String
  startLine : Nat
  endLine : Nat
  deriving DecidableEq, Repr, Inhabited

inductive Node where
  | type (header : TypeHeader) (members : List Node)
  | method (decl : MethodDecl)
  | field (decl : FieldDecl)
  | group (children : List Node)
  deriving Repr, Inhabited

/-- Everything recovered from one file. -/
structure Unit where
  package : Option String
  imports : List Import
  nodes : List Node
  deriving Repr, Inhabited

def Unit.empty : Unit := ⟨none, [], []⟩

def typeDecls : List Node → List (TypeHeader × List Node)
  | [] => []
  | .type h ms :: rest => (h, ms) :: typeDecls rest
  | .group cs :: rest => typeDecls cs ++ typeDecls rest
  | _ :: rest => typeDecls rest

end CodeGraph.Outline
