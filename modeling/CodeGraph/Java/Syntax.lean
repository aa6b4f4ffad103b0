import CodeGraph.Outline

/-!
# Java declarations as written

The grammar keeps of a Java file what its outline needs: the package, the imports and the type
declarations, each with its texts and lines as they stand in the source. Type texts, bodies and
names are exact slices of the source; modifiers are the keyword modifiers in the order written.
An initializer block keeps the type declarations found anywhere inside it (the outermost ones).
-/

namespace CodeGraph.Java

structure Param where
  type : String
  dims : Option String
  name : String
  spread : Bool
  deriving Repr, Inhabited

inductive Decl where
  | type (kind : Outline.TypeKind) (name : String) (modifiers : List String)
      (superclass : Option String) (extended implemented : List String)
      (components : Option (List Param)) (members : List Decl) (firstLine lastLine : Nat)
  | method (name : String) (params : List Param) (result : String) (modifiers : List String)
      (body : Option String) (firstLine lastLine : Nat)
  | constructor (params : List Param) (modifiers : List String) (body : String)
      (firstLine lastLine : Nat)
  | compactConstructor (modifiers : List String) (body : String) (firstLine lastLine : Nat)
  | field (type : String) (names : List String) (modifiers : List String)
  | initializer (locals : List Decl)
  deriving Repr, Inhabited

/-- A statement at the top of a file, as far as the outline needs it. -/
inductive Item where
  | packageDecl (name : String)
  | importDecl (name : String) (isStatic isWildcard : Bool)
  | decl (d : Decl)
  deriving Repr, Inhabited

abbrev Found := List Decl

end CodeGraph.Java
