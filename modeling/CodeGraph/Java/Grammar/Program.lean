import CodeGraph.Java.Grammar.Decl

/-!
# Reading a Java file

A file is a sequence of statements and method declarations; of these the outline keeps the
package declarations, the imports and the type declarations. `Rules.upTo` ties the productions together, each level built
only when a construct nests that deep.

When a file is refused, reading stops at the first token that no reading of the file can take;
`Recovery` says on which line the error is reported.
-/

namespace CodeGraph.Java

open Grammar Productions

def Rules.step (lower : Thunk Rules) : Rules where
  annotation := fun inp => Productions.annotation lower.get inp
  type := fun inp => Productions.type lower.get inp
  unannotatedType := fun inp => Productions.unannotatedType lower.get inp
  simpleType := fun inp => Productions.simpleType lower.get inp
  typeArguments := fun inp => Productions.typeArguments lower.get inp
  elementValue := fun inp => Productions.elementValue lower.get inp
  unary := fun lambdas inp => Productions.unary lower.get lambdas inp
  expression := fun inp => Productions.expressionWith lower.get true inp
  arrayInitializer := fun inp => Productions.arrayInitializer lower.get inp
  statement := fun inp => Productions.statement lower.get inp
  block := fun inp => Productions.block lower.get inp
  switchBlock := fun inp => Productions.switchBlock lower.get inp
  formalParameters := fun inp => Productions.formalParameters lower.get inp
  classBody := fun inp => Productions.classBody lower.get inp
  typeDecl := fun inp => Productions.typeDecl lower.get inp

def Rules.upTo : Nat → Rules
  | 0 => Rules.refusing
  | n + 1 => Rules.step (Thunk.mk fun _ => Rules.upTo n)

def topMethod (r : Rules) : Grammar Unit := do
  let start ← position
  let (mods, a) ← modifiers r
  let b ← if ← atSym "<" then (do
      let x ← typeParameters r
      let y ← annotations r
      pure (x ++ y))
    else pure []
  let (c, ty) ← spanned r.unannotatedType
  let n ← anyWord
  let _ ← methodRest r start mods (a ++ b ++ c) n ty.text

def topItem (r : Rules) : Grammar (Option Item) :=
  (do let n ← packageDeclaration r; return some (.packageDecl n))
    <|> (do let (n, s, w) ← importDeclaration; return some (.importDecl n s w))
    <|> (do let d ← r.typeDecl; return some (.decl d))
    <|> (do let _ ← r.statement; return none)
    <|> (do topMethod r; return none)

/-- A whole file: statements up to the last token. -/
def program (r : Rules) : Grammar (List Item) := do
  let xs ← many (topItem r)
  if ← atEnd then return xs.filterMap id else refuse

def nestingFor (n : Nat) : Nat := 8 * n + 64

def readTokens (tokens : Array Token) (source : Array Char) : Except Nat (List Item) :=
  match program (Rules.upTo (nestingFor tokens.size)) ⟨tokens, source⟩ 0 0 with
  | .ok items _ _ => .ok items
  | .fail far => .error far

def reach (tokens : Array Token) (source : Array Char) : Nat :=
  match readTokens tokens source with
  | .ok _ => tokens.size
  | .error i => i

def itemsEnd (tokens : Array Token) (source : Array Char) : Nat :=
  let r := Rules.upTo (nestingFor tokens.size)
  match (do let _ ← many (topItem r); position) ⟨tokens, source⟩ 0 0 with
  | .ok n _ _ => n
  | .fail _ => 0

end CodeGraph.Java
