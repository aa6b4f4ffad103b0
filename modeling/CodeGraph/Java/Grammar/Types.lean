import CodeGraph.Java.Grammar.Rules

/-!
# Types, annotations and modifiers

Primitive and class types with type arguments, wildcards and array brackets, annotations with
their arguments, and modifiers.
-/

namespace CodeGraph.Java.Productions

open Grammar

def qualifiedName : Grammar Unit := do
  let _ ← anyWord
  let _ ← many (do sym "."; let _ ← anyWord)

def annotations (r : Rules) : Grammar Found := do
  let xs ← many r.annotation
  return xs.flatten

def annotationArguments (r : Rules) : Grammar Found := do
  if ← atSym ")" then return []
  let pairs : Grammar Found := do
    let _ ← nameExcept operandWords
    sym "="
    let x ← r.elementValue
    let xs ← many (do sym ","; let _ ← anyWord; sym "="; r.elementValue)
    return x ++ xs.flatten
  pairs <|> r.elementValue

def annotation (r : Rules) : Grammar Found := do
  if ← atAnnotationType then refuse
  sym "@"
  qualifiedName
  if ← atSym "(" then
    sym "("
    let found ← annotationArguments r
    sym ")"
    return found
  else return []

def elementValue (r : Rules) : Grammar Found := do
  if ← atSym "@" then r.annotation
  else if ← atSym "\x7b" then
    sym "\x7b"
    let xs ← sepBy r.elementValue (sym ",")
    let _ ← opt (sym ",")
    sym "\x7d"
    return xs.flatten
  else r.expression

def optTypeArguments (r : Rules) : Grammar Found := do
  if ← atSym "<" then r.typeArguments else return []

def wildcard (r : Rules) : Grammar Found := do
  let a ← annotations r
  sym "?"
  if (← atWord "extends") || (← atWord "super") then
    advance
    let b ← r.type
    return a ++ b
  else return a

def typeArguments (r : Rules) : Grammar Found := do
  sym "<"
  let xs ← sepBy (wildcard r <|> r.type) (sym ",")
  sym ">"
  return xs.flatten

def classType (r : Rules) : Grammar Found := do
  let _ ← nameExcept primitiveTypes
  let a ← optTypeArguments r
  let rest ← many (do
    sym "."
    let b ← annotations r
    let _ ← satisfy Token.isMemberWord
    let c ← optTypeArguments r
    return b ++ c)
  return a ++ rest.flatten

def simpleType (r : Rules) : Grammar Found := do
  if ← atToken Token.isPrimitive then
    advance
    return []
  else classType r

def dims (r : Rules) : Grammar Found := do
  let xs ← many1 (do
    let a ← annotations r
    sym "["
    sym "]"
    return a)
  return xs.flatten

def unannotatedType (r : Rules) : Grammar Found := do
  let a ← r.simpleType
  let b ← dims r <|> pure []
  return a ++ b

/-- A type, with optional annotations in front. -/
def type (r : Rules) : Grammar Found := do
  let a ← annotations r
  let b ← r.unannotatedType
  return a ++ b

def typeList (r : Rules) : Grammar (List String × Found) := do
  let (a, first) ← spanned r.type
  let more ← many do
    let before ← commentsHere
    sym ","
    let after ← commentsHere
    let (b, t) ← spanned r.type
    return (before ++ after ++ [t.text], b)
  return (first.text :: (more.map (·.1)).flatten, a ++ (more.map (·.2)).flatten)

def typeParameter (r : Rules) : Grammar Found := do
  let a ← annotations r
  let _ ← anyWord
  if ← atWord "extends" then
    kw "extends"
    let b ← r.type
    let more ← many (do sym "&"; r.type)
    return a ++ b ++ more.flatten
  else return a

def typeParameters (r : Rules) : Grammar Found := do
  sym "<"
  let xs ← sepBy1 (typeParameter r) (sym ",")
  sym ">"
  return xs.flatten

def throwsClause (r : Rules) : Grammar Found := do
  kw "throws"
  let xs ← sepBy1 r.type (sym ",")
  return xs.flatten

def modifier (r : Rules) : Grammar (Option String × Found) := do
  if ← atAnnotation then
    let f ← r.annotation
    return (none, f)
  else if ← atNonSealed then
    advance; advance; advance
    return (some "non-sealed", [])
  else
    let t ← satisfy Token.isModifier
    return (some t.text, [])

def modifiers (r : Rules) : Grammar (List String × Found) := do
  let xs ← many (modifier r)
  return (xs.filterMap (·.1), (xs.map (·.2)).flatten)

end CodeGraph.Java.Productions
