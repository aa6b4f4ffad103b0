import CodeGraph.Java.Grammar.Stmt

/-!
# Declarations

Type declarations and the members of class, interface, annotation and enum bodies: fields,
methods, constructors, initializer blocks and nested types, with modifiers in any order.
-/

namespace CodeGraph.Java.Productions

open Grammar

def receiverParameter (r : Rules) : Grammar Found := do
  let a ← annotations r
  let b ← r.unannotatedType
  let _ ← many (do let _ ← anyWord; sym ".")
  kw "this"
  return a ++ b

def formalParameter (r : Rules) : Grammar (Param × Found) := do
  let start ← position
  let (_, a) ← modifiers r
  let cs ← if (← position) > start then commentsHere else pure []
  let (b, ty) ← spanned r.unannotatedType
  if ← atSym "..." then
    sym "..."
    let d ← annotations r
    let n ← anyWord
    let c ← declaratorRest r
    return (⟨cs.head?.getD ty.text, none, n, true⟩, a ++ b ++ d ++ c)
  else
    let n ← anyWord
    let (c, ds) ← spanned (dims r <|> pure [])
    return (⟨ty.text, if ds.text.isEmpty then none else some ds.text, n, false⟩, a ++ b ++ c)

def formalParameters (r : Rules) : Grammar (List Param × Found) := do
  sym "("
  let listed : Grammar (List (Param × Found)) := sepBy (formalParameter r) (sym ",")
  let withReceiver : Grammar (List (Param × Found)) := do
    let _ ← receiverParameter r
    (do sym ","; listed) <|> pure []
  let xs ← withReceiver <|> listed
  sym ")"
  return (xs.map (·.1), (xs.map (·.2)).flatten)

def constructorBody (r : Rules) : Grammar (Found × Stretch) := spanned do
  sym "\x7b"
  let call : Grammar Found := do
    let a ← optTypeArguments r
    if (← atWord "this") || (← atWord "super") then advance else refuse
    let b ← arguments r
    sym ";"
    return a ++ b
  let qualified : Grammar Found := do
    if (← wordAt 0).any fun w =>
        statementWords.contains w && !operandWords.contains w && !contextualNames.contains w then
      refuse
    let (a, _) ← operand r true
    sym "."
    let b ← optTypeArguments r
    kw "super"
    let c ← arguments r
    sym ";"
    return a ++ b ++ c
  let a ← call <|> qualified <|> pure []
  let xs ← many r.statement
  sym "\x7d"
  return a ++ xs.flatten

def methodBody (r : Rules) : Grammar (Found × Option String) := do
  if ← atSym ";" then
    sym ";"
    return ([], none)
  else
    let (f, s) ← spanned r.block
    return (f, some s.text)

def methodRest (r : Rules) (start : Nat) (mods : List String) (found : Found) (name : String)
    (result : String) : Grammar Body := do
  let (params, a) ← r.formalParameters
  let b ← dims r <|> pure []
  let c ← throwsClause r <|> pure []
  let (d, body) ← methodBody r
  let s ← stretchFrom start
  return ⟨[.method name params result mods body s.firstLine s.lastLine], found ++ a ++ b ++ c ++ d⟩

def fieldRest (r : Rules) (mods : List String) (found : Found) (type : String) (first : String) :
    Grammar Body := do
  let a ← declaratorRest r
  let more ← many (do sym ","; declarator r)
  sym ";"
  return ⟨[.field type (first :: more.map (·.1)) mods], found ++ a ++ (more.map (·.2)).flatten⟩

def methodOrField (r : Rules) (start : Nat) (mods : List String) (found : Found) : Grammar Body := do
  let (a, ty) ← spanned r.unannotatedType
  let n ← anyWord
  if ← atSym "(" then methodRest r start mods (found ++ a) n ty.text
  else fieldRest r mods (found ++ a) ty.text n

def constructorRest (r : Rules) (start : Nat) (mods : List String) (found : Found) :
    Grammar Body := do
  let _ ← satisfy fun t => t.kind == .word && !t.isPrimitive
  let (params, a) ← r.formalParameters
  let b ← throwsClause r <|> pure []
  let (c, body) ← constructorBody r
  let s ← stretchFrom start
  return ⟨[.constructor params mods body.text s.firstLine s.lastLine], found ++ a ++ b ++ c⟩

def compactConstructorRest (r : Rules) (start : Nat) (mods : List String) (found : Found) :
    Grammar Body := do
  let _ ← satisfy fun t => t.kind == .word && !t.isPrimitive
  if !(← atSym "\x7b") then refuse
  let (a, body) ← spanned r.block
  let s ← stretchFrom start
  return ⟨[.compactConstructor mods body.text s.firstLine s.lastLine], found ++ a⟩

def atTypeKeyword (records : Bool) : Grammar Bool := do
  if (← atWord "class") || (← atWord "interface") || (← atWord "enum") then return true
  if records && (← atWord "record") then return true
  atAnnotationType

def classMember (r : Rules) : Grammar Body := do
  if ← atSym ";" then
    sym ";"
    return ⟨[], []⟩
  if ← atSym "\x7b" then
    let f ← r.block
    return ⟨[.initializer f], f⟩
  if (← atWord "static") && (← symAt 1 "\x7b") then
    kw "static"
    let f ← r.block
    return ⟨[.initializer f], f⟩
  let start ← position
  if ← test (do let _ ← modifiers r; atTypeKeyword true) then
    let d ← r.typeDecl
    return ⟨[d], [d]⟩
  let (mods, a) ← modifiers r
  if ← atSym "<" then
    let b ← typeParameters r
    let generic : Grammar Body := do
      let c ← annotations r
      methodOrField r start mods (a ++ b ++ c)
    constructorRest r start mods (a ++ b) <|> generic
  else
    constructorRest r start mods a <|> compactConstructorRest r start mods a
      <|> methodOrField r start mods a

def classBody (r : Rules) : Grammar Body := do
  sym "\x7b"
  let xs ← many (classMember r)
  sym "\x7d"
  return ⟨(xs.map (·.decls)).flatten, (xs.map (·.found)).flatten⟩

def interfaceMember (r : Rules) : Grammar Body := do
  if ← atSym ";" then
    sym ";"
    return ⟨[], []⟩
  if ← test (do let _ ← modifiers r; atTypeKeyword true) then
    let d ← r.typeDecl
    return ⟨[d], [d]⟩
  let start ← position
  let (mods, a) ← modifiers r
  if ← atSym "<" then
    let b ← typeParameters r
    let c ← annotations r
    let (d, ty) ← spanned r.unannotatedType
    let n ← anyWord
    methodRest r start mods (a ++ b ++ c ++ d) n ty.text
  else methodOrField r start mods a

def interfaceBody (r : Rules) : Grammar Body := do
  sym "\x7b"
  let xs ← many (interfaceMember r)
  sym "\x7d"
  return ⟨(xs.map (·.decls)).flatten, (xs.map (·.found)).flatten⟩

def annotationMember (r : Rules) : Grammar Body := do
  if ← atSym ";" then
    sym ";"
    return ⟨[], []⟩
  if ← test (do let _ ← modifiers r; atTypeKeyword false) then
    let d ← r.typeDecl
    return ⟨[d], [d]⟩
  let start ← position
  let (mods, a) ← modifiers r
  let (b, ty) ← spanned r.unannotatedType
  let n ← anyWord
  if ← atSym "(" then
    sym "("
    sym ")"
    let c ← dims r <|> pure []
    let d ← (do kw "default"; r.elementValue) <|> pure []
    sym ";"
    let s ← stretchFrom start
    return ⟨[.method n [] ty.text mods none s.firstLine s.lastLine], a ++ b ++ c ++ d⟩
  else fieldRest r mods (a ++ b) ty.text n

def annotationBody (r : Rules) : Grammar Body := do
  sym "\x7b"
  let xs ← many (annotationMember r)
  sym "\x7d"
  return ⟨(xs.map (·.decls)).flatten, (xs.map (·.found)).flatten⟩

def enumConstant (r : Rules) : Grammar Found := do
  let (_, a) ← modifiers r
  let _ ← anyWord
  let b ← if ← atSym "(" then arguments r else pure []
  let c ← if ← atSym "\x7b" then Body.found <$> r.classBody else pure []
  return a ++ b ++ c

def enumBody (r : Rules) : Grammar Body := do
  sym "\x7b"
  let cs ← sepBy (enumConstant r) (sym ",")
  let _ ← opt (sym ",")
  let members ← (do sym ";"; many (classMember r)) <|> pure []
  sym "\x7d"
  return ⟨(members.map (·.decls)).flatten, cs.flatten ++ (members.map (·.found)).flatten⟩

def implementsClause (r : Rules) : Grammar (List String × Found) := do
  if ← atWord "implements" then
    kw "implements"
    typeList r
  else return ([], [])

def permitsClause (r : Rules) : Grammar Found := do
  if ← atWord "permits" then
    kw "permits"
    let (_, f) ← typeList r
    return f
  else return []

structure TypeRest where
  kind : Outline.TypeKind
  name : String
  superclass : Option String
  extended : List String
  implemented : List String
  components : Option (List Param)
  body : Body

def typeRest (r : Rules) : Grammar TypeRest := do
  match ← peek with
  | none => refuse
  | some t =>
    if t.isWord "class" then
      kw "class"
      let n ← anyWord
      let _ ← if ← atSym "<" then typeParameters r else pure []
      let sup ← if ← atWord "extends" then do
          kw "extends"
          let cs ← commentsHere
          let (_, s) ← spanned r.type
          pure (some (cs.head?.getD s.text))
        else pure none
      let (impl, _) ← implementsClause r
      let _ ← permitsClause r
      let body ← r.classBody
      return ⟨.classType, n, sup, [], impl, none, body⟩
    else if t.isWord "interface" then
      kw "interface"
      let n ← anyWord
      let _ ← if ← atSym "<" then typeParameters r else pure []
      let (ext, _) ← if ← atWord "extends" then do
          kw "extends"
          typeList r
        else pure ([], [])
      let _ ← permitsClause r
      let body ← interfaceBody r
      return ⟨.interfaceType, n, none, ext, [], none, body⟩
    else if t.isWord "enum" then
      kw "enum"
      let n ← anyWord
      let (impl, _) ← implementsClause r
      let body ← enumBody r
      return ⟨.enumType, n, none, [], impl, none, body⟩
    else if t.isWord "record" then
      kw "record"
      let n ← anyWord
      let _ ← if ← atSym "<" then typeParameters r else pure []
      let (params, _) ← r.formalParameters
      let (impl, _) ← implementsClause r
      let body ← r.classBody
      return ⟨.recordType, n, none, [], impl, some params, body⟩
    else if ← atAnnotationType then
      sym "@"
      kw "interface"
      let n ← anyWord
      let body ← annotationBody r
      return ⟨.annotationType, n, none, [], [], none, body⟩
    else refuse

/-- A type declaration: modifiers, then the rest of it; the declaration spans both. -/
def typeDecl (r : Rules) : Grammar Decl := do
  let start ← position
  let (mods, _) ← modifiers r
  let rest ← typeRest r
  let s ← stretchFrom start
  return .type rest.kind rest.name mods rest.superclass rest.extended rest.implemented
    rest.components rest.body.decls s.firstLine s.lastLine

end CodeGraph.Java.Productions
