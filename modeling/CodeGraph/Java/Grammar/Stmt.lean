import CodeGraph.Java.Grammar.Expr

/-!
# Statements

Blocks, local variables, control statements, labels, expression statements and local
declarations; a `switch` body is all rules or all groups. Every production answers the outermost
type declarations found inside it.
-/

namespace CodeGraph.Java.Productions

open Grammar

def declaratorName (r : Rules) : Grammar Found := do
  let _ ← anyWord
  dims r <|> pure []

def initializerValue (r : Rules) : Grammar Found := do
  if ← atSym "\x7b" then r.arrayInitializer else r.expression

def declaratorRest (r : Rules) : Grammar Found := do
  let a ← dims r <|> pure []
  if ← atSym "=" then
    sym "="
    let b ← initializerValue r
    return a ++ b
  else return a

def declarator (r : Rules) : Grammar (String × Found) := do
  let n ← anyWord
  let f ← declaratorRest r
  return (n, f)

def localVariable (r : Rules) (types : Bool) : Grammar Found := do
  let (_, a) ← modifiers r
  if types && (← atWordIn typeDeclarationWords) then refuse
  let b ← r.unannotatedType
  let xs ← sepBy1 (declarator r) (sym ",")
  sym ";"
  return a ++ b ++ (xs.map (·.2)).flatten

def expressionStatement (r : Rules) : Grammar Found := do
  let f ← r.expression
  sym ";"
  return f

def packageDeclaration (r : Rules) : Grammar String := do
  let _ ← annotations r
  kw "package"
  let (_, s) ← spanned qualifiedName
  sym ";"
  return s.text

def importDeclaration : Grammar (String × Bool × Bool) := do
  kw "import"
  let isStatic ← (do kw "static"; pure true) <|> pure false
  let (_, s) ← spanned qualifiedName
  let wild ← (do sym "."; sym "*"; pure true) <|> pure false
  sym ";"
  return (s.text, isStatic, wild)

def moduleDirective : Grammar Unit := do
  match ← peek with
  | some t =>
    if t.isWord "requires" then
      advance
      let _ ← many (kw "transitive" <|> kw "static")
      qualifiedName
      sym ";"
    else if t.isWord "exports" || t.isWord "opens" then
      advance
      qualifiedName
      if ← atWord "to" then
        kw "to"
        let _ ← sepBy1 qualifiedName (sym ",")
      sym ";"
    else if t.isWord "uses" then
      advance
      qualifiedName
      sym ";"
    else if t.isWord "provides" then
      advance
      qualifiedName
      kw "with"
      let _ ← sepBy1 qualifiedName (sym ",")
      sym ";"
    else refuse
  | none => refuse

def moduleDeclaration (r : Rules) : Grammar Unit := do
  let _ ← annotations r
  let _ ← opt (kw "open")
  kw "module"
  qualifiedName
  sym "\x7b"
  let _ ← many moduleDirective
  sym "\x7d"

def switchLabel (r : Rules) : Grammar Found := do
  if ← atWord "default" then
    kw "default"
    return []
  kw "case"
  let pattern : Grammar Found := recordPattern r <|> typePattern r ["instanceof", "when"]
  let values : Grammar Found := do
    let xs ← sepBy1 (expressionWith r false) (sym ",")
    return xs.flatten
  let a ← pattern <|> values
  if ← atWord "when" then
    kw "when"
    let b ← expressionWith r false
    return a ++ b
  else return a

def switchRule (r : Rules) : Grammar Found := do
  let a ← switchLabel r
  sym "->"
  let b ← do
    if ← atSym "\x7b" then r.block
    else if ← atWord "throw" then
      kw "throw"
      let f ← r.expression
      sym ";"
      pure f
    else expressionStatement r
  return a ++ b

def switchGroup (r : Rules) : Grammar Found := do
  let xs ← many1 (do let f ← switchLabel r; sym ":"; return f)
  let ys ← many (do if ← atWord "case" then refuse else r.statement)
  return xs.flatten ++ ys.flatten

def switchBlock (r : Rules) : Grammar Found := do
  sym "\x7b"
  let asRules : Grammar Found := do
    let xs ← many1 (switchRule r)
    sym "\x7d"
    return xs.flatten
  let asGroups : Grammar Found := do
    let xs ← many (switchGroup r)
    sym "\x7d"
    return xs.flatten
  asRules <|> asGroups

def block (r : Rules) : Grammar Found := do
  sym "\x7b"
  let xs ← many r.statement
  sym "\x7d"
  return xs.flatten

def catchClause (r : Rules) : Grammar Found := do
  kw "catch"
  sym "("
  let (_, a) ← modifiers r
  let b ← sepBy1 r.unannotatedType (sym "|")
  let c ← declaratorName r
  sym ")"
  let d ← r.block
  return a ++ b.flatten ++ c ++ d

def finallyClause (r : Rules) : Grammar Found := do
  kw "finally"
  r.block

def resource (r : Rules) : Grammar Found := do
  let first ← wordAt 0
  let declared : Grammar Found := do
    if first.any (fun w => contextualNames.contains w || operandKeywords.contains w) then refuse
    let (_, a) ← modifiers r
    let b ← r.unannotatedType
    let c ← declaratorName r
    sym "="
    let d ← r.expression
    return a ++ b ++ c ++ d
  let named : Grammar Found := do
    if first.any (fun w => modifierWords.contains w && !contextualNames.contains w) then refuse
    let (f, denoted) ← operand r true
    match denoted with
    | .field => return f
    | .name => if first.any contextualNames.contains then refuse else return f
    | _ => refuse
  declared <|> named

def tryStatement (r : Rules) : Grammar Found := do
  kw "try"
  if ← atSym "(" then
    sym "("
    let rs ← sepBy1 (resource r) (sym ";")
    let _ ← opt (sym ";")
    sym ")"
    let b ← r.block
    let cs ← manyAt (atWord "catch") (catchClause r)
    let f ← if ← atWord "finally" then finallyClause r else pure []
    return rs.flatten ++ b ++ cs.flatten ++ f
  else
    let b ← r.block
    let cs ← manyAt (atWord "catch") (catchClause r)
    let f ← if cs.isEmpty || (← atWord "finally") then finallyClause r else pure []
    return b ++ cs.flatten ++ f

def forStatement (r : Rules) : Grammar Found := do
  kw "for"
  sym "("
  let first ← wordAt 0
  let contextual := first.any fun w => contextualNames.contains w || operandKeywords.contains w
  let modifier := first.any modifierWords.contains && !contextual
  let enhanced : Grammar Found := do
    if contextual then refuse
    let (_, a) ← modifiers r
    let b ← r.unannotatedType
    let c ← declaratorName r
    sym ":"
    let d ← r.expression
    sym ")"
    let e ← r.statement
    return a ++ b ++ c ++ d ++ e
  let classic : Grammar Found := do
    let a ← (do if contextual then refuse else localVariable r false) <|> (do
      if modifier then refuse
      let xs ← sepBy r.expression (sym ",")
      sym ";"
      return xs.flatten)
    let b ← r.expression <|> pure []
    sym ";"
    let c ← sepBy r.expression (sym ",")
    sym ")"
    let d ← r.statement
    return a ++ b ++ c.flatten ++ d
  enhanced <|> classic

def declarationStatement (r : Rules) : Grammar Found :=
  (do let d ← r.typeDecl; return [d]) <|> localVariable r true

def plainStatement (r : Rules) : Grammar Found := do
  let labelled : Grammar Found := do
    if !(← symAt 1 ":") then refuse
    let _ ← nameExcept statementWords
    sym ":"
    r.statement
  labelled <|> localVariable r true <|> expressionStatement r

/-- A statement. -/
def statement (r : Rules) : Grammar Found := do
  match ← peek with
  | none => refuse
  | some t =>
    if t.isSymbol ";" then
      advance
      return []
    else if t.isSymbol "\x7b" then r.block
    else if t.isSymbol "@" then
      declarationStatement r <|> (do let _ ← packageDeclaration r; return [])
        <|> (do moduleDeclaration r; return [])
    else if t.kind != .word then expressionStatement r
    else
      match t.text with
      | "if" => do
        kw "if"
        let a ← parenthesized r
        let b ← r.statement
        let c ← if ← atWord "else" then (do kw "else"; r.statement) else pure []
        return a ++ b ++ c
      | "while" => do
        kw "while"
        let a ← parenthesized r
        let b ← r.statement
        return a ++ b
      | "do" => do
        kw "do"
        let a ← r.statement
        kw "while"
        let b ← parenthesized r
        sym ";"
        return a ++ b
      | "for" => forStatement r
      | "try" => tryStatement r
      | "switch" => do
        kw "switch"
        let a ← parenthesized r
        let b ← r.switchBlock
        return a ++ b
      | "return" => do
        kw "return"
        let a ← r.expression <|> pure []
        sym ";"
        return a
      | "break" => do
        kw "break"
        let _ ← opt anyWord
        sym ";"
        return []
      | "continue" => do
        kw "continue"
        let _ ← opt anyWord
        sym ";"
        return []
      | "throw" => do
        kw "throw"
        let a ← r.expression
        sym ";"
        return a
      | "assert" => do
        kw "assert"
        let a ← r.expression
        let b ← (do sym ":"; r.expression) <|> pure []
        sym ";"
        return a ++ b
      | "synchronized" =>
        if ← symAt 1 "(" then do
          kw "synchronized"
          let a ← parenthesized r
          let b ← r.block
          return a ++ b
        else declarationStatement r
      | "yield" =>
        (do
          kw "yield"
          let a ← r.expression
          sym ";"
          return a) <|> expressionStatement r
      | "package" => do
        let _ ← packageDeclaration r
        return []
      | "import" => do
        let _ ← importDeclaration
        return []
      | "class" | "interface" | "enum" => declarationStatement r
      | "record" | "sealed" => declarationStatement r <|> expressionStatement r
      | "module" | "open" => (do moduleDeclaration r; return []) <|> expressionStatement r
      | "with" | "this" | "super" | "new" | "true" | "false" | "null" => expressionStatement r
      | w =>
        if t.isModifier then declarationStatement r
        else if w == "non" then
          if ← atNonSealed then declarationStatement r else plainStatement r
        else plainStatement r

end CodeGraph.Java.Productions
