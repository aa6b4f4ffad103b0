import CodeGraph.Java.Grammar.Types

/-!
# Expressions

Operands, prefix and postfix operators, casts, lambdas and binary operators, read for their shape
only, so precedence is not needed. Each production answers the type declarations found inside.
-/

namespace CodeGraph.Java.Productions

open Grammar

def arguments (r : Rules) : Grammar Found := do
  sym "("
  let xs ← sepBy r.expression (sym ",")
  sym ")"
  return xs.flatten

def parenthesized (r : Rules) : Grammar Found := do
  sym "("
  let f ← r.expression
  sym ")"
  return f

def lambdaParameters (r : Rules) (typed : Bool) : Grammar Found :=
  (do let _ ← nameExcept operandWords; return [])
    <|> (do
      sym "("
      let _ ← nameExcept (operandWords ++ modifierWords)
      let _ ← many (do sym ","; let _ ← anyWord)
      sym ")"
      return [])
    <|> (do
      if !typed then refuse
      let (_, f) ← r.formalParameters
      return f)

def lambda (r : Rules) (typed : Bool) : Grammar Found := do
  let a ← lambdaParameters r typed
  sym "->"
  let b ← if ← atSym "\x7b" then r.block else r.expression
  return a ++ b

def sizedDims (r : Rules) : Grammar Found := do
  let xs ← many1 (do
    let a ← annotations r
    sym "["
    let e ← r.expression
    sym "]"
    return a ++ e)
  return xs.flatten

def creation (r : Rules) : Grammar Found := do
  kw "new"
  let a ← annotations r
  let targs ← opt r.typeArguments
  let b ← annotations r
  let c ← r.simpleType
  if ← atSym "(" then
    let d ← arguments r
    let e ← if ← atSym "\x7b" then Body.found <$> r.classBody else pure []
    return a ++ targs.getD [] ++ b ++ c ++ d ++ e
  else if targs.isSome then refuse
  else
    let sized : Grammar Found := do
      let d ← sizedDims r
      let e ← dims r <|> pure []
      return d ++ e
    let initialized : Grammar Found := do
      let d ← dims r
      let e ← r.arrayInitializer
      return d ++ e
    let rest ← sized <|> initialized
    return a ++ b ++ c ++ rest

def arrayInitializer (r : Rules) : Grammar Found := do
  sym "\x7b"
  let xs ← sepBy (do if ← atSym "\x7b" then r.arrayInitializer else r.expression) (sym ",")
  let _ ← opt (sym ",")
  sym "\x7d"
  return xs.flatten

def template (r : Rules) : Grammar Found := do
  let _ ← satisfy (·.kind == .templateHead)
  let a ← r.expression
  let xs ← many (do let _ ← satisfy (·.kind == .templateMiddle); r.expression)
  let _ ← satisfy fun t => t.kind == .templateTail || t.kind == .unclosedTail
  return a ++ xs.flatten

def referenceRest (r : Rules) : Grammar Found := do
  sym "::"
  let a ← optTypeArguments r
  if ← atWord "new" then kw "new" else
    let _ ← anyWord
  return a

def selector (r : Rules) : Grammar (Found × Denotation) := do
  if ← atSym "[" then
    sym "["
    let f ← r.expression
    sym "]"
    return (f, .element)
  else if ← atSym "::" then
    let f ← referenceRest r
    return (f, .value)
  else
    sym "."
    match ← peek with
    | some t =>
      if t.isWord "new" then
        let f ← creation r
        return (f, .value)
      else if t.isWord "this" then
        advance
        return ([], .field)
      else if t.isWord "super" then
        advance
        if ← atSym "::" then
          let f ← referenceRest r
          return (f, .value)
        else
          sym "."
          let a ← optTypeArguments r
          let _ ← anyWord
          if ← atSym "(" then
            let b ← arguments r
            return (a ++ b, .value)
          else return (a, .field)
      else if t.isSymbol "<" then
        let a ← r.typeArguments
        let _ ← anyWord
        let b ← arguments r
        return (a ++ b, .value)
      else if t.kind == .string || t.kind == .unclosed then
        advance
        return ([], .value)
      else if t.kind == .templateHead then
        let f ← template r
        return (f, .value)
      else
        let _ ← anyWord
        if ← atSym "(" then
          let f ← arguments r
          return (f, .value)
        else return ([], .field)
    | none => refuse

def primary (r : Rules) (lambdas : Bool) : Grammar (Found × Denotation) := do
  match ← peek with
  | none => refuse
  | some t =>
    if t.isLiteral then
      advance
      return ([], .value)
    else if t.kind == .templateHead then
      let f ← template r
      return (f, .value)
    else if t.isSymbol "(" then
      let first ← wordAt 1
      let contextual := first.any contextualNames.contains
      let modifier := first.any modifierWords.contains && !contextual
      let asLambda : Grammar (Found × Denotation) := do
        if !lambdas then refuse
        let f ← lambda r (!contextual && !(first.any operandKeywords.contains))
        return (f, .value)
      let asParens : Grammar (Found × Denotation) := do
        if modifier then refuse
        let f ← parenthesized r
        return (f, .value)
      asLambda <|> asParens
    else if t.isWord "this" then
      advance
      return ([], .value)
    else if t.isWord "super" then
      advance
      if ← atSym "::" then
        let f ← referenceRest r
        return (f, .value)
      else
        sym "."
        if ← atWord "this" then
          advance
          return ([], .field)
        else
          if ← atWord "super" then
            advance
            sym "."
          let a ← optTypeArguments r
          let _ ← anyWord
          if ← atSym "(" then
            let b ← arguments r
            return (a ++ b, .value)
          else return (a, .field)
    else if t.isWord "new" then
      let f ← creation r
      return (f, .value)
    else if t.isWord "switch" then
      kw "switch"
      let a ← parenthesized r
      let b ← r.switchBlock
      return (a ++ b, .value)
    else if t.kind == .word then
      let asLambda : Grammar (Found × Denotation) := do
        if !lambdas then refuse
        if !(← symAt 1 "->") then refuse
        let f ← lambda r true
        return (f, .value)
      let asType : Grammar (Found × Denotation) := do
        let a ← r.unannotatedType
        if ← atSym "::" then
          let b ← referenceRest r
          return (a ++ b, .value)
        else
          sym "."
          kw "class"
          return (a, .value)
      let asName : Grammar (Found × Denotation) := do
        let _ ← nameExcept operandWords
        if ← atSym "(" then
          let f ← arguments r
          return (f, .value)
        else return ([], .name)
      asLambda <|> asType <|> asName
    else refuse

def operand (r : Rules) (lambdas : Bool) : Grammar (Found × Denotation) := do
  let (a, denoted) ← primary r lambdas
  let xs ← many (selector r)
  let ups ← many (sym "++" <|> sym "--")
  let last := (xs.getLast?.map (·.2)).getD denoted
  return (a ++ (xs.map (·.1)).flatten, if ups.isEmpty then last else .value)

def unary (r : Rules) (lambdas : Bool) : Grammar (Found × Denotation) := do
  match ← peek with
  | none => refuse
  | some t =>
    if t.kind == .symbol && ["+", "-", "!", "~", "++", "--"].contains t.text then
      advance
      let (f, _) ← r.unary lambdas
      return (f, .value)
    else if t.isSymbol "(" then
      let first ← wordAt 1
      let asCast : Grammar (Found × Denotation) := do
        if first.any (fun w => modifierWords.contains w || contextualNames.contains w ||
            operandKeywords.contains w) then refuse
        sym "("
        let a ← r.type
        let more ← many (do sym "&"; r.type)
        sym ")"
        let (b, _) ← r.unary lambdas
        return (a ++ more.flatten ++ b, .value)
      asCast <|> operand r lambdas
    else operand r lambdas

def greaterRun : Grammar (Nat × Bool) := do
  sym ">"
  let second ← do
    if (← atSym ">") && (← joinedAt 0) then
      sym ">"
      if (← atSym ">") && (← joinedAt 0) then
        sym ">"
        pure 3
      else pure 2
    else pure 1
  let eq ← do
    if (← atSym "=") && (← joinedAt 0) then
      sym "="
      pure true
    else pure false
  return (second, eq)

def binarySymbols : List String :=
  ["||", "&&", "|", "^", "&", "==", "!=", "<", "<=", "<<", "+", "-", "*", "/", "%"]

def assignmentSymbols : List String :=
  ["=", "+=", "-=", "*=", "/=", "&=", "|=", "^=", "%=", "<<="]

def binaryOperator : Grammar Unit := do
  if ← atSym ">" then
    let (n, eq) ← greaterRun
    if eq && n > 1 then refuse
  else
    let _ ← satisfy fun t => t.kind == .symbol && binarySymbols.contains t.text

def assignmentOperator : Grammar Unit := do
  if ← atSym ">" then
    let (n, eq) ← greaterRun
    if !(eq && n > 1) then refuse
  else
    let _ ← satisfy fun t => t.kind == .symbol && assignmentSymbols.contains t.text

def typePattern (r : Rules) (follow : List String) : Grammar Found := do
  let f ← r.unannotatedType
  let _ ← nameExcept follow
  return f

def recordPatternFrom (r : Rules) : Nat → Grammar Found
  | 0 => refuse
  | fuel + 1 => do
    let head : Grammar Found := do
      let _ ← nameExcept primitiveTypes
      r.typeArguments
    let a ← head <|> (do let _ ← nameExcept operandWords; return [])
    sym "("
    let component : Grammar Found := do
      if ← atWord "_" then
        kw "_"
        return []
      else recordPatternFrom r fuel <|> typePattern r []
    let xs ← sepBy component (sym ",")
    sym ")"
    return a ++ xs.flatten

def recordPattern (r : Rules) : Grammar Found := fun inp pos far =>
  recordPatternFrom r (inp.tokens.size - pos + 1) inp pos far

def instanceofRest (r : Rules) : Grammar Found := do
  kw "instanceof"
  let _ ← opt (kw "final")
  let asType : Grammar Found := do
    let f ← r.type
    let _ ← opt (nameExcept ["instanceof"])
    return f
  recordPattern r <|> asType

/-- An expression, operands starting lambdas or not. -/
def expressionWith (r : Rules) (lambdas : Bool) : Grammar Found := do
  let (a, denoted) ← r.unary lambdas
  let assigned : Grammar Found := do
    if !denoted.assignable then refuse
    assignmentOperator
    r.expression
  let operated : Grammar Found := do
    let more ← many ((do binaryOperator; let (f, _) ← r.unary lambdas; return f)
      <|> instanceofRest r)
    let cond ← (do
        sym "?"
        let x ← r.expression
        sym ":"
        let y ← if lambdas then r.expression else expressionWithout r
        return x ++ y)
      <|> pure []
    return more.flatten ++ cond
  let b ← assigned <|> operated
  return a ++ b
where
  expressionWithout (r : Rules) : Grammar Found := do
    let (a, _) ← r.unary false
    let more ← many ((do binaryOperator; let (f, _) ← r.unary false; return f) <|> instanceofRest r)
    return a ++ more.flatten

end CodeGraph.Java.Productions
