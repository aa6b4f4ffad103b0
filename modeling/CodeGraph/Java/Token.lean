import CodeGraph.Text.Xid

/-!
# Java tokens

The lexer turns source text into words, literals and symbols, skipping blanks and comments.
Literals take the longest match; symbols are taken longest first except `>`, always alone so that
type arguments close one list per `>`; `\{` in a string embeds an expression. A character that
starts no token gives an `invalid` token and lexing stops there.
-/

namespace CodeGraph.Java

inductive TokenKind where
  | word
  | number
  | character
  | string
  | symbol
  | templateHead
  | templateMiddle
  | templateTail
  | unclosed
  | unclosedTail
  | invalid
  deriving DecidableEq, Repr, Inhabited

/-- A token with its place in the source: character indices, its first and last lines, and the
line on which what comes before it ends. -/
structure Token where
  kind : TokenKind
  text : String
  start : Nat
  stop : Nat
  line : Nat
  endLine : Nat
  after : Nat
  deriving Inhabited, Repr

abbrev Matcher := List Char → Option Nat

namespace Matcher

def one (p : Char → Bool) : Matcher
  | c :: _ => if p c then some 1 else none
  | [] => none

def lit (s : String) : Matcher := fun cs =>
  if s.toList.isPrefixOf cs then some s.length else none

def andThen (a b : Matcher) : Matcher := fun cs =>
  match a cs with
  | none => none
  | some n => (b (cs.drop n)).map (n + ·)

def opt (a : Matcher) : Matcher := fun cs => some ((a cs).getD 0)

def longer (a b : Matcher) : Matcher := fun cs =>
  match a cs, b cs with
  | some m, some n => some (max m n)
  | some m, none => some m
  | none, r => r

def longest : List Matcher → Matcher
  | [] => fun _ => none
  | m :: ms => longer m (longest ms)

def runsFrom (p : Char → Bool) (single : Bool) : Nat → List Char → Nat
  | 0, _ => 0
  | fuel + 1, cs =>
    let d := (cs.takeWhile p).length
    if d == 0 then 0
    else
      let rest := cs.drop d
      let u := (rest.takeWhile (· == '_')).length
      if u == 0 || (single && u > 1) then d
      else
        let more := runsFrom p single fuel (rest.drop u)
        if more == 0 then d else d + u + more

def runs (p : Char → Bool) : Matcher := fun cs =>
  let n := runsFrom p true cs.length cs
  if n == 0 then none else some n

def looseRuns (p : Char → Bool) : Matcher := fun cs =>
  let n := runsFrom p false cs.length cs
  if n == 0 then none else some n

end Matcher

open Matcher

def isSpace (c : Char) : Bool :=
  c == ' ' || c == '\t' || c == '\n' || c == '\r' || c == '\x0B' || c == '\x0C'

def isDigit (c : Char) : Bool := '0' ≤ c && c ≤ '9'

def isHexDigit (c : Char) : Bool :=
  isDigit c || ('a' ≤ c && c ≤ 'f') || ('A' ≤ c && c ≤ 'F')

def decimalDigits : Matcher := runs isDigit

def wholeDigits : Matcher
  | '0' :: _ => some 1
  | c :: rest =>
    if '1' ≤ c && c ≤ '9' then
      match rest with
      | '_' :: more => some (1 + ((looseRuns isDigit more).map (1 + ·)).getD 0)
      | _ => some (1 + ((looseRuns isDigit rest).getD 0))
    else none
  | [] => none

def sign : Matcher := opt (one fun c => c == '+' || c == '-')

def exponent : Matcher :=
  andThen (one fun c => c == 'e' || c == 'E') (andThen sign decimalDigits)

def floatSuffix : Matcher := one fun c => c == 'f' || c == 'F' || c == 'd' || c == 'D'

def longSuffix : Matcher := opt (one fun c => c == 'l' || c == 'L')

def radixMark (letter : Char) : Matcher := fun cs =>
  match cs with
  | '0' :: c :: _ => if c.toLower == letter then some 2 else none
  | _ => none

def numberLength : Matcher :=
  longest [
    andThen wholeDigits longSuffix,
    andThen (radixMark 'x') (andThen (runs isHexDigit) longSuffix),
    andThen (longer (radixMark 'o') (lit "0"))
      (andThen (runs fun c => '0' ≤ c && c ≤ '7') longSuffix),
    andThen (radixMark 'b') (andThen (runs fun c => c == '0' || c == '1') longSuffix),
    andThen decimalDigits (andThen (lit ".")
      (andThen (opt decimalDigits) (andThen (opt exponent) (opt floatSuffix)))),
    andThen (lit ".") (andThen decimalDigits (andThen (opt exponent) (opt floatSuffix))),
    andThen wholeDigits (andThen (one fun c => c == 'e' || c == 'E' || c == 'p' || c == 'P')
      (andThen sign (andThen decimalDigits (opt floatSuffix)))),
    andThen wholeDigits (andThen (opt exponent) floatSuffix),
    andThen (radixMark 'x')
      (andThen
        (longer (andThen (runs isHexDigit) (opt (lit ".")))
          (andThen (opt (runs isHexDigit)) (andThen (lit ".") (runs isHexDigit))))
        (opt (andThen (one fun c => c == 'p' || c == 'P')
          (andThen sign (andThen wholeDigits (opt floatSuffix))))))]

def isWordStart (c : Char) : Bool :=
  Text.isXidStart c || c == '_' || c == '$'

def isWordPart (c : Char) : Bool :=
  Text.isXidContinue c || c == '_' || c == '$' || c == '¢'

def longSymbols : List String :=
  ["<<=", "...", "->", "::", "++", "--", "&&", "||", "==", "!=", "<=", "<<", "+=", "-=", "*=",
   "/=", "&=", "|=", "^=", "%="]

def shortSymbols : List Char :=
  ['(', ')', '{', '}', '[', ']', ';', ',', '.', '@', '=', '>', '<', '!', '~', '?', ':', '+', '-',
   '*', '/', '&', '|', '^', '%']

def symbolLength (cs : List Char) : Option Nat :=
  match longSymbols.find? (fun s => s.toList.isPrefixOf cs) with
  | some s => some s.length
  | none =>
    match cs with
    | c :: _ => if shortSymbols.contains c then some 1 else none
    | [] => none

inductive Scan where
  | ok (length : Nat)
  | opens (length : Nat)
  | unclosed (length : Nat)
  | bad (offset : Nat)

def escapeLength : List Char → Option Nat
  | 'x' :: a :: b :: _ => if isHexDigit a && isHexDigit b then some 3 else none
  | 'u' :: '{' :: rest =>
    let d := (rest.takeWhile isHexDigit).length
    if d > 0 && (rest.drop d).head? == some '}' then some (d + 3) else none
  | 'u' :: rest =>
    if (rest.take 4).length == 4 && (rest.take 4).all isHexDigit then some 5 else none
  | c :: rest =>
    if c == 'x' then none
    else if '0' ≤ c && c ≤ '7' then
      some (1 + ((rest.take 2).takeWhile fun d => '0' ≤ d && d ≤ '7').length)
    else some 1
  | [] => none

def stringBody (block : Bool) (close : List Char) : Nat → List Char → Nat → Scan
  | 0, _, offset => .unclosed offset
  | fuel + 1, cs, offset =>
    if close.isPrefixOf cs then .ok (offset + close.length)
    else
      match cs with
      | [] => .unclosed offset
      | '\\' :: '\x7b' :: _ => .opens (offset + 2)
      | '\\' :: rest =>
        match if block then rest.head?.map fun _ => 1 else escapeLength rest with
        | some n => stringBody block close fuel (rest.drop n) (offset + 1 + n)
        | none => .bad offset
      | _ :: rest => stringBody block close fuel rest (offset + 1)

def closingQuotes (block : Bool) : List Char := if block then ['"', '"', '"'] else ['"']

def opensBlock (cs : List Char) : Bool := "\"\"\"".toList.isPrefixOf cs

def stringLength (cs : List Char) : Scan :=
  let block := opensBlock cs
  let quotes := if block then 3 else 1
  stringBody block (closingQuotes block) cs.length (cs.drop quotes) quotes

def charBody : Nat → List Char → Nat → Scan
  | 0, _, offset => .bad offset
  | fuel + 1, cs, offset =>
    match cs with
    | '\'' :: _ => .ok (offset + 1)
    | '\\' :: _ :: rest => charBody fuel rest (offset + 2)
    | c :: rest => if c == '\n' then .bad offset else charBody fuel rest (offset + 1)
    | [] => .bad offset

def charLength (cs : List Char) : Scan :=
  match cs with
  | _ :: '\'' :: _ => .bad 0
  | _ :: rest =>
    match charBody rest.length rest 1 with
    | .ok n => .ok n
    | _ => .bad 0
  | [] => .bad 0

def blockCommentLength (cs : List Char) : Option Nat :=
  let rec go : Nat → List Char → Nat → Option Nat
    | 0, _, _ => none
    | fuel + 1, c :: rest, n =>
      if c == '*' && rest.head? == some '/' then some (n + 2) else go fuel rest (n + 1)
    | _ + 1, [], _ => none
  go cs.length (cs.drop 2) 2

def scanToken (cs : List Char) : Option (TokenKind × Nat) ⊕ Nat :=
  match cs with
  | [] => .inl none
  | c :: rest =>
    if isWordStart c then .inl (some (.word, 1 + (rest.takeWhile isWordPart).length))
    else if isDigit c || (c == '.' && (rest.head?.map isDigit).getD false) then
      match numberLength cs with
      | some n => .inl (some (.number, n))
      | none => .inr 0
    else if c == '"' then
      match stringLength cs with
      | .ok n => .inl (some (.string, n))
      | .opens n => .inl (some (.templateHead, n))
      | .unclosed n => .inl (some (.unclosed, n))
      | .bad k => .inr k
    else if c == '\'' then
      match charLength cs with
      | .ok n => .inl (some (.character, n))
      | _ => .inr 0
    else
      match symbolLength cs with
      | some n => .inl (some (.symbol, n))
      | none => .inr 0

structure Place where
  rest : List Char
  index : Nat
  line : Nat

def Place.skip (p : Place) (n : Nat) : Place :=
  { rest := p.rest.drop n, index := p.index + n, line := p.line + (p.rest.take n).count '\n' }

def Place.token (p : Place) (kind : TokenKind) (n : Nat) (after : Nat) : Token :=
  let q := p.skip n
  { kind, text := String.ofList (p.rest.take n), start := p.index, stop := q.index,
    line := p.line, endLine := q.line, after }

def embedsAfter (kind : TokenKind) (c : Char) (block : Bool) (embeds : List (Nat × Bool)) :
    List (Nat × Bool) :=
  if kind == .templateHead then (0, block) :: embeds
  else
    match embeds with
    | (d, b) :: more =>
      if c == '\x7b' && kind == .symbol then (d + 1, b) :: more
      else if c == '\x7d' && kind == .symbol then (d - 1, b) :: more
      else embeds
    | [] => []

def tokensFrom : Nat → Place → Nat → List (Nat × Bool) → Array Token → Array Token
  | 0, _, _, _, acc => acc
  | fuel + 1, p, after, embeds, acc =>
    match p.rest with
    | [] => acc
    | c :: rest =>
      if isSpace c then tokensFrom fuel (p.skip 1) after embeds acc
      else if c == '/' && rest.head? == some '/' then
        let q := p.skip (p.rest.takeWhile (· != '\n')).length
        tokensFrom fuel q q.line embeds acc
      else if c == '/' && rest.head? == some '*' then
        match blockCommentLength p.rest with
        | some n =>
          let q := p.skip n
          tokensFrom fuel q q.line embeds acc
        | none => acc.push (p.token .invalid 0 after)
      else
        let resumed : Option Scan :=
          match embeds with
          | (0, block) :: _ =>
            if c == '\x7d' then some (stringBody block (closingQuotes block) rest.length rest 1)
            else none
          | _ => none
        match resumed with
        | some (.ok n) =>
          let q := p.skip n
          tokensFrom fuel q q.line embeds.tail (acc.push (p.token .templateTail n after))
        | some (.opens n) =>
          let q := p.skip n
          tokensFrom fuel q q.line embeds (acc.push (p.token .templateMiddle n after))
        | some (.unclosed n) => acc.push (p.token .unclosedTail n after)
        | some (.bad k) =>
          let q := p.skip k
          acc.push (q.token .invalid 0 (if k == 0 then after else q.line))
        | none =>
          match scanToken p.rest with
          | .inl (some (kind, n)) =>
            let q := p.skip n
            tokensFrom fuel q q.line (embedsAfter kind c (opensBlock p.rest) embeds)
              (acc.push (p.token kind n after))
          | .inl none => acc
          | .inr k =>
            let q := p.skip k
            acc.push (q.token .invalid 0 (if k == 0 then after else q.line))

/-- The tokens of a source text. A byte order mark at the very start is skipped. -/
def tokenize (source : String) : Array Token :=
  let cs := source.toList
  let p : Place := ⟨cs, 0, 1⟩
  let p := if cs.head? == some '\uFEFF' then p.skip 1 else p
  tokensFrom (cs.length + 1) p 1 [] #[]

def contextualNames : List String := ["open", "module", "record", "with", "sealed", "yield"]

def primitiveTypes : List String :=
  ["byte", "short", "int", "long", "char", "float", "double", "boolean", "void"]

def modifierWords : List String :=
  ["public", "protected", "private", "abstract", "static", "final", "strictfp", "default",
   "synchronized", "native", "transient", "volatile", "sealed"]

def operandKeywords : List String := ["true", "false", "null", "this", "super", "new", "switch"]

def operandWords : List String := operandKeywords ++ primitiveTypes

def statementWords : List String :=
  ["if", "while", "for", "do", "try", "return", "break", "continue", "throw", "assert", "class",
   "interface", "enum", "package", "import"] ++ modifierWords ++ operandWords ++ contextualNames

def typeDeclarationWords : List String := ["class", "interface", "enum", "record"]

end CodeGraph.Java
