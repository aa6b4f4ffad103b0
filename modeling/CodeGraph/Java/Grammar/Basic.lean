import CodeGraph.Java.Token

/-!
# Grammars over tokens

A `Grammar α` reads tokens from an index and answers a value and the next index, or fails;
alternatives backtrack. Every answer carries the furthest index at which a token was refused,
which is where a refused file's error is reported. A word is a keyword exactly where the keyword
could stand.
-/

namespace CodeGraph.Java

structure Input where
  tokens : Array Token
  source : Array Char

inductive Reply (α : Type) where
  | ok (value : α) (next : Nat) (far : Nat)
  | fail (far : Nat)

/-- A grammar: from an input, a start index and the furthest refusal so far, a reply. -/
def Grammar (α : Type) : Type := Input → Nat → Nat → Reply α

def Token.isSymbol (t : Token) (s : String) : Bool :=
  t.kind == .symbol && t.text == s

def Token.isWord (t : Token) (w : String) : Bool :=
  t.kind == .word && t.text == w

def Input.slice (inp : Input) (a b : Nat) : String :=
  match inp.tokens[a]?, inp.tokens[b - 1]? with
  | some s, some e =>
    if a < b then String.ofList ((inp.source.extract s.start e.stop).toList) else ""
  | _, _ => ""

def Input.lineAt (inp : Input) (a : Nat) : Nat :=
  (inp.tokens[a]?.map Token.line).getD 1

def Input.endLineBefore (inp : Input) (b : Nat) : Nat :=
  (inp.tokens[b - 1]?.map Token.endLine).getD 1

def commentsIn : Nat → List Char → List String
  | 0, _ => []
  | _ + 1, [] => []
  | fuel + 1, c :: rest =>
    if c == '/' && rest.head? == some '/' then
      let text := (c :: rest).takeWhile (· != '\n')
      String.ofList text :: commentsIn fuel ((c :: rest).drop text.length)
    else if c == '/' && rest.head? == some '*' then
      match blockCommentLength (c :: rest) with
      | some n => String.ofList ((c :: rest).take n) :: commentsIn fuel ((c :: rest).drop n)
      | none => [String.ofList (c :: rest)]
    else commentsIn fuel rest

def Input.commentsBefore (inp : Input) (i : Nat) : List String :=
  let start := match i with
    | 0 => 0
    | k + 1 => (inp.tokens[k]?.map Token.stop).getD 0
  let stop := (inp.tokens[i]?.map Token.start).getD inp.source.size
  let gap := (inp.source.extract start stop).toList
  commentsIn gap.length gap

/-- The source text a grammar reads, and the first and last line of it. -/
structure Stretch where
  text : String
  firstLine : Nat
  lastLine : Nat
  deriving Inhabited

namespace Grammar

def bind (p : Grammar α) (f : α → Grammar β) : Grammar β := fun inp pos far =>
  match p inp pos far with
  | .ok a next far' => f a inp next far'
  | .fail far' => .fail far'

instance : Monad Grammar where
  pure a := fun _ pos far => .ok a pos far
  bind := Grammar.bind

def orElse (p : Grammar α) (q : Unit → Grammar α) : Grammar α := fun inp pos far =>
  match p inp pos far with
  | .ok a next far' => .ok a next far'
  | .fail far' => q () inp pos far'

instance : OrElse (Grammar α) := ⟨orElse⟩

def refuse : Grammar α := fun _ pos far => .fail (max far pos)

def position : Grammar Nat := fun _ pos far => .ok pos pos far

def commentsHere : Grammar (List String) := fun inp pos far => .ok (inp.commentsBefore pos) pos far

def peekAt (k : Nat) : Grammar (Option Token) := fun inp pos far =>
  .ok inp.tokens[pos + k]? pos far

def peek : Grammar (Option Token) := peekAt 0

def satisfy (p : Token → Bool) : Grammar Token := fun inp pos far =>
  match inp.tokens[pos]? with
  | some t => if p t then .ok t (pos + 1) far else .fail (max far pos)
  | none => .fail (max far pos)

def nameExcept (keywords : List String) : Grammar String := fun inp pos far =>
  match inp.tokens[pos]? with
  | some t =>
    if t.kind == .word && !keywords.contains t.text then .ok t.text (pos + 1) far
    else .fail (max far pos)
  | none => .fail (max far pos)

def anyWord : Grammar String := nameExcept []

def sym (s : String) : Grammar Unit := do
  let _ ← satisfy (Token.isSymbol · s)

def kw (w : String) : Grammar Unit := do
  let _ ← satisfy (Token.isWord · w)

def atToken (p : Token → Bool) : Grammar Bool := do
  match ← peek with
  | some t => return p t
  | none => return false

def atSym (s : String) : Grammar Bool := atToken (Token.isSymbol · s)

def atWord (w : String) : Grammar Bool := atToken (Token.isWord · w)

def wordAt (k : Nat) : Grammar (Option String) := do
  match ← peekAt k with
  | some t => return if t.kind == .word then some t.text else none
  | none => return none

def atWordIn (ws : List String) : Grammar Bool := do
  match ← wordAt 0 with
  | some w => return ws.contains w
  | none => return false

def symAt (k : Nat) (s : String) : Grammar Bool := do
  match ← peekAt k with
  | some t => return t.isSymbol s
  | none => return false

def joinedAt (k : Nat) : Grammar Bool := fun inp pos far =>
  match inp.tokens[pos + k - 1]?, inp.tokens[pos + k]? with
  | some a, some b => .ok (pos + k > 0 && a.stop == b.start) pos far
  | _, _ => .ok false pos far

def test (p : Grammar Bool) : Grammar Bool := fun inp pos far =>
  match p inp pos far with
  | .ok b _ _ => .ok b pos far
  | .fail _ => .ok false pos far

def advance : Grammar Unit := do
  let _ ← satisfy fun _ => true

def atEnd : Grammar Bool := fun inp pos far => .ok (pos ≥ inp.tokens.size) pos far

def stretchFrom (start : Nat) : Grammar Stretch := fun inp pos far =>
  .ok ⟨inp.slice start pos, inp.lineAt start, inp.endLineBefore pos⟩ pos far

def opt (p : Grammar α) : Grammar (Option α) :=
  (some <$> p) <|> pure none

def manyFrom (p : Grammar α) : Nat → List α → Grammar (List α)
  | 0, acc => pure acc.reverse
  | fuel + 1, acc => fun inp pos far =>
    match p inp pos far with
    | .ok a next far' =>
      if next > pos then manyFrom p fuel (a :: acc) inp next far'
      else .ok (a :: acc).reverse next far'
    | .fail far' => .ok acc.reverse pos far'

def many (p : Grammar α) : Grammar (List α) := fun inp pos far =>
  manyFrom p (inp.tokens.size - pos + 1) [] inp pos far

def manyAtFrom (start : Grammar Bool) (p : Grammar α) : Nat → List α → Grammar (List α)
  | 0, acc => pure acc.reverse
  | fuel + 1, acc => do
    if ← start then
      let a ← p
      manyAtFrom start p fuel (a :: acc)
    else pure acc.reverse

def manyAt (start : Grammar Bool) (p : Grammar α) : Grammar (List α) := fun inp pos far =>
  manyAtFrom start p (inp.tokens.size - pos + 1) [] inp pos far

def many1 (p : Grammar α) : Grammar (List α) := do
  let a ← p
  let rest ← many p
  return a :: rest

def sepBy1 (p : Grammar α) (sep : Grammar Unit) : Grammar (List α) := do
  let a ← p
  let rest ← many (do sep; p)
  return a :: rest

def sepBy (p : Grammar α) (sep : Grammar Unit) : Grammar (List α) :=
  sepBy1 p sep <|> pure []

def joinAll (xs : List (List α)) : List α := xs.flatten

def lookahead (p : Grammar α) : Grammar Bool := fun inp pos far =>
  match p inp pos far with
  | .ok _ _ _ => .ok true pos far
  | .fail _ => .ok false pos far

def spanned (p : Grammar α) : Grammar (α × Stretch) := fun inp pos far =>
  match p inp pos far with
  | .ok a next far' =>
    .ok (a, ⟨inp.slice pos next, inp.lineAt pos, inp.endLineBefore next⟩) next far'
  | .fail far' => .fail far'

end Grammar

end CodeGraph.Java
