import CodeGraph.Java.Grammar.Program

/-!
# Where the error of a refused file is reported

A refused file is mended in thought, the way an error-recovering parser does: at each error a
missing token is inserted, the refused token skipped or the tokens before it dropped, each repair
with a cost, up to three repairs in a row. The cheapest mending wins, and the error is reported
where its first repair starts.
-/

namespace CodeGraph.Java

structure Mark where
  start : Nat
  line : Nat

structure Mending where
  cost : Nat
  marks : List Mark

def missingCandidates : List (TokenKind × String) :=
  [(.word, "x"), (.symbol, ";"), (.symbol, ")"), (.symbol, "]"), (.symbol, "\x7d"), (.symbol, ">"),
   (.symbol, ":")]

def readsWhole (tokens : Array Token) (source : Array Char) : Bool :=
  match readTokens tokens source with
  | .ok _ => true
  | .error _ => false

def insertAt (tokens : Array Token) (i : Nat) (extra : Token) : Array Token :=
  (tokens.extract 0 i).push extra ++ tokens.extract i tokens.size

def dropRange (tokens : Array Token) (j i : Nat) : Array Token :=
  tokens.extract 0 j ++ tokens.extract i tokens.size

def endBefore (tokens : Array Token) : Nat → Nat
  | 0 => 0
  | k + 1 => (tokens[k]?.map Token.stop).getD 0

def coverCost (source : Array Char) (a b : Nat) : Nat :=
  let cs := (source.extract a b).toList
  cs.foldl (fun n c => n + c.utf8Size) 0 + 30 * cs.count '\n'

def missingToken (t : Token) (kind : TokenKind) (text : String) : Token :=
  { t with kind, text, stop := t.start }

def tokensCost (tokens : Array Token) (source : Array Char) (j i : Nat) : Nat :=
  match tokens[j]?, tokens[i - 1]? with
  | some a, some b => coverCost source a.start b.stop
  | _, _ => 0

def Token.closes (t : Token) : Bool :=
  t.isSymbol ")" || t.isSymbol "]" || t.isSymbol "\x7d"

def Token.opens (t : Token) : Bool :=
  t.isSymbol "(" || t.isSymbol "[" || t.isSymbol "\x7b"

def dropPlaces (tokens : Array Token) (i : Nat) : List (Nat × Nat) :=
  let lo := i - min 16 i
  let step (acc : List (Nat × Nat) × Nat × Nat × Bool) (k : Nat) :=
    let (places, depth, parts, finished) := acc
    match tokens[k]? with
    | none => acc
    | some t =>
      let opensBrace := k == 0 || (tokens[k - 1]?.any fun u => u.isSymbol "\x7b")
      if depth > 0 then
        if t.closes then (places, depth + 1, parts, finished)
        else if t.opens then
          if depth == 1 then
            let finished := finished || t.isSymbol "\x7b"
            let place := if !finished || opensBrace then [(k, parts + 1)] else []
            (places ++ place, 0, parts + 1, finished)
          else (places, depth - 1, parts, finished)
        else (places, depth, parts, finished)
      else if t.closes then (places, 1, parts, finished)
      else
        let finished := finished || t.isSymbol ";"
        let place := if !finished || opensBrace then [(k, parts + 1)] else []
        (places ++ place, 0, parts + 1, finished)
  let (places, _, _, _) := ((List.range (i - lo)).map fun d => i - 1 - d).foldl step ([], 0, 0, false)
  places

def withMissing (tokens : Array Token) (source : Array Char) (i : Nat) (t : Token) :
    Option (Array Token) :=
  missingCandidates.findSome? fun (kind, text) =>
    let patched := insertAt tokens i (missingToken t kind text)
    if reach patched source > i + 1 then some patched else none

def swallow (marks : List Mark) (start : Nat) : List Mark :=
  marks.filter (·.start < start)

def Mending.below (cost : Nat) (marks : List Mark) (bound : Nat) : Option Mending :=
  if cost < bound then some ⟨cost, marks⟩ else none

def settle (tokens : Array Token) (endLine i : Nat) (marks : List Mark) (cost bound : Nat) :
    Option Mending :=
  match tokens[i]? with
  | none => Mending.below (cost + 610) (marks ++ [⟨endBefore tokens i, endLine⟩]) bound
  | some t =>
    if t.kind == .invalid then Mending.below cost (marks ++ [⟨t.start, t.line⟩]) bound
    else Mending.below (cost + 100000) (marks ++ [⟨t.start, t.line⟩]) bound

/-- The cheapest mending, below `bound`, of tokens already mended by repairs of cost `cost` that
left the errors `marks`, with at most `rounds` repairs more; `endLine` is the line on which the
last token or comment ends. The repairs are tried from the one furthest on, an earlier one
replacing it only when strictly cheaper. -/
def mend (source : Array Char) (endLine : Nat) :
    Nat → Array Token → List Mark → Nat → Nat → Option Mending
  | 0, tokens, marks, cost, bound =>
    if cost ≥ bound then none
    else
      match readTokens tokens source with
      | .ok _ => some ⟨cost, marks⟩
      | .error i => settle tokens endLine i marks cost bound
  | rounds + 1, tokens, marks, cost, bound =>
    if cost ≥ bound then none
    else
      match readTokens tokens source with
      | .ok _ => some ⟨cost, marks⟩
      | .error i =>
        match tokens[i]? with
        | none => settle tokens endLine i marks cost bound
        | some t =>
          if t.kind == .invalid then settle tokens endLine i marks cost bound
          else
            let skipped := mend source endLine rounds (dropRange tokens i (i + 1))
              (marks ++ [⟨t.start, t.line⟩]) (cost + 600 + tokensCost tokens source i (i + 1)) bound
            let bound := (skipped.map (·.cost)).getD bound
            let missing :=
              if cost + 610 < bound then
                (withMissing tokens source i t).bind fun patched =>
                  mend source endLine rounds patched (marks ++ [⟨endBefore tokens i, t.after⟩])
                    (cost + 610) bound
              else none
            let best := missing.orElse fun _ => skipped
            let bound := (best.map (·.cost)).getD bound
            let place := (dropPlaces tokens i).findSome? fun (j, parts) =>
              let added := 500 + 100 * parts + tokensCost tokens source j i
              if cost + added ≥ bound then none
              else if reach (dropRange tokens j i) source > j then some (j, added) else none
            let dropped := place.bind fun (j, added) =>
              let first := (tokens[j]?).getD t
              mend source endLine rounds (dropRange tokens j i)
                (swallow marks first.start ++ [⟨first.start, first.line⟩]) (cost + added) bound
            dropped.orElse fun _ => best

def errorLine (tokens : Array Token) (source : Array Char) (endLine : Nat) (i : Nat) : Nat :=
  if i ≥ tokens.size && tokens.back?.any fun t => t.kind == .unclosed || t.kind == .unclosedTail
  then (tokens[itemsEnd tokens source]?.map Token.line).getD 1
  else
    let marks := ((mend source endLine 3 tokens [] 0 1000000000).map (·.marks)).getD []
    match marks.foldl (fun best k =>
        match best with
        | some b => if k.start < b.start then some k else some b
        | none => some k) none with
    | some k => k.line
    | none => endLine

def lastLine (source : List Char) (tokens : Array Token) : Nat :=
  let trailing := (source.reverse.dropWhile isSpace).reverse
  let fromText := 1 + trailing.count '\n'
  match tokens.back? with
  | some t => max t.endLine fromText
  | none => fromText

/-- Read a Java source text: its items, or the line of its first syntax error. -/
def readSource (source : String) : Except Nat (List Item) :=
  let tokens := tokenize source
  let chars := source.toList.toArray
  match readTokens tokens chars with
  | .ok items => .ok items
  | .error i => .error (errorLine tokens chars (lastLine source.toList tokens) i)

end CodeGraph.Java
