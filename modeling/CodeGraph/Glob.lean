/-!
# Glob patterns over paths

A glob is read into tokens and matched against the UTF-8 bytes of a whole `/`-separated path:
`?`, `*`, `**` as a whole segment, classes `[...]`, alternatives `{a,b}` and backslash escapes.
A glob that does not read (a class or group left open, a backwards range, a trailing backslash)
is refused.
-/

namespace CodeGraph.Glob

inductive Token where
  | literal (bytes : List UInt8)
  | any
  | star
  | anyPrefix
  | anySuffix
  | anyMiddle
  | oneOf (negated : Bool) (items : List (UInt8 × UInt8))
  | choice (alternatives : List (List Token))
  deriving Inhabited, Repr

inductive Refusal where
  | unclosedClass
  | invalidRange
  | unopenedGroup
  | unclosedGroup
  | danglingEscape
  deriving DecidableEq, Inhabited, Repr

def charBytes (c : Char) : List UInt8 := c.toString.toUTF8.toList

def rangeItems (lo hi : Char) : List (UInt8 × UInt8) :=
  if lo == hi then (charBytes lo).map fun b => (b, b)
  else
    let a := charBytes lo
    let b := charBytes hi
    (a.dropLast.map fun x => (x, x)) ++ [(a.getLast?.getD 0, b.headD 0)] ++
      ((b.drop 1).map fun x => (x, x))

structure Reading where
  outer : List Token
  groups : List (List (List Token))
  deriving Inhabited

namespace Reading

def hasTokens (r : Reading) : Bool :=
  match r.groups with
  | (cur :: _) :: _ => !cur.isEmpty
  | [] :: _ => false
  | [] => !r.outer.isEmpty

def push (r : Reading) (t : Token) : Reading :=
  match r.groups with
  | (cur :: alts) :: gs => { r with groups := ((t :: cur) :: alts) :: gs }
  | [] :: gs => { r with groups := [[t]] :: gs }
  | [] => { r with outer := t :: r.outer }

def pop (r : Reading) : Option Token × Reading :=
  match r.groups with
  | ((t :: cur) :: alts) :: gs => (some t, { r with groups := (cur :: alts) :: gs })
  | _ :: _ => (none, r)
  | [] =>
    match r.outer with
    | t :: ts => (some t, { r with outer := ts })
    | [] => (none, r)

def inGroup (r : Reading) : Bool := !r.groups.isEmpty

def openGroup (r : Reading) : Reading := { r with groups := [[]] :: r.groups }

def nextAlternative (r : Reading) : Option Reading :=
  match r.groups with
  | alts :: gs => some { r with groups := ([] :: alts) :: gs }
  | [] => none

def closeGroup (r : Reading) : Option Reading :=
  match r.groups with
  | alts :: gs => some ({ r with groups := gs }.push (.choice ((alts.map List.reverse).reverse)))
  | [] => none

end Reading

def readClass (cs : List Char) : Except Refusal (Token × List Char) :=
  let (negated, cs) := match cs with
    | '!' :: rest => (true, rest)
    | '^' :: rest => (true, rest)
    | _ => (false, cs)
  let rec go : List Char → Bool → Bool → List (Char × Char) →
      Except Refusal (List (Char × Char) × List Char)
    | [], _, _, _ => .error .unclosedClass
    | ']' :: rest, first, inRange, acc =>
      if first then go rest false false ((']', ']') :: acc)
      else .ok ((if inRange then ('-', '-') :: acc else acc).reverse, rest)
    | '-' :: rest, first, inRange, acc =>
      if first then go rest false false (('-', '-') :: acc)
      else if inRange then
        match acc with
        | (lo, _) :: more => if '-' < lo then .error .invalidRange else go rest false false ((lo, '-') :: more)
        | [] => go rest false false acc
      else go rest false true acc
    | c :: rest, _, inRange, acc =>
      if inRange then
        match acc with
        | (lo, _) :: more => if c < lo then .error .invalidRange else go rest false false ((lo, c) :: more)
        | [] => go rest false false ((c, c) :: acc)
      else go rest false false ((c, c) :: acc)
  do
    let (ranges, rest) ← go cs true false []
    return (.oneOf negated (ranges.flatMap fun (lo, hi) => rangeItems lo hi), rest)

def readStar (r : Reading) (prev : Option Char) (cs : List Char) : Reading × List Char :=
  match cs with
  | '*' :: cs =>
    let twoStars := ((r.push .star).push .star, cs)
    if !r.hasTokens then
      match cs with
      | [] => (r.push .anyPrefix, [])
      | '/' :: rest => (r.push .anyPrefix, rest)
      | _ => twoStars
    else if prev != some '/' && (!r.inGroup || (prev != some ',' && prev != some '\x7b')) then
      twoStars
    else
      let suffix : Option (Bool × List Char) := match cs with
        | [] => some (true, [])
        | ',' :: _ => if r.inGroup then some (true, cs) else none
        | '\x7d' :: _ => if r.inGroup then some (true, cs) else none
        | '/' :: rest => some (false, rest)
        | _ => none
      match suffix with
      | none => twoStars
      | some (isSuffix, rest) =>
        match r.pop with
        | (some .anyPrefix, r') => (r'.push .anyPrefix, rest)
        | (some .anySuffix, r') => (r'.push .anySuffix, rest)
        | (_, r') => (r'.push (if isSuffix then .anySuffix else .anyMiddle), rest)
  | _ => (r.push .star, cs)

def readFrom (openClass : Bool) : Nat → Reading → Option Char → List Char →
    Except Refusal (List Token)
  | 0, _, _, _ => .error .unclosedGroup
  | _ + 1, r, _, [] =>
    if r.inGroup then .error .unclosedGroup else .ok r.outer.reverse
  | n + 1, r, prev, c :: cs =>
    match c with
    | '?' => readFrom openClass n (r.push .any) (some c) cs
    | '*' =>
      let (r', rest) := readStar r prev cs
      readFrom openClass n r' (some '*') rest
    | '[' =>
      match readClass cs with
      | .error .unclosedClass =>
        if openClass then readFrom openClass n (r.push (.literal (charBytes c))) (some c) cs
        else .error .unclosedClass
      | .error e => .error e
      | .ok (t, rest) => readFrom openClass n (r.push t) (some ']') rest
    | '\x7b' => readFrom openClass n r.openGroup (some c) cs
    | '\x7d' =>
      match r.closeGroup with
      | none => .error .unopenedGroup
      | some r' => readFrom openClass n r' (some c) cs
    | ',' =>
      match r.nextAlternative with
      | some r' => readFrom openClass n r' (some c) cs
      | none => readFrom openClass n (r.push (.literal (charBytes c))) (some c) cs
    | '\\' =>
      match cs with
      | [] => .error .danglingEscape
      | d :: rest => readFrom openClass n (r.push (.literal (charBytes d))) (some d) rest
    | _ => readFrom openClass n (r.push (.literal (charBytes c))) (some c) cs

/-- Read a glob into tokens; with `openClass` a `[` that no `]` closes is plain. -/
def parse (openClass : Bool) (glob : String) : Except Refusal (List Token) :=
  readFrom openClass (glob.length + 1) ⟨[], []⟩ none glob.toList

mutual

def expand : List Token → List (List Token)
  | [] => [[]]
  | .choice alts :: rest =>
    let tails := expand rest
    match choices alts with
    | [] => tails
    | live => live.flatMap fun alt => tails.map fun tail => alt ++ tail
  | t :: rest => (expand rest).map (t :: ·)

def choices : List (List Token) → List (List Token)
  | [] => []
  | alt :: alts => (expand alt).filter (!·.isEmpty) ++ choices alts

end

def inClass (items : List (UInt8 × UInt8)) (b : UInt8) : Bool :=
  items.any fun (lo, hi) => lo ≤ b && b ≤ hi

def slash : UInt8 := 47

def matchFlat : List Token → List UInt8 → Bool
  | [], bs => bs.isEmpty
  | .literal xs :: ts, bs => xs.isPrefixOf bs && matchFlat ts (bs.drop xs.length)
  | .any :: ts, b :: bs => b != slash && matchFlat ts bs
  | .any :: _, [] => false
  | .oneOf neg items :: ts, b :: bs => (inClass items b != neg) && matchFlat ts bs
  | .oneOf _ _ :: _, [] => false
  | .star :: ts, bs =>
    let run := (bs.takeWhile (· != slash)).length
    (List.range (run + 1)).any fun k => matchFlat ts (bs.drop k)
  | .anyPrefix :: ts, bs =>
    matchFlat ts bs || (List.range bs.length).any fun i =>
      bs[i]? == some slash && matchFlat ts (bs.drop (i + 1))
  | .anySuffix :: ts, b :: bs => b == slash && (List.range (bs.length + 1)).any fun k => matchFlat ts (bs.drop k)
  | .anySuffix :: _, [] => false
  | .anyMiddle :: ts, b :: bs =>
    b == slash && (matchFlat ts bs || (List.range bs.length).any fun i =>
      bs[i]? == some slash && matchFlat ts (bs.drop (i + 1)))
  | .anyMiddle :: _, [] => false
  | .choice _ :: _, _ => false

/-- Whether a glob read into tokens matches a whole path. -/
def accepts (tokens : List Token) (path : String) : Bool :=
  let bytes := path.toUTF8.toList
  match tokens with
  | [.anyPrefix] => true
  | _ => (expand tokens).any fun flat => matchFlat flat bytes

end CodeGraph.Glob
