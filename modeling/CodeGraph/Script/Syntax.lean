/-!
# Shell scripts: syntax

A small part of the POSIX shell language: simple commands of words and redirections, joined into
pipelines and lists, enough for the one-line programs that stand in for a semantic reader.
-/

namespace CodeGraph.Script

inductive Piece where
  | text (s : String) (quoted : Bool)
  | param (name : String) (quoted : Bool)
  | command (source : String) (quoted : Bool)
  deriving Inhabited, Repr, BEq

abbrev Word := List Piece

inductive Sink where
  | output (fd : Nat)
  | file (path : Word) (append : Bool)
  deriving Inhabited, Repr

inductive Redirect where
  | send (fd : Nat) (sink : Sink)
  | read (path : Word)
  | here (body : String) (expand : Bool)
  deriving Inhabited, Repr

structure Simple where
  line : Nat
  words : List Word := []
  redirects : List Redirect := []
  deriving Inhabited, Repr

inductive Link where
  | always
  | onSuccess
  | onFailure
  deriving DecidableEq, Inhabited, Repr

structure Step where
  link : Link
  pipeline : List Simple
  deriving Inhabited, Repr

/-- A script: its pipelines in order. -/
abbrev Program := List Step

inductive Token where
  | word (w : Word) (line : Nat)
  | redirect (r : Redirect) (line : Nat)
  | op (s : String)
  deriving Inhabited, Repr

def isBreak (c : Char) : Bool :=
  c == ' ' || c == '\t' || c == '\n' || c == ';' || c == '&' || c == '|' || c == '<' ||
    c == '>' || c == '(' || c == ')'

def isNameChar (c : Char) : Bool := c.isAlphanum || c == '_'

def closing : Nat → Nat → List Char → List Char → String × List Char
  | 0, _, acc, rest => (String.ofList acc.reverse, rest)
  | _ + 1, _, acc, [] => (String.ofList acc.reverse, [])
  | fuel + 1, depth, acc, c :: rest =>
    if c == ')' then
      if depth == 0 then (String.ofList acc.reverse, rest) else closing fuel (depth - 1) (c :: acc) rest
    else if c == '(' then closing fuel (depth + 1) (c :: acc) rest
    else if c == '\'' then
      let inner := rest.takeWhile (· != '\'')
      let after := rest.drop (inner.length + 1)
      closing fuel depth ('\'' :: (inner.reverse ++ c :: acc)) after
    else if c == '\\' then
      match rest with
      | d :: more => closing fuel depth (d :: c :: acc) more
      | [] => closing fuel depth (c :: acc) []
    else closing fuel depth (c :: acc) rest

def dollar (quoted : Bool) (cs : List Char) : Piece × List Char :=
  match cs with
  | '(' :: rest =>
    let (src, after) := closing (rest.length + 1) 0 [] rest
    (.command src quoted, after)
  | '{' :: rest =>
    let name := rest.takeWhile (· != '}')
    (.param (String.ofList name) quoted, rest.drop (name.length + 1))
  | c :: rest =>
    if c.isDigit || c == '$' || c == '#' || c == '?' || c == '@' || c == '*' || c == '!' || c == '-' then
      (.param (String.ofList [c]) quoted, rest)
    else if c.isAlpha || c == '_' then
      let name := (c :: rest).takeWhile isNameChar
      (.param (String.ofList name) quoted, (c :: rest).drop name.length)
    else (.text "$" quoted, c :: rest)
  | [] => (.text "$" quoted, [])

def addText (w : Array Piece) (s : String) (quoted : Bool) : Array Piece :=
  match w.back? with
  | some (.text t q) => if q == quoted then w.pop.push (.text (t ++ s) q) else w.push (.text s quoted)
  | _ => w.push (.text s quoted)

def doubleQuoted (here : Bool) : Nat → Array Piece → Nat → List Char → Array Piece × List Char × Nat
  | 0, w, n, rest => (w, rest, n)
  | _ + 1, w, n, [] => (w, [], n)
  | fuel + 1, w, n, c :: rest =>
    if c == '"' && !here then (w, rest, n)
    else if c == '\\' then
      match rest with
      | '\n' :: more => doubleQuoted here fuel w (n + 1) more
      | d :: more =>
        if d == '$' || d == '`' || (d == '"' && !here) || d == '\\' then
          doubleQuoted here fuel (addText w (String.ofList [d]) true) n more
        else doubleQuoted here fuel (addText w (String.ofList [c, d]) true) n more
      | [] => doubleQuoted here fuel (addText w "\\" true) n []
    else if c == '$' then
      let (p, after) := dollar true rest
      match p with
      | .text s _ => doubleQuoted here fuel (addText w s true) n after
      | _ => doubleQuoted here fuel (w.push p) n after
    else doubleQuoted here fuel (addText w (String.ofList [c]) true) (if c == '\n' then n + 1 else n) rest

def hereWord (body : String) : Word :=
  (doubleQuoted true (body.length + 1) #[.text "" true] 0 body.toList).1.toList

def word : Nat → Array Piece → Nat → List Char → Array Piece × List Char × Nat
  | 0, w, n, rest => (w, rest, n)
  | _ + 1, w, n, [] => (w, [], n)
  | fuel + 1, w, n, c :: rest =>
    if isBreak c then (w, c :: rest, n)
    else if c == '\'' then
      let inner := rest.takeWhile (· != '\'')
      let lines := (inner.filter (· == '\n')).length
      word fuel (addText w (String.ofList inner) true) (n + lines) (rest.drop (inner.length + 1))
    else if c == '"' then
      let w := if w.isEmpty then w.push (.text "" true) else w
      let (w, after, k) := doubleQuoted false (rest.length + 1) w 0 rest
      word fuel w (n + k) after
    else if c == '\\' then
      match rest with
      | '\n' :: more => word fuel w (n + 1) more
      | d :: more => word fuel (addText w (String.ofList [d]) true) n more
      | [] => word fuel w n []
    else if c == '$' then
      let (p, after) := dollar false rest
      match p with
      | .text s _ => word fuel (addText w s false) n after
      | _ => word fuel (w.push p) n after
    else word fuel (addText w (String.ofList [c]) false) n rest

def Piece.plain : Piece → String × Bool
  | .text s q => (s, q)
  | .param name q => ("$" ++ name, q)
  | .command src q => ("$(" ++ src ++ ")", q)

def hereBody (delim : String) (stripTabs : Bool) (rest : List Char) : String × List Char × Nat :=
  let current := rest.takeWhile (· != '\n')
  let after := rest.drop (current.length + 1)
  if current.length == rest.length then ("", rest, 0)
  else
    let lines := (String.ofList after).splitOn "\n"
    let clean (l : String) : String := if stripTabs then String.ofList (l.toList.dropWhile (· == '\t')) else l
    let body := lines.takeWhile fun l => clean l != delim
    let remaining := lines.drop (body.length + 1)
    let text := String.join (body.map fun l => clean l ++ "\n")
    (text, current ++ '\n' :: ("\n".intercalate remaining).toList, body.length + 1)

def skipBlank (cs : List Char) : List Char := cs.dropWhile fun c => c == ' ' || c == '\t'

def redirectTarget (cs : List Char) : Word × List Char :=
  let (w, rest, _) := word (cs.length + 1) #[] 0 (skipBlank cs)
  (w.toList, rest)

def redirectOut (line fd : Nat) (rest : List Char) : Option Token × List Char :=
  match rest with
  | '&' :: more =>
    let more := skipBlank more
    let digits := more.takeWhile Char.isDigit
    if digits.isEmpty then (none, more.dropWhile (!isBreak ·))
    else
      let target := digits.foldl (fun n d => n * 10 + (d.toNat - '0'.toNat)) 0
      (some (.redirect (.send fd (.output target)) line), more.drop digits.length)
  | '>' :: more =>
    let (w, after) := redirectTarget more
    (some (.redirect (.send fd (.file w true)) line), after)
  | _ =>
    let rest := match rest with
      | '|' :: m => m
      | m => m
    let (w, after) := redirectTarget rest
    (some (.redirect (.send fd (.file w false)) line), after)

def pushToken (acc : Array Token) : Option Token → Array Token
  | some t => acc.push t
  | none => acc

def scan : Nat → Nat → List Char → Array Token → Array Token
  | 0, _, _, acc => acc
  | _ + 1, _, [], acc => acc
  | fuel + 1, line, c :: rest, acc =>
    if c == ' ' || c == '\t' then scan fuel line rest acc
    else if c == '\n' then scan fuel (line + 1) rest (acc.push (.op ";"))
    else if c == '#' then scan fuel line ((c :: rest).dropWhile (· != '\n')) acc
    else if c == ';' then scan fuel line rest (acc.push (.op ";"))
    else if c == '&' then
      match rest with
      | '&' :: more => scan fuel line more (acc.push (.op "&&"))
      | _ => scan fuel line rest (acc.push (.op ";"))
    else if c == '|' then
      match rest with
      | '|' :: more => scan fuel line more (acc.push (.op "||"))
      | _ => scan fuel line rest (acc.push (.op "|"))
    else if c == '(' || c == ')' then scan fuel line rest acc
    else if c == '<' then
      match rest with
      | '<' :: more =>
        let (strip, more) := match more with
          | '-' :: m => (true, m)
          | m => (false, m)
        let (d, after) := redirectTarget more
        let delim := String.join (d.map fun p => p.plain.1)
        let expand := !d.any fun p => p.plain.2
        let (body, after, lines) := hereBody delim strip after
        scan fuel (line + lines) after (acc.push (.redirect (.here body expand) line))
      | '&' :: more => scan fuel line ((skipBlank more).dropWhile (!isBreak ·)) acc
      | _ =>
        let (w, after) := redirectTarget rest
        scan fuel line after (acc.push (.redirect (.read w) line))
    else if c == '>' then
      let (t, after) := redirectOut line 1 rest
      scan fuel line after (pushToken acc t)
    else if c.isDigit && (rest.head? == some '>' || rest.head? == some '<') then
      match rest with
      | '>' :: more =>
        let (t, after) := redirectOut line (c.toNat - '0'.toNat) more
        scan fuel line after (pushToken acc t)
      | _ :: more =>
        let (w, after) := redirectTarget more
        scan fuel line after (acc.push (.redirect (.read w) line))
      | [] => acc
    else
      let (w, after, lines) := word (rest.length + 2) #[] 0 (c :: rest)
      scan fuel (line + lines) after (acc.push (.word w.toList line))

def group (tokens : List Token) : Program :=
  let finishSimple (cur : Option Simple) (pipe : List Simple) : List Simple :=
    match cur with
    | some s => pipe ++ [s]
    | none => pipe
  let finishStep (link : Link) (pipe : List Simple) (prog : Program) : Program :=
    if pipe.isEmpty then prog else prog ++ [⟨link, pipe⟩]
  let (prog, link, pipe, cur) := tokens.foldl
    (fun (acc : Program × Link × List Simple × Option Simple) t =>
      let (prog, link, pipe, cur) := acc
      match t with
      | .word w line =>
        let s := cur.getD { line }
        (prog, link, pipe, some { s with words := s.words ++ [w] })
      | .redirect r line =>
        let s := cur.getD { line }
        (prog, link, pipe, some { s with redirects := s.redirects ++ [r] })
      | .op "|" => (prog, link, finishSimple cur pipe, none)
      | .op o =>
        let pipe := finishSimple cur pipe
        let next : Link := if o == "&&" then .onSuccess else if o == "||" then .onFailure else .always
        if pipe.isEmpty then (prog, if o == ";" then link else next, [], none)
        else (finishStep link pipe prog, next, [], none))
    ([], .always, [], none)
  finishStep link (finishSimple cur pipe) prog

/-- The program a script text holds. -/
def parse (src : String) : Program :=
  group (scan (src.length + 1) 1 src.toList #[]).toList

end CodeGraph.Script
