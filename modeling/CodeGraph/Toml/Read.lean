import CodeGraph.Toml.Value

/-!
# Reading TOML

A reader of TOML 1.0 documents, line by line: keys with their values, table headers and comments.
Every reader takes a fuel bounded by the length of the text.
-/

namespace CodeGraph.Toml

abbrev Input := List Char

def faultAt (rest : Input) : Fault := .malformed (String.ofList (rest.take 20))

def isSpace (c : Char) : Bool := c == ' ' || c == '\t'

def isBareKeyChar (c : Char) : Bool := c.isAlphanum || c == '-' || c == '_'

def isTextChar (c : Char) : Bool := c == '\t' || (c.toNat ≥ 0x20 && c.toNat != 0x7F)

def skipSpaces (cs : Input) : Input := cs.dropWhile isSpace

def skipComment (cs : Input) : Except Fault Input :=
  match cs with
  | '#' :: rest =>
    let body := rest.takeWhile fun c => c != '\n' && c != '\r'
    if body.all isTextChar then .ok (rest.drop body.length) else .error (faultAt cs)
  | _ => .ok cs

def newline? : Input → Option Input
  | '\n' :: rest => some rest
  | '\r' :: '\n' :: rest => some rest
  | _ => none

def skipGaps : Nat → Input → Except Fault Input
  | 0, cs => .ok cs
  | fuel + 1, cs =>
    let cs := skipSpaces cs
    match cs with
    | '#' :: _ => do skipGaps fuel (← skipComment cs)
    | _ =>
      match newline? cs with
      | some rest => skipGaps fuel rest
      | none => .ok cs

def lineEnd (cs : Input) : Except Fault Input := do
  let cs ← skipComment (skipSpaces cs)
  match cs with
  | [] => pure []
  | _ =>
    match newline? cs with
    | some rest => pure rest
    | none => .error (faultAt cs)

def hexValue (c : Char) : Option Nat :=
  if '0' ≤ c && c ≤ '9' then some (c.toNat - '0'.toNat)
  else if 'a' ≤ c && c ≤ 'f' then some (c.toNat - 'a'.toNat + 10)
  else if 'A' ≤ c && c ≤ 'F' then some (c.toNat - 'A'.toNat + 10)
  else none

def hexNumber (ds : List Char) : Option Nat :=
  ds.foldl (fun acc c => do pure ((← acc) * 16 + (← hexValue c))) (some 0)

def escape (cs : Input) : Except Fault (Char × Input) :=
  match cs with
  | 'b' :: rest => .ok ('\x08', rest)
  | 't' :: rest => .ok ('\t', rest)
  | 'n' :: rest => .ok ('\n', rest)
  | 'f' :: rest => .ok ('\x0c', rest)
  | 'r' :: rest => .ok ('\r', rest)
  | '"' :: rest => .ok ('"', rest)
  | '\\' :: rest => .ok ('\\', rest)
  | 'u' :: rest => code 4 rest
  | 'U' :: rest => code 8 rest
  | _ => .error (faultAt cs)
where
  code (n : Nat) (rest : Input) : Except Fault (Char × Input) :=
    let ds := rest.take n
    match hexNumber ds with
    | some v =>
      if ds.length == n && (v < 0xD800 || (0xE000 ≤ v && v ≤ 0x10FFFF)) then
        .ok (Char.ofNat v, rest.drop n)
      else .error (faultAt rest)
    | none => .error (faultAt rest)

def basicString : Nat → List Char → Input → Except Fault (String × Input)
  | 0, _, cs => .error (faultAt cs)
  | fuel + 1, acc, cs =>
    match cs with
    | '"' :: rest => .ok (String.ofList acc.reverse, rest)
    | '\\' :: rest => do
      let (c, rest) ← escape rest
      basicString fuel (c :: acc) rest
    | c :: rest => if isTextChar c then basicString fuel (c :: acc) rest else .error (faultAt cs)
    | [] => .error (faultAt cs)

def literalString (cs : Input) : Except Fault (String × Input) :=
  let body := cs.takeWhile fun c => c != '\'' && isTextChar c
  match cs.drop body.length with
  | '\'' :: rest => .ok (String.ofList body, rest)
  | rest => .error (faultAt rest)

def runOf (q : Char) (cs : Input) : Nat := (cs.takeWhile (· == q)).length

def afterLineEndingBackslash (cs : Input) : Option Input :=
  match newline? (skipSpaces cs) with
  | some rest => some (rest.dropWhile fun c => isSpace c || c == '\n' || c == '\r')
  | none => none

def multilineString (q : Char) : Nat → List Char → Input → Except Fault (String × Input)
  | 0, _, cs => .error (faultAt cs)
  | fuel + 1, acc, cs =>
    match cs with
    | [] => .error (faultAt cs)
    | c :: rest =>
      if c == q then
        let n := runOf q cs
        if n < 3 then multilineString q fuel (List.replicate n q ++ acc) (cs.drop n)
        else if n ≤ 5 then .ok (String.ofList (List.replicate (n - 3) q ++ acc).reverse, cs.drop n)
        else .error (faultAt cs)
      else if c == '\\' && q == '"' then
        match afterLineEndingBackslash rest with
        | some after => multilineString q fuel acc after
        | none => do
          let (e, rest) ← escape rest
          multilineString q fuel (e :: acc) rest
      else
        match newline? cs with
        | some after => multilineString q fuel ('\n' :: acc) after
        | none => if isTextChar c then multilineString q fuel (c :: acc) rest else .error (faultAt cs)

def string (fuel : Nat) (cs : Input) : Except Fault (String × Input) :=
  match cs with
  | '"' :: '"' :: '"' :: rest => multilineString '"' fuel [] ((newline? rest).getD rest)
  | '"' :: rest => basicString fuel [] rest
  | '\'' :: '\'' :: '\'' :: rest => multilineString '\'' fuel [] ((newline? rest).getD rest)
  | '\'' :: rest => literalString rest
  | _ => .error (faultAt cs)

def simpleKey (fuel : Nat) (cs : Input) : Except Fault (String × Input) :=
  match cs with
  | '"' :: rest => basicString fuel [] rest
  | '\'' :: rest => literalString rest
  | _ =>
    let bare := cs.takeWhile isBareKeyChar
    if bare.isEmpty then .error (faultAt cs) else .ok (String.ofList bare, cs.drop bare.length)

def dottedKey : Nat → Nat → List String → Input → Except Fault ((List String) × Input)
  | 0, _, acc, cs => .ok (acc.reverse, cs)
  | steps + 1, fuel, acc, cs =>
    match skipSpaces cs with
    | '.' :: rest => do
      let (k, rest) ← simpleKey fuel (skipSpaces rest)
      dottedKey steps fuel (k :: acc) rest
    | _ => .ok (acc.reverse, cs)

def key (fuel : Nat) (cs : Input) : Except Fault ((List String) × Input) := do
  let (k, rest) ← simpleKey fuel cs
  dottedKey fuel fuel [k] rest

def digitRun (ok : Char → Bool) (cs : Input) : Option (List Char × Input) :=
  let run := cs.takeWhile fun c => ok c || c == '_'
  let rest := cs.drop run.length
  if run.isEmpty || run.head? == some '_' || run.getLast? == some '_' then none
  else if (run.zip run.tail).any (fun (a, b) => a == '_' && b == '_') then none
  else some (run.filter (· != '_'), rest)

def digitsValue (base : Nat) (ds : List Char) : Nat :=
  ds.foldl (fun n c => n * base + (hexValue c).getD 0) 0

def maxInteger : Nat := 9223372036854775807

def endsValue (cs : Input) : Bool :=
  match cs with
  | [] => true
  | c :: _ => isSpace c || c == '\n' || c == '\r' || c == '#' || c == ',' || c == ']' || c == '}'

def overflowBound : Nat := Nat.pow 2 1024 - Nat.pow 2 970

def overflows (m : Nat) (e : Int) : Bool :=
  let digits : Int := (Nat.toDigits 10 m).length
  if m == 0 then false
  else if digits + e > 310 then true
  else if digits + e < 300 then false
  else if e ≥ 0 then m * Nat.pow 10 e.toNat ≥ overflowBound
  else m ≥ overflowBound * Nat.pow 10 (-e).toNat

def unsignedNumber (negative signed : Bool) (cs : Input) : Except Fault (Value × Input) :=
  let whole (n : Nat) : Except Fault Int :=
    if negative then (if n ≤ maxInteger + 1 then .ok (-(n : Int)) else .error .outOfRange)
    else if n ≤ maxInteger then .ok n else .error .outOfRange
  let radix (base : Nat) (ok : Char → Bool) (rest : Input) : Except Fault (Value × Input) :=
    if signed then .error (faultAt cs)
    else
      match digitRun ok rest with
      | some (ds, after) => do pure (.integer (← whole (digitsValue base ds)), after)
      | none => .error (faultAt rest)
  match cs with
  | 'i' :: 'n' :: 'f' :: rest => .ok (.float (if negative then "-inf" else "inf"), rest)
  | 'n' :: 'a' :: 'n' :: rest => .ok (.float "nan", rest)
  | '0' :: 'x' :: rest => radix 16 (fun c => (hexValue c).isSome) rest
  | '0' :: 'o' :: rest => radix 8 (fun c => '0' ≤ c && c ≤ '7') rest
  | '0' :: 'b' :: rest => radix 2 (fun c => c == '0' || c == '1') rest
  | _ =>
    match digitRun Char.isDigit cs with
    | none => .error (faultAt cs)
    | some (intDigits, after) =>
      if intDigits.length > 1 && intDigits.head? == some '0' then .error (faultAt cs)
      else
        let (frac, after) : Option (List Char) × Input := match after with
          | '.' :: rest =>
            match digitRun Char.isDigit rest with
            | some (ds, rest) => (some ds, rest)
            | none => (some [], '.' :: rest)
          | _ => (none, after)
        let (expo, after) : Option (Option Int) × Input := match after with
          | e :: rest =>
            if e == 'e' || e == 'E' then
              let (minus, body) := match rest with
                | '+' :: r => (false, r)
                | '-' :: r => (true, r)
                | r => (false, r)
              match digitRun Char.isDigit body with
              | some (ds, r) =>
                let v : Int := digitsValue 10 ds
                (some (some (if minus then -v else v)), r)
              | none => (some none, rest)
            else (none, after)
          | [] => (none, after)
        match frac, expo with
        | none, none => do pure (.integer (← whole (digitsValue 10 intDigits)), after)
        | some [], _ => .error (faultAt after)
        | _, some none => .error (faultAt after)
        | _, _ =>
          let fracDigits := frac.getD []
          let mantissa := digitsValue 10 (intDigits ++ fracDigits)
          let expValue : Int := (expo.getD none).getD 0
          if !negative && overflows mantissa (expValue - fracDigits.length) then .error .outOfRange
          else
            let text := String.ofList (cs.take (cs.length - after.length))
            .ok (.float ((if negative then "-" else "") ++ text), after)

def fixedDigits (n : Nat) (cs : Input) : Option (Nat × Input) :=
  let ds := cs.take n
  if ds.length == n && ds.all Char.isDigit then some (digitsValue 10 ds, cs.drop n) else none

def daysInMonth (year month : Nat) : Nat :=
  if month == 2 then
    if year % 4 == 0 && (year % 100 != 0 || year % 400 == 0) then 29 else 28
  else if month == 4 || month == 6 || month == 9 || month == 11 then 30
  else 31

def partialTime (cs : Input) : Option Input := do
  let (h, cs) ← fixedDigits 2 cs
  let cs ← match cs with | ':' :: r => some r | _ => none
  let (m, cs) ← fixedDigits 2 cs
  let cs ← match cs with | ':' :: r => some r | _ => none
  let (s, cs) ← fixedDigits 2 cs
  if h > 23 || m > 59 || s > 60 then none
  else
    match cs with
    | '.' :: r =>
      let ds := r.takeWhile Char.isDigit
      if ds.isEmpty then none else some (r.drop ds.length)
    | _ => some cs

def timeOffset (cs : Input) : Option (Option Input) :=
  match cs with
  | 'Z' :: r | 'z' :: r => some (some r)
  | c :: r =>
    if c == '+' || c == '-' then
      match fixedDigits 2 r with
      | some (h, ':' :: r) =>
        match fixedDigits 2 r with
        | some (m, r) => if h ≤ 23 && m ≤ 59 then some (some r) else some none
        | none => some none
      | _ => some none
    else none
  | [] => none

def dateTime (cs : Input) : Option Input := do
  let (y, r) ← fixedDigits 4 cs
  let r ← match r with | '-' :: r => some r | _ => none
  let (mo, r) ← fixedDigits 2 r
  let r ← match r with | '-' :: r => some r | _ => none
  let (d, r) ← fixedDigits 2 r
  if mo < 1 || mo > 12 || d < 1 || d > daysInMonth y mo then none
  else
    match r with
    | t :: after =>
      if t == 'T' || t == 't' || (t == ' ' && (fixedDigits 2 after).isSome) then
        let r ← partialTime after
        match timeOffset r with
        | some (some r) => some r
        | some none => none
        | none => some r
      else some r
    | [] => some r

def numberOrDate (cs : Input) : Except Fault (Value × Input) :=
  let asDate (finish : Option Input) : Except Fault (Value × Input) :=
    match finish with
    | some rest => .ok (.datetime (String.ofList (cs.take (cs.length - rest.length))), rest)
    | none => .error (faultAt cs)
  match fixedDigits 4 cs, fixedDigits 2 cs with
  | some (_, '-' :: _), _ => asDate (dateTime cs)
  | _, some (_, ':' :: _) => asDate (partialTime cs)
  | _, _ =>
    match cs with
    | '+' :: rest => unsignedNumber false true rest
    | '-' :: rest => unsignedNumber true true rest
    | _ => unsignedNumber false false cs

mutual

def value : Nat → Input → Except Fault (Value × Input)
  | 0, cs => .error (faultAt cs)
  | fuel + 1, cs =>
    match cs with
    | '"' :: _ | '\'' :: _ => do
      let (s, rest) ← string fuel cs
      pure (.string s, rest)
    | 't' :: 'r' :: 'u' :: 'e' :: rest => .ok (.boolean true, rest)
    | 'f' :: 'a' :: 'l' :: 's' :: 'e' :: rest => .ok (.boolean false, rest)
    | '[' :: rest => arrayItems fuel [] rest
    | '{' :: rest => inlineTable fuel [] true (skipSpaces rest)
    | _ => numberOrDate cs

def arrayItems : Nat → List Value → Input → Except Fault (Value × Input)
  | 0, _, cs => .error (faultAt cs)
  | fuel + 1, acc, cs => do
    let cs ← skipGaps cs.length cs
    match cs with
    | ']' :: rest => pure (.array acc.reverse, rest)
    | _ =>
      let (v, rest) ← value fuel cs
      let rest ← skipGaps rest.length rest
      match rest with
      | ',' :: rest => arrayItems fuel (v :: acc) rest
      | ']' :: rest => pure (.array (v :: acc).reverse, rest)
      | _ => .error (faultAt rest)

def inlineTable : Nat → Entries → Bool → Input → Except Fault (Value × Input)
  | 0, _, _, cs => .error (faultAt cs)
  | fuel + 1, acc, first, cs =>
    match cs with
    | '}' :: rest => if first then .ok (.table (entriesValue acc), rest) else .error (faultAt cs)
    | _ => do
      let (k, rest) ← key fuel cs
      let rest ← match skipSpaces rest with
        | '=' :: r => pure (skipSpaces r)
        | r => .error (faultAt r)
      let (v, rest) ← value fuel rest
      let acc ← Entries.assign acc k v
      match skipSpaces rest with
      | ',' :: r => inlineTable fuel acc false (skipSpaces r)
      | '}' :: r => pure (.table (entriesValue acc), r)
      | r => .error (faultAt r)

end

def boundedValue (fuel : Nat) (cs : Input) : Except Fault (Value × Input) := do
  let (v, rest) ← value fuel cs
  if endsValue rest then pure (v, rest) else .error (faultAt rest)

def lines : Nat → Entries → List String → Input → Except Fault Entries
  | 0, es, _, _ => .ok es
  | fuel + 1, es, header, cs =>
    let cs := skipSpaces cs
    match cs with
    | [] => .ok es
    | '#' :: _ => do lines fuel es header (← lineEnd cs)
    | '[' :: '[' :: rest => do
      let (path, rest) ← key fuel (skipSpaces rest)
      match skipSpaces rest with
      | ']' :: ']' :: rest => do
        let es ← Entries.defineArrayTable es path
        lines fuel es path (← lineEnd rest)
      | r => .error (faultAt r)
    | '[' :: rest => do
      let (path, rest) ← key fuel (skipSpaces rest)
      match skipSpaces rest with
      | ']' :: rest => do
        let es ← Entries.defineTable es path
        lines fuel es path (← lineEnd rest)
      | r => .error (faultAt r)
    | _ =>
      match newline? cs with
      | some rest => lines fuel es header rest
      | none => do
        let (k, rest) ← key fuel cs
        let rest ← match skipSpaces rest with
          | '=' :: r => pure (skipSpaces r)
          | r => .error (faultAt r)
        let (v, rest) ← boundedValue fuel rest
        let es ← Entries.assignUnder es header k v
        lines fuel es header (← lineEnd rest)

/-- The table a TOML document holds, or why it holds none. A byte order mark at its start is
skipped. -/
def read (text : String) : Except Fault (List (String × Value)) := do
  let cs := match text.toList with
    | c :: rest => if c.toNat == 0xFEFF then rest else c :: rest
    | [] => []
  let es ← lines (cs.length + 1) [] [] cs
  pure (entriesValue es)

end CodeGraph.Toml
