/-!
# Shell scripts: `echo` and `printf`

Both print bytes. `echo` joins its arguments with spaces, reading backslash escapes; `printf`
reads its format again while a pass took arguments and some remain.
-/

namespace CodeGraph.Script

abbrev Bytes := List UInt8

def utf8 (s : String) : Bytes := s.toUTF8.toList

def isOctal (b : UInt8) : Bool := 48 ≤ b && b ≤ 55

def isDecimal (b : UInt8) : Bool := 48 ≤ b && b ≤ 57

def octalValue (cs : Bytes) : Nat × Bytes :=
  let ds := (cs.take 3).takeWhile isOctal
  (ds.foldl (fun n d => n * 8 + (d.toNat - 48)) 0, cs.drop ds.length)

def escapeByte (cs : Bytes) : UInt8 × Bytes :=
  match cs with
  | [] => (92, [])
  | c :: rest =>
    if isOctal c then
      let (v, rest) := octalValue cs
      (v.toUInt8, rest)
    else if c == 92 then (92, rest)
    else if c == 97 then (7, rest)
    else if c == 98 then (8, rest)
    else if c == 102 then (12, rest)
    else if c == 110 then (10, rest)
    else if c == 114 then (13, rest)
    else if c == 116 then (9, rest)
    else if c == 118 then (11, rest)
    else (92, cs)

def unescape : Nat → Bytes → Bytes → Bytes × Bool
  | 0, acc, _ => (acc.reverse, false)
  | _ + 1, acc, [] => (acc.reverse, false)
  | fuel + 1, acc, c :: rest =>
    if c != 92 then unescape fuel (c :: acc) rest
    else
      match rest with
      | 99 :: _ => (acc.reverse, true)
      | 48 :: d :: more =>
        let (b, after) := if isOctal d then escapeByte (d :: more) else escapeByte (48 :: d :: more)
        unescape fuel (b :: acc) after
      | _ =>
        let (b, after) := escapeByte rest
        unescape fuel (b :: acc) after

def echo (args : List String) : Bytes :=
  let (args, newline) := match args with
    | "-n" :: rest => (rest, false)
    | _ => (args, true)
  let rec go : List String → Bytes
    | [] => if newline then [10] else []
    | [a] =>
      let (b, stop) := unescape (a.utf8ByteSize + 1) [] (utf8 a)
      if stop then b else b ++ (if newline then [10] else [])
    | a :: rest =>
      let (b, stop) := unescape (a.utf8ByteSize + 1) [] (utf8 a)
      if stop then b else b ++ [32] ++ go rest
  go args

def readNumber (s : String) : Option Int × Bool :=
  let cs := (utf8 s).dropWhile fun b => b == 32 || b == 9 || b == 10
  let (neg, cs) := match cs with
    | 45 :: rest => (true, rest)
    | 43 :: rest => (false, rest)
    | _ => (false, cs)
  let hexDigit (b : UInt8) : Option Nat :=
    if isDecimal b then some (b.toNat - 48)
    else if 97 ≤ b && b ≤ 102 then some (b.toNat - 87)
    else if 65 ≤ b && b ≤ 70 then some (b.toNat - 55)
    else none
  let digitsIn (base : Nat) (bs : Bytes) : List Nat :=
    (bs.map fun b => (hexDigit b).filter (· < base)).takeWhile Option.isSome |>.filterMap id
  let value (base : Nat) (ds : List Nat) : Int := ds.foldl (fun (n : Int) (d : Nat) => n * base + d) 0
  let sign (v : Int) : Int := if neg then -v else v
  match cs with
  | 48 :: x :: rest =>
    if (x == 120 || x == 88) && !(digitsIn 16 rest).isEmpty then
      let ds := digitsIn 16 rest
      (some (sign (value 16 ds)), ds.length == rest.length)
    else
      let ds := digitsIn 8 (x :: rest)
      (some (sign (value 8 ds)), ds.length == (x :: rest).length)
  | _ =>
    let ds := digitsIn 10 cs
    if ds.isEmpty then (if cs.isEmpty then (some 0, true) else (none, false))
    else (some (sign (value 10 ds)), ds.length == cs.length)

structure Conversion where
  flags : List UInt8 := []
  width : Nat := 0
  precision : Option Nat := none
  letter : UInt8
  deriving Inhabited

structure Printing where
  out : Bytes := []
  args : List String
  took : Bool := false
  stopped : Bool := false
  status : Nat := 0
  warnings : List String := []
  deriving Inhabited

namespace Printing

def next (p : Printing) : String × Printing :=
  match p.args with
  | a :: rest => (a, { p with args := rest, took := true })
  | [] => ("", p)

def number (p : Printing) : Int × Printing :=
  let (a, p) := p.next
  match (utf8 a) with
  | q :: c :: _ => if q == 39 || q == 34 then (c.toNat, p) else numberOf a p
  | _ => numberOf a p
where
  numberOf (a : String) (p : Printing) : Int × Printing :=
    match readNumber a with
    | (some v, true) => (v, p)
    | (some v, false) => (v, { p with status := 1, warnings := p.warnings ++ [a ++ ": not completely converted"] })
    | (none, _) => (0, { p with status := 1, warnings := p.warnings ++ [a ++ ": expected numeric value"] })

end Printing

def padTo (width : Nat) (left : Bool) (pad : UInt8) (bs : Bytes) : Bytes :=
  let n := width - bs.length
  if left then bs ++ List.replicate n 32 else List.replicate n pad ++ bs

def digitsOf (base : Nat) (upper : Bool) (n : Nat) : Bytes :=
  (Nat.toDigits base n).map fun c =>
    let c := if upper then c.toUpper else c
    c.toNat.toUInt8

def formatNumber (c : Conversion) (v : Int) : Bytes :=
  let left := c.flags.contains 45
  let signed := c.letter == 100 || c.letter == 105
  let (negative, magnitude) : Bool × Nat :=
    if signed then (v < 0, v.natAbs)
    else (false, if v < 0 then (Nat.pow 2 64 - v.natAbs % Nat.pow 2 64) % Nat.pow 2 64 else v.toNat)
  let base := if c.letter == 111 then 8 else if c.letter == 120 || c.letter == 88 then 16 else 10
  let digits := match c.precision with
    | some 0 => if magnitude == 0 then [] else digitsOf base (c.letter == 88) magnitude
    | _ => digitsOf base (c.letter == 88) magnitude
  let digits := match c.precision with
    | some p => List.replicate (p - digits.length) 48 ++ digits
    | none => digits
  let lead : Bytes :=
    if signed then
      if negative then [45] else if c.flags.contains 43 then [43] else if c.flags.contains 32 then [32] else []
    else if c.flags.contains 35 then
      if c.letter == 111 && digits.head? != some 48 then [48]
      else if c.letter == 120 && magnitude != 0 then [48, 120]
      else if c.letter == 88 && magnitude != 0 then [48, 88]
      else []
    else []
  if !left && c.flags.contains 48 && c.precision.isNone then
    lead ++ padTo (c.width - lead.length) false 48 digits
  else padTo c.width left 32 (lead ++ digits)

def readSpec (p : Printing) (cs : Bytes) : Conversion × Printing × Bytes :=
  let flags := cs.takeWhile fun b => b == 35 || b == 45 || b == 43 || b == 32 || b == 48
  let cs := cs.drop flags.length
  let (width, p, cs) := match cs with
    | 42 :: rest =>
      let (v, p) := p.number
      (v.toNat, p, rest)
    | _ =>
      let ds := cs.takeWhile isDecimal
      (ds.foldl (fun (n : Nat) (d : UInt8) => n * 10 + (d.toNat - 48)) 0, p, cs.drop ds.length)
  let (precision, p, cs) : Option Nat × Printing × Bytes := match cs with
    | 46 :: 42 :: rest =>
      let (v, p) := p.number
      (some v.toNat, p, rest)
    | 46 :: rest =>
      let ds := rest.takeWhile isDecimal
      (some (ds.foldl (fun (n : Nat) (d : UInt8) => n * 10 + (d.toNat - 48)) 0), p, rest.drop ds.length)
    | _ => (none, p, cs)
  match cs with
  | l :: rest => ({ flags, width, precision, letter := l }, p, rest)
  | [] => ({ flags, width, precision, letter := 0 }, p, [])

def formatText (c : Conversion) (bs : Bytes) : Bytes :=
  let bs := match c.precision with
    | some n => bs.take n
    | none => bs
  padTo c.width (c.flags.contains 45) 32 bs

def printPass : Nat → Printing → Bytes → Printing
  | 0, p, _ => p
  | _ + 1, p, [] => p
  | fuel + 1, p, b :: rest =>
    if b == 92 then
      let (v, after) := escapeByte rest
      printPass fuel { p with out := p.out ++ [v] } after
    else if b == 37 then
      match rest with
      | 37 :: after => printPass fuel { p with out := p.out ++ [37] } after
      | _ =>
        let (c, p, after) := readSpec p rest
        if c.letter == 115 then
          let (a, p) := p.next
          printPass fuel { p with out := p.out ++ formatText c (utf8 a) } after
        else if c.letter == 98 then
          let (a, p) := p.next
          let (bs, stop) := unescape (a.utf8ByteSize + 1) [] (utf8 a)
          let p := { p with out := p.out ++ formatText c bs }
          if stop then { p with stopped := true } else printPass fuel p after
        else if c.letter == 99 then
          let (a, p) := p.next
          printPass fuel { p with out := p.out ++ formatText c ((utf8 a).take 1) } after
        else if c.letter == 100 || c.letter == 105 || c.letter == 117 || c.letter == 111 ||
            c.letter == 120 || c.letter == 88 then
          let (v, p) := p.number
          printPass fuel { p with out := p.out ++ formatNumber c v } after
        else if c.letter == 0 then { p with out := p.out ++ [37] }
        else
          let (a, p) := p.next
          printPass fuel { p with out := p.out ++ formatText c (utf8 a) } after
    else printPass fuel { p with out := p.out ++ [b] } rest

/-- What `printf` prints for a format and arguments, its status and its warnings. -/
def printf (format : String) (args : List String) : Bytes × Nat × List String :=
  let fmt := utf8 format
  let rec passes : Nat → Printing → Printing
    | 0, p => p
    | fuel + 1, p =>
      let p := printPass (fmt.length + 1) { p with took := false } fmt
      if p.stopped || !p.took || p.args.isEmpty then p else passes fuel p
  let p := passes (args.length + 1) { args }
  (p.out, p.status, p.warnings)

end CodeGraph.Script
