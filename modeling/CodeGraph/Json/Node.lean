import CodeGraph.Json.Error
import CodeGraph.Json.Value

/-!
# JSON text read into nodes

`Node.read` reads JSON text into nodes that remember their byte offsets. Reading stops at the
first broken place, which becomes a `broken` node carrying the errors of both readers of it.
-/

namespace CodeGraph.Json

structure Break where
  kept : Error
  skipped : Error
  deriving Inhabited

/-- A JSON value read from text. `start` and `stop` are byte offsets: where the value begins, and
just after its last byte. An array or object ends in the offset of its closing bracket, or in
the break that stops the text. -/
inductive Node where
  | null (start stop : Nat)
  | bool (b : Bool) (start stop : Nat)
  | num (n : Except Error Number) (start stop : Nat)
  | str (s : Except Error String) (start stop : Nat)
  | arr (start : Nat) (items : List Node) (tail : Except Break Nat)
  | obj (start : Nat) (entries : List (Except Error String × Nat × Node)) (tail : Except Break Nat)
  | broken (b : Break)
  deriving Inhabited

def placeOf (text : ByteArray) (i : Nat) : Nat × Nat :=
  let rec go : Nat → Nat → Nat → Nat → Nat × Nat
    | 0, line, lineStart, _ => (line, i - lineStart)
    | fuel + 1, line, lineStart, j =>
      if j < i then
        if text.get! j == 10 then go fuel (line + 1) (j + 1) (j + 1) else go fuel line lineStart (j + 1)
      else (line, i - lineStart)
  go (i + 1) 1 0 0

namespace Read

def at? (text : ByteArray) (i : Nat) : Option UInt8 :=
  if i < text.size then some (text.get! i) else none

def faultAt (text : ByteArray) (f : Fault) (i : Nat) : Error :=
  { message := f.message, place := some (placeOf text i) }

def faultAhead (text : ByteArray) (f : Fault) (i : Nat) : Error :=
  faultAt text f (min text.size (i + 1))

def both (e : Error) : Break := ⟨e, e⟩

def skipBlank (text : ByteArray) (i : Nat) : Nat :=
  let rec go : Nat → Nat → Nat
    | 0, j => j
    | fuel + 1, j =>
      match at? text j with
      | some 32 | some 9 | some 10 | some 13 => go fuel (j + 1)
      | _ => j
  go (text.size - i + 1) i

def isDigit (b : UInt8) : Bool := 48 ≤ b && b ≤ 57

def skipDigits (text : ByteArray) (i : Nat) : Nat :=
  let rec go : Nat → Nat → Nat
    | 0, j => j
    | fuel + 1, j =>
      match at? text j with
      | some b => if isDigit b then go fuel (j + 1) else j
      | none => j
  go (text.size - i + 1) i

def literal (text : ByteArray) (rest : List UInt8) (i : Nat) : Except Error Nat :=
  match rest with
  | [] => .ok i
  | b :: bs =>
    match at? text i with
    | none => .error (faultAt text .eofValue i)
    | some c => if c == b then literal text bs (i + 1) else .error (faultAt text .expectedIdent (i + 1))

def digitsValue (text : ByteArray) (i j : Nat) : Nat :=
  ((List.range (j - i)).map fun k => (text.get! (i + k)).toNat - 48).foldl (fun acc d => acc * 10 + d) 0

def exponent (text : ByteArray) (positive : Bool) (significand : Nat) (start : Int) (i : Nat) :
    Except Error (Float × Nat) :=
  let (positiveExp, j) :=
    match at? text i with
    | some 43 => (true, i + 1)
    | some 45 => (false, i + 1)
    | _ => (true, i)
  match at? text j with
  | none => .error (faultAt text .eofValue j)
  | some c =>
    if !isDigit c then .error (faultAt text .invalidNumber (j + 1))
    else
      let k := skipDigits text (j + 1)
      let e := digitsValue text j k
      if e > 2147483647 then
        -- the exponent overflows: a zero significand or a negative exponent give zero
        if significand != 0 && positiveExp then
          -- the reader stops at the digit that overflowed
          let rec firstOver : Nat → Nat → Nat → Nat
            | 0, _, p => p
            | fuel + 1, acc, p =>
              let d := (text.get! p).toNat - 48
              if acc * 10 + d > 2147483647 then p + 1 else firstOver fuel (acc * 10 + d) (p + 1)
          .error (faultAt text .numberOutOfRange (firstOver (k - j) 0 j))
        else .ok (if positive then 0.0 else -0.0, k)
      else
        let total : Int := if positiveExp then start + e else start - e
        let total := max (-2147483648) (min 2147483647 total)
        match floatOfDecimal positive significand total with
        | some f => .ok (f, k)
        | none => .error (faultAt text .numberOutOfRange k)

def fraction (text : ByteArray) (positive : Bool) (significand : Nat) (before : Int) (i : Nat) :
    Except Error (Float × Nat) :=
  let k := skipDigits text i
  if k == i then
    match at? text i with
    | some _ => .error (faultAhead text .invalidNumber i)
    | none => .error (faultAhead text .eofValue i)
  else
    -- digits are taken while the significand fits in 64 bits, and the others dropped
    let rec take : Nat → Nat → Nat → Int → Nat × Int
      | 0, _, acc, e => (acc, e)
      | fuel + 1, p, acc, e =>
        if p < k then
          let d := (text.get! p).toNat - 48
          if acc * 10 + d > 18446744073709551615 then (acc, e) else take fuel (p + 1) (acc * 10 + d) (e - 1)
        else (acc, e)
    let (sig, e) := take (k - i) i significand before
    match at? text k with
    | some 101 | some 69 => exponent text positive sig e (k + 1)
    | _ =>
      match floatOfDecimal positive sig e with
      | some f => .ok (f, k)
      | none => .error (faultAt text .numberOutOfRange k)

def number (text : ByteArray) (positive : Bool) (i : Nat) : Except Error (Number × Nat) :=
  let whole (sig : Nat) : Number :=
    if positive then .unsigned sig
    else if sig == 0 || sig > 9223372036854775808 then .float (-(UInt64.ofNat sig).toFloat)
    else .signed (-(sig : Int))
  let afterDigits (sig : Nat) (j : Nat) : Except Error (Number × Nat) :=
    match at? text j with
    | some 46 => (fraction text positive sig 0 (j + 1)).map fun (f, k) => (.float f, k)
    | some 101 | some 69 => (exponent text positive sig 0 (j + 1)).map fun (f, k) => (.float f, k)
    | _ => .ok (whole sig, j)
  match at? text i with
  | none => .error (faultAt text .eofValue i)
  | some 48 =>
    match at? text (i + 1) with
    | some c => if isDigit c then .error (faultAhead text .invalidNumber (i + 1)) else afterDigits 0 (i + 1)
    | none => afterDigits 0 (i + 1)
  | some c =>
    if !isDigit c then .error (faultAt text .invalidNumber (i + 1))
    else
      let k := skipDigits text i
      let v := digitsValue text i k
      if v ≤ 18446744073709551615 then afterDigits v k
      else
        -- too long for 64 bits: the first nineteen or twenty digits and a power of ten
        let rec fit : Nat → Nat → Nat → Nat × Nat
          | 0, acc, p => (acc, p)
          | fuel + 1, acc, p =>
            let d := (text.get! p).toNat - 48
            if acc * 10 + d > 18446744073709551615 then (acc, p) else fit fuel (acc * 10 + d) (p + 1)
        let (sig, p) := fit (k - i) 0 i
        let extra : Int := k - p
        match at? text k with
        | some 46 => (fraction text positive sig extra (k + 1)).map fun (f, q) => (.float f, q)
        | some 101 | some 69 => (exponent text positive sig extra (k + 1)).map fun (f, q) => (.float f, q)
        | _ =>
          match floatOfDecimal positive sig extra with
          | some f => .ok (.float f, k)
          | none => .error (faultAt text .numberOutOfRange k)

def skipExponent (text : ByteArray) (i : Nat) : Except Error Nat :=
  let j := match at? text i with
    | some 43 | some 45 => i + 1
    | _ => i
  match at? text j with
  | some c => if isDigit c then .ok (skipDigits text (j + 1)) else .error (faultAt text .invalidNumber (j + 1))
  | none => .error (faultAt text .invalidNumber j)

def skipNumber (text : ByteArray) (i : Nat) : Except Error Nat :=
  let afterDigits (j : Nat) : Except Error Nat :=
    match at? text j with
    | some 46 =>
      let k := skipDigits text (j + 1)
      if k == j + 1 then .error (faultAhead text .invalidNumber (j + 1))
      else
        match at? text k with
        | some 101 | some 69 => skipExponent text (k + 1)
        | _ => .ok k
    | some 101 | some 69 => skipExponent text (j + 1)
    | _ => .ok j
  match at? text i with
  | some 48 =>
    match at? text (i + 1) with
    | some c => if isDigit c then .error (faultAhead text .invalidNumber (i + 1)) else afterDigits (i + 1)
    | none => afterDigits (i + 1)
  | some c => if isDigit c then afterDigits (skipDigits text i) else .error (faultAt text .invalidNumber (i + 1))
  | none => .error (faultAt text .invalidNumber i)

def hexValue (b : UInt8) : Option Nat :=
  if 48 ≤ b && b ≤ 57 then some (b.toNat - 48)
  else if 97 ≤ b && b ≤ 102 then some (b.toNat - 87)
  else if 65 ≤ b && b ≤ 70 then some (b.toNat - 55)
  else none

def hexEscape (text : ByteArray) (i : Nat) : Except Error (Nat × Nat) :=
  if i + 4 ≤ text.size then
    let ds := [text.get! i, text.get! (i + 1), text.get! (i + 2), text.get! (i + 3)].map hexValue
    match ds with
    | [some a, some b, some c, some d] => .ok (((a * 16 + b) * 16 + c) * 16 + d, i + 4)
    | _ => .error (faultAt text .invalidEscape (i + 4))
  else .error (faultAt text .eofString text.size)

def utf8Bytes (n : Nat) : List UInt8 :=
  if n < 0x80 then [n.toUInt8]
  else if n < 0x800 then [(0xC0 + n / 64).toUInt8, (0x80 + n % 64).toUInt8]
  else if n < 0x10000 then
    [(0xE0 + n / 4096).toUInt8, (0x80 + n / 64 % 64).toUInt8, (0x80 + n % 64).toUInt8]
  else
    [(0xF0 + n / 262144).toUInt8, (0x80 + n / 4096 % 64).toUInt8, (0x80 + n / 64 % 64).toUInt8,
      (0x80 + n % 64).toUInt8]

def unicodeEscape (text : ByteArray) (i : Nat) : Except Error (List UInt8 × Nat) := do
  let (n, j) ← hexEscape text i
  if 0xDC00 ≤ n && n ≤ 0xDFFF then throw (faultAt text .loneLeadingSurrogate j)
  if n < 0xD800 || n > 0xDBFF then return (utf8Bytes n, j)
  match at? text j with
  | none => throw (faultAt text .eofString j)
  | some 92 =>
    match at? text (j + 1) with
    | none => throw (faultAt text .eofString (j + 1))
    | some 117 =>
      let (n2, k) ← hexEscape text (j + 2)
      if n2 < 0xDC00 || n2 > 0xDFFF then throw (faultAt text .loneLeadingSurrogate k)
      return (utf8Bytes (((n - 0xD800) * 1024 + (n2 - 0xDC00)) + 0x10000), k)
    | some _ => throw (faultAt text .unexpectedEndOfHexEscape (j + 2))
  | some _ => throw (faultAt text .unexpectedEndOfHexEscape (j + 1))

def string (text : ByteArray) (i : Nat) : Except Error (ByteArray × Nat) :=
  let rec go : Nat → Nat → ByteArray → Except Error (ByteArray × Nat)
    | 0, j, _ => .error (faultAt text .eofString j)
    | fuel + 1, j, acc =>
      match at? text j with
      | none => .error (faultAt text .eofString text.size)
      | some 34 => .ok (acc, j + 1)
      | some 92 =>
        match at? text (j + 1) with
        | none => .error (faultAt text .eofString text.size)
        | some c =>
          let simple : Option UInt8 :=
            match c with
            | 34 => some 34 | 92 => some 92 | 47 => some 47 | 98 => some 8 | 102 => some 12
            | 110 => some 10 | 114 => some 13 | 116 => some 9 | _ => none
          match simple with
          | some b => go fuel (j + 2) (acc.push b)
          | none =>
            if c == 117 then
              match unicodeEscape text (j + 2) with
              | .ok (bs, k) => go fuel k (bs.foldl ByteArray.push acc)
              | .error e => .error e
            else .error (faultAt text .invalidEscape (j + 2))
      | some b => if b < 32 then .error (faultAt text .controlCharacter (j + 1)) else go fuel (j + 1) (acc.push b)
  go (text.size - i + 1) i ByteArray.empty

def skipString (text : ByteArray) (i : Nat) : Except Error Nat :=
  let rec go : Nat → Nat → Except Error Nat
    | 0, j => .error (faultAt text .eofString j)
    | fuel + 1, j =>
      match at? text j with
      | none => .error (faultAt text .eofString text.size)
      | some 34 => .ok (j + 1)
      | some 92 =>
        match at? text (j + 1) with
        | none => .error (faultAt text .eofString text.size)
        | some c =>
          if c == 34 || c == 92 || c == 47 || c == 98 || c == 102 || c == 110 || c == 114 || c == 116 then
            go fuel (j + 2)
          else if c == 117 then
            match hexEscape text (j + 2) with
            | .ok (_, k) => go fuel k
            | .error e => .error e
          else .error (faultAt text .invalidEscape (j + 2))
      | some b => if b < 32 then .error (faultAt text .controlCharacter j) else go fuel (j + 1)
  go (text.size - i + 1) i

def decodeText (bs : ByteArray) : String :=
  (String.fromUTF8? bs).getD ""

def stringNode (text : ByteArray) (i : Nat) : Except Break (Except Error String × Nat) :=
  match skipString text (i + 1) with
  | .error skipped =>
    match string text (i + 1) with
    | .error kept => .error ⟨kept, skipped⟩
    | .ok _ => .error ⟨skipped, skipped⟩
  | .ok stop =>
    match string text (i + 1) with
    | .ok (bs, _) => .ok (.ok (decodeText bs), stop)
    | .error kept => .ok (.error kept, stop)

mutual

def value (text : ByteArray) : Nat → Nat → Node × Nat
  | 0, i => (.broken (both (faultAt text .eofValue i)), i)
  | fuel + 1, i =>
    match at? text i with
    | none => (.broken (both (faultAhead text .eofValue i)), i)
    | some 110 =>
      match literal text [117, 108, 108] (i + 1) with
      | .ok j => (.null i j, j)
      | .error e => (.broken (both e), i)
    | some 116 =>
      match literal text [114, 117, 101] (i + 1) with
      | .ok j => (.bool true i j, j)
      | .error e => (.broken (both e), i)
    | some 102 =>
      match literal text [97, 108, 115, 101] (i + 1) with
      | .ok j => (.bool false i j, j)
      | .error e => (.broken (both e), i)
    | some 34 =>
      match stringNode text i with
      | .ok (s, j) => (.str s i j, j)
      | .error b => (.broken b, i)
    | some 91 => items text fuel i (i + 1) true []
    | some 123 => entries text fuel i (i + 1) true []
    | some c =>
      if c == 45 || isDigit c then
        let body := if c == 45 then i + 1 else i
        match skipNumber text body with
        | .error skipped =>
          match number text (c != 45) body with
          | .error kept => (.broken ⟨kept, skipped⟩, i)
          | .ok _ => (.broken ⟨skipped, skipped⟩, i)
        | .ok stop =>
          match number text (c != 45) body with
          | .ok (n, _) => (.num (.ok n) i stop, stop)
          | .error kept => (.num (.error kept) i stop, stop)
      else (.broken (both (faultAhead text .expectedValue i)), i)

def items (text : ByteArray) : Nat → Nat → Nat → Bool → List Node → Node × Nat
  | 0, start, i, _, acc => (.arr start acc.reverse (.error (both (faultAt text .eofList i))), i)
  | fuel + 1, start, i, first, acc =>
    let j := skipBlank text i
    let cut (b : Break) : Node × Nat := (.arr start acc.reverse (.error b), j)
    -- either the array is done here, or the next item starts at an offset
    let step : Sum (Node × Nat) Nat :=
      match at? text j with
      | none => .inl (cut (both (faultAhead text .eofList j)))
      | some 93 => .inl (.arr start acc.reverse (.ok j), j + 1)
      | some 44 =>
        if first then .inr j
        else
          let k := skipBlank text (j + 1)
          match at? text k with
          | some 93 => .inl (cut ⟨faultAhead text .trailingComma k, faultAhead text .expectedValue k⟩)
          | none => .inl (cut (both (faultAhead text .eofValue k)))
          | some _ => .inr k
      | some _ => if first then .inr j else .inl (cut (both (faultAhead text .expectedListCommaOrEnd j)))
    match step with
    | .inl done => done
    | .inr k =>
      let (v, e) := value text fuel k
      match v with
      | .broken b => (.arr start (v :: acc).reverse (.error b), e)
      | _ => items text fuel start e false (v :: acc)

def entries (text : ByteArray) : Nat → Nat → Nat → Bool →
    List (Except Error String × Nat × Node) → Node × Nat
  | 0, start, i, _, acc => (.obj start acc.reverse (.error (both (faultAt text .eofObject i))), i)
  | fuel + 1, start, i, first, acc =>
    let j := skipBlank text i
    let cut (b : Break) (p : Nat) : Node × Nat := (.obj start acc.reverse (.error b), p)
    -- either the object is done here, or the next key starts at an offset
    let step : Sum (Node × Nat) Nat :=
      match at? text j with
      | none => .inl (cut (both (faultAhead text .eofObject j)) j)
      | some 125 => .inl (.obj start acc.reverse (.ok j), j + 1)
      | some 44 =>
        if first then .inl (cut (both (faultAhead text .keyMustBeString j)) j)
        else
          let k := skipBlank text (j + 1)
          match at? text k with
          | some 34 => .inr k
          | some 125 => .inl (cut ⟨faultAhead text .trailingComma k, faultAhead text .keyMustBeString k⟩ k)
          | none => .inl (cut ⟨faultAhead text .eofValue k, faultAhead text .eofObject k⟩ k)
          | some _ => .inl (cut (both (faultAhead text .keyMustBeString k)) k)
      | some 34 => if first then .inr j else .inl (cut (both (faultAhead text .expectedObjectCommaOrEnd j)) j)
      | some _ =>
        if first then .inl (cut (both (faultAhead text .keyMustBeString j)) j)
        else .inl (cut (both (faultAhead text .expectedObjectCommaOrEnd j)) j)
    match step with
    | .inl done => done
    | .inr k =>
      match stringNode text k with
      | .error b => cut b k
      | .ok (name, afterKey) =>
        let c := skipBlank text afterKey
        let keep (b : Break) : Node × Nat :=
          (.obj start ((name, afterKey, .broken b) :: acc).reverse (.error b), c)
        match at? text c with
        | some 58 =>
          let (v, e) := value text fuel (skipBlank text (c + 1))
          match v with
          | .broken b => (.obj start ((name, afterKey, v) :: acc).reverse (.error b), e)
          | _ => entries text fuel start e false ((name, afterKey, v) :: acc)
        | some _ => keep (both (faultAhead text .expectedColon c))
        | none => keep (both (faultAhead text .eofObject c))

end

end Read

/-- Read a whole JSON text into a node; the text after the value must be blank. The second
part is the error for text after the value, if there is some. -/
def Node.read (text : ByteArray) : Node × Option Error :=
  let (v, e) := Read.value text (2 * text.size + 4) (Read.skipBlank text 0)
  match v with
  | .broken _ => (v, none)
  | _ =>
    let k := Read.skipBlank text e
    if k < text.size then (v, some (Read.faultAhead text .trailingCharacters k)) else (v, none)

end CodeGraph.Json
