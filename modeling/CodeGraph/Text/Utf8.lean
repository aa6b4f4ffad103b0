/-!
# Reading UTF-8 with replacement

Bytes are read as UTF-8; each maximal part of an ill-formed sequence (a byte that starts no
sequence, or a start byte with the continuation bytes that were valid so far) becomes one
U+FFFD. Well-formed sequences are the shortest forms of code points outside the surrogates.
-/

namespace CodeGraph.Text

def replacement : Char := '\uFFFD'

def sequenceShape (b : UInt8) : Option (UInt8 × UInt8 × Nat) :=
  if b < 0x80 then some (0, 0, 0)
  else if 0xC2 ≤ b && b ≤ 0xDF then some (0x80, 0xBF, 1)
  else if b == 0xE0 then some (0xA0, 0xBF, 2)
  else if b == 0xED then some (0x80, 0x9F, 2)
  else if 0xE1 ≤ b && b ≤ 0xEF then some (0x80, 0xBF, 2)
  else if b == 0xF0 then some (0x90, 0xBF, 3)
  else if b == 0xF4 then some (0x80, 0x8F, 3)
  else if 0xF1 ≤ b && b ≤ 0xF3 then some (0x80, 0xBF, 3)
  else none

def validContinuations (lo hi : UInt8) : Nat → List UInt8 → Nat
  | 0, _ => 0
  | _ + 1, [] => 0
  | want + 1, c :: rest =>
    if lo ≤ c && c ≤ hi then 1 + validContinuations 0x80 0xBF want rest else 0

def codePoint (b : UInt8) (conts : List UInt8) : Nat :=
  let lead := match conts.length with
    | 0 => b.toNat
    | 1 => b.toNat % 32
    | 2 => b.toNat % 16
    | _ => b.toNat % 8
  conts.foldl (fun acc c => acc * 64 + c.toNat % 64) lead

def decodeFrom : Nat → List UInt8 → List Char
  | 0, _ => []
  | _ + 1, [] => []
  | fuel + 1, b :: rest =>
    match sequenceShape b with
    | none => replacement :: decodeFrom fuel rest
    | some (lo, hi, want) =>
      let ok := validContinuations lo hi want rest
      if ok == want then Char.ofNat (codePoint b (rest.take want)) :: decodeFrom fuel (rest.drop want)
      else replacement :: decodeFrom fuel (rest.drop ok)

/-- The text of some bytes, ill-formed parts replaced by U+FFFD. -/
def decodeLossy (bytes : ByteArray) : String :=
  String.ofList (decodeFrom (bytes.size + 1) bytes.toList)

end CodeGraph.Text
