/-!
# XXH3, 64 bits

The 64-bit XXH3 hash of a byte string with seed 0 and the default 192-byte secret. Inputs up to
16 bytes are mixed directly, up to 240 bytes in 16-byte pieces, longer ones through eight
accumulators fed in 64-byte stripes, scrambled after each 1024-byte block. All arithmetic is on
64-bit words and wraps; a 128-bit product is folded by xor of its halves.
-/

namespace CodeGraph.Hash

def secret : ByteArray := ⟨#[
  0xb8, 0xfe, 0x6c, 0x39, 0x23, 0xa4, 0x4b, 0xbe, 0x7c, 0x01, 0x81, 0x2c,
  0xf7, 0x21, 0xad, 0x1c, 0xde, 0xd4, 0x6d, 0xe9, 0x83, 0x90, 0x97, 0xdb,
  0x72, 0x40, 0xa4, 0xa4, 0xb7, 0xb3, 0x67, 0x1f, 0xcb, 0x79, 0xe6, 0x4e,
  0xcc, 0xc0, 0xe5, 0x78, 0x82, 0x5a, 0xd0, 0x7d, 0xcc, 0xff, 0x72, 0x21,
  0xb8, 0x08, 0x46, 0x74, 0xf7, 0x43, 0x24, 0x8e, 0xe0, 0x35, 0x90, 0xe6,
  0x81, 0x3a, 0x26, 0x4c, 0x3c, 0x28, 0x52, 0xbb, 0x91, 0xc3, 0x00, 0xcb,
  0x88, 0xd0, 0x65, 0x8b, 0x1b, 0x53, 0x2e, 0xa3, 0x71, 0x64, 0x48, 0x97,
  0xa2, 0x0d, 0xf9, 0x4e, 0x38, 0x19, 0xef, 0x46, 0xa9, 0xde, 0xac, 0xd8,
  0xa8, 0xfa, 0x76, 0x3f, 0xe3, 0x9c, 0x34, 0x3f, 0xf9, 0xdc, 0xbb, 0xc7,
  0xc7, 0x0b, 0x4f, 0x1d, 0x8a, 0x51, 0xe0, 0x4b, 0xcd, 0xb4, 0x59, 0x31,
  0xc8, 0x9f, 0x7e, 0xc9, 0xd9, 0x78, 0x73, 0x64, 0xea, 0xc5, 0xac, 0x83,
  0x34, 0xd3, 0xeb, 0xc3, 0xc5, 0x81, 0xa0, 0xff, 0xfa, 0x13, 0x63, 0xeb,
  0x17, 0x0d, 0xdd, 0x51, 0xb7, 0xf0, 0xda, 0x49, 0xd3, 0x16, 0x55, 0x26,
  0x29, 0xd4, 0x68, 0x9e, 0x2b, 0x16, 0xbe, 0x58, 0x7d, 0x47, 0xa1, 0xfc,
  0x8f, 0xf8, 0xb8, 0xd1, 0x7a, 0xd0, 0x31, 0xce, 0x45, 0xcb, 0x3a, 0x8f,
  0x95, 0x16, 0x04, 0x28, 0xaf, 0xd7, 0xfb, 0xca, 0xbb, 0x4b, 0x40, 0x7e]⟩

def byteAt (b : ByteArray) (i : Nat) : UInt64 := ((b[i]?).getD 0).toUInt64

def readLE (b : ByteArray) (i : Nat) (n : Nat) : UInt64 :=
  (List.range n).foldr (fun k acc => (acc <<< 8) ||| byteAt b (i + k)) 0

def read64 (b : ByteArray) (i : Nat) : UInt64 := readLE b i 8

def read32 (b : ByteArray) (i : Nat) : UInt64 := readLE b i 4

def prime32a : UInt64 := 0x9E3779B1
def prime32b : UInt64 := 0x85EBCA77
def prime32c : UInt64 := 0xC2B2AE3D
def prime64a : UInt64 := 0x9E3779B185EBCA87
def prime64b : UInt64 := 0xC2B2AE3D27D4EB4F
def prime64c : UInt64 := 0x165667B19E3779F9
def prime64d : UInt64 := 0x85EBCA77C2B2AE63
def prime64e : UInt64 := 0x27D4EB2F165667C5
def primeMx1 : UInt64 := 0x165667919E3779F9
def primeMx2 : UInt64 := 0x9FB21C651E98DF25

def rotl (x : UInt64) (r : UInt64) : UInt64 := (x <<< r) ||| (x >>> (64 - r))

def avalanche64 (h : UInt64) : UInt64 :=
  let h := h ^^^ (h >>> 33)
  let h := h * prime64b
  let h := h ^^^ (h >>> 29)
  let h := h * prime64c
  h ^^^ (h >>> 32)

def avalanche (h : UInt64) : UInt64 :=
  let h := h ^^^ (h >>> 37)
  let h := h * primeMx1
  h ^^^ (h >>> 32)

def rrmxmx (h : UInt64) (len : UInt64) : UInt64 :=
  let h := h ^^^ (rotl h 49 ^^^ rotl h 24)
  let h := h * primeMx2
  let h := h ^^^ ((h >>> 35) + len)
  let h := h * primeMx2
  h ^^^ (h >>> 28)

def foldedProduct (a b : UInt64) : UInt64 :=
  let p := a.toNat * b.toNat
  (p % Nat.pow 2 64).toUInt64 ^^^ (p / Nat.pow 2 64).toUInt64

def swap64 (x : UInt64) : UInt64 :=
  (List.range 8).foldl (fun acc k => (acc <<< 8) ||| ((x >>> (8 * k.toUInt64)) &&& 0xFF)) 0

def mix16 (d : ByteArray) (i : Nat) (j : Nat) : UInt64 :=
  foldedProduct (read64 d i ^^^ read64 secret j) (read64 d (i + 8) ^^^ read64 secret (j + 8))

def upTo128 (d : ByteArray) : UInt64 :=
  let n := d.size
  let pairs : List (Nat × Nat) :=
    (if n > 96 then [(48, 96), (n - 64, 112)] else []) ++
    (if n > 64 then [(32, 64), (n - 48, 80)] else []) ++
    (if n > 32 then [(16, 32), (n - 32, 48)] else []) ++ [(0, 0), (n - 16, 16)]
  avalanche (pairs.foldl (fun acc (i, j) => acc + mix16 d i j) (n.toUInt64 * prime64a))

def upTo240 (d : ByteArray) : UInt64 :=
  let n := d.size
  let first := (List.range 8).foldl (fun acc i => acc + mix16 d (16 * i) (16 * i))
    (n.toUInt64 * prime64a)
  let rest := ((List.range (n / 16)).drop 8).foldl
    (fun acc i => acc + mix16 d (16 * i) (16 * (i - 8) + 3)) (avalanche first)
  avalanche (rest + mix16 d (n - 16) 119)

abbrev Accumulators := Array UInt64

def feedStripe (d : ByteArray) (acc : Accumulators) (off s : Nat) : Accumulators :=
  (List.range 8).foldl (fun acc i =>
    let value := read64 d (off + 8 * i)
    let key := value ^^^ read64 secret (s + 8 * i)
    let acc := acc.modify (i ^^^ 1) (· + value)
    acc.modify i (· + (key &&& (0xFFFFFFFF : UInt64)) * (key >>> 32))) acc

def scramble (acc : Accumulators) : Accumulators :=
  (List.range 8).foldl (fun acc i =>
    acc.modify i fun x =>
      let x := x ^^^ (x >>> 47)
      let x := x ^^^ read64 secret (128 + 8 * i)
      x * prime32a) acc

def feedStripes (d : ByteArray) (acc : Accumulators) (off count : Nat) : Accumulators :=
  (List.range count).foldl (fun acc k => feedStripe d acc (off + 64 * k) (8 * k)) acc

def long (d : ByteArray) : UInt64 :=
  let n := d.size
  let init : Accumulators :=
    #[prime32c, prime64a, prime64b, prime64c, prime64d, prime32b, prime64e, prime32a]
  let blocks := (n - 1) / 1024
  let acc := (List.range blocks).foldl (fun acc b => scramble (feedStripes d acc (1024 * b) 16))
    init
  let acc := feedStripes d acc (1024 * blocks) (((n - 1) - 1024 * blocks) / 64)
  let acc := feedStripe d acc (n - 64) (192 - 64 - 7)
  let total := (List.range 4).foldl (fun res i =>
    res + foldedProduct (acc.getD (2 * i) 0 ^^^ read64 secret (11 + 16 * i))
      (acc.getD (2 * i + 1) 0 ^^^ read64 secret (11 + 16 * i + 8))) (n.toUInt64 * prime64a)
  avalanche total

/-- The XXH3 64-bit hash of a byte string, seed 0. -/
def xxh3 (d : ByteArray) : UInt64 :=
  let n := d.size
  if n == 0 then avalanche64 (read64 secret 56 ^^^ read64 secret 64)
  else if n ≤ 3 then
    let combined := (byteAt d 0 <<< 16) ||| (byteAt d (n / 2) <<< 24) ||| byteAt d (n - 1) |||
      (n.toUInt64 <<< 8)
    avalanche64 (combined ^^^ (read32 secret 0 ^^^ read32 secret 4))
  else if n ≤ 8 then
    let whole := read32 d (n - 4) + (read32 d 0 <<< 32)
    rrmxmx (whole ^^^ (read64 secret 8 ^^^ read64 secret 16)) n.toUInt64
  else if n ≤ 16 then
    let lo := read64 d 0 ^^^ (read64 secret 24 ^^^ read64 secret 32)
    let hi := read64 d (n - 8) ^^^ (read64 secret 40 ^^^ read64 secret 48)
    avalanche (n.toUInt64 + swap64 lo + hi + foldedProduct lo hi)
  else if n ≤ 128 then upTo128 d
  else if n ≤ 240 then upTo240 d
  else long d

def hex16 (x : UInt64) : String :=
  let digits := Nat.toDigits 16 x.toNat
  String.ofList (List.replicate (16 - digits.length) '0' ++ digits)

/-- The content hash of bytes: `xxh3:` and sixteen hex digits. -/
def contentHash (d : ByteArray) : String := "xxh3:" ++ hex16 (xxh3 d)

end CodeGraph.Hash
