/-!
# Text of binary64 numbers

`shortestText` writes the decimal with the fewest significant digits that reads back as the same
float, nearest on ties; `floatOfDecimal` reads a 64-bit significand and a power of ten back into a
float.
-/

namespace CodeGraph.Json

structure Binary where
  negative : Bool
  mant : Nat
  exp : Int

def Binary.ofFloat (f : Float) : Binary :=
  let b := f.toBits.toNat
  let neg := b >>> 63 == 1
  let e := (b >>> 52) % 2048
  let m := b % Nat.pow 2 52
  if e == 0 then ⟨neg, m, -1074⟩ else ⟨neg, m + Nat.pow 2 52, (e : Int) - 1075⟩

def compareScaled (a : Nat) (p : Int) (b : Nat) (q : Int) : Ordering :=
  let lhs := a * Nat.pow 10 p.toNat * Nat.pow 2 (-q).toNat
  let rhs := b * Nat.pow 2 q.toNat * Nat.pow 10 (-p).toNat
  compare lhs rhs

def decimalMagnitude (m : Nat) (q : Int) : Int :=
  let est : Int := (((Nat.log2 m : Int) + q) * 78913) / 262144
  let rec up : Nat → Int → Int
    | 0, j => j
    | n + 1, j => if compareScaled 1 (j + 1) m q != .gt then up n (j + 1) else j
  let rec down : Nat → Int → Int
    | 0, j => j
    | n + 1, j => if compareScaled 1 j m q == .gt then down n (j - 1) else j
  up 4 (down 4 est)

def stripZeros : Nat → Nat → Int → Nat × Int
  | 0, c, p => (c, p)
  | n + 1, c, p => if c != 0 && c % 10 == 0 then stripZeros n (c / 10) (p + 1) else (c, p)

def shortestDigits (m : Nat) (q : Int) (lowerHalf : Bool) : Nat × Int :=
  -- the value and the ends of its rounding interval, in units of 2^(q-2)
  let v4 := 4 * m
  let hi4 := 4 * m + 2
  let lo4 := if lowerHalf then 4 * m - 1 else 4 * m - 2
  let closed := m % 2 == 0
  let inside (c : Nat) (p : Int) : Bool :=
    let aboveLow := compareScaled c p lo4 (q - 2)
    let belowHigh := compareScaled c p hi4 (q - 2)
    (aboveLow == .gt || (closed && aboveLow == .eq)) &&
      (belowHigh == .lt || (closed && belowHigh == .eq))
  let j := decimalMagnitude m q
  let rec search : Nat → Nat → Nat × Int
    | 0, _ => (m, q.toNat)
    | fuel + 1, k =>
      let p : Int := j - (k : Int) + 1
      -- floor of v / 10^p
      let num := v4 * Nat.pow 2 (q - 2).toNat * Nat.pow 10 (-p).toNat
      let den := Nat.pow 2 (-(q - 2)).toNat * Nat.pow 10 p.toNat
      let cLo := num / den
      let cHi := cLo + 1
      let okLo := inside cLo p
      let okHi := inside cHi p
      if okLo && okHi then
        -- the nearer of the two, a tie to the even one
        let dLo := num - cLo * den
        let dHi := cHi * den - num
        if dLo < dHi then (cLo, p) else if dHi < dLo then (cHi, p)
        else if cLo % 2 == 0 then (cLo, p) else (cHi, p)
      else if okLo then (cLo, p)
      else if okHi then (cHi, p)
      else search fuel (k + 1)
  let (c, p) := search 17 1
  stripZeros 20 c p

def zeros (n : Nat) : String :=
  String.ofList (List.replicate n '0')

def exponentText (n : Int) : String :=
  if n < 0 then "e-" ++ toString n.natAbs else "e+" ++ toString n.natAbs

def layoutDigits (d : String) (p : Int) : String :=
  let len : Int := d.length
  let kk := len + p
  if 0 ≤ p && kk ≤ 16 then d ++ zeros p.toNat ++ ".0"
  else if 0 < kk && kk ≤ 16 then
    String.ofList (d.toList.take kk.toNat) ++ "." ++ String.ofList (d.toList.drop kk.toNat)
  else if -5 < kk && kk ≤ 0 then "0." ++ zeros (-kk).toNat ++ d
  else if len == 1 then d ++ exponentText (kk - 1)
  else
    String.ofList (d.toList.take 1) ++ "." ++ String.ofList (d.toList.drop 1) ++ exponentText (kk - 1)

/-- The shortest text of a finite float; `NaN` and the infinities have none. -/
def shortestText (f : Float) : Option String :=
  if f.isNaN || f.isInf then none
  else
    let b := Binary.ofFloat f
    let sign := if b.negative then "-" else ""
    if b.mant == 0 then some (sign ++ "0.0")
    else
      let lowerHalf := b.mant == Nat.pow 2 52 && b.exp > -1074
      let (c, p) := shortestDigits b.mant b.exp lowerHalf
      some (sign ++ layoutDigits (toString c) p)

def wholeText (f : Float) : String :=
  let b := Binary.ofFloat f
  let sign := if b.negative then "-" else ""
  let whole :=
    if b.exp ≥ 0 then b.mant * Nat.pow 2 b.exp.toNat
    else
      let sh := (-b.exp).toNat
      let intPart := b.mant / Nat.pow 2 sh
      let rest := b.mant % Nat.pow 2 sh
      let half := Nat.pow 2 sh / 2
      if rest > half || (rest == half && sh > 0 && intPart % 2 == 1) then intPart + 1 else intPart
  sign ++ toString whole

def floatOfScaled (n : Nat) (e : Int) : Float :=
  if n == 0 then 0.0
  else
    let len := Nat.log2 n
    let (m, sh) :=
      if len ≤ 52 then (n * Nat.pow 2 (52 - len), -((52 - len : Nat) : Int))
      else
        let s := len - 52
        let m0 := n / Nat.pow 2 s
        let rest := n % Nat.pow 2 s
        let half := Nat.pow 2 s / 2
        let m1 := if rest > half || (rest == half && m0 % 2 == 1) then m0 + 1 else m0
        if m1 == Nat.pow 2 53 then (Nat.pow 2 52, (s : Int) + 1) else (m1, (s : Int))
    let biased := sh + e + 52 + 1023
    Float.ofBits (UInt64.ofNat (biased.toNat * Nat.pow 2 52 + (m - Nat.pow 2 52)))

def pow10 (i : Nat) : Float :=
  floatOfScaled (Nat.pow 10 i) 0

def floatOfDecimal (positive : Bool) (significand : Nat) (exponent : Int) : Option Float :=
  let start := (UInt64.ofNat significand).toFloat
  let rec go : Nat → Float → Int → Option Float
    | 0, f, _ => some f
    | fuel + 1, f, e =>
      if e.natAbs ≤ 308 then
        if e ≥ 0 then
          let g := f * pow10 e.toNat
          if g.isInf then none else some g
        else some (f / pow10 e.natAbs)
      else if f == 0.0 then some f
      else if e ≥ 0 then none
      else go fuel (f / pow10 308) (e + 308)
  (go (exponent.natAbs / 308 + 2) start exponent).map fun f => if positive then f else -f

end CodeGraph.Json
