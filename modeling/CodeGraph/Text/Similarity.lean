/-!
# Similarity of words

The Jaro similarity of two words compares their characters: a character of one matches an equal,
not yet matched character of the other at most `max (|a|, |b|) / 2 - 1` places away, the first
such one; `t` is half the number of matched characters that stand in another order. With `m`
matches the similarity is `(m / |a| + m / |b| + (m - t) / m) / 3`, and zero without matches; two
empty words are alike. It is kept as an exact fraction.
-/

namespace CodeGraph.Text

structure Ratio where
  num : Nat
  den : Nat
  deriving Inhabited, Repr

def Ratio.lt (a b : Ratio) : Bool := a.num * b.den < b.num * a.den

def matchOne (c : Char) (i range : Nat) (b : List Char) (taken : List Bool) : Option Nat :=
  let lo := i - range
  let hi := i + range + 1
  ((b.zip taken).zipIdx.find? fun ((d, used), j) => lo ≤ j && j < hi && d == c && !used).map (·.2)

def jaro (a b : String) : Ratio :=
  let xs := a.toList
  let ys := b.toList
  if xs.isEmpty && ys.isEmpty then ⟨1, 1⟩
  else if xs.isEmpty || ys.isEmpty then ⟨0, 1⟩
  else
    let range := max xs.length ys.length / 2 - 1
    let (aMarks, bMarks) := xs.zipIdx.foldl (fun (acc : List Bool × List Bool) (c, i) =>
      match matchOne c i range ys acc.2 with
      | some j => (acc.1 ++ [true], acc.2.set j true)
      | none => (acc.1 ++ [false], acc.2)) ([], List.replicate ys.length false)
    let aMatched := (xs.zip aMarks).filterMap fun (c, m) => if m then some c else none
    let bMatched := (ys.zip bMarks).filterMap fun (c, m) => if m then some c else none
    let m := aMatched.length
    if m == 0 then ⟨0, 1⟩
    else
      let t := ((aMatched.zip bMatched).filter fun (p, q) => p != q).length / 2
      -- (m/|a| + m/|b| + (m-t)/m) / 3 over the common denominator 3·|a|·|b|·m
      ⟨m * ys.length * m + m * xs.length * m + (m - t) * xs.length * ys.length,
       3 * xs.length * ys.length * m⟩

/-- Whether two words are similar: a Jaro similarity above 0.7. -/
def similar (a b : String) : Bool := Ratio.lt ⟨7, 10⟩ (jaro a b)

def similarTo (word : String) (candidates : List String) : List String :=
  let scored := (candidates.map fun c => (jaro word c, c)).filter fun (r, _) => Ratio.lt ⟨7, 10⟩ r
  (scored.mergeSort fun x y => !Ratio.lt y.1 x.1).map (·.2)

end CodeGraph.Text
