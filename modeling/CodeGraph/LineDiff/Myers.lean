import CodeGraph.LineDiff.Op

/-!
# The shortest edit script

Myers' divide and conquer: equal ends are taken off, and the middle snake of a shortest edit
script, found by searching from both corners at once, splits the rest in two.
-/

namespace CodeGraph.LineDiff

structure Frontier where
  offset : Nat
  xs : Array Nat
  deriving Inhabited

namespace Frontier

def new (size : Nat) : Frontier := ⟨size, Array.replicate (2 * size) 0⟩

def get (v : Frontier) (k : Int) : Nat := v.xs.getD (k + v.offset).toNat 0

def set (v : Frontier) (k : Int) (x : Nat) : Frontier :=
  { v with xs := v.xs.set! (k + v.offset).toNat x }

end Frontier

def maxSteps (n m : Nat) : Nat := (n + m + 1) / 2 + 1

structure Runs where
  old : Array String
  new : Array String
  os : Nat
  oe : Nat
  ns : Nat
  ne : Nat

namespace Runs

def n (r : Runs) : Nat := r.oe - r.os

def m (r : Runs) : Nat := r.ne - r.ns

def delta (r : Runs) : Int := (r.n : Int) - r.m

def odd (r : Runs) : Bool := r.delta % 2 == 1

def start (v : Frontier) (d : Nat) (k : Int) : Nat :=
  if k == -(d : Int) || (k != d && v.get (k - 1) < v.get (k + 1)) then v.get (k + 1)
  else v.get (k - 1) + 1

def forward (r : Runs) (d : Nat) (vb : Frontier) : Nat → Nat → Frontier → Frontier ⊕ (Nat × Nat)
  | 0, _, vf => .inl vf
  | fuel + 1, i, vf =>
    if i > d then .inl vf
    else
      let k : Int := (d : Int) - 2 * i
      let x0 := start vf d k
      let y0 := ((x0 : Int) - k).toNat
      let x := if x0 < r.n && y0 < r.m then
          x0 + prefixLen r.old (r.os + x0, r.oe) r.new (r.ns + y0, r.ne)
        else x0
      let vf := vf.set k x
      if r.odd && (k - r.delta).natAbs + 1 ≤ d && vf.get k + vb.get (-(k - r.delta)) ≥ r.n then
        .inr (x0 + r.os, y0 + r.ns)
      else forward r d vb fuel (i + 1) vf

def backward (r : Runs) (d : Nat) (vf : Frontier) : Nat → Nat → Frontier → Frontier ⊕ (Nat × Nat)
  | 0, _, vb => .inl vb
  | fuel + 1, i, vb =>
    if i > d then .inl vb
    else
      let k : Int := (d : Int) - 2 * i
      let x0 := start vb d k
      let y0 := ((x0 : Int) - k).toNat
      let adv := if x0 < r.n && y0 < r.m then
          suffixLen r.old (r.os, r.os + r.n - x0) r.new (r.ns, r.ns + r.m - y0)
        else 0
      let x := x0 + adv
      let y := y0 + adv
      let vb := vb.set k x
      if !r.odd && (k - r.delta).natAbs ≤ d && vb.get k + vf.get (-(k - r.delta)) ≥ r.n then
        .inr (r.n - x + r.os, r.m - y + r.ns)
      else backward r d vf fuel (i + 1) vb

def search (r : Runs) : Nat → Nat → Frontier → Frontier → Option (Nat × Nat)
  | 0, _, _, _ => none
  | fuel + 1, d, vf, vb =>
    if d ≥ maxSteps r.n r.m then none
    else
      match forward r d vb (d + 2) 0 vf with
      | .inr snake => some snake
      | .inl vf =>
        match backward r d vf (d + 2) 0 vb with
        | .inr snake => some snake
        | .inl vb => search r fuel (d + 1) vf vb

def middleSnake (r : Runs) : Option (Nat × Nat) :=
  let size := maxSteps r.n r.m
  search r (size + 1) 0 ((Frontier.new size).set 1 0) ((Frontier.new size).set 1 0)

end Runs

def conquer (old new : Array String) : Nat → Nat → Nat → Nat → Nat → Array Op → Array Op
  | 0, os, oe, ns, ne, acc =>
    let acc := if os < oe then acc.push (.delete os (oe - os) ns) else acc
    if ns < ne then acc.push (.insert os ns (ne - ns)) else acc
  | fuel + 1, os, oe, ns, ne, acc =>
    let pre := prefixLen old (os, oe) new (ns, ne)
    let acc := if pre > 0 then acc.push (.equal os ns pre) else acc
    let os := os + pre
    let ns := ns + pre
    let suf := suffixLen old (os, oe) new (ns, ne)
    let oe := oe - suf
    let ne := ne - suf
    let acc :=
      if os ≥ oe && ns ≥ ne then acc
      else if ns ≥ ne then acc.push (.delete os (oe - os) ns)
      else if os ≥ oe then acc.push (.insert os ns (ne - ns))
      else
        match Runs.middleSnake ⟨old, new, os, oe, ns, ne⟩ with
        | some (x, y) =>
          let acc := conquer old new fuel os x ns y acc
          conquer old new fuel x oe y ne acc
        | none => (acc.push (.delete os (oe - os) ns)).push (.insert os ns (ne - ns))
    if suf > 0 then acc.push (.equal oe ne suf) else acc

/-- The edit script of two arrays of lines. -/
def myers (old new : Array String) : Array Op :=
  conquer old new (old.size + new.size + 1) 0 old.size 0 new.size #[]

end CodeGraph.LineDiff
