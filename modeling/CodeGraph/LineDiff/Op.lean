/-!
# Edit scripts over lines

A text is compared line by line, a line ending after a line feed, a carriage return followed by
a line feed, or a lone carriage return; the last line may have no ending. An edit script is a
list of operations over the old and the new lines, each naming where it stands in both: a run
of equal lines, a run of old lines deleted, a run of new lines inserted, or a run of old lines
replaced by a run of new ones.
-/

namespace CodeGraph.LineDiff

def lines (s : String) : Array String :=
  let rec go : List Char → List Char → Array String → Array String
    | [], cur, acc => if cur.isEmpty then acc else acc.push (String.ofList cur.reverse)
    | '\r' :: '\n' :: rest, cur, acc => go rest [] (acc.push (String.ofList ('\n' :: '\r' :: cur).reverse))
    | '\r' :: rest, cur, acc => go rest [] (acc.push (String.ofList ('\r' :: cur).reverse))
    | '\n' :: rest, cur, acc => go rest [] (acc.push (String.ofList ('\n' :: cur).reverse))
    | c :: rest, cur, acc => go rest (c :: cur) acc
  go s.toList [] #[]

/-- One operation of an edit script. -/
inductive Op where
  | equal (old new len : Nat)
  | delete (old len new : Nat)
  | insert (old new len : Nat)
  | replace (old oldLen new newLen : Nat)
  deriving DecidableEq, Inhabited, Repr

namespace Op

def oldRange : Op → Nat × Nat
  | .equal o _ len => (o, o + len)
  | .delete o len _ => (o, o + len)
  | .insert o _ _ => (o, o)
  | .replace o ol _ _ => (o, o + ol)

def newRange : Op → Nat × Nat
  | .equal _ n len => (n, n + len)
  | .delete _ _ n => (n, n)
  | .insert _ n len => (n, n + len)
  | .replace _ _ n nl => (n, n + nl)

def isEmpty (op : Op) : Bool :=
  op.oldRange.1 == op.oldRange.2 && op.newRange.1 == op.newRange.2

def isEqual : Op → Bool
  | .equal _ _ _ => true
  | _ => false

def adjust (op : Op) (dOffset dLen : Int) : Op :=
  let f (v : Nat) (d : Int) : Nat := (v + d).toNat
  match op with
  | .equal o n len => .equal (f o dOffset) (f n dOffset) (f len dLen)
  | .delete o len n => .delete (f o dOffset) (f len dLen) (f n dOffset)
  | .insert o n len => .insert (f o dOffset) (f n dOffset) (f len dLen)
  | .replace o ol n nl => .replace o ol n nl

def shiftUp (op : Op) (k : Nat) : Op := op.adjust (-k) 0

def shiftDown (op : Op) (k : Nat) : Op := op.adjust k 0

def growUp (op : Op) (k : Nat) : Op := op.adjust (-k) k

def growDown (op : Op) (k : Nat) : Op := op.adjust 0 k

def shrinkEnd (op : Op) (k : Nat) : Op := op.adjust 0 (-k)

def shrinkStart (op : Op) (k : Nat) : Op := op.adjust k (-k)

end Op

def prefixLen (a : Array String) (ar : Nat × Nat) (b : Array String) (br : Nat × Nat) : Nat :=
  let n := min (ar.2 - ar.1) (br.2 - br.1)
  ((List.range n).takeWhile fun i => a[ar.1 + i]? == b[br.1 + i]?).length

def suffixLen (a : Array String) (ar : Nat × Nat) (b : Array String) (br : Nat × Nat) : Nat :=
  let n := min (ar.2 - ar.1) (br.2 - br.1)
  ((List.range n).takeWhile fun i => a[ar.2 - 1 - i]? == b[br.2 - 1 - i]?).length

end CodeGraph.LineDiff
