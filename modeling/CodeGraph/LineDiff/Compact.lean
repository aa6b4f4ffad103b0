import CodeGraph.LineDiff.Op

/-!
# Compacting an edit script

Each deletion and insertion slides up and then down along repeated lines, joining runs of its own
kind; then every stretch of changes between two runs of equal lines becomes one operation.
-/

namespace CodeGraph.LineDiff

def Op.isDelete : Op → Bool
  | .delete _ _ _ => true
  | _ => false

def Op.isInsert : Op → Bool
  | .insert _ _ _ => true
  | _ => false

def movedRange (op : Op) : Nat × Nat :=
  if op.isDelete then op.oldRange else op.newRange

def movedLen (op : Op) : Nat := (movedRange op).2 - (movedRange op).1

def slideUp (old new : Array String) : Nat → Array Op → Nat → Array Op × Nat
  | 0, ops, p => (ops, p)
  | fuel + 1, ops, p =>
    match p, ops[p]?, (p - 1 : Nat) with
    | 0, _, _ => (ops, p)
    | _, none, _ => (ops, p)
    | _ + 1, some this, q =>
      match ops[q]? with
      | none => (ops, p)
      | some prev =>
        if prev.isEqual then
          let k := suffixLen old prev.oldRange new this.newRange
          if k > 0 then
            let ops := match ops[p + 1]? with
              | some next =>
                if next.isEqual then ops.set! (p + 1) (next.growUp k)
                else ops.insertIdx! (p + 1) (after this prev k)
              | none => ops.push (after this prev k)
            let ops := (ops.set! p (this.shiftUp k)).set! q (prev.shrinkEnd k)
            if (ops[q]?.map Op.isEmpty).getD false then slideUp old new fuel (ops.eraseIdx! q) q
            else slideUp old new fuel ops p
          else if prev.isEmpty then slideUp old new fuel (ops.eraseIdx! q) q
          else (ops, p)
        else if prev.isDelete != this.isDelete then
          slideUp old new fuel ((ops.set! q this).set! p prev) q
        else
          slideUp old new fuel ((ops.set! q (prev.growDown (movedLen this))).eraseIdx! p) q
where
  after (this prev : Op) (k : Nat) : Op :=
    if this.isDelete then .equal (this.oldRange.2 - k) (prev.newRange.2 - k) k
    else .equal (prev.oldRange.2 - k) (this.newRange.2 - k) k

def slideDown (old new : Array String) : Nat → Array Op → Nat → Array Op × Nat
  | 0, ops, p => (ops, p)
  | fuel + 1, ops, p =>
    match ops[p]?, ops[p + 1]? with
    | some this, some next =>
      if next.isEqual then
        let k := prefixLen old next.oldRange new this.newRange
        if k > 0 then
          let before : Op :=
            if this.isDelete then .equal this.oldRange.1 next.newRange.1 k
            else .equal next.oldRange.1 this.newRange.1 k
          let (ops, p) := match p, ops[p - 1]? with
            | q + 1, some prev =>
              if prev.isEqual then (ops.set! q (prev.growDown k), p)
              else (ops.insertIdx! p before, p + 1)
            | _, _ => (ops.insertIdx! p before, p + 1)
          let ops := match ops[p]?, ops[p + 1]? with
            | some this, some next => (ops.set! p (this.shiftDown k)).set! (p + 1) (next.shrinkStart k)
            | _, _ => ops
          if (ops[p + 1]?.map Op.isEmpty).getD false then slideDown old new fuel (ops.eraseIdx! (p + 1)) p
          else slideDown old new fuel ops p
        else if next.isEmpty then slideDown old new fuel (ops.eraseIdx! (p + 1)) p
        else (ops, p)
      else if next.isDelete != this.isDelete then
        slideDown old new fuel ((ops.set! p next).set! (p + 1) this) (p + 1)
      else
        slideDown old new fuel ((ops.set! p (this.growDown (movedLen next))).eraseIdx! (p + 1)) p
    | _, _ => (ops, p)

def slideAll (old new : Array String) (kind : Op → Bool) (budget : Nat) :
    Nat → Array Op → Nat → Array Op
  | 0, ops, _ => ops
  | fuel + 1, ops, p =>
    match ops[p]? with
    | none => ops
    | some op =>
      if kind op then
        let (ops, p) := slideUp old new budget ops p
        let (ops, p) := slideDown old new budget ops p
        slideAll old new kind budget fuel ops (p + 1)
      else slideAll old new kind budget fuel ops (p + 1)

/-- Compact an edit script: deletions slid first, then insertions. -/
def compact (old new : Array String) (ops : Array Op) : Array Op :=
  let budget := 4 * (old.size + new.size + ops.size) + 4
  let ops := slideAll old new Op.isDelete budget (ops.size + old.size + new.size + 1) ops 0
  slideAll old new Op.isInsert budget (ops.size + old.size + new.size + 1) ops 0

structure Pending where
  equal : Option (Nat × Nat × Nat) := none
  deleted : Option (Nat × Nat × Nat) := none
  inserted : Option (Nat × Nat × Nat) := none

namespace Pending

def flushEqual (s : Pending) (out : Array Op) : Pending × Array Op :=
  match s.equal with
  | some (o, n, len) => ({ s with equal := none }, out.push (.equal o n len))
  | none => (s, out)

def flushChange (s : Pending) (out : Array Op) : Pending × Array Op :=
  let out := match s.deleted, s.inserted with
    | some (o, ol, _), some (_, n, nl) => out.push (.replace o ol n nl)
    | some (o, ol, n), none => out.push (.delete o ol n)
    | none, some (o, n, nl) => out.push (.insert o n nl)
    | none, none => out
  ({ s with deleted := none, inserted := none }, out)

def take (acc : Pending × Array Op) (op : Op) : Pending × Array Op :=
  let (s, out) := acc
  match op with
  | .equal o n len =>
    let (s, out) := s.flushChange out
    ({ s with equal := some (match s.equal with
      | some (eo, en, el) => (eo, en, el + len)
      | none => (o, n, len)) }, out)
  | .delete o len n =>
    let (s, out) := s.flushEqual out
    ({ s with deleted := some (match s.deleted with
      | some (dobase, dl, dn) => (dobase, dl + len, dn)
      | none => (o, len, n)) }, out)
  | .insert o n len =>
    let (s, out) := s.flushEqual out
    ({ s with inserted := some (match s.inserted with
      | some (io, inbase, il) => (io, inbase, il + len)
      | none => (o, n, len)) }, out)
  | .replace _ _ _ _ => (s, out.push op)

end Pending

def joinChanges (ops : Array Op) : Array Op :=
  let (s, out) := ops.foldl Pending.take ({}, #[])
  let (s, out) := s.flushEqual out
  (s.flushChange out).2

def tidy (old new : Array String) (ops : Array Op) : Array Op :=
  joinChanges (compact old new ops)

end CodeGraph.LineDiff
