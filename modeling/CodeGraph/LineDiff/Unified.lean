import CodeGraph.LineDiff.Myers
import CodeGraph.LineDiff.Compact

/-!
# Unified diffs

Changed lines in hunks with up to three lines of context, each hunk opening with `@@ -R +R @@`,
after the two file headers; equal texts have no diff at all.
-/

namespace CodeGraph.LineDiff

def script (old new : Array String) : Array Op :=
  tidy old new (myers old new)

def trimEnds (n : Nat) (ops : Array Op) : Array Op :=
  let ops := match ops[0]? with
    | some (.equal o nw len) =>
      let cut := len - n
      ops.set! 0 (.equal (o + cut) (nw + cut) (len - cut))
    | _ => ops
  match ops.back? with
  | some (.equal o nw len) => ops.set! (ops.size - 1) (.equal o nw (len - (len - n)))
  | _ => ops

def hunks (n : Nat) (ops : Array Op) : List (Array Op) :=
  if ops.isEmpty then []
  else
    let (groups, pending) := (trimEnds n ops).foldl (fun (acc : Array (Array Op) × Array Op) op =>
      let (groups, pending) := acc
      match op with
      | .equal o nw len =>
        if len > 2 * n then
          let cut := len - n
          (groups.push (pending.push (.equal o nw n)), #[.equal (o + cut) (nw + cut) (len - cut)])
        else (groups, pending.push op)
      | _ => (groups, pending.push op)) (#[], #[])
    let groups := match pending.toList with
      | [] => groups
      | [.equal _ _ _] => groups
      | _ => groups.push pending
    (groups.toList.filter fun g => !g.isEmpty)

def rangeText (start stop : Nat) : String :=
  let len := stop - start
  if len == 1 then toString (start + 1)
  else if len == 0 then toString start ++ "," ++ toString len
  else toString (start + 1) ++ "," ++ toString len

def hunkHeader (ops : Array Op) : String :=
  let first := ops[0]?.getD default
  let last := ops.back?.getD default
  "@@ -" ++ rangeText first.oldRange.1 last.oldRange.2 ++ " +" ++
    rangeText first.newRange.1 last.newRange.2 ++ " @@"

def hasEnding (line : String) : Bool :=
  line.endsWith "\n" || line.endsWith "\r"

def changeText (tag : String) (line : String) : String :=
  tag ++ line ++ if hasEnding line then "" else "\n\\ No newline at end of file\n"

def rangeLines (tag : String) (xs : Array String) (r : Nat × Nat) : String :=
  String.join ((List.range (r.2 - r.1)).map fun i => changeText tag (xs.getD (r.1 + i) ""))

def opLines (old new : Array String) : Op → String
  | op@(.equal _ _ _) => rangeLines " " old op.oldRange
  | op@(.delete _ _ _) => rangeLines "-" old op.oldRange
  | op@(.insert _ _ _) => rangeLines "+" new op.newRange
  | op@(.replace _ _ _ _) => rangeLines "-" old op.oldRange ++ rangeLines "+" new op.newRange

def hunkText (old new : Array String) (ops : Array Op) : String :=
  hunkHeader ops ++ "\n" ++ String.join (ops.toList.map (opLines old new))

/-- The unified diff of two texts with `context` lines of context, under the two file
headers; none when the texts have the same lines. -/
def unified (context : Nat) (oldText newText oldHeader newHeader : String) : Option String :=
  let old := lines oldText
  let new := lines newText
  match hunks context (script old new) with
  | [] => none
  | hs =>
    some ("--- " ++ oldHeader ++ "\n+++ " ++ newHeader ++ "\n" ++
      String.join (hs.map (hunkText old new)))

end CodeGraph.LineDiff
