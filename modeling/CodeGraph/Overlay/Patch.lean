import CodeGraph.Overlay.Marker
import CodeGraph.FileTree
import CodeGraph.Failure
import CodeGraph.LineDiff.Unified
import CodeGraph.Patch.Truncate
import CodeGraph.Text.Utf8

/-!
# Patches of changed entities

A changed entity's patch compares its line ranges, each clamped to its file, when both sides have
a file and a range, and the whole files otherwise. A file that cannot be read fails the patch.
-/

namespace CodeGraph

structure PatchSources where
  tree : FileTree
  leftRoot : String
  rightRoot : String
  maxChars : Nat := 50000
  deriving Inhabited

def contextLines : Nat := 3

def joinPath (root rel : String) : String :=
  if rel.startsWith "/" then rel
  else if root.endsWith "/" then root ++ rel
  else root ++ "/" ++ rel

def readSource (t : FileTree) (root rel : String) : Except Failure String :=
  let path := joinPath root rel
  match t.read (FileTree.components path) with
  | .ok bytes => .ok (Text.decodeLossy bytes)
  | .error e => .error (.patchGeneration path e.message)

def feedLines (text : String) : List String :=
  let (done, cur) := text.toList.foldl (fun (acc : List String × List Char) c =>
    if c == '\n' then (acc.1 ++ [String.ofList (acc.2 ++ [c])], [])
    else (acc.1, acc.2 ++ [c])) ([], [])
  if cur.isEmpty then done else done ++ [String.ofList cur]

/-- The lines of a range of a text, clamped to it, with the bounds used; a slice that does
not end in a line feed gets one. -/
def sliceLines (text : String) (r : LineRange) : String × Nat × Nat :=
  let ls := feedLines text
  let first := max r.first 1
  let last := min (max r.last first) ls.length
  if first > ls.length then ("", first, first)
  else
    let out := String.join ((ls.drop (first - 1)).take (last - (first - 1)))
    (if out.endsWith "\n" then out else out ++ "\n", first, last)

def wholeFilePatch (src : PatchSources) (left right : Option String) :
    Except Failure (Option String) := do
  let leftText ← match left with
    | some rel => readSource src.tree src.leftRoot rel
    | none => pure ""
  let rightText ← match right with
    | some rel => readSource src.tree src.rightRoot rel
    | none => pure ""
  pure (LineDiff.unified contextLines leftText rightText
    ("a/" ++ left.getD "dev/null") ("b/" ++ right.getD "dev/null"))

/-- The patch between two line ranges of two files, written by `diff` from the two slices and
their headers. -/
def rangePatchWith (diff : String → String → String → String → Option String)
    (src : PatchSources) (left : String) (lr : LineRange) (right : String) (rr : LineRange) :
    Except Failure (Option String) := do
  let leftText ← readSource src.tree src.leftRoot left
  let rightText ← readSource src.tree src.rightRoot right
  let (leftSlice, lb, le) := sliceLines leftText lr
  let (rightSlice, rb, re) := sliceLines rightText rr
  pure (diff leftSlice rightSlice
    ("a/" ++ left ++ ":" ++ toString lb ++ "-" ++ toString le)
    ("b/" ++ right ++ ":" ++ toString rb ++ "-" ++ toString re))

def rangePatch (src : PatchSources) (left : String) (lr : LineRange) (right : String)
    (rr : LineRange) : Except Failure (Option String) :=
  rangePatchWith (LineDiff.unified contextLines) src left lr right rr

def Marker.patch (src : PatchSources) (m : Marker) : Except Failure (Option String) :=
  match m.leftRange, m.rightRange, m.leftFile, m.rightFile with
  | some lr, some rr, some l, some r => rangePatch src l lr r rr
  | _, _, _, _ => wholeFilePatch src m.leftFile m.rightFile

/-- A marker with its patch, cut to the budget, when it is changed and its patch can be made. -/
def Marker.withPatch (src : PatchSources) (m : Marker) : Marker :=
  if m.status != .changed then m
  else
    match m.patch src with
    | .ok (some p) =>
      let (text, cut) := Patch.truncate p src.maxChars
      { m with diff := some text, truncated := cut }
    | _ => m

def attachPatches (src : PatchSources) (markers : List Marker) : List Marker :=
  markers.map (Marker.withPatch src)

end CodeGraph
