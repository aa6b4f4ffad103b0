import CodeGraph.Text.Width

/-!
# Tables of text

Rows of cells padded to their column's widest line, drawn in a rounded frame or a blank one.
-/

namespace CodeGraph.Report

inductive Align where
  | left
  | right
  deriving DecidableEq, Inhabited, Repr

inductive Frame where
  | rounded
  | blank
  deriving DecidableEq, Inhabited, Repr

def spaces (n : Nat) : String := String.ofList (List.replicate n ' ')

def padLine (a : Align) (width : Nat) (line : String) : String :=
  let gap := spaces (width - Text.lineWidth line)
  match a with
  | .left => line ++ gap
  | .right => gap ++ line

def fillRows (rows : List (List String)) : List (List String) :=
  let count := rows.foldl (fun n r => max n r.length) 0
  rows.map fun r => r ++ List.replicate (count - r.length) ""

def columnWidths (rows : List (List String)) : List Nat :=
  match rows with
  | [] => []
  | first :: _ =>
    (List.range first.length).map fun i =>
      rows.foldl (fun n r => max n (Text.textWidth (r.getD i ""))) 0

def rowLines (frame : Frame) (align : Nat → Align) (widths : List Nat) (row : List String) :
    List String :=
  let cells := row.map Text.textLines
  let height := cells.foldl (fun n ls => max n ls.length) 1
  (List.range height).map fun k =>
    let parts := (cells.zip widths).zipIdx.map fun ((ls, w), i) =>
      " " ++ padLine (align i) w (ls.getD k "") ++ " "
    match frame with
    | .rounded => "│" ++ "│".intercalate parts ++ "│"
    | .blank => " ".intercalate parts

def rule (widths : List Nat) (left cross right : String) : String :=
  left ++ cross.intercalate (widths.map fun w => String.ofList (List.replicate (w + 2) '─')) ++ right

/-- A table drawn in a frame, the alignment of each column given by its index. -/
def render (frame : Frame) (align : Nat → Align) (rows : List (List String)) : String :=
  let rows := fillRows rows
  let widths := columnWidths rows
  if widths.isEmpty then ""
  else
    let body := rows.map (rowLines frame align widths)
    match frame with
    | .blank => "\n".intercalate body.flatten
    | .rounded =>
      let inner := match body with
        | [] => []
        | first :: rest =>
          if rest.isEmpty then first
          else first ++ [rule widths "├" "┼" "┤"] ++ rest.flatten
      "\n".intercalate ([rule widths "╭" "┬" "╮"] ++ inner ++ [rule widths "╰" "┴" "╯"])

def rowsTable (frame : Frame) (headers : List String) (rows : List (List String)) : String :=
  if rows.isEmpty then "(no results)"
  else render frame (fun _ => .left) (headers :: rows)

def pairsTable (frame : Frame) (pairs : List (String × String)) : String :=
  render frame (fun i => if i == 0 then .right else .left) (pairs.map fun (k, v) => [k, v])

end CodeGraph.Report
