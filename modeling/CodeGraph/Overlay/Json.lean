import CodeGraph.Overlay
import CodeGraph.Snapshot.Json

/-!
# Overlays as JSON

Kinds and statuses are written by name. A marker leaves out the files, ranges and patch it does
not have, and says it was truncated only when it was. A summary's counts are a map from kind
name to a map from status name to count.
-/

namespace CodeGraph

open CodeGraph.Json

def EntityKind.toJson (k : EntityKind) : Value := .str k.name

def Status.toJson (s : Status) : Value := .str s.name

def EntityKind.decoder : Decoder EntityKind :=
  Decoder.oneOf (EntityKind.all.map fun k => (k.name, k))

def Status.decoder : Decoder Status :=
  Decoder.oneOf (Status.all.map fun s => (s.name, s))

def LineRange.toJson (r : LineRange) : Value :=
  .obj [("begin", countValue r.first), ("end", countValue r.last)]

def LineRange.decoder : Decoder LineRange :=
  Decoder.record "LineRange" ⟨0, 0⟩
    [Field.mk' ["begin"] .required Decoder.u32 fun v r => { r with first := v },
     Field.mk' ["end"] .required Decoder.u32 fun v r => { r with last := v }]

/-- A marker as JSON. -/
def Marker.toJson (m : Marker) : Value :=
  .obj ([("supergraph_id", .str m.overlay), ("kind", m.kind.toJson), ("key", .str m.key),
    ("status", m.status.toJson)] ++
    optionalField "left_file" (m.leftFile.map .str) ++
    optionalField "right_file" (m.rightFile.map .str) ++
    optionalField "left_range" (m.leftRange.map LineRange.toJson) ++
    optionalField "right_range" (m.rightRange.map LineRange.toJson) ++
    optionalField "diff" (m.diff.map .str) ++
    (if m.truncated then [("truncated", .bool true)] else []))

def Alignment.toJson (a : Alignment) : Value :=
  .obj [("kind", a.kind.toJson), ("key", .str a.key)]

def Summary.fields (s : Summary) : List (String × Value) :=
  [("supergraph_id", .str s.overlay), ("project", .str s.project), ("left_repo", .str s.leftRepo),
    ("right_repo", .str s.rightRepo),
    ("counts", .obj (s.counts.entries.map fun (k, byStatus) =>
      (k, .obj (byStatus.entries.map fun (st, n) => (st, countValue n))))),
    ("sample_changed", .arr (s.sample.map Alignment.toJson))]

end CodeGraph
