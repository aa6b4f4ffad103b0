import CodeGraph.Overlay.Summary
import CodeGraph.Search

/-!
# Overlays

An overlay of two snapshots has an identifier, the entities present on both sides, one marker
per entity of either side, sorted by kind and then key, and the summary of those markers.
-/

namespace CodeGraph

/-- The result of laying two snapshots over each other. -/
structure Overlay where
  id : String
  alignments : List Alignment := []
  markers : List Marker := []
  summary : Summary
  deriving Inhabited

def Marker.compareTo (m : Marker) (kind : EntityKind) (key : String) : Ordering :=
  (compare m.kind.rank kind.rank).then (compare m.key key)

def Overlay.marker? (o : Overlay) (kind : EntityKind) (key : String) : Option Marker :=
  (searchSorted (·.compareTo kind key) o.markers).bind (o.markers[·]?)

def Overlay.withStatus (o : Overlay) (st : Status) : List Marker :=
  o.markers.filter (·.status == st)

end CodeGraph
