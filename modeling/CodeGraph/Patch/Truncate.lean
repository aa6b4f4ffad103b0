/-!
# Cutting a patch to a budget

A patch longer than its budget of characters keeps its first characters and gains a marker
line saying it was cut; a patch within budget is kept whole. The cut is made on the text's bytes,
at the position where the character numbered `budget` starts.
-/

namespace CodeGraph.Patch

def truncationMarker : String := "\n... (diff truncated)"

/-- A patch cut to at most `budget` characters and the marker, and whether it was cut: the
position `budget` characters on from the start is where the cut falls, unless it is the end. -/
def truncate (patch : String) (budget : Nat) : String × Bool :=
  let cut := patch.startPos.nextn budget
  if cut = patch.endPos then (patch, false)
  else ((patch.sliceTo cut).copy ++ truncationMarker, true)

end CodeGraph.Patch
