import CodeGraph.Overlay.Marker
import CodeGraph.KeyMap

/-!
# Summaries of an overlay

A summary counts the markers of an overlay by kind and status, keeping only the combinations
that occur, and keeps the first fifty changed entities in marker order. Its text names, kind by
kind, how many were added, removed and changed, leaving out what is zero; an overlay changes
something when any status other than unchanged has a positive count.
-/

namespace CodeGraph

def sampleLimit : Nat := 50

/-- The counts and sample of an overlay. -/
structure Summary where
  overlay : String
  project : String
  leftRepo : String
  rightRepo : String
  counts : KeyMap (KeyMap Nat) := KeyMap.empty
  sample : List Alignment := []
  deriving Inhabited

namespace Summary

def record (s : Summary) (m : Marker) : Summary :=
  { s with
    counts := s.counts.alter m.kind.name KeyMap.empty fun byStatus =>
      byStatus.alter m.status.name 0 (· + 1)
    sample :=
      if m.status == .changed && s.sample.length < sampleLimit then s.sample ++ [⟨m.kind, m.key⟩]
      else s.sample }

def ofMarkers (overlay project leftRepo rightRepo : String) (markers : List Marker) : Summary :=
  markers.foldl record { overlay, project, leftRepo, rightRepo }

def count (s : Summary) (k : EntityKind) (st : Status) : Nat :=
  ((s.counts.get? k.name).bind fun byStatus => byStatus.get? st.name).getD 0

def total (s : Summary) (k : EntityKind) : Nat :=
  ((s.counts.get? k.name).map fun byStatus => byStatus.values.foldl (· + ·) 0).getD 0

def hasChanges (s : Summary) : Bool :=
  s.counts.values.any fun byStatus =>
    byStatus.entries.any fun (st, n) => st != Status.unchanged.name && n > 0

def kindText (s : Summary) (k : EntityKind) : Option String :=
  let parts := [(Status.added, "added"), (Status.removed, "removed"), (Status.changed, "changed")]
    |>.filterMap fun (st, label) =>
      let n := s.count k st
      if n > 0 then some (toString n ++ " " ++ label) else none
  if parts.isEmpty then none else some (k.plural ++ ": " ++ ", ".intercalate parts)

def text (s : Summary) : String :=
  match EntityKind.all.filterMap s.kindText with
  | [] => "No changes"
  | parts => "; ".intercalate parts

end Summary

end CodeGraph
