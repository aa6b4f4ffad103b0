import CodeGraph.Overlay.Align

/-!
# A store of snapshots and overlays

A store keeps one snapshot per project and repository and one overlay per identifier; every
write replaces whole entries. Upserting a snapshot merges it into the stored one: types by name
and methods and fields by key replace what they match, dependencies new to the stored snapshot
are added, supertype pairs and calls are added once each, and the statistics are the new ones.
Overlaying two stored repositories first drops the overlay stored under the identifier, even
when a repository turns out to be missing.
-/

namespace CodeGraph

/-- Snapshots by project and repository, and overlays by identifier. -/
structure Store where
  graphs : KeyMap (KeyMap Snapshot) := KeyMap.empty
  overlays : KeyMap Overlay := KeyMap.empty
  deriving Inhabited

def replaceOrPush {α : Type} (same : α → α → Bool) (xs : List α) (x : α) : List α :=
  if xs.any (same x) then
    let (before, after) := xs.span fun y => !same x y
    before ++ x :: after.drop 1
  else xs ++ [x]

def pushNew {α : Type} [BEq α] (xs ys : List α) : List α :=
  ys.foldl (fun acc y => if acc.contains y then acc else acc ++ [y]) xs

def Snapshot.merge (old new : Snapshot) : Snapshot :=
  let seen := old.dependencies.map fun d => (d.source, d.target, d.via, d.file)
  { old with
    types := new.types.entries.foldl (fun m (k, t) => m.insert k t) old.types
    methods := new.methods.foldl
      (replaceOrPush fun a b => a.owner == b.owner && a.signature == b.signature) old.methods
    fields := new.fields.foldl
      (replaceOrPush fun a b => a.owner == b.owner && a.name == b.name) old.fields
    dependencies := old.dependencies ++
      new.dependencies.filter fun d => !seen.contains (d.source, d.target, d.via, d.file)
    extended := pushNew old.extended new.extended
    implemented := pushNew old.implemented new.implemented
    calls := pushNew old.calls new.calls
    stats := new.stats }

namespace Store

def graph (s : Store) (project repo : String) : Except Failure Snapshot :=
  match (s.graphs.get? project).bind (·.get? repo) with
  | some g => .ok g
  | none => .error (.repoNotFound project repo)

def replace (s : Store) (g : Snapshot) : Store :=
  { s with graphs := s.graphs.alter g.project KeyMap.empty fun repos => repos.insert g.repo g }

/-- Merge a snapshot into the one stored under its project and repository, or store it. -/
def upsert (s : Store) (g : Snapshot) : Store :=
  match s.graph g.project g.repo with
  | .ok old => s.replace (old.merge g)
  | .error _ => s.replace g

def deleteRepo (s : Store) (project repo : String) : Store × Bool :=
  match s.graph project repo with
  | .ok _ =>
    ({ s with graphs := s.graphs.alter project KeyMap.empty fun repos =>
      repos.filter (·.1 != repo) }, true)
  | .error _ => (s, false)

def repos (s : Store) (project : String) : List String :=
  ((s.graphs.get? project).map KeyMap.keys).getD []

def deleteOverlay (s : Store) (id : String) : Store × Bool :=
  if s.overlays.contains id then ({ s with overlays := s.overlays.filter (·.1 != id) }, true)
  else (s, false)

/-- Overlay two stored repositories of a project under an identifier, with patches from the
sources when given, and keep the result; the summary names the project asked for. -/
def superimposeAndDiff (s : Store) (project leftRepo rightRepo id : String)
    (sources : Option PatchSources := none) : Store × Except Failure Summary :=
  let s := (s.deleteOverlay id).1
  match s.graph project leftRepo, s.graph project rightRepo with
  | .error e, _ => (s, .error e)
  | _, .error e => (s, .error e)
  | .ok left, .ok right =>
    let o := superimpose left right id sources
    let o := { o with summary := { o.summary with project } }
    ({ s with overlays := s.overlays.insert id o }, .ok o.summary)

def overlay? (s : Store) (id : String) : Option Overlay := s.overlays.get? id

def markers (s : Store) (id : String) : List Marker :=
  ((s.overlay? id).map (·.markers)).getD []

end Store

end CodeGraph
