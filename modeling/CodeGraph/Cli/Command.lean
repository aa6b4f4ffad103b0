import CodeGraph.Cli.Workspace
import CodeGraph.Ingest
import CodeGraph.Store
import CodeGraph.Overlay.Patch
import CodeGraph.Report.Diff
import CodeGraph.Report.Extract
import CodeGraph.Json.Render

/-!
# The commands

`extract` reads one root into a snapshot; `superimpose` reads two roots and overlays them; `diff`
overlays two snapshots written by `extract`. Both comparisons may write the summary and markers
to a file, and every report prints as a table or as JSON.
-/

namespace CodeGraph.Cli

open CodeGraph.Json CodeGraph.Report

structure ExtractArgs where
  path : String := "."
  repo : String
  project : Option String := none
  out : Option String := none
  noSemantic : Bool := false
  deriving Inhabited, Repr

structure SuperimposeArgs where
  left : String
  right : String
  leftRepo : String := "left"
  rightRepo : String := "right"
  overlay : Option String := none
  project : Option String := none
  noPatches : Bool := false
  noSemantic : Bool := false
  markersOut : Option String := none
  deriving Inhabited, Repr

structure DiffArgs where
  left : String
  right : String
  overlay : String := "diff"
  leftRoot : Option String := none
  rightRoot : Option String := none
  markersOut : Option String := none
  deriving Inhabited, Repr

/-- A command with what it is given. -/
inductive Command where
  | extract (a : ExtractArgs)
  | superimpose (a : SuperimposeArgs)
  | diff (a : DiffArgs)
  deriving Inhabited, Repr

structure Outcome where
  stdout : String
  workspace : Workspace

namespace Workspace

def ingestOptions (w : Workspace) (c : Config) (project : Option String) (repo : String)
    (noSemantic : Bool) : IngestOptions :=
  { project := project.getD c.project
    repo
    scan := c.scanOptions
    threads := c.workers
    semantic := if noSemantic then none else c.semantic w.tree w.cwd }

def extractRoot (w : Workspace) (o : IngestOptions) (path : String) :
    Except CommandError Snapshot :=
  match ingest w.tree (w.hosts w.tree) (w.locate path) o with
  | .ok g => .ok g
  | .error (.rootNotFound _) =>
    .error (.within ("Failed to extract " ++ path) [(Failure.rootNotFound path).message])
  | .error f => .error (.within ("Failed to extract " ++ path) f.chain)

def patchSources (w : Workspace) (c : Config) (left right : String) : PatchSources :=
  { tree := w.tree, leftRoot := w.locateText left, rightRoot := w.locateText right
    maxChars := c.patchLimit }

def loadSnapshot (w : Workspace) (path : String) : Except CommandError Snapshot :=
  match w.readText path with
  | .error m => .error (.within ("Failed to read " ++ path) [m])
  | .ok text =>
    match Snapshot.ofText text with
    | .ok g => .ok g
    | .error e => .error (.within ("Invalid graph JSON in " ++ path) [e.text])

def markerRecord (w : Workspace) (summary : Value) (markers : List Marker) : Value :=
  .obj [("generated_at", .str w.clock), ("summary", summary),
    ("markers", .arr (markers.map Marker.toJson))]

end Workspace

def impactedTypes (left : Snapshot) (o : Overlay) : List String :=
  let seeds := (o.markers.filter fun m =>
    m.kind == .type && (m.status == .changed || m.status == .removed)).map (·.key)
  if seeds.isEmpty then [] else (TypeGraph.ofSnapshot left).impact seeds none

def printed (fmt : OutputFormat) (table : String) (json : Value) : String :=
  (match fmt with
    | .table => table
    | .json => json.pretty) ++ "\n"

def finishComparison (w : Workspace) (c : Config) (fmt : OutputFormat) (summary : Summary)
    (markers : List Marker) (impacted : List String) (markersOut : Option String) :
    Except CommandError Outcome := do
  let report : DiffReport := { summary, impacted, markersOut }
  let w ← match markersOut with
    | some p => w.writeText p (w.markerRecord report.summaryJson markers).pretty
    | none => pure w
  pure ⟨printed fmt (report.text (c.color.getD false)) report.toJson, w⟩

def runExtract (w : Workspace) (c : Config) (fmt : OutputFormat) (a : ExtractArgs) :
    Except CommandError Outcome := do
  let g ← w.extractRoot (w.ingestOptions c a.project a.repo a.noSemantic) a.path
  let report := ExtractReport.ofSnapshot a.path g
  let (w, report) ← match a.out with
    | some o => do
      let w ← w.writeText o g.toJson.pretty
      pure (w, { report with output := some o })
    | none => pure (w, report)
  pure ⟨printed fmt (report.text (c.color.getD false)) report.toJson, w⟩

def runSuperimpose (w : Workspace) (c : Config) (fmt : OutputFormat) (a : SuperimposeArgs) :
    Except CommandError Outcome := do
  if a.leftRepo == a.rightRepo then
    throw (.single ("--left-repo and --right-repo must differ (both are " ++ "'" ++ a.leftRepo ++
      "')"))
  let left ← w.extractRoot (w.ingestOptions c a.project a.leftRepo a.noSemantic) a.left
  let right ← w.extractRoot (w.ingestOptions c a.project a.rightRepo a.noSemantic) a.right
  let store := ((({} : Store).replace left).replace right)
  let project := a.project.getD c.project
  let id := a.overlay.getD (a.leftRepo ++ ".." ++ a.rightRepo)
  let sources := if !a.noPatches && c.attachPatches then some (w.patchSources c a.left a.right)
    else none
  let (store, summary) := store.superimposeAndDiff project a.leftRepo a.rightRepo id sources
  let summary ← summary.mapError fun f => CommandError.mk f.chain
  let leftGraph ← (store.graph project a.leftRepo).mapError fun f => CommandError.mk f.chain
  let impacted := match store.overlay? id with
    | some o => impactedTypes leftGraph o
    | none => []
  finishComparison w c fmt summary (store.markers id) impacted a.markersOut

def runDiff (w : Workspace) (c : Config) (fmt : OutputFormat) (a : DiffArgs) :
    Except CommandError Outcome := do
  let left ← w.loadSnapshot a.left
  let right ← w.loadSnapshot a.right
  let sources := match a.leftRoot, a.rightRoot with
    | some l, some r => if c.attachPatches then some (w.patchSources c l r) else none
    | _, _ => none
  let o := superimpose left right a.overlay sources
  finishComparison w c fmt o.summary o.markers (impactedTypes left o) a.markersOut

/-- Run a command in a workspace with its settings, printing in a format. -/
def Command.run (w : Workspace) (c : Config) (fmt : OutputFormat) : Command →
    Except CommandError Outcome
  | .extract a => runExtract w c fmt a
  | .superimpose a => runSuperimpose w c fmt a
  | .diff a => runDiff w c fmt a

end CodeGraph.Cli
