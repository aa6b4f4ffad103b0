import CodeGraph.Assembly
import CodeGraph.Scan
import CodeGraph.Semantic
import CodeGraph.Java.Read
import CodeGraph.Text.Utf8

/-!
# Reading a project

A project's root is scanned; when a semantic reader is set, its snapshot is taken if it gives
one, with the scanned file count as both the snapshot's file count and the semantic reader's;
otherwise, and whenever the semantic reader fails, every scanned file is read by the grammar
and the snapshot is assembled from their records. A file that cannot be read counts as
salvaged, with the read error as its failure.
-/

namespace CodeGraph

structure IngestOptions where
  project : String
  repo : String
  scan : ScanOptions := {}
  semantic : Option SemanticCommand := none
  threads : Option Nat := none
  deriving Inhabited

def readFile (t : FileTree) (root : List String) (f : ScannedFile) : ReadFile :=
  match t.read (root ++ FileTree.components f.path) with
  | .ok bytes =>
    ⟨f.path, f.hash.getD (Hash.contentHash bytes), Java.read (Text.decodeLossy bytes) f.path⟩
  | .error e =>
    ⟨f.path, f.hash.getD "",
     Reading.failed (Failure.fileParse f.path ("cannot read file: " ++ e.message)).message⟩

def readFiles (t : FileTree) (root : List String) (scanned : ScanResult) : List ReadFile :=
  scanned.files.map (readFile t root)

/-- The snapshot of the project at `root` of a file tree. -/
def ingest (t : FileTree) (run : Launcher) (root : List String) (o : IngestOptions) :
    Except Failure Snapshot := do
  let scanned ← scan t root o.scan
  let grammar := Snapshot.ofFiles o.project o.repo (readFiles t root scanned)
  match o.semantic with
  | none => return grammar
  | some c =>
    match c.invoke run t root o.project o.repo with
    | .ok g =>
      let n := scanned.files.length
      return { g with
        stats := { g.stats with
          fileCount := n
          backendFiles := g.stats.backendFiles.insert Reader.semantic.name n } }
    | .error _ => return grammar

end CodeGraph
