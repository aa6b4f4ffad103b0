import CodeGraph.TypeGraph
import CodeGraph.Snapshot.Json
import CodeGraph.Report.Table
import CodeGraph.Report.Paint

/-!
# Reports of a reading

An extraction report counts what was read from a project's root: files, files the grammar
refused, types, methods, fields, dependencies and duplicate types, imports that named a known
type and those that named none, supertype references that named a known type and those that
did not, and how long it took. Its table form is a table of these counts under a line naming
the project, the repository and the root, with a warning when files were refused and the file
the snapshot was written to, if any.
-/

namespace CodeGraph.Report

open CodeGraph.Json

/-- What reading one root reports. -/
structure ExtractReport where
  project : String
  repo : String
  root : String
  backend : String
  files : Nat
  parseErrors : Nat
  types : Nat
  methods : Nat
  fields : Nat
  dependencies : Nat
  duplicates : Nat
  importsResolved : Nat
  importsUnresolved : Nat
  relationsResolved : Nat
  relationsUnresolved : Nat
  output : Option String := none
  elapsedMs : Nat := 0
  deriving Inhabited

namespace ExtractReport

def ofSnapshot (root : String) (g : Snapshot) : ExtractReport :=
  let relations := (TypeGraph.ofSnapshot g).relations
  { project := g.project
    repo := g.repo
    root
    backend := g.stats.backendUsed
    files := g.stats.fileCount
    parseErrors := g.stats.parseErrorCount
    types := g.types.size
    methods := g.methods.length
    fields := g.fields.length
    dependencies := g.dependencies.length
    duplicates := g.stats.duplicateCount
    importsResolved := g.stats.resolution.importsResolved
    importsUnresolved := g.stats.resolution.importsUnresolved
    relationsResolved := relations.resolved
    relationsUnresolved := relations.unresolved }

def toJson (r : ExtractReport) : Value :=
  .obj ([("project", .str r.project), ("repo", .str r.repo), ("root", .str r.root),
    ("backend", .str r.backend), ("files", countValue r.files),
    ("parse_errors", countValue r.parseErrors), ("types", countValue r.types),
    ("methods", countValue r.methods), ("fields", countValue r.fields),
    ("dependencies", countValue r.dependencies), ("duplicates", countValue r.duplicates),
    ("imports_resolved", countValue r.importsResolved),
    ("imports_unresolved", countValue r.importsUnresolved),
    ("relations_resolved", countValue r.relationsResolved),
    ("relations_unresolved", countValue r.relationsUnresolved)] ++
    optionalField "output" (r.output.map .str) ++
    [("duration_ms", countValue r.elapsedMs)])

def pairs (r : ExtractReport) : List (String × String) :=
  [("backend", r.backend), ("files", toString r.files),
    ("parse errors", toString r.parseErrors), ("types", toString r.types),
    ("methods", toString r.methods), ("fields", toString r.fields),
    ("dependencies", toString r.dependencies), ("duplicates", toString r.duplicates),
    ("imports", toString r.importsResolved ++ " resolved, " ++ toString r.importsUnresolved ++
      " external"),
    ("supertypes", toString r.relationsResolved ++ " resolved, " ++
      toString r.relationsUnresolved ++ " unresolved"),
    ("duration", toString r.elapsedMs ++ "ms")]

def text (color : Bool) (r : ExtractReport) : String :=
  let head := paint color .cyanBold "EXTRACT:" ++ " " ++ r.project ++ "/" ++
    paint color .green r.repo ++ " (" ++ paint color .dim r.root ++ ")\n"
  let warning :=
    if r.parseErrors > 0 then
      paint color .yellowBold "warning:" ++ " " ++ toString r.parseErrors ++
        " files parsed with errors; regex fallback used\n"
    else ""
  let written := match r.output with
    | some p => "Graph written to " ++ paint color .dim p ++ "\n"
    | none => ""
  head ++ pairsTable .rounded r.pairs ++ "\n" ++ warning ++ written

end ExtractReport

end CodeGraph.Report
