import CodeGraph.Extraction

/-!
# Assembling a snapshot from its files

The records of the files of a project, taken in scan order, make one snapshot. The first
record to claim a key keeps it: a type by qualified name, a method by owner and signature, a
field by owner and name; a later record of a taken key is dropped and counted as a duplicate.
Dependencies and supertype pairs are kept once each, and only when their type was claimed by
the file they come from, so those of a dropped duplicate type go with it.
-/

namespace CodeGraph

/-- A snapshot being assembled, with the keys already taken. -/
structure Assembly where
  graph : Snapshot
  methodKeys : List (String × String) := []
  fieldKeys : List (String × String) := []
  edgeKeys : List (String × String × Via × String) := []
  extendedKeys : List (String × String) := []
  implementedKeys : List (String × String) := []
  deriving Inhabited

namespace Assembly

def start (project repo : String) (reader : Reader) : Assembly :=
  { graph := { project, repo, stats := { backendUsed := reader.name } } }

def declaredIn (a : Assembly) (fqn path : String) : Bool :=
  match a.graph.types.get? fqn with
  | some t => t.file == path
  | none => true

def duplicate (a : Assembly) : Assembly :=
  { a with graph := { a.graph with stats := { a.graph.stats with
    duplicateCount := a.graph.stats.duplicateCount + 1 } } }

def addType (a : Assembly) (t : TypeRecord) : Assembly :=
  if a.graph.types.contains t.fqn then a.duplicate
  else { a with graph := { a.graph with types := a.graph.types.insert t.fqn t } }

def addMethod (a : Assembly) (m : MethodRecord) : Assembly :=
  let key := m.ident
  if a.methodKeys.contains key then a.duplicate
  else
    { a with
      methodKeys := key :: a.methodKeys
      graph := { a.graph with methods := a.graph.methods ++ [m] } }

def addField (a : Assembly) (f : FieldRecord) : Assembly :=
  let key := f.ident
  if a.fieldKeys.contains key then a.duplicate
  else
    { a with
      fieldKeys := key :: a.fieldKeys
      graph := { a.graph with fields := a.graph.fields ++ [f] } }

def addDependency (a : Assembly) (d : Dependency) : Assembly :=
  let key := d.ident
  if !a.declaredIn d.source d.file || a.edgeKeys.contains key then a
  else
    { a with
      edgeKeys := key :: a.edgeKeys
      graph := { a.graph with dependencies := a.graph.dependencies ++ [d] } }

def addExtended (path : String) (a : Assembly) (p : String × String) : Assembly :=
  if !a.declaredIn p.1 path || a.extendedKeys.contains p then a
  else
    { a with
      extendedKeys := p :: a.extendedKeys
      graph := { a.graph with extended := a.graph.extended ++ [p] } }

def addImplemented (path : String) (a : Assembly) (p : String × String) : Assembly :=
  if !a.declaredIn p.1 path || a.implementedKeys.contains p then a
  else
    { a with
      implementedKeys := p :: a.implementedKeys
      graph := { a.graph with implemented := a.graph.implemented ++ [p] } }

def countFile (a : Assembly) (f : FileRecords) : Assembly :=
  let s := a.graph.stats
  let s := { s with
    fileCount := s.fileCount + 1
    parseErrorCount := if f.degraded then s.parseErrorCount + 1 else s.parseErrorCount
    backendFiles := match f.reader with
      | some r => s.backendFiles.alter r.name 0 (· + 1)
      | none => s.backendFiles
    resolution := s.resolution.add f.resolution }
  { a with graph := { a.graph with stats := s } }

def add (a : Assembly) (f : FileRecords) : Assembly :=
  let a := a.countFile f
  let a := f.types.foldl addType a
  let a := f.methods.foldl addMethod a
  let a := f.fields.foldl addField a
  let a := f.dependencies.foldl addDependency a
  let a := f.extended.foldl (addExtended f.path) a
  f.implemented.foldl (addImplemented f.path) a

end Assembly

/-- The snapshot of a project's files, read by the grammar. -/
def Snapshot.ofFiles (project repo : String) (files : List ReadFile) : Snapshot :=
  let ix := TypeIndex.ofFiles files
  (files.foldl (fun a f => a.add (f.records ix)) (Assembly.start project repo .grammar)).graph

end CodeGraph
