import CodeGraph.Resolution
import CodeGraph.Reading
import CodeGraph.Hash.Xxh3
import CodeGraph.Text.Blank

/-!
# Records of a file

The second pass turns the outline of each file into records, against the type index the first
pass built: a type record per named type declaration, nested ones included, its supertype pairs,
its methods and fields, and dependencies on resolved imports (for types at the top of the file)
and on resolved field types. A type never depends on itself.
-/

namespace CodeGraph

structure FoundType where
  header : Outline.TypeHeader
  members : List Outline.Node
  fqn : String
  topLevel : Bool

mutual

def typesIn (package : String) (outer : Option String) : List Outline.Node → List FoundType
  | [] => []
  | n :: rest => typesOf package outer n ++ typesIn package outer rest

def typesOf (package : String) (outer : Option String) : Outline.Node → List FoundType
  | .type h ms =>
    if h.name.isEmpty then []
    else
      let fqn := Java.qualify package outer h.name
      ⟨h, ms, fqn, outer.isNone⟩ :: typesIn package (some fqn) ms
  | .group cs => typesIn package outer cs
  | _ => []

end

def Outline.Unit.types (u : Outline.Unit) : List FoundType :=
  typesIn (u.package.getD "") none u.nodes

def directMembers : List Outline.Node → List Outline.MethodDecl × List Outline.FieldDecl
  | [] => ([], [])
  | n :: rest =>
    let (ms, fs) := directMembers rest
    match n with
    | .method m => (m :: ms, fs)
    | .field f => (ms, f :: fs)
    | .group cs =>
      let (ms', fs') := directMembers cs
      (ms' ++ ms, fs' ++ fs)
    | .type _ _ => (ms, fs)

/-- One file after the first pass: its path, its hash and how it was read. -/
structure ReadFile where
  path : String
  fileHash : String
  reading : Reading
  deriving Inhabited

structure FileRecords where
  path : String
  reader : Option Reader
  degraded : Bool
  types : List TypeRecord := []
  methods : List MethodRecord := []
  fields : List FieldRecord := []
  dependencies : List Dependency := []
  extended : List (String × String) := []
  implemented : List (String × String) := []
  resolution : ResolutionCounts := {}
  deriving Inhabited

def MethodRecord.ofDecl (m : Outline.MethodDecl) (owner file : String) : MethodRecord :=
  let params := m.params.map fun p =>
    ({ name := p.name, typeName := if p.typeName.isEmpty then "?" else p.typeName } : ParamRecord)
  { owner, name := m.name, signature := Java.methodSignature m.name (params.map (·.typeName)),
    returnType := m.returnType.getD "void", params, modifiers := m.modifiers, file := some file,
    beginLine := some m.startLine, endLine := some m.endLine,
    bodyHash := m.body.map fun b => Hash.contentHash (Text.normalize b).toUTF8 }

namespace FileRecords

def depend (r : FileRecords) (source target : String) (via : Via) : FileRecords :=
  if source == target then r
  else { r with dependencies := r.dependencies ++ [⟨source, target, via, r.path⟩] }

def addField (ix : TypeIndex) (owner : String) (r : FileRecords) (f : Outline.FieldDecl) :
    FileRecords :=
  let typeName := f.typeName.getD "?"
  let r := { r with fields := r.fields ++ f.names.map fun n =>
    ({ owner, name := n, typeName, modifiers := f.modifiers } : FieldRecord) }
  match ix.resolveFieldType typeName with
  | .resolved target =>
    let r := { r with resolution := { r.resolution with
      fieldTypesResolved := r.resolution.fieldTypesResolved + 1 } }
    r.depend owner target .field
  | .unresolved _ =>
    { r with resolution := { r.resolution with
      fieldTypesUnresolved := r.resolution.fieldTypesUnresolved + 1 } }

def addType (ix : TypeIndex) (file : ReadFile) (imported : List String) (r : FileRecords)
    (t : FoundType) : FileRecords :=
  let r := { r with
    types := r.types ++ [TypeRecord.mk t.fqn t.header.name file.path file.fileHash]
    extended := r.extended ++ t.header.extended.map fun s => (t.fqn, s)
    implemented := r.implemented ++ t.header.implemented.map fun s => (t.fqn, s) }
  let r := if t.topLevel then imported.foldl (fun r target => r.depend t.fqn target .imported) r
    else r
  let (methods, fields) := directMembers t.members
  let r := { r with methods := r.methods ++ methods.map fun m => MethodRecord.ofDecl m t.fqn file.path }
  fields.foldl (addField ix t.fqn) r

end FileRecords

def ReadFile.records (file : ReadFile) (ix : TypeIndex) : FileRecords :=
  let unit := file.reading.unit
  let start : FileRecords :=
    { path := file.path, reader := some file.reading.reader, degraded := file.reading.degraded }
  let (imported, counts) := unit.imports.foldl (fun (acc : List String × ResolutionCounts) i =>
    match ix.resolveImport i with
    | .resolved fqn => (acc.1 ++ [fqn], { acc.2 with importsResolved := acc.2.importsResolved + 1 })
    | .unresolved _ => (acc.1, { acc.2 with importsUnresolved := acc.2.importsUnresolved + 1 }))
    ([], {})
  unit.types.foldl (FileRecords.addType ix file imported) { start with resolution := counts }

/-- The type index of a project: every named type of every file, in order. -/
def TypeIndex.ofFiles (files : List ReadFile) : TypeIndex :=
  files.foldl (fun ix f => f.reading.unit.types.foldl (fun ix t => ix.insert t.fqn t.header.name) ix)
    {}

end CodeGraph
