import CodeGraph.KeyMap

/-!
# Snapshots of a code base

The structural graph of one repository: its types keyed by qualified name, the methods and
fields they own, dependencies, supertypes, resolved calls and statistics. A method is known by
its owner and signature, a field by its owner and name.
-/

namespace CodeGraph

structure TypeRecord where
  fqn : String
  name : String
  file : String
  fileHash : String
  deriving Inhabited, BEq, Repr

structure ParamRecord where
  name : String
  typeName : String
  deriving Inhabited, BEq, Repr

structure MethodRecord where
  owner : String
  name : String
  signature : String
  returnType : String := "void"
  params : List ParamRecord := []
  modifiers : List String := []
  file : Option String := none
  beginLine : Option Nat := none
  endLine : Option Nat := none
  bodyHash : Option String := none
  deriving Inhabited, BEq, Repr

namespace MethodRecord

def ident (m : MethodRecord) : String × String := (m.owner, m.signature)

def key (m : MethodRecord) : String := m.owner ++ "::" ++ m.signature

def lineRange (m : MethodRecord) : Option (Nat × Nat) :=
  match m.beginLine, m.endLine with
  | some b, some e => if 0 < b && b ≤ e then some (b, e) else none
  | _, _ => none

end MethodRecord

structure FieldRecord where
  owner : String
  name : String
  typeName : String
  modifiers : List String := []
  deriving Inhabited, BEq, Repr

def FieldRecord.ident (f : FieldRecord) : String × String := (f.owner, f.name)

def FieldRecord.key (f : FieldRecord) : String := f.owner ++ "::" ++ f.name

inductive Via where
  | imported
  | field
  | param
  | returned
  | call
  deriving DecidableEq, Inhabited, Repr, Ord

def Via.name : Via → String
  | .imported => "import"
  | .field => "field"
  | .param => "param"
  | .returned => "return"
  | .call => "call"

def Via.all : List Via := [.imported, .field, .param, .returned, .call]

structure Dependency where
  source : String
  target : String
  via : Via
  file : String := ""
  deriving Inhabited, BEq, Repr

def Dependency.ident (d : Dependency) : String × String × Via × String :=
  (d.source, d.target, d.via, d.file)

structure CallEdge where
  fromOwner : String
  fromSignature : String
  toOwner : String
  toSignature : String
  file : String := ""
  deriving Inhabited, BEq, Repr

structure ResolutionCounts where
  importsResolved : Nat := 0
  importsUnresolved : Nat := 0
  fieldTypesResolved : Nat := 0
  fieldTypesUnresolved : Nat := 0
  deriving Inhabited, BEq, Repr

def ResolutionCounts.add (a b : ResolutionCounts) : ResolutionCounts :=
  ⟨a.importsResolved + b.importsResolved, a.importsUnresolved + b.importsUnresolved,
   a.fieldTypesResolved + b.fieldTypesResolved, a.fieldTypesUnresolved + b.fieldTypesUnresolved⟩

structure Stats where
  fileCount : Nat := 0
  parseErrorCount : Nat := 0
  backendUsed : String := ""
  backendFiles : KeyMap Nat := KeyMap.empty
  duplicateCount : Nat := 0
  resolution : ResolutionCounts := {}
  deriving Inhabited, BEq, Repr

/-- The structural graph of one repository of a project. `extended` and `implemented` pair a
type with a supertype reference as written. -/
structure Snapshot where
  project : String := ""
  repo : String := ""
  types : KeyMap TypeRecord := KeyMap.empty
  methods : List MethodRecord := []
  fields : List FieldRecord := []
  dependencies : List Dependency := []
  extended : List (String × String) := []
  implemented : List (String × String) := []
  calls : List CallEdge := []
  stats : Stats := {}
  deriving Inhabited, BEq, Repr

structure SnapshotCounts where
  project : String
  repo : String
  types : Nat
  methods : Nat
  fields : Nat
  dependencies : Nat
  extended : Nat
  implemented : Nat
  calls : Nat
  deriving Inhabited, BEq, Repr

def Snapshot.counts (g : Snapshot) : SnapshotCounts :=
  ⟨g.project, g.repo, g.types.size, g.methods.length, g.fields.length, g.dependencies.length,
   g.extended.length, g.implemented.length, g.calls.length⟩

def TypeRecord.tableOf (records : List TypeRecord) : KeyMap TypeRecord :=
  records.foldl (fun m t => m.insertNew t.fqn t) KeyMap.empty

end CodeGraph
