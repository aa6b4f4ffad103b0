import CodeGraph.Snapshot
import CodeGraph.Outline
import CodeGraph.Java.TypeText
import CodeGraph.Json.Value

/-!
# Resolving references to the types of a project

The type index keeps every qualified name once and, for each simple name, the qualified names
that have it, first found first. An import resolves to its own path when that is a known type,
else by its last segment; a field type by its simple name; a supertype reference against a
snapshot's types by exact name, then simple name, then a `.` or `$` suffix.
-/

namespace CodeGraph

inductive Unresolved where
  | wildcard
  | external
  | empty
  deriving DecidableEq, Inhabited, Repr

def Unresolved.name : Unresolved → String
  | .wildcard => "wildcard"
  | .external => "external"
  | .empty => "empty"

inductive Resolution where
  | resolved (fqn : String)
  | unresolved (reason : Unresolved)
  deriving DecidableEq, Inhabited, Repr

def Resolution.fqn? : Resolution → Option String
  | .resolved fqn => some fqn
  | .unresolved _ => none

def Resolution.toJson : Resolution → Json.Value
  | .resolved fqn => .obj [("Resolved", .str fqn)]
  | .unresolved r => .obj [("Unresolved", .str r.name)]

/-- The types found so far: each qualified name once, in the order found, and the qualified
names of each simple name. -/
structure TypeIndex where
  fqns : List String := []
  bySimple : KeyMap (List String) := KeyMap.empty
  deriving Inhabited, Repr

namespace TypeIndex

def contains (ix : TypeIndex) (fqn : String) : Bool := ix.fqns.contains fqn

def insert (ix : TypeIndex) (fqn simple : String) : TypeIndex :=
  if ix.contains fqn then ix
  else ⟨ix.fqns ++ [fqn], ix.bySimple.alter simple [] (· ++ [fqn])⟩

def size (ix : TypeIndex) : Nat := ix.fqns.length

def candidates (ix : TypeIndex) (simple : String) : List String :=
  (ix.bySimple.get? simple).getD []

def firstCandidate (ix : TypeIndex) (simple : String) : Resolution :=
  match ix.candidates simple with
  | fqn :: _ => .resolved fqn
  | [] => .unresolved .external

def lastSegment (path : String) : String :=
  String.ofList ((path.toList.splitOn '.').getLast?.getD [])

def resolveImport (ix : TypeIndex) (i : Outline.Import) : Resolution :=
  if i.isWildcard then .unresolved .wildcard
  else if i.path.isEmpty then .unresolved .empty
  else if ix.contains i.path then .resolved i.path
  else ix.firstCandidate (lastSegment i.path)

def resolveFieldType (ix : TypeIndex) (declared : String) : Resolution :=
  match Java.simpleName declared with
  | some simple => ix.firstCandidate simple
  | none => .unresolved .empty

end TypeIndex

/-- Resolve a supertype reference against a snapshot's types: blanks around it dropped, the
exact qualified name, else the first type in name order of that simple name, ending in `.` and
the reference, or ending in `$` and the reference. -/
def resolveReference (types : KeyMap TypeRecord) (reference : String) : Resolution :=
  let r := Text.trim reference
  if r.isEmpty then .unresolved .empty
  else if types.contains r then .resolved r
  else
    let records := types.values
    let tests : List (TypeRecord → Bool) :=
      [fun t => t.name == r, fun t => t.fqn.endsWith ("." ++ r), fun t => t.fqn.endsWith ("$" ++ r)]
    match tests.findSome? (fun test => records.find? test) with
    | some t => .resolved t.fqn
    | none => .unresolved .external

end CodeGraph
