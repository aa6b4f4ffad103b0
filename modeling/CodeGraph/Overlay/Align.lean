import CodeGraph.Overlay
import CodeGraph.Overlay.Patch
import CodeGraph.Snapshot

/-!
# Laying two snapshots over each other

Each kind is keyed on both sides, the first record of a key winning, and keys are visited in
sorted order. A key on both sides is unchanged when the records agree on their content, changed
otherwise; a key on one side is added or removed. A marker names each side's file, and line
ranges when both sides know them.
-/

namespace CodeGraph

def sameSet (a b : List String) : Bool :=
  a.all b.contains && b.all a.contains

def TypeRecord.same (l r : TypeRecord) : Bool := l.fileHash == r.fileHash

def MethodRecord.paramTypes (m : MethodRecord) : List String := m.params.map (·.typeName)

def MethodRecord.same (l r : MethodRecord) : Bool :=
  let bodies := match l.bodyHash, r.bodyHash with
    | some a, some b => a == b
    | _, _ => true
  l.returnType == r.returnType && l.paramTypes == r.paramTypes &&
    sameSet l.modifiers r.modifiers && bodies

def FieldRecord.same (l r : FieldRecord) : Bool :=
  l.typeName == r.typeName && sameSet l.modifiers r.modifiers

structure Location where
  file : Option String
  range : Option LineRange := none

def byKey {α : Type} (key : α → String) (records : List α) : KeyMap α :=
  records.foldl (fun m r => m.insertNew (key r) r) KeyMap.empty

/-- The keys of two sides in sorted order, each with its record on either side. -/
def pairUp {α : Type} (left right : KeyMap α) : List (String × Option α × Option α) :=
  let both := left.entries.foldl (fun m (k, l) => m.insert k (some l, none)) KeyMap.empty
  (right.entries.foldl (fun m (k, r) => m.alter k (none, none) fun (l, _) => (l, some r)) both).entries

def alignEntry {α : Type} (overlay : String) (kind : EntityKind) (same : α → α → Bool)
    (locateLeft locateRight : α → Location) :
    String → Option α → Option α → Option Alignment × Option Marker
  | key, some l, some r =>
    let (ll, rl) := (locateLeft l, locateRight r)
    let (lr, rr) := match ll.range, rl.range with
      | some a, some b => (some a, some b)
      | _, _ => (none, none)
    let m : Marker :=
      { overlay
        kind
        key
        status := if same l r then .unchanged else .changed
        leftFile := ll.file
        rightFile := rl.file
        leftRange := lr
        rightRange := rr }
    (some ⟨kind, key⟩, some m)
  | key, some l, none =>
    (none, some { overlay, kind, key, status := .removed, leftFile := (locateLeft l).file })
  | key, none, some r =>
    (none, some { overlay, kind, key, status := .added, rightFile := (locateRight r).file })
  | _, none, none => (none, none)

def alignKind {α : Type} (overlay : String) (kind : EntityKind) (left right : KeyMap α)
    (same : α → α → Bool) (locateLeft locateRight : α → Location) :
    List Alignment × List Marker :=
  let entries := pairUp left right
  let entry := fun (e : String × Option α × Option α) =>
    alignEntry overlay kind same locateLeft locateRight e.1 e.2.1 e.2.2
  (entries.filterMap (entry · |>.1), entries.filterMap (entry · |>.2))

def Snapshot.ownerFile (g : Snapshot) (owner : String) : Option String :=
  (g.types.get? owner).map (·.file)

def Snapshot.methodLocation (g : Snapshot) (m : MethodRecord) : Location :=
  { file := m.file.or (g.ownerFile m.owner),
    range := m.lineRange.map fun (b, e) => ⟨b, e⟩ }

/-- Lay two snapshots over each other under an identifier, attaching patches to the changed
markers when sources are given. -/
def superimpose (left right : Snapshot) (id : String) (sources : Option PatchSources) : Overlay :=
  let types := alignKind id .type (byKey (·.fqn) left.types.values)
    (byKey (·.fqn) right.types.values) TypeRecord.same
    (fun t => { file := some t.file }) (fun t => { file := some t.file })
  let methods := alignKind id .method (byKey MethodRecord.key left.methods)
    (byKey MethodRecord.key right.methods) MethodRecord.same
    left.methodLocation right.methodLocation
  let fields := alignKind id .field (byKey FieldRecord.key left.fields)
    (byKey FieldRecord.key right.fields) FieldRecord.same
    (fun f => { file := left.ownerFile f.owner }) (fun f => { file := right.ownerFile f.owner })
  let markers := types.2 ++ methods.2 ++ fields.2
  let markers := match sources with
    | some src => attachPatches src markers
    | none => markers
  { id,
    alignments := types.1 ++ methods.1 ++ fields.1,
    markers,
    summary := Summary.ofMarkers id left.project left.repo right.repo markers }

end CodeGraph
