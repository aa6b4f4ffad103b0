import CodeGraph.Resolution

/-!
# The type graph of a snapshot

The types of a snapshot are nodes; each dependency gives a labelled edge and each supertype
reference that resolves against the snapshot gives an `extends` or `implements` edge, kept once
and only between distinct types. Walks go forwards or backwards and report the types reached.
-/

namespace CodeGraph

inductive EdgeKind where
  | dependsOn (via : Via)
  | extendsType
  | implementsType
  deriving DecidableEq, Inhabited, Repr

namespace EdgeKind

def name : EdgeKind → String
  | .dependsOn _ => "depends_on"
  | .extendsType => "extends"
  | .implementsType => "implements"

def isSupertype : EdgeKind → Bool
  | .dependsOn _ => false
  | _ => true

end EdgeKind

structure RelationStats where
  resolved : Nat := 0
  unresolved : Nat := 0
  deriving DecidableEq, Inhabited, Repr

structure Edge where
  source : String
  target : String
  kind : EdgeKind
  deriving DecidableEq, Inhabited, Repr

inductive Direction where
  | outgoing
  | incoming
  deriving DecidableEq, Inhabited, Repr

/-- The type graph: its types in name order, its edges in the order they were added, and the
resolution counts of supertype references. -/
structure TypeGraph where
  nodes : List String := []
  edges : List Edge := []
  relations : RelationStats := {}
  deriving Inhabited

def EdgeKind.allowed (k : EdgeKind) : Option (List EdgeKind) → Bool
  | none => true
  | some ks => ks.contains k

def sortedNames (xs : List String) : List String :=
  (xs.foldl (fun (m : KeyMap Unit) x => m.insert x ()) KeyMap.empty).keys

namespace TypeGraph

def hasType (g : TypeGraph) (fqn : String) : Bool := g.nodes.contains fqn

def nodeCount (g : TypeGraph) : Nat := g.nodes.length

def edgeCount (g : TypeGraph) : Nat := g.edges.length

def addEdge (g : TypeGraph) (e : Edge) : TypeGraph :=
  if g.hasType e.source && g.hasType e.target && e.source != e.target && !g.edges.contains e then
    { g with edges := g.edges ++ [e] }
  else g

def addSupertype (types : KeyMap TypeRecord) (kind : EdgeKind) (g : TypeGraph)
    (link : String × String) : TypeGraph :=
  match (resolveReference types link.2).fqn? with
  | some parent =>
    let g := { g with relations := { g.relations with resolved := g.relations.resolved + 1 } }
    g.addEdge ⟨link.1, parent, kind⟩
  | none => { g with relations := { g.relations with unresolved := g.relations.unresolved + 1 } }

def ofSnapshot (s : Snapshot) : TypeGraph :=
  let g : TypeGraph := { nodes := s.types.keys }
  let g := s.dependencies.foldl (fun g d => g.addEdge ⟨d.source, d.target, .dependsOn d.via⟩) g
  let g := s.extended.foldl (addSupertype s.types .extendsType) g
  s.implemented.foldl (addSupertype s.types .implementsType) g

def step (g : TypeGraph) (dir : Direction) (kinds : Option (List EdgeKind)) (fqn : String) :
    List String :=
  g.edges.filterMap fun e =>
    if !e.kind.allowed kinds then none
    else match dir with
      | .outgoing => if e.source == fqn then some e.target else none
      | .incoming => if e.target == fqn then some e.source else none

def neighbors (g : TypeGraph) (fqn : String) (dir : Direction) (kinds : Option (List EdgeKind)) :
    List String :=
  if g.hasType fqn then sortedNames (g.step dir kinds fqn) else []

def spread (g : TypeGraph) (dir : Direction) (kinds : Option (List EdgeKind)) :
    Nat → List String → List String → List String
  | 0, _, visited => visited
  | _ + 1, [], visited => visited
  | fuel + 1, cur :: queue, visited =>
    let (queue, visited) := (g.step dir kinds cur).foldl (fun (acc : List String × List String) n =>
      if acc.2.contains n then acc else (acc.1 ++ [n], acc.2 ++ [n])) (queue, visited)
    spread g dir kinds fuel queue visited

/-- The types reached from some starting types, those excluded, in name order. -/
def reach (g : TypeGraph) (dir : Direction) (kinds : Option (List EdgeKind))
    (seeds : List String) : List String :=
  let starts := seeds.filter g.hasType
  let visited := spread g dir kinds (starts.length + g.nodeCount + 1) starts starts
  sortedNames (visited.filter fun t => !starts.contains t)

def dependencies (g : TypeGraph) (fqn : String) (kinds : Option (List EdgeKind)) : List String :=
  g.reach .outgoing kinds [fqn]

def dependents (g : TypeGraph) (fqn : String) (kinds : Option (List EdgeKind)) : List String :=
  g.reach .incoming kinds [fqn]

def impact (g : TypeGraph) (seeds : List String) (kinds : Option (List EdgeKind)) : List String :=
  g.reach .incoming kinds seeds

def supertypes (g : TypeGraph) (fqn : String) : List String :=
  g.reach .outgoing (some [.extendsType, .implementsType]) [fqn]

end TypeGraph

end CodeGraph
