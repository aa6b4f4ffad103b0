import Mathlib
import CodeGraph.TypeGraph
import CodeGraph.Proofs.KeyMap
import CodeGraph.Proofs.Attribution

/-! The type graph of a snapshot, built edge by edge: the three folds of `TypeGraph.ofSnapshot`
reduce to one fold of `addEdge` over the candidate edges. -/

namespace CodeGraph

/-- The edges a snapshot's records ask for, between any names: one per dependency, labelled with
how it was found, and one per supertype pair whose reference resolves, from the child to the
type found. -/
def Snapshot.Links (s : Snapshot) (e : Edge) : Prop :=
  match e.kind with
  | .dependsOn v => ∃ d ∈ s.dependencies, d.source = e.source ∧ d.target = e.target ∧ d.via = v
  | .extendsType =>
    ∃ p ∈ s.extended, p.1 = e.source ∧ resolveReference s.types p.2 = .resolved e.target
  | .implementsType =>
    ∃ p ∈ s.implemented, p.1 = e.source ∧ resolveReference s.types p.2 = .resolved e.target

def Resolves (types : KeyMap TypeRecord) (link : String × String) : Bool :=
  (resolveReference types link.2).fqn?.isSome

def supertypeEdge (types : KeyMap TypeRecord) (kind : EdgeKind) (link : String × String) :
    Option Edge :=
  (resolveReference types link.2).fqn?.map fun parent => ⟨link.1, parent, kind⟩

def Snapshot.candidateEdges (s : Snapshot) : List Edge :=
  s.dependencies.map (fun d => ⟨d.source, d.target, .dependsOn d.via⟩) ++
    s.extended.filterMap (supertypeEdge s.types .extendsType) ++
    s.implemented.filterMap (supertypeEdge s.types .implementsType)

lemma Resolution.fqn?_eq_some {r : Resolution} {b : String} : r.fqn? = some b ↔ r = .resolved b := by
  cases r <;> simp [Resolution.fqn?]

lemma Snapshot.mem_candidateEdges (s : Snapshot) (e : Edge) : e ∈ s.candidateEdges ↔ s.Links e := by
  obtain ⟨a, b, k⟩ := e
  cases k <;>
    simp [Snapshot.candidateEdges, Snapshot.Links, supertypeEdge, Resolution.fqn?_eq_some]

lemma resolveReference_eq (types : KeyMap TypeRecord) (reference : String) :
    resolveReference types reference =
      let r := Text.trim reference
      if r.isEmpty then .unresolved .empty
      else if r ∈ types.keys then .resolved r
      else match types.values.find? (·.name == r) with
        | some t => .resolved t.fqn
        | none => match types.values.find? (·.fqn.endsWith ("." ++ r)) with
          | some t => .resolved t.fqn
          | none => match types.values.find? (·.fqn.endsWith ("$" ++ r)) with
            | some t => .resolved t.fqn
            | none => .unresolved .external := by
  unfold resolveReference
  simp only [← KeyMap.contains_iff, List.findSome?_cons, List.findSome?_nil]
  split_ifs with hempty hkey
  · rfl
  · rfl
  · -- the three fallbacks, tried in order
    cases types.values.find? (·.name == Text.trim reference) <;>
      cases types.values.find? (·.fqn.endsWith ("." ++ Text.trim reference)) <;>
      cases types.values.find? (·.fqn.endsWith ("$" ++ Text.trim reference)) <;> rfl

namespace TypeGraph

def Admits (g : TypeGraph) (e : Edge) : Prop :=
  e.source ∈ g.nodes ∧ e.target ∈ g.nodes ∧ e.source ≠ e.target

instance (g : TypeGraph) (e : Edge) : Decidable (g.Admits e) :=
  inferInstanceAs (Decidable (_ ∧ _ ∧ _))

variable (g : TypeGraph) (e : Edge)

@[simp] lemma nodes_addEdge : (g.addEdge e).nodes = g.nodes := by
  unfold addEdge
  split <;> rfl

@[simp] lemma relations_addEdge : (g.addEdge e).relations = g.relations := by
  unfold addEdge
  split <;> rfl

lemma edges_addEdge :
    (g.addEdge e).edges = if g.Admits e ∧ e ∉ g.edges then g.edges ++ [e] else g.edges := by
  unfold addEdge Admits hasType
  by_cases h : e.source ∈ g.nodes ∧ e.target ∈ g.nodes ∧ e.source ≠ e.target ∧ e ∉ g.edges
  · rw [if_pos (by simpa [and_assoc] using h), if_pos (by tauto)]
  · rw [if_neg (by simpa [and_assoc] using h), if_neg (by tauto)]

lemma edges_addEdge_congr {g g' : TypeGraph} (hn : g.nodes = g'.nodes) (he : g.edges = g'.edges) :
    (g.addEdge e).edges = (g'.addEdge e).edges := by
  unfold addEdge hasType
  rw [hn, he]
  split_ifs <;> simp [he]

lemma edges_foldl_addEdge_congr {g g' : TypeGraph} (hn : g.nodes = g'.nodes)
    (he : g.edges = g'.edges) (es : List Edge) :
    (es.foldl addEdge g).edges = (es.foldl addEdge g').edges := by
  induction es generalizing g g' with
  | nil => exact he
  | cons e es ih =>
    rw [List.foldl_cons, List.foldl_cons]
    exact ih (by simp [hn]) (edges_addEdge_congr e hn he)

@[simp] lemma nodes_foldl_addEdge (es : List Edge) : (es.foldl addEdge g).nodes = g.nodes := by
  induction es generalizing g with
  | nil => rfl
  | cons e es ih => rw [List.foldl_cons, ih, nodes_addEdge]

@[simp] lemma relations_foldl_addEdge (es : List Edge) :
    (es.foldl addEdge g).relations = g.relations := by
  induction es generalizing g with
  | nil => rfl
  | cons e es ih => rw [List.foldl_cons, ih, relations_addEdge]

lemma edges_addEdge_spec (hg : g.edges.Nodup) :
    (g.addEdge e).edges.Nodup ∧
      ∀ e', e' ∈ (g.addEdge e).edges ↔ e' ∈ g.edges ∨ (e' = e ∧ g.Admits e) := by
  rw [edges_addEdge]
  split_ifs with h
  · refine ⟨hg.append (List.nodup_singleton e) (by simpa using h.2), fun e' => ?_⟩
    simp only [List.mem_append, List.mem_singleton]
    constructor
    · rintro (he | rfl)
      · exact .inl he
      · exact .inr ⟨rfl, h.1⟩
    · rintro (he | ⟨rfl, -⟩)
      · exact .inl he
      · exact .inr rfl
  · refine ⟨hg, fun e' => ⟨.inl, ?_⟩⟩
    rintro (he | ⟨rfl, hadm⟩)
    · exact he
    · -- an admitted edge is left out only when it is there already
      by_contra hnot
      exact h ⟨hadm, hnot⟩

lemma edges_foldl_addEdge (es : List Edge) (hg : g.edges.Nodup) :
    (es.foldl addEdge g).edges.Nodup ∧
      ∀ e, e ∈ (es.foldl addEdge g).edges ↔ e ∈ g.edges ∨ (e ∈ es ∧ g.Admits e) := by
  induction es generalizing g with
  | nil => simp [hg]
  | cons e₀ es ih =>
    have hadm : (g.addEdge e₀).Admits = g.Admits := by
      funext e
      simp only [Admits, nodes_addEdge]
    have hstep := edges_addEdge_spec g e₀ hg
    obtain ⟨hnodup, hmem⟩ := ih (g.addEdge e₀) hstep.1
    refine ⟨hnodup, fun e => ?_⟩
    rw [List.foldl_cons, hmem, hstep.2, hadm, List.mem_cons]
    constructor
    · rintro ((he | ⟨rfl, ha⟩) | ⟨he, ha⟩)
      · exact .inl he
      · exact .inr ⟨.inl rfl, ha⟩
      · exact .inr ⟨.inr he, ha⟩
    · rintro (he | ⟨rfl | he, ha⟩)
      · exact .inl (.inl he)
      · exact .inl (.inr ⟨rfl, ha⟩)
      · exact .inr ⟨he, ha⟩

section Supertypes

variable (types : KeyMap TypeRecord) (kind : EdgeKind)

@[simp] lemma nodes_foldl_addSupertype (links : List (String × String)) :
    (links.foldl (addSupertype types kind) g).nodes = g.nodes := by
  induction links generalizing g with
  | nil => rfl
  | cons l links ih =>
    rw [List.foldl_cons, ih]
    unfold addSupertype
    split <;> simp

lemma edges_foldl_addSupertype (links : List (String × String)) :
    (links.foldl (addSupertype types kind) g).edges =
      ((links.filterMap (supertypeEdge types kind)).foldl addEdge g).edges := by
  induction links generalizing g with
  | nil => rfl
  | cons l links ih =>
    rw [List.foldl_cons, ih, List.filterMap_cons]
    cases h : (resolveReference types l.2).fqn? with
    | some parent =>
      have hedge : supertypeEdge types kind l = some ⟨l.1, parent, kind⟩ := by
        simp [supertypeEdge, h]
      rw [hedge, List.foldl_cons]
      simp only [addSupertype, h]
      apply edges_foldl_addEdge_congr
      · simp
      · exact edges_addEdge_congr _ rfl rfl
    | none =>
      have hedge : supertypeEdge types kind l = none := by simp [supertypeEdge, h]
      rw [hedge]
      simp only [addSupertype, h]
      apply edges_foldl_addEdge_congr <;> rfl

lemma relations_foldl_addSupertype (links : List (String × String)) :
    (links.foldl (addSupertype types kind) g).relations =
      { resolved := g.relations.resolved + links.countP (Resolves types)
        unresolved := g.relations.unresolved + links.countP (fun l => !Resolves types l) } := by
  induction links generalizing g with
  | nil => rfl
  | cons l links ih =>
    rw [List.foldl_cons, ih, List.countP_cons, List.countP_cons]
    unfold addSupertype Resolves
    cases (resolveReference types l.2).fqn? with
    | some parent => simp; omega
    | none => simp; omega

end Supertypes

variable (s : Snapshot)

lemma nodes_ofSnapshot : (ofSnapshot s).nodes = s.types.keys := by
  simp [ofSnapshot, ← List.foldl_map]

lemma edges_ofSnapshot :
    (ofSnapshot s).edges =
      (s.candidateEdges.foldl addEdge ({ nodes := s.types.keys } : TypeGraph)).edges := by
  rw [ofSnapshot, edges_foldl_addSupertype, Snapshot.candidateEdges, List.foldl_append,
    List.foldl_append, List.foldl_map]
  apply edges_foldl_addEdge_congr
  · simp
  · exact edges_foldl_addSupertype _ _ _ _

lemma relations_ofSnapshot :
    (ofSnapshot s).relations =
      { resolved := s.extended.countP (Resolves s.types) + s.implemented.countP (Resolves s.types)
        unresolved := s.extended.countP (fun l => !Resolves s.types l) +
          s.implemented.countP (fun l => !Resolves s.types l) } := by
  rw [ofSnapshot, relations_foldl_addSupertype, relations_foldl_addSupertype, ← List.foldl_map,
    relations_foldl_addEdge]
  simp

lemma edges_ofSnapshot_spec :
    (ofSnapshot s).edges.Nodup ∧
      ∀ e, e ∈ (ofSnapshot s).edges ↔
        e.source ∈ s.types.keys ∧ e.target ∈ s.types.keys ∧ e.source ≠ e.target ∧ s.Links e := by
  obtain ⟨hnodup, hmem⟩ := edges_foldl_addEdge ({ nodes := s.types.keys } : TypeGraph)
    s.candidateEdges List.nodup_nil
  refine ⟨edges_ofSnapshot s ▸ hnodup, fun e => ?_⟩
  rw [edges_ofSnapshot, hmem, Snapshot.mem_candidateEdges]
  simp only [Admits, List.not_mem_nil, false_or]
  tauto

lemma mem_nodes_of_mem_edges {e : Edge} (he : e ∈ (ofSnapshot s).edges) :
    e.source ∈ (ofSnapshot s).nodes ∧ e.target ∈ (ofSnapshot s).nodes := by
  obtain ⟨hs, ht, -⟩ := ((edges_ofSnapshot_spec s).2 e).1 he
  rw [nodes_ofSnapshot]
  exact ⟨hs, ht⟩

end TypeGraph

/-- The type graph of a snapshot has the snapshot's type names as its nodes. It has an edge from
`a` to `b` with a label exactly when `a` and `b` are two distinct types of the snapshot and a
dependency with that label, or a supertype pair of that kind whose reference resolves to `b`,
leads from `a` to `b`; and it has that edge once. Each supertype pair is counted once, as
resolved when its reference resolves, whether or not it gave an edge. References resolve as
`resolveReference_eq` says: blank ones to nothing, then by exact name, then by simple name, then
by a name ending in `.` or `$` and the reference, each time the first type in the map's order. -/
theorem typeGraph_edges_are_links (s : Snapshot) :
    let g := TypeGraph.ofSnapshot s
    g.nodes = s.types.keys ∧ g.edges.Nodup ∧
    (∀ e, e ∈ g.edges ↔
      e.source ∈ s.types.keys ∧ e.target ∈ s.types.keys ∧ e.source ≠ e.target ∧ s.Links e) ∧
    g.relations.resolved =
      s.extended.countP (Resolves s.types) + s.implemented.countP (Resolves s.types) ∧
    g.relations.resolved + g.relations.unresolved = s.extended.length + s.implemented.length ∧
    ∀ reference, resolveReference s.types reference =
      let r := Text.trim reference
      if r.isEmpty then .unresolved .empty
      else if r ∈ s.types.keys then .resolved r
      else match s.types.values.find? (·.name == r) with
        | some t => .resolved t.fqn
        | none => match s.types.values.find? (·.fqn.endsWith ("." ++ r)) with
          | some t => .resolved t.fqn
          | none => match s.types.values.find? (·.fqn.endsWith ("$" ++ r)) with
            | some t => .resolved t.fqn
            | none => .unresolved .external := by
  have hcount : (TypeGraph.ofSnapshot s).relations.resolved +
      (TypeGraph.ofSnapshot s).relations.unresolved = s.extended.length + s.implemented.length := by
    rw [TypeGraph.relations_ofSnapshot,
      List.length_eq_countP_add_countP (Resolves s.types) (l := s.extended),
      List.length_eq_countP_add_countP (Resolves s.types) (l := s.implemented)]
    simp only [Bool.not_eq_true, Bool.decide_eq_false]
    omega
  exact ⟨TypeGraph.nodes_ofSnapshot s, (TypeGraph.edges_ofSnapshot_spec s).1,
    (TypeGraph.edges_ofSnapshot_spec s).2, by rw [TypeGraph.relations_ofSnapshot], hcount,
    resolveReference_eq s.types⟩

end CodeGraph
