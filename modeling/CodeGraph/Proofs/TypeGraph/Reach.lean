import Mathlib
import CodeGraph.Proofs.TypeGraph
import CodeGraph.Cli.Command

/-! Walks of the type graph. `WalkInv` holds between rounds of a walk, each round lowers the queue
plus the unvisited types, and the fuel covers them, so a walk ends with exactly the types a
non-empty path reaches from its seeds. -/

namespace CodeGraph

open KeyMap Relation

lemma sortedNames_spec (xs : List String) :
    (sortedNames xs).Pairwise (· < ·) ∧ ∀ x, x ∈ sortedNames xs ↔ x ∈ xs := by
  -- the keys of a map are in order; which keys the insertions leave is the work here
  have hmem : ∀ (m : KeyMap Unit) x,
      x ∈ (xs.foldl (fun (m : KeyMap Unit) x => m.insert x ()) m).keys ↔ x ∈ m.keys ∨ x ∈ xs := by
    induction xs with
    | nil => simp
    | cons y ys ih =>
      intro m x
      rw [List.foldl_cons, ih, mem_keys_insert, List.mem_cons]
      tauto
  unfold sortedNames
  exact ⟨KeyMap.sorted _, fun x => by simpa [KeyMap.empty] using hmem KeyMap.empty x⟩

namespace TypeGraph

/-- One edge of the graph followed from `a` to `b` in a direction, with a label the filter
passes (every label when there is no filter): forwards from its source to its target, or
backwards from its target to its source. -/
def Linked (g : TypeGraph) (dir : Direction) (kinds : Option (List EdgeKind)) (a b : String) : Prop :=
  ∃ e ∈ g.edges, (∀ ks, kinds = some ks → e.kind ∈ ks) ∧
    match dir with
    | .outgoing => e.source = a ∧ e.target = b
    | .incoming => e.target = a ∧ e.source = b

variable (g : TypeGraph) (dir : Direction) (kinds : Option (List EdgeKind))

lemma allowed_iff (k : EdgeKind) : k.allowed kinds = true ↔ ∀ ks, kinds = some ks → k ∈ ks := by
  cases kinds <;> simp [EdgeKind.allowed]

lemma mem_step {a b : String} : b ∈ g.step dir kinds a ↔ g.Linked dir kinds a b := by
  unfold step Linked
  cases dir <;> simp [List.mem_filterMap, allowed_iff]

def enqueueNew (acc : List String × List String) (n : String) : List String × List String :=
  if acc.2.contains n then acc else (acc.1 ++ [n], acc.2 ++ [n])

lemma spread_succ_cons (fuel : Nat) (cur : String) (queue visited : List String) :
    g.spread dir kinds (fuel + 1) (cur :: queue) visited =
      let next := (g.step dir kinds cur).foldl enqueueNew (queue, visited)
      g.spread dir kinds fuel next.1 next.2 := rfl

lemma foldl_enqueueNew (succs queue visited : List String) :
    ∃ new, succs.foldl enqueueNew (queue, visited) = (queue ++ new, visited ++ new) ∧
      new.Nodup ∧ (∀ x ∈ new, x ∈ succs ∧ x ∉ visited) ∧ ∀ x ∈ succs, x ∈ visited ++ new := by
  induction succs generalizing queue visited with
  | nil => exact ⟨[], by simp⟩
  | cons y ys ih =>
    rw [List.foldl_cons]
    by_cases hy : y ∈ visited
    · have hstep : enqueueNew (queue, visited) y = (queue, visited) := by simp [enqueueNew, hy]
      obtain ⟨new, heq, hnd, hnew, hall⟩ := ih queue visited
      refine ⟨new, by rw [hstep]; exact heq, hnd, fun x hx => ?_, fun x hx => ?_⟩
      · exact ⟨List.mem_cons_of_mem _ (hnew x hx).1, (hnew x hx).2⟩
      · rcases List.mem_cons.1 hx with rfl | hx
        · exact List.mem_append_left _ hy
        · exact hall x hx
    · have hstep : enqueueNew (queue, visited) y = (queue ++ [y], visited ++ [y]) := by
        simp [enqueueNew, hy]
      obtain ⟨new, heq, hnd, hnew, hall⟩ := ih (queue ++ [y]) (visited ++ [y])
      refine ⟨y :: new, by simpa [hstep] using heq, ?_, fun x hx => ?_, fun x hx => ?_⟩
      · exact List.nodup_cons.2 ⟨fun h => (hnew y h).2 (by simp), hnd⟩
      · rcases List.mem_cons.1 hx with rfl | hx
        · exact ⟨List.mem_cons_self, hy⟩
        · have := hnew x hx
          exact ⟨List.mem_cons_of_mem _ this.1, fun h => this.2 (List.mem_append_left _ h)⟩
      · have := hall x
        rcases List.mem_cons.1 hx with rfl | hx
        · simp
        · simpa using this hx

lemma card_unvisited_append (U visited new : List String) (hnd : new.Nodup)
    (hnew : ∀ x ∈ new, x ∈ U ∧ x ∉ visited) :
    (U.toFinset \ (visited ++ new).toFinset).card + new.length =
      (U.toFinset \ visited.toFinset).card := by
  have hsub : new.toFinset ⊆ U.toFinset \ visited.toFinset := by
    intro x hx
    have := hnew x (List.mem_toFinset.1 hx)
    simp [this.1, this.2]
  have hsplit : U.toFinset \ (visited ++ new).toFinset =
      (U.toFinset \ visited.toFinset) \ new.toFinset := by
    rw [List.toFinset_append]
    exact sdiff_sdiff_left.symm
  rw [hsplit, Finset.card_sdiff_of_subset hsub, List.toFinset_card_of_nodup hnd]
  have := Finset.card_le_card hsub
  rw [List.toFinset_card_of_nodup hnd] at this
  omega

/-- What a walk from `starts` keeps between two steps: the queued and the starting types are
visited, every visited type is reached from a start, and every type next to a visited type off
the queue is visited. -/
structure WalkInv (starts queue visited : List String) : Prop where
  queue_visited : ∀ x ∈ queue, x ∈ visited
  starts_visited : ∀ x ∈ starts, x ∈ visited
  reached : ∀ x ∈ visited, ∃ s ∈ starts, ReflTransGen (g.Linked dir kinds) s x
  closed : ∀ x ∈ visited, x ∉ queue → ∀ y, g.Linked dir kinds x y → y ∈ visited

lemma walkInv_start (starts : List String) : WalkInv g dir kinds starts starts starts where
  queue_visited _ hx := hx
  starts_visited _ hx := hx
  reached x hx := ⟨x, hx, .refl⟩
  closed _ hx hq := absurd hx hq

variable {g dir kinds}

lemma WalkInv.visit {starts rest visited new : List String} {cur : String}
    (h : WalkInv g dir kinds starts (cur :: rest) visited)
    (hnew : ∀ x ∈ new, x ∈ g.step dir kinds cur)
    (hall : ∀ x ∈ g.step dir kinds cur, x ∈ visited ++ new) :
    WalkInv g dir kinds starts (rest ++ new) (visited ++ new) where
  queue_visited x hx := by
    rcases List.mem_append.1 hx with hx | hx
    · exact List.mem_append_left _ (h.queue_visited x (List.mem_cons_of_mem _ hx))
    · exact List.mem_append_right _ hx
  starts_visited x hx := List.mem_append_left _ (h.starts_visited x hx)
  reached x hx := by
    rcases List.mem_append.1 hx with hx | hx
    · exact h.reached x hx
    · -- a new type is next to `cur`, which was reached
      obtain ⟨s, hs, hreach⟩ := h.reached cur (h.queue_visited cur List.mem_cons_self)
      exact ⟨s, hs, hreach.tail ((mem_step g dir kinds).1 (hnew x hx))⟩
  closed x hx hq y hxy := by
    have hx' : x ∉ new := fun hn => hq (List.mem_append_right _ hn)
    by_cases hcur : x = cur
    · subst hcur
      exact hall y ((mem_step g dir kinds).2 hxy)
    · have hxv : x ∈ visited := by simpa [hx'] using hx
      have hxq : x ∉ cur :: rest := by
        simp only [List.mem_cons, not_or]
        exact ⟨hcur, fun hr => hq (List.mem_append_left _ hr)⟩
      exact List.mem_append_left _ (h.closed x hxv hxq y hxy)

lemma WalkInv.mem_iff {starts visited : List String}
    (h : WalkInv g dir kinds starts [] visited) (x : String) :
    x ∈ visited ↔ ∃ s ∈ starts, ReflTransGen (g.Linked dir kinds) s x := by
  refine ⟨h.reached x, ?_⟩
  rintro ⟨s, hs, hreach⟩
  induction hreach with
  | refl => exact h.starts_visited s hs
  | tail _ hyz ih => exact h.closed _ ih (List.not_mem_nil) _ hyz

lemma spread_spec (hU : ∀ a b, g.Linked dir kinds a b → b ∈ g.nodes) {starts : List String} :
    ∀ fuel queue visited, WalkInv g dir kinds starts queue visited →
      queue.length + (g.nodes.toFinset \ visited.toFinset).card < fuel →
      ∀ x, x ∈ g.spread dir kinds fuel queue visited ↔
        ∃ s ∈ starts, ReflTransGen (g.Linked dir kinds) s x := by
  intro fuel
  induction fuel with
  | zero => intro _ _ _ hfuel; omega
  | succ fuel ih =>
    intro queue visited h hfuel
    cases queue with
    | nil => exact h.mem_iff
    | cons cur rest =>
      obtain ⟨new, heq, hnd, hnew, hall⟩ := foldl_enqueueNew (g.step dir kinds cur) rest visited
      rw [spread_succ_cons, heq]
      have hcard := card_unvisited_append g.nodes visited new hnd fun x hx =>
        ⟨hU cur x ((mem_step g dir kinds).1 (hnew x hx).1), (hnew x hx).2⟩
      refine ih _ _ (h.visit (fun x hx => (hnew x hx).1) hall) ?_
      simp only [List.length_append, List.length_cons] at hfuel ⊢
      omega

variable (g dir kinds)

lemma reach_spec (hU : ∀ a b, g.Linked dir kinds a b → b ∈ g.nodes) (seeds : List String) :
    (g.reach dir kinds seeds).Pairwise (· < ·) ∧
      ∀ x, x ∈ g.reach dir kinds seeds ↔ x ∉ seeds.filter g.hasType ∧
        ∃ s ∈ seeds.filter g.hasType, TransGen (g.Linked dir kinds) s x := by
  set starts := seeds.filter g.hasType
  -- the fuel covers the starts and every type of the graph
  have hfuel : starts.length + (g.nodes.toFinset \ starts.toFinset).card <
      starts.length + g.nodeCount + 1 := by
    have h1 := Finset.card_le_card (Finset.sdiff_subset (s := g.nodes.toFinset) (t := starts.toFinset))
    have h2 := List.toFinset_card_le g.nodes
    unfold nodeCount
    omega
  have hvisit := spread_spec hU _ _ _ (walkInv_start g dir kinds starts) hfuel
  refine ⟨(sortedNames_spec _).1, fun x => ?_⟩
  unfold reach
  rw [(sortedNames_spec _).2, List.mem_filter, hvisit]
  simp only [Bool.not_eq_true', List.contains_eq_mem, decide_eq_false_iff_not]
  constructor
  · rintro ⟨⟨s, hs, hreach⟩, hx⟩
    rcases reflTransGen_iff_eq_or_transGen.1 hreach with rfl | hpath
    · exact absurd hs hx
    · exact ⟨hx, s, hs, hpath⟩
  · rintro ⟨hx, s, hs, hpath⟩
    exact ⟨⟨s, hs, hpath.to_reflTransGen⟩, hx⟩

lemma linked_ofSnapshot {s : Snapshot} {a b : String}
    (h : (ofSnapshot s).Linked dir kinds a b) :
    a ∈ (ofSnapshot s).nodes ∧ b ∈ (ofSnapshot s).nodes := by
  obtain ⟨e, he, -, hends⟩ := h
  have := mem_nodes_of_mem_edges s he
  cases dir with
  | outgoing => exact hends.1 ▸ hends.2 ▸ this
  | incoming => exact hends.1 ▸ hends.2 ▸ this.symm

lemma linked_incoming_eq_swap :
    g.Linked .incoming kinds = Function.swap (g.Linked .outgoing kinds) := by
  funext a b
  simp only [Linked, Function.swap, and_comm]

lemma transGen_ofSnapshot {s : Snapshot} {a b : String}
    (h : TransGen ((ofSnapshot s).Linked dir kinds) a b) :
    a ∈ (ofSnapshot s).nodes ∧ b ∈ (ofSnapshot s).nodes := by
  obtain ⟨_, hfirst, -⟩ := TransGen.head'_iff.1 h
  obtain ⟨_, -, hlast⟩ := TransGen.tail'_iff.1 h
  exact ⟨(linked_ofSnapshot dir kinds hfirst).1, (linked_ofSnapshot dir kinds hlast).2⟩

lemma mem_reach_ofSnapshot (s : Snapshot) (seeds : List String) (v : String) :
    v ∈ (ofSnapshot s).reach dir kinds seeds ↔
      v ∉ seeds ∧ ∃ t ∈ seeds, t ∈ (ofSnapshot s).nodes ∧
        TransGen ((ofSnapshot s).Linked dir kinds) t v := by
  have hU : ∀ a b, (ofSnapshot s).Linked dir kinds a b → b ∈ (ofSnapshot s).nodes :=
    fun _ _ h => (linked_ofSnapshot dir kinds h).2
  rw [((reach_spec _ dir kinds hU seeds).2 v)]
  simp only [List.mem_filter, hasType, List.contains_eq_mem, decide_eq_true_eq]
  constructor
  · rintro ⟨hv, t, ⟨ht, htn⟩, hpath⟩
    exact ⟨fun hs => hv ⟨hs, (transGen_ofSnapshot dir kinds hpath).2⟩, t, ht, htn, hpath⟩
  · rintro ⟨hv, t, ht, htn, hpath⟩
    exact ⟨fun h => hv h.1, t, ⟨ht, htn⟩, hpath⟩

lemma mem_impact (s : Snapshot) (seeds : List String) (v : String) :
    v ∈ (ofSnapshot s).impact seeds kinds ↔
      v ∉ seeds ∧ ∃ t ∈ seeds, v ∈ (ofSnapshot s).dependents t kinds := by
  simp only [impact, dependents, mem_reach_ofSnapshot, List.mem_singleton, exists_eq_left]
  constructor
  · rintro ⟨hv, t, ht, htn, hpath⟩
    exact ⟨hv, t, ht, fun h => hv (h ▸ ht), htn, hpath⟩
  · rintro ⟨hv, t, ht, -, htn, hpath⟩
    exact ⟨hv, t, ht, htn, hpath⟩

end TypeGraph

def Overlay.MarksChanged (o : Overlay) (t : String) : Prop :=
  ∃ m ∈ o.markers, m.kind = .type ∧ (m.status = .changed ∨ m.status = .removed) ∧ m.key = t

open TypeGraph in
lemma mem_impactedTypes (s : Snapshot) (o : Overlay) (v : String) :
    v ∈ Cli.impactedTypes s o ↔ v ∈ s.types.keys ∧ ¬ o.MarksChanged v ∧
      ∃ t, o.MarksChanged t ∧ TransGen ((ofSnapshot s).Linked .outgoing none) v t := by
  -- the seeds of the walk are the types marked changed or removed
  set seeds := (o.markers.filter fun m =>
    m.kind == .type && (m.status == .changed || m.status == .removed)).map (·.key) with hseeds
  have hmarked : ∀ t, o.MarksChanged t ↔ t ∈ seeds := by
    intro t
    simp [Overlay.MarksChanged, hseeds, and_assoc]
  simp only [hmarked]
  unfold Cli.impactedTypes
  dsimp only
  rw [← hseeds]
  split_ifs with hempty
  · simp [List.isEmpty_iff.1 hempty]
  · -- what reaches a seed forwards is what a seed reaches backwards
    rw [impact, mem_reach_ofSnapshot, linked_incoming_eq_swap, nodes_ofSnapshot]
    simp only [transGen_swap]
    constructor
    · rintro ⟨hv, t, ht, -, hpath⟩
      have hkeys := (transGen_ofSnapshot .outgoing none hpath).1
      rw [nodes_ofSnapshot] at hkeys
      exact ⟨hkeys, hv, t, ht, hpath⟩
    · rintro ⟨-, hv, t, ht, hpath⟩
      have hkeys := (transGen_ofSnapshot .outgoing none hpath).2
      rw [nodes_ofSnapshot] at hkeys
      exact ⟨hv, t, ht, hkeys, hpath⟩

open TypeGraph in
/-- The walks of the type graph of a snapshot (what a type uses, what uses it, what depends on
some types, what a type inherits) report, in strictly increasing name order, exactly the types
that are not seeds and are reached from a seed of the graph by a non-empty path of edges with
labels the filter passes, followed forwards or backwards; seeds that are no type of the snapshot
reach nothing. So what depends on some seeds is what depends on any one of them, the seeds
excluded; and the types a comparison reports as impacted are the types of its left snapshot,
other than those marked changed or removed, from which a path leads to one marked so. -/
theorem typeGraph_walks_reach (s : Snapshot) (dir : Direction) (kinds : Option (List EdgeKind))
    (seeds : List String) :
    let g := ofSnapshot s
    (g.reach dir kinds seeds).Pairwise (· < ·) ∧
    (∀ v, v ∈ g.reach dir kinds seeds ↔
      v ∉ seeds ∧ ∃ t ∈ seeds, t ∈ g.nodes ∧ TransGen (g.Linked dir kinds) t v) ∧
    (∀ v, v ∈ g.impact seeds kinds ↔ v ∉ seeds ∧ ∃ t ∈ seeds, v ∈ g.dependents t kinds) ∧
    ∀ (o : Overlay) (v : String), v ∈ Cli.impactedTypes s o ↔
      v ∈ s.types.keys ∧ ¬ o.MarksChanged v ∧
        ∃ t, o.MarksChanged t ∧ TransGen (g.Linked .outgoing none) v t :=
  ⟨(reach_spec _ dir kinds (fun _ _ h => (linked_ofSnapshot dir kinds h).2) seeds).1,
    mem_reach_ofSnapshot dir kinds s seeds, mem_impact kinds s seeds, mem_impactedTypes s⟩

end CodeGraph
