import Mathlib
import CodeGraph.Proofs.Store.Merge
import CodeGraph.Proofs.KeyMap

/-! Upserting a snapshot into a store merges it into the held one and changes nothing else; a
second upsert of it changes nothing more when a snapshot was held or it repeats no member. -/

namespace CodeGraph

open KeyMap

structure Snapshot.Distinct (g : Snapshot) : Prop where
  methods : (g.methods.map (·.ident)).Nodup
  fields : (g.fields.map (·.ident)).Nodup
  dependencies : (g.dependencies.map (·.ident)).Nodup
  extended : g.extended.Nodup
  implemented : g.implemented.Nodup
  calls : g.calls.Nodup

/-- What the stored snapshot `S` becomes when `g` is merged into it: the types of `g` over
those of `S`; methods and fields merged by identity; the dependencies of `g` that `S` lacks
after those of `S`, in the order of `g`; the supertype pairs and calls of `g` that `S` lacks,
once each and in order, after those of `S`; the statistics of `g`. -/
structure Snapshot.Merged (S g S' : Snapshot) : Prop where
  project : S'.project = S.project
  repo : S'.repo = S.repo
  types : ∀ k, S'.types.get? k = (g.types.get? k).or (S.types.get? k)
  methods : S'.methods = upsertAll MethodRecord.ident S.methods g.methods
  fields : S'.fields = upsertAll FieldRecord.ident S.fields g.fields
  dependencies : ∃ ds, S'.dependencies = S.dependencies ++ ds ∧ ds.Sublist g.dependencies ∧
    ∀ d ∈ g.dependencies, d ∈ ds ↔ d.ident ∉ S.dependencies.map (·.ident)
  extended : S'.extended = S.extended ++ (g.extended.filter fun p => !S.extended.contains p).eraseDups
  implemented : S'.implemented =
    S.implemented ++ (g.implemented.filter fun p => !S.implemented.contains p).eraseDups
  calls : S'.calls = S.calls ++ (g.calls.filter fun c => !S.calls.contains c).eraseDups
  stats : S'.stats = g.stats

section Merge

variable (S g : Snapshot)

lemma types_merge :
    (S.merge g).types = g.types.entries.foldl (fun m e => m.insert e.1 (id e.2)) S.types :=
  rfl

lemma methods_merge :
    (S.merge g).methods = g.methods.foldl (replaceOrPush (·.ident == ·.ident)) S.methods :=
  rfl

lemma fields_merge :
    (S.merge g).fields = g.fields.foldl (replaceOrPush (·.ident == ·.ident)) S.fields :=
  rfl

lemma dependencies_merge :
    (S.merge g).dependencies = S.dependencies ++
      g.dependencies.filter fun d => !(S.dependencies.map (·.ident)).contains d.ident :=
  rfl

lemma get?_types_merge (k : String) :
    (S.merge g).types.get? k = (g.types.get? k).or (S.types.get? k) := by
  rw [types_merge, get?_foldl_insert_of_nodup id _ g.types.nodup_keys]
  rfl

lemma ident_mem_dependencies_merge {d : Dependency} (hd : d ∈ g.dependencies) :
    d.ident ∈ (S.merge g).dependencies.map (·.ident) := by
  rw [dependencies_merge, List.map_append, List.mem_append]
  by_cases hS : d.ident ∈ S.dependencies.map (·.ident)
  · exact .inl hS
  · exact .inr (List.mem_map_of_mem (List.mem_filter.mpr ⟨hd, by simpa using hS⟩))

theorem merged_merge (hS : (S.methods.map (·.ident)).Nodup)
    (hF : (S.fields.map (·.ident)).Nodup) : Snapshot.Merged S g (S.merge g) where
  project := rfl
  repo := rfl
  types := get?_types_merge S g
  methods := foldl_replaceOrPush_eq_upsertAll MethodRecord.ident hS g.methods
  fields := foldl_replaceOrPush_eq_upsertAll FieldRecord.ident hF g.fields
  dependencies := by
    refine ⟨_, dependencies_merge S g, List.filter_sublist, fun d _ => ?_⟩
    simp [List.mem_filter, *]
  extended := pushNew_eq _ _
  implemented := pushNew_eq _ _
  calls := pushNew_eq _ _
  stats := rfl

lemma distinct_merge (hS : S.Distinct) :
    (S.merge g).types.keys.Nodup ∧ ((S.merge g).methods.map (·.ident)).Nodup ∧
      ((S.merge g).fields.map (·.ident)).Nodup ∧ (S.merge g).extended.Nodup ∧
      (S.merge g).implemented.Nodup ∧ (S.merge g).calls.Nodup ∧
      ((g.dependencies.map (·.ident)).Nodup → ((S.merge g).dependencies.map (·.ident)).Nodup) := by
  refine ⟨(S.merge g).types.nodup_keys, nodup_foldl _ hS.methods _, nodup_foldl _ hS.fields _,
    nodup_pushNew hS.extended _, nodup_pushNew hS.implemented _, nodup_pushNew hS.calls _,
    fun hgd => ?_⟩
  rw [dependencies_merge, List.map_append]
  refine hS.dependencies.append ((hgd.sublist (List.filter_sublist.map _))) ?_
  -- what is appended is new to `S`
  intro i hi hi'
  obtain ⟨d, hd, rfl⟩ := List.mem_map.mp hi'
  simp only [List.mem_filter] at hd
  simp_all

lemma dependencies_merge_of_subset (h : ∀ d ∈ g.dependencies, d.ident ∈ S.dependencies.map (·.ident)) :
    (S.merge g).dependencies = S.dependencies := by
  rw [dependencies_merge, List.filter_eq_nil_iff.mpr fun d hd => by simpa using h d hd,
    List.append_nil]

lemma merge_eq_self {S g : Snapshot} (htypes : (S.merge g).types = S.types)
    (hmethods : (S.merge g).methods = S.methods) (hfields : (S.merge g).fields = S.fields)
    (hdeps : (S.merge g).dependencies = S.dependencies)
    (hext : (S.merge g).extended = S.extended) (himpl : (S.merge g).implemented = S.implemented)
    (hcalls : (S.merge g).calls = S.calls) (hstats : (S.merge g).stats = S.stats) :
    S.merge g = S :=
  calc S.merge g
      = { S with
          types := (S.merge g).types, methods := (S.merge g).methods,
          fields := (S.merge g).fields, dependencies := (S.merge g).dependencies,
          extended := (S.merge g).extended, implemented := (S.merge g).implemented,
          calls := (S.merge g).calls, stats := (S.merge g).stats } := rfl
    _ = S := by rw [htypes, hmethods, hfields, hdeps, hext, himpl, hcalls, hstats]

theorem merge_merge : (S.merge g).merge g = S.merge g := by
  refine merge_eq_self ?_
    (by rw [methods_merge, methods_merge]; exact foldl_replaceOrPush_idem _ _ _)
    (by rw [fields_merge, fields_merge]; exact foldl_replaceOrPush_idem _ _ _)
    (dependencies_merge_of_subset _ _ fun d hd => ident_mem_dependencies_merge S g hd)
    (pushNew_idem _ _) (pushNew_idem _ _) (pushNew_idem _ _) rfl
  -- both maps look every key up alike
  refine ext_get? fun k => ?_
  rw [get?_types_merge, get?_types_merge]
  cases g.types.get? k <;> rfl

theorem merge_self (hM : (g.methods.map (·.ident)).Nodup)
    (hF : (g.fields.map (·.ident)).Nodup) : g.merge g = g := by
  refine merge_eq_self ?_ (by rw [methods_merge]; exact foldl_replaceOrPush_self _ hM)
    (by rw [fields_merge]; exact foldl_replaceOrPush_self _ hF)
    (dependencies_merge_of_subset _ _ fun d hd => List.mem_map_of_mem hd)
    (pushNew_of_subset fun _ => id) (pushNew_of_subset fun _ => id)
    (pushNew_of_subset fun _ => id) rfl
  refine ext_get? fun k => ?_
  rw [get?_types_merge]
  cases g.types.get? k <;> rfl

end Merge

namespace Store

lemma graph_replace (s : Store) (g : Snapshot) (p r : String) :
    (s.replace g).graph p r = if p = g.project ∧ r = g.repo then .ok g else s.graph p r := by
  unfold Store.graph Store.replace
  rw [get?_alter]
  by_cases hp : p = g.project
  · by_cases hr : r = g.repo
    · simp [hp, hr]
    · cases h : s.graphs.get? g.project <;> simp [hp, hr, get?_insert, h]
  · simp [hp]

lemma replace_replace (s : Store) {a b : Snapshot} (hp : a.project = b.project)
    (hr : a.repo = b.repo) : (s.replace a).replace b = s.replace b := by
  simp only [Store.replace, alter_eq, get?_insert_self, Option.getD_some, hp, hr, insert_insert]

lemma overlays_upsert (s : Store) (g : Snapshot) : (s.upsert g).overlays = s.overlays := by
  unfold Store.upsert
  split <;> rfl

lemma upsert_of_ok {s : Store} {g S : Snapshot} (h : s.graph g.project g.repo = .ok S) :
    s.upsert g = s.replace (S.merge g) := by
  rw [Store.upsert, h]

lemma upsert_of_error {s : Store} {g : Snapshot} {e : Failure}
    (h : s.graph g.project g.repo = .error e) : s.upsert g = s.replace g := by
  rw [Store.upsert, h]

lemma graph_upsert_of_ne {s : Store} {g S : Snapshot} (h : s.graph g.project g.repo = .ok S)
    (hp : S.project = g.project) (hr : S.repo = g.repo) {p r : String}
    (hpr : (p, r) ≠ (g.project, g.repo)) : (s.upsert g).graph p r = s.graph p r := by
  rw [upsert_of_ok h, graph_replace, if_neg]
  rintro ⟨rfl, rfl⟩
  exact hpr (by rw [← hp, ← hr]; rfl)

lemma upsert_upsert (s : Store) (g : Snapshot)
    (h : (∃ S, s.graph g.project g.repo = .ok S) ∨
      (g.methods.map (·.ident)).Nodup ∧ (g.fields.map (·.ident)).Nodup) :
    (s.upsert g).upsert g = s.upsert g := by
  cases hs : s.graph g.project g.repo with
  | ok S =>
    rw [upsert_of_ok hs]
    -- under the key of `g` is now the merge, or still `S` when `S` names another key
    obtain ⟨T, hT, hTS⟩ : ∃ T, (s.replace (S.merge g)).graph g.project g.repo = .ok T ∧
        T.merge g = S.merge g := by
      rw [graph_replace]
      split_ifs
      · exact ⟨S.merge g, rfl, merge_merge S g⟩
      · exact ⟨S, hs, rfl⟩
    rw [upsert_of_ok hT, hTS, replace_replace _ rfl rfl]
  | error e =>
    have hnodup := h.resolve_left fun ⟨S, hS'⟩ => by rw [hs] at hS'; cases hS'
    have hg' : (s.replace g).graph g.project g.repo = .ok g := by
      rw [graph_replace, if_pos ⟨rfl, rfl⟩]
    rw [upsert_of_error hs, upsert_of_ok hg', merge_self g hnodup.1 hnodup.2,
      replace_replace _ rfl rfl]

end Store

/-- Upserting a snapshot `g` into a store that holds a snapshot `S` of its project and
repository, with no identity repeated, merges `g` into `S` as `Snapshot.Merged` says and keeps
every other snapshot and every overlay; the merge again repeats no identity, its dependencies
apart when `g` repeats one. Upserting `g` a second time changes nothing when a snapshot was
held, or when `g` repeats no method and no field. -/
theorem upsert_merges_snapshot (s : Store) (g : Snapshot) :
    (∀ S, s.graph g.project g.repo = .ok S → S.project = g.project → S.repo = g.repo →
        S.Distinct →
      (s.upsert g).overlays = s.overlays ∧
      (∀ p r, (p, r) ≠ (g.project, g.repo) → (s.upsert g).graph p r = s.graph p r) ∧
      ∃ S', (s.upsert g).graph g.project g.repo = .ok S' ∧ S.Merged g S' ∧
        S'.types.keys.Nodup ∧ (S'.methods.map (·.ident)).Nodup ∧ (S'.fields.map (·.ident)).Nodup ∧
        S'.extended.Nodup ∧ S'.implemented.Nodup ∧ S'.calls.Nodup ∧
        ((g.dependencies.map (·.ident)).Nodup → (S'.dependencies.map (·.ident)).Nodup)) ∧
    (((∃ S, s.graph g.project g.repo = .ok S) ∨
        (g.methods.map (·.ident)).Nodup ∧ (g.fields.map (·.ident)).Nodup) →
      (s.upsert g).upsert g = s.upsert g) := by
  refine ⟨fun S hs hp hr hS => ?_, Store.upsert_upsert s g⟩
  have hkey : (s.upsert g).graph g.project g.repo = .ok (S.merge g) := by
    rw [Store.upsert_of_ok hs, Store.graph_replace, if_pos ⟨hp.symm, hr.symm⟩]
  exact ⟨Store.overlays_upsert s g, fun p r hpr => Store.graph_upsert_of_ne hs hp hr hpr,
    S.merge g, hkey, merged_merge S g hS.methods hS.fields, distinct_merge S g hS⟩

theorem upsert_merges_snapshot_replacing_method :
    let held : Snapshot :=
      { project := "shop", repo := "left",
        methods := [{ owner := "A", name := "f", signature := "f()", returnType := "int" }] }
    let g : Snapshot :=
      { project := "shop", repo := "left",
        methods := [{ owner := "A", name := "f", signature := "f()", returnType := "long" },
          { owner := "A", name := "g", signature := "g()" },
          { owner := "A", name := "f", signature := "f()", returnType := "short" }] }
    let merged : Snapshot :=
      { project := "shop", repo := "left",
        methods := [{ owner := "A", name := "f", signature := "f()", returnType := "short" },
          { owner := "A", name := "g", signature := "g()" }] }
    let s := Store.replace {} held
    (s.graph g.project g.repo = .ok held ∧ held.project = g.project ∧ held.repo = g.repo ∧
        held.Distinct) ∧
      (s.upsert g).overlays = s.overlays ∧
      (s.upsert g).graph g.project g.repo = .ok merged ∧ held.Merged g merged ∧
      (merged.methods.map (·.ident)).Nodup ∧
      (s.upsert g).upsert g = s.upsert g := by
  intro held g merged s
  have hgraph : s.graph g.project g.repo = .ok held := rfl
  have hdistinct : held.Distinct :=
    ⟨by decide, List.nodup_nil, List.nodup_nil, List.nodup_nil, List.nodup_nil, List.nodup_nil⟩
  obtain ⟨hheld, hagain⟩ := upsert_merges_snapshot s g
  obtain ⟨hoverlays, -, S', hS', hmerged, -, hmethods, -⟩ := hheld held hgraph rfl rfl hdistinct
  -- the merge the store now holds, computed
  have hupsert : (s.upsert g).graph g.project g.repo = .ok merged := rfl
  obtain rfl : S' = merged := by
    rw [hupsert] at hS'
    cases hS'
    rfl
  exact ⟨⟨hgraph, rfl, rfl, hdistinct⟩, hoverlays, hupsert, hmerged, hmethods,
    hagain (.inl ⟨held, hgraph⟩)⟩

theorem upsert_twice_keeps_last_repeated_method :
    let g : Snapshot :=
      { project := "shop", repo := "left",
        methods := [{ owner := "A", name := "f", signature := "f()", returnType := "int" },
          { owner := "A", name := "f", signature := "f()", returnType := "long" }] }
    (Store.upsert {} g).upsert g ≠ Store.upsert {} g := by
  intro g h
  have := congrArg (fun t : Store => (t.graph "shop" "left").toOption.map (·.methods.map (·.returnType))) h
  revert this
  decide

end CodeGraph
