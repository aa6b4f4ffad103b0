import Mathlib
import CodeGraph.Assembly
import CodeGraph.Proofs.KeyMap

/-! Assembling a snapshot from the records of its files, in scan order: the first record of each key
is kept and every later one is counted as a duplicate. -/

namespace CodeGraph.Assembly

open KeyMap

section FirstWins

variable {α β σ : Type} [BEq β] [LawfulBEq β] (key : α → β)

lemma eraseDupsBy_append_singleton (l : List α) (x : α) :
    (l ++ [x]).eraseDupsBy (fun a b => key a == key b) =
      l.eraseDupsBy (fun a b => key a == key b) ++ if key x ∈ l.map key then [] else [x] := by
  induction h : l.length using Nat.strong_induction_on generalizing l with
  | _ n ih =>
    cases l with
    | nil => simp [List.eraseDupsBy_cons]
    | cons a as =>
      -- one pass of `eraseDupsBy` drops the later records of `a`'s key, `x` among them or not
      have hlen : (as.filter fun b => (key b == key a) = false).length < n := by
        have := List.length_filter_le (fun b => decide ((key b == key a) = false)) as
        simp only [List.length_cons] at h
        omega
      rw [List.cons_append, List.eraseDupsBy_cons, List.eraseDupsBy_cons, List.filter_append]
      by_cases hx : key x = key a
      · simp [hx]
      · have hmem : key x ∈ (as.filter fun b => (key b == key a) = false).map key ↔
            key x ∈ (a :: as).map key := by
          simp only [List.mem_map, List.mem_filter, List.map_cons, List.mem_cons]
          constructor
          · rintro ⟨b, ⟨hb, -⟩, hbx⟩
            exact Or.inr ⟨b, hb, hbx⟩
          · rintro (hax | ⟨b, hb, hbx⟩)
            · exact absurd hax hx
            · exact ⟨b, ⟨hb, by simp [hbx, hx]⟩, hbx⟩
        have hxa : (key x == key a) = false := by simpa using hx
        simp only [List.filter_cons, List.filter_nil, hxa, decide_true, if_true]
        rw [ih _ hlen _ rfl]
        by_cases hm : key x ∈ (a :: as).map key
        · rw [if_pos (hmem.mpr hm), if_pos hm]
          simp
        · rw [if_neg (mt hmem.mp hm), if_neg hm]
          simp

lemma eraseDupsBy_sublist (r : α → α → Bool) (l : List α) : (l.eraseDupsBy r).Sublist l := by
  induction h : l.length using Nat.strong_induction_on generalizing l with
  | _ n ih =>
    cases l with
    | nil => exact List.Sublist.slnil
    | cons a as =>
      have hlen : (as.filter fun b => r b a = false).length < n := by
        have := List.length_filter_le (fun b => decide (r b a = false)) as
        simp only [List.length_cons] at h
        omega
      rw [List.eraseDupsBy_cons]
      exact ((ih _ hlen _ rfl).trans List.filter_sublist).cons_cons a

variable (step : σ → α → σ) (keys : σ → List β) (items : σ → List α) (dups : σ → Nat)

lemma foldl_keepFirst
    (hstep : ∀ s x, keys (step s x) = (if key x ∈ keys s then keys s else key x :: keys s) ∧
      items (step s x) = (if key x ∈ keys s then items s else items s ++ [x]) ∧
      dups (step s x) = if key x ∈ keys s then dups s + 1 else dups s)
    (xs prior : List α) (s : σ)
    (hitems : items s = prior.eraseDupsBy (fun a b => key a == key b))
    (hkeys : ∀ k, k ∈ keys s ↔ k ∈ prior.map key) :
    items (xs.foldl step s) = (prior ++ xs).eraseDupsBy (fun a b => key a == key b) ∧
      (∀ k, k ∈ keys (xs.foldl step s) ↔ k ∈ (prior ++ xs).map key) ∧
      dups (xs.foldl step s) + (items (xs.foldl step s)).length =
        dups s + (items s).length + xs.length := by
  induction xs generalizing prior s with
  | nil => exact ⟨by simpa using hitems, by simpa using hkeys, by simp⟩
  | cons x xs ih =>
    obtain ⟨hk, hi, hd⟩ := hstep s x
    have hx := hkeys (key x)
    -- after one step the state agrees with the records so far and `x`
    have hitems' : items (step s x) = (prior ++ [x]).eraseDupsBy (fun a b => key a == key b) := by
      rw [hi, eraseDupsBy_append_singleton, ← hitems]
      by_cases hm : key x ∈ keys s
      · simp [hm, hx.mp hm]
      · simp [hm, mt hx.mpr hm]
    have hkeys' : ∀ k, k ∈ keys (step s x) ↔ k ∈ (prior ++ [x]).map key := by
      intro k
      rw [hk]
      by_cases hm : key x ∈ keys s
      · simp only [hm, if_true, hkeys, List.map_append, List.mem_append]
        simp only [List.map_cons, List.map_nil, List.mem_singleton]
        constructor
        · exact Or.inl
        · rintro (h | rfl)
          · exact h
          · exact hx.mp hm
      · simp [hm, hkeys, or_comm]
    obtain ⟨h1, h2, h3⟩ := ih (prior ++ [x]) (step s x) hitems' hkeys'
    refine ⟨by simpa using h1, by simpa using h2, ?_⟩
    rw [List.foldl_cons, h3, hi, hd]
    by_cases hm : key x ∈ keys s <;> simp [hm] <;> omega

lemma foldl_keepOnce (ok : σ → α → Bool) (hok : ∀ s x y, ok (step s x) y = ok s y)
    (hstep : ∀ s x, keys (step s x) =
        (if ok s x = true ∧ key x ∉ keys s then key x :: keys s else keys s) ∧
      items (step s x) = if ok s x = true ∧ key x ∉ keys s then items s ++ [x] else items s)
    (xs : List α) (s : σ) (hkeys : ∀ k, k ∈ keys s ↔ k ∈ (items s).map key)
    (hnodup : ((items s).map key).Nodup) :
    (∀ k, k ∈ keys (xs.foldl step s) ↔ k ∈ (items (xs.foldl step s)).map key) ∧
      ((items (xs.foldl step s)).map key).Nodup ∧
      ∃ kept, items (xs.foldl step s) = items s ++ kept ∧ ∀ x ∈ kept, x ∈ xs ∧ ok s x = true := by
  induction xs generalizing s with
  | nil => exact ⟨hkeys, hnodup, [], by simp, by simp⟩
  | cons x xs ih =>
    obtain ⟨hk, hi⟩ := hstep s x
    have hkeys' : ∀ k, k ∈ keys (step s x) ↔ k ∈ (items (step s x)).map key := by
      intro k
      rw [hk, hi]
      split_ifs <;> simp [hkeys, or_comm]
    have hnodup' : ((items (step s x)).map key).Nodup := by
      rw [hi]
      split_ifs with hc
      · have hx : key x ∉ (items s).map key := fun h => hc.2 ((hkeys _).mpr h)
        rw [List.map_append, List.map_singleton, List.nodup_append_comm]
        exact List.nodup_cons.mpr ⟨hx, hnodup⟩
      · exact hnodup
    obtain ⟨h1, h2, kept, hkept, hmem⟩ := ih (step s x) hkeys' hnodup'
    refine ⟨h1, h2, (if ok s x = true ∧ key x ∉ keys s then [x] else []) ++ kept, ?_, ?_⟩
    · rw [List.foldl_cons, hkept, hi]
      split_ifs <;> simp
    · intro y hy
      rcases List.mem_append.mp hy with hy | hy
      · split_ifs at hy with hc
        · obtain rfl := List.mem_singleton.mp hy
          exact ⟨List.mem_cons_self, hc.1⟩
        · simp at hy
      · obtain ⟨hyx, hyo⟩ := hmem y hy
        exact ⟨List.mem_cons_of_mem x hyx, (hok s x y).symm.trans hyo⟩

end FirstWins

section Stages

variable {α : Type}

lemma foldl_eq_update (g : Assembly → α → Assembly) (upd : Assembly → Assembly → Assembly)
    (hg : ∀ s x, g s x = upd s (g s x)) (hself : ∀ s, upd s s = s)
    (hlast : ∀ s t u, upd (upd s t) u = upd s u) (xs : List α) (s : Assembly) :
    xs.foldl g s = upd s (xs.foldl g s) := by
  induction xs generalizing s with
  | nil => exact (hself s).symm
  | cons x xs ih =>
    calc (x :: xs).foldl g s = upd (g s x) (xs.foldl g (g s x)) := ih (g s x)
      _ = upd (upd s (g s x)) (xs.foldl g (g s x)) := by rw [← hg s x]
      _ = upd s ((x :: xs).foldl g s) := hlast _ _ _

lemma addType_step (a : Assembly) (t : TypeRecord) :
    (a.addType t).graph.types = a.graph.types.insertNew t.fqn t ∧
      (a.addType t).graph.stats.duplicateCount + (a.addType t).graph.types.size =
        a.graph.stats.duplicateCount + a.graph.types.size + 1 := by
  unfold addType duplicate KeyMap.insertNew
  split_ifs with h
  · refine ⟨rfl, ?_⟩
    dsimp only
    omega
  · refine ⟨rfl, ?_⟩
    have hk : t.fqn ∉ a.graph.types.keys := fun hm => h ((contains_iff _ _).mpr hm)
    simp only [size_insert_of_not_mem t hk]
    omega

lemma foldl_addType_spec (ts : List TypeRecord) (a : Assembly) :
    ∃ types dups, ts.foldl addType a =
        { a with graph := { a.graph with types, stats := { a.graph.stats with
          duplicateCount := dups } } } ∧
      types = ts.foldl (fun m t => m.insertNew t.fqn t) a.graph.types ∧
      dups + types.size = a.graph.stats.duplicateCount + a.graph.types.size + ts.length := by
  refine ⟨_, _, foldl_eq_update addType (fun s r => { s with graph := { s.graph with
      types := r.graph.types, stats := { s.graph.stats with
        duplicateCount := r.graph.stats.duplicateCount } } })
      (fun s t => by unfold addType duplicate; split <;> rfl) (fun _ => rfl) (fun _ _ _ => rfl) ts a,
    ?_, ?_⟩
  · induction ts generalizing a with
    | nil => rfl
    | cons t ts ih => simpa only [List.foldl_cons, (addType_step a t).1] using ih (a.addType t)
  · induction ts generalizing a with
    | nil => simp
    | cons t ts ih =>
      have := ih (a.addType t)
      have := (addType_step a t).2
      simp only [List.foldl_cons, List.length_cons]
      omega

lemma addMethod_step (a : Assembly) (m : MethodRecord) :
    (a.addMethod m).methodKeys =
        (if m.ident ∈ a.methodKeys then a.methodKeys else m.ident :: a.methodKeys) ∧
      (a.addMethod m).graph.methods =
        (if m.ident ∈ a.methodKeys then a.graph.methods else a.graph.methods ++ [m]) ∧
      (a.addMethod m).graph.stats.duplicateCount = if m.ident ∈ a.methodKeys
        then a.graph.stats.duplicateCount + 1 else a.graph.stats.duplicateCount := by
  unfold addMethod duplicate
  by_cases h : m.ident ∈ a.methodKeys <;> simp [h]

lemma addField_step (a : Assembly) (f : FieldRecord) :
    (a.addField f).fieldKeys =
        (if f.ident ∈ a.fieldKeys then a.fieldKeys else f.ident :: a.fieldKeys) ∧
      (a.addField f).graph.fields =
        (if f.ident ∈ a.fieldKeys then a.graph.fields else a.graph.fields ++ [f]) ∧
      (a.addField f).graph.stats.duplicateCount = if f.ident ∈ a.fieldKeys
        then a.graph.stats.duplicateCount + 1 else a.graph.stats.duplicateCount := by
  unfold addField duplicate
  by_cases h : f.ident ∈ a.fieldKeys <;> simp [h]

lemma foldl_addMethod_spec (ms prior : List MethodRecord) (a : Assembly)
    (hitems : a.graph.methods = prior.eraseDupsBy (·.ident == ·.ident))
    (hkeys : ∀ k, k ∈ a.methodKeys ↔ k ∈ prior.map (·.ident)) :
    ∃ keys methods dups, ms.foldl addMethod a =
        { a with methodKeys := keys, graph := { a.graph with methods, stats :=
          { a.graph.stats with duplicateCount := dups } } } ∧
      methods = (prior ++ ms).eraseDupsBy (·.ident == ·.ident) ∧
      (∀ k, k ∈ keys ↔ k ∈ (prior ++ ms).map (·.ident)) ∧
      dups + methods.length = a.graph.stats.duplicateCount + a.graph.methods.length + ms.length :=
  ⟨_, _, _, foldl_eq_update addMethod (fun s r => { s with
      methodKeys := r.methodKeys
      graph := { s.graph with
        methods := r.graph.methods
        stats := { s.graph.stats with duplicateCount := r.graph.stats.duplicateCount } } })
      (fun s m => by unfold addMethod duplicate; dsimp only; split <;> rfl) (fun _ => rfl) (fun _ _ _ => rfl) ms a,
    foldl_keepFirst MethodRecord.ident addMethod (·.methodKeys) (·.graph.methods)
      (·.graph.stats.duplicateCount) addMethod_step ms prior a hitems hkeys⟩

lemma foldl_addField_spec (fs prior : List FieldRecord) (a : Assembly)
    (hitems : a.graph.fields = prior.eraseDupsBy (·.ident == ·.ident))
    (hkeys : ∀ k, k ∈ a.fieldKeys ↔ k ∈ prior.map (·.ident)) :
    ∃ keys fields dups, fs.foldl addField a =
        { a with fieldKeys := keys, graph := { a.graph with fields, stats :=
          { a.graph.stats with duplicateCount := dups } } } ∧
      fields = (prior ++ fs).eraseDupsBy (·.ident == ·.ident) ∧
      (∀ k, k ∈ keys ↔ k ∈ (prior ++ fs).map (·.ident)) ∧
      dups + fields.length = a.graph.stats.duplicateCount + a.graph.fields.length + fs.length :=
  ⟨_, _, _, foldl_eq_update addField (fun s r => { s with
      fieldKeys := r.fieldKeys
      graph := { s.graph with
        fields := r.graph.fields
        stats := { s.graph.stats with duplicateCount := r.graph.stats.duplicateCount } } })
      (fun s f => by unfold addField duplicate; dsimp only; split <;> rfl) (fun _ => rfl) (fun _ _ _ => rfl) fs a,
    foldl_keepFirst FieldRecord.ident addField (·.fieldKeys) (·.graph.fields)
      (·.graph.stats.duplicateCount) addField_step fs prior a hitems hkeys⟩

lemma declaredIn_addDependency (a : Assembly) (d : Dependency) (fqn path : String) :
    (a.addDependency d).declaredIn fqn path = a.declaredIn fqn path := by
  have : (a.addDependency d).graph.types = a.graph.types := by
    unfold addDependency
    dsimp only
    split <;> rfl
  simp only [declaredIn, this]

lemma declaredIn_addExtended (path : String) (a : Assembly) (p : String × String) (fqn file : String) :
    (addExtended path a p).declaredIn fqn file = a.declaredIn fqn file := by
  have : (addExtended path a p).graph.types = a.graph.types := by
    unfold addExtended
    split <;> rfl
  simp only [declaredIn, this]

lemma declaredIn_addImplemented (path : String) (a : Assembly) (p : String × String)
    (fqn file : String) :
    (addImplemented path a p).declaredIn fqn file = a.declaredIn fqn file := by
  have : (addImplemented path a p).graph.types = a.graph.types := by
    unfold addImplemented
    split <;> rfl
  simp only [declaredIn, this]

lemma addDependency_step (a : Assembly) (d : Dependency) :
    (a.addDependency d).edgeKeys =
        (if a.declaredIn d.source d.file = true ∧ d.ident ∉ a.edgeKeys
          then d.ident :: a.edgeKeys else a.edgeKeys) ∧
      (a.addDependency d).graph.dependencies =
        if a.declaredIn d.source d.file = true ∧ d.ident ∉ a.edgeKeys
          then a.graph.dependencies ++ [d] else a.graph.dependencies := by
  unfold addDependency
  by_cases h1 : a.declaredIn d.source d.file = true <;>
    by_cases h2 : d.ident ∈ a.edgeKeys <;> simp [h1, h2]

lemma addExtended_step (path : String) (a : Assembly) (p : String × String) :
    (addExtended path a p).extendedKeys =
        (if a.declaredIn p.1 path = true ∧ p ∉ a.extendedKeys
          then p :: a.extendedKeys else a.extendedKeys) ∧
      (addExtended path a p).graph.extended =
        if a.declaredIn p.1 path = true ∧ p ∉ a.extendedKeys
          then a.graph.extended ++ [p] else a.graph.extended := by
  unfold addExtended
  by_cases h1 : a.declaredIn p.1 path = true <;>
    by_cases h2 : p ∈ a.extendedKeys <;> simp [h1, h2]

lemma addImplemented_step (path : String) (a : Assembly) (p : String × String) :
    (addImplemented path a p).implementedKeys =
        (if a.declaredIn p.1 path = true ∧ p ∉ a.implementedKeys
          then p :: a.implementedKeys else a.implementedKeys) ∧
      (addImplemented path a p).graph.implemented =
        if a.declaredIn p.1 path = true ∧ p ∉ a.implementedKeys
          then a.graph.implemented ++ [p] else a.graph.implemented := by
  unfold addImplemented
  by_cases h1 : a.declaredIn p.1 path = true <;>
    by_cases h2 : p ∈ a.implementedKeys <;> simp [h1, h2]

lemma foldl_addDependency_spec (ds : List Dependency) (a : Assembly)
    (hkeys : ∀ k, k ∈ a.edgeKeys ↔ k ∈ a.graph.dependencies.map (·.ident))
    (hnodup : (a.graph.dependencies.map (·.ident)).Nodup) :
    ∃ keys deps, ds.foldl addDependency a =
        { a with edgeKeys := keys, graph := { a.graph with dependencies := deps } } ∧
      (∀ k, k ∈ keys ↔ k ∈ deps.map (·.ident)) ∧ (deps.map (·.ident)).Nodup ∧
      ∃ kept, deps = a.graph.dependencies ++ kept ∧
        ∀ d ∈ kept, d ∈ ds ∧ a.declaredIn d.source d.file = true :=
  ⟨_, _, foldl_eq_update addDependency (fun s r => { s with
      edgeKeys := r.edgeKeys
      graph := { s.graph with dependencies := r.graph.dependencies } })
      (fun s d => by unfold addDependency; dsimp only; split <;> rfl) (fun _ => rfl)
      (fun _ _ _ => rfl) ds a,
    foldl_keepOnce Dependency.ident addDependency (·.edgeKeys) (·.graph.dependencies)
      (fun s d => s.declaredIn d.source d.file) (fun s x y => declaredIn_addDependency s x _ _)
      addDependency_step ds a hkeys hnodup⟩

lemma foldl_addExtended_spec (path : String) (ps : List (String × String)) (a : Assembly)
    (hkeys : ∀ p, p ∈ a.extendedKeys ↔ p ∈ a.graph.extended) (hnodup : a.graph.extended.Nodup) :
    ∃ keys pairs, ps.foldl (addExtended path) a =
        { a with extendedKeys := keys, graph := { a.graph with extended := pairs } } ∧
      (∀ p, p ∈ keys ↔ p ∈ pairs) ∧ pairs.Nodup ∧
      ∃ kept, pairs = a.graph.extended ++ kept ∧ ∀ p ∈ kept, p ∈ ps ∧ a.declaredIn p.1 path = true := by
  obtain ⟨h1, h2, h3⟩ := foldl_keepOnce (fun p => p) (addExtended path) (·.extendedKeys)
    (·.graph.extended) (fun s p => s.declaredIn p.1 path)
    (fun s x y => declaredIn_addExtended path s x _ _) (addExtended_step path) ps a
    (by simpa using hkeys) (by simpa using hnodup)
  exact ⟨_, _, foldl_eq_update (addExtended path) (fun s r => { s with
      extendedKeys := r.extendedKeys
      graph := { s.graph with extended := r.graph.extended } })
      (fun s p => by unfold addExtended; split <;> rfl) (fun _ => rfl) (fun _ _ _ => rfl) ps a,
    by simpa using h1, by simpa using h2, h3⟩

lemma foldl_addImplemented_spec (path : String) (ps : List (String × String)) (a : Assembly)
    (hkeys : ∀ p, p ∈ a.implementedKeys ↔ p ∈ a.graph.implemented)
    (hnodup : a.graph.implemented.Nodup) :
    ∃ keys pairs, ps.foldl (addImplemented path) a =
        { a with implementedKeys := keys, graph := { a.graph with implemented := pairs } } ∧
      (∀ p, p ∈ keys ↔ p ∈ pairs) ∧ pairs.Nodup ∧
      ∃ kept, pairs = a.graph.implemented ++ kept ∧ ∀ p ∈ kept, p ∈ ps ∧ a.declaredIn p.1 path = true := by
  obtain ⟨h1, h2, h3⟩ := foldl_keepOnce (fun p => p) (addImplemented path) (·.implementedKeys)
    (·.graph.implemented) (fun s p => s.declaredIn p.1 path)
    (fun s x y => declaredIn_addImplemented path s x _ _) (addImplemented_step path) ps a
    (by simpa using hkeys) (by simpa using hnodup)
  exact ⟨_, _, foldl_eq_update (addImplemented path) (fun s r => { s with
      implementedKeys := r.implementedKeys
      graph := { s.graph with implemented := r.graph.implemented } })
      (fun s p => by unfold addImplemented; split <;> rfl) (fun _ => rfl) (fun _ _ _ => rfl) ps a,
    by simpa using h1, by simpa using h2, h3⟩

end Stages

/-- What an assembly holds once the records of `files` were added, in order, to a fresh one. -/
structure Tracks (files : List FileRecords) (a : Assembly) : Prop where
  types_first : ∀ fqn, a.graph.types.get? fqn = (files.flatMap (·.types)).find? (·.fqn == fqn)
  methods_first : a.graph.methods = (files.flatMap (·.methods)).eraseDupsBy (·.ident == ·.ident)
  method_keys : ∀ k, k ∈ a.methodKeys ↔ k ∈ (files.flatMap (·.methods)).map (·.ident)
  fields_first : a.graph.fields = (files.flatMap (·.fields)).eraseDupsBy (·.ident == ·.ident)
  field_keys : ∀ k, k ∈ a.fieldKeys ↔ k ∈ (files.flatMap (·.fields)).map (·.ident)
  counted : a.graph.stats.duplicateCount +
      (a.graph.types.size + a.graph.methods.length + a.graph.fields.length) =
    (files.map fun f => f.types.length + f.methods.length + f.fields.length).sum
  edge_keys : ∀ k, k ∈ a.edgeKeys ↔ k ∈ a.graph.dependencies.map (·.ident)
  edges_nodup : (a.graph.dependencies.map (·.ident)).Nodup
  extended_keys : ∀ p, p ∈ a.extendedKeys ↔ p ∈ a.graph.extended
  extended_nodup : a.graph.extended.Nodup
  implemented_keys : ∀ p, p ∈ a.implementedKeys ↔ p ∈ a.graph.implemented
  implemented_nodup : a.graph.implemented.Nodup
  deps_from : ∀ d ∈ a.graph.dependencies, ∃ f ∈ files, d ∈ f.dependencies ∧
    (d.source ∈ f.types.map (·.fqn) → ∃ t, a.graph.types.get? d.source = some t ∧ t.file = d.file)
  extended_from : ∀ p ∈ a.graph.extended, ∃ f ∈ files, p ∈ f.extended ∧
    (p.1 ∈ f.types.map (·.fqn) → ∃ t, a.graph.types.get? p.1 = some t ∧ t.file = f.path)
  implemented_from : ∀ p ∈ a.graph.implemented, ∃ f ∈ files, p ∈ f.implemented ∧
    (p.1 ∈ f.types.map (·.fqn) → ∃ t, a.graph.types.get? p.1 = some t ∧ t.file = f.path)
  file_count : a.graph.stats.fileCount = files.length
  error_count : a.graph.stats.parseErrorCount = files.countP (·.degraded)
  backend_count : a.graph.stats.backendFiles.values.sum = files.countP (·.reader.isSome)
  resolution : a.graph.stats.resolution =
    ⟨(files.map (·.resolution.importsResolved)).sum, (files.map (·.resolution.importsUnresolved)).sum,
     (files.map (·.resolution.fieldTypesResolved)).sum,
     (files.map (·.resolution.fieldTypesUnresolved)).sum⟩

lemma tracks_start (project repo : String) (reader : Reader) :
    (start project repo reader).Tracks [] where
  types_first _ := rfl
  methods_first := rfl
  method_keys _ := by simp [start]
  fields_first := rfl
  field_keys _ := by simp [start]
  counted := rfl
  edge_keys _ := by simp [start]
  edges_nodup := List.nodup_nil
  extended_keys _ := by simp [start]
  extended_nodup := List.nodup_nil
  implemented_keys _ := by simp [start]
  implemented_nodup := List.nodup_nil
  deps_from _ h := absurd h List.not_mem_nil
  extended_from _ h := absurd h List.not_mem_nil
  implemented_from _ h := absurd h List.not_mem_nil
  file_count := rfl
  error_count := rfl
  backend_count := rfl
  resolution := rfl

lemma Tracks.add {files : List FileRecords} {a : Assembly} (h : a.Tracks files)
    (f : FileRecords) : (a.add f).Tracks (files ++ [f]) := by
  -- the seven stages of `add`, each stated as a record update of the one before
  unfold Assembly.add
  set a1 := a.countFile f with ha1
  obtain ⟨types, d2, e2, htypes, hd2⟩ := foldl_addType_spec f.types a1
  set a2 := f.types.foldl addType a1
  obtain ⟨mkeys, methods, d3, e3, hmethods, hmkeys, hd3⟩ :=
    foldl_addMethod_spec f.methods (files.flatMap (·.methods)) a2
      (by rw [e2]; exact h.methods_first) (by rw [e2]; exact h.method_keys)
  set a3 := f.methods.foldl addMethod a2
  obtain ⟨fkeys, fields, d4, e4, hfields, hfkeys, hd4⟩ :=
    foldl_addField_spec f.fields (files.flatMap (·.fields)) a3
      (by rw [e3, e2]; exact h.fields_first) (by rw [e3, e2]; exact h.field_keys)
  set a4 := f.fields.foldl addField a3
  obtain ⟨ekeys, deps, e5, hekeys, hdeps, keptD, hdeps', hkeptD⟩ :=
    foldl_addDependency_spec f.dependencies a4
      (by rw [e4, e3, e2]; exact h.edge_keys) (by rw [e4, e3, e2]; exact h.edges_nodup)
  set a5 := f.dependencies.foldl addDependency a4
  obtain ⟨xkeys, ext, e6, hxkeys, hext, keptX, hext', hkeptX⟩ :=
    foldl_addExtended_spec f.path f.extended a5
      (by rw [e5, e4, e3, e2]; exact h.extended_keys)
      (by rw [e5, e4, e3, e2]; exact h.extended_nodup)
  set a6 := f.extended.foldl (addExtended f.path) a5
  obtain ⟨ikeys, impl, e7, hikeys, himpl, keptI, himpl', hkeptI⟩ :=
    foldl_addImplemented_spec f.path f.implemented a6
      (by rw [e6, e5, e4, e3, e2]; exact h.implemented_keys)
      (by rw [e6, e5, e4, e3, e2]; exact h.implemented_nodup)
  -- the types a type already had keep it, and every type of `f` now has a record
  have hgrow : ∀ k t, a.graph.types.get? k = some t → types.get? k = some t := by
    intro k t ht
    rw [htypes, get?_foldl_insertNew, show a1.graph.types = a.graph.types from rfl, ht]
    rfl
  have hown : ∀ k ∈ f.types.map (·.fqn), ∃ t, types.get? k = some t := by
    intro k hk
    rw [htypes, get?_foldl_insertNew]
    obtain ⟨r, hr, rfl⟩ := List.mem_map.mp hk
    obtain ⟨t, ht⟩ := Option.isSome_iff_exists.mp
      (List.find?_isSome.mpr ⟨r, hr, by simp⟩ : (f.types.find? (·.fqn == r.fqn)).isSome)
    cases a1.graph.types.get? r.fqn with
    | none => exact ⟨t, by simp [ht]⟩
    | some t' => exact ⟨t', rfl⟩
  -- an edge kept against the types of the file's stage is anchored at its source's file
  have hanchor : ∀ (b : Assembly), b.graph.types = types → ∀ k path,
      b.declaredIn k path = true → k ∈ f.types.map (·.fqn) →
      ∃ t, types.get? k = some t ∧ t.file = path := by
    intro b hb k path hdecl hk
    obtain ⟨t, ht⟩ := hown k hk
    unfold declaredIn at hdecl
    rw [hb, ht] at hdecl
    exact ⟨t, ht, by simpa using hdecl⟩
  have ht4 : a4.graph.types = types := by rw [e4, e3, e2]
  have ht5 : a5.graph.types = types := by rw [e5, e4, e3, e2]
  have ht6 : a6.graph.types = types := by rw [e6, e5, e4, e3, e2]
  have hdeps4 : a4.graph.dependencies = a.graph.dependencies := by rw [e4, e3, e2]; rfl
  have hext5 : a5.graph.extended = a.graph.extended := by rw [e5, e4, e3, e2]; rfl
  have himpl6 : a6.graph.implemented = a.graph.implemented := by rw [e6, e5, e4, e3, e2]; rfl
  rw [e7, e6, e5, e4, e3, e2, ha1]
  constructor
  case types_first =>
    intro fqn
    rw [htypes, get?_foldl_insertNew, List.flatMap_append, List.flatMap_singleton,
      List.find?_append]
    rw [show a1.graph.types = a.graph.types from rfl, h.types_first fqn]
  case methods_first => simpa using hmethods
  case method_keys => simpa using hmkeys
  case fields_first => simpa using hfields
  case field_keys => simpa using hfkeys
  case counted =>
    rw [e2] at hd3
    rw [e3, e2] at hd4
    simp only [ha1, countFile] at hd2 hd3 hd4
    have := h.counted
    simp only [List.map_append, List.map_singleton, List.sum_append, List.sum_singleton]
    omega
  case edge_keys => exact hekeys
  case edges_nodup => exact hdeps
  case extended_keys => exact hxkeys
  case extended_nodup => exact hext
  case implemented_keys => exact hikeys
  case implemented_nodup => exact himpl
  case deps_from =>
    intro d hd
    rw [hdeps', hdeps4] at hd
    rcases List.mem_append.mp hd with hd | hd
    · obtain ⟨g, hg, hdg, hanch⟩ := h.deps_from d hd
      refine ⟨g, List.mem_append_left _ hg, hdg, fun hk => ?_⟩
      obtain ⟨t, ht, hfile⟩ := hanch hk
      exact ⟨t, hgrow _ _ ht, hfile⟩
    · obtain ⟨hdf, hdecl⟩ := hkeptD d hd
      exact ⟨f, by simp, hdf, hanchor a4 ht4 _ _ hdecl⟩
  case extended_from =>
    intro p hp
    rw [hext', hext5] at hp
    rcases List.mem_append.mp hp with hp | hp
    · obtain ⟨g, hg, hpg, hanch⟩ := h.extended_from p hp
      refine ⟨g, List.mem_append_left _ hg, hpg, fun hk => ?_⟩
      obtain ⟨t, ht, hfile⟩ := hanch hk
      exact ⟨t, hgrow _ _ ht, hfile⟩
    · obtain ⟨hpf, hdecl⟩ := hkeptX p hp
      exact ⟨f, by simp, hpf, hanchor a5 ht5 _ _ hdecl⟩
  case implemented_from =>
    intro p hp
    rw [himpl', himpl6] at hp
    rcases List.mem_append.mp hp with hp | hp
    · obtain ⟨g, hg, hpg, hanch⟩ := h.implemented_from p hp
      refine ⟨g, List.mem_append_left _ hg, hpg, fun hk => ?_⟩
      obtain ⟨t, ht, hfile⟩ := hanch hk
      exact ⟨t, hgrow _ _ ht, hfile⟩
    · obtain ⟨hpf, hdecl⟩ := hkeptI p hp
      exact ⟨f, by simp, hpf, hanchor a6 ht6 _ _ hdecl⟩
  case file_count => simp [countFile, h.file_count]
  case error_count => cases hd : f.degraded <;> simp [countFile, h.error_count, hd]
  case backend_count =>
    dsimp only [countFile]
    cases hr : f.reader with
    | none => simp [hr, h.backend_count]
    | some r => simp [hr, sum_values_alter_succ, h.backend_count]
  case resolution => simp [countFile, h.resolution, ResolutionCounts.add]

lemma tracks_foldl (prior files : List FileRecords) {a : Assembly} (h : a.Tracks prior) :
    (files.foldl Assembly.add a).Tracks (prior ++ files) := by
  induction files generalizing prior a with
  | nil => simpa using h
  | cons f files ih => simpa using ih (prior ++ [f]) (h.add f)

/-- Adding files to a fresh assembly keeps the first record of each type name, method key and
field key in input order, counts every other record as a duplicate, keeps no dependency or
supertype pair twice, and counts the files, the salvaged ones, the ones per reader and their
resolution counts. -/
theorem assembly_first_wins (project repo : String) (reader : Reader) (files : List FileRecords) :
    let g := (files.foldl Assembly.add (start project repo reader)).graph
    (∀ fqn, g.types.get? fqn = (files.flatMap (·.types)).find? (·.fqn == fqn)) ∧
    g.methods = (files.flatMap (·.methods)).eraseDupsBy (·.ident == ·.ident) ∧
    g.fields = (files.flatMap (·.fields)).eraseDupsBy (·.ident == ·.ident) ∧
    g.stats.duplicateCount =
      (files.map fun f => f.types.length + f.methods.length + f.fields.length).sum -
        (g.types.size + g.methods.length + g.fields.length) ∧
    (g.dependencies.map (·.ident)).Nodup ∧ g.extended.Nodup ∧ g.implemented.Nodup ∧
    g.stats.fileCount = files.length ∧
    g.stats.parseErrorCount = files.countP (·.degraded) ∧
    g.stats.backendFiles.values.sum = files.countP (·.reader.isSome) ∧
    g.stats.resolution =
      ⟨(files.map (·.resolution.importsResolved)).sum,
       (files.map (·.resolution.importsUnresolved)).sum,
       (files.map (·.resolution.fieldTypesResolved)).sum,
       (files.map (·.resolution.fieldTypesUnresolved)).sum⟩ := by
  have h := tracks_foldl [] files (tracks_start project repo reader)
  rw [List.nil_append] at h
  have hd := h.counted
  exact ⟨h.types_first, h.methods_first, h.fields_first, by omega, h.edges_nodup,
    h.extended_nodup, h.implemented_nodup, h.file_count, h.error_count, h.backend_count,
    h.resolution⟩

end CodeGraph.Assembly
