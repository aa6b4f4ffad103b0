import Mathlib
import CodeGraph.Proofs.Extraction

/-! The type index after any sequence of insertions: the list of names and the map of simple names
move in lock-step, each name kept once in the order of its first insertion. -/

namespace CodeGraph.TypeIndex

def ofInserts (calls : List (String × String)) : TypeIndex :=
  calls.foldl (fun ix c => ix.insert c.1 c.2) {}

def firstSimple (calls : List (String × String)) (fqn : String) : Option String :=
  (calls.find? (·.1 == fqn)).map (·.2)

def firstFound (calls : List (String × String)) (simple : String) : Option String :=
  (calls.map (·.1)).find? (firstSimple calls · == some simple)

section Calls

variable {calls : List (String × String)}

lemma mem_of_firstSimple {f s : String} (h : firstSimple calls f = some s) :
    f ∈ calls.map (·.1) := by
  obtain ⟨c, hc, -⟩ := Option.map_eq_some_iff.mp h
  have hf : c.1 = f := by simpa using List.find?_some hc
  exact hf ▸ List.mem_map_of_mem (List.mem_of_find?_eq_some hc)

lemma firstSimple_append (f s g : String) :
    firstSimple (calls ++ [(f, s)]) g = (firstSimple calls g).or (if f = g then some s else none) := by
  unfold firstSimple
  rw [List.find?_append]
  cases calls.find? (·.1 == g) <;> by_cases h : f = g <;> simp [h]

lemma firstSimple_append_of_mem {f s g : String} (hg : g ∈ calls.map (·.1)) :
    firstSimple (calls ++ [(f, s)]) g = firstSimple calls g := by
  have hsome : (firstSimple calls g).isSome := by
    obtain ⟨c, hc, rfl⟩ := List.mem_map.mp hg
    simp only [firstSimple, Option.isSome_map, List.find?_isSome]
    exact ⟨c, hc, by simp⟩
  rw [firstSimple_append]
  obtain ⟨x, hx⟩ := Option.isSome_iff_exists.mp hsome
  rw [hx, Option.some_or]

lemma firstSimple_append_of_not_mem {f s : String} (hf : f ∉ calls.map (·.1)) :
    firstSimple (calls ++ [(f, s)]) f = some s := by
  have hnone : firstSimple calls f = none := by
    cases h : firstSimple calls f with
    | none => rfl
    | some x => exact absurd (mem_of_firstSimple h) hf
  rw [firstSimple_append, hnone, if_pos rfl, Option.none_or]

end Calls

lemma insert_eq_of_mem {ix : TypeIndex} {f : String} (s : String) (hf : f ∈ ix.fqns) :
    ix.insert f s = ix := by
  unfold TypeIndex.insert
  rw [if_pos ((contains_iff ix f).mpr hf)]

lemma insert_eq_of_not_mem {ix : TypeIndex} {f : String} (s : String) (hf : f ∉ ix.fqns) :
    ix.insert f s = ⟨ix.fqns ++ [f], ix.bySimple.alter s [] (· ++ [f])⟩ := by
  unfold TypeIndex.insert
  rw [if_neg (fun hc => hf ((contains_iff ix f).mp hc))]

/-- What the index holds after the insertions `calls`: each inserted qualified name once, in the
order of its first insertion, and under each simple name the names whose first insertion
carried it, in that order. -/
structure Represents (ix : TypeIndex) (calls : List (String × String)) : Prop where
  mem_fqns : ∀ f, f ∈ ix.fqns ↔ f ∈ calls.map (·.1)
  nodup : ix.fqns.Nodup
  ordered : ix.fqns.Pairwise fun a b => (calls.map (·.1)).idxOf a < (calls.map (·.1)).idxOf b
  find?_fqns : ∀ p : String → Bool, ix.fqns.find? p = (calls.map (·.1)).find? p
  candidates_eq : ∀ s, ix.candidates s = ix.fqns.filter (firstSimple calls · == some s)

lemma represents_empty : Represents {} [] where
  mem_fqns _ := Iff.rfl
  nodup := List.nodup_nil
  ordered := List.Pairwise.nil
  find?_fqns _ := rfl
  candidates_eq _ := rfl

section Append

variable {ix : TypeIndex} {calls : List (String × String)}

lemma Represents.ordered_append (h : Represents ix calls) (f : String) :
    ix.fqns.Pairwise fun a b =>
      (calls.map (·.1) ++ [f]).idxOf a < (calls.map (·.1) ++ [f]).idxOf b :=
  h.ordered.imp_of_mem fun ha hb hab => by
    rwa [List.idxOf_append_of_mem ((h.mem_fqns _).mp ha),
      List.idxOf_append_of_mem ((h.mem_fqns _).mp hb)]

lemma Represents.filter_firstSimple_append (h : Represents ix calls) (f s t : String) :
    ix.fqns.filter (firstSimple (calls ++ [(f, s)]) · == some t) =
      ix.fqns.filter (firstSimple calls · == some t) :=
  List.filter_congr fun g hg => by rw [firstSimple_append_of_mem ((h.mem_fqns g).mp hg)]

end Append

lemma Represents.insert_of_mem {ix : TypeIndex} {calls : List (String × String)}
    (h : Represents ix calls) {f : String} (s : String) (hf : f ∈ ix.fqns) :
    Represents (ix.insert f s) (calls ++ [(f, s)]) := by
  have hfL : f ∈ calls.map (·.1) := (h.mem_fqns f).mp hf
  have hmap : (calls ++ [(f, s)]).map (·.1) = calls.map (·.1) ++ [f] := by simp
  rw [insert_eq_of_mem s hf]
  constructor
  case mem_fqns =>
    intro g
    rw [h.mem_fqns, hmap, List.mem_append, List.mem_singleton]
    constructor
    · exact Or.inl
    · rintro (hg | rfl)
      · exact hg
      · exact hfL
  case nodup => exact h.nodup
  case ordered =>
    rw [hmap]
    exact h.ordered_append f
  case find?_fqns =>
    intro p
    rw [h.find?_fqns, hmap, List.find?_append]
    -- a name found before cannot be the first to pass a test that all earlier names fail
    cases hp : (calls.map (·.1)).find? p with
    | some x => rfl
    | none =>
      have hpf : p f = false := by
        simpa using List.find?_eq_none.mp hp f hfL
      simp [hpf]
  case candidates_eq =>
    intro t
    rw [h.candidates_eq, h.filter_firstSimple_append]

lemma Represents.insert_of_not_mem {ix : TypeIndex} {calls : List (String × String)}
    (h : Represents ix calls) {f : String} (s : String) (hf : f ∉ ix.fqns) :
    Represents (ix.insert f s) (calls ++ [(f, s)]) := by
  have hfL : f ∉ calls.map (·.1) := fun hm => hf ((h.mem_fqns f).mpr hm)
  have hmap : (calls ++ [(f, s)]).map (·.1) = calls.map (·.1) ++ [f] := by simp
  -- the new name comes after every name found before
  have hidx : ((calls.map (·.1)) ++ [f]).idxOf f = (calls.map (·.1)).length := by
    rw [List.idxOf_append_of_notMem hfL]
    simp
  rw [insert_eq_of_not_mem s hf]
  constructor
  case mem_fqns =>
    intro g
    rw [hmap, List.mem_append, List.mem_append, h.mem_fqns]
  case nodup =>
    exact List.nodup_append.mpr ⟨h.nodup, List.nodup_singleton f,
      fun a ha b hb => by rw [List.mem_singleton.mp hb]; exact fun hab => hf (hab ▸ ha)⟩
  case ordered =>
    rw [hmap]
    refine List.pairwise_append.mpr ⟨h.ordered_append f, List.pairwise_singleton _ _, ?_⟩
    intro a ha b hb
    rw [List.mem_singleton.mp hb, hidx, List.idxOf_append_of_mem ((h.mem_fqns _).mp ha)]
    exact List.idxOf_lt_length_of_mem ((h.mem_fqns _).mp ha)
  case find?_fqns =>
    intro p
    rw [hmap, List.find?_append, List.find?_append, h.find?_fqns]
  case candidates_eq =>
    intro t
    simp only [candidates, KeyMap.get?_alter]
    rw [List.filter_append, h.filter_firstSimple_append, ← h.candidates_eq, List.filter_singleton,
      firstSimple_append_of_not_mem hfL]
    by_cases hts : t = s
    · subst hts
      simp [candidates]
    · have hst : (s == t) = false := beq_eq_false_iff_ne.mpr (Ne.symm hts)
      simp [hts, hst, candidates]

lemma Represents.insert {ix : TypeIndex} {calls : List (String × String)}
    (h : Represents ix calls) (f s : String) :
    Represents (ix.insert f s) (calls ++ [(f, s)]) := by
  by_cases hf : f ∈ ix.fqns
  · exact h.insert_of_mem s hf
  · exact h.insert_of_not_mem s hf

lemma represents_foldl {ix : TypeIndex} {pre : List (String × String)} (h : Represents ix pre)
    (rest : List (String × String)) :
    Represents (rest.foldl (fun ix c => ix.insert c.1 c.2) ix) (pre ++ rest) := by
  induction rest generalizing ix pre with
  | nil => simpa using h
  | cons c rest ih =>
    rw [List.foldl_cons, ← List.singleton_append, ← List.append_assoc]
    exact ih (h.insert c.1 c.2)

lemma represents_ofInserts (calls : List (String × String)) : Represents (ofInserts calls) calls := by
  have h := represents_foldl represents_empty calls
  rwa [List.nil_append] at h

lemma ofInserts_append_of_mem {calls : List (String × String)} {f : String} (s : String)
    (hf : f ∈ calls.map (·.1)) : ofInserts (calls ++ [(f, s)]) = ofInserts calls := by
  have hmem : f ∈ (ofInserts calls).fqns := ((represents_ofInserts calls).mem_fqns f).mpr hf
  have hstep : ofInserts (calls ++ [(f, s)]) = (ofInserts calls).insert f s := by
    unfold ofInserts
    rw [List.foldl_append]
    rfl
  rw [hstep, insert_eq_of_mem s hmem]

section Consequences

variable {ix : TypeIndex} {calls : List (String × String)} (h : Represents ix calls)
include h

lemma Represents.contains_iff (f : String) : ix.contains f = true ↔ f ∈ calls.map (·.1) := by
  rw [TypeIndex.contains_iff, h.mem_fqns]

lemma Represents.closed : ix.Closed := fun s c hc => by
  rw [h.candidates_eq] at hc
  exact (List.mem_filter.mp hc).1

lemma Represents.size_eq : ix.size = (calls.map (·.1)).dedup.length := by
  have hperm : ix.fqns.Perm (calls.map (·.1)).dedup :=
    (List.perm_ext_iff_of_nodup h.nodup (List.nodup_dedup _)).mpr fun f => by
      rw [List.mem_dedup, h.mem_fqns]
  exact hperm.length_eq

lemma Represents.mem_candidates (s f : String) :
    f ∈ ix.candidates s ↔ firstSimple calls f = some s := by
  rw [h.candidates_eq, List.mem_filter, h.mem_fqns, beq_iff_eq]
  exact ⟨And.right, fun hf => ⟨mem_of_firstSimple hf, hf⟩⟩

lemma Represents.firstCandidate (s : String) :
    ix.firstCandidate s = match firstFound calls s with
      | some f => .resolved f
      | none => .unresolved .external := by
  -- the first candidate is the first name of the list to pass the test, which is the first
  -- inserted name to pass it
  have hhead : (ix.candidates s).head? = firstFound calls s := by
    rw [h.candidates_eq, List.head?_filter, h.find?_fqns]
    rfl
  unfold TypeIndex.firstCandidate
  cases hc : ix.candidates s with
  | nil =>
    rw [hc, List.head?_nil] at hhead
    rw [← hhead]
  | cons f rest =>
    rw [hc, List.head?_cons] at hhead
    rw [← hhead]

lemma Represents.resolveImport (i : Outline.Import) :
    ix.resolveImport i =
      if i.isWildcard then .unresolved .wildcard
      else if i.path.isEmpty then .unresolved .empty
      else if i.path ∈ calls.map (·.1) then .resolved i.path
      else match firstFound calls (lastSegment i.path) with
        | some f => .resolved f
        | none => .unresolved .external := by
  unfold TypeIndex.resolveImport
  rw [h.firstCandidate]
  simp only [h.contains_iff]

lemma Represents.resolveFieldType (declared : String) :
    ix.resolveFieldType declared =
      match Java.simpleName declared with
      | some s =>
        match firstFound calls s with
        | some f => .resolved f
        | none => .unresolved .external
      | none => .unresolved .empty := by
  unfold TypeIndex.resolveFieldType
  cases Java.simpleName declared with
  | some s => exact h.firstCandidate s
  | none => rfl

end Consequences

/-- After any sequence of insertions, a name is in the index exactly when it was inserted, the
index counts the distinct names inserted, and a simple name lists without repetition, in the
order of their first insertion, exactly the names whose first insertion carried it; inserting a
name again, under any simple name, changes nothing. An import
that is no wildcard and names a path resolves to the path when it was inserted, and otherwise
to the first name inserted under its last segment, if any; a field type resolves to the first
name inserted under its simple name, if any. Every name resolved to was inserted. -/
theorem ofInserts_spec (calls : List (String × String)) :
    let ix : TypeIndex := ofInserts calls
    let inserted := calls.map (·.1)
    (∀ f, ix.contains f = true ↔ f ∈ inserted) ∧
    ix.size = inserted.dedup.length ∧
    (∀ s, (ix.candidates s).Nodup ∧ (∀ f, f ∈ ix.candidates s ↔ firstSimple calls f = some s) ∧
      (ix.candidates s).Pairwise fun a b => inserted.idxOf a < inserted.idxOf b) ∧
    (∀ f s, f ∈ inserted → ofInserts (calls ++ [(f, s)]) = ix) ∧
    (∀ i : Outline.Import, ix.resolveImport i =
      if i.isWildcard then .unresolved .wildcard
      else if i.path.isEmpty then .unresolved .empty
      else if i.path ∈ inserted then .resolved i.path
      else match firstFound calls (lastSegment i.path) with
        | some f => .resolved f
        | none => .unresolved .external) ∧
    (∀ declared, ix.resolveFieldType declared =
      match Java.simpleName declared with
      | some s =>
        match firstFound calls s with
        | some f => .resolved f
        | none => .unresolved .external
      | none => .unresolved .empty) ∧
    (∀ i f, ix.resolveImport i = .resolved f → ix.contains f = true) ∧
    (∀ declared f, ix.resolveFieldType declared = .resolved f → ix.contains f = true) := by
  intro ix inserted
  have h := represents_ofInserts calls
  refine ⟨h.contains_iff, h.size_eq, fun s => ⟨?_, h.mem_candidates s, ?_⟩,
    fun f s hf => ofInserts_append_of_mem s hf, h.resolveImport, h.resolveFieldType, fun i f hr => ?_, fun d f hr => ?_⟩
  · rw [h.candidates_eq]
    exact h.nodup.filter _
  · rw [h.candidates_eq]
    exact h.ordered.filter _
  · exact (TypeIndex.contains_iff ix f).mpr (h.closed.resolveImport hr)
  · exact (TypeIndex.contains_iff ix f).mpr (h.closed.resolveFieldType hr)

end CodeGraph.TypeIndex
