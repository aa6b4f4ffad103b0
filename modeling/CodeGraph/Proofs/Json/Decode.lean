import Mathlib
import CodeGraph.Json.Decode
import CodeGraph.Proofs.KeyMap

/-! Decoding values given without text: a bare value carries no places, so each reader reads it the
way its type says. -/

namespace CodeGraph.Json

namespace Node

lemma ofValues_eq_map (vs : List Value) : ofValues vs = vs.map ofValue := by
  induction vs with
  | nil => rfl
  | cons v vs ih => rw [ofValues, ih, List.map_cons]

lemma ofFields_eq_map (fs : List (String × Value)) :
    ofFields fs = fs.map fun kv => (.ok kv.1, 0, ofValue kv.2) := by
  induction fs with
  | nil => rfl
  | cons kv fs ih => rw [ofFields, ih, List.map_cons]

mutual

theorem content_ofValue : ∀ v : Value, (ofValue v).content = .ok v
  | .null => rfl
  | .bool _ => rfl
  | .num _ => rfl
  | .str _ => rfl
  | .arr xs => by rw [ofValue, content, contentItems_ofValues xs]; rfl
  | .obj fs => by rw [ofValue, content, contentEntries_ofFields fs]; rfl

theorem contentItems_ofValues : ∀ vs : List Value, contentItems (ofValues vs) = .ok vs
  | [] => rfl
  | v :: vs => by rw [ofValues, contentItems, content_ofValue v, contentItems_ofValues vs]; rfl

theorem contentEntries_ofFields : ∀ fs : List (String × Value), contentEntries (ofFields fs) = .ok fs
  | [] => rfl
  | (k, v) :: fs => by rw [ofFields, contentEntries, content_ofValue v, contentEntries_ofFields fs]; rfl

end

end Node

@[simp] lemma Source.fix_bare (i : ℕ) : Source.bare.fix i = id := by
  funext e
  unfold Source.fix
  split
  · rfl
  · next h => cases e; simp_all [Source.placeAt, Source.bare]

namespace Decoder

variable {α β : Type}

lemma natBelow_unsigned {bound n : ℕ} (h : n ≤ bound) (expected : String) :
    natBelow bound expected .bare (Node.ofValue (.num (.unsigned n))) = .ok n := by
  simp [natBelow, Node.ofValue, h]

lemma option_of_ne_null (d : Decoder α) {v : Value} (hv : v ≠ .null) :
    option d .bare (Node.ofValue v) = (d .bare (Node.ofValue v)).map some := by
  cases v <;> simp_all [option, Node.ofValue]

lemma itemsWith_bare (d : Decoder α) (ns : List Node) : itemsWith d .bare ns = ns.mapM (d .bare) := by
  induction ns with
  | nil => rfl
  | cons n ns ih =>
    rw [itemsWith, List.mapM_cons, ih]
    cases d .bare n <;> simp [Source.fix_bare] <;> rfl

theorem list_arr (d : Decoder α) (vs : List Value) :
    list d .bare (Node.ofValue (.arr vs)) = vs.mapM (decodeValue d) := by
  change _ = vs.mapM fun v => d .bare (Node.ofValue v)
  rw [Node.ofValue, list, Node.ofValues_eq_map, itemsWith_bare, List.mapM_map]
  simp only [Function.comp_def]
  cases vs.mapM (fun v => d .bare (Node.ofValue v)) <;> rfl

lemma mapM_ok_of_forall {f : β → Except Error α} (enc : α → β) {xs : List α}
    (h : ∀ x ∈ xs, f (enc x) = .ok x) : (xs.map enc).mapM f = .ok xs := by
  induction xs with
  | nil => rfl
  | cons x xs ih =>
    rw [List.map_cons, List.mapM_cons, h x List.mem_cons_self,
      ih fun y hy => h y (List.mem_cons_of_mem _ hy)]
    rfl

lemma list_arr_map (d : Decoder α) (enc : α → Value) {xs : List α}
    (h : ∀ x ∈ xs, decodeValue d (enc x) = .ok x) :
    list d .bare (Node.ofValue (.arr (xs.map enc))) = .ok xs := by
  rw [list_arr]
  exact mapM_ok_of_forall enc h

lemma insertKey_eq_putSorted (k : String) (x : α) (l : List (String × α)) :
    insertKey k x l = KeyMap.putSorted k x l := by
  induction l with
  | nil => rfl
  | cons e l ih => rw [insertKey, KeyMap.putSorted, ih]

lemma entriesWith_bare (d : Decoder α) (acc : List (String × α)) (kvs : List (String × Value)) :
    entriesWith d .bare acc (Node.ofFields kvs) =
      (kvs.mapM fun kv => (d .bare (Node.ofValue kv.2)).map (kv.1, ·)).map
        fun es => es.foldl (fun acc e => KeyMap.putSorted e.1 e.2 acc) acc := by
  induction kvs generalizing acc with
  | nil => rfl
  | cons kv kvs ih =>
    rw [Node.ofFields, entriesWith, List.mapM_cons]
    cases hd : d .bare (Node.ofValue kv.2) with
    | error e => simp only [Source.fix_bare, id]; rfl
    | ok x =>
      simp only [ih, insertKey_eq_putSorted]
      cases kvs.mapM (fun kv => (d .bare (Node.ofValue kv.2)).map (kv.1, ·)) <;> rfl

lemma foldl_putSorted_eq_ofList (es : List (String × α)) :
    es.foldl (fun acc e => KeyMap.putSorted e.1 e.2 acc) [] = (KeyMap.ofList es).entries := by
  suffices ∀ m : KeyMap α, es.foldl (fun acc e => KeyMap.putSorted e.1 e.2 acc) m.entries =
      (es.foldl (fun m e => m.insert e.1 e.2) m).entries from this KeyMap.empty
  induction es with
  | nil => intro m; rfl
  | cons e es ih => intro m; exact ih (m.insert e.1 e.2)

theorem map_obj (d : Decoder α) (kvs : List (String × Value)) :
    map d .bare (Node.ofValue (.obj kvs)) =
      (kvs.mapM fun kv => (decodeValue d kv.2).map (kv.1, ·)).map
        fun es => (KeyMap.ofList es).entries := by
  change _ = (kvs.mapM fun kv => (d .bare (Node.ofValue kv.2)).map (kv.1, ·)).map _
  rw [Node.ofValue, map, entriesWith_bare]
  cases kvs.mapM (fun kv => (d .bare (Node.ofValue kv.2)).map (kv.1, ·)) with
  | error e => rfl
  | ok es =>
    simp only [Except.map]
    rw [foldl_putSorted_eq_ofList]
    rfl

lemma map_obj_map (d : Decoder α) (enc : α → Value) {es : List (String × α)}
    (h : ∀ e ∈ es, decodeValue d (enc e.2) = .ok e.2) :
    map d .bare (Node.ofValue (.obj (es.map fun e => (e.1, enc e.2)))) =
      .ok (KeyMap.ofList es).entries := by
  have hes : (es.map fun e => (e.1, enc e.2)).mapM
      (fun kv => (decodeValue d kv.2).map (kv.1, ·)) = .ok es :=
    mapM_ok_of_forall _ fun e he => by rw [h e he]; rfl
  rw [map_obj, hes]
  rfl

lemma firstOf_ofValue (name : String) (ds : List (Decoder α)) (src : Source) (v : Value) :
    firstOf name ds src (Node.ofValue v) = firstOf.go name (Node.ofValue v) ds := by
  simp only [firstOf, Node.content_ofValue]
  rfl

/-- Reading the entry `kv` of an object sets a record through the field numbered `r.1`, by the
change `r.2`. -/
def EntrySets (fields : List (Field α)) (kv : String × Value) (r : ℕ × (α → α)) : Prop :=
  fieldIndex fields kv.1 = some r.1 ∧
    ∃ f, fields[r.1]? = some f ∧ f.read .bare (Node.ofValue kv.2) = .ok r.2

lemma recordEntries_ofFields {fields : List (Field α)} {kvs : List (String × Value)}
    {reads : List (ℕ × (α → α))} (h : List.Forall₂ (EntrySets fields) kvs reads)
    (hnd : (reads.map (·.1)).Nodup) (acc : α) (seen : List ℕ)
    (hseen : ∀ r ∈ reads, r.1 ∉ seen) :
    recordEntries .bare fields acc seen (Node.ofFields kvs) =
      .ok (reads.foldl (fun a r => r.2 a) acc, (reads.map (·.1)).reverse ++ seen) := by
  induction h generalizing acc seen with
  | nil => rfl
  | @cons kv r kvs reads hr _ ih =>
    obtain ⟨hi, f, hf, hread⟩ := hr
    simp only [List.map_cons, List.nodup_cons] at hnd
    have hnot : r.1 ∉ seen := hseen r List.mem_cons_self
    rw [Node.ofFields, recordEntries, hi]
    simp only [hf, List.contains_iff_mem, hnot, if_false, hread]
    -- the later entries name fields that are neither this one nor seen before
    rw [ih hnd.2 (r.2 acc) (r.1 :: seen) fun r' hr' hmem => ?_]
    · simp
    · rcases List.mem_cons.mp hmem with h | h
      · exact hnd.1 (h ▸ List.mem_map_of_mem hr')
      · exact hseen r' (List.mem_cons_of_mem _ hr') h

theorem record_obj {name : String} {init r : α} {fields : List (Field α)}
    {kvs : List (String × Value)} {reads : List (ℕ × (α → α))}
    (h : List.Forall₂ (EntrySets fields) kvs reads) (hnd : (reads.map (·.1)).Nodup)
    (hreq : firstMissing fields (reads.map (·.1)).reverse = none)
    (hr : reads.foldl (fun a r => r.2 a) init = r) :
    decodeValue (record name init fields) (.obj kvs) = .ok r := by
  rw [decodeValue, Node.ofValue, record]
  rw [recordEntries_ofFields h hnd init [] fun _ _ => List.not_mem_nil, List.append_nil]
  simp only [bind, Except.bind]
  rw [hreq, hr]
  rfl

lemma entrySets_mk' {fields : List (Field α)} {k : String} {v : Value} {i : ℕ} {names : List String}
    {need : Need} {d : Decoder β} {set : β → α → α} {x : β} (hi : fieldIndex fields k = some i)
    (hf : fields[i]? = some (Field.mk' names need d set)) (hd : d .bare (Node.ofValue v) = .ok x) :
    EntrySets fields (k, v) (i, set x) :=
  ⟨hi, _, hf, show (d .bare (Node.ofValue v)).map set = .ok (set x) by rw [hd]; rfl⟩

theorem recordEntries_preserves {P : α → Prop} {src : Source} {fields : List (Field α)}
    {entries : List (Except Error String × ℕ × Node)} {acc r : α} {seen seen' : List ℕ}
    (h : recordEntries src fields acc seen entries = .ok (r, seen')) (hacc : P acc)
    (hkeys : ∀ k p n, (.ok k, p, n) ∈ entries → ∀ i f, fieldIndex fields k = some i →
      fields[i]? = some f → ∀ set, f.read src n = .ok set → ∀ a, P a → P (set a)) :
    P r := by
  induction entries generalizing acc seen with
  | nil =>
    cases h
    exact hacc
  | cons e entries ih =>
    obtain ⟨k, p, n⟩ := e
    have hrest : ∀ k p n, (.ok k, p, n) ∈ entries → ∀ i f, fieldIndex fields k = some i →
        fields[i]? = some f → ∀ set, f.read src n = .ok set → ∀ a, P a → P (set a) :=
      fun k p n hk => hkeys k p n (List.mem_cons_of_mem _ hk)
    cases k with
    | error e => rw [recordEntries] at h; cases h
    | ok key =>
      rw [recordEntries] at h
      split at h
      · -- a key that names no field: its value is stepped over
        split at h
        · cases h
        · exact ih h hacc hrest
      · next i hi =>
        split at h
        · exact ih h hacc hrest
        · next f hf =>
          split_ifs at h
          split at h
          · cases h
          · next set hread =>
            exact ih h (hkeys key p n List.mem_cons_self i f hi hf set hread acc hacc) hrest

lemma mem_names_of_fieldIndex {fields : List (Field α)} {k : String} {i : ℕ} {f : Field α}
    (hi : fieldIndex fields k = some i) (hf : fields[i]? = some f) : k ∈ f.names := by
  rw [fieldIndex, List.findIdx?_eq_some_iff_getElem] at hi
  obtain ⟨hlt, hp, -⟩ := hi
  have hfi : fields[i] = f := by simpa [List.getElem?_eq_getElem hlt] using hf
  rw [← hfi]
  simpa using hp

end Decoder

def Field.Keeps {α : Type} (P : α → Prop) (f : Field α) : Prop :=
  ∀ src n set, f.read src n = .ok set → ∀ a, P a → P (set a)

lemma Field.keeps_mk' {α β : Type} {P : α → Prop} {names : List String} {need : Need}
    {d : Decoder β} {set : β → α → α} (h : ∀ x a, P a → P (set x a)) :
    (Field.mk' names need d set).Keeps P := by
  intro src n g hg a ha
  cases hd : d src n with
  | error e => simp [Field.mk', hd, Except.map] at hg
  | ok x =>
    have hgx : g = set x := by simpa [Field.mk', hd, Except.map] using hg.symm
    rw [hgx]
    exact h x a ha

theorem Decoder.record_obj_keeps {α : Type} {P : α → Prop} {name : String} {init r : α}
    {fields : List (Field α)} {kvs : List (String × Value)}
    (h : decodeValue (Decoder.record name init fields) (.obj kvs) = .ok r) (hinit : P init)
    (hkeep : ∀ f ∈ fields, (∃ k ∈ f.names, k ∈ kvs.map (·.1)) → f.Keeps P) : P r := by
  rw [decodeValue, Node.ofValue, Decoder.record] at h
  cases he : Decoder.recordEntries .bare fields init [] (Node.ofFields kvs) with
  | error e => simp [he, bind, Except.bind] at h
  | ok rs =>
    obtain ⟨r', seen⟩ := rs
    have hr : r' = r := by
      simp only [he, bind, Except.bind] at h
      split at h
      · cases h
      · simpa [pure, Except.pure] using h
    rw [← hr]
    refine Decoder.recordEntries_preserves he hinit fun k p n hmem i f hi hf set hset a ha => ?_
    rw [Node.ofFields_eq_map] at hmem
    obtain ⟨kv, hkv, heq⟩ := List.mem_map.mp hmem
    simp only [Prod.mk.injEq, Except.ok.injEq] at heq
    obtain ⟨rfl, -, rfl⟩ := heq
    have hnamed : ∃ k ∈ f.names, k ∈ kvs.map (·.1) :=
      ⟨kv.1, Decoder.mem_names_of_fieldIndex hi hf, List.mem_map_of_mem hkv⟩
    exact hkeep f (List.mem_of_getElem? hf) hnamed _ _ set hset a ha

end CodeGraph.Json
