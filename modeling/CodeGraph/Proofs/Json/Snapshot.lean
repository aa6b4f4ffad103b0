import Mathlib
import CodeGraph.Snapshot.Json
import CodeGraph.Proofs.Json.Decode

/-! Reading a snapshot back from its JSON value: a snapshot that its JSON form can carry reads back
as itself, from the current form and from the older one. -/

namespace CodeGraph

open Json Decoder

lemma TypeRecord.decode_toJson (t : TypeRecord) : decodeValue TypeRecord.decoder t.toJson = .ok t :=
  rfl

lemma ParamRecord.decode_toJson (p : ParamRecord) :
    decodeValue ParamRecord.decoder p.toJson = .ok p :=
  rfl

lemma CallEdge.decode_toJson (c : CallEdge) : decodeValue CallEdge.decoder c.toJson = .ok c :=
  rfl

lemma Via.decode_name (v : Via) : decodeValue Via.decoder (.str v.name) = .ok v := by
  cases v <;> rfl

lemma textsDecoder_textsValue (xs : List String) :
    decodeValue textsDecoder (textsValue xs) = .ok xs :=
  list_arr_map _ _ fun _ _ => rfl

lemma u32_count {n : ℕ} (h : n < 2 ^ 32) : decodeValue u32 (countValue n) = .ok n :=
  natBelow_unsigned (Nat.le_of_lt_succ h) _

lemma usize_count {n : ℕ} (h : n < 2 ^ 64) : decodeValue usize (countValue n) = .ok n :=
  natBelow_unsigned (Nat.le_of_lt_succ h) _

lemma FieldRecord.decode_toJson (f : FieldRecord) :
    decodeValue FieldRecord.decoder f.toJson = .ok f := by
  apply record_obj
  · exact .cons (entrySets_mk' rfl rfl rfl) <| .cons (entrySets_mk' rfl rfl rfl) <|
      .cons (entrySets_mk' rfl rfl rfl) <|
      .cons (entrySets_mk' rfl rfl (textsDecoder_textsValue f.modifiers)) .nil
  · simp
  · rfl
  · rfl

lemma Dependency.decode_toJson (d : Dependency) :
    decodeValue Dependency.decoder d.toJson = .ok d := by
  apply record_obj
  · exact .cons (entrySets_mk' rfl rfl rfl) <| .cons (entrySets_mk' rfl rfl rfl) <|
      .cons (entrySets_mk' rfl rfl (Via.decode_name d.via)) <|
      .cons (entrySets_mk' rfl rfl rfl) .nil
  · simp
  · rfl
  · rfl

lemma ResolutionCounts.decode_toJson (r : ResolutionCounts)
    (h : ∀ n ∈ [r.importsResolved, r.importsUnresolved, r.fieldTypesResolved,
      r.fieldTypesUnresolved], n < 2 ^ 64) :
    decodeValue ResolutionCounts.decoder r.toJson = .ok r := by
  apply record_obj
  · exact .cons (entrySets_mk' rfl rfl (usize_count (h _ (by simp)))) <|
      .cons (entrySets_mk' rfl rfl (usize_count (h _ (by simp)))) <|
      .cons (entrySets_mk' rfl rfl (usize_count (h _ (by simp)))) <|
      .cons (entrySets_mk' rfl rfl (usize_count (h _ (by simp)))) .nil
  · simp
  · rfl
  · rfl

lemma forall₂_append_optionalField {α β : Type} {fields : List (Json.Field α)}
    {kvs : List (String × Value)} {reads : List (ℕ × (α → α))} {key : String} {i : ℕ}
    {names : List String} {need : Need} {d : Decoder β} {set : Option β → α → α}
    (h : List.Forall₂ (EntrySets fields) kvs reads) (enc : β → Value)
    (hi : fieldIndex fields key = some i)
    (hf : fields[i]? = some (Field.mk' names need (option d) set)) (hne : ∀ x, enc x ≠ .null)
    {o : Option β} (hd : ∀ x ∈ o, decodeValue d (enc x) = .ok x) :
    List.Forall₂ (EntrySets fields) (kvs ++ optionalField key (o.map enc))
      (reads ++ (o.map fun x => (i, set (some x))).toList) := by
  refine List.rel_append h ?_
  cases o with
  | none => exact .nil
  | some x =>
    have hx : option d .bare (Node.ofValue (enc x)) = .ok (some x) := by
      rw [option_of_ne_null d (hne x)]
      rw [show d .bare (Node.ofValue (enc x)) = .ok x from hd x rfl]
      rfl
    exact .cons (entrySets_mk' hi hf hx) .nil

def MethodRecord.jsonWith (returnKey beginKey endKey : String) (m : MethodRecord) : Value :=
  .obj ([("owner_fqn", .str m.owner), ("name", .str m.name), ("signature", .str m.signature),
    (returnKey, .str m.returnType), ("params", .arr (m.params.map ParamRecord.toJson)),
    ("modifiers", textsValue m.modifiers)] ++
    optionalField "file" (m.file.map .str) ++
    optionalField beginKey (m.beginLine.map countValue) ++
    optionalField endKey (m.endLine.map countValue) ++
    optionalField "body_hash" (m.bodyHash.map .str))

lemma MethodRecord.toJson_eq_jsonWith (m : MethodRecord) :
    m.toJson = m.jsonWith "returnType" "beginLine" "endLine" :=
  rfl

theorem MethodRecord.decode_jsonWith {returnKey beginKey endKey : String}
    (hrk : returnKey ∈ ["returnType", "return_type"]) (hbk : beginKey ∈ ["beginLine", "begin_line"])
    (hek : endKey ∈ ["endLine", "end_line"]) (m : MethodRecord)
    (hb : ∀ n ∈ m.beginLine, n < 2 ^ 32) (he : ∀ n ∈ m.endLine, n < 2 ^ 32) :
    decodeValue MethodRecord.decoder (m.jsonWith returnKey beginKey endKey) = .ok m := by
  obtain ⟨owner, name, signature, returnType, params, modifiers, file, beginLine, endLine,
    bodyHash⟩ := m
  simp only [List.mem_cons, List.not_mem_nil, or_false] at hrk hbk hek
  apply record_obj
  · exact forall₂_append_optionalField (forall₂_append_optionalField
      (forall₂_append_optionalField (forall₂_append_optionalField
        (.cons (entrySets_mk' rfl rfl rfl) <| .cons (entrySets_mk' rfl rfl rfl) <|
          .cons (entrySets_mk' rfl rfl rfl) <|
          .cons (entrySets_mk' (by rcases hrk with rfl | rfl <;> rfl) rfl rfl) <|
          .cons (entrySets_mk' rfl rfl (list_arr_map _ _ fun p _ => ParamRecord.decode_toJson p)) <|
          .cons (entrySets_mk' rfl rfl (textsDecoder_textsValue modifiers)) .nil)
        Value.str rfl rfl (fun _ => nofun) fun _ _ => rfl)
        countValue (by rcases hbk with rfl | rfl <;> rfl) rfl (fun _ => nofun)
          fun n hn => u32_count (hb n hn))
        countValue (by rcases hek with rfl | rfl <;> rfl) rfl (fun _ => nofun)
          fun n hn => u32_count (he n hn))
      Value.str rfl rfl (fun _ => nofun) fun _ _ => rfl
  -- what is left depends only on which of the four optional entries are written
  · cases file <;> cases beginLine <;> cases endLine <;> cases bodyHash <;> simp
  · cases file <;> cases beginLine <;> cases endLine <;> cases bodyHash <;> rfl
  · cases file <;> cases beginLine <;> cases endLine <;> cases bodyHash <;> rfl

def Stats.jsonWith (fileKey errorKey backendKey : String) (s : Stats) : Value :=
  .obj [(fileKey, countValue s.fileCount), (errorKey, countValue s.parseErrorCount),
    (backendKey, .str s.backendUsed),
    ("backend_files", .obj (s.backendFiles.entries.map fun (k, n) => (k, countValue n))),
    ("duplicate_count", countValue s.duplicateCount), ("resolution", s.resolution.toJson)]

lemma Stats.toJson_eq_jsonWith (s : Stats) :
    s.toJson = s.jsonWith "file_count" "parse_error_count" "backend_used" :=
  rfl

structure Stats.Fits (s : Stats) : Prop where
  counts : ∀ n ∈ [s.fileCount, s.parseErrorCount, s.duplicateCount], n < 2 ^ 64
  resolution : ∀ n ∈ [s.resolution.importsResolved, s.resolution.importsUnresolved,
    s.resolution.fieldTypesResolved, s.resolution.fieldTypesUnresolved], n < 2 ^ 64
  backendCounts : ∀ e ∈ s.backendFiles.entries, e.2 < 2 ^ 64

lemma decode_backendFiles {m : KeyMap ℕ} (h : ∀ e ∈ m.entries, e.2 < 2 ^ 64) :
    decodeValue (map usize) (.obj (m.entries.map fun (k, n) => (k, countValue n))) =
      .ok m.entries := by
  have hmap := map_obj_map usize countValue fun e he => usize_count (h e he)
  rw [KeyMap.ofList_entries] at hmap
  exact hmap

theorem Stats.decode_jsonWith {fileKey errorKey backendKey : String}
    (hfk : fileKey ∈ ["file_count", "java_files"])
    (hek : errorKey ∈ ["parse_error_count", "parse_errors"])
    (hbk : backendKey ∈ ["backend_used", "parser"]) (s : Stats) (hs : s.Fits) :
    decodeValue Stats.decoder (s.jsonWith fileKey errorKey backendKey) = .ok s := by
  simp only [List.mem_cons, List.not_mem_nil, or_false] at hfk hek hbk
  apply record_obj
  · exact .cons (entrySets_mk' (by rcases hfk with rfl | rfl <;> rfl) rfl
        (usize_count (hs.counts _ (by simp)))) <|
      .cons (entrySets_mk' (by rcases hek with rfl | rfl <;> rfl) rfl
        (usize_count (hs.counts _ (by simp)))) <|
      .cons (entrySets_mk' (by rcases hbk with rfl | rfl <;> rfl) rfl rfl) <|
      .cons (entrySets_mk' rfl rfl (decode_backendFiles hs.backendCounts)) <|
      .cons (entrySets_mk' rfl rfl (usize_count (hs.counts _ (by simp)))) <|
      .cons (entrySets_mk' rfl rfl (s.resolution.decode_toJson hs.resolution)) .nil
  · simp
  · rfl
  · simp [KeyMap.ofList_entries]

lemma TypeRecord.get?_tableOf (rs : List TypeRecord) (k : String) :
    (TypeRecord.tableOf rs).get? k = rs.find? (·.fqn == k) := by
  rw [TypeRecord.tableOf, KeyMap.get?_foldl_insertNew, KeyMap.get?_empty, Option.none_or]

lemma TypeRecord.tableOf_values {m : KeyMap TypeRecord}
    (hk : ∀ e ∈ m.entries, e.2.fqn = e.1) : TypeRecord.tableOf m.values = m := by
  refine KeyMap.ext_get? fun k => ?_
  rw [TypeRecord.get?_tableOf, KeyMap.values, List.find?_map, KeyMap.get?]
  congr 1
  exact List.find?_congr fun e he => by simp [hk e he]

lemma typesDecoder_arr (vs : List Value) :
    decodeValue typesDecoder (.arr vs) =
      match vs.mapM (decodeValue TypeRecord.decoder) with
      | .ok rs => .ok (TypeRecord.tableOf rs)
      | .error _ => .error (Error.noVariant "TypesRepr") := by
  show typesDecoder .bare (Node.ofValue (.arr vs)) = _
  simp only [typesDecoder, map', firstOf_ofValue, firstOf.go]
  -- an array is not a map, so the list form is the one that reads it
  obtain ⟨e, he⟩ : ∃ e, map TypeRecord.decoder .bare (Node.ofValue (.arr vs)) = .error e :=
    ⟨_, rfl⟩
  rw [he, list_arr]
  cases vs.mapM (decodeValue TypeRecord.decoder) <;> rfl

lemma typesDecoder_obj (kvs : List (String × Value)) :
    decodeValue typesDecoder (.obj kvs) =
      match kvs.mapM fun kv => (decodeValue TypeRecord.decoder kv.2).map (kv.1, ·) with
      | .ok es => .ok (TypeRecord.tableOf (KeyMap.ofList es).values)
      | .error _ => .error (Error.noVariant "TypesRepr") := by
  show typesDecoder .bare (Node.ofValue (.obj kvs)) = _
  simp only [typesDecoder, map', firstOf_ofValue, firstOf.go]
  rw [map_obj]
  cases kvs.mapM fun kv => (decodeValue TypeRecord.decoder kv.2).map (kv.1, ·) with
  | ok es => rfl
  | error e =>
    -- an object is not a list either
    obtain ⟨e', he'⟩ : ∃ e', list TypeRecord.decoder .bare (Node.ofValue (.obj kvs)) = .error e' :=
      ⟨_, rfl⟩
    simp only [Except.map]
    rw [he']

lemma decodeValue_typesDecoder_arr (vs : List Value) (m : KeyMap TypeRecord) :
    decodeValue typesDecoder (.arr vs) = .ok m ↔
      ∃ rs, vs.mapM (decodeValue TypeRecord.decoder) = .ok rs ∧ TypeRecord.tableOf rs = m := by
  rw [typesDecoder_arr]
  cases vs.mapM (decodeValue TypeRecord.decoder) <;> simp

lemma decodeValue_typesDecoder_obj (kvs : List (String × Value)) (m : KeyMap TypeRecord) :
    decodeValue typesDecoder (.obj kvs) = .ok m ↔
      ∃ es, kvs.mapM (fun kv => (decodeValue TypeRecord.decoder kv.2).map (kv.1, ·)) = .ok es ∧
        TypeRecord.tableOf (KeyMap.ofList es).values = m := by
  rw [typesDecoder_obj]
  cases kvs.mapM fun kv => (decodeValue TypeRecord.decoder kv.2).map (kv.1, ·) <;> simp

lemma decode_types_obj {m : KeyMap TypeRecord} (hk : ∀ e ∈ m.entries, e.2.fqn = e.1) :
    decodeValue typesDecoder (.obj (m.entries.map fun (k, t) => (k, t.toJson))) = .ok m := by
  have hes : (m.entries.map fun (k, t) => (k, t.toJson)).mapM
      (fun kv => (decodeValue TypeRecord.decoder kv.2).map (kv.1, ·)) = .ok m.entries :=
    mapM_ok_of_forall _ fun _ _ => rfl
  rw [typesDecoder_obj, hes]
  dsimp only
  rw [KeyMap.ofList_entries, TypeRecord.tableOf_values hk]

lemma decode_types_arr {m : KeyMap TypeRecord} (hk : ∀ e ∈ m.entries, e.2.fqn = e.1) :
    decodeValue typesDecoder (.arr (m.values.map TypeRecord.toJson)) = .ok m := by
  rw [typesDecoder_arr, mapM_ok_of_forall TypeRecord.toJson fun t _ => TypeRecord.decode_toJson t]
  dsimp only
  rw [TypeRecord.tableOf_values hk]

lemma relationRowDecoder_pairValue (p : String × String) :
    decodeValue relationRowDecoder (pairValue p) = .ok p :=
  rfl

def relationRefKeys : List String := ["parent_ref", "iface_ref", "raw_ref", "reference"]

def relationRowJson (refKey : String) (p : String × String) : Value :=
  .obj [("child_fqn", .str p.1), (refKey, .str p.2)]

lemma relationRowDecoder_relationRowJson {refKey : String} (h : refKey ∈ relationRefKeys)
    (p : String × String) : decodeValue relationRowDecoder (relationRowJson refKey p) = .ok p := by
  simp only [relationRefKeys, List.mem_cons, List.not_mem_nil, or_false] at h
  rcases h with rfl | rfl | rfl | rfl <;> rfl

/-- What a snapshot holds that its JSON form can carry: types keyed by their own names, method
lines that fit 32 bits and statistics that fit their fields. -/
structure Snapshot.Representable (g : Snapshot) : Prop where
  keyed : ∀ e ∈ g.types.entries, e.2.fqn = e.1
  lines : ∀ m ∈ g.methods, (∀ n ∈ m.beginLine, n < 2 ^ 32) ∧ ∀ n ∈ m.endLine, n < 2 ^ 32
  stats : g.stats.Fits

theorem Snapshot.decode_obj {projectKey repoKey : String}
    (hpk : projectKey ∈ ["project", "project_name"]) (hrk : repoKey ∈ ["repo", "repo_id"])
    (g : Snapshot) {types methods fields dependencies extended implemented calls stats : Value}
    (htypes : decodeValue typesDecoder types = .ok g.types)
    (hmethods : decodeValue (list MethodRecord.decoder) methods = .ok g.methods)
    (hfields : decodeValue (list FieldRecord.decoder) fields = .ok g.fields)
    (hdeps : decodeValue (list Dependency.decoder) dependencies = .ok g.dependencies)
    (hext : decodeValue (list relationRowDecoder) extended = .ok g.extended)
    (himpl : decodeValue (list relationRowDecoder) implemented = .ok g.implemented)
    (hcalls : decodeValue (list CallEdge.decoder) calls = .ok g.calls)
    (hstats : decodeValue Stats.decoder stats = .ok g.stats) :
    decodeValue Snapshot.decoder (.obj [(projectKey, .str g.project), (repoKey, .str g.repo),
      ("types", types), ("methods", methods), ("fields", fields), ("dependencies", dependencies),
      ("extends", extended), ("implements", implemented), ("calls", calls), ("stats", stats)]) =
      .ok g := by
  simp only [List.mem_cons, List.not_mem_nil, or_false] at hpk hrk
  apply record_obj
  · exact .cons (entrySets_mk' (by rcases hpk with rfl | rfl <;> rfl) rfl rfl) <|
      .cons (entrySets_mk' (by rcases hrk with rfl | rfl <;> rfl) rfl rfl) <|
      .cons (entrySets_mk' rfl rfl htypes) <| .cons (entrySets_mk' rfl rfl hmethods) <|
      .cons (entrySets_mk' rfl rfl hfields) <| .cons (entrySets_mk' rfl rfl hdeps) <|
      .cons (entrySets_mk' rfl rfl hext) <| .cons (entrySets_mk' rfl rfl himpl) <|
      .cons (entrySets_mk' rfl rfl hcalls) <| .cons (entrySets_mk' rfl rfl hstats) .nil
  · simp
  · rfl
  · rfl

lemma Snapshot.decode_toJson (g : Snapshot) (hg : g.Representable) :
    decodeValue Snapshot.decoder g.toJson = .ok g :=
  Snapshot.decode_obj (by simp) (by simp) g (decode_types_obj hg.keyed)
    (list_arr_map _ _ fun m hm =>
      MethodRecord.decode_jsonWith (by simp) (by simp) (by simp) m (hg.lines m hm).1 (hg.lines m hm).2)
    (list_arr_map _ _ fun f _ => f.decode_toJson) (list_arr_map _ _ fun d _ => d.decode_toJson)
    (list_arr_map _ _ fun p _ => relationRowDecoder_pairValue p)
    (list_arr_map _ _ fun p _ => relationRowDecoder_pairValue p)
    (list_arr_map _ _ fun c _ => c.decode_toJson)
    (Stats.decode_jsonWith (by simp) (by simp) (by simp) g.stats hg.stats)

def Snapshot.legacyJson (extendsKey implementsKey : String) (g : Snapshot) : Value :=
  .obj [("project_name", .str g.project), ("repo_id", .str g.repo),
    ("types", .arr (g.types.values.map TypeRecord.toJson)),
    ("methods", .arr (g.methods.map (MethodRecord.jsonWith "return_type" "begin_line" "end_line"))),
    ("fields", .arr (g.fields.map FieldRecord.toJson)),
    ("dependencies", .arr (g.dependencies.map Dependency.toJson)),
    ("extends", .arr (g.extended.map (relationRowJson extendsKey))),
    ("implements", .arr (g.implemented.map (relationRowJson implementsKey))),
    ("calls", .arr (g.calls.map CallEdge.toJson)),
    ("stats", g.stats.jsonWith "java_files" "parse_errors" "parser")]

lemma Snapshot.decode_legacyJson {extendsKey implementsKey : String}
    (hek : extendsKey ∈ relationRefKeys) (hik : implementsKey ∈ relationRefKeys) (g : Snapshot)
    (hg : g.Representable) :
    decodeValue Snapshot.decoder (g.legacyJson extendsKey implementsKey) = .ok g :=
  Snapshot.decode_obj (by simp) (by simp) g (decode_types_arr hg.keyed)
    (list_arr_map _ _ fun m hm =>
      MethodRecord.decode_jsonWith (by simp) (by simp) (by simp) m (hg.lines m hm).1 (hg.lines m hm).2)
    (list_arr_map _ _ fun f _ => f.decode_toJson) (list_arr_map _ _ fun d _ => d.decode_toJson)
    (list_arr_map _ _ fun p _ => relationRowDecoder_relationRowJson hek p)
    (list_arr_map _ _ fun p _ => relationRowDecoder_relationRowJson hik p)
    (list_arr_map _ _ fun c _ => c.decode_toJson)
    (Stats.decode_jsonWith (by simp) (by simp) (by simp) g.stats hg.stats)

lemma MethodRecord.returnType_of_absent {kvs : List (String × Value)} {m : MethodRecord}
    (h : decodeValue MethodRecord.decoder (.obj kvs) = .ok m)
    (habsent : ∀ k ∈ ["returnType", "return_type"], k ∉ kvs.map (·.1)) :
    m.returnType = "void" := by
  refine record_obj_keeps (P := fun m : MethodRecord => m.returnType = "void") h rfl
    fun f hf => ?_
  simp only [List.mem_cons, List.not_mem_nil, or_false] at hf
  -- the return type's own field is the one field that sets it, and no key names it
  rcases hf with rfl | rfl | rfl | rfl | rfl | rfl | rfl | rfl | rfl | rfl
  all_goals first
    | exact fun _ => Field.keeps_mk' fun _ _ h => h
    | exact fun ⟨k, hk, hkv⟩ => absurd hkv (habsent k hk)

lemma Dependency.file_of_absent {kvs : List (String × Value)} {d : Dependency}
    (h : decodeValue Dependency.decoder (.obj kvs) = .ok d) (habsent : "file" ∉ kvs.map (·.1)) :
    d.file = "" := by
  refine record_obj_keeps (P := fun d : Dependency => d.file = "") h rfl fun f hf => ?_
  simp only [List.mem_cons, List.not_mem_nil, or_false] at hf
  rcases hf with rfl | rfl | rfl | rfl
  all_goals first
    | exact fun _ => Field.keeps_mk' fun _ _ h => h
    | exact fun ⟨k, hk, hkv⟩ => absurd (List.mem_singleton.mp hk ▸ hkv) habsent

lemma CallEdge.file_of_absent {kvs : List (String × Value)} {c : CallEdge}
    (h : decodeValue CallEdge.decoder (.obj kvs) = .ok c) (habsent : "file" ∉ kvs.map (·.1)) :
    c.file = "" := by
  refine record_obj_keeps (P := fun c : CallEdge => c.file = "") h rfl fun f hf => ?_
  simp only [List.mem_cons, List.not_mem_nil, or_false] at hf
  rcases hf with rfl | rfl | rfl | rfl | rfl
  all_goals first
    | exact fun _ => Field.keeps_mk' fun _ _ h => h
    | exact fun ⟨k, hk, hkv⟩ => absurd (List.mem_singleton.mp hk ▸ hkv) habsent

/-- A snapshot that its JSON form can carry reads back as itself from that form, and from the
older form with either key for each supertype row's reference. Types read from an array or an
object are the table of the records read (in key order for an object, the later of two equal
keys winning), in which the first record of each name is kept. A method without a return
type returns `void`, and a dependency or call without a file has the empty path. -/
theorem snapshot_json_reads_back :
    (∀ g : Snapshot, g.Representable → decodeValue Snapshot.decoder g.toJson = .ok g) ∧
    (∀ g : Snapshot, g.Representable → ∀ extendsKey ∈ relationRefKeys,
      ∀ implementsKey ∈ relationRefKeys,
        decodeValue Snapshot.decoder (g.legacyJson extendsKey implementsKey) = .ok g) ∧
    (∀ vs m, decodeValue typesDecoder (.arr vs) = .ok m ↔
      ∃ rs, vs.mapM (decodeValue TypeRecord.decoder) = .ok rs ∧ TypeRecord.tableOf rs = m) ∧
    (∀ kvs m, decodeValue typesDecoder (.obj kvs) = .ok m ↔
      ∃ es, kvs.mapM (fun kv => (decodeValue TypeRecord.decoder kv.2).map (kv.1, ·)) = .ok es ∧
        TypeRecord.tableOf (KeyMap.ofList es).values = m) ∧
    (∀ rs k, (TypeRecord.tableOf rs).get? k = rs.find? (·.fqn == k)) ∧
    (∀ kvs (m : MethodRecord), decodeValue MethodRecord.decoder (.obj kvs) = .ok m →
      (∀ k ∈ ["returnType", "return_type"], k ∉ kvs.map (·.1)) → m.returnType = "void") ∧
    (∀ kvs (d : Dependency), decodeValue Dependency.decoder (.obj kvs) = .ok d →
      "file" ∉ kvs.map (·.1) → d.file = "") ∧
    (∀ kvs (c : CallEdge), decodeValue CallEdge.decoder (.obj kvs) = .ok c →
      "file" ∉ kvs.map (·.1) → c.file = "") :=
  ⟨Snapshot.decode_toJson,
    fun g hg _ hek _ hik => Snapshot.decode_legacyJson hek hik g hg,
    decodeValue_typesDecoder_arr, decodeValue_typesDecoder_obj,
    TypeRecord.get?_tableOf,
    fun _ _ h habsent => MethodRecord.returnType_of_absent h habsent,
    fun _ _ h habsent => Dependency.file_of_absent h habsent,
    fun _ _ h habsent => CallEdge.file_of_absent h habsent⟩

theorem snapshot_json_reads_back_shop :
    let g : Snapshot := {
      project := "shop", repo := "right",
      methods := [{ owner := "com.x.Foo", name := "run", signature := "run()", returnType := "int" }],
      extended := [("com.x.Foo", "Base")] }
    g.Representable ∧ decodeValue Snapshot.decoder g.toJson = .ok g ∧
      decodeValue Snapshot.decoder (g.legacyJson "parent_ref" "iface_ref") = .ok g := by
  intro g
  have hg : g.Representable :=
    ⟨by simp [g, KeyMap.empty], by simp [g],
      ⟨by simp [g], by simp [g], by simp [g, KeyMap.empty]⟩⟩
  exact ⟨hg, snapshot_json_reads_back.1 g hg,
    snapshot_json_reads_back.2.1 g hg _ (by decide) _ (by decide)⟩

end CodeGraph
