import Mathlib
import CodeGraph.Ingest
import CodeGraph.Proofs.Assembly
import CodeGraph.Proofs.Scan

/-! The two passes of extraction: the first indexes every named type, the second turns each file
into records about its own and indexed types, and assembled in scan order they give a snapshot
whose every type comes from the first file declaring it. -/

namespace CodeGraph

namespace TypeIndex

def Closed (ix : TypeIndex) : Prop := ∀ s, ∀ c ∈ ix.candidates s, c ∈ ix.fqns

lemma contains_iff (ix : TypeIndex) (fqn : String) : ix.contains fqn = true ↔ fqn ∈ ix.fqns := by
  simp [contains]

lemma mem_fqns_insert {ix : TypeIndex} {fqn simple c : String} :
    c ∈ (ix.insert fqn simple).fqns ↔ c = fqn ∨ c ∈ ix.fqns := by
  unfold TypeIndex.insert
  split_ifs with h
  · rw [contains_iff] at h
    constructor
    · exact Or.inr
    · rintro (rfl | hc)
      · exact h
      · exact hc
  · simp [or_comm]

lemma closed_empty : ({} : TypeIndex).Closed := by
  intro s c hc
  simp [candidates] at hc

lemma Closed.insert {ix : TypeIndex} (h : ix.Closed) (fqn simple : String) :
    (ix.insert fqn simple).Closed := by
  intro s c hc
  rw [mem_fqns_insert]
  unfold TypeIndex.insert at hc
  split_ifs at hc with hk
  · exact Or.inr (h s c hc)
  · simp only [candidates, KeyMap.get?_alter] at hc
    split_ifs at hc with hs
    · simp only [Option.getD_some, List.mem_append, List.mem_singleton] at hc
      rcases hc with hc | rfl
      · exact Or.inr (h simple c hc)
      · exact Or.inl rfl
    · exact Or.inr (h s c hc)

lemma Closed.firstCandidate {ix : TypeIndex} (h : ix.Closed) {s fqn : String}
    (hr : ix.firstCandidate s = .resolved fqn) : fqn ∈ ix.fqns := by
  unfold TypeIndex.firstCandidate at hr
  split at hr
  · next c _ hc =>
    cases hr
    exact h s _ (hc ▸ List.mem_cons_self)
  · cases hr

lemma Closed.resolveImport {ix : TypeIndex} (h : ix.Closed) {i : Outline.Import} {fqn : String}
    (hr : ix.resolveImport i = .resolved fqn) : fqn ∈ ix.fqns := by
  unfold TypeIndex.resolveImport at hr
  split_ifs at hr with h1 h2 h3
  · cases hr
    exact (contains_iff ix _).mp h3
  · exact h.firstCandidate hr

lemma Closed.resolveFieldType {ix : TypeIndex} (h : ix.Closed) {ty fqn : String}
    (hr : ix.resolveFieldType ty = .resolved fqn) : fqn ∈ ix.fqns := by
  unfold TypeIndex.resolveFieldType at hr
  split at hr
  · exact h.firstCandidate hr
  · cases hr

lemma mem_fqns_foldl_insert (ts : List FoundType) (ix : TypeIndex) (c : String) :
    c ∈ (ts.foldl (fun ix t => ix.insert t.fqn t.header.name) ix).fqns ↔
      c ∈ ix.fqns ∨ c ∈ ts.map (·.fqn) := by
  induction ts generalizing ix with
  | nil => simp
  | cons t ts ih =>
    rw [List.foldl_cons, ih, mem_fqns_insert]
    simp only [List.map_cons, List.mem_cons]
    tauto

lemma closed_foldl_insert (ts : List FoundType) {ix : TypeIndex} (h : ix.Closed) :
    (ts.foldl (fun ix t => ix.insert t.fqn t.header.name) ix).Closed := by
  induction ts generalizing ix with
  | nil => exact h
  | cons t ts ih => exact ih (h.insert _ _)

lemma mem_fqns_ofFiles (files : List ReadFile) (c : String) :
    c ∈ (ofFiles files).fqns ↔ ∃ f ∈ files, c ∈ f.reading.unit.types.map (·.fqn) := by
  unfold ofFiles
  suffices ∀ (ix : TypeIndex), c ∈ (files.foldl (fun ix f => f.reading.unit.types.foldl
      (fun ix t => ix.insert t.fqn t.header.name) ix) ix).fqns ↔
      c ∈ ix.fqns ∨ ∃ f ∈ files, c ∈ f.reading.unit.types.map (·.fqn) by
    simpa using this {}
  induction files with
  | nil => simp
  | cons f files ih =>
    intro ix
    rw [List.foldl_cons, ih, mem_fqns_foldl_insert]
    simp only [List.mem_cons, exists_eq_or_imp]
    tauto

lemma closed_ofFiles (files : List ReadFile) : (ofFiles files).Closed := by
  unfold ofFiles
  suffices ∀ (ix : TypeIndex), ix.Closed → (files.foldl (fun ix f => f.reading.unit.types.foldl
      (fun ix t => ix.insert t.fqn t.header.name) ix) ix).Closed from this {} closed_empty
  induction files with
  | nil => exact fun _ h => h
  | cons f files ih => exact fun ix h => ih _ (closed_foldl_insert _ h)

end TypeIndex

namespace FileRecords

lemma foldl_depend (source : String) (via : Via) (targets : List String) (r : FileRecords) :
    targets.foldl (fun r target => r.depend source target via) r =
      { r with dependencies := r.dependencies ++
          (targets.filter (source != ·)).map fun target => ⟨source, target, via, r.path⟩ } := by
  induction targets generalizing r with
  | nil => simp
  | cons x xs ih =>
    rw [List.foldl_cons, ih]
    by_cases h : source = x
    · simp [depend, h]
    · simp [depend, h]

lemma addField_eq (ix : TypeIndex) (owner : String) (r : FileRecords) (f : Outline.FieldDecl) :
    ∃ xs ds res, r.addField ix owner f =
      { r with fields := r.fields ++ xs, dependencies := r.dependencies ++ ds, resolution := res } ∧
      (∀ x ∈ xs, x.owner = owner) ∧
      ∀ d ∈ ds, d.source = owner ∧ d.target ≠ owner ∧ d.via = .field ∧ d.file = r.path ∧
        ∃ ty, ix.resolveFieldType ty = .resolved d.target := by
  unfold addField
  dsimp only
  -- the field records do not depend on whether the field type resolves
  let xs := f.names.map fun n =>
    ({ owner, name := n, typeName := f.typeName.getD "?", modifiers := f.modifiers } : FieldRecord)
  split
  · next target hr =>
    let res := { r.resolution with fieldTypesResolved := r.resolution.fieldTypesResolved + 1 }
    by_cases h : owner = target
    · exact ⟨xs, [], res, by simp [depend, h, xs, res], by simp [xs], by simp⟩
    · refine ⟨xs, [⟨owner, target, .field, r.path⟩], res, by simp [depend, h, xs, res], by simp [xs], ?_⟩
      simp only [List.mem_singleton]
      rintro d rfl
      exact ⟨rfl, Ne.symm h, rfl, rfl, _, hr⟩
  · exact ⟨xs, [], { r.resolution with fieldTypesUnresolved := r.resolution.fieldTypesUnresolved + 1 },
      by simp [xs], by simp [xs], by simp⟩

lemma foldl_addField (ix : TypeIndex) (owner : String) (fs : List Outline.FieldDecl)
    (r : FileRecords) :
    ∃ xs ds res, fs.foldl (addField ix owner) r =
      { r with fields := r.fields ++ xs, dependencies := r.dependencies ++ ds, resolution := res } ∧
      (∀ x ∈ xs, x.owner = owner) ∧
      ∀ d ∈ ds, d.source = owner ∧ d.target ≠ owner ∧ d.via = .field ∧ d.file = r.path ∧
        ∃ ty, ix.resolveFieldType ty = .resolved d.target := by
  induction fs generalizing r with
  | nil => exact ⟨[], [], r.resolution, by simp, by simp, by simp⟩
  | cons f fs ih =>
    obtain ⟨xs, ds, res, he, hxs, hds⟩ := addField_eq ix owner r f
    obtain ⟨xs', ds', res', he', hxs', hds'⟩ := ih (r.addField ix owner f)
    refine ⟨xs ++ xs', ds ++ ds', res', ?_, ?_, ?_⟩
    · rw [List.foldl_cons, he', he]
      simp
    · simp only [List.mem_append]
      rintro x (hx | hx)
      · exact hxs x hx
      · exact hxs' x hx
    · simp only [List.mem_append]
      rintro d (hd | hd)
      · exact hds d hd
      · have := hds' d hd
        rw [he] at this
        exact this

lemma importDeps_eq (fqn : String) (top : Bool) (imported : List String) (r : FileRecords) :
    ∃ ds, (if top = true then imported.foldl (fun r target => r.depend fqn target .imported) r
        else r) = { r with dependencies := r.dependencies ++ ds } ∧
      ∀ d ∈ ds, d.source = fqn ∧ d.target ≠ fqn ∧ d.file = r.path ∧
        d.via = .imported ∧ top = true ∧ d.target ∈ imported := by
  cases top
  · exact ⟨[], by simp, by simp⟩
  · refine ⟨_, by rw [if_pos rfl, foldl_depend], ?_⟩
    simp only [List.mem_map, List.mem_filter, bne_iff_ne, ne_eq]
    rintro d ⟨target, ⟨hmem, hne⟩, rfl⟩
    exact ⟨rfl, Ne.symm hne, rfl, rfl, trivial, hmem⟩

lemma addType_eq (ix : TypeIndex) (file : ReadFile) (imported : List String) (r : FileRecords)
    (t : FoundType) :
    ∃ ms xs ds res, r.addType ix file imported t =
      { r with
        types := r.types ++ [⟨t.fqn, t.header.name, file.path, file.fileHash⟩]
        extended := r.extended ++ t.header.extended.map fun s => (t.fqn, s)
        implemented := r.implemented ++ t.header.implemented.map fun s => (t.fqn, s)
        methods := r.methods ++ ms
        fields := r.fields ++ xs
        dependencies := r.dependencies ++ ds
        resolution := res } ∧
      (∀ m ∈ ms, m.owner = t.fqn) ∧ (∀ x ∈ xs, x.owner = t.fqn) ∧
      ∀ d ∈ ds, d.source = t.fqn ∧ d.target ≠ t.fqn ∧ d.file = r.path ∧
        (d.via = .imported ∧ t.topLevel = true ∧ d.target ∈ imported ∨
          d.via = .field ∧ ∃ ty, ix.resolveFieldType ty = .resolved d.target) := by
  unfold addType
  dsimp only
  set r1 : FileRecords := { r with
    types := r.types ++ [⟨t.fqn, t.header.name, file.path, file.fileHash⟩]
    extended := r.extended ++ t.header.extended.map fun s => (t.fqn, s)
    implemented := r.implemented ++ t.header.implemented.map fun s => (t.fqn, s) } with hr1
  obtain ⟨ds1, h1, hds1⟩ := importDeps_eq t.fqn t.topLevel imported r1
  rw [h1]
  generalize directMembers t.members = dm
  obtain ⟨ms, fs⟩ := dm
  dsimp only
  obtain ⟨xs, ds2, res, h2, hxs, hds2⟩ := foldl_addField ix t.fqn fs
    { r1 with dependencies := r1.dependencies ++ ds1
              methods := r1.methods ++ ms.map fun m => MethodRecord.ofDecl m t.fqn file.path }
  refine ⟨ms.map fun m => MethodRecord.ofDecl m t.fqn file.path, xs, ds1 ++ ds2, res,
    by rw [h2, hr1]; simp, ?_, hxs, ?_⟩
  · simp [MethodRecord.ofDecl]
  · simp only [List.mem_append]
    rintro d (hd | hd)
    · obtain ⟨hs, ht, hf, hv, htop, hi⟩ := hds1 d hd
      exact ⟨hs, ht, hf, Or.inl ⟨hv, htop, hi⟩⟩
    · obtain ⟨hs, ht, hv, hf, hty⟩ := hds2 d hd
      exact ⟨hs, ht, hf, Or.inr ⟨hv, hty⟩⟩

/-- What the records of a file say, against the types `found` of the file handled so far: one
type record per found type, every member and supertype pair owned by a found type, and every
dependency from a found type, in the file, to another indexed type. -/
structure Sound (ix : TypeIndex) (file : ReadFile) (found : List FoundType) (r : FileRecords) :
    Prop where
  path : r.path = file.path
  degraded : r.degraded = file.reading.degraded
  types : r.types = found.map fun t => ⟨t.fqn, t.header.name, file.path, file.fileHash⟩
  method_owner : ∀ m ∈ r.methods, m.owner ∈ found.map (·.fqn)
  field_owner : ∀ x ∈ r.fields, x.owner ∈ found.map (·.fqn)
  dependency : ∀ d ∈ r.dependencies, d.file = file.path ∧ d.source ≠ d.target ∧
    d.target ∈ ix.fqns ∧ ∃ t ∈ found, t.fqn = d.source ∧
      (d.via = .imported ∧ t.topLevel = true ∨ d.via = .field)
  extended : ∀ p ∈ r.extended, ∃ t ∈ found, t.fqn = p.1 ∧ p.2 ∈ t.header.extended
  implemented : ∀ p ∈ r.implemented, ∃ t ∈ found, t.fqn = p.1 ∧ p.2 ∈ t.header.implemented

lemma Sound.addType {ix : TypeIndex} {file : ReadFile} {found : List FoundType} {r : FileRecords}
    {imported : List String} (h : Sound ix file found r) (hix : ix.Closed)
    (himp : ∀ x ∈ imported, x ∈ ix.fqns) (t : FoundType) :
    Sound ix file (found ++ [t]) (r.addType ix file imported t) := by
  obtain ⟨ms, xs, ds, res, he, hms, hxs, hds⟩ := addType_eq ix file imported r t
  rw [he]
  -- what was owned by a found type still is
  have grow : ∀ {c : String}, c ∈ found.map (·.fqn) → c ∈ (found ++ [t]).map (·.fqn) := by
    intro c hc
    simp only [List.map_append, List.mem_append]
    exact Or.inl hc
  have self : t.fqn ∈ (found ++ [t]).map (·.fqn) := by simp
  constructor
  case path => exact h.path
  case degraded => exact h.degraded
  case types => simp [h.types]
  case method_owner =>
    intro m hm
    rcases List.mem_append.mp hm with hm | hm
    · exact grow (h.method_owner m hm)
    · exact hms m hm ▸ self
  case field_owner =>
    intro x hx
    rcases List.mem_append.mp hx with hx | hx
    · exact grow (h.field_owner x hx)
    · exact hxs x hx ▸ self
  case dependency =>
    intro d hd
    rcases List.mem_append.mp hd with hd | hd
    · obtain ⟨hf, hne, hix', t', ht', hsrc, hvia⟩ := h.dependency d hd
      exact ⟨hf, hne, hix', t', List.mem_append_left _ ht', hsrc, hvia⟩
    · obtain ⟨hsrc, hne, hf, hvia⟩ := hds d hd
      refine ⟨hf.trans h.path, fun heq => hne (heq.symm.trans hsrc), ?_, t,
        List.mem_append_right _ (List.mem_singleton_self t), hsrc.symm, ?_⟩
      · rcases hvia with ⟨-, -, hi⟩ | ⟨-, ty, hr⟩
        · exact himp _ hi
        · exact hix.resolveFieldType hr
      · rcases hvia with ⟨hv, htop, -⟩ | ⟨hv, -⟩
        · exact Or.inl ⟨hv, htop⟩
        · exact Or.inr hv
  case extended =>
    intro p hp
    rcases List.mem_append.mp hp with hp | hp
    · obtain ⟨t', ht', h1, h2⟩ := h.extended p hp
      exact ⟨t', List.mem_append_left _ ht', h1, h2⟩
    · obtain ⟨s, hs, rfl⟩ := List.mem_map.mp hp
      exact ⟨t, List.mem_append_right _ (List.mem_singleton_self t), rfl, hs⟩
  case implemented =>
    intro p hp
    rcases List.mem_append.mp hp with hp | hp
    · obtain ⟨t', ht', h1, h2⟩ := h.implemented p hp
      exact ⟨t', List.mem_append_left _ ht', h1, h2⟩
    · obtain ⟨s, hs, rfl⟩ := List.mem_map.mp hp
      exact ⟨t, List.mem_append_right _ (List.mem_singleton_self t), rfl, hs⟩

lemma Sound.foldl_addType {ix : TypeIndex} {file : ReadFile} {found : List FoundType}
    {r : FileRecords} {imported : List String} (h : Sound ix file found r) (hix : ix.Closed)
    (himp : ∀ x ∈ imported, x ∈ ix.fqns) (ts : List FoundType) :
    Sound ix file (found ++ ts) (ts.foldl (FileRecords.addType ix file imported) r) := by
  induction ts generalizing found r with
  | nil => simpa using h
  | cons t ts ih => simpa using ih (h.addType hix himp t)

lemma Sound.fqns {ix : TypeIndex} {file : ReadFile} {found : List FoundType} {r : FileRecords}
    (h : Sound ix file found r) : r.types.map (·.fqn) = found.map (·.fqn) := by
  rw [h.types, List.map_map]
  rfl

end FileRecords

lemma mem_fqns_of_resolved_imports {ix : TypeIndex} (hix : ix.Closed) (imports : List Outline.Import)
    (acc : List String × ResolutionCounts) (hacc : ∀ x ∈ acc.1, x ∈ ix.fqns) :
    ∀ x ∈ (imports.foldl (fun (acc : List String × ResolutionCounts) i =>
      match ix.resolveImport i with
      | .resolved fqn => (acc.1 ++ [fqn], { acc.2 with importsResolved := acc.2.importsResolved + 1 })
      | .unresolved _ => (acc.1, { acc.2 with importsUnresolved := acc.2.importsUnresolved + 1 }))
      acc).1, x ∈ ix.fqns := by
  induction imports generalizing acc with
  | nil => exact hacc
  | cons i is ih =>
    apply ih
    intro x hx
    dsimp only at hx
    split at hx
    · next fqn hr =>
      rcases List.mem_append.mp hx with hx | hx
      · exact hacc x hx
      · exact List.mem_singleton.mp hx ▸ hix.resolveImport hr
    · exact hacc x hx

lemma records_sound {ix : TypeIndex} (hix : ix.Closed) (file : ReadFile) :
    FileRecords.Sound ix file file.reading.unit.types (file.records ix) := by
  unfold ReadFile.records
  dsimp only
  have himp := mem_fqns_of_resolved_imports hix file.reading.unit.imports ([], {}) (by simp)
  nth_rewrite 1 [← List.nil_append file.reading.unit.types]
  refine FileRecords.Sound.foldl_addType ?_ hix himp _
  exact ⟨rfl, rfl, rfl, by simp, by simp, by simp, by simp, by simp⟩

section Assembled

variable (project repo : String) (files : List ReadFile)

lemma tracks_ofFiles : ∃ a : Assembly, Snapshot.ofFiles project repo files = a.graph ∧
    a.Tracks (files.map (·.records (TypeIndex.ofFiles files))) := by
  refine ⟨files.foldl (fun a f => a.add (f.records (TypeIndex.ofFiles files)))
    (Assembly.start project repo .grammar), rfl, ?_⟩
  have h := Assembly.tracks_foldl [] (files.map (·.records (TypeIndex.ofFiles files)))
    (Assembly.tracks_start project repo .grammar)
  rw [List.foldl_map, List.nil_append] at h
  exact h

lemma sound_of_mem_records {r : FileRecords}
    (hr : r ∈ files.map (·.records (TypeIndex.ofFiles files))) :
    ∃ f ∈ files, r = f.records (TypeIndex.ofFiles files) ∧
      FileRecords.Sound (TypeIndex.ofFiles files) f f.reading.unit.types r := by
  obtain ⟨f, hf, rfl⟩ := List.mem_map.mp hr
  exact ⟨f, hf, rfl, records_sound (TypeIndex.closed_ofFiles files) f⟩

lemma get?_types_ofFiles (k : String) :
    (Snapshot.ofFiles project repo files).types.get? k =
      files.findSome? fun f => (f.reading.unit.types.find? (·.fqn == k)).map
        fun t => ⟨t.fqn, t.header.name, f.path, f.fileHash⟩ := by
  obtain ⟨a, hg, ht⟩ := tracks_ofFiles project repo files
  rw [hg, ht.types_first, List.find?_flatMap, List.findSome?_map]
  congr 1
  funext f
  rw [Function.comp_apply, (records_sound (TypeIndex.closed_ofFiles files) f).types, List.find?_map]
  rfl

lemma mem_keys_types_ofFiles (k : String) :
    k ∈ (Snapshot.ofFiles project repo files).types.keys ↔
      k ∈ (TypeIndex.ofFiles files).fqns := by
  rw [← KeyMap.get?_isSome_iff, get?_types_ofFiles, List.findSome?_isSome_iff,
    TypeIndex.mem_fqns_ofFiles]
  simp [List.find?_isSome]

lemma keyed_ofFiles {k : String} {rec : TypeRecord}
    (h : (Snapshot.ofFiles project repo files).types.get? k = some rec) : rec.fqn = k := by
  rw [get?_types_ofFiles] at h
  obtain ⟨-, f, -, -, hf, -⟩ := List.findSome?_eq_some_iff.mp h
  obtain ⟨ft, hft, rfl⟩ := Option.map_eq_some_iff.mp hf
  simpa using List.find?_some hft

lemma mem_keys_of_declared {f : ReadFile} (hf : f ∈ files) {c : String}
    (hc : c ∈ f.reading.unit.types.map (·.fqn)) :
    c ∈ (Snapshot.ofFiles project repo files).types.keys :=
  (mem_keys_types_ofFiles project repo files c).mpr ((TypeIndex.mem_fqns_ofFiles files c).mpr ⟨f, hf, hc⟩)

lemma owner_mem_keys {β : Type} (sel : FileRecords → List β) (owner : β → String)
    (hsel : ∀ f r, FileRecords.Sound (TypeIndex.ofFiles files) f f.reading.unit.types r →
      ∀ x ∈ sel r, owner x ∈ f.reading.unit.types.map (·.fqn))
    {x : β} (hx : x ∈ (files.map (·.records (TypeIndex.ofFiles files))).flatMap sel) :
    owner x ∈ (Snapshot.ofFiles project repo files).types.keys := by
  obtain ⟨r, hr, hxr⟩ := List.mem_flatMap.mp hx
  obtain ⟨f, hf, rfl, hs⟩ := sound_of_mem_records files hr
  exact mem_keys_of_declared project repo files hf (hsel f _ hs x hxr)

lemma members_owned_ofFiles :
    (∀ m ∈ (Snapshot.ofFiles project repo files).methods,
      m.owner ∈ (Snapshot.ofFiles project repo files).types.keys) ∧
    (∀ x ∈ (Snapshot.ofFiles project repo files).fields,
      x.owner ∈ (Snapshot.ofFiles project repo files).types.keys) := by
  obtain ⟨a, hg, ht⟩ := tracks_ofFiles project repo files
  constructor
  · intro m hm
    rw [hg, ht.methods_first] at hm
    exact owner_mem_keys project repo files (·.methods) (·.owner) (fun _ _ hs => hs.method_owner)
      ((Assembly.eraseDupsBy_sublist _ _).subset hm)
  · intro x hx
    rw [hg, ht.fields_first] at hx
    exact owner_mem_keys project repo files (·.fields) (·.owner) (fun _ _ hs => hs.field_owner)
      ((Assembly.eraseDupsBy_sublist _ _).subset hx)

lemma dependency_ofFiles {d : Dependency} (hd : d ∈ (Snapshot.ofFiles project repo files).dependencies) :
    d.source ∈ (Snapshot.ofFiles project repo files).types.keys ∧
    d.target ∈ (Snapshot.ofFiles project repo files).types.keys ∧ d.source ≠ d.target ∧
    ((Snapshot.ofFiles project repo files).types.get? d.source).map (·.file) = some d.file ∧
    ∃ f ∈ files, f.path = d.file ∧ ∃ ft ∈ f.reading.unit.types, ft.fqn = d.source ∧
      (d.via = .imported ∧ ft.topLevel = true ∨ d.via = .field) := by
  obtain ⟨a, hg, ht⟩ := tracks_ofFiles project repo files
  obtain ⟨r, hr, hdr, hanchor⟩ := ht.deps_from d (hg ▸ hd)
  obtain ⟨f, hf, rfl, hs⟩ := sound_of_mem_records files hr
  obtain ⟨hfile, hne, htarget, ft, hft, hsrc, hvia⟩ := hs.dependency d hdr
  have hdeclared : d.source ∈ f.reading.unit.types.map (·.fqn) := hsrc ▸ List.mem_map_of_mem hft
  -- the source is a type of the file, so the assembly kept the file's claim on it
  obtain ⟨rec, hrec, hrecfile⟩ := hanchor (hs.fqns ▸ hdeclared)
  refine ⟨mem_keys_of_declared project repo files hf hdeclared,
    (mem_keys_types_ofFiles project repo files _).mpr htarget, hne, ?_,
    f, hf, hfile.symm, ft, hft, hsrc, hvia⟩
  rw [hg, hrec, Option.map_some, hrecfile]

lemma pair_anchored {a : Assembly} (hg : Snapshot.ofFiles project repo files = a.graph)
    (sel : FileRecords → List (String × String)) (hdr : Outline.TypeHeader → List String)
    (p : String × String)
    (hfrom : ∃ r ∈ files.map (·.records (TypeIndex.ofFiles files)), p ∈ sel r ∧
      (p.1 ∈ r.types.map (·.fqn) → ∃ t, a.graph.types.get? p.1 = some t ∧ t.file = r.path))
    (hsound : ∀ f : ReadFile, ∀ q ∈ sel (f.records (TypeIndex.ofFiles files)),
      ∃ ft ∈ f.reading.unit.types, ft.fqn = q.1 ∧ q.2 ∈ hdr ft.header) :
    p.1 ∈ (Snapshot.ofFiles project repo files).types.keys ∧ ∃ f ∈ files,
      ((Snapshot.ofFiles project repo files).types.get? p.1).map (·.file) = some f.path ∧
      ∃ ft ∈ f.reading.unit.types, ft.fqn = p.1 ∧ p.2 ∈ hdr ft.header := by
  obtain ⟨r, hr, hpr, hanchor⟩ := hfrom
  obtain ⟨f, hf, rfl, hs⟩ := sound_of_mem_records files hr
  obtain ⟨ft, hft, hfqn, hp2⟩ := hsound f p hpr
  have hdeclared : p.1 ∈ f.reading.unit.types.map (·.fqn) := hfqn ▸ List.mem_map_of_mem hft
  obtain ⟨rec, hrec, hrecfile⟩ := hanchor (hs.fqns ▸ hdeclared)
  refine ⟨mem_keys_of_declared project repo files hf hdeclared, f, hf, ?_, ft, hft, hfqn, hp2⟩
  rw [hg, hrec, Option.map_some, hrecfile, hs.path]

end Assembled

/-- Every hash the scan gave a file that reads is that of the bytes it reads. -/
def ScanResult.HashesRead (t : FileTree) (root : List String) (scanned : ScanResult) : Prop :=
  ∀ sf ∈ scanned.files, ∀ h bytes, sf.hash = some h →
    t.read (root ++ FileTree.components sf.path) = .ok bytes → h = Hash.contentHash bytes

def grammarReads (t : FileTree) (root : List String) (sf : ScannedFile) : Bool :=
  match t.read (root ++ FileTree.components sf.path) with
  | .ok bytes => (Java.readSource (Text.decodeLossy bytes)).isOk
  | .error _ => false

section Reading

variable (t : FileTree) (root : List String) (sf : ScannedFile)

@[simp] lemma path_readFile : (readFile t root sf).path = sf.path := by
  unfold readFile
  split <;> rfl

lemma readFile_of_ok {bytes : ByteArray}
    (h : t.read (root ++ FileTree.components sf.path) = .ok bytes) :
    readFile t root sf =
      ⟨sf.path, sf.hash.getD (Hash.contentHash bytes), Java.read (Text.decodeLossy bytes) sf.path⟩ := by
  simp [readFile, h]

lemma exists_read_of_mem_types {ft : FoundType} (hft : ft ∈ (readFile t root sf).reading.unit.types) :
    ∃ bytes, t.read (root ++ FileTree.components sf.path) = .ok bytes ∧
      readFile t root sf =
        ⟨sf.path, sf.hash.getD (Hash.contentHash bytes), Java.read (Text.decodeLossy bytes) sf.path⟩ := by
  cases hr : t.read (root ++ FileTree.components sf.path) with
  | ok bytes => exact ⟨bytes, rfl, readFile_of_ok t root sf hr⟩
  | error e =>
    -- a file that fails to read has the empty outline
    simp [readFile, hr, Reading.failed, Outline.Unit.types, Outline.Unit.empty, typesIn] at hft

lemma degraded_readFile : (readFile t root sf).reading.degraded = !grammarReads t root sf := by
  unfold readFile grammarReads
  cases t.read (root ++ FileTree.components sf.path) with
  | ok bytes =>
    dsimp only
    unfold Java.read
    cases Java.readSource (Text.decodeLossy bytes) <;> rfl
  | error e => rfl

lemma fileHash_readFile {scanned : ScanResult} (hashes : scanned.HashesRead t root)
    (hsf : sf ∈ scanned.files) {bytes : ByteArray}
    (h : t.read (root ++ FileTree.components sf.path) = .ok bytes) :
    (readFile t root sf).fileHash = Hash.contentHash bytes := by
  rw [readFile_of_ok t root sf h]
  cases hh : sf.hash with
  | none => rfl
  | some x => exact hashes sf hsf x bytes hh h

end Reading

/-- What a snapshot `g` extracted from the scanned files of `root` holds. -/
structure ExtractedFrom (t : FileTree) (root : List String) (scanned : ScanResult) (g : Snapshot) :
    Prop where
  keyed : ∀ k rec, g.types.get? k = some rec → rec.fqn = k
  indexed : ∀ k, k ∈ g.types.keys ↔ k ∈ (TypeIndex.ofFiles (readFiles t root scanned)).fqns
  /-- Each type comes from the first scanned file declaring it, with the hash of its bytes. -/
  first_declared : ∀ k rec, g.types.get? k = some rec → ∃ pre sf post bytes ft,
    scanned.files = pre ++ sf :: post ∧
    (∀ sf' ∈ pre, ∀ ft' ∈ (readFile t root sf').reading.unit.types, ft'.fqn ≠ k) ∧
    t.read (root ++ FileTree.components sf.path) = .ok bytes ∧
    (Java.read (Text.decodeLossy bytes) sf.path).unit.types.find? (·.fqn == k) = some ft ∧
    rec = ⟨k, ft.header.name, sf.path, Hash.contentHash bytes⟩
  method_owned : ∀ m ∈ g.methods, m.owner ∈ g.types.keys
  field_owned : ∀ x ∈ g.fields, x.owner ∈ g.types.keys
  /-- A dependency joins two types, sits in its source's file, and goes through an import only
  from a type at the top of that file. -/
  dependency : ∀ d ∈ g.dependencies, d.source ∈ g.types.keys ∧ d.target ∈ g.types.keys ∧
    d.source ≠ d.target ∧ (d.via = .imported ∨ d.via = .field) ∧
    (g.types.get? d.source).map (·.file) = some d.file ∧
    (d.via = .imported → ∃ sf ∈ scanned.files, sf.path = d.file ∧
      ∃ ft ∈ (readFile t root sf).reading.unit.types, ft.fqn = d.source ∧ ft.topLevel = true)
  dependencies_nodup : (g.dependencies.map (·.ident)).Nodup
  extended : ∀ p ∈ g.extended, p.1 ∈ g.types.keys ∧ ∃ sf ∈ scanned.files,
    (g.types.get? p.1).map (·.file) = some sf.path ∧
    ∃ ft ∈ (readFile t root sf).reading.unit.types, ft.fqn = p.1 ∧ p.2 ∈ ft.header.extended
  extended_nodup : g.extended.Nodup
  implemented : ∀ p ∈ g.implemented, p.1 ∈ g.types.keys ∧ ∃ sf ∈ scanned.files,
    (g.types.get? p.1).map (·.file) = some sf.path ∧
    ∃ ft ∈ (readFile t root sf).reading.unit.types, ft.fqn = p.1 ∧ p.2 ∈ ft.header.implemented
  implemented_nodup : g.implemented.Nodup
  file_count : g.stats.fileCount = scanned.files.length
  error_count : g.stats.parseErrorCount = scanned.files.countP (!grammarReads t root ·)

lemma first_declared_readFiles {t : FileTree} {root : List String} {scanned : ScanResult}
    (project repo : String) (hashes : scanned.HashesRead t root) {k : String} {rec : TypeRecord}
    (h : (Snapshot.ofFiles project repo (readFiles t root scanned)).types.get? k = some rec) :
    ∃ pre sf post bytes ft, scanned.files = pre ++ sf :: post ∧
      (∀ sf' ∈ pre, ∀ ft' ∈ (readFile t root sf').reading.unit.types, ft'.fqn ≠ k) ∧
      t.read (root ++ FileTree.components sf.path) = .ok bytes ∧
      (Java.read (Text.decodeLossy bytes) sf.path).unit.types.find? (·.fqn == k) = some ft ∧
      rec = ⟨k, ft.header.name, sf.path, Hash.contentHash bytes⟩ := by
  rw [get?_types_ofFiles, readFiles, List.findSome?_map] at h
  obtain ⟨pre, sf, post, hsplit, hsf, hpre⟩ := List.findSome?_eq_some_iff.mp h
  rw [Function.comp_apply] at hsf
  obtain ⟨ft, hft, rfl⟩ := Option.map_eq_some_iff.mp hsf
  obtain ⟨bytes, hread, hfile⟩ := exists_read_of_mem_types t root sf (List.mem_of_find?_eq_some hft)
  have hk : ft.fqn = k := by simpa using List.find?_some hft
  have hmem : sf ∈ scanned.files := hsplit ▸ List.mem_append_right _ List.mem_cons_self
  refine ⟨pre, sf, post, bytes, ft, hsplit, ?_, hread, ?_, ?_⟩
  · -- no earlier file declares the name, or the search would have stopped there
    intro sf' hsf' ft' hft' heq
    have hnone := hpre sf' hsf'
    simp only [Function.comp_apply, Option.map_eq_none_iff, List.find?_eq_none] at hnone
    exact hnone ft' hft' (by simp [heq])
  · rw [hfile] at hft
    exact hft
  · rw [← hk, fileHash_readFile t root sf hashes hmem hread, path_readFile]

/-- Extraction gives a snapshot keyed by the names the first pass indexed, each type from the
first scanned file declaring it with the hash of its bytes, every member owned by one of its
types, every dependency and supertype pair anchored in the file of its type and none repeated;
every scanned file is counted, and counted as an error when it cannot be read or the grammar
refuses it. -/
theorem extraction_sound (t : FileTree) (root : List String) (scanned : ScanResult)
    (project repo : String) (hashes : scanned.HashesRead t root) :
    ExtractedFrom t root scanned (Snapshot.ofFiles project repo (readFiles t root scanned)) := by
  obtain ⟨a, hg, ht⟩ := tracks_ofFiles project repo (readFiles t root scanned)
  have hread : ∀ {f}, f ∈ readFiles t root scanned → ∃ sf ∈ scanned.files, readFile t root sf = f :=
    fun hf => List.mem_map.mp hf
  have hsound := fun f => records_sound (TypeIndex.closed_ofFiles (readFiles t root scanned)) f
  constructor
  case keyed => exact fun k rec h => keyed_ofFiles project repo _ h
  case indexed => exact mem_keys_types_ofFiles project repo _
  case first_declared => exact fun k rec h => first_declared_readFiles project repo hashes h
  case method_owned => exact (members_owned_ofFiles project repo _).1
  case field_owned => exact (members_owned_ofFiles project repo _).2
  case dependency =>
    intro d hd
    obtain ⟨hsrc, htgt, hne, hfile, f, hf, hpath, ft, hft, hfqn, hvia⟩ :=
      dependency_ofFiles project repo _ hd
    obtain ⟨sf, hsf, rfl⟩ := hread hf
    refine ⟨hsrc, htgt, hne, hvia.imp And.left id, hfile,
      fun himp => ⟨sf, hsf, by simpa using hpath, ft, hft, hfqn, ?_⟩⟩
    rcases hvia with ⟨-, htop⟩ | hv
    · exact htop
    · rw [hv] at himp
      cases himp
  case dependencies_nodup => rw [hg]; exact ht.edges_nodup
  case extended =>
    intro p hp
    obtain ⟨hkey, f, hf, hfile, hdecl⟩ := pair_anchored project repo _ hg (·.extended) (·.extended) p
      (ht.extended_from p (hg ▸ hp)) fun f => (hsound f).extended
    obtain ⟨sf, hsf, rfl⟩ := hread hf
    exact ⟨hkey, sf, hsf, by simpa using hfile, hdecl⟩
  case extended_nodup => rw [hg]; exact ht.extended_nodup
  case implemented =>
    intro p hp
    obtain ⟨hkey, f, hf, hfile, hdecl⟩ := pair_anchored project repo _ hg (·.implemented)
      (·.implemented) p (ht.implemented_from p (hg ▸ hp)) fun f => (hsound f).implemented
    obtain ⟨sf, hsf, rfl⟩ := hread hf
    exact ⟨hkey, sf, hsf, by simpa using hfile, hdecl⟩
  case implemented_nodup => rw [hg]; exact ht.implemented_nodup
  case file_count => rw [hg, ht.file_count, List.length_map, readFiles, List.length_map]
  case error_count =>
    rw [hg, ht.error_count, List.countP_map]
    calc _ = (readFiles t root scanned).countP (·.reading.degraded) :=
          List.countP_congr fun f _ => by simp [(hsound f).degraded]
      _ = _ := by
          rw [readFiles, List.countP_map]
          exact List.countP_congr fun sf _ => by simp [degraded_readFile]

lemma hashesRead_collect {t : FileTree} {start : List String} {opts : ScanOptions}
    {paths : List (List String)} (hb : ∀ w ∈ paths, Scan.Below start w) :
    (Scan.collect t start opts paths).HashesRead t start := by
  intro sf hsf h bytes hh hread
  obtain ⟨bytes', hread', rfl⟩ := Scan.hash_of_mem_collect hb hsf hh
  rw [hread] at hread'
  cases hread'
  rfl

lemma hashesRead_scan {t : FileTree} {root : List String} {opts : ScanOptions} {r : ScanResult}
    (hroot : t.resolve root = .ok root) (h : scan t root opts = .ok r) : r.HashesRead t root := by
  obtain ⟨depth, rules, rfl⟩ := Scan.scan_eq_collect hroot h
  exact hashesRead_collect fun w hw => Scan.below_reach t opts depth rules [root] root w hw

theorem extraction_sound_hashed :
    let t : FileTree := ⟨KeyMap.ofList [("p/A.java", .file "class A {}".toUTF8)]⟩
    let scanned := Scan.collect t ["p"] {} [["p", "A.java"]]
    scanned.files.map (·.hash) = [some (Hash.contentHash "class A {}".toUTF8)] ∧
      scanned.HashesRead t ["p"] ∧
      ExtractedFrom t ["p"] scanned (Snapshot.ofFiles "shop" "main" (readFiles t ["p"] scanned)) := by
  intro t scanned
  have hashes : scanned.HashesRead t ["p"] := by
    refine hashesRead_collect fun w hw => ?_
    rw [List.mem_singleton.1 hw]
    exact Scan.below_snoc (by decide)
  refine ⟨?_, hashes, extraction_sound t ["p"] scanned "shop" "main" hashes⟩
  -- the scan looks at the file, reads it and hashes its bytes
  have hread : t.read ["p", "A.java"] = .ok "class A {}".toUTF8 := by
    simp [t, FileTree.read, FileTree.kindAt, FileTree.resolve, FileTree.walk, FileTree.nodeAt]
    rfl
  have hsize : t.size ["p", "A.java"] = .ok 10 := by
    simp [t, FileTree.size, FileTree.kindAt, FileTree.resolve, FileTree.walk, FileTree.nodeAt]
    rfl
  have hvisit : Scan.visit t ["p"] {} ["p", "A.java"] =
      .listed ⟨"A.java", 10, some (Hash.contentHash "class A {}".toUTF8), 0⟩ := by
    have hkeeps : Scan.keeps (Scan.wanted {}) "A.java" = true := by decide
    simp [Scan.visit, hsize, hread, hkeeps]
    rfl
  simp only [scanned, Scan.collect, List.map_cons, List.map_nil, hvisit]
  simp [Scan.Outcome.file?]

end CodeGraph
