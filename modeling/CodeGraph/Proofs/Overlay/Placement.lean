import Mathlib
import CodeGraph.Proofs.Overlay.Lookup
import CodeGraph.Proofs.Extraction

/-! Where the markers of an overlay place their entities: each side's file comes from that side's
locator, and line ranges only in pairs, from methods whose two records know their lines. -/

namespace CodeGraph

open KeyMap

section Locating

variable {α : Type} (locL locR : α → Location)

/-- What a marker says of the records `lo` and `ro` of its key on the two sides, each side
located by its own locator. -/
structure Located (lo ro : Option α) (m : Marker) : Prop where
  left_file : m.leftFile = lo.bind fun l => (locL l).file
  right_file : m.rightFile = ro.bind fun r => (locR r).file
  left_range : ∀ a, m.leftRange = some a → ∃ l, lo = some l ∧ (locL l).range = some a
  right_range : ∀ b, m.rightRange = some b → ∃ r, ro = some r ∧ (locR r).range = some b
  ranges_both : m.leftRange.isSome ↔ m.rightRange.isSome
  ranged : ∀ l, lo = some l → ∀ r, ro = some r → ∀ a, (locL l).range = some a →
    ∀ b, (locR r).range = some b → m.leftRange = some a ∧ m.rightRange = some b
  aligned : m.status = .unchanged ∨ m.status = .changed ↔ lo.isSome ∧ ro.isSome
  removed : m.status = .removed → ro = none
  added : m.status = .added → lo = none

lemma alignEntry_located (overlay : String) (kind : EntityKind) (same : α → α → Bool)
    {k : String} {lo ro : Option α} {m : Marker}
    (h : (alignEntry overlay kind same locL locR k lo ro).2 = some m) : Located locL locR lo ro m := by
  cases lo with
  | none =>
    cases ro with
    | none => cases h
    | some r =>
      simp only [alignEntry, Option.some.injEq] at h
      subst h
      constructor <;> simp
  | some l =>
    cases ro with
    | none =>
      simp only [alignEntry, Option.some.injEq] at h
      subst h
      constructor <;> simp
    | some r =>
      simp only [alignEntry, Option.some.injEq] at h
      subst h
      -- the two ranges are kept together or dropped together
      cases hl : (locL l).range <;> cases hr : (locR r).range <;>
        constructor <;> cases same l r <;> simp [hl, hr]

lemma located_alignKind (key : α → String) (overlay : String) (kind : EntityKind)
    (same : α → α → Bool) (ls rs : List α) {m : Marker}
    (hm : m ∈ (alignKind overlay kind (byKey key ls) (byKey key rs) same locL locR).2) :
    m.kind = kind ∧
      Located locL locR (ls.find? (key · == m.key)) (rs.find? (key · == m.key)) m := by
  obtain ⟨⟨k, lo, ro⟩, he, hm⟩ := (mem_markers_alignKind overlay kind same locL locR).mp hm
  obtain ⟨rfl, rfl, -⟩ := mem_pairUp.mp he
  obtain ⟨-, hkind, hkey⟩ := alignEntry_of_eq_some overlay kind same locL locR hm
  refine ⟨hkind, ?_⟩
  rw [hkey, ← get?_byKey, ← get?_byKey]
  exact alignEntry_located locL locR overlay kind same hm

end Locating

structure PlacedOn (g : Snapshot) (kind : EntityKind) (key : String) (file : Option String)
    (range : Option LineRange) : Prop where
  type_file : kind = .type → ∀ t, g.types.values.find? (·.fqn == key) = some t →
    file = some t.file
  method_file : kind = .method → ∀ r, g.methods.find? (·.key == key) = some r →
    file = r.file.or ((g.types.get? r.owner).map (·.file))
  field_file : kind = .field → ∀ f, g.fields.find? (·.key == key) = some f →
    file = (g.types.get? f.owner).map (·.file)
  range_lines : ∀ a, range = some a → kind = .method ∧ ∃ r, g.methods.find? (·.key == key) = some r ∧
    r.beginLine = some a.first ∧ r.endLine = some a.last ∧ 1 ≤ a.first ∧ a.first ≤ a.last

/-- What a marker of an overlay of `left` and `right` says of where its entity lives: each side
as `PlacedOn` says; a range on one side exactly when on the other, and then the entity is on
both; no right file when removed, no left file when added. -/
structure Marker.Placed (left right : Snapshot) (m : Marker) : Prop where
  left_side : PlacedOn left m.kind m.key m.leftFile m.leftRange
  right_side : PlacedOn right m.kind m.key m.rightFile m.rightRange
  ranges_both : m.leftRange.isSome ↔ m.rightRange.isSome
  ranged_aligned : m.leftRange.isSome → m.status = .unchanged ∨ m.status = .changed
  removed_no_right : m.status = .removed → m.rightFile = none
  added_no_left : m.status = .added → m.leftFile = none

lemma lineRange_eq_some {r : MethodRecord} {b e : ℕ} (h : r.lineRange = some (b, e)) :
    r.beginLine = some b ∧ r.endLine = some e ∧ 1 ≤ b ∧ b ≤ e := by
  unfold MethodRecord.lineRange at h
  split at h
  · next b' e' hb he =>
    split_ifs at h with hle
    cases h
    simp only [Bool.and_eq_true, decide_eq_true_eq] at hle
    exact ⟨hb, he, hle.1, hle.2⟩
  · cases h

lemma Located.placed {α : Type} {locL locR : α → Location} {lo ro : Option α} {m : Marker}
    {left right : Snapshot} (h : Located locL locR lo ro m)
    (hl : PlacedOn left m.kind m.key m.leftFile m.leftRange)
    (hr : PlacedOn right m.kind m.key m.rightFile m.rightRange) : m.Placed left right where
  left_side := hl
  right_side := hr
  ranges_both := h.ranges_both
  ranged_aligned hs := by
    -- a range on the left comes with one on the right, so the key is on both sides
    obtain ⟨a, ha⟩ := Option.isSome_iff_exists.mp hs
    obtain ⟨b, hb⟩ := Option.isSome_iff_exists.mp (h.ranges_both.mp hs)
    obtain ⟨l, hlo, -⟩ := h.left_range a ha
    obtain ⟨r, hro, -⟩ := h.right_range b hb
    exact h.aligned.mpr ⟨by simp [hlo], by simp [hro]⟩
  removed_no_right hs := by rw [h.right_file, h.removed hs, Option.bind_none]
  added_no_left hs := by rw [h.left_file, h.added hs, Option.bind_none]

section Sides

variable (g : Snapshot) {kind : EntityKind} {key : String} {file : Option String}
  {range : Option LineRange}

lemma placedOn_type (hkind : kind = .type)
    (hfile : file = (g.types.values.find? (·.fqn == key)).bind fun t => some t.file)
    (hrange : range = none) : PlacedOn g kind key file range where
  type_file _ t ht := by rw [hfile, ht, Option.bind_some]
  method_file h := absurd (hkind.symm.trans h) (by decide)
  field_file h := absurd (hkind.symm.trans h) (by decide)
  range_lines a h := absurd (hrange ▸ h) (by simp)

lemma placedOn_method (hkind : kind = .method)
    (hfile : file = (g.methods.find? (·.key == key)).bind fun r => (g.methodLocation r).file)
    (hrange : ∀ a, range = some a → ∃ r, g.methods.find? (·.key == key) = some r ∧
      (g.methodLocation r).range = some a) : PlacedOn g kind key file range where
  type_file h := absurd (hkind.symm.trans h) (by decide)
  method_file _ r hr := by rw [hfile, hr, Option.bind_some]; rfl
  field_file h := absurd (hkind.symm.trans h) (by decide)
  range_lines a h := by
    obtain ⟨r, hr, hloc⟩ := hrange a h
    obtain ⟨⟨b, e⟩, hbe, rfl⟩ := Option.map_eq_some_iff.mp hloc
    exact ⟨hkind, r, hr, lineRange_eq_some hbe⟩

lemma placedOn_field (hkind : kind = .field)
    (hfile : file = (g.fields.find? (·.key == key)).bind fun f => g.ownerFile f.owner)
    (hrange : range = none) : PlacedOn g kind key file range where
  type_file h := absurd (hkind.symm.trans h) (by decide)
  method_file h := absurd (hkind.symm.trans h) (by decide)
  field_file _ f hf := by rw [hfile, hf, Option.bind_some]; rfl
  range_lines a h := absurd (hrange ▸ h) (by simp)

end Sides

lemma range_eq_none {α : Type} {loc : α → Location} (hloc : ∀ x, (loc x).range = none)
    {lo : Option α} {range : Option LineRange}
    (h : ∀ a, range = some a → ∃ x, lo = some x ∧ (loc x).range = some a) : range = none := by
  refine Option.eq_none_iff_forall_ne_some.mpr fun a ha => ?_
  obtain ⟨x, -, hx⟩ := h a ha
  rw [hloc x] at hx
  cases hx

lemma placed_superimpose_none (left right : Snapshot) (sid : String) :
    ∀ m ∈ (superimpose left right sid none).markers, m.Placed left right := by
  obtain ⟨T, M, F, -, hm, hT, hM, hF⟩ := superimpose_parts left right sid
  rw [hm]
  intro m hmem
  simp only [List.mem_append] at hmem
  rcases hmem with (hmem | hmem) | hmem
  · rw [hT] at hmem
    obtain ⟨hk, h⟩ := located_alignKind _ _ TypeRecord.fqn sid .type TypeRecord.same _ _ hmem
    exact h.placed
      (placedOn_type left hk h.left_file (range_eq_none (fun _ => rfl) h.left_range))
      (placedOn_type right hk h.right_file (range_eq_none (fun _ => rfl) h.right_range))
  · rw [hM] at hmem
    obtain ⟨hk, h⟩ := located_alignKind _ _ MethodRecord.key sid .method MethodRecord.same _ _ hmem
    exact h.placed (placedOn_method left hk h.left_file h.left_range)
      (placedOn_method right hk h.right_file h.right_range)
  · rw [hF] at hmem
    obtain ⟨hk, h⟩ := located_alignKind _ _ FieldRecord.key sid .field FieldRecord.same _ _ hmem
    exact h.placed
      (placedOn_field left hk h.left_file (range_eq_none (fun _ => rfl) h.left_range))
      (placedOn_field right hk h.right_file (range_eq_none (fun _ => rfl) h.right_range))

lemma forall_markers_superimpose {P : Marker → Prop}
    (hP : ∀ m d t, P m → P { m with diff := d, truncated := t }) {left right : Snapshot}
    {sid : String} (h : ∀ m ∈ (superimpose left right sid none).markers, P m)
    (sources : Option PatchSources) : ∀ m ∈ (superimpose left right sid sources).markers, P m := by
  cases sources with
  | none => exact h
  | some src =>
    intro m hm
    rw [superimpose_markers_some, attachPatches, List.mem_map] at hm
    obtain ⟨m₀, hm₀, rfl⟩ := hm
    obtain ⟨d, t, he⟩ := m₀.withPatch_eq src
    rw [he]
    exact hP m₀ d t (h m₀ hm₀)

lemma placed_superimpose (left right : Snapshot) (sid : String) (sources : Option PatchSources) :
    ∀ m ∈ (superimpose left right sid sources).markers, m.Placed left right :=
  forall_markers_superimpose (fun _ _ _ ⟨hl, hr, hboth, haligned, hremoved, hadded⟩ =>
    ⟨hl, hr, hboth, haligned, hremoved, hadded⟩) (placed_superimpose_none left right sid) sources

def Marker.SpansLines (left right : Snapshot) (m : Marker) : Prop :=
  ∃ (l r : MethodRecord) (lf rf : String) (a b : LineRange),
    left.methods.find? (·.key == m.key) = some l ∧ right.methods.find? (·.key == m.key) = some r ∧
    l.file = some lf ∧ r.file = some rf ∧
    l.beginLine = some a.first ∧ l.endLine = some a.last ∧
    r.beginLine = some b.first ∧ r.endLine = some b.last ∧
    m.leftFile = some lf ∧ m.rightFile = some rf ∧ m.leftRange = some a ∧ m.rightRange = some b ∧
    ∀ src, m.patch src = rangePatch src lf a rf b

lemma Marker.patch_of_ranges {m : Marker} {lf rf : String} {a b : LineRange}
    (hlf : m.leftFile = some lf) (hrf : m.rightFile = some rf) (ha : m.leftRange = some a)
    (hb : m.rightRange = some b) (src : PatchSources) : m.patch src = rangePatch src lf a rf b := by
  rw [Marker.patch, ha, hb, hlf, hrf]

section Lined

variable {left right : Snapshot}
  (hl : ∀ r ∈ left.methods, r.file.isSome ∧ r.lineRange.isSome)
  (hr : ∀ r ∈ right.methods, r.file.isSome ∧ r.lineRange.isSome)
include hl hr

lemma spansLines_of_located {m : Marker}
    (h : Located left.methodLocation right.methodLocation (left.methods.find? (·.key == m.key))
      (right.methods.find? (·.key == m.key)) m)
    (haligned : m.status = .unchanged ∨ m.status = .changed) : m.SpansLines left right := by
  obtain ⟨hls, hrs⟩ := h.aligned.mp haligned
  obtain ⟨l, hlo⟩ := Option.isSome_iff_exists.mp hls
  obtain ⟨r, hro⟩ := Option.isSome_iff_exists.mp hrs
  obtain ⟨hlf, hll⟩ := hl l (List.mem_of_find?_eq_some hlo)
  obtain ⟨hrf, hrl⟩ := hr r (List.mem_of_find?_eq_some hro)
  obtain ⟨lf, hlf⟩ := Option.isSome_iff_exists.mp hlf
  obtain ⟨rf, hrf⟩ := Option.isSome_iff_exists.mp hrf
  obtain ⟨⟨bl, el⟩, hll⟩ := Option.isSome_iff_exists.mp hll
  obtain ⟨⟨br, er⟩, hrl⟩ := Option.isSome_iff_exists.mp hrl
  obtain ⟨hbl, hel, -, -⟩ := lineRange_eq_some hll
  obtain ⟨hbr, her, -, -⟩ := lineRange_eq_some hrl
  -- a method's location is its own file and its own lines
  obtain ⟨ha, hb⟩ := h.ranged l hlo r hro ⟨bl, el⟩ (by simp [Snapshot.methodLocation, hll])
    ⟨br, er⟩ (by simp [Snapshot.methodLocation, hrl])
  have hLf : m.leftFile = some lf := by simp [h.left_file, hlo, Snapshot.methodLocation, hlf]
  have hRf : m.rightFile = some rf := by simp [h.right_file, hro, Snapshot.methodLocation, hrf]
  exact ⟨l, r, lf, rf, ⟨bl, el⟩, ⟨br, er⟩, hlo, hro, hlf, hrf, hbl, hel, hbr, her, hLf, hRf, ha, hb,
    Marker.patch_of_ranges hLf hRf ha hb⟩

lemma spansLines_superimpose_none (sid : String) :
    ∀ m ∈ (superimpose left right sid none).markers, m.kind = .method →
      (m.status = .unchanged ∨ m.status = .changed) → m.SpansLines left right := by
  obtain ⟨T, M, F, -, hm, hT, hM, hF⟩ := superimpose_parts left right sid
  rw [hm]
  intro m hmem hkind haligned
  -- only the methods' part holds method markers
  simp only [List.mem_append] at hmem
  rcases hmem with (hmem | hmem) | hmem
  · rw [hT] at hmem
    cases hkind.symm.trans (kind_markers_alignKind _ _ _ _ _ m hmem)
  · rw [hM] at hmem
    exact spansLines_of_located hl hr
      (located_alignKind _ _ MethodRecord.key sid .method MethodRecord.same _ _ hmem).2 haligned
  · rw [hF] at hmem
    cases hkind.symm.trans (kind_markers_alignKind _ _ _ _ _ m hmem)

lemma spansLines_superimpose (sid : String) (sources : Option PatchSources) :
    ∀ m ∈ (superimpose left right sid sources).markers, m.kind = .method →
      (m.status = .unchanged ∨ m.status = .changed) → m.SpansLines left right :=
  forall_markers_superimpose (fun _ _ _ h => h) (spansLines_superimpose_none hl hr sid) sources

end Lined

end CodeGraph

namespace CodeGraph

def ReadFile.MethodLinesOrdered (f : ReadFile) : Prop :=
  ∀ t ∈ f.reading.unit.types, ∀ d ∈ (directMembers t.members).1, 1 ≤ d.startLine ∧ d.startLine ≤ d.endLine

lemma methods_addType (ix : TypeIndex) (file : ReadFile) (imported : List String) (r : FileRecords)
    (t : FoundType) :
    (r.addType ix file imported t).methods =
      r.methods ++ (directMembers t.members).1.map (MethodRecord.ofDecl · t.fqn file.path) := by
  unfold FileRecords.addType
  dsimp only
  set r1 : FileRecords := { r with
    types := r.types ++ [⟨t.fqn, t.header.name, file.path, file.fileHash⟩]
    extended := r.extended ++ t.header.extended.map fun s => (t.fqn, s)
    implemented := r.implemented ++ t.header.implemented.map fun s => (t.fqn, s) }
  obtain ⟨ds, h1, -⟩ := FileRecords.importDeps_eq t.fqn t.topLevel imported r1
  rw [h1]
  generalize directMembers t.members = dm
  obtain ⟨ms, fs⟩ := dm
  dsimp only
  obtain ⟨xs, ds', res, h2, -, -⟩ := FileRecords.foldl_addField ix t.fqn fs
    { r1 with dependencies := r1.dependencies ++ ds
              methods := r1.methods ++ ms.map fun m => MethodRecord.ofDecl m t.fqn file.path }
  rw [h2]

lemma methods_records (ix : TypeIndex) (file : ReadFile) :
    (file.records ix).methods = file.reading.unit.types.flatMap
      fun t => (directMembers t.members).1.map (MethodRecord.ofDecl · t.fqn file.path) := by
  unfold ReadFile.records
  dsimp only
  generalize file.reading.unit.types = ts
  -- every type adds its own methods after those of the types before it
  suffices ∀ (r : FileRecords) imported, (ts.foldl (FileRecords.addType ix file imported) r).methods =
      r.methods ++ ts.flatMap fun t => (directMembers t.members).1.map (MethodRecord.ofDecl · t.fqn file.path) by
    rw [this]
    rfl
  induction ts with
  | nil => simp
  | cons t ts ih =>
    intro r imported
    rw [List.foldl_cons, ih, methods_addType, List.flatMap_cons, List.append_assoc]

lemma method_lines_ofFiles (project repo : String) (files : List ReadFile)
    (hlines : ∀ f ∈ files, f.MethodLinesOrdered) :
    ∀ m ∈ (Snapshot.ofFiles project repo files).methods, m.file.isSome ∧ m.lineRange.isSome := by
  intro m hm
  obtain ⟨a, hg, ht⟩ := tracks_ofFiles project repo files
  rw [hg, ht.methods_first] at hm
  obtain ⟨r, hr, hmr⟩ := List.mem_flatMap.mp ((Assembly.eraseDupsBy_sublist _ _).subset hm)
  obtain ⟨f, hf, rfl⟩ := List.mem_map.mp hr
  rw [methods_records] at hmr
  obtain ⟨t, htf, hmt⟩ := List.mem_flatMap.mp hmr
  obtain ⟨d, hd, rfl⟩ := List.mem_map.mp hmt
  obtain ⟨hpos, hle⟩ := hlines f hf t htf d hd
  refine ⟨rfl, ?_⟩
  simp [MethodRecord.ofDecl, MethodRecord.lineRange, hle]
  omega

/-- Where the markers of an overlay place their entities: every marker as `Marker.Placed` says;
and between two snapshots read by the grammar, whose reader gives every method its lines in
order, every method present on both sides is marked with both files and both declared ranges,
so that its patch compares exactly those lines. -/
theorem superimpose_places_markers :
    (∀ (left right : Snapshot) (sid : String) (sources : Option PatchSources),
      ∀ m ∈ (superimpose left right sid sources).markers, m.Placed left right) ∧
    ∀ (lproject lrepo rproject rrepo sid : String) (lfiles rfiles : List ReadFile)
      (sources : Option PatchSources),
      (∀ f ∈ lfiles, f.MethodLinesOrdered) → (∀ f ∈ rfiles, f.MethodLinesOrdered) →
      let left := Snapshot.ofFiles lproject lrepo lfiles
      let right := Snapshot.ofFiles rproject rrepo rfiles
      ∀ m ∈ (superimpose left right sid sources).markers, m.kind = .method →
        (m.status = .unchanged ∨ m.status = .changed) → m.SpansLines left right :=
  ⟨placed_superimpose, fun lproject lrepo rproject rrepo sid lfiles rfiles sources hl hr =>
    spansLines_superimpose (method_lines_ofFiles lproject lrepo lfiles hl)
      (method_lines_ofFiles rproject rrepo rfiles hr) sid sources⟩

theorem superimpose_places_moved_method :
    let before : ReadFile := ⟨"A.java", "h1", ⟨⟨none, [],
      [.type ⟨"A", .classType, [], [], [], 1, 5⟩
        [.method ⟨"f", false, [], some "int", [], some "{ return 1; }", 2, 4⟩]]⟩, .grammar, none⟩⟩
    let after : ReadFile := ⟨"A.java", "h2", ⟨⟨none, [],
      [.type ⟨"A", .classType, [], [], [], 1, 6⟩
        [.method ⟨"f", false, [], some "long", [], some "{ return 1; }", 3, 5⟩]]⟩, .grammar, none⟩⟩
    (∀ f ∈ [before], f.MethodLinesOrdered) ∧ (∀ f ∈ [after], f.MethodLinesOrdered) ∧
      let left := Snapshot.ofFiles "shop" "main" [before]
      let right := Snapshot.ofFiles "shop" "topic" [after]
      ∀ m ∈ (superimpose left right "o" none).markers, m.kind = .method →
        (m.status = .unchanged ∨ m.status = .changed) → m.SpansLines left right := by
  intro before after
  have hl : ∀ f ∈ [before], f.MethodLinesOrdered := by
    simp [before, ReadFile.MethodLinesOrdered, Outline.Unit.types, typesIn, typesOf, directMembers]
  have hr : ∀ f ∈ [after], f.MethodLinesOrdered := by
    simp [after, ReadFile.MethodLinesOrdered, Outline.Unit.types, typesIn, typesOf, directMembers]
  exact ⟨hl, hr, superimpose_places_markers.2 "shop" "main" "shop" "topic" "o" [before] [after]
    none hl hr⟩

end CodeGraph
