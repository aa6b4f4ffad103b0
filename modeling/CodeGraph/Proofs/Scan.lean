import Mathlib
import CodeGraph.Scan

/-! What a scan makes of the paths the walk reached: each path has exactly one outcome, which
depends on that path alone, and distinct paths have distinct relative paths. -/

namespace CodeGraph

namespace FileTree

def IsName (c : String) : Prop := c ≠ "" ∧ '/' ∉ c.toList

instance (c : String) : Decidable (IsName c) := inferInstanceAs (Decidable (_ ∧ _))

lemma toList_pathText (cs : List String) :
    (pathText cs).toList = ['/'].intercalate (cs.map String.toList) := by
  simp [pathText, String.toList_intercalate]

lemma pathText_injective {cs ds : List String} (hcs : ∀ c ∈ cs, IsName c)
    (hds : ∀ d ∈ ds, IsName d) (h : pathText cs = pathText ds) : cs = ds := by
  have hlists : ['/'].intercalate (cs.map String.toList) = ['/'].intercalate (ds.map String.toList) := by
    rw [← toList_pathText, ← toList_pathText, h]
  -- A name is not empty, so only the empty path has the empty text.
  have hne : ∀ es : List String, (∀ e ∈ es, IsName e) → es ≠ [] →
      ['/'].intercalate (es.map String.toList) ≠ [] := by
    intro es hes hne hnil
    obtain ⟨e, es, rfl⟩ := List.exists_cons_of_ne_nil hne
    have he := (hes e (by simp)).1
    cases es <;> simp_all [List.intercalate_cons_cons]
  have hsplit : ∀ es : List String, (∀ e ∈ es, IsName e) → es ≠ [] →
      (['/'].intercalate (es.map String.toList)).splitOn '/' = es.map String.toList := by
    intro es hes hne
    apply List.splitOn_intercalate
    · simp only [List.mem_map]
      rintro _ ⟨e, he, rfl⟩
      exact (hes e he).2
    · simpa using hne
  by_cases hcne : cs = []
  · by_cases hdne : ds = []
    · rw [hcne, hdne]
    · rw [hcne] at hlists
      exact absurd hlists.symm (hne ds hds hdne)
  · by_cases hdne : ds = []
    · rw [hdne] at hlists
      exact absurd hlists (hne cs hcs hcne)
    · have hmap := (hsplit cs hcs hcne).symm.trans (hlists ▸ hsplit ds hds hdne)
      exact List.map_injective_iff.2 (fun a b hab => String.toList_inj.1 hab) hmap

lemma not_mem_of_mem_splitOn {c : Char} :
    ∀ {l piece : List Char}, piece ∈ l.splitOn c → c ∉ piece
  | [], piece, h => by
    rw [List.splitOn_nil, List.mem_singleton] at h
    subst h
    simp
  | x :: xs, piece, h => by
    rw [List.splitOn_cons_eq_if_modifyHead] at h
    split at h
    · rcases List.mem_cons.1 h with rfl | h
      · simp
      · exact not_mem_of_mem_splitOn h
    · next hx =>
      -- `x` joins the first piece of the rest
      obtain ⟨r, rs, hr⟩ := List.exists_cons_of_ne_nil (List.splitOn_ne_nil c xs)
      rw [hr, List.modifyHead_cons] at h
      rcases List.mem_cons.1 h with rfl | h
      · intro hc
        rcases List.mem_cons.1 hc with rfl | hc
        · simp at hx
        · exact not_mem_of_mem_splitOn (hr ▸ List.mem_cons_self) hc
      · exact not_mem_of_mem_splitOn (hr ▸ List.mem_cons_of_mem _ h)

lemma not_slash_of_mem_components {p c : String} (h : c ∈ components p) : '/' ∉ c.toList := by
  obtain ⟨piece, hpiece, rfl⟩ := List.mem_map.1 h
  rw [String.toList_ofList]
  exact not_mem_of_mem_splitOn hpiece

lemma components_pathText {cs : List String} (hne : cs ≠ []) (hcs : ∀ c ∈ cs, '/' ∉ c.toList) :
    components (pathText cs) = cs := by
  rw [components, toList_pathText, List.splitOn_intercalate]
  · simp [Function.comp_def]
  · simpa using hcs
  · simpa using hne

lemma not_slash_of_mem_childNames {t : FileTree} {cs : List String} {name : String}
    (h : name ∈ t.childNames cs) : '/' ∉ name.toList := by
  unfold childNames at h
  rw [List.mem_mergeSort] at h
  -- dropping repeated names keeps only names it is given
  have hfold : ∀ (names acc : List String),
      name ∈ names.foldl (fun acc n => if acc.contains n then acc else acc ++ [n]) acc →
        name ∈ acc ∨ name ∈ names := by
    intro names
    induction names with
    | nil => exact fun acc h => .inl h
    | cons n ns ih =>
      intro acc h
      rw [List.foldl_cons] at h
      rcases ih _ h with h | h
      · split at h
        · exact .inl h
        · rcases List.mem_append.1 h with h | h
          · exact .inl h
          · exact .inr (List.mem_singleton.1 h ▸ List.mem_cons_self)
      · exact .inr (List.mem_cons_of_mem _ h)
  rcases hfold _ [] h with h | h
  · simp at h
  · obtain ⟨k, -, hk⟩ := List.mem_filterMap.1 h
    dsimp only at hk
    split at hk
    · exact not_slash_of_mem_components (List.mem_of_getElem? hk)
    · cases hk

end FileTree

namespace Scan

lemma loop_eq_foldl {β : Type} (f : β → UInt8 → β) (bytes : ByteArray)
    (h : bytes.size ≤ bytes.size) : ∀ (i j : Nat) (b : β), j + i = bytes.size →
      ByteArray.foldlM.loop (m := Id) (fun b x => pure (f b x)) bytes bytes.size h i j b =
        (bytes.data.toList.drop j).foldl f b := by
  intro i
  induction i with
  | zero =>
    intro j b hj
    have hdrop : bytes.data.toList.drop j = [] := by
      rw [List.drop_eq_nil_iff, Array.length_toList]
      exact Nat.le_of_eq (by simpa using hj.symm)
    rw [ByteArray.foldlM.loop, hdrop]
    split <;> rfl
  | succ i ih =>
    intro j b hj
    have hsize : bytes.size = bytes.data.toList.length := rfl
    have hj' : j < bytes.data.toList.length := by omega
    rw [ByteArray.foldlM.loop, dif_pos (by omega), List.drop_eq_getElem_cons hj', List.foldl_cons]
    exact ih (j + 1) _ (by omega)

lemma foldl_count (l : List UInt8) (n : Nat) :
    l.foldl (fun n b => if b == 10 then n + 1 else n) n = n + l.count 10 := by
  induction l generalizing n with
  | nil => simp
  | cons b l ih =>
    rw [List.foldl_cons, ih, List.count_cons]
    by_cases hb : b = 10
    · simp [hb]
      omega
    · simp [hb]

lemma lineCount_eq_count (bytes : ByteArray) : lineCount bytes = bytes.data.toList.count 10 := by
  unfold lineCount ByteArray.foldl ByteArray.foldlM
  rw [dif_pos (Nat.le_refl _)]
  simp only [Id.run]
  rw [loop_eq_foldl _ _ _ _ _ _ (by omega), List.drop_zero, foldl_count, Nat.zero_add]

def ExtensionWanted (opts : ScanOptions) (name : String) : Prop :=
  ∃ ext, extension name = some ext ∧
    (opts.extensions = [] ∨ ∃ e ∈ opts.extensions,
      Text.toLower (String.ofList (e.toList.dropWhile (· == '.'))) = Text.toLower ext)

lemma keeps_wanted_iff (opts : ScanOptions) (name : String) :
    keeps (wanted opts) name = true ↔ ExtensionWanted opts name := by
  unfold keeps ExtensionWanted
  cases extension name with
  | none => simp
  | some ext =>
    simp only [wanted, List.isEmpty_iff, List.map_eq_nil_iff, Bool.or_eq_true,
      List.contains_iff_mem, List.mem_map, Option.some_inj, exists_eq_left']

abbrev fileName (path : List String) : String := path.getLast?.getD ""

abbrev relative (start path : List String) : String := FileTree.pathText (path.drop start.length)

/-- A path strictly below `start`, its components after `start` free of `/`. -/
def Below (start w : List String) : Prop :=
  ∃ rest, w = start ++ rest ∧ rest ≠ [] ∧ ∀ c ∈ rest, '/' ∉ c.toList

lemma below_snoc {dir : List String} {name : String} (hname : '/' ∉ name.toList) :
    Below dir (dir ++ [name]) :=
  ⟨[name], rfl, List.cons_ne_nil _ _, by simpa using hname⟩

lemma Below.of_snoc {dir w : List String} {name : String} (hname : '/' ∉ name.toList)
    (h : Below (dir ++ [name]) w) : Below dir w := by
  obtain ⟨rest, rfl, -, hrest⟩ := h
  refine ⟨name :: rest, by simp, List.cons_ne_nil _ _, fun c hc => ?_⟩
  rcases List.mem_cons.1 hc with rfl | hc
  · exact hname
  · exact hrest c hc

lemma Below.components_relative {start w : List String} (h : Below start w) :
    start ++ FileTree.components (relative start w) = w := by
  obtain ⟨rest, rfl, hne, hrest⟩ := h
  simp only [relative, List.drop_left, FileTree.components_pathText hne hrest]

section Visit

variable (t : FileTree) (start : List String) (opts : ScanOptions)

lemma file?_visit_eq_some (path : List String) (f : ScannedFile) :
    (visit t start opts path).file? = some f ↔
      keeps (wanted opts) (fileName path) = true ∧ ∃ size, t.size path = .ok size ∧
        (opts.computeHashes = true → ∃ bytes, t.read path = .ok bytes) ∧
        f = ⟨relative start path, size,
          if opts.computeHashes then (t.read path).toOption.map Hash.contentHash else none,
          if opts.countLines then
            ((t.read path).toOption.map fun bytes => (bytes.data.toList.count 10).toUInt32).getD 0
          else 0⟩ := by
  unfold visit
  cases hk : keeps (wanted opts) (fileName path)
  · simp [Outcome.file?]
  · cases hs : t.size path with
    | error e => simp [Outcome.file?]
    | ok size =>
      cases hh : opts.computeHashes <;> cases hl : opts.countLines <;> cases hr : t.read path <;>
        simp [Outcome.file?, Except.toOption, lineCount_eq_count, eq_comm]

lemma toNat_lines (count : Bool) (read : Except IoError ByteArray) :
    (if count then
        (read.toOption.map fun bytes : ByteArray => (bytes.data.toList.count 10).toUInt32).getD 0
      else 0 : UInt32).toNat =
    if count then (read.toOption.map fun bytes => bytes.data.toList.count 10 % 2 ^ 32).getD 0
      else 0 := by
  cases count <;> cases read <;> simp [Except.toOption]

lemma path_of_file?_visit {path : List String} {f : ScannedFile}
    (h : (visit t start opts path).file? = some f) : f.path = relative start path := by
  obtain ⟨-, _, -, -, rfl⟩ := (file?_visit_eq_some t start opts path f).1 h
  rfl

end Visit

lemma outcomes_partition (os : List Outcome) :
    (os.filterMap Outcome.file?).length + os.countP Outcome.isSkipped +
      os.countP Outcome.isFailed = os.length := by
  induction os with
  | nil => rfl
  | cons o os ih =>
    cases o <;>
      simp only [List.filterMap_cons, List.countP_cons, List.length_cons, Outcome.file?,
        Outcome.isSkipped, Outcome.isFailed, List.length_cons] <;> simp <;> omega

structure Walked (start : List String) (paths : List (List String)) : Prop where
  nodup : paths.Nodup
  below : ∀ w ∈ paths, start <+: w
  names : ∀ w ∈ paths, ∀ c ∈ w.drop start.length, FileTree.IsName c

namespace Walked

variable {start : List String} {paths : List (List String)}

lemma relative_injective (hw : Walked start paths) {v w : List String} (hv : v ∈ paths)
    (hw' : w ∈ paths) (h : relative start v = relative start w) : v = w := by
  have hdrop := FileTree.pathText_injective (hw.names v hv) (hw.names w hw') h
  rw [← List.prefix_iff_eq_append.1 (hw.below v hv), ← List.prefix_iff_eq_append.1 (hw.below w hw'),
    hdrop]

lemma perm {paths' : List (List String)} (hw : Walked start paths) (hp : paths'.Perm paths) :
    Walked start paths' where
  nodup := hp.nodup_iff.2 hw.nodup
  below w h := hw.below w (hp.mem_iff.1 h)
  names w h := hw.names w (hp.mem_iff.1 h)

end Walked

section Collect

variable {t : FileTree} {start : List String} {opts : ScanOptions} {paths : List (List String)}

abbrev listed (t : FileTree) (start : List String) (opts : ScanOptions)
    (paths : List (List String)) : List ScannedFile :=
  (paths.map (visit t start opts)).filterMap Outcome.file?

lemma mem_listed {f : ScannedFile} :
    f ∈ listed t start opts paths ↔ ∃ w ∈ paths, (visit t start opts w).file? = some f := by
  simp [listed, List.mem_filterMap]

lemma file?_visit_of_path (hw : Walked start paths) {f : ScannedFile} {w : List String}
    (hf : f ∈ listed t start opts paths) (hw' : w ∈ paths) (h : f.path = relative start w) :
    (visit t start opts w).file? = some f := by
  obtain ⟨v, hv, hvf⟩ := mem_listed.1 hf
  rw [path_of_file?_visit _ _ _ hvf] at h
  rwa [hw.relative_injective hv hw' h] at hvf

lemma eq_of_path_eq (hw : Walked start paths) {a b : ScannedFile}
    (ha : a ∈ listed t start opts paths) (hb : b ∈ listed t start opts paths)
    (h : a.path = b.path) : a = b := by
  obtain ⟨w, hw', hwb⟩ := mem_listed.1 hb
  have hwa := file?_visit_of_path hw ha hw' (h.trans (path_of_file?_visit _ _ _ hwb))
  exact Option.some.inj (hwa.symm.trans hwb)

lemma listed_paths_distinct (hw : Walked start paths) :
    (listed t start opts paths).Pairwise fun a b => a.path ≠ b.path := by
  rw [listed, List.pairwise_filterMap, List.pairwise_map]
  refine hw.nodup.imp_of_mem fun hv hw' hvw a ha b hb hab => hvw ?_
  rw [path_of_file?_visit _ _ _ ha, path_of_file?_visit _ _ _ hb] at hab
  exact hw.relative_injective hv hw' hab

lemma sorted_by_path (files : List ScannedFile) :
    (files.mergeSort fun a b => decide (a.path ≤ b.path)).Pairwise fun a b => a.path ≤ b.path := by
  have h := @List.pairwise_mergeSort _ (fun a b : ScannedFile => decide (a.path ≤ b.path))
    (fun a b c hab hbc => by simp only [decide_eq_true_eq] at *; exact le_trans hab hbc)
    (fun a b => by simpa using le_total a.path b.path) files
  simpa using h

lemma files_collect : (collect t start opts paths).files =
    (listed t start opts paths).mergeSort fun a b => decide (a.path ≤ b.path) := rfl

lemma mem_files_collect {f : ScannedFile} :
    f ∈ (collect t start opts paths).files ↔ ∃ w ∈ paths, (visit t start opts w).file? = some f := by
  rw [files_collect, List.mem_mergeSort, mem_listed]

lemma collect_perm (hw : Walked start paths) {paths' : List (List String)}
    (hp : paths'.Perm paths) : collect t start opts paths' = collect t start opts paths := by
  have houtcomes := hp.map (visit t start opts)
  have hlisted : (listed t start opts paths').Perm (listed t start opts paths) :=
    houtcomes.filterMap _
  dsimp only [collect]
  congr 1
  · -- Both sorted lists hold the same files, and no two files share a path.
    refine @List.Perm.eq_of_pairwise _ (fun a b => a.path ≤ b.path) _ _ ?_ (sorted_by_path _)
      (sorted_by_path _) (((List.mergeSort_perm _ _).trans hlisted).trans (List.mergeSort_perm _ _).symm)
    intro a b ha hb hab hba
    rw [List.mem_mergeSort] at ha hb
    exact eq_of_path_eq hw (hlisted.mem_iff.1 ha) hb (le_antisymm hab hba)
  · exact houtcomes.countP_eq _
  · exact houtcomes.countP_eq _

/-- What a scan of the walked `paths` below `start` must give: every path listed, skipped or
failed; a path listed exactly when the extension filter keeps its name, it can be looked at, and
it can be read when hashes are asked for; each listed file with its path relative to `start`,
its size, the hash of its bytes exactly when hashes are asked for and its number of line feeds
modulo `2 ^ 32` when lines are; and the files strictly increasing by path. -/
structure Partitions (t : FileTree) (start : List String) (opts : ScanOptions)
    (paths : List (List String)) (r : ScanResult) : Prop where
  counts : r.files.length + r.skipped + r.errors = paths.length
  listed_iff : ∀ w ∈ paths, (∃ f ∈ r.files, f.path = relative start w) ↔
    ExtensionWanted opts (fileName w) ∧ (∃ size, t.size w = .ok size) ∧
      (opts.computeHashes = true → ∃ bytes, t.read w = .ok bytes)
  fields : ∀ f ∈ r.files, ∃ w ∈ paths, f.path = relative start w ∧ t.size w = .ok f.size ∧
    f.hash = (if opts.computeHashes then (t.read w).toOption.map Hash.contentHash else none) ∧
    f.lines.toNat = if opts.countLines then
      ((t.read w).toOption.map fun bytes => bytes.data.toList.count 10 % 2 ^ 32).getD 0 else 0
  sorted : r.files.Pairwise fun a b => a.path < b.path

end Collect

lemma below_reach (t : FileTree) (opts : ScanOptions) :
    ∀ (depth : Nat) (w : WalkRules) (opened : List (List String)) (dir p : List String),
      p ∈ reach t opts depth w opened dir → Below dir p
  | 0, _, _, _, _, h => by simp [reach] at h
  | depth + 1, w, opened, dir, p, h => by
    rw [reach] at h
    obtain ⟨name, hname, hp⟩ := List.mem_flatMap.1 h
    have hslash := FileTree.not_slash_of_mem_childNames hname
    have hstep : p = dir ++ [name] ∨
        ∃ w' opened', p ∈ reach t opts depth w' opened' (dir ++ [name]) := by
      dsimp only at hp
      repeat' split at hp
      all_goals first
        | exact absurd hp List.not_mem_nil
        | exact .inl (List.mem_singleton.1 hp)
        | exact .inr ⟨_, _, hp⟩
    rcases hstep with rfl | ⟨w', opened', hp⟩
    · exact below_snoc hslash
    · exact (below_reach t opts depth w' opened' _ p hp).of_snoc hslash

variable {t : FileTree} {start : List String} {opts : ScanOptions} {paths : List (List String)}

lemma hash_of_mem_collect (hb : ∀ w ∈ paths, Below start w) {f : ScannedFile}
    (hf : f ∈ (collect t start opts paths).files) {h : String} (hh : f.hash = some h) :
    ∃ bytes, t.read (start ++ FileTree.components f.path) = .ok bytes ∧ h = Hash.contentHash bytes := by
  obtain ⟨w, hw, hwf⟩ := mem_files_collect.1 hf
  obtain ⟨-, size, -, -, rfl⟩ := (file?_visit_eq_some t start opts w f).1 hwf
  dsimp only at hh ⊢
  rw [(hb w hw).components_relative]
  split at hh
  · cases hr : t.read w with
    | ok bytes =>
      rw [hr] at hh
      exact ⟨bytes, rfl, (Option.some.inj hh).symm⟩
    | error e =>
      rw [hr] at hh
      cases hh
  · cases hh

lemma scan_eq_collect {root : List String} {r : ScanResult} (hroot : t.resolve root = .ok root)
    (h : scan t root opts = .ok r) :
    ∃ depth rules, r = collect t root opts (reach t opts depth rules [root] root) := by
  unfold scan at h
  rw [hroot] at h
  dsimp only at h
  split at h
  · cases h
    exact ⟨_, _, rfl⟩
  · cases h

end Scan

end CodeGraph
