import Mathlib
import CodeGraph.Proofs.Overlay.Lookup

/-! Attaching patches touches nothing but the patches of changed markers, and a patch fails only
when a file of one of the marker's sides cannot be read. -/

namespace CodeGraph

lemma readSource_eq_error {t : FileTree} {root rel : String} {e : Failure}
    (h : readSource t root rel = .error e) :
    ∃ io, t.read (FileTree.components (joinPath root rel)) = .error io ∧
      e = .patchGeneration (joinPath root rel) io.message := by
  dsimp only [readSource] at h
  split at h
  · cases h
  · next io hio =>
    cases h
    exact ⟨io, hio, rfl⟩

def PatchSources.Unreadable (src : PatchSources) (m : Marker) (path : String) (io : IoError) :
    Prop :=
  (∃ rel, m.leftFile = some rel ∧ path = joinPath src.leftRoot rel ∨
    m.rightFile = some rel ∧ path = joinPath src.rightRoot rel) ∧
  src.tree.read (FileTree.components path) = .error io

lemma except_bind_eq_error {ε α β : Type} {x : Except ε α} {f : α → Except ε β} {e : ε}
    (h : (x >>= f) = .error e) : x = .error e ∨ ∃ a, x = .ok a ∧ f a = .error e := by
  cases x with
  | error e' =>
    left
    simpa [bind, Except.bind] using h
  | ok a => exact .inr ⟨a, rfl, h⟩

lemma except_bind_eq_ok {ε α β : Type} {x : Except ε α} {f : α → Except ε β} {b : β}
    (h : (x >>= f) = .ok b) : ∃ a, x = .ok a ∧ f a = .ok b := by
  cases x with
  | error e => cases h
  | ok a => exact ⟨a, rfl, h⟩

lemma except_pure_ne_error {ε α : Type} {a : α} {e : ε} : (pure a : Except ε α) ≠ .error e :=
  nofun

lemma rangePatch_eq_error {src : PatchSources} {l r : String} {lr rr : LineRange} {e : Failure}
    (h : rangePatch src l lr r rr = .error e) :
    readSource src.tree src.leftRoot l = .error e ∨ readSource src.tree src.rightRoot r = .error e := by
  unfold rangePatch rangePatchWith at h
  rcases except_bind_eq_error h with hl | ⟨_, -, h⟩
  · exact .inl hl
  rcases except_bind_eq_error h with hr | ⟨_, -, h⟩
  · exact .inr hr
  exact absurd h except_pure_ne_error

lemma wholeFilePatch_eq_error {src : PatchSources} {left right : Option String} {e : Failure}
    (h : wholeFilePatch src left right = .error e) :
    (∃ l, left = some l ∧ readSource src.tree src.leftRoot l = .error e) ∨
      ∃ r, right = some r ∧ readSource src.tree src.rightRoot r = .error e := by
  unfold wholeFilePatch at h
  -- a side without a file reads as empty text and cannot fail
  cases left with
  | some l =>
    rcases except_bind_eq_error h with hl | ⟨_, -, h⟩
    · exact .inl ⟨l, rfl, hl⟩
    cases right with
    | some r =>
      rcases except_bind_eq_error h with hr | ⟨_, -, h⟩
      · exact .inr ⟨r, rfl, hr⟩
      exact absurd h except_pure_ne_error
    | none =>
      rcases except_bind_eq_error h with hr | ⟨_, -, h⟩
      · exact absurd hr except_pure_ne_error
      exact absurd h except_pure_ne_error
  | none =>
    rcases except_bind_eq_error h with hl | ⟨_, -, h⟩
    · exact absurd hl except_pure_ne_error
    cases right with
    | some r =>
      rcases except_bind_eq_error h with hr | ⟨_, -, h⟩
      · exact .inr ⟨r, rfl, hr⟩
      exact absurd h except_pure_ne_error
    | none =>
      rcases except_bind_eq_error h with hr | ⟨_, -, h⟩
      · exact absurd hr except_pure_ne_error
      exact absurd h except_pure_ne_error

lemma Marker.patch_eq_error {src : PatchSources} {m : Marker} {e : Failure}
    (h : m.patch src = .error e) :
    ∃ path io, src.Unreadable m path io ∧ e = .patchGeneration path io.message := by
  -- a failure comes from reading the file of one side
  have side : ∀ {root rel}, readSource src.tree root rel = .error e →
      (∃ r, m.leftFile = some r ∧ joinPath root rel = joinPath src.leftRoot r ∨
        m.rightFile = some r ∧ joinPath root rel = joinPath src.rightRoot r) →
      ∃ path io, src.Unreadable m path io ∧ e = .patchGeneration path io.message := by
    intro root rel hread hside
    obtain ⟨io, hio, rfl⟩ := readSource_eq_error hread
    exact ⟨_, io, ⟨hside, hio⟩, rfl⟩
  unfold Marker.patch at h
  split at h
  · next l r _ _ hl hr =>
    rcases rangePatch_eq_error h with hL | hR
    · exact side hL ⟨l, .inl ⟨hl, rfl⟩⟩
    · exact side hR ⟨r, .inr ⟨hr, rfl⟩⟩
  · rcases wholeFilePatch_eq_error h with ⟨l, hl, hL⟩ | ⟨r, hr, hR⟩
    · exact side hL ⟨l, .inl ⟨hl, rfl⟩⟩
    · exact side hR ⟨r, .inr ⟨hr, rfl⟩⟩

/-- What attaching patches makes of one marker `m`: `m'` differs from it at most in its patch
and whether the patch was cut; a marker that is not changed is kept; a changed marker whose
patch is made gets that patch cut to the budget; a marker whose patch is empty or fails is
kept. -/
structure Marker.PatchedFrom (src : PatchSources) (m m' : Marker) : Prop where
  frame : m' = { m with diff := m'.diff, truncated := m'.truncated }
  not_changed : m.status ≠ .changed → m' = m
  patched : m.status = .changed → ∀ p, m.patch src = .ok (some p) →
    m'.diff = some (Patch.truncate p src.maxChars).1 ∧
      m'.truncated = (Patch.truncate p src.maxChars).2
  kept : (m.patch src = .ok none ∨ ∃ e, m.patch src = .error e) → m' = m

lemma Marker.withPatch_of_ne (src : PatchSources) {m : Marker} (hc : m.status ≠ .changed) :
    m.withPatch src = m := by
  simp [Marker.withPatch, hc]

lemma Marker.withPatch_of_patch {src : PatchSources} {m : Marker} (hc : m.status = .changed)
    {p : String} (hp : m.patch src = .ok (some p)) :
    m.withPatch src = { m with
      diff := some (Patch.truncate p src.maxChars).1
      truncated := (Patch.truncate p src.maxChars).2 } := by
  simp [Marker.withPatch, hc, hp]

lemma Marker.withPatch_of_no_patch {src : PatchSources} {m : Marker}
    (hp : ∀ p, m.patch src ≠ .ok (some p)) : m.withPatch src = m := by
  unfold Marker.withPatch
  split
  · rfl
  · split
    · next p hp' => exact absurd hp' (hp p)
    · rfl

lemma Marker.patchedFrom_withPatch (src : PatchSources) (m : Marker) :
    m.PatchedFrom src (m.withPatch src) where
  frame := by
    obtain ⟨d, t, h⟩ := m.withPatch_eq src
    rw [h]
  not_changed hc := m.withPatch_of_ne src hc
  patched hc p hp := by
    rw [Marker.withPatch_of_patch hc hp]
    exact ⟨rfl, rfl⟩
  kept h := by
    refine Marker.withPatch_of_no_patch fun p hp => ?_
    rcases h with hn | ⟨e, he⟩
    · rw [hn] at hp
      cases hp
    · rw [he] at hp
      cases hp

lemma forall₂_attachPatches (src : PatchSources) (ms : List Marker) :
    List.Forall₂ (Marker.PatchedFrom src) ms (attachPatches src ms) := by
  rw [attachPatches, List.forall₂_map_right_iff, List.forall₂_same]
  exact fun m _ => m.patchedFrom_withPatch src

lemma ofMarkers_attachPatches (overlay project leftRepo rightRepo : String) (src : PatchSources)
    (ms : List Marker) :
    Summary.ofMarkers overlay project leftRepo rightRepo (attachPatches src ms) =
      Summary.ofMarkers overlay project leftRepo rightRepo ms := by
  unfold Summary.ofMarkers
  rw [attachPatches, List.foldl_map]
  congr 1
  funext s m
  obtain ⟨d, t, h⟩ := m.withPatch_eq src
  rw [h]
  rfl

/-- Attaching patches keeps the markers one for one in their order and changes, of a changed
marker only, the patch and whether it was cut: to the patch cut to the budget when it can be
made and is not empty, and not at all otherwise. A patch fails only on a file of one side that
cannot be read. An overlay laid with patches has the alignments, the summary and, up to the
patches, the markers of the overlay laid without them. -/
theorem superimpose_patches_only_changed :
    (∀ (src : PatchSources) (ms : List Marker),
      List.Forall₂ (Marker.PatchedFrom src) ms (attachPatches src ms)) ∧
    (∀ (src : PatchSources) (m : Marker) (e : Failure), m.patch src = .error e →
      ∃ path io, src.Unreadable m path io ∧ e = .patchGeneration path io.message) ∧
    ∀ (left right : Snapshot) (sid : String) (src : PatchSources),
      let o := superimpose left right sid none
      let o' := superimpose left right sid (some src)
      o'.alignments = o.alignments ∧ o'.summary = o.summary ∧
        List.Forall₂ (Marker.PatchedFrom src) o.markers o'.markers := by
  refine ⟨forall₂_attachPatches, fun src m e h => Marker.patch_eq_error h, ?_⟩
  intro left right sid src o o'
  have hm : o'.markers = attachPatches src o.markers := superimpose_markers_some left right sid src
  refine ⟨rfl, ?_, hm ▸ forall₂_attachPatches src o.markers⟩
  -- both summaries count the markers, and patches change no count
  change Summary.ofMarkers sid left.project left.repo right.repo o'.markers =
    Summary.ofMarkers sid left.project left.repo right.repo o.markers
  rw [hm, ofMarkers_attachPatches]

namespace Patch

lemma splits_nextn (p : String) (n : Nat) :
    (p.startPos.nextn n).Splits (String.ofList (p.toList.take n)) (String.ofList (p.toList.drop n)) := by
  simpa using (String.splits_startPos p).nextn n

lemma nextn_eq_endPos_iff (p : String) (n : Nat) :
    p.startPos.nextn n = p.endPos ↔ p.length ≤ n := by
  rw [(splits_nextn p n).eq_endPos_iff, ← String.toList_inj]
  simp [String.length_toList]

lemma truncate_eq (p : String) (n : Nat) :
    truncate p n = if p.length ≤ n then (p, false)
      else (String.ofList (p.toList.take n) ++ truncationMarker, true) := by
  unfold truncate
  by_cases h : p.length ≤ n
  · rw [if_pos ((nextn_eq_endPos_iff p n).mpr h), if_pos h]
  · rw [if_neg (mt (nextn_eq_endPos_iff p n).mp h), if_neg h, (splits_nextn p n).copy_sliceTo_eq]

/-- A patch within its budget of characters is kept whole; a longer one keeps its first `budget`
characters, which are the bytes of the patch up to where the next character starts, and gains
the marker line. So a patch of exactly the budget is kept, and a budget of nothing leaves the bare
marker of any patch that is not empty. -/
theorem truncate_cuts_at_characters (p : String) (n : Nat) :
    truncate p n = (if p.length ≤ n then (p, false)
      else (String.ofList (p.toList.take n) ++ truncationMarker, true)) ∧
    (String.ofList (p.toList.take n)).toByteArray =
      p.toByteArray.extract 0 (p.startPos.nextn n).offset.byteIdx ∧
    truncate p p.length = (p, false) ∧
    (p ≠ "" → truncate p 0 = (truncationMarker, true)) := by
  refine ⟨truncate_eq p n, (splits_nextn p n).toByteArray_left_eq, by simp [truncate_eq],
    fun hp => ?_⟩
  have hlen : ¬ p.length ≤ 0 := by
    rw [← String.length_toList, Nat.le_zero, List.length_eq_zero_iff, String.toList_eq_nil_iff]
    exact hp
  simp [truncate_eq, hlen]

example : truncate "ééééé" 2 = ("éé" ++ truncationMarker, true) := by decide

end Patch

end CodeGraph
