import Mathlib
import CodeGraph.Proofs.Overlay
import CodeGraph.Proofs.Search
import CodeGraph.Proofs.ByteOrder

/-! Looking a marker up by halving finds what a scan finds, since the markers of an overlay strictly
increase by kind and then by key. -/

namespace CodeGraph

open KeyMap

lemma Marker.withPatch_eq (src : PatchSources) (m : Marker) :
    ∃ d t, m.withPatch src = { m with diff := d, truncated := t } := by
  unfold Marker.withPatch
  split
  · exact ⟨m.diff, m.truncated, rfl⟩
  · split
    · exact ⟨_, _, rfl⟩
    · exact ⟨m.diff, m.truncated, rfl⟩

lemma map_attachPatches {β : Type} (f : Marker → β)
    (hf : ∀ m d t, f { m with diff := d, truncated := t } = f m) (src : PatchSources)
    (ms : List Marker) : (attachPatches src ms).map f = ms.map f := by
  rw [attachPatches, List.map_map]
  refine List.map_congr_left fun m _ => ?_
  obtain ⟨d, t, h⟩ := m.withPatch_eq src
  rw [Function.comp_apply, h, hf]

lemma superimpose_markers_some (left right : Snapshot) (sid : String) (src : PatchSources) :
    (superimpose left right sid (some src)).markers =
      attachPatches src (superimpose left right sid none).markers :=
  rfl

lemma keys_sorted_alignKind {α : Type} (key : α → String) (overlay : String) (kind : EntityKind)
    (same : α → α → Bool) (locateLeft locateRight : α → Location) (ls rs : List α) :
    ((alignKind overlay kind (byKey key ls) (byKey key rs) same locateLeft locateRight).2.map
      (·.key)).Pairwise (· < ·) := by
  rw [keys_markers_alignKind _ _ _ _ _]
  exact pairUp_sorted _ _

lemma superimpose_markers_sorted (left right : Snapshot) (sid : String)
    (sources : Option PatchSources) :
    ((superimpose left right sid sources).markers.map fun m => (m.kind.rank, m.key)).Pairwise
      (Prod.Lex (· < ·) (· < ·)) := by
  have hnone : ((superimpose left right sid none).markers.map fun m => (m.kind.rank, m.key)).Pairwise
      (Prod.Lex (· < ·) (· < ·)) := by
    obtain ⟨T, M, F, -, hm, hT, hM, hF⟩ := superimpose_parts left right sid
    rw [hm]
    refine pairwise_lex_kinds _ _ (hT ▸ kind_markers_alignKind _ _ _ _ _)
      (hM ▸ kind_markers_alignKind _ _ _ _ _) (hF ▸ kind_markers_alignKind _ _ _ _ _) ?_ ?_ ?_
    · rw [hT]; exact keys_sorted_alignKind _ _ _ _ _ _ _ _
    · rw [hM]; exact keys_sorted_alignKind _ _ _ _ _ _ _ _
    · rw [hF]; exact keys_sorted_alignKind _ _ _ _ _ _ _ _
  cases sources with
  | none => exact hnone
  | some src =>
    rw [superimpose_markers_some, map_attachPatches _ (fun _ _ _ => rfl)]
    exact hnone

lemma EntityKind.rank_inj {a b : EntityKind} : a.rank = b.rank ↔ a = b := by
  cases a <;> cases b <;> simp [EntityKind.rank]

lemma compareTo_eq_gt (m : Marker) (kind : EntityKind) (key : String) :
    m.compareTo kind key = .gt ↔ toLex (kind.rank, key) < toLex (m.kind.rank, m.key) := by
  rw [Marker.compareTo, Ordering.then_eq_gt, Nat.compare_eq_gt, Nat.compare_eq_eq,
    compare_gt_iff_gt, Prod.Lex.toLex_lt_toLex, eq_comm (a := m.kind.rank)]

lemma compareTo_eq_eq (m : Marker) (kind : EntityKind) (key : String) :
    m.compareTo kind key = .eq ↔ toLex (m.kind.rank, m.key) = toLex (kind.rank, key) := by
  rw [Marker.compareTo, Ordering.then_eq_eq, Nat.compare_eq_eq, compare_eq_iff_eq, toLex_inj,
    Prod.mk.injEq]

lemma marker?_eq_find? {o : Overlay}
    (hs : (o.markers.map fun m => (m.kind.rank, m.key)).Pairwise (Prod.Lex (· < ·) (· < ·)))
    (kind : EntityKind) (key : String) :
    o.marker? kind key = o.markers.find? (fun m => m.kind == kind && m.key == key) := by
  have hs' : (o.markers.map fun m => toLex (m.kind.rank, m.key)).Pairwise (· < ·) := by
    rw [List.pairwise_map] at hs ⊢
    exact hs
  rw [Overlay.marker?, searchSorted_eq_findIdx? hs' (fun m => compareTo_eq_gt m kind key)
    (fun m => compareTo_eq_eq m kind key), ← List.find?_eq_bind_findIdx?_getElem?]
  congr 1
  funext m
  simp [EntityKind.rank_inj, Bool.beq_eq_decide_eq]

/-- Looking up a marker of an overlay by halving agrees with a scan of its markers, and finds a
marker exactly when the overlay has one of that kind and key, then the only one: the markers
strictly increase by kind, types before methods before fields, and then by the UTF-8 bytes of
their keys. -/
theorem marker?_superimpose_eq_find? (left right : Snapshot) (sid : String)
    (sources : Option PatchSources) :
    let o := superimpose left right sid sources
    (o.markers.map fun m => (m.kind.rank, Text.utf8Bytes m.key)).Pairwise
        (Prod.Lex (· < ·) (· < ·)) ∧
      ∀ kind key, o.marker? kind key = o.markers.find? (fun m => m.kind == kind && m.key == key) ∧
        ∀ m, o.marker? kind key = some m ↔ m ∈ o.markers ∧ m.kind = kind ∧ m.key = key := by
  intro o
  have hs := superimpose_markers_sorted left right sid sources
  -- a kind and a key name at most one marker
  have hinj : ∀ a ∈ o.markers, ∀ b ∈ o.markers,
      (a.kind.rank, a.key) = (b.kind.rank, b.key) → a = b :=
    List.inj_on_of_nodup_map (hs.imp fun h => ne_of_lt (show toLex _ < toLex _ from h))
  refine ⟨?_, fun kind key => ⟨marker?_eq_find? hs kind key, fun m => ?_⟩⟩
  · rw [List.pairwise_map] at hs ⊢
    refine hs.imp fun {a b} h => ?_
    rw [Prod.lex_def] at h ⊢
    rwa [Text.utf8Bytes_lt_iff]
  · rw [marker?_eq_find? hs kind key]
    constructor
    · intro h
      have hp : m.kind = kind ∧ m.key = key := by simpa using List.find?_some h
      exact ⟨List.mem_of_find?_eq_some h, hp⟩
    · rintro ⟨hm, rfl, rfl⟩
      obtain ⟨m', hm'⟩ : ∃ m', o.markers.find? (fun x => x.kind == m.kind && x.key == m.key) = some m' :=
        Option.isSome_iff_exists.mp (List.find?_isSome.mpr ⟨m, hm, by simp⟩)
      have hp : m'.kind = m.kind ∧ m'.key = m.key := by simpa using List.find?_some hm'
      rw [hm', hinj m' (List.mem_of_find?_eq_some hm') m hm (by rw [hp.1, hp.2])]

end CodeGraph
