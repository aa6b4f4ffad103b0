import Mathlib
import CodeGraph.Store
import CodeGraph.Proofs.KeyMap

/-! Overlaying two stored repositories under an identifier drops what the identifier held and keeps
the new overlay only when both repositories are found; nothing else changes. -/

namespace CodeGraph

namespace Store

lemma graph_eq_error {s : Store} {p r : String} {e : Failure} (h : s.graph p r = .error e) :
    e = .repoNotFound p r := by
  unfold Store.graph at h
  split at h
  · cases h
  · cases h
    rfl

@[simp] lemma graphs_deleteOverlay (s : Store) (id : String) :
    (s.deleteOverlay id).1.graphs = s.graphs := by
  unfold Store.deleteOverlay
  split <;> rfl

@[simp] lemma graph_deleteOverlay (s : Store) (id p r : String) :
    (s.deleteOverlay id).1.graph p r = s.graph p r := by
  simp only [Store.graph, graphs_deleteOverlay]

lemma overlay?_deleteOverlay (s : Store) (id id' : String) :
    (s.deleteOverlay id).1.overlay? id' = if id' = id then none else s.overlay? id' := by
  unfold Store.deleteOverlay Store.overlay? KeyMap.get?
  split_ifs with hc hid hid
  · -- the filter leaves no entry of the removed key
    subst hid
    simp
  · -- an entry of another key passes the filter exactly when it is found
    congr 1
    simp only [KeyMap.entries_filter, List.find?_filter]
    congr 1
    funext e
    by_cases he : e.1 = id' <;> simp [he, hid]
  · subst hid
    have hnone : s.overlays.entries.find? (·.1 == id') = none := by
      rw [List.find?_eq_none]
      intro e he hk
      exact hc (List.any_eq_true.2 ⟨e, he, hk⟩)
    simp [hnone]
  · rfl

lemma superimposeAndDiff_of_ok {s : Store} {project leftRepo rightRepo : String} (id : String)
    (sources : Option PatchSources) {left right : Snapshot}
    (hl : s.graph project leftRepo = .ok left) (hr : s.graph project rightRepo = .ok right) :
    s.superimposeAndDiff project leftRepo rightRepo id sources =
      let o := superimpose left right id sources
      let o := { o with summary := { o.summary with project } }
      ({ (s.deleteOverlay id).1 with overlays := (s.deleteOverlay id).1.overlays.insert id o },
        .ok o.summary) := by
  simp only [Store.superimposeAndDiff, graph_deleteOverlay, hl, hr]

lemma superimposeAndDiff_of_left_error {s : Store} {project leftRepo : String} (rightRepo id : String)
    (sources : Option PatchSources) {e : Failure} (hl : s.graph project leftRepo = .error e) :
    s.superimposeAndDiff project leftRepo rightRepo id sources =
      ((s.deleteOverlay id).1, .error (.repoNotFound project leftRepo)) := by
  simp only [Store.superimposeAndDiff, graph_deleteOverlay, hl, graph_eq_error hl]

lemma superimposeAndDiff_of_right_error {s : Store} {project leftRepo rightRepo : String}
    (id : String) (sources : Option PatchSources) {left : Snapshot} {e : Failure}
    (hl : s.graph project leftRepo = .ok left) (hr : s.graph project rightRepo = .error e) :
    s.superimposeAndDiff project leftRepo rightRepo id sources =
      ((s.deleteOverlay id).1, .error (.repoNotFound project rightRepo)) := by
  simp only [Store.superimposeAndDiff, graph_deleteOverlay, hl, hr, graph_eq_error hr]

lemma superimposeAndDiff_frame (s : Store) (project leftRepo rightRepo id : String)
    (sources : Option PatchSources) :
    (s.superimposeAndDiff project leftRepo rightRepo id sources).1.graphs = s.graphs ∧
      ∀ id', id' ≠ id →
        (s.superimposeAndDiff project leftRepo rightRepo id sources).1.overlay? id' =
          s.overlay? id' := by
  have hdel : ∀ id', id' ≠ id → (s.deleteOverlay id).1.overlay? id' = s.overlay? id' :=
    fun id' hne => by rw [overlay?_deleteOverlay, if_neg hne]
  cases hl : s.graph project leftRepo with
  | error e =>
    rw [superimposeAndDiff_of_left_error rightRepo id sources hl]
    exact ⟨graphs_deleteOverlay s id, hdel⟩
  | ok left =>
    cases hr : s.graph project rightRepo with
    | error e =>
      rw [superimposeAndDiff_of_right_error id sources hl hr]
      exact ⟨graphs_deleteOverlay s id, hdel⟩
    | ok right =>
      rw [superimposeAndDiff_of_ok id sources hl hr]
      refine ⟨graphs_deleteOverlay s id, fun id' hne => ?_⟩
      simp only [Store.overlay?, KeyMap.get?_insert_of_ne _ _ hne]
      exact hdel id' hne

end Store

/-- Overlaying the repositories `leftRepo` and `rightRepo` of a project under `id` changes no
snapshot and no overlay stored under another identifier. When both are stored, `id` then holds
their overlay with the project in its summary, and that summary is the answer. Otherwise the
answer names the missing repository, the left one when both are missing, and `id` holds
nothing, whatever it held before. -/
theorem superimposeAndDiff_replaces_overlay (s : Store) (project leftRepo rightRepo id : String)
    (sources : Option PatchSources) :
    let result := s.superimposeAndDiff project leftRepo rightRepo id sources
    result.1.graphs = s.graphs ∧
    (∀ id', id' ≠ id → result.1.overlay? id' = s.overlay? id') ∧
    (∀ left right, s.graph project leftRepo = .ok left → s.graph project rightRepo = .ok right →
      let o := superimpose left right id sources
      let o := { o with summary := { o.summary with project } }
      result.1.overlay? id = some o ∧ result.2 = .ok o.summary) ∧
    (∀ e, s.graph project leftRepo = .error e →
      result.2 = .error (.repoNotFound project leftRepo) ∧ result.1.overlay? id = none) ∧
    (∀ left e, s.graph project leftRepo = .ok left → s.graph project rightRepo = .error e →
      result.2 = .error (.repoNotFound project rightRepo) ∧ result.1.overlay? id = none) := by
  have hgone : (s.deleteOverlay id).1.overlay? id = none := by
    rw [Store.overlay?_deleteOverlay, if_pos rfl]
  obtain ⟨hgraphs, hothers⟩ := Store.superimposeAndDiff_frame s project leftRepo rightRepo id sources
  refine ⟨hgraphs, hothers, fun left right hl hr => ?_, fun e hl => ?_, fun left e hl hr => ?_⟩
  · rw [Store.superimposeAndDiff_of_ok id sources hl hr]
    exact ⟨KeyMap.get?_insert_self _ _ _, rfl⟩
  · rw [Store.superimposeAndDiff_of_left_error rightRepo id sources hl]
    exact ⟨rfl, hgone⟩
  · rw [Store.superimposeAndDiff_of_right_error id sources hl hr]
    exact ⟨rfl, hgone⟩

theorem superimposeAndDiff_drops_prior_overlay :
    let prior : Overlay :=
      { id := "cmp", summary := { overlay := "cmp", project := "shop", leftRepo := "v1",
                                  rightRepo := "v2" } }
    let s : Store := { overlays := KeyMap.empty.insert "cmp" prior }
    s.graph "shop" "v1" = .error (.repoNotFound "shop" "v1") ∧
      (s.superimposeAndDiff "shop" "v1" "v2" "cmp").2 = .error (.repoNotFound "shop" "v1") ∧
      (s.superimposeAndDiff "shop" "v1" "v2" "cmp").1.overlay? "cmp" = none :=
  ⟨rfl, (superimposeAndDiff_replaces_overlay _ "shop" "v1" "v2" "cmp" none).2.2.2.1 _ rfl⟩

end CodeGraph
