import Mathlib
import CodeGraph.Proofs.Overlay.Mirror

/-! A summary built from markers holds, for each kind and status, exactly the number of markers of
that kind and status, and its two readers agree on whether something changed. -/

namespace CodeGraph

open KeyMap

lemma EntityKind.name_inj {k k' : EntityKind} : k.name = k'.name ↔ k = k' := by
  cases k <;> cases k' <;> decide

lemma Status.name_inj {st st' : Status} : st.name = st'.name ↔ st = st' := by
  cases st <;> cases st' <;> decide

namespace Summary

def tally (ms : List Marker) (kn sn : String) : Nat :=
  ms.countP fun m => m.kind.name = kn ∧ m.status.name = sn

def sampleOf (ms : List Marker) : List Alignment :=
  ((ms.filter (·.status = .changed)).take sampleLimit).map fun m => ⟨m.kind, m.key⟩

lemma tally_append_singleton (ms : List Marker) (m : Marker) (kn sn : String) :
    tally (ms ++ [m]) kn sn =
      tally ms kn sn + if m.kind.name = kn ∧ m.status.name = sn then 1 else 0 := by
  unfold tally
  rw [List.countP_append, List.countP_singleton]
  simp

lemma sampleOf_append_singleton (ms : List Marker) (m : Marker) :
    sampleOf (ms ++ [m]) =
      if m.status = .changed ∧ (sampleOf ms).length < sampleLimit then
        sampleOf ms ++ [⟨m.kind, m.key⟩]
      else sampleOf ms := by
  unfold sampleOf
  rw [List.filter_append, List.take_append, List.length_map, List.length_take]
  by_cases hc : m.status = .changed
  · have hf : [m].filter (·.status = .changed) = [m] := by simp [hc]
    rw [hf]
    by_cases hl : (ms.filter (·.status = .changed)).length < sampleLimit
    · have hmin : min sampleLimit (ms.filter (·.status = .changed)).length <
          sampleLimit := by omega
      rw [if_pos ⟨hc, hmin⟩, List.take_of_length_le (by omega : _ ≤ _),
        List.take_of_length_le (by simp; omega : [m].length ≤ _)]
      simp
    · have hmin : ¬ min sampleLimit (ms.filter (·.status = .changed)).length <
          sampleLimit := by omega
      rw [if_neg (fun h => hmin h.2), Nat.sub_eq_zero_of_le (by omega)]
      simp
  · have hf : [m].filter (·.status = .changed) = [] := by simp [hc]
    rw [hf, if_neg (fun h => hc h.1)]
    simp

lemma bind_get?_eq_row (s : Summary) (kn sn : String) :
    (s.counts.get? kn).bind (·.get? sn) = (s.row kn).get? sn := by
  unfold row
  cases s.counts.get? kn <;> rfl

lemma total_eq_row (s : Summary) (k : EntityKind) : s.total k = (s.row k.name).values.sum := by
  unfold total row
  cases s.counts.get? k.name with
  | none => rfl
  | some byStatus => simp [List.sum_eq_foldl_nat]

/-- What a summary of the markers `ms` holds: a row for exactly the kinds that occur, in each row the positive tallies and no other entry, each row's values summing to the
markers of its kind, and the sample of `ms`. -/
structure Tallies (s : Summary) (ms : List Marker) : Prop where
  kinds : ∀ kn, (s.counts.get? kn).isSome ↔ ∃ m ∈ ms, m.kind.name = kn
  counts : ∀ kn sn, (s.row kn).get? sn = if tally ms kn sn = 0 then none else some (tally ms kn sn)
  totals : ∀ kn, (s.row kn).values.sum = ms.countP fun m => m.kind.name = kn
  sample : s.sample = sampleOf ms

lemma tallies_fresh (overlay project leftRepo rightRepo : String) :
    Tallies { overlay, project, leftRepo, rightRepo } [] where
  kinds _ := by simp [KeyMap.empty, KeyMap.get?]
  counts _ _ := by simp [row, tally, KeyMap.empty, KeyMap.get?]
  totals _ := by simp [row, KeyMap.empty, KeyMap.values, KeyMap.get?]
  sample := rfl

lemma Tallies.record {s : Summary} {ms : List Marker} (h : Tallies s ms) (m : Marker) :
    Tallies (s.record m) (ms ++ [m]) where
  kinds kn := by
    rw [isSome_counts_record]
    by_cases hk : kn = m.kind.name
    · simp only [hk, if_true, true_iff]
      exact ⟨m, by simp, rfl⟩
    · simp only [hk, if_false, List.mem_append, List.mem_singleton, h.kinds]
      constructor
      · rintro ⟨m', hm', rfl⟩
        exact ⟨m', .inl hm', rfl⟩
      · rintro ⟨m', hm' | rfl, rfl⟩
        · exact ⟨m', hm', rfl⟩
        · exact absurd rfl hk
  counts kn sn := by
    rw [row_record, tally_append_singleton]
    by_cases hk : kn = m.kind.name
    · rw [if_pos hk, get?_alter]
      by_cases hs : sn = m.status.name
      · subst hk hs
        -- the stored count of the marker's own kind and status goes up by one
        have hold : ((s.row m.kind.name).get? m.status.name).getD 0 =
            tally ms m.kind.name m.status.name := by
          rw [h.counts]
          split_ifs with h0 <;> simp [h0]
        simp [hold]
      · simp [hs, Ne.symm hs, h.counts]
    · simp [hk, Ne.symm hk, h.counts]
  totals kn := by
    rw [row_record, List.countP_append, List.countP_singleton]
    by_cases hk : kn = m.kind.name
    · rw [if_pos hk, sum_values_alter_succ, h.totals]
      simp [hk]
    · rw [if_neg hk, h.totals]
      simp [Ne.symm hk]
  sample := by
    rw [sampleOf_append_singleton, ← h.sample]
    simp only [Summary.record, Bool.and_eq_true, beq_iff_eq, decide_eq_true_eq]

lemma Tallies.foldl {s : Summary} {ms₀ : List Marker} (h : Tallies s ms₀) (ms : List Marker) :
    Tallies (ms.foldl Summary.record s) (ms₀ ++ ms) := by
  induction ms generalizing s ms₀ with
  | nil => simpa using h
  | cons m ms ih =>
    rw [List.foldl_cons, ← List.singleton_append, ← List.append_assoc]
    exact ih (h.record m)

lemma tallies_ofMarkers (overlay project leftRepo rightRepo : String) (ms : List Marker) :
    Tallies (ofMarkers overlay project leftRepo rightRepo ms) ms := by
  unfold ofMarkers
  simpa only [List.nil_append] using (tallies_fresh overlay project leftRepo rightRepo).foldl ms

lemma tally_names (ms : List Marker) (k : EntityKind) (st : Status) :
    tally ms k.name st.name = ms.countP fun m => m.kind = k ∧ m.status = st := by
  simp [tally, EntityKind.name_inj, Status.name_inj]

lemma colon_mem_of_kindText {s : Summary} {k : EntityKind} {line : String}
    (h : s.kindText k = some line) : ':' ∈ line.toList := by
  unfold kindText at h
  dsimp only at h
  split_ifs at h
  cases h
  simp

lemma kindText_eq_none_iff (s : Summary) (k : EntityKind) :
    s.kindText k = none ↔ ∀ st ∈ [Status.added, .removed, .changed], s.count k st = 0 := by
  unfold kindText
  dsimp only
  split_ifs with h
  · simpa [List.filterMap_eq_nil_iff] using h
  · simp only [false_iff, List.mem_cons, List.not_mem_nil, or_false, forall_eq_or_imp,
      forall_eq]
    simpa [List.filterMap_eq_nil_iff] using h

lemma text_eq_noChanges_iff (s : Summary) : s.text = "No changes" ↔ ∀ k, s.kindText k = none := by
  unfold text
  rcases hfm : EntityKind.all.filterMap s.kindText with _ | ⟨line, rest⟩
  · simp only [true_iff]
    intro k
    exact List.filterMap_eq_nil_iff.mp hfm k (by cases k <;> simp [EntityKind.all])
  · show "; ".intercalate (line :: rest) = "No changes" ↔ _
    have hline : line ∈ EntityKind.all.filterMap s.kindText := by simp [hfm]
    obtain ⟨k, -, hk⟩ := List.mem_filterMap.mp hline
    have hcolon : ':' ∈ ("; ".intercalate (line :: rest)).toList := by
      cases rest with
      | nil => simpa using colon_mem_of_kindText hk
      | cons next rest =>
        rw [String.intercalate_cons_cons]
        simp [colon_mem_of_kindText hk]
    constructor
    · intro htext
      rw [htext] at hcolon
      exact absurd hcolon (by decide)
    · intro hnone
      rw [hnone k] at hk
      cases hk

namespace Tallies

variable {s : Summary} {ms : List Marker}

lemma mem_row_entries (h : Tallies s ms) {kn : String} {byStatus : KeyMap Nat}
    (he : (kn, byStatus) ∈ s.counts.entries) {sn : String} {n : Nat} :
    (sn, n) ∈ byStatus.entries ↔ 0 < n ∧ tally ms kn sn = n := by
  have hrow : s.row kn = byStatus := by
    simp [row, mem_entries_iff.mp he]
  rw [mem_entries_iff, ← hrow, h.counts]
  split_ifs with h0 <;> simp [h0] <;> omega

lemma lookup (h : Tallies s ms) (kn sn : String) :
    (s.counts.get? kn).bind (·.get? sn) =
      if tally ms kn sn = 0 then none else some (tally ms kn sn) := by
  rw [bind_get?_eq_row, h.counts]

lemma positive (h : Tallies s ms) : ∀ e ∈ s.counts.entries, ∀ e' ∈ e.2.entries, 0 < e'.2 := by
  rintro ⟨kn, byStatus⟩ he ⟨sn, n⟩ he'
  exact ((h.mem_row_entries he).mp he').1

lemma count_eq (h : Tallies s ms) (k : EntityKind) (st : Status) :
    s.count k st = ms.countP fun m => m.kind = k ∧ m.status = st := by
  rw [count_eq_row, h.counts, ← tally_names]
  split_ifs with h0 <;> simp [h0]

lemma total_eq (h : Tallies s ms) (k : EntityKind) :
    s.total k = ms.countP fun m => m.kind = k := by
  rw [total_eq_row, h.totals]
  simp [EntityKind.name_inj]

lemma hasChanges_iff (h : Tallies s ms) : s.hasChanges = true ↔ ∃ m ∈ ms, m.status ≠ .unchanged := by
  simp only [hasChanges, KeyMap.values, List.any_map, List.any_eq_true, Function.comp,
    Bool.and_eq_true, bne_iff_ne, ne_eq, decide_eq_true_eq]
  constructor
  · rintro ⟨⟨kn, byStatus⟩, he, ⟨sn, n⟩, he', hsn, -⟩
    obtain ⟨hpos, htally⟩ := (h.mem_row_entries he).mp he'
    obtain ⟨m, hm, hmatch⟩ := List.countP_pos_iff.mp (htally ▸ hpos : 0 < tally ms kn sn)
    simp only [decide_eq_true_eq] at hmatch
    refine ⟨m, hm, fun hu => hsn ?_⟩
    rw [← hmatch.2, hu]
  · rintro ⟨m, hm, hu⟩
    -- the row of the marker's kind is stored, and holds the marker's status with its tally
    obtain ⟨byStatus, hget⟩ := Option.isSome_iff_exists.mp ((h.kinds m.kind.name).mpr ⟨m, hm, rfl⟩)
    have hpos : 0 < tally ms m.kind.name m.status.name :=
      List.countP_pos_iff.mpr ⟨m, hm, by simp⟩
    have he := mem_of_get? hget
    refine ⟨(m.kind.name, byStatus), he, (m.status.name, tally ms m.kind.name m.status.name),
      (h.mem_row_entries he).mpr ⟨hpos, rfl⟩, fun hn => hu (Status.name_inj.mp hn), hpos⟩

lemma text_ne_iff (h : Tallies s ms) : s.text ≠ "No changes" ↔ ∃ m ∈ ms, m.status ≠ .unchanged := by
  rw [ne_eq, text_eq_noChanges_iff]
  simp only [kindText_eq_none_iff, h.count_eq, List.countP_eq_zero, decide_eq_true_eq,
    List.mem_cons, List.not_mem_nil, or_false]
  constructor
  · intro hsome
    simp only [not_forall, not_not] at hsome
    obtain ⟨k, st, hst, m, hm, -, rfl⟩ := hsome
    refine ⟨m, hm, ?_⟩
    rcases hst with hst | hst | hst <;> simp [hst]
  · rintro ⟨m, hm, hu⟩ hall
    have hst : m.status = .added ∨ m.status = .removed ∨ m.status = .changed := by
      cases hst : m.status <;> simp_all
    exact hall m.kind m.status hst m hm ⟨rfl, rfl⟩

end Tallies

end Summary

/-- Counting markers into a fresh summary stores, under each kind and status, the number of
markers of that kind and status when it is positive and nothing otherwise, and a row for exactly
the kinds that occur; `count` and `total` read these numbers back; the sample is the first
changed markers up to the limit, in order; and both `hasChanges` and a text other than
`No changes` say that some marker is not unchanged. -/
theorem summary_tallies_markers (overlay project leftRepo rightRepo : String) (ms : List Marker) :
    let s := Summary.ofMarkers overlay project leftRepo rightRepo ms
    (∀ kn sn, (s.counts.get? kn).bind (·.get? sn) =
      if Summary.tally ms kn sn = 0 then none else some (Summary.tally ms kn sn)) ∧
    (∀ kn, (s.counts.get? kn).isSome ↔ ∃ m ∈ ms, m.kind.name = kn) ∧
    (∀ e ∈ s.counts.entries, ∀ e' ∈ e.2.entries, 0 < e'.2) ∧
    (∀ k st, s.count k st = ms.countP fun m => m.kind = k ∧ m.status = st) ∧
    (∀ k, s.total k = ms.countP fun m => m.kind = k) ∧
    s.sample = ((ms.filter (·.status = .changed)).take sampleLimit).map (fun m => ⟨m.kind, m.key⟩) ∧
    (s.hasChanges = true ↔ ∃ m ∈ ms, m.status ≠ .unchanged) ∧
    (s.text ≠ "No changes" ↔ ∃ m ∈ ms, m.status ≠ .unchanged) := by
  intro s
  have h := Summary.tallies_ofMarkers overlay project leftRepo rightRepo ms
  exact ⟨h.lookup, h.kinds, h.positive, h.count_eq, h.total_eq, h.sample, h.hasChanges_iff,
    h.text_ne_iff⟩

example : (Summary.ofMarkers "cmp" "shop" "left" "right"
    [⟨"cmp", .type, "a.A", .changed, none, none, none, none, none, false⟩,
     ⟨"cmp", .type, "a.B", .unchanged, none, none, none, none, none, false⟩,
     ⟨"cmp", .method, "a.A::f()", .added, none, none, none, none, none, false⟩]).text =
    "types: 1 changed; methods: 1 added" := by decide

end CodeGraph
