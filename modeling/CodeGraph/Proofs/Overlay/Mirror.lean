import Mathlib
import CodeGraph.Proofs.Overlay

/-! Laying the right snapshot over the left mirrors laying the left over the right: added and
removed exchange, and so do the two sides' files and ranges. -/

namespace CodeGraph

open KeyMap

def Status.mirror : Status → Status
  | .added => .removed
  | .removed => .added
  | st => st

def Marker.mirror (m : Marker) : Marker :=
  { m with
    status := m.status.mirror
    leftFile := m.rightFile
    rightFile := m.leftFile
    leftRange := m.rightRange
    rightRange := m.leftRange }

@[simp] lemma Marker.mirror_kind (m : Marker) : m.mirror.kind = m.kind := rfl

@[simp] lemma Marker.mirror_status (m : Marker) : m.mirror.status = m.status.mirror := rfl

@[simp] lemma Status.mirror_mirror (st : Status) : st.mirror.mirror = st := by
  cases st <;> rfl

@[simp] lemma Status.mirror_beq_changed (st : Status) :
    (st.mirror == .changed) = (st == .changed) := by
  cases st <;> rfl

def Status.mirrorName (n : String) : String :=
  if n = Status.added.name then Status.removed.name
  else if n = Status.removed.name then Status.added.name
  else n

lemma Status.mirrorName_name (st : Status) : Status.mirrorName st.name = st.mirror.name := by
  cases st <;> simp [Status.mirrorName, Status.name, Status.mirror]

@[simp] lemma Status.mirrorName_mirrorName (n : String) :
    Status.mirrorName (Status.mirrorName n) = n := by
  unfold Status.mirrorName
  split_ifs <;> simp_all [Status.name]

lemma sameSet_comm (a b : List String) : sameSet a b = sameSet b a :=
  Bool.and_comm _ _

lemma TypeRecord.same_comm (l r : TypeRecord) : l.same r = r.same l :=
  Bool.beq_comm

lemma MethodRecord.same_comm (l r : MethodRecord) : l.same r = r.same l := by
  unfold MethodRecord.same
  -- the bodies are compared only when both sides hash them, which is symmetric
  rw [@Bool.beq_comm _ _ _ l.returnType, @Bool.beq_comm _ _ _ l.paramTypes, sameSet_comm]
  cases l.bodyHash <;> cases r.bodyHash <;> simp [Bool.beq_comm]

lemma FieldRecord.same_comm (l r : FieldRecord) : l.same r = r.same l := by
  unfold FieldRecord.same
  rw [Bool.beq_comm, sameSet_comm]

section Swap

variable {α : Type}

lemma alignEntry_swap (overlay : String) (kind : EntityKind) {same same' : α → α → Bool}
    (hsame : ∀ l r, same' r l = same l r) (locL locR : α → Location) (k : String)
    (lo ro : Option α) :
    alignEntry overlay kind same' locR locL k ro lo =
      ((alignEntry overlay kind same locL locR k lo ro).1,
        (alignEntry overlay kind same locL locR k lo ro).2.map Marker.mirror) := by
  cases lo with
  | none => cases ro <;> rfl
  | some l =>
    cases ro with
    | none => rfl
    | some r =>
      -- both sides present: the content check and the pairing of the ranges are symmetric
      simp only [alignEntry, Option.map_some, hsame, Prod.mk.injEq, Option.some.injEq, true_and]
      cases same l r <;> cases (locL l).range <;> cases (locR r).range <;>
        simp [Marker.mirror, Status.mirror]

lemma pairUp_swap {left right : KeyMap α} :
    pairUp right left = (pairUp left right).map fun e => (e.1, e.2.2, e.2.1) := by
  have hswap : ((pairUp left right).map fun e => (e.1, e.2.2, e.2.1)).map (·.1) =
      (pairUp left right).map (·.1) := by
    rw [List.map_map]
    rfl
  refine eq_of_sorted_of_mem_iff (pairUp_sorted right left) (hswap ▸ pairUp_sorted left right) ?_
  rintro ⟨k, ro, lo⟩
  rw [mem_pairUp, List.mem_map]
  constructor
  · rintro ⟨hro, hlo, hsome⟩
    exact ⟨(k, lo, ro), mem_pairUp.mpr ⟨hlo, hro, hsome.symm⟩, rfl⟩
  · rintro ⟨⟨k', lo', ro'⟩, he, heq⟩
    simp only [Prod.mk.injEq] at heq
    obtain ⟨rfl, rfl, rfl⟩ := heq
    obtain ⟨hlo, hro, hsome⟩ := mem_pairUp.mp he
    exact ⟨hro, hlo, hsome.symm⟩

lemma alignKind_swap (overlay : String) (kind : EntityKind) {left right : KeyMap α}
    {same same' : α → α → Bool}
    (hsame : ∀ l r, same' r l = same l r) (locL locR : α → Location) :
    alignKind overlay kind right left same' locR locL =
      ((alignKind overlay kind left right same locL locR).1,
        (alignKind overlay kind left right same locL locR).2.map Marker.mirror) := by
  simp only [alignKind]
  rw [@pairUp_swap α left right]
  simp only [List.filterMap_map, List.map_filterMap]
  congr 1 <;> refine List.filterMap_congr fun e _ => ?_ <;>
    simp only [Function.comp_apply, alignEntry_swap overlay kind hsame locL locR]

end Swap

lemma superimpose_swap (left right : Snapshot) (sid : String) :
    (superimpose right left sid none).alignments = (superimpose left right sid none).alignments ∧
    (superimpose right left sid none).markers =
      (superimpose left right sid none).markers.map Marker.mirror := by
  obtain ⟨T, M, F, ha, hm, hT, hM, hF⟩ := superimpose_parts left right sid
  obtain ⟨T', M', F', ha', hm', hT', hM', hF'⟩ := superimpose_parts right left sid
  -- each kind, laid in the other order, is the mirror of itself
  have sT : T' = (T.1, T.2.map Marker.mirror) := by
    rw [hT', hT]
    exact alignKind_swap _ _
      (fun l r => TypeRecord.same_comm r l) _ _
  have sM : M' = (M.1, M.2.map Marker.mirror) := by
    rw [hM', hM]
    exact alignKind_swap _ _
      (fun l r => MethodRecord.same_comm r l) _ _
  have sF : F' = (F.1, F.2.map Marker.mirror) := by
    rw [hF', hF]
    exact alignKind_swap _ _
      (fun l r => FieldRecord.same_comm r l) (fun f => { file := left.ownerFile f.owner })
      (fun f => { file := right.ownerFile f.owner })
  rw [ha, ha', hm, hm', sT, sM, sF]
  simp

namespace Summary

def row (s : Summary) (kn : String) : KeyMap Nat := (s.counts.get? kn).getD KeyMap.empty

lemma count_eq_row (s : Summary) (k : EntityKind) (st : Status) :
    s.count k st = ((s.row k.name).get? st.name).getD 0 := by
  unfold count row
  cases s.counts.get? k.name <;> rfl

lemma row_record (s : Summary) (m : Marker) (kn : String) :
    (s.record m).row kn =
      if kn = m.kind.name then (s.row kn).alter m.status.name 0 (· + 1) else s.row kn := by
  unfold row record
  rw [get?_alter]
  split_ifs with h
  · subst h
    rfl
  · rfl

lemma isSome_counts_record (s : Summary) (m : Marker) (kn : String) :
    ((s.record m).counts.get? kn).isSome =
      if kn = m.kind.name then true else (s.counts.get? kn).isSome := by
  unfold record
  rw [get?_alter]
  split_ifs <;> rfl

/-- Two summaries as laid in the two orders: the same sample, the repositories exchanged, the same
kinds counted, and each kind's counts the same once the names of added and removed trade
places. -/
structure Mirrors (s s' : Summary) : Prop where
  rows : ∀ kn sn, (s'.row kn).get? sn = (s.row kn).get? (Status.mirrorName sn)
  kinds : ∀ kn, (s'.counts.get? kn).isSome = (s.counts.get? kn).isSome
  sample : s'.sample = s.sample
  left_repo : s'.leftRepo = s.rightRepo
  right_repo : s'.rightRepo = s.leftRepo

lemma Mirrors.count {s s' : Summary} (h : s.Mirrors s') (k : EntityKind) (st : Status) :
    s'.count k st = s.count k st.mirror := by
  rw [count_eq_row, count_eq_row, h.rows, Status.mirrorName_name]

lemma Mirrors.record {s s' : Summary} (h : s.Mirrors s') (m : Marker) :
    (s.record m).Mirrors (s'.record m.mirror) where
  rows kn sn := by
    rw [row_record, row_record, Marker.mirror_kind, Marker.mirror_status]
    split_ifs with hk
    · rw [get?_alter, get?_alter, h.rows, h.rows, Status.mirrorName_name, Status.mirror_mirror]
      -- the mirrored status's name is the name that mirrors to the status's name
      have hname : sn = m.status.mirror.name ↔ Status.mirrorName sn = m.status.name := by
        constructor
        · rintro rfl
          rw [Status.mirrorName_name, Status.mirror_mirror]
        · intro hs
          rw [← Status.mirrorName_mirrorName sn, hs, Status.mirrorName_name]
      by_cases hs : sn = m.status.mirror.name
      · rw [if_pos hs, if_pos (hname.mp hs)]
      · rw [if_neg hs, if_neg (mt hname.mpr hs)]
    · exact h.rows kn sn
  kinds kn := by
    rw [isSome_counts_record, isSome_counts_record, h.kinds]
    rfl
  sample := by
    simp only [Summary.record, Marker.mirror, Status.mirror_beq_changed, h.sample]
  left_repo := h.left_repo
  right_repo := h.right_repo

lemma Mirrors.foldl {s s' : Summary} (h : s.Mirrors s') (ms : List Marker) :
    (ms.foldl Summary.record s).Mirrors ((ms.map Marker.mirror).foldl Summary.record s') := by
  induction ms generalizing s s' with
  | nil => exact h
  | cons m ms ih => exact ih (h.record m)

lemma mirrors_ofMarkers (overlay project project' leftRepo rightRepo : String)
    (ms : List Marker) :
    (ofMarkers overlay project leftRepo rightRepo ms).Mirrors
      (ofMarkers overlay project' rightRepo leftRepo (ms.map Marker.mirror)) := by
  unfold ofMarkers
  refine Mirrors.foldl ?_ ms
  exact ⟨fun _ _ => rfl, fun _ => rfl, rfl, rfl, rfl⟩

end Summary

/-- Laying the right snapshot over the left gives the mirror of laying the left over the right:
the same markers in the same order, each with added and removed exchanged and its files and line
ranges exchanged; the same alignments; and a summary with the same sample, the repositories
exchanged, and the counts of added and removed exchanged, kind by kind. -/
theorem superimpose_mirror (left right : Snapshot) (sid : String) :
    let o := superimpose left right sid none
    let o' := superimpose right left sid none
    o'.markers = o.markers.map Marker.mirror ∧ o'.alignments = o.alignments ∧
      o.summary.Mirrors o'.summary ∧
      ∀ k st, o'.summary.count k st = o.summary.count k st.mirror := by
  intro o o'
  obtain ⟨ha, hm⟩ := superimpose_swap left right sid
  -- the summary of an overlay counts its markers
  have hsum : o'.summary =
      Summary.ofMarkers sid right.project right.repo left.repo (o.markers.map Marker.mirror) := by
    rw [← hm]
    rfl
  have hmirror : o.summary.Mirrors o'.summary := by
    rw [hsum]
    exact Summary.mirrors_ofMarkers sid left.project right.project left.repo right.repo _
  exact ⟨hm, ha, hmirror, hmirror.count⟩

end CodeGraph
