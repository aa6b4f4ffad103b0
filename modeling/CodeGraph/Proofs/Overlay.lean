import Mathlib
import CodeGraph.Overlay.Align
import CodeGraph.Proofs.KeyMap

/-! Laying two snapshots over each other marks every key of every kind once; where the rendering
of keys tells identities apart, the markers are exactly one per identity. -/

namespace CodeGraph

open KeyMap

section Pairing

variable {α : Type}

lemma pairUp_eq (left right : KeyMap α) :
    pairUp left right =
      (right.entries.foldl (fun m e => m.alter e.1 (none, none) fun p => (p.1, some e.2))
        (left.entries.foldl (fun m e => m.insert e.1 (some e.2, none)) KeyMap.empty)).entries :=
  rfl

lemma pairUp_sorted (left right : KeyMap α) :
    ((pairUp left right).map (·.1)).Pairwise (· < ·) := by
  rw [pairUp_eq]
  exact KeyMap.sorted _

lemma mem_pairUp {left right : KeyMap α} {k : String}
    {lo ro : Option α} :
    (k, lo, ro) ∈ pairUp left right ↔
      left.get? k = lo ∧ right.get? k = ro ∧ (lo.isSome ∨ ro.isSome) := by
  -- the pairs are the entries of a sorted map, so membership is lookup
  rw [pairUp_eq, mem_entries_iff]
  have hright := get?_foldl_alter_of_nodup (fun r (p : Option α × Option α) => (p.1, some r))
    (none, none) right.entries right.nodup_keys
    (left.entries.foldl (fun m e => m.insert e.1 (some e.2, none)) KeyMap.empty) k
  have hleft := get?_foldl_insert_of_nodup (fun l => ((some l, none) : Option α × Option α))
    left.entries left.nodup_keys KeyMap.empty k
  beta_reduce at hright hleft
  rw [hright, hleft]
  simp only [get?_empty, Option.or_none]
  simp only [get?]
  cases left.entries.find? (·.1 == k) <;> cases right.entries.find? (·.1 == k) <;>
    cases lo <;> cases ro <;> simp

lemma mem_keys_pairUp {left right : KeyMap α} {k : String} :
    k ∈ (pairUp left right).map (·.1) ↔ k ∈ left.keys ∨ k ∈ right.keys := by
  rw [← get?_isSome_iff, ← get?_isSome_iff]
  constructor
  · intro hk
    obtain ⟨⟨k', lo, ro⟩, he, rfl⟩ := List.mem_map.mp hk
    obtain ⟨rfl, rfl, h⟩ := mem_pairUp.mp he
    exact h
  · intro h
    exact List.mem_map.mpr ⟨(k, left.get? k, right.get? k), mem_pairUp.mpr ⟨rfl, rfl, h⟩, rfl⟩

end Pairing

section Marking

variable {α : Type} (overlay : String) (kind : EntityKind) (same : α → α → Bool)
  (locateLeft locateRight : α → Location)

lemma alignEntry_marker (k : String) (lo ro : Option α) (h : lo.isSome ∨ ro.isSome) :
    ∃ m, (alignEntry overlay kind same locateLeft locateRight k lo ro).2 = some m ∧
      m.overlay = overlay ∧ m.kind = kind ∧ m.key = k ∧
      (m.status = .removed ↔ lo.isSome ∧ ro = none) ∧
      (m.status = .added ↔ lo = none ∧ ro.isSome) ∧
      ∀ l r, lo = some l → ro = some r → m.status = if same l r then .unchanged else .changed := by
  cases lo with
  | none =>
    cases ro with
    | none => simp at h
    | some r => exact ⟨_, rfl, rfl, rfl, rfl, by simp, by simp, by simp⟩
  | some l =>
    cases ro with
    | none => exact ⟨_, rfl, rfl, rfl, rfl, by simp, by simp, by simp⟩
    | some r =>
      refine ⟨_, rfl, rfl, rfl, rfl, ?_, ?_, ?_⟩
      · cases same l r <;> simp
      · cases same l r <;> simp
      · rintro l' r' ⟨⟩ ⟨⟩
        rfl

lemma alignEntry_alignment (k : String) (lo ro : Option α) :
    (alignEntry overlay kind same locateLeft locateRight k lo ro).1 =
      if lo.isSome ∧ ro.isSome then some ⟨kind, k⟩ else none := by
  cases lo <;> cases ro <;> rfl

lemma alignEntry_of_eq_some {k : String} {lo ro : Option α} {m : Marker}
    (h : (alignEntry overlay kind same locateLeft locateRight k lo ro).2 = some m) :
    m.overlay = overlay ∧ m.kind = kind ∧ m.key = k := by
  cases lo <;> cases ro <;> simp only [alignEntry, reduceCtorEq, Option.some.injEq] at h <;>
    subst h <;> exact ⟨rfl, rfl, rfl⟩

variable {left right : KeyMap α}

lemma mem_markers_alignKind {m : Marker} :
    m ∈ (alignKind overlay kind left right same locateLeft locateRight).2 ↔
      ∃ e ∈ pairUp left right, (alignEntry overlay kind same locateLeft locateRight e.1 e.2.1 e.2.2).2 = some m :=
  List.mem_filterMap

lemma mem_alignments_alignKind {a : Alignment} :
    a ∈ (alignKind overlay kind left right same locateLeft locateRight).1 ↔
      ∃ e ∈ pairUp left right, (alignEntry overlay kind same locateLeft locateRight e.1 e.2.1 e.2.2).1 = some a :=
  List.mem_filterMap

lemma kind_markers_alignKind :
    ∀ m ∈ (alignKind overlay kind left right same locateLeft locateRight).2, m.kind = kind := by
  intro m hm
  obtain ⟨e, -, he⟩ := (mem_markers_alignKind overlay kind same locateLeft locateRight).mp hm
  exact (alignEntry_of_eq_some overlay kind same locateLeft locateRight he).2.1

lemma kind_alignments_alignKind :
    ∀ a ∈ (alignKind overlay kind left right same locateLeft locateRight).1, a.kind = kind := by
  intro a ha
  obtain ⟨e, -, he⟩ := (mem_alignments_alignKind overlay kind same locateLeft locateRight).mp ha
  rw [alignEntry_alignment] at he
  split_ifs at he
  cases he
  rfl

lemma keys_markers_alignKind :
    (alignKind overlay kind left right same locateLeft locateRight).2.map (·.key) =
      (pairUp left right).map (·.1) := by
  have hall : ∀ e ∈ pairUp left right, ∃ m,
      (alignEntry overlay kind same locateLeft locateRight e.1 e.2.1 e.2.2).2 = some m ∧ m.key = e.1 := by
    rintro ⟨k, lo, ro⟩ he
    obtain ⟨-, -, hsome⟩ := mem_pairUp.mp he
    obtain ⟨m, hm, -, -, hk, -⟩ := alignEntry_marker overlay kind same locateLeft locateRight k lo ro hsome
    exact ⟨m, hm, hk⟩
  unfold alignKind
  dsimp only
  generalize pairUp left right = es at hall ⊢
  induction es with
  | nil => rfl
  | cons e es ih =>
    obtain ⟨m, hm, hk⟩ := hall e List.mem_cons_self
    rw [List.filterMap_cons, hm, List.map_cons, List.map_cons, hk,
      ih fun e' he' => hall e' (List.mem_cons_of_mem e he')]

lemma keys_alignments_alignKind_sublist :
    ((alignKind overlay kind left right same locateLeft locateRight).1.map (·.key)).Sublist
      ((pairUp left right).map (·.1)) := by
  unfold alignKind
  dsimp only
  induction pairUp left right with
  | nil => exact List.Sublist.slnil
  | cons e es ih =>
    rw [List.filterMap_cons, alignEntry_alignment, List.map_cons]
    split_ifs
    · exact ih.cons_cons e.1
    · exact ih.cons e.1

end Marking

section Records

variable {α ι : Type} [DecidableEq ι]

lemma get?_byKey (key : α → String) (rs : List α) (k : String) :
    (byKey key rs).get? k = rs.find? (key · == k) := by
  rw [byKey, get?_foldl_insertNew]
  simp

lemma mem_keys_byKey (key : α → String) (rs : List α) (k : String) :
    k ∈ (byKey key rs).keys ↔ ∃ x ∈ rs, key x = k := by
  rw [← get?_isSome_iff, get?_byKey, List.find?_isSome]
  simp

lemma length_markers_alignKind (key : α → String) (overlay : String) (kind : EntityKind)
    (same : α → α → Bool) (locateLeft locateRight : α → Location) (ls rs : List α) :
    (alignKind overlay kind (byKey key ls) (byKey key rs) same locateLeft locateRight).2.length =
      (ls.map key ++ rs.map key).dedup.length := by
  have hperm : ((pairUp (byKey key ls) (byKey key rs)).map (·.1)).Perm
      (ls.map key ++ rs.map key).dedup := by
    refine (List.perm_ext_iff_of_nodup ((pairUp_sorted _ _).imp ne_of_lt)
      (List.nodup_dedup _)).mpr fun k => ?_
    rw [mem_keys_pairUp, mem_keys_byKey, mem_keys_byKey, List.mem_dedup, List.mem_append,
      List.mem_map, List.mem_map]
  rw [← List.length_map (f := Marker.key), keys_markers_alignKind _ _ _ _ _,
    hperm.length_eq]

omit [DecidableEq ι] in
lemma length_dedup_map_iff [DecidableEq ι] {β : Type} [DecidableEq β] (f : ι → β) (l : List ι) :
    (l.map f).dedup.length = l.dedup.length ↔ Set.InjOn f {x | x ∈ l} := by
  have himage : (l.map f).toFinset = l.toFinset.image f := by
    ext y
    simp
  rw [← List.card_toFinset, ← List.card_toFinset, himage, Finset.card_image_iff, List.coe_toFinset]

omit [DecidableEq ι] in
lemma length_markers_render (ident : α → ι) (render : ι → String) {key : α → String}
    (hkey : ∀ x, key x = render (ident x)) (overlay : String) (kind : EntityKind)
    (same : α → α → Bool) (locateLeft locateRight : α → Location) (ls rs : List α) :
    (alignKind overlay kind (byKey key ls) (byKey key rs) same locateLeft locateRight).2.length =
      ((ls.map ident ++ rs.map ident).map render).dedup.length := by
  have hmap : ls.map key ++ rs.map key = (ls.map ident ++ rs.map ident).map render := by
    simp only [List.map_append, List.map_map]
    congr 1 <;> exact List.map_congr_left fun x _ => hkey x
  rw [length_markers_alignKind, hmap]

variable (ident : α → ι) (render : ι → String)

/-- What the alignments and markers of one kind say of the records `ls` and `rs` of the two
sides, each record identified by `ident` and keyed by the rendering `render` of its identity;
on each side an identity stands for the first record that has it. -/
structure KindOverlaid (overlay : String) (kind : EntityKind) (same : α → α → Bool)
    (ls rs : List α) (aligned : List Alignment) (markers : List Marker) : Prop where
  marker_of : ∀ i ∈ ls.map ident ++ rs.map ident, ∃ m ∈ markers, m.key = render i ∧
    (m.status = .removed ↔ i ∈ ls.map ident ∧ i ∉ rs.map ident) ∧
    (m.status = .added ↔ i ∉ ls.map ident ∧ i ∈ rs.map ident) ∧
    ∀ l r, ls.find? (ident · = i) = some l → rs.find? (ident · = i) = some r →
      m.status = if same l r then .unchanged else .changed
  marked : ∀ m ∈ markers, m.overlay = overlay ∧ m.kind = kind ∧
    ∃ i ∈ ls.map ident ++ rs.map ident, m.key = render i
  count : markers.length = (ls.map ident ++ rs.map ident).dedup.length
  markers_sorted : (markers.map (·.key)).Pairwise (· < ·)
  aligned_iff : ∀ a, a ∈ aligned ↔ ∃ i ∈ ls.map ident, i ∈ rs.map ident ∧ a = ⟨kind, render i⟩
  aligned_sorted : (aligned.map (·.key)).Pairwise (· < ·)

variable {key : α → String} (hkey : ∀ x, key x = render (ident x)) {present : List ι}
  (hinj : Set.InjOn render {i | i ∈ present})
include hkey hinj

omit [DecidableEq ι] in
lemma key_eq_render_iff {x : α} (hx : ident x ∈ present) {i : ι} (hi : i ∈ present) :
    key x = render i ↔ ident x = i := by
  rw [hkey]
  exact ⟨fun h => hinj hx hi h, fun h => h ▸ rfl⟩

lemma find?_key_eq {rs : List α} (hrs : ∀ x ∈ rs, ident x ∈ present) {i : ι} (hi : i ∈ present) :
    rs.find? (key · == render i) = rs.find? (ident · = i) := by
  induction rs with
  | nil => rfl
  | cons x xs ih =>
    have hx : (key x == render i) = decide (ident x = i) := by
      rw [Bool.eq_iff_iff, beq_iff_eq, decide_eq_true_iff,
        key_eq_render_iff ident render hkey hinj (hrs x List.mem_cons_self) hi]
    rw [List.find?_cons, List.find?_cons, hx, ih fun y hy => hrs y (List.mem_cons_of_mem x hy)]

omit [DecidableEq ι] in
lemma render_mem_keys_byKey {rs : List α} (hrs : ∀ x ∈ rs, ident x ∈ present) {i : ι}
    (hi : i ∈ present) : render i ∈ (byKey key rs).keys ↔ i ∈ rs.map ident := by
  rw [mem_keys_byKey, List.mem_map]
  constructor
  · rintro ⟨x, hx, hk⟩
    exact ⟨x, hx, (key_eq_render_iff ident render hkey hinj (hrs x hx) hi).mp hk⟩
  · rintro ⟨x, hx, rfl⟩
    exact ⟨x, hx, hkey x⟩

end Records

lemma kindOverlaid_alignKind {α ι : Type} [DecidableEq ι] (ident : α → ι) (render : ι → String)
    {key : α → String} (hkey : ∀ x, key x = render (ident x)) (overlay : String)
    (kind : EntityKind) (same : α → α → Bool) (locateLeft locateRight : α → Location)
    (ls rs : List α) (hinj : Set.InjOn render {i | i ∈ ls.map ident ++ rs.map ident}) :
    KindOverlaid ident render overlay kind same ls rs
      (alignKind overlay kind (byKey key ls) (byKey key rs) same locateLeft locateRight).1
      (alignKind overlay kind (byKey key ls) (byKey key rs) same locateLeft locateRight).2 := by
  have hls : ∀ x ∈ ls, ident x ∈ ls.map ident ++ rs.map ident :=
    fun x hx => List.mem_append_left _ (List.mem_map_of_mem hx)
  have hrs : ∀ x ∈ rs, ident x ∈ ls.map ident ++ rs.map ident :=
    fun x hx => List.mem_append_right _ (List.mem_map_of_mem hx)
  -- under the rendering of a present identity, each side holds the first record with it
  have hgetL : ∀ i ∈ ls.map ident ++ rs.map ident,
      (byKey key ls).get? (render i) = ls.find? (ident · = i) := fun i hi => by
    rw [get?_byKey, find?_key_eq ident render hkey hinj hls hi]
  have hgetR : ∀ i ∈ ls.map ident ++ rs.map ident,
      (byKey key rs).get? (render i) = rs.find? (ident · = i) := fun i hi => by
    rw [get?_byKey, find?_key_eq ident render hkey hinj hrs hi]
  have hmemL := fun i hi => render_mem_keys_byKey ident render hkey hinj hls (i := i) hi
  have hmemR := fun i hi => render_mem_keys_byKey ident render hkey hinj hrs (i := i) hi
  -- every key of either side renders a present identity
  have hkeyOf : ∀ k, k ∈ (byKey key ls).keys ∨ k ∈ (byKey key rs).keys →
      ∃ i ∈ ls.map ident ++ rs.map ident, k = render i := by
    rintro k (hk | hk)
    · obtain ⟨x, hx, rfl⟩ := (mem_keys_byKey key ls k).mp hk
      exact ⟨ident x, hls x hx, hkey x⟩
    · obtain ⟨x, hx, rfl⟩ := (mem_keys_byKey key rs k).mp hk
      exact ⟨ident x, hrs x hx, hkey x⟩
  constructor
  case marker_of =>
    intro i hi
    have hsome : ((byKey key ls).get? (render i)).isSome ∨
        ((byKey key rs).get? (render i)).isSome := by
      rw [get?_isSome_iff, get?_isSome_iff, hmemL i hi, hmemR i hi, ← List.mem_append]
      exact hi
    obtain ⟨m, hm, -, -, hk, hrem, hadd, hsame⟩ :=
      alignEntry_marker overlay kind same locateLeft locateRight (render i) _ _ hsome
    refine ⟨m, (mem_markers_alignKind overlay kind same locateLeft locateRight).mpr
      ⟨_, mem_pairUp.mpr ⟨rfl, rfl, hsome⟩, hm⟩, hk, ?_, ?_, ?_⟩
    · rw [hrem, get?_isSome_iff, get?_eq_none_iff, hmemL i hi, hmemR i hi]
    · rw [hadd, get?_eq_none_iff, get?_isSome_iff, hmemL i hi, hmemR i hi]
    · intro l r hl' hr'
      exact hsame l r (by rw [hgetL i hi, hl']) (by rw [hgetR i hi, hr'])
  case marked =>
    intro m hm
    obtain ⟨⟨k, lo, ro⟩, he, hm⟩ := (mem_markers_alignKind overlay kind same locateLeft locateRight).mp hm
    obtain ⟨rfl, rfl, hsome⟩ := mem_pairUp.mp he
    obtain ⟨hov, hkind, hk⟩ := alignEntry_of_eq_some overlay kind same locateLeft locateRight hm
    rw [get?_isSome_iff, get?_isSome_iff] at hsome
    obtain ⟨i, hi, rfl⟩ := hkeyOf k hsome
    exact ⟨hov, hkind, i, hi, hk⟩
  case count =>
    -- one marker per key, and the keys render the present identities one to one
    rw [length_markers_render ident render hkey, (length_dedup_map_iff render _).mpr hinj]
  case markers_sorted =>
    rw [keys_markers_alignKind _ _ _ _ _]
    exact pairUp_sorted _ _
  case aligned_iff =>
    intro a
    rw [mem_alignments_alignKind]
    constructor
    · rintro ⟨⟨k, lo, ro⟩, he, ha⟩
      obtain ⟨rfl, rfl, -⟩ := mem_pairUp.mp he
      rw [alignEntry_alignment] at ha
      split_ifs at ha with hboth
      cases ha
      obtain ⟨hL, hR⟩ := hboth
      rw [get?_isSome_iff] at hL hR
      obtain ⟨i, hi, rfl⟩ := hkeyOf _ (Or.inl hL)
      exact ⟨i, (hmemL i hi).mp hL, (hmemR i hi).mp hR, rfl⟩
    · rintro ⟨i, hiL, hiR, rfl⟩
      have hi : i ∈ ls.map ident ++ rs.map ident := List.mem_append_left _ hiL
      have hL := (get?_isSome_iff _ _).mpr ((hmemL i hi).mpr hiL)
      have hR := (get?_isSome_iff _ _).mpr ((hmemR i hi).mpr hiR)
      refine ⟨(render i, (byKey key ls).get? (render i), (byKey key rs).get? (render i)),
        mem_pairUp.mpr ⟨rfl, rfl, Or.inl hL⟩, ?_⟩
      rw [alignEntry_alignment, if_pos ⟨hL, hR⟩]
  case aligned_sorted =>
    exact (pairUp_sorted _ _).sublist (keys_alignments_alignKind_sublist _ _ _ _ _)

def memberKey (p : String × String) : String := p.1 ++ "::" ++ p.2

lemma append_cons_inj_of_not_mem {c : Char} :
    ∀ {a₁ a₂ r₁ r₂ : List Char}, c ∉ a₁ → c ∉ a₂ → a₁ ++ c :: r₁ = a₂ ++ c :: r₂ →
      a₁ = a₂ ∧ r₁ = r₂
  | [], [], _, _, _, _, h => ⟨rfl, by simpa using h⟩
  | [], x :: _, _, _, _, h₂, h => absurd (List.cons.inj h).1 fun hx => h₂ (hx ▸ List.mem_cons_self)
  | x :: _, [], _, _, h₁, _, h => absurd (List.cons.inj h).1 fun hx => h₁ (hx ▸ List.mem_cons_self)
  | x :: a₁, y :: a₂, _, _, h₁, h₂, h => by
    obtain ⟨rfl, ht⟩ := List.cons.inj h
    obtain ⟨rfl, rfl⟩ := append_cons_inj_of_not_mem (fun hc => h₁ (List.mem_cons_of_mem x hc))
      (fun hc => h₂ (List.mem_cons_of_mem x hc)) ht
    exact ⟨rfl, rfl⟩

lemma memberKey_injOn {l : List (String × String)} (h : ∀ p ∈ l, ':' ∉ p.1.toList) :
    Set.InjOn memberKey {p | p ∈ l} := by
  rintro ⟨o₁, s₁⟩ h₁ ⟨o₂, s₂⟩ h₂ heq
  have hlist := congrArg String.toList heq
  have hsep : "::".toList = [':', ':'] := by decide
  simp only [memberKey, String.toList_append, hsep, List.append_assoc, List.cons_append,
    List.nil_append] at hlist
  obtain ⟨ho, hs⟩ := append_cons_inj_of_not_mem (h _ h₁) (h _ h₂) hlist
  rw [String.toList_inj] at ho
  rw [List.cons.injEq, String.toList_inj] at hs
  exact Prod.ext ho hs.2

lemma filter_kind {β : Type} (kindOf : β → EntityKind) {k : EntityKind} {l : List β}
    (h : ∀ x ∈ l, kindOf x = k) (k' : EntityKind) :
    l.filter (fun x => kindOf x = k') = if k = k' then l else [] := by
  split_ifs with hk
  · exact List.filter_eq_self.mpr fun x hx => by simp [h x hx, hk]
  · exact List.filter_eq_nil_iff.mpr fun x hx => by simp [h x hx, hk]

lemma pairwise_lex_of_rank {β : Type} (rankOf : β → ℕ) (keyOf : β → String) {r : ℕ} {l : List β}
    (h : ∀ x ∈ l, rankOf x = r) (hs : (l.map keyOf).Pairwise (· < ·)) :
    (l.map fun x => (rankOf x, keyOf x)).Pairwise (Prod.Lex (· < ·) (· < ·)) := by
  rw [List.pairwise_map] at hs ⊢
  refine hs.imp_of_mem fun ha hb hab => ?_
  rw [h _ ha, h _ hb]
  exact Prod.Lex.right _ hab

lemma pairwise_lex_append {l₁ l₂ : List (ℕ × String)}
    (h₁ : l₁.Pairwise (Prod.Lex (· < ·) (· < ·))) (h₂ : l₂.Pairwise (Prod.Lex (· < ·) (· < ·)))
    (h : ∀ a ∈ l₁, ∀ b ∈ l₂, a.1 < b.1) : (l₁ ++ l₂).Pairwise (Prod.Lex (· < ·) (· < ·)) :=
  List.pairwise_append.mpr ⟨h₁, h₂, fun a ha b hb => Prod.Lex.left _ _ (h a ha b hb)⟩

lemma pairwise_lex_kinds {β : Type} (kindOf : β → EntityKind) (keyOf : β → String)
    {A B C : List β} (hA : ∀ x ∈ A, kindOf x = .type) (hB : ∀ x ∈ B, kindOf x = .method)
    (hC : ∀ x ∈ C, kindOf x = .field) (sA : (A.map keyOf).Pairwise (· < ·))
    (sB : (B.map keyOf).Pairwise (· < ·)) (sC : (C.map keyOf).Pairwise (· < ·)) :
    ((A ++ B ++ C).map fun x => ((kindOf x).rank, keyOf x)).Pairwise (Prod.Lex (· < ·) (· < ·)) := by
  rw [List.map_append, List.map_append]
  refine pairwise_lex_append (pairwise_lex_append ?_ ?_ ?_) ?_ ?_
  · exact pairwise_lex_of_rank _ _ (fun x hx => by rw [hA x hx]) sA
  · exact pairwise_lex_of_rank _ _ (fun x hx => by rw [hB x hx]) sB
  · simp only [List.mem_map]
    rintro _ ⟨x, hx, rfl⟩ _ ⟨y, hy, rfl⟩
    simp [hA x hx, hB y hy, EntityKind.rank]
  · exact pairwise_lex_of_rank _ _ (fun x hx => by rw [hC x hx]) sC
  · simp only [List.mem_append, List.mem_map]
    rintro _ (⟨x, hx, rfl⟩ | ⟨x, hx, rfl⟩) _ ⟨y, hy, rfl⟩
    · simp [hA x hx, hC y hy, EntityKind.rank]
    · simp [hB x hx, hC y hy, EntityKind.rank]

lemma superimpose_parts (left right : Snapshot) (sid : String) :
    ∃ T M F : List Alignment × List Marker,
      (superimpose left right sid none).alignments = T.1 ++ M.1 ++ F.1 ∧
      (superimpose left right sid none).markers = T.2 ++ M.2 ++ F.2 ∧
      T = alignKind sid .type (byKey (·.fqn) left.types.values) (byKey (·.fqn) right.types.values)
        TypeRecord.same (fun t => { file := some t.file }) (fun t => { file := some t.file }) ∧
      M = alignKind sid .method (byKey MethodRecord.key left.methods)
        (byKey MethodRecord.key right.methods) MethodRecord.same left.methodLocation
        right.methodLocation ∧
      F = alignKind sid .field (byKey FieldRecord.key left.fields)
        (byKey FieldRecord.key right.fields) FieldRecord.same
        (fun f => { file := left.ownerFile f.owner }) (fun f => { file := right.ownerFile f.owner }) :=
  ⟨_, _, _, rfl, rfl, rfl, rfl, rfl⟩

/-- Laying two snapshots over each other gives, for each kind, one marker per identity present
on either side, under its rendered key and the overlay's identifier: removed when only on the
left, added when only on the right, and unchanged or changed as the first records of the two
sides are the same or not; the alignments are the identities on both sides; markers and
alignments strictly increase by kind, types then methods then fields, and then by key. This
holds exactly when the members' rendered keys tell their identities apart. -/
theorem superimpose_marks_each_identity (left right : Snapshot) (sid : String) :
    (Set.InjOn memberKey {i | i ∈ left.methods.map (·.ident) ++ right.methods.map (·.ident)} ∧
      Set.InjOn memberKey {i | i ∈ left.fields.map (·.ident) ++ right.fields.map (·.ident)}) ↔
    let o := superimpose left right sid none
    KindOverlaid (·.fqn) id sid .type TypeRecord.same left.types.values right.types.values
      (o.alignments.filter (·.kind = .type)) (o.markers.filter (·.kind = .type)) ∧
    KindOverlaid MethodRecord.ident memberKey sid .method MethodRecord.same left.methods right.methods
      (o.alignments.filter (·.kind = .method)) (o.markers.filter (·.kind = .method)) ∧
    KindOverlaid FieldRecord.ident memberKey sid .field FieldRecord.same left.fields right.fields
      (o.alignments.filter (·.kind = .field)) (o.markers.filter (·.kind = .field)) ∧
    (o.markers.map fun m => (m.kind.rank, m.key)).Pairwise (Prod.Lex (· < ·) (· < ·)) ∧
    (o.alignments.map fun a => (a.kind.rank, a.key)).Pairwise (Prod.Lex (· < ·) (· < ·)) := by
  obtain ⟨T, M, F, ha, hm, hT, hM, hF⟩ := superimpose_parts left right sid
  -- the kind of every marker and alignment of each part
  have kT : ∀ m ∈ T.2, m.kind = .type := hT ▸ kind_markers_alignKind _ _ _ _ _
  have kM : ∀ m ∈ M.2, m.kind = .method := hM ▸ kind_markers_alignKind _ _ _ _ _
  have kF : ∀ m ∈ F.2, m.kind = .field := hF ▸ kind_markers_alignKind _ _ _ _ _
  have aT : ∀ a ∈ T.1, a.kind = .type := hT ▸ kind_alignments_alignKind _ _ _ _ _
  have aM : ∀ a ∈ M.1, a.kind = .method := hM ▸ kind_alignments_alignKind _ _ _ _ _
  have aF : ∀ a ∈ F.1, a.kind = .field := hF ▸ kind_alignments_alignKind _ _ _ _ _
  simp only [ha, hm, List.filter_append, filter_kind Marker.kind kT, filter_kind Marker.kind kM,
    filter_kind Marker.kind kF, filter_kind Alignment.kind aT, filter_kind Alignment.kind aM,
    filter_kind Alignment.kind aF]
  simp only [reduceCtorEq, ↓reduceIte, List.append_nil, List.nil_append]
  constructor
  · rintro ⟨hmethods, hfields⟩
    have KT : KindOverlaid (·.fqn) id sid .type TypeRecord.same left.types.values
        right.types.values T.1 T.2 :=
      hT ▸ kindOverlaid_alignKind _ id (fun _ => rfl) sid .type TypeRecord.same _ _ _ _
        (Set.injOn_id _)
    have KM : KindOverlaid MethodRecord.ident memberKey sid .method MethodRecord.same
        left.methods right.methods M.1 M.2 :=
      hM ▸ kindOverlaid_alignKind _ memberKey (fun _ => rfl) sid .method MethodRecord.same _ _ _ _
        hmethods
    have KF : KindOverlaid FieldRecord.ident memberKey sid .field FieldRecord.same left.fields
        right.fields F.1 F.2 :=
      hF ▸ kindOverlaid_alignKind _ memberKey (fun _ => rfl) sid .field FieldRecord.same _ _ _ _
        hfields
    exact ⟨KT, KM, KF,
      pairwise_lex_kinds _ _ kT kM kF KT.markers_sorted KM.markers_sorted KF.markers_sorted,
      pairwise_lex_kinds _ _ aT aM aF KT.aligned_sorted KM.aligned_sorted KF.aligned_sorted⟩
  · -- two identities sharing a rendered key would leave fewer markers than identities
    rintro ⟨-, KM, KF, -, -⟩
    refine ⟨(length_dedup_map_iff memberKey _).mp ?_, (length_dedup_map_iff memberKey _).mp ?_⟩
    · rw [← KM.count, hM, length_markers_render MethodRecord.ident memberKey
        (fun m => (rfl : m.key = memberKey m.ident))]
    · rw [← KF.count, hF, length_markers_render FieldRecord.ident memberKey
        (fun f => (rfl : f.key = memberKey f.ident))]

end CodeGraph
