import Mathlib
import CodeGraph.KeyMap

/-! Lookup in a `KeyMap` after each update. Lookups need no order; sizes, sums of values and
reading a map back from its entries use the order of the keys every map carries. -/

namespace CodeGraph.KeyMap

variable {α β : Type}

@[simp] lemma keys_mk (l : List (String × α)) (h : (l.map (·.1)).Pairwise (· < ·)) :
    (⟨l, h⟩ : KeyMap α).keys = l.map (·.1) := rfl

@[simp] lemma entries_insert (m : KeyMap α) (k : String) (v : α) :
    (m.insert k v).entries = putSorted k v m.entries := rfl

@[simp] lemma entries_filter (m : KeyMap α) (p : String × α → Bool) :
    (m.filter p).entries = m.entries.filter p := rfl

lemma alter_eq (m : KeyMap α) (k : String) (d : α) (f : α → α) :
    m.alter k d f = m.insert k (f ((m.get? k).getD d)) := rfl

@[simp] lemma get?_empty (k : String) : (empty : KeyMap α).get? k = none := rfl

lemma find?_putSorted (k k' : String) (v : α) (l : List (String × α)) :
    (putSorted k v l).find? (·.1 == k') =
      if k' = k then some (k, v) else l.find? (·.1 == k') := by
  induction l with
  | nil =>
    by_cases h : k' = k
    · simp [putSorted, h]
    · simp [putSorted, h, Ne.symm h]
  | cons e l ih =>
    obtain ⟨k'', v''⟩ := e
    by_cases h1 : k = k''
    · subst h1
      by_cases h : k' = k
      · simp [putSorted, h]
      · simp [putSorted, h, Ne.symm h]
    · rw [putSorted, if_neg (by simpa using h1)]
      by_cases h2 : k < k''
      · by_cases h : k' = k
        · simp [h2, h]
        · simp [h2, h, Ne.symm h]
      · rw [if_neg h2]
        by_cases h3 : k'' = k'
        · have : k' ≠ k := fun h => h1 (h ▸ h3).symm
          simp [h3, this]
        · simp [h3, ih]

lemma get?_insert (m : KeyMap α) (k k' : String) (v : α) :
    (m.insert k v).get? k' = if k' = k then some v else m.get? k' := by
  simp only [get?, entries_insert, find?_putSorted]
  split_ifs <;> simp

@[simp] lemma get?_insert_self (m : KeyMap α) (k : String) (v : α) :
    (m.insert k v).get? k = some v := by
  simp [get?_insert]

lemma get?_insert_of_ne (m : KeyMap α) {k k' : String} (v : α) (h : k' ≠ k) :
    (m.insert k v).get? k' = m.get? k' := by
  simp [get?_insert, h]

lemma putSorted_putSorted (k : String) (v w : α) (l : List (String × α)) :
    putSorted k w (putSorted k v l) = putSorted k w l := by
  induction l with
  | nil => simp [putSorted]
  | cons e l ih =>
    obtain ⟨k', v'⟩ := e
    by_cases h1 : k = k'
    · simp [putSorted, h1]
    · by_cases h2 : k < k'
      · simp [putSorted, h1, h2]
      · simp [putSorted, h1, h2, ih]

@[simp] lemma insert_insert (m : KeyMap α) (k : String) (v w : α) :
    (m.insert k v).insert k w = m.insert k w := by
  simp only [insert, putSorted_putSorted]

lemma get?_alter (m : KeyMap α) (k k' : String) (d : α) (f : α → α) :
    (m.alter k d f).get? k' = if k' = k then some (f ((m.get? k).getD d)) else m.get? k' := by
  rw [alter_eq, get?_insert]

lemma get?_isSome_iff (m : KeyMap α) (k : String) : (m.get? k).isSome ↔ k ∈ m.keys := by
  simp [get?, keys, List.find?_isSome]

lemma get?_eq_none_iff (m : KeyMap α) (k : String) : m.get? k = none ↔ k ∉ m.keys := by
  rw [← get?_isSome_iff, Option.not_isSome_iff_eq_none]

lemma contains_iff (m : KeyMap α) (k : String) : m.contains k = true ↔ k ∈ m.keys := by
  simp [contains, keys]

lemma mem_keys_insert {m : KeyMap α} {k k' : String} {v : α} :
    k' ∈ (m.insert k v).keys ↔ k' = k ∨ k' ∈ m.keys := by
  simp only [keys, entries_insert]
  exact mem_keys_putSorted

lemma mem_of_get? {m : KeyMap α} {k : String} {v : α} (h : m.get? k = some v) :
    (k, v) ∈ m.entries := by
  simp only [get?, Option.map_eq_some_iff] at h
  obtain ⟨⟨k', v'⟩, hf, rfl⟩ := h
  have hk : k' = k := by simpa using List.find?_some hf
  exact hk ▸ List.mem_of_find?_eq_some hf

lemma nodup_keys (m : KeyMap α) : m.keys.Nodup :=
  m.sorted.imp ne_of_lt

lemma mem_entries_iff {m : KeyMap α} {k : String} {v : α} :
    (k, v) ∈ m.entries ↔ m.get? k = some v := by
  refine ⟨fun hm => ?_, mem_of_get?⟩
  have hk : (m.get? k).isSome := (get?_isSome_iff m k).mpr (List.mem_map_of_mem hm)
  obtain ⟨w, hw⟩ := Option.isSome_iff_exists.mp hk
  have hmw := mem_of_get? hw
  have heq := List.inj_on_of_nodup_map m.nodup_keys hm hmw rfl
  simp only [Prod.mk.injEq, true_and] at heq
  rw [hw, heq]

lemma eq_of_sorted_of_mem_iff {l₁ l₂ : List (String × α)} (h₁ : (l₁.map (·.1)).Pairwise (· < ·))
    (h₂ : (l₂.map (·.1)).Pairwise (· < ·)) (h : ∀ e, e ∈ l₁ ↔ e ∈ l₂) : l₁ = l₂ := by
  have hperm : l₁.Perm l₂ :=
    (List.perm_ext_iff_of_nodup (List.Nodup.of_map _ (h₁.imp ne_of_lt))
      (List.Nodup.of_map _ (h₂.imp ne_of_lt))).mpr h
  exact hperm.eq_of_pairwise (fun a b _ _ hab hba => absurd (hab.trans hba) (lt_irrefl _))
    (List.pairwise_map.mp h₁) (List.pairwise_map.mp h₂)

lemma ext_get? {m n : KeyMap α} (h : ∀ k, m.get? k = n.get? k) : m = n := by
  have he : m.entries = n.entries := by
    refine eq_of_sorted_of_mem_iff m.sorted n.sorted fun ⟨k, v⟩ => ?_
    rw [mem_entries_iff, mem_entries_iff, h]
  obtain ⟨l, hl⟩ := m
  obtain ⟨l', hl'⟩ := n
  subst he
  rfl

lemma size_insert_of_not_mem {m : KeyMap α} {k : String} (v : α) (hk : k ∉ m.keys) :
    (m.insert k v).size = m.size + 1 := by
  obtain ⟨l, hl⟩ := m
  simp only [keys_mk, List.mem_map, not_exists, not_and] at hk
  simp only [size, entries_insert]
  clear hl
  induction l with
  | nil => rfl
  | cons e l ih =>
    obtain ⟨k'', v''⟩ := e
    have hne : k ≠ k'' := fun h => hk (k'', v'') (by simp) h.symm
    simp only [putSorted, beq_iff_eq, hne, if_false]
    split_ifs
    · simp
    · simp only [List.length_cons, Nat.add_right_cancel_iff]
      exact ih fun x hx => hk x (List.mem_cons_of_mem _ hx)

lemma get?_eq_none_of_lt_head {k k'' : String} {v'' : α} {l : List (String × α)}
    (h : (((k'', v'') :: l).map (·.1)).Pairwise (· < ·)) (hk : k < k'') :
    (⟨(k'', v'') :: l, h⟩ : KeyMap α).get? k = none := by
  rw [get?_eq_none_iff, keys_mk]
  intro hm
  simp only [List.map_cons, List.mem_cons] at hm
  simp only [List.map_cons, List.pairwise_cons] at h
  rcases hm with rfl | hm
  · exact lt_irrefl _ hk
  · exact lt_asymm hk (h.1 k hm)

lemma sum_values_insert (m : KeyMap Nat) (k : String) (v : Nat) :
    (m.insert k v).values.sum + (m.get? k).getD 0 = m.values.sum + v := by
  obtain ⟨l, h⟩ := m
  induction l with
  | nil => simp [KeyMap.insert, putSorted, values, get?]
  | cons e l ih =>
    obtain ⟨k'', v''⟩ := e
    have hl : (l.map (·.1)).Pairwise (· < ·) := (List.pairwise_cons.mp h).2
    simp only [KeyMap.insert, values, putSorted] at ih ⊢
    split_ifs with h1 h2
    · simp only [beq_iff_eq] at h1
      subst h1
      simp [get?]
      omega
    · rw [get?_eq_none_of_lt_head h h2]
      simp
      omega
    · have hne : k'' ≠ k := by simp only [beq_iff_eq] at h1; exact Ne.symm h1
      have hg : (⟨(k'', v'') :: l, h⟩ : KeyMap Nat).get? k = (⟨l, hl⟩ : KeyMap Nat).get? k := by
        simp [get?, hne]
      have := ih hl
      simp only [List.map_cons, List.sum_cons, hg]
      omega

lemma sum_values_alter_succ (m : KeyMap Nat) (k : String) :
    (m.alter k 0 (· + 1)).values.sum = m.values.sum + 1 := by
  have := sum_values_insert m k ((m.get? k).getD 0 + 1)
  rw [alter_eq]
  omega

lemma get?_foldl_insertNew (key : β → String) (rs : List β) (m : KeyMap β) (k : String) :
    (rs.foldl (fun m r => m.insertNew (key r) r) m).get? k =
      (m.get? k).or (rs.find? (key · == k)) := by
  induction rs generalizing m with
  | nil => simp
  | cons r rs ih =>
    rw [List.foldl_cons, ih]
    unfold KeyMap.insertNew
    by_cases hk : key r = k
    · subst hk
      split_ifs with hc
      · obtain ⟨w, hw⟩ := Option.isSome_iff_exists.mp ((get?_isSome_iff m _).mpr ((contains_iff m _).mp hc))
        simp [hw]
      · have : m.get? (key r) = none := (get?_eq_none_iff m _).mpr (fun h => hc ((contains_iff m _).mpr h))
        simp [this]
    · split_ifs
      · simp [hk]
      · simp [get?_insert_of_ne _ _ (Ne.symm hk), hk]

lemma find?_eq_none_of_not_mem {l : List (String × α)} {k : String} (h : k ∉ l.map (·.1)) :
    l.find? (·.1 == k) = none :=
  List.find?_eq_none.mpr fun e he hek => h (List.mem_map.mpr ⟨e, he, by simpa using hek⟩)

lemma get?_foldl_insert_of_nodup (f : α → β) (es : List (String × α)) (hes : (es.map (·.1)).Nodup)
    (m : KeyMap β) (k : String) :
    (es.foldl (fun m e => m.insert e.1 (f e.2)) m).get? k =
      ((es.find? (·.1 == k)).map (f ·.2)).or (m.get? k) := by
  induction es generalizing m with
  | nil => simp
  | cons e es ih =>
    simp only [List.map_cons, List.nodup_cons] at hes
    rw [List.foldl_cons, ih hes.2, get?_insert]
    by_cases hk : k = e.1
    · subst hk
      simp [find?_eq_none_of_not_mem hes.1]
    · have hek : (e.1 == k) = false := by simpa using Ne.symm hk
      simp [hk, hek]

lemma get?_foldl_alter_of_nodup (g : α → β → β) (d : β) (es : List (String × α))
    (hes : (es.map (·.1)).Nodup) (m : KeyMap β) (k : String) :
    (es.foldl (fun m e => m.alter e.1 d (g e.2)) m).get? k =
      ((es.find? (·.1 == k)).map fun e => g e.2 ((m.get? k).getD d)).or (m.get? k) := by
  induction es generalizing m with
  | nil => simp
  | cons e es ih =>
    simp only [List.map_cons, List.nodup_cons] at hes
    rw [List.foldl_cons, ih hes.2, get?_alter]
    by_cases hk : k = e.1
    · subst hk
      simp [find?_eq_none_of_not_mem hes.1]
    · have hek : (e.1 == k) = false := by simpa using Ne.symm hk
      simp [hk, hek]

lemma ofList_entries (m : KeyMap α) : ofList m.entries = m := by
  refine ext_get? fun k => ?_
  have hget := get?_foldl_insert_of_nodup id m.entries m.nodup_keys empty k
  simp only [get?_empty, Option.or_none] at hget
  exact hget

end CodeGraph.KeyMap
