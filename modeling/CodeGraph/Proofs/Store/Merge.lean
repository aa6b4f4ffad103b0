import Mathlib
import CodeGraph.Store

/-! Merging lists by identity: a put replaces the first element of its identity or appends, two
puts of one identity leave the second, and a fold of puts is idempotent. -/

namespace CodeGraph

instance : LawfulBEq CallEdge where
  rfl {a} := by cases a; simp [BEq.beq, instBEqCallEdge.beq]
  eq_of_beq {a b} h := by
    cases a; cases b
    simp [BEq.beq, instBEqCallEdge.beq] at h
    simp [h]

lemma eraseDups_filter {β : Type} [BEq β] [LawfulBEq β] (p : β → Bool) (l : List β) :
    (l.filter p).eraseDups = l.eraseDups.filter p := by
  induction h : l.length using Nat.strong_induction_on generalizing l with
  | _ n ih =>
    cases l with
    | nil => simp
    | cons a as =>
      have hlen : (as.filter fun b => !b == a).length < n := by
        have := List.length_filter_le (fun b => !b == a) as
        simp only [List.length_cons] at h
        omega
      rw [List.eraseDups_cons, List.filter_cons]
      by_cases hp : p a = true
      · rw [if_pos hp, List.eraseDups_cons, List.filter_cons_of_pos hp, ← ih _ hlen _ rfl,
          List.filter_filter, List.filter_filter]
        simp only [Bool.and_comm]
      · rw [if_neg hp, List.filter_cons_of_neg hp, ← ih _ hlen _ rfl, List.filter_filter]
        -- what passes `p` differs from `a`, which does not
        congr 1
        refine List.filter_congr fun b _ => ?_
        by_cases hb : b = a
        · simp [hb, hp]
        · simp [hb]

section Fresh

variable {ι : Type} [BEq ι] [LawfulBEq ι] [DecidableEq ι] (k : ι) (l ks : List ι)

lemma eraseDups_cons_filter_of_mem (hk : k ∈ ks) :
    (k :: l).eraseDups.filter (· ∉ ks) = l.eraseDups.filter (· ∉ ks) := by
  rw [List.eraseDups_cons, List.filter_cons_of_neg (by simpa using hk), ← eraseDups_filter,
    ← eraseDups_filter, List.filter_filter]
  -- an identity new to `ks` differs from `k`
  congr 1
  refine List.filter_congr fun i _ => ?_
  by_cases hi : i = k
  · simp [hi, hk]
  · simp [hi]

lemma eraseDups_cons_filter_of_not_mem (hk : k ∉ ks) :
    (k :: l).eraseDups.filter (· ∉ ks) = k :: l.eraseDups.filter (· ∉ ks ++ [k]) := by
  rw [List.eraseDups_cons, List.filter_cons_of_pos (by simpa using hk), ← eraseDups_filter,
    ← eraseDups_filter, List.filter_filter]
  congr 2
  refine List.filter_congr fun i _ => ?_
  by_cases hi : i = k
  · simp [hi]
  · simp [hi]

end Fresh

section ByIdentity

variable {α ι : Type} [BEq ι] [LawfulBEq ι] [DecidableEq ι] (ident : α → ι)

def lastWith (ys : List α) (i : ι) : Option α := ys.reverse.find? (ident · == i)

/-- `ys` merged into `xs` by identity: each element of `xs` whose identity `ys` has replaced in
place by the last element of `ys` with it, then every identity of `ys` that `xs` lacks, once, in
the order of its first occurrence, with its last element. -/
def upsertAll (xs ys : List α) : List α :=
  xs.map (fun x => (lastWith ident ys (ident x)).getD x) ++
    ((ys.map ident).eraseDups.filter (· ∉ xs.map ident)).filterMap (lastWith ident ys)

omit [LawfulBEq ι] [DecidableEq ι] in
lemma lastWith_cons (y : α) (ys : List α) (i : ι) :
    lastWith ident (y :: ys) i = (lastWith ident ys i).or (if ident y == i then some y else none) := by
  simp only [lastWith, List.reverse_cons, List.find?_append, List.find?_singleton]

omit [LawfulBEq ι] [DecidableEq ι] in
lemma replaceOrPush_nil (x : α) : replaceOrPush (ident · == ident ·) [] x = [x] := by
  simp [replaceOrPush]

lemma replaceOrPush_cons (y x : α) (xs : List α) :
    replaceOrPush (ident · == ident ·) (y :: xs) x =
      if ident x = ident y then x :: xs else y :: replaceOrPush (ident · == ident ·) xs x := by
  unfold replaceOrPush
  by_cases hxy : ident x = ident y
  · simp [hxy]
  · -- `y` is kept in front, and the rest is searched as before
    have hne : (ident x == ident y) = false := by simpa using hxy
    rw [if_neg hxy]
    by_cases hany : xs.any (ident x == ident ·) = true
    · rw [if_pos (by simp [hne, hany]), if_pos hany]
      simp [List.span_eq_takeWhile_dropWhile, hne]
    · rw [if_neg (by simpa [hne] using hany), if_neg hany]
      rfl

lemma idents_replaceOrPush (xs : List α) (x : α) :
    (replaceOrPush (ident · == ident ·) xs x).map ident =
      if ident x ∈ xs.map ident then xs.map ident else xs.map ident ++ [ident x] := by
  induction xs with
  | nil => simp [replaceOrPush_nil]
  | cons y xs ih =>
    rw [replaceOrPush_cons]
    by_cases hxy : ident x = ident y
    · simp [hxy]
    · by_cases hm : ident x ∈ xs.map ident
      · simp [hxy, ih, hm]
      · simp [hxy, ih, hm]

lemma mem_idents_replaceOrPush {xs : List α} {x : α} {i : ι} :
    i ∈ (replaceOrPush (ident · == ident ·) xs x).map ident ↔ i ∈ xs.map ident ∨ i = ident x := by
  rw [idents_replaceOrPush]
  split_ifs with hm
  · exact ⟨.inl, fun h => h.elim id fun h => h ▸ hm⟩
  · simp

lemma nodup_replaceOrPush {xs : List α} (h : (xs.map ident).Nodup) (x : α) :
    ((replaceOrPush (ident · == ident ·) xs x).map ident).Nodup := by
  rw [idents_replaceOrPush]
  split_ifs with hm
  · exact h
  · exact h.append (List.nodup_singleton _) (by simpa using hm)

lemma find?_replaceOrPush (xs : List α) (x : α) (i : ι) :
    (replaceOrPush (ident · == ident ·) xs x).find? (ident · == i) =
      if ident x = i then some x else xs.find? (ident · == i) := by
  induction xs with
  | nil => by_cases h : ident x = i <;> simp [replaceOrPush_nil, h]
  | cons y xs ih =>
    rw [replaceOrPush_cons]
    by_cases hxy : ident x = ident y
    · by_cases h : ident x = i
      · rw [if_pos hxy, if_pos h]
        simp [h]
      · simp [h, ← hxy]
    · by_cases hy : ident y = i
      · have hxi : ident x ≠ i := fun h => hxy (h.trans hy.symm)
        simp [hy, hxi]
      · simp [hxy, hy, ih]

lemma replaceOrPush_replaceOrPush_of_eq {x y : α} (h : ident x = ident y) (xs : List α) :
    replaceOrPush (ident · == ident ·) (replaceOrPush (ident · == ident ·) xs x) y =
      replaceOrPush (ident · == ident ·) xs y := by
  induction xs with
  | nil => simp [replaceOrPush_nil, replaceOrPush_cons, h]
  | cons z xs ih =>
    rw [replaceOrPush_cons ident z x, replaceOrPush_cons ident z y]
    by_cases hxz : ident x = ident z
    · rw [if_pos hxz, if_pos (h ▸ hxz), replaceOrPush_cons, if_pos h.symm]
    · rw [if_neg hxz, if_neg (h ▸ hxz), replaceOrPush_cons, if_neg (h ▸ hxz), ih]

lemma replaceOrPush_comm {x y : α} (hxy : ident x ≠ ident y) {xs : List α}
    (hx : ident x ∈ xs.map ident) :
    replaceOrPush (ident · == ident ·) (replaceOrPush (ident · == ident ·) xs x) y =
      replaceOrPush (ident · == ident ·) (replaceOrPush (ident · == ident ·) xs y) x := by
  induction xs with
  | nil => simp at hx
  | cons z xs ih =>
    rw [replaceOrPush_cons ident z x, replaceOrPush_cons ident z y]
    by_cases hxz : ident x = ident z
    · have hyz : ident y ≠ ident z := fun h => hxy (hxz.trans h.symm)
      rw [if_pos hxz, if_neg hyz, replaceOrPush_cons, if_neg (Ne.symm hxy),
        replaceOrPush_cons, if_pos hxz]
    · rw [if_neg hxz]
      by_cases hyz : ident y = ident z
      · rw [if_pos hyz, replaceOrPush_cons, if_pos hyz, replaceOrPush_cons, if_neg hxy]
      · have hx' : ident x ∈ xs.map ident := by
          simp only [List.map_cons, List.mem_cons] at hx
          exact hx.resolve_left hxz
        rw [if_neg hyz, replaceOrPush_cons, if_neg hyz, replaceOrPush_cons, if_neg hxz, ih hx']

lemma replaceOrPush_of_find? {xs : List α} {x : α} (h : xs.find? (ident · == ident x) = some x) :
    replaceOrPush (ident · == ident ·) xs x = xs := by
  induction xs with
  | nil => simp at h
  | cons y xs ih =>
    rw [replaceOrPush_cons]
    by_cases hxy : ident x = ident y
    · rw [if_pos hxy]
      have : y = x := by simpa [hxy] using h
      rw [this]
    · rw [if_neg hxy, ih (by simpa [Ne.symm hxy] using h)]

lemma mem_idents_foldl {xs ys : List α} {i : ι} :
    i ∈ (ys.foldl (replaceOrPush (ident · == ident ·)) xs).map ident ↔
      i ∈ xs.map ident ∨ i ∈ ys.map ident := by
  induction ys generalizing xs with
  | nil => simp
  | cons y ys ih =>
    rw [List.foldl_cons, ih, mem_idents_replaceOrPush]
    simp only [List.map_cons, List.mem_cons]
    tauto

lemma nodup_foldl {xs : List α} (h : (xs.map ident).Nodup) (ys : List α) :
    ((ys.foldl (replaceOrPush (ident · == ident ·)) xs).map ident).Nodup := by
  induction ys generalizing xs with
  | nil => exact h
  | cons y ys ih => exact ih (nodup_replaceOrPush ident h y)

lemma find?_foldl_of_not_mem {i : ι} {ys : List α} (hi : i ∉ ys.map ident) (xs : List α) :
    (ys.foldl (replaceOrPush (ident · == ident ·)) xs).find? (ident · == i) =
      xs.find? (ident · == i) := by
  induction ys generalizing xs with
  | nil => rfl
  | cons y ys ih =>
    simp only [List.map_cons, List.mem_cons, not_or] at hi
    rw [List.foldl_cons, ih hi.2, find?_replaceOrPush, if_neg (Ne.symm hi.1)]

lemma foldl_replaceOrPush_absorb {x : α} {xs ys : List α} (hx : ident x ∈ xs.map ident)
    (hy : ident x ∈ ys.map ident) :
    ys.foldl (replaceOrPush (ident · == ident ·)) (replaceOrPush (ident · == ident ·) xs x) =
      ys.foldl (replaceOrPush (ident · == ident ·)) xs := by
  induction ys generalizing xs with
  | nil => simp at hy
  | cons z ys ih =>
    rw [List.foldl_cons, List.foldl_cons]
    by_cases hxz : ident x = ident z
    · rw [replaceOrPush_replaceOrPush_of_eq ident hxz]
    · have hy' : ident x ∈ ys.map ident := by
        simp only [List.map_cons, List.mem_cons] at hy
        exact hy.resolve_left hxz
      rw [replaceOrPush_comm ident hxz hx, ih (mem_idents_replaceOrPush ident |>.mpr (.inl hx)) hy']

theorem foldl_replaceOrPush_idem (xs ys : List α) :
    ys.foldl (replaceOrPush (ident · == ident ·)) (ys.foldl (replaceOrPush (ident · == ident ·)) xs) =
      ys.foldl (replaceOrPush (ident · == ident ·)) xs := by
  induction ys generalizing xs with
  | nil => rfl
  | cons y ys ih =>
    simp only [List.foldl_cons]
    set m := replaceOrPush (ident · == ident ·) xs y
    set n := ys.foldl (replaceOrPush (ident · == ident ·)) m
    by_cases hy : ident y ∈ ys.map ident
    · -- the later put of `y`'s identity overwrites this one
      have hn : ident y ∈ n.map ident :=
        (mem_idents_foldl ident).mpr (.inl ((mem_idents_replaceOrPush ident).mpr (.inr rfl)))
      rw [foldl_replaceOrPush_absorb ident hn hy, ih]
    · -- nothing later touches `y`'s identity, so `y` is still first of it
      have hfind : n.find? (ident · == ident y) = some y := by
        rw [find?_foldl_of_not_mem ident hy, find?_replaceOrPush, if_pos rfl]
      rw [replaceOrPush_of_find? ident hfind, ih]

lemma foldl_replaceOrPush_of_find? {xs ys : List α}
    (h : ∀ y ∈ ys, xs.find? (ident · == ident y) = some y) :
    ys.foldl (replaceOrPush (ident · == ident ·)) xs = xs := by
  induction ys with
  | nil => rfl
  | cons y ys ih =>
    rw [List.foldl_cons, replaceOrPush_of_find? ident (h y (List.mem_cons_self ..))]
    exact ih fun z hz => h z (List.mem_cons_of_mem _ hz)

omit [DecidableEq ι] in
lemma find?_of_nodup {xs : List α} (h : (xs.map ident).Nodup) {x : α} (hx : x ∈ xs) :
    xs.find? (ident · == ident x) = some x := by
  obtain ⟨x', hx'⟩ : ∃ x', xs.find? (ident · == ident x) = some x' :=
    Option.isSome_iff_exists.mp (List.find?_isSome.mpr ⟨x, hx, by simp⟩)
  have hk : ident x' = ident x := by simpa using List.find?_some hx'
  rw [hx', List.inj_on_of_nodup_map h (List.mem_of_find?_eq_some hx') hx hk]

lemma foldl_replaceOrPush_self {xs : List α} (h : (xs.map ident).Nodup) :
    xs.foldl (replaceOrPush (ident · == ident ·)) xs = xs :=
  foldl_replaceOrPush_of_find? ident fun _ hy => find?_of_nodup ident h hy

lemma replaceOrPush_of_nodup {xs : List α} (h : (xs.map ident).Nodup) (x : α) :
    replaceOrPush (ident · == ident ·) xs x =
      if ident x ∈ xs.map ident then xs.map (fun y => if ident y = ident x then x else y)
      else xs ++ [x] := by
  induction xs with
  | nil => simp [replaceOrPush_nil]
  | cons y xs ih =>
    simp only [List.map_cons, List.nodup_cons] at h
    rw [replaceOrPush_cons, ih h.2]
    by_cases hxy : ident x = ident y
    · -- no later element has this identity
      have hrest : xs.map (fun z => if ident z = ident y then x else z) = xs := by
        conv_rhs => rw [← List.map_id xs]
        refine List.map_congr_left fun z hz => ?_
        have : ident z ≠ ident y := fun he => h.1 (he ▸ List.mem_map_of_mem hz)
        simp [this]
      simp [hxy, hrest]
    · by_cases hm : ident x ∈ xs.map ident
      · simp [hxy, hm, Ne.symm hxy]
      · simp [hxy, hm]

theorem foldl_replaceOrPush_eq_upsertAll {xs : List α} (h : (xs.map ident).Nodup) (ys : List α) :
    ys.foldl (replaceOrPush (ident · == ident ·)) xs = upsertAll ident xs ys := by
  induction ys generalizing xs with
  | nil => simp [upsertAll, lastWith]
  | cons y ys ih =>
    rw [List.foldl_cons, ih (nodup_replaceOrPush ident h y), replaceOrPush_of_nodup ident h]
    -- identities other than `y`'s have the same last element in `y :: ys` as in `ys`
    have hlast : ∀ i, i ≠ ident y → lastWith ident (y :: ys) i = lastWith ident ys i := by
      intro i hi
      rw [lastWith_cons, if_neg (by simpa using Ne.symm hi), Option.or_none]
    have hfresh : ∀ ks : List ι, ident y ∈ ks →
        ∀ i ∈ (ys.map ident).eraseDups.filter (· ∉ ks), i ≠ ident y := by
      intro ks hy i hi hiy
      simp only [List.mem_filter, decide_eq_true_eq] at hi
      exact hi.2 (hiy ▸ hy)
    by_cases hy : ident y ∈ xs.map ident
    · -- `y` replaces the element of its identity in place
      rw [if_pos hy]
      have hkeys : (xs.map fun z => if ident z = ident y then y else z).map ident = xs.map ident := by
        rw [List.map_map]
        refine List.map_congr_left fun z _ => ?_
        by_cases hz : ident z = ident y <;> simp [hz]
      simp only [upsertAll, hkeys, List.map_map, List.map_cons]
      congr 1
      · refine List.map_congr_left fun z _ => ?_
        by_cases hz : ident z = ident y
        · simp only [Function.comp_apply, hz, if_true, lastWith_cons, beq_self_eq_true]
          cases lastWith ident ys (ident y) <;> rfl
        · simp [hz, hlast _ hz]
      · rw [eraseDups_cons_filter_of_mem _ _ _ hy]
        exact List.filterMap_congr fun i hi => (hlast i (hfresh _ hy i hi)).symm
    · -- `y` goes after the last element, as the first new identity
      rw [if_neg hy]
      simp only [upsertAll, List.map_append, List.map_cons, List.map_nil, List.append_assoc,
        List.singleton_append]
      rw [eraseDups_cons_filter_of_not_mem _ _ _ hy, List.filterMap_cons,
        lastWith_cons ident y ys (ident y), beq_self_eq_true, if_pos rfl]
      have hold : xs.map (fun z => (lastWith ident (y :: ys) (ident z)).getD z) =
          xs.map (fun z => (lastWith ident ys (ident z)).getD z) := by
        refine List.map_congr_left fun z hz => ?_
        have hzy : ident z ≠ ident y := fun he => hy (he ▸ List.mem_map_of_mem hz)
        rw [hlast _ hzy]
      have hnew : ((ys.map ident).eraseDups.filter (· ∉ xs.map ident ++ [ident y])).filterMap
            (lastWith ident (y :: ys)) =
          ((ys.map ident).eraseDups.filter (· ∉ xs.map ident ++ [ident y])).filterMap
            (lastWith ident ys) :=
        List.filterMap_congr fun i hi =>
          hlast i (hfresh _ (List.mem_append_right _ (List.mem_singleton_self _)) i hi)
      rw [hold, hnew]
      cases lastWith ident ys (ident y) <;> rfl

end ByIdentity

section New

variable {β : Type} [BEq β] [LawfulBEq β]

omit [LawfulBEq β] in
lemma pushNew_cons (xs : List β) (y : β) (ys : List β) :
    pushNew xs (y :: ys) = pushNew (if xs.contains y then xs else xs ++ [y]) ys :=
  rfl

theorem pushNew_eq (xs ys : List β) :
    pushNew xs ys = xs ++ (ys.filter fun y => !xs.contains y).eraseDups := by
  induction ys generalizing xs with
  | nil => simp [pushNew]
  | cons y ys ih =>
    rw [pushNew_cons]
    by_cases hy : xs.contains y = true
    · rw [if_pos hy, ih, List.filter_cons_of_neg (by simpa using hy)]
    · rw [if_neg hy, ih, List.filter_cons_of_pos (by simpa using hy), List.eraseDups_cons,
        List.append_assoc, List.singleton_append, List.filter_filter]
      -- what is new after `y` is new to `xs` and other than `y`
      congr 3
      refine List.filter_congr fun z _ => ?_
      by_cases hz : z = y <;> simp [hz]

lemma mem_pushNew {xs ys : List β} {a : β} : a ∈ pushNew xs ys ↔ a ∈ xs ∨ a ∈ ys := by
  rw [pushNew_eq, List.mem_append, List.mem_eraseDups, List.mem_filter]
  by_cases ha : a ∈ xs <;> simp [ha]

lemma nodup_pushNew {xs : List β} (h : xs.Nodup) (ys : List β) : (pushNew xs ys).Nodup := by
  induction ys generalizing xs with
  | nil => exact h
  | cons y ys ih =>
    rw [pushNew_cons]
    split_ifs with hy
    · exact ih h
    · exact ih (h.append (List.nodup_singleton y) (by simpa using hy))

lemma pushNew_of_subset {xs ys : List β} (h : ∀ y ∈ ys, y ∈ xs) : pushNew xs ys = xs := by
  rw [pushNew_eq, List.filter_eq_nil_iff.mpr fun y hy => by simpa using h y hy]
  simp

lemma pushNew_idem (xs ys : List β) : pushNew (pushNew xs ys) ys = pushNew xs ys :=
  pushNew_of_subset fun _ hy => mem_pushNew.mpr (.inr hy)

end New

end CodeGraph
