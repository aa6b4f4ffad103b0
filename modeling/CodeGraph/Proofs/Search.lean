import Mathlib
import CodeGraph.Search

/-! Halving a sorted list finds what a scan from the front finds. -/

namespace CodeGraph

section Halving

variable {α β : Type} [LinearOrder β] {key : α → β} {t : β} {cmp : α → Ordering} {xs : List α}

lemma key_lt_of_getElem? (hs : (xs.map key).Pairwise (· < ·)) {i j : ℕ} {x y : α} (hij : i < j)
    (hx : xs[i]? = some x) (hy : xs[j]? = some y) : key x < key y := by
  rw [List.pairwise_map, List.pairwise_iff_getElem] at hs
  obtain ⟨hi, rfl⟩ := List.getElem?_eq_some_iff.mp hx
  obtain ⟨hj, rfl⟩ := List.getElem?_eq_some_iff.mp hy
  exact hs i j hi hj hij

/-- The window of `size` elements from `base` that halving keeps: it lies within the list, it
starts at the front or at an element not above `t`, and every element after it is above `t`. -/
structure Window (key : α → β) (t : β) (xs : List α) (base size : ℕ) : Prop where
  nonempty : 0 < size
  within : base + size ≤ xs.length
  start : base = 0 ∨ ∃ x, xs[base]? = some x ∧ key x ≤ t
  above : ∀ i x, base + size ≤ i → xs[i]? = some x → t < key x

lemma halve_of_le_one {base size : ℕ} (h : size ≤ 1) : halve cmp xs base size = base := by
  rw [halve, if_pos h]

variable (hs : (xs.map key).Pairwise (· < ·)) (hgt : ∀ x, cmp x = .gt ↔ t < key x)
include hs hgt

lemma Window.halve_step {base size : ℕ} (h : Window key t xs base size) (hsize : ¬size ≤ 1) :
    Window key t xs (if xs[base + size / 2]?.map cmp = some .gt then base else base + size / 2)
      (size - size / 2) := by
  have hmid : base + size / 2 < xs.length := by have := h.within; omega
  obtain ⟨x, hx⟩ : ∃ x, xs[base + size / 2]? = some x := ⟨_, List.getElem?_eq_getElem hmid⟩
  simp only [hx, Option.map_some, Option.some.injEq, hgt]
  by_cases hxt : t < key x
  · rw [if_pos hxt]
    refine ⟨by omega, by have := h.within; omega, h.start, fun i y hi hy => ?_⟩
    -- what lies after the lower half is the middle element or after it
    rcases Nat.lt_or_eq_of_le (show base + size / 2 ≤ i by omega) with hlt | rfl
    · exact hxt.trans (key_lt_of_getElem? hs hlt hx hy)
    · rw [hx, Option.some.injEq] at hy
      exact hy ▸ hxt
  · rw [if_neg hxt]
    refine ⟨by omega, by have := h.within; omega, .inr ⟨x, hx, not_lt.mp hxt⟩, fun i y hi hy => ?_⟩
    exact h.above i y (by omega) hy

lemma window_halve {base size : ℕ} (h : Window key t xs base size) :
    Window key t xs (halve cmp xs base size) 1 := by
  fun_induction halve cmp xs base size with
  | case1 base size hle =>
    obtain rfl : size = 1 := by have := h.nonempty; omega
    exact h
  | case2 base size hle mid ih => exact ih (h.halve_step hs hgt hle)

theorem searchSorted_eq_findIdx? (heq : ∀ x, cmp x = .eq ↔ key x = t) :
    searchSorted cmp xs = xs.findIdx? (fun x => decide (key x = t)) := by
  cases xs with
  | nil => simp [searchSorted, halve_of_le_one]
  | cons y ys => ?_
  have hw : Window key t (y :: ys) 0 (y :: ys).length :=
    ⟨by simp, by simp, .inl rfl, fun i x hi hx => by rw [List.getElem?_eq_none (by omega)] at hx; cases hx⟩
  obtain ⟨-, hwithin, hstart, habove⟩ := window_halve hs hgt hw
  simp only [searchSorted]
  set w := halve cmp (y :: ys) 0 (y :: ys).length
  obtain ⟨x, hx⟩ : ∃ x, (y :: ys)[w]? = some x := ⟨_, List.getElem?_eq_getElem (by omega)⟩
  simp only [hx, Option.map_some, Option.some.injEq, heq]
  by_cases hxt : key x = t
  · -- every element before the one found is below it, hence below `t`
    rw [if_pos hxt, eq_comm, List.findIdx?_eq_some_iff_getElem]
    obtain ⟨hw', rfl⟩ := List.getElem?_eq_some_iff.mp hx
    refine ⟨hw', by simpa using hxt, fun j hj => ?_⟩
    have := key_lt_of_getElem? hs hj (List.getElem?_eq_getElem (by omega)) hx
    simp only [decide_eq_true_eq]
    exact (hxt ▸ this).ne
  · -- no element has key `t`: those after are above it, those before below the one found
    rw [if_neg hxt, eq_comm, List.findIdx?_eq_none_iff]
    intro z hz
    obtain ⟨j, hj⟩ := List.mem_iff_getElem?.mp hz
    simp only [decide_eq_false_iff_not]
    rcases lt_trichotomy j w with hjw | rfl | hwj
    · have hzx := key_lt_of_getElem? hs hjw hj hx
      rcases hstart with h0 | ⟨x', hx', hle⟩
      · omega
      · rw [hx, Option.some.injEq] at hx'
        exact (hzx.trans_le (hx' ▸ hle)).ne
    · rw [hx, Option.some.injEq] at hj
      exact hj ▸ hxt
    · exact (habove j z (by omega) hj).ne'

end Halving

end CodeGraph
