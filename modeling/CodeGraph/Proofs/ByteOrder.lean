import Mathlib

/-! Texts compare character by character by code point, and UTF-8 keeps that order: two texts
compare as their UTF-8 bytes do. -/

namespace CodeGraph.Text

def utf8Bytes (s : String) : List UInt8 := s.toUTF8.data.toList

lemma utf8Bytes_eq (s : String) : utf8Bytes s = s.toList.flatMap String.utf8EncodeChar := by
  rw [utf8Bytes, String.toUTF8_eq_toByteArray, ← String.utf8Encode_toList, List.utf8Encode,
    List.toList_data_toByteArray]

/-- Bytes `a` come before bytes `b` whatever follows each: they part at a byte where `a` has the
smaller one. -/
def Precedes (a b : List UInt8) : Prop := ∀ x y : List UInt8, a ++ x < b ++ y

lemma precedes_head {u v : UInt8} (h : u < v) (r s : List UInt8) : Precedes (u :: r) (v :: s) :=
  fun _ _ => List.cons_lt_cons_iff.mpr (.inl h)

lemma Precedes.cons {r s : List UInt8} (h : Precedes r s) (u : UInt8) : Precedes (u :: r) (u :: s) :=
  fun x y => List.cons_lt_cons_iff.mpr (.inr ⟨rfl, h x y⟩)

lemma lead_precedes {a b : ℕ} (ha : a < 256) (hb : b < 256) (h : a < b) (r s : List UInt8) :
    Precedes (UInt8.ofNat a :: r) (UInt8.ofNat b :: s) := by
  refine precedes_head ?_ r s
  simp only [UInt8.lt_iff_toNat_lt, UInt8.toNat_ofNat']
  omega

lemma append_lt_append_left_iff {p x y : List UInt8} : p ++ x < p ++ y ↔ x < y := by
  induction p with
  | nil => rfl
  | cons u p ih => simp [ih]

lemma precedes_two {v w : ℕ} (hw : w ≤ 2047) (h : v < w) :
    Precedes [UInt8.ofNat (v / 64 % 32 + 192), UInt8.ofNat (v % 64 + 128)]
      [UInt8.ofNat (w / 64 % 32 + 192), UInt8.ofNat (w % 64 + 128)] := by
  by_cases h1 : v / 64 = w / 64
  · rw [h1]
    exact (lead_precedes (by omega) (by omega) (by omega) _ _).cons _
  · exact lead_precedes (by omega) (by omega) (by omega) _ _

lemma precedes_three {v w : ℕ} (hw : w ≤ 65535) (h : v < w) :
    Precedes [UInt8.ofNat (v / 4096 % 16 + 224), UInt8.ofNat (v / 64 % 64 + 128),
        UInt8.ofNat (v % 64 + 128)]
      [UInt8.ofNat (w / 4096 % 16 + 224), UInt8.ofNat (w / 64 % 64 + 128),
        UInt8.ofNat (w % 64 + 128)] := by
  by_cases h1 : v / 4096 = w / 4096
  · rw [h1]
    by_cases h2 : v / 64 = w / 64
    · rw [h2]
      exact ((lead_precedes (by omega) (by omega) (by omega) _ _).cons _).cons _
    · exact (lead_precedes (by omega) (by omega) (by omega) _ _).cons _
  · exact lead_precedes (by omega) (by omega) (by omega) _ _

lemma precedes_four {v w : ℕ} (hw : w < 0x110000) (h : v < w) :
    Precedes [UInt8.ofNat (v / 262144 % 8 + 240), UInt8.ofNat (v / 4096 % 64 + 128),
        UInt8.ofNat (v / 64 % 64 + 128), UInt8.ofNat (v % 64 + 128)]
      [UInt8.ofNat (w / 262144 % 8 + 240), UInt8.ofNat (w / 4096 % 64 + 128),
        UInt8.ofNat (w / 64 % 64 + 128), UInt8.ofNat (w % 64 + 128)] := by
  by_cases h1 : v / 262144 = w / 262144
  · rw [h1]
    by_cases h2 : v / 4096 = w / 4096
    · rw [h2]
      by_cases h3 : v / 64 = w / 64
      · rw [h3]
        exact (((lead_precedes (by omega) (by omega) (by omega) _ _).cons _).cons _).cons _
      · exact ((lead_precedes (by omega) (by omega) (by omega) _ _).cons _).cons _
    · exact (lead_precedes (by omega) (by omega) (by omega) _ _).cons _
  · exact lead_precedes (by omega) (by omega) (by omega) _ _

lemma precedes_utf8EncodeChar {c d : Char} (h : c < d) :
    Precedes (String.utf8EncodeChar c) (String.utf8EncodeChar d) := by
  have hvw : c.val.toNat < d.val.toNat := UInt32.lt_iff_toNat_lt.mp (Char.lt_def.mp h)
  have hw : d.val.toNat < 0x110000 := by
    have := d.valid
    simp only [UInt32.isValidChar, Nat.isValidChar] at this
    omega
  simp only [String.utf8EncodeChar]
  generalize c.val.toNat = v at hvw
  generalize d.val.toNat = w at hvw hw
  by_cases hv1 : v ≤ 127
  · rw [if_pos hv1]
    split_ifs <;> exact lead_precedes (by omega) (by omega) (by omega) _ _
  by_cases hv2 : v ≤ 2047
  · rw [if_neg hv1, if_pos hv2, if_neg (show ¬w ≤ 127 by omega)]
    split_ifs with hw2
    · exact precedes_two hw2 hvw
    all_goals exact lead_precedes (by omega) (by omega) (by omega) _ _
  by_cases hv3 : v ≤ 65535
  · rw [if_neg hv1, if_neg hv2, if_pos hv3, if_neg (show ¬w ≤ 127 by omega),
      if_neg (show ¬w ≤ 2047 by omega)]
    split_ifs with hw3
    · exact precedes_three hw3 hvw
    · exact lead_precedes (by omega) (by omega) (by omega) _ _
  rw [if_neg hv1, if_neg hv2, if_neg hv3, if_neg (show ¬w ≤ 127 by omega),
    if_neg (show ¬w ≤ 2047 by omega), if_neg (show ¬w ≤ 65535 by omega)]
  exact precedes_four hw hvw

lemma flatMap_utf8EncodeChar_lt_iff (l₁ l₂ : List Char) :
    l₁.flatMap String.utf8EncodeChar < l₂.flatMap String.utf8EncodeChar ↔ l₁ < l₂ := by
  induction l₁ generalizing l₂ with
  | nil =>
    cases l₂ with
    | nil => simp
    | cons d l₂ =>
      -- an encoding is never empty
      obtain ⟨u, r, hu⟩ := List.exists_cons_of_ne_nil (String.utf8EncodeChar_ne_nil (c := d))
      simp [hu]
  | cons c l₁ ih =>
    cases l₂ with
    | nil =>
      obtain ⟨u, r, hu⟩ := List.exists_cons_of_ne_nil (String.utf8EncodeChar_ne_nil (c := c))
      simp [hu]
    | cons d l₂ =>
      rw [List.flatMap_cons, List.flatMap_cons, List.cons_lt_cons_iff]
      rcases lt_trichotomy c d with hcd | rfl | hdc
      · exact iff_of_true (precedes_utf8EncodeChar hcd _ _) (.inl hcd)
      · rw [append_lt_append_left_iff, ih]
        simp
      · refine iff_of_false (fun hlt => List.lt_asymm hlt (precedes_utf8EncodeChar hdc _ _)) ?_
        rintro (hcd | ⟨rfl, -⟩)
        · exact lt_asymm hcd hdc
        · exact lt_irrefl _ hdc

theorem utf8Bytes_lt_iff (a b : String) : utf8Bytes a < utf8Bytes b ↔ a < b := by
  rw [utf8Bytes_eq, utf8Bytes_eq, flatMap_utf8EncodeChar_lt_iff]
  rfl

end CodeGraph.Text
