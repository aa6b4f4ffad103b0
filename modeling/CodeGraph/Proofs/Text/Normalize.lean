import Mathlib
import CodeGraph.Proofs.Text.Words
import CodeGraph.Extraction

/-! Normalizing a text keeps exactly its words, the maximal runs of non-blank characters, so two
texts normalize alike exactly when they have the same words. -/

namespace CodeGraph.Text

/-- The maximal runs of non-blank characters of a text: the pieces between its blanks, empty
pieces dropped. -/
def runs (s : String) : List (List Char) :=
  (s.toList.splitOnP isBlank).filter fun w => !w.isEmpty

lemma wordsFrom_eq_splitOnP (cs acc : List Char) :
    wordsFrom cs acc =
      ((cs.splitOnP isBlank).modifyHead (acc.reverse ++ ·)).filter fun w => !w.isEmpty := by
  induction cs generalizing acc with
  | nil => cases acc <;> simp [wordsFrom]
  | cons c cs ih =>
    rw [List.splitOnP_cons_eq_if_modifyHead]
    cases hc : isBlank c
    · rw [wordsFrom_cons_of_not_blank hc, ih, if_neg (by simp), List.modifyHead_modifyHead]
      congr 2
      funext w
      simp
    · rw [wordsFrom_cons_blank hc, ih, if_pos rfl, wordsFrom_nil, List.reverse_nil]
      -- the blank ends the word read so far, and the next one starts empty
      simp only [List.nil_append]
      rw [← Function.id_def, List.modifyHead_id, id]
      cases acc <;> simp

lemma words_eq_runs (s : String) : words s.toList = runs s := by
  rw [words, wordsFrom_eq_splitOnP, List.reverse_nil]
  simp only [List.nil_append]
  rw [← Function.id_def, List.modifyHead_id, id, runs]

lemma mem_wordsFrom_nil {acc w : List Char} (hacc : ∀ c ∈ acc, isBlank c = false)
    (hw : w ∈ wordsFrom [] acc) : w ≠ [] ∧ ∀ c ∈ w, isBlank c = false := by
  rw [wordsFrom_nil] at hw
  cases acc with
  | nil => simp at hw
  | cons a acc =>
    simp only [List.isEmpty_cons, Bool.false_eq_true, if_false, List.mem_singleton] at hw
    subst hw
    exact ⟨by simp, fun c hc => hacc c (List.mem_reverse.1 hc)⟩

lemma mem_wordsFrom {cs acc w : List Char} (hacc : ∀ c ∈ acc, isBlank c = false)
    (hw : w ∈ wordsFrom cs acc) : w ≠ [] ∧ ∀ c ∈ w, isBlank c = false := by
  induction cs generalizing acc with
  | nil => exact mem_wordsFrom_nil hacc hw
  | cons c cs ih =>
    cases hc : isBlank c
    · rw [wordsFrom_cons_of_not_blank hc] at hw
      refine ih (fun x hx => ?_) hw
      rcases List.mem_cons.1 hx with rfl | hx
      · exact hc
      · exact hacc x hx
    · rw [wordsFrom_cons_blank hc, List.mem_append] at hw
      rcases hw with hw | hw
      · exact mem_wordsFrom_nil hacc hw
      · exact ih (by simp) hw

lemma mem_words {cs w : List Char} (hw : w ∈ words cs) :
    w ≠ [] ∧ ∀ c ∈ w, isBlank c = false :=
  mem_wordsFrom (by simp) hw

lemma words_of_not_blank {w : List Char} (hne : w ≠ []) (hw : ∀ c ∈ w, isBlank c = false) :
    words w = [w] := by
  have h := wordsFrom_append_of_not_blank hw [] []
  rw [List.append_nil, List.append_nil] at h
  rw [words, h, wordsFrom_nil]
  simp [hne]

lemma words_intercalate {ws : List (List Char)} (hws : ∀ w ∈ ws, w ≠ [] ∧ ∀ c ∈ w, isBlank c = false) :
    words ([' '].intercalate ws) = ws := by
  induction ws with
  | nil => rfl
  | cons w ws ih =>
    have hw := hws w (by simp)
    have hrest : ∀ v ∈ ws, v ≠ [] ∧ ∀ c ∈ v, isBlank c = false := fun v hv => hws v (by simp [hv])
    cases ws with
    | nil => simpa using words_of_not_blank hw.1 hw.2
    | cons v vs =>
      have hsplit := wordsFrom_append_blank (c := ' ') rfl w ([' '].intercalate (v :: vs)) []
      rw [List.intercalate_cons_cons, List.append_assoc, List.singleton_append, words, hsplit,
        ← words, ← words, ih hrest, words_of_not_blank hw.1 hw.2, List.singleton_append]

lemma toList_normalize (s : String) :
    (normalize s).toList = [' '].intercalate (words s.toList) := by
  simp [normalize, wordsOf, String.toList_intercalate, List.map_map, Function.comp_def]

lemma words_normalize (s : String) : words (normalize s).toList = words s.toList := by
  rw [toList_normalize]
  exact words_intercalate fun _ hw => mem_words hw

lemma normalize_eq_iff_words {a b : String} :
    normalize a = normalize b ↔ words a.toList = words b.toList := by
  constructor
  · intro h
    rw [← words_normalize a, ← words_normalize b, h]
  · intro h
    simp [normalize, wordsOf, h]

lemma normalize_normalize (s : String) : normalize (normalize s) = normalize s :=
  normalize_eq_iff_words.2 (words_normalize s)

end CodeGraph.Text

namespace CodeGraph

open Text

lemma bodyHash_ofDecl (m : Outline.MethodDecl) (owner file : String) :
    (MethodRecord.ofDecl m owner file).bodyHash =
      m.body.map fun b => Hash.contentHash (normalize b).toUTF8 := rfl

/-- Two texts normalize alike exactly when they have the same maximal runs of non-blank
characters, and normalizing twice changes nothing. So two methods' body hashes agree exactly
when neither has a body, or both have one and the bodies have the same runs, or the normalized
bodies are different texts whose hashes collide. -/
theorem normalize_keeps_exactly_runs :
    (∀ a b : String, normalize a = normalize b ↔ runs a = runs b) ∧
    (∀ s : String, normalize (normalize s) = normalize s) ∧
    (∀ (m₁ m₂ : Outline.MethodDecl) (owner₁ owner₂ file₁ file₂ : String),
      (MethodRecord.ofDecl m₁ owner₁ file₁).bodyHash =
          (MethodRecord.ofDecl m₂ owner₂ file₂).bodyHash ↔
        Option.Rel (fun b₁ b₂ => runs b₁ = runs b₂ ∨
            (normalize b₁ ≠ normalize b₂ ∧
              Hash.contentHash (normalize b₁).toUTF8 = Hash.contentHash (normalize b₂).toUTF8))
          m₁.body m₂.body) := by
  have hiff : ∀ a b : String, normalize a = normalize b ↔ runs a = runs b := by
    intro a b
    rw [normalize_eq_iff_words, words_eq_runs, words_eq_runs]
  refine ⟨hiff, normalize_normalize, fun m₁ m₂ _ _ _ _ => ?_⟩
  rw [bodyHash_ofDecl, bodyHash_ofDecl]
  cases m₁.body with
  | none => cases m₂.body <;> simp
  | some b₁ =>
    cases m₂.body with
    | none => simp
    | some b₂ =>
      simp only [Option.map_some, Option.some.injEq, Option.rel_some_some]
      by_cases hn : normalize b₁ = normalize b₂
      · simp [hn, (hiff b₁ b₂).1 hn]
      · simp [hn, ← hiff b₁ b₂]

end CodeGraph
