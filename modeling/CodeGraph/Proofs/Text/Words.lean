import Mathlib
import CodeGraph.Text.Blank

/-! How the words of a text follow its blanks. -/

namespace CodeGraph.Text

lemma wordsFrom_nil (acc : List Char) :
    wordsFrom [] acc = if acc.isEmpty then [] else [acc.reverse] := by
  rw [wordsFrom]

lemma wordsFrom_cons_blank {c : Char} (hc : isBlank c = true) (cs acc : List Char) :
    wordsFrom (c :: cs) acc = wordsFrom [] acc ++ wordsFrom cs [] := by
  rw [wordsFrom_nil]
  simp only [wordsFrom, hc, if_true]
  cases acc <;> simp

lemma wordsFrom_cons_of_not_blank {c : Char} (hc : isBlank c = false) (cs acc : List Char) :
    wordsFrom (c :: cs) acc = wordsFrom cs (c :: acc) := by
  simp [wordsFrom, hc]

lemma wordsFrom_append_of_not_blank {xs : List Char} (hxs : ∀ x ∈ xs, isBlank x = false)
    (ys acc : List Char) : wordsFrom (xs ++ ys) acc = wordsFrom ys (xs.reverse ++ acc) := by
  induction xs generalizing acc with
  | nil => rfl
  | cons x xs ih =>
    rw [List.cons_append, wordsFrom_cons_of_not_blank (hxs x (by simp)),
      ih (fun y hy => hxs y (by simp [hy]))]
    simp

lemma wordsFrom_append_blank {c : Char} (hc : isBlank c = true) (xs ys acc : List Char) :
    wordsFrom (xs ++ c :: ys) acc = wordsFrom xs acc ++ wordsFrom ys [] := by
  induction xs generalizing acc with
  | nil => exact wordsFrom_cons_blank hc ys acc
  | cons x xs ih =>
    rw [List.cons_append]
    cases hx : isBlank x
    · rw [wordsFrom_cons_of_not_blank hx, wordsFrom_cons_of_not_blank hx, ih]
    · rw [wordsFrom_cons_blank hx, wordsFrom_cons_blank hx, ih, List.append_assoc]

lemma wordsFrom_blanks_append {xs : List Char} (hxs : ∀ x ∈ xs, isBlank x = true) (ys : List Char) :
    wordsFrom (xs ++ ys) [] = wordsFrom ys [] := by
  induction xs with
  | nil => rfl
  | cons x xs ih =>
    rw [List.cons_append, wordsFrom_cons_blank (hxs x (by simp)),
      ih (fun y hy => hxs y (by simp [hy]))]
    simp [wordsFrom_nil]

end CodeGraph.Text
