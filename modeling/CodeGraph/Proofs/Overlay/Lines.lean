import Mathlib
import CodeGraph.Proofs.Overlay.Patching

/-! Slicing a text by a range of lines. A text has one cutting into lines (`LinesOf`), which
`feedLines` computes; a range is clamped to those lines, and a patch between two ranges names each
side with the bounds so clamped. -/

namespace CodeGraph

/-- `ls` are the lines of `text`, each with its line feed: they make up the text, none is empty,
a line feed stands nowhere in a line but at its end, and ends every line but the last. -/
structure LinesOf (text : String) (ls : List String) : Prop where
  join_eq : String.join ls = text
  ne_empty : ∀ l ∈ ls, l ≠ ""
  feed_at_end : ∀ l ∈ ls, '\n' ∉ l.toList.dropLast
  ends_in_feed : ∀ l ∈ ls.dropLast, l.toList.getLast? = some '\n'

def feedStep (acc : List String × List Char) (c : Char) : List String × List Char :=
  if c == '\n' then (acc.1 ++ [String.ofList (acc.2 ++ [c])], []) else (acc.1, acc.2 ++ [c])

lemma feedLines_eq (text : String) :
    feedLines text =
      let acc := text.toList.foldl feedStep ([], [])
      if acc.2.isEmpty then acc.1 else acc.1 ++ [String.ofList acc.2] := rfl

structure FeedState (p : List Char) (done : List String) (cur : List Char) : Prop where
  join_eq : (done.map String.toList).flatten ++ cur = p
  lines : ∀ l ∈ done, '\n' ∉ l.toList.dropLast ∧ l.toList.getLast? = some '\n'
  cur_feed : '\n' ∉ cur

namespace FeedState

variable {p : List Char} {done : List String} {cur : List Char}

lemma step (h : FeedState p done cur) (c : Char) :
    FeedState (p ++ [c]) (feedStep (done, cur) c).1 (feedStep (done, cur) c).2 := by
  by_cases hc : c = '\n'
  · -- a line feed finishes the line being read
    subst hc
    simp only [feedStep, beq_self_eq_true, if_true]
    refine ⟨?_, fun l hl => ?_, List.not_mem_nil⟩
    · simp [← h.join_eq]
    · rcases List.mem_append.1 hl with hl | hl
      · exact h.lines l hl
      · simp only [List.mem_singleton] at hl
        subst hl
        simp [h.cur_feed]
  · simp only [feedStep, beq_iff_eq, hc, if_false]
    refine ⟨by simp [← h.join_eq], h.lines, ?_⟩
    simp [h.cur_feed, Ne.symm hc]

lemma foldl (h : FeedState p done cur) (cs : List Char) :
    FeedState (p ++ cs) (cs.foldl feedStep (done, cur)).1 (cs.foldl feedStep (done, cur)).2 := by
  induction cs generalizing p done cur with
  | nil => simpa using h
  | cons c cs ih =>
    rw [List.foldl_cons, ← List.singleton_append, ← List.append_assoc]
    exact ih (h.step c)

lemma linesOf {text : String} (h : FeedState text.toList done cur) :
    LinesOf text (if cur.isEmpty then done else done ++ [String.ofList cur]) := by
  have hdone_ne : ∀ l ∈ done, l ≠ "" := fun l hl hempty => by
    simpa [hempty] using (h.lines l hl).2
  by_cases hcur : cur = []
  · subst hcur
    simp only [List.isEmpty_nil, if_true]
    refine ⟨?_, hdone_ne, fun l hl => (h.lines l hl).1,
      fun l hl => (h.lines l (List.mem_of_mem_dropLast hl)).2⟩
    rw [← String.toList_inj, ← h.join_eq]
    simp [List.flatMap]
  · simp only [List.isEmpty_iff, hcur, if_false]
    refine ⟨?_, fun l hl => ?_, fun l hl => ?_, fun l hl => ?_⟩
    · rw [← String.toList_inj, ← h.join_eq]
      simp [List.flatMap]
    · rcases List.mem_append.1 hl with hl | hl
      · exact hdone_ne l hl
      · simp only [List.mem_singleton] at hl
        subst hl
        simpa [← String.toList_inj] using hcur
    · rcases List.mem_append.1 hl with hl | hl
      · exact (h.lines l hl).1
      · simp only [List.mem_singleton] at hl
        subst hl
        simpa using fun hm => h.cur_feed (List.mem_of_mem_dropLast hm)
    · rw [List.dropLast_concat] at hl
      exact (h.lines l hl).2

end FeedState

lemma linesOf_feedLines (text : String) : LinesOf text (feedLines text) := by
  rw [feedLines_eq]
  have h : FeedState [] [] [] := ⟨rfl, by simp, List.not_mem_nil⟩
  exact (h.foldl text.toList).linesOf

namespace LinesOf

variable {text : String} {l : String} {r : List String}

lemma tail (h : LinesOf text (l :: r)) : LinesOf (String.join r) r where
  join_eq := rfl
  ne_empty x hx := h.ne_empty x (List.mem_cons_of_mem _ hx)
  feed_at_end x hx := h.feed_at_end x (List.mem_cons_of_mem _ hx)
  ends_in_feed x hx := by
    cases r with
    | nil => simp at hx
    | cons y ys =>
      exact h.ends_in_feed x (by rw [List.dropLast_cons_cons]; exact List.mem_cons_of_mem _ hx)

lemma toList_eq (h : LinesOf text (l :: r)) :
    text.toList = l.toList ++ (String.join r).toList := by
  rw [← h.join_eq]
  simp

lemma ne_empty_of_cons (h : LinesOf text (l :: r)) : text ≠ "" := by
  intro htext
  apply h.ne_empty l List.mem_cons_self
  have := h.toList_eq
  rw [htext] at this
  exact String.toList_inj.1 (by simpa using (List.append_eq_nil_iff.1 this.symm).1)

lemma extends_nil (h : LinesOf text (l :: r)) {l' : String} {a rest : List Char}
    (hfeed : '\n' ∉ l'.toList.dropLast) (hl' : l'.toList = l.toList ++ a)
    (hr : (String.join r).toList = a ++ rest) : a = [] := by
  by_contra ha
  have hr_ne : r ≠ [] := by
    rintro rfl
    simp only [String.join_nil, String.toList_empty] at hr
    exact ha (List.append_eq_nil_iff.1 hr.symm).1
  have hend : l.toList.getLast? = some '\n' := by
    obtain ⟨y, ys, rfl⟩ := List.exists_cons_of_ne_nil hr_ne
    exact h.ends_in_feed l (by simp)
  apply hfeed
  rw [hl', List.dropLast_append_of_ne_nil ha]
  exact List.mem_append_left _ (List.mem_of_getLast? hend)

lemma head_eq {l' : String} {r' : List String} (h : LinesOf text (l :: r))
    (h' : LinesOf text (l' :: r')) : l = l' := by
  -- one first line is a prefix of the other, and neither can be a proper one
  rcases List.append_eq_append_iff.1 (h.toList_eq.symm.trans h'.toList_eq) with
    ⟨a, hl', hr⟩ | ⟨c, hl, hr'⟩
  · obtain rfl := h.extends_nil (h'.feed_at_end l' List.mem_cons_self) hl' hr
    exact String.toList_inj.1 (by simpa using hl'.symm)
  · obtain rfl := h'.extends_nil (h.feed_at_end l List.mem_cons_self) hl hr'
    exact String.toList_inj.1 (by simpa using hl)

lemma unique {ls ls' : List String} (h : LinesOf text ls) (h' : LinesOf text ls') : ls = ls' := by
  induction ls generalizing text ls' with
  | nil =>
    cases ls' with
    | nil => rfl
    | cons l' r' => exact absurd h.join_eq.symm h'.ne_empty_of_cons
  | cons l r ih =>
    cases ls' with
    | nil => exact absurd h'.join_eq.symm h.ne_empty_of_cons
    | cons l' r' =>
      obtain rfl := h.head_eq h'
      -- the rest of the text is cut the same way
      have hrest : String.join r = String.join r' :=
        String.toList_inj.1 (List.append_cancel_left (h.toList_eq.symm.trans h'.toList_eq))
      rw [ih h.tail (hrest ▸ h'.tail)]

end LinesOf

lemma feedLines_eq_of_linesOf {text : String} {ls : List String} (h : LinesOf text ls) :
    feedLines text = ls :=
  (linesOf_feedLines text).unique h

section Slice

variable {text : String} {ls : List String}

lemma sliceLines_past_end (hls : LinesOf text ls) (r : LineRange)
    (hb : ls.length < max r.first 1) :
    sliceLines text r = ("", max r.first 1, max r.first 1) := by
  simp only [sliceLines, feedLines_eq_of_linesOf hls]
  exact if_pos hb

lemma sliceLines_within (hls : LinesOf text ls) (r : LineRange) (hb : max r.first 1 ≤ ls.length) :
    let b := max r.first 1
    let e := min (max r.last b) ls.length
    1 ≤ b ∧ b ≤ e ∧ e ≤ ls.length ∧
      ∃ pre mid post, ls = pre ++ mid ++ post ∧ pre.length + 1 = b ∧
        pre.length + mid.length = e ∧
        sliceLines text r =
          (if (String.join mid).endsWith "\n" then String.join mid else String.join mid ++ "\n",
            b, e) := by
  intro b e
  have hbe : b ≤ e := le_min (le_max_right _ _) hb
  have hen : e ≤ ls.length := min_le_right _ _
  refine ⟨le_max_right _ _, hbe, hen, ls.take (b - 1), (ls.drop (b - 1)).take (e - (b - 1)),
    (ls.drop (b - 1)).drop (e - (b - 1)), by simp, ?_, ?_, ?_⟩
  · rw [List.length_take]
    omega
  · rw [List.length_take, List.length_take, List.length_drop]
    omega
  · simp only [sliceLines, feedLines_eq_of_linesOf hls]
    exact if_neg (not_lt.2 hb)

end Slice

/-- `diff` writes a patch that opens with its two headers, the old after `--- ` and the new after
`+++ `, each on a line of its own, as a unified diff given headers does. -/
def HeadersFirst (diff : String → String → String → String → Option String) : Prop :=
  ∀ old new oldHeader newHeader p, diff old new oldHeader newHeader = some p →
    ∃ body, p = "--- " ++ oldHeader ++ "\n+++ " ++ newHeader ++ "\n" ++ body

lemma headersFirst_unified (context : Nat) : HeadersFirst (LineDiff.unified context) := by
  intro old new oldHeader newHeader p h
  unfold LineDiff.unified at h
  dsimp only at h
  split at h
  · cases h
  · cases h
    exact ⟨_, rfl⟩

lemma rangePatchWith_eq_some {diff : String → String → String → String → Option String}
    (hd : HeadersFirst diff) {src : PatchSources} {left right : String} {lr rr : LineRange}
    {p : String} (h : rangePatchWith diff src left lr right rr = .ok (some p)) :
    ∃ lt rt, readSource src.tree src.leftRoot left = .ok lt ∧
      readSource src.tree src.rightRoot right = .ok rt ∧
      ∃ body, p = "--- " ++ ("a/" ++ left ++ ":" ++ toString (sliceLines lt lr).2.1 ++ "-" ++
          toString (sliceLines lt lr).2.2) ++ "\n+++ " ++ ("b/" ++ right ++ ":" ++
          toString (sliceLines rt rr).2.1 ++ "-" ++ toString (sliceLines rt rr).2.2) ++ "\n" ++
          body := by
  unfold rangePatchWith at h
  obtain ⟨lt, hl, h⟩ := except_bind_eq_ok h
  obtain ⟨rt, hr, h⟩ := except_bind_eq_ok h
  have hu : diff (sliceLines lt lr).1 (sliceLines rt rr).1
      ("a/" ++ left ++ ":" ++ toString (sliceLines lt lr).2.1 ++ "-" ++
        toString (sliceLines lt lr).2.2)
      ("b/" ++ right ++ ":" ++ toString (sliceLines rt rr).2.1 ++ "-" ++
        toString (sliceLines rt rr).2.2) = some p := by
    simpa [pure, Except.pure] using h
  exact ⟨lt, rt, hl, hr, hd _ _ _ _ _ hu⟩

lemma rangePatch_eq_some {src : PatchSources} {left right : String} {lr rr : LineRange}
    {p : String} (h : rangePatch src left lr right rr = .ok (some p)) :
    ∃ lt rt, readSource src.tree src.leftRoot left = .ok lt ∧
      readSource src.tree src.rightRoot right = .ok rt ∧
      ∃ body, p = "--- " ++ ("a/" ++ left ++ ":" ++ toString (sliceLines lt lr).2.1 ++ "-" ++
          toString (sliceLines lt lr).2.2) ++ "\n+++ " ++ ("b/" ++ right ++ ":" ++
          toString (sliceLines rt rr).2.1 ++ "-" ++ toString (sliceLines rt rr).2.2) ++ "\n" ++
          body :=
  rangePatchWith_eq_some (headersFirst_unified contextLines) h

/-- Slicing a text with lines `ls` by a range: the range starts at `b`, its start or line one.
Past the last line the slice is empty and reported as `b`–`b`; otherwise it ends at `e`, its end
moved to no earlier than `b` and no later than the last line, so `1 ≤ b ≤ e ≤ ls.length`, and
the slice is lines `b` to `e` with their own endings, a line feed added when the last has none.
A patch between two ranges, written by any diff that puts its headers first, is headed
`a/<left>:<lb>-<le>` and `b/<right>:<rb>-<re>` with the bounds each slice reports. -/
theorem sliceLines_clamps_range :
    (∀ (text : String) (ls : List String), LinesOf text ls → ∀ r : LineRange,
      let b := max r.first 1
      let e := min (max r.last b) ls.length
      (ls.length < b → sliceLines text r = ("", b, b)) ∧
      (b ≤ ls.length → 1 ≤ b ∧ b ≤ e ∧ e ≤ ls.length ∧
        ∃ pre mid post, ls = pre ++ mid ++ post ∧ pre.length + 1 = b ∧
          pre.length + mid.length = e ∧
          sliceLines text r =
            (if (String.join mid).endsWith "\n" then String.join mid else String.join mid ++ "\n",
              b, e))) ∧
    ∀ diff, HeadersFirst diff →
    ∀ (src : PatchSources) (left right : String) (lr rr : LineRange) (p : String),
      rangePatchWith diff src left lr right rr = .ok (some p) →
      ∃ lt rt, readSource src.tree src.leftRoot left = .ok lt ∧
        readSource src.tree src.rightRoot right = .ok rt ∧
        ∃ body, p = "--- " ++ ("a/" ++ left ++ ":" ++ toString (sliceLines lt lr).2.1 ++ "-" ++
            toString (sliceLines lt lr).2.2) ++ "\n+++ " ++ ("b/" ++ right ++ ":" ++
            toString (sliceLines rt rr).2.1 ++ "-" ++ toString (sliceLines rt rr).2.2) ++ "\n" ++
            body :=
  ⟨fun _ _ hls r => ⟨sliceLines_past_end hls r, sliceLines_within hls r⟩,
    fun _ hd _ _ _ _ _ _ h => rangePatchWith_eq_some hd h⟩

theorem sliceLines_clamps_three_lines :
    LinesOf "a\nb\nc" ["a\n", "b\n", "c"] ∧ sliceLines "a\nb\nc" ⟨9, 12⟩ = ("", 9, 9) ∧
      sliceLines "a\nb\nc" ⟨0, 7⟩ = ("a\nb\nc\n", 1, 3) := by
  have hls : LinesOf "a\nb\nc" ["a\n", "b\n", "c"] :=
    ⟨by decide, by decide, by decide, by decide⟩
  refine ⟨hls, (sliceLines_clamps_range.1 _ _ hls ⟨9, 12⟩).1 (by decide), ?_⟩
  obtain ⟨-, -, -, pre, mid, post, hsplit, hpre, hmid, hslice⟩ :=
    (sliceLines_clamps_range.1 _ _ hls ⟨0, 7⟩).2 (by decide)
  -- the range is clamped to all three lines, so nothing stands before or after the slice
  have hlen := congrArg List.length hsplit
  simp only [List.length_append, List.length_cons, List.length_nil] at hlen hpre hmid
  obtain rfl : pre = [] := List.eq_nil_of_length_eq_zero (by omega)
  obtain rfl : post = [] := List.eq_nil_of_length_eq_zero (by omega)
  rw [List.nil_append, List.append_nil] at hsplit
  subst hsplit
  -- `endsWith` does not evaluate by `decide`; it is read as a suffix of character lists
  have hend : (String.join ["a\n", "b\n", "c"]).endsWith "\n" = false := by
    rw [Bool.eq_false_iff, ne_eq, String.endsWith_eq_endsWith_toSlice,
      String.Slice.endsWith_string_iff]
    simp
    decide
  rw [hslice, hend, if_neg Bool.false_ne_true]
  decide

end CodeGraph
