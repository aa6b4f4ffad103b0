import Mathlib
import CodeGraph.Java.TypeText
import CodeGraph.Proofs.Text.Words

/-! The erased form of a type text, read off its structure: when each annotation stands apart from
its neighbours and its arguments hold no parenthesis, erasing gives the dotted name and one `[]`
per dimension. -/

namespace CodeGraph.Java

open Text

def depthAfter : Nat → List Char → Option Nat
  | d, [] => some d
  | d, c :: cs =>
    if c = '<' then depthAfter (d + 1) cs
    else if c = '>' then (if d = 0 then none else depthAfter (d - 1) cs)
    else depthAfter d cs

def Balanced (cs : List Char) : Prop := depthAfter 0 cs = some 0

instance : DecidablePred Balanced := fun cs => inferInstanceAs (Decidable (depthAfter 0 cs = some 0))

lemma stripFrom_zero_cons {c : Char} (hc : c ≠ '<') (cs : List Char) :
    stripFrom 0 (c :: cs) = c :: stripFrom 0 cs := by
  simp [stripFrom]

lemma stripFrom_of_depthAfter {d d' : Nat} {cs : List Char} (h : depthAfter d cs = some d')
    (ys : List Char) : stripFrom (d + 1) (cs ++ ys) = stripFrom (d' + 1) ys := by
  induction cs generalizing d with
  | nil =>
    simp only [depthAfter, Option.some.injEq] at h
    rw [h, List.nil_append]
  | cons c cs ih =>
    by_cases hl : c = '<'
    · subst hl
      simp only [depthAfter, if_true] at h
      simpa [stripFrom] using ih h
    · by_cases hg : c = '>'
      · subst hg
        cases d with
        | zero => simp [depthAfter] at h
        | succ e =>
          simp only [depthAfter, hl, if_false, if_true, Nat.add_one_ne_zero,
            Nat.add_sub_cancel] at h
          simpa [stripFrom] using ih h
      · simp only [depthAfter, hl, hg, if_false] at h
        simpa [stripFrom, hl, hg] using ih h

lemma stripFrom_group {inner : List Char} (h : Balanced inner) (ys : List Char) :
    stripFrom 0 ('<' :: (inner ++ '>' :: ys)) = stripFrom 0 ys := by
  rw [stripFrom, stripFrom_of_depthAfter h]
  simp [stripFrom]

lemma stripFrom_append_of_no_lt {xs : List Char} (h : '<' ∉ xs) (ys : List Char) :
    stripFrom 0 (xs ++ ys) = xs ++ stripFrom 0 ys := by
  induction xs with
  | nil => rfl
  | cons x xs ih =>
    simp only [List.mem_cons, not_or] at h
    rw [List.cons_append, stripFrom_zero_cons (Ne.symm h.1), ih h.2, List.cons_append]

lemma dropAnnotations_cons_of_not_mem {w : List Char} (hw : '@' ∉ w) (ws : List String) :
    dropAnnotations (String.ofList w :: ws) = String.ofList w :: dropAnnotations ws := by
  rw [dropAnnotations, String.toList_ofList]
  cases w with
  | nil => rfl
  | cons c cs =>
    have hc : c ≠ '@' := fun h => hw (h ▸ List.mem_cons_self)
    split
    · next h => exact absurd (List.cons.inj h).1 hc
    · rfl

lemma dropAnnotations_at (rest : List Char) (ws : List String) :
    dropAnnotations (String.ofList ('@' :: rest) :: ws) =
      if rest.contains '(' && !rest.contains ')' then dropArguments ws else dropAnnotations ws := by
  rw [dropAnnotations, String.toList_ofList]
  rfl

lemma dropArguments_wordsFrom {xs acc : List Char} (hxs : ')' ∉ xs) (hacc : ')' ∉ acc)
    (ws : List String) :
    dropArguments ((wordsFrom (xs ++ [')']) acc).map String.ofList ++ ws) = dropAnnotations ws := by
  induction xs generalizing acc with
  | nil =>
    rw [List.nil_append, wordsFrom_cons_of_not_blank (by decide), wordsFrom_nil]
    simp [dropArguments]
  | cons x xs ih =>
    simp only [List.mem_cons, not_or] at hxs
    rw [List.cons_append]
    cases hx : isBlank x
    · rw [wordsFrom_cons_of_not_blank hx]
      exact ih hxs.2 (by simp [hxs.1, hacc])
    · rw [wordsFrom_cons_blank hx, wordsFrom_nil]
      cases acc with
      | nil => simpa using ih hxs.2 (by simp)
      | cons a acc =>
        -- the word read so far holds no `)`, so the list stays open past it
        have hword : ')' ∉ (a :: acc).reverse := by rwa [List.mem_reverse]
        simp only [List.isEmpty_cons, Bool.false_eq_true, if_false,
          List.map_cons, List.cons_append]
        rw [dropArguments, String.toList_ofList, if_neg (by simpa [List.contains_iff_mem] using hword)]
        simpa using ih hxs.2 (by simp)

lemma dropAnnotations_wordsFrom_open {xs r : List Char} (hxs : ')' ∉ xs) (hr : '(' ∈ r)
    (hr' : ')' ∉ r) (ws : List String) :
    dropAnnotations ((wordsFrom (xs ++ [')']) ('@' :: r).reverse).map String.ofList ++ ws) =
      dropAnnotations ws := by
  induction xs generalizing r with
  | nil =>
    have hword : (')' :: ('@' :: r).reverse).reverse = '@' :: (r ++ [')']) := by simp
    rw [List.nil_append, wordsFrom_cons_of_not_blank (by decide), wordsFrom_nil, if_neg (by simp),
      hword, List.map_singleton, List.singleton_append, dropAnnotations_at,
      if_neg (by simp)]
  | cons x xs ih =>
    simp only [List.mem_cons, not_or] at hxs
    rw [List.cons_append]
    cases hx : isBlank x
    · rw [wordsFrom_cons_of_not_blank hx]
      have := ih (r := r ++ [x]) hxs.2 (by simp [hr]) (by simp [hr', hxs.1])
      simpa using this
    · rw [wordsFrom_cons_blank hx, wordsFrom_nil, if_neg (by simp), List.reverse_reverse,
        List.singleton_append, List.map_cons, List.cons_append, dropAnnotations_at,
        if_pos (by simp [hr, hr'])]
      exact dropArguments_wordsFrom hxs.2 (by simp) ws

structure AnnotationUse where
  name : List Char
  arguments : Option (List Char)
  deriving DecidableEq, Repr

def AnnotationUse.render (a : AnnotationUse) : List Char :=
  '@' :: (a.name ++ match a.arguments with
    | none => []
    | some args => '(' :: (args ++ [')']))

def AnnotationUse.Flat (a : AnnotationUse) : Prop :=
  (∀ c ∈ a.name, isBlank c = false ∧ c ≠ '(' ∧ c ≠ ')' ∧ c ≠ '<') ∧
    ∀ args ∈ a.arguments, ∀ c ∈ args, c ≠ '(' ∧ c ≠ ')' ∧ c ≠ '<'

instance (a : AnnotationUse) : Decidable a.Flat :=
  @instDecidableAnd _ _ (List.decidableBAll _ a.name)
    (@Option.decidableForallMem _ _ (fun args => List.decidableBAll _ args) a.arguments)

lemma dropAnnotations_render {a : AnnotationUse} (ha : a.Flat) (ws : List String) :
    dropAnnotations ((wordsFrom a.render []).map String.ofList ++ ws) = dropAnnotations ws := by
  obtain ⟨hname, hargs⟩ := ha
  have hnb : ∀ c ∈ '@' :: a.name, isBlank c = false := by
    intro c hc
    rcases List.mem_cons.mp hc with rfl | hc
    · decide
    · exact (hname c hc).1
  rw [AnnotationUse.render, ← List.cons_append, wordsFrom_append_of_not_blank hnb]
  cases hA : a.arguments with
  | none =>
    have hopen : '(' ∉ a.name := fun h => (hname '(' h).2.1 rfl
    rw [wordsFrom_nil, if_neg (by simp), List.append_nil, List.reverse_reverse,
      List.map_singleton, List.singleton_append, dropAnnotations_at,
      if_neg (by simp [hopen])]
  | some args =>
    have hflat := hargs args hA
    rw [wordsFrom_cons_of_not_blank (by decide)]
    have := dropAnnotations_wordsFrom_open (r := a.name ++ ['('])
      (show ')' ∉ args from fun h => (hflat ')' h).2.1 rfl) (by simp)
      (by simpa using fun h => (hname ')' h).2.2.1 rfl) ws
    simpa using this

inductive TypeToken where
  | annotationUse (a : AnnotationUse)
  | word (w : List Char)
  | arguments (inner : List Char)
  deriving DecidableEq, Repr

namespace TypeToken

def render : TypeToken → List Char
  | annotationUse a => a.render
  | word w => w
  | arguments inner => '<' :: (inner ++ ['>'])

def kept : TypeToken → List Char
  | annotationUse _ => []
  | word w => w
  | arguments _ => []

def Sound : TypeToken → Prop
  | annotationUse a => a.Flat
  | word w => ∀ c ∈ w, isBlank c = false ∧ c ≠ '@' ∧ c ≠ '<'
  | arguments inner => Balanced inner

instance : DecidablePred Sound := fun t =>
  match t with
  | annotationUse a => inferInstanceAs (Decidable a.Flat)
  | word w => List.decidableBAll _ w
  | arguments inner => inferInstanceAs (Decidable (Balanced inner))

def stripped : TypeToken → TypeToken
  | annotationUse a => annotationUse a
  | word w => word w
  | arguments _ => word []

lemma kept_stripped (t : TypeToken) : t.stripped.kept = t.kept := by
  cases t <;> rfl

lemma Sound.stripped {t : TypeToken} (ht : t.Sound) : t.stripped.Sound := by
  cases t with
  | arguments inner => exact fun c hc => absurd hc List.not_mem_nil
  | annotationUse _ | word _ => exact ht

lemma stripped_ne_arguments (t : TypeToken) (inner : List Char) : t.stripped ≠ arguments inner := by
  cases t <;> simp [stripped]

lemma not_lt_mem_render {t : TypeToken} (ht : t.Sound) (hplain : ∀ inner, t ≠ arguments inner) :
    '<' ∉ t.render := by
  cases t with
  | annotationUse a =>
    obtain ⟨hname, hargs⟩ := ht
    simp only [render, AnnotationUse.render, List.mem_cons, List.mem_append, not_or]
    refine ⟨by decide, fun h => (hname '<' h).2.2.2 rfl, ?_⟩
    cases hA : a.arguments with
    | none => simp
    | some args =>
      simp only [List.mem_cons, List.mem_append, not_or]
      exact ⟨by decide, fun h => (hargs args hA '<' h).2.2 rfl, by decide⟩
  | word w => exact fun h => (ht '<' h).2.2 rfl
  | arguments inner => exact absurd rfl (hplain inner)

end TypeToken

def spell : List (TypeToken × List Char) → List Char
  | [] => []
  | (t, gap) :: rest => t.render ++ gap ++ spell rest

def standApart : Bool → List (TypeToken × List Char) → Bool
  | _, [] => true
  | fresh, (.annotationUse _, gap) :: rest => fresh && !gap.isEmpty && standApart true rest
  | _, (_, gap) :: rest => standApart (!gap.isEmpty) rest

lemma standApart_map_stripped (fresh : Bool) (spaced : List (TypeToken × List Char)) :
    standApart fresh (spaced.map (Prod.map TypeToken.stripped id)) = standApart fresh spaced := by
  induction spaced generalizing fresh with
  | nil => rfl
  | cons p rest ih =>
    obtain ⟨t, gap⟩ := p
    cases t <;> simp only [List.map_cons, Prod.map_apply, id_eq, TypeToken.stripped, standApart, ih]

lemma no_lt_of_blank {cs : List Char} (h : ∀ c ∈ cs, isBlank c = true) : '<' ∉ cs :=
  fun hc => absurd (h '<' hc) (by decide)

lemma stripFrom_spell {spaced : List (TypeToken × List Char)} (hsound : ∀ p ∈ spaced, p.1.Sound)
    (hgaps : ∀ p ∈ spaced, ∀ c ∈ p.2, isBlank c = true) :
    stripFrom 0 (spell spaced) = spell (spaced.map (Prod.map TypeToken.stripped id)) := by
  induction spaced with
  | nil => rfl
  | cons p rest ih =>
    obtain ⟨t, gap⟩ := p
    have hrest := ih (fun q hq => hsound q (by simp [hq])) (fun q hq => hgaps q (by simp [hq]))
    have hgap := no_lt_of_blank (hgaps (t, gap) (by simp))
    have ht := hsound (t, gap) (by simp)
    simp only [spell, List.map_cons, Prod.map_apply, id_eq, List.append_assoc]
    cases t with
    | arguments inner =>
      simp only [TypeToken.render, TypeToken.stripped, List.cons_append, List.append_assoc,
        List.nil_append]
      rw [stripFrom_group ht, stripFrom_append_of_no_lt hgap, hrest]
    | annotationUse _ | word _ =>
      rw [stripFrom_append_of_no_lt (TypeToken.not_lt_mem_render ht (fun _ => nofun)),
        stripFrom_append_of_no_lt hgap, hrest, TypeToken.stripped]

lemma join_dropAnnotations_spell (spaced : List (TypeToken × List Char)) (fresh : Bool)
    (acc : List Char) (hsound : ∀ p ∈ spaced, p.1.Sound)
    (hgaps : ∀ p ∈ spaced, ∀ c ∈ p.2, isBlank c = true)
    (hplain : ∀ p ∈ spaced, ∀ inner, p.1 ≠ .arguments inner)
    (hapart : standApart fresh spaced = true) (hfresh : fresh = true → acc = [])
    (hacc : '@' ∉ acc) :
    String.join (dropAnnotations ((wordsFrom (spell spaced) acc).map String.ofList)) =
      String.ofList (acc.reverse ++ (spaced.map Prod.fst).flatMap TypeToken.kept) := by
  induction spaced generalizing fresh acc with
  | nil =>
    simp only [spell, List.map_nil, List.flatMap_nil, wordsFrom_nil, List.append_nil]
    cases acc with
    | nil => rfl
    | cons a acc =>
      simp only [List.isEmpty_cons, Bool.false_eq_true, if_false, List.map_cons, List.map_nil]
      rw [dropAnnotations_cons_of_not_mem (by rwa [List.mem_reverse]), dropAnnotations]
      simp
  | cons p rest ih =>
    obtain ⟨t, gap⟩ := p
    have hsound' := fun q hq => hsound q (List.mem_cons_of_mem _ hq)
    have hgaps' := fun q hq => hgaps q (List.mem_cons_of_mem _ hq)
    have hplain' := fun q hq => hplain q (List.mem_cons_of_mem _ hq)
    have hgap := hgaps (t, gap) (by simp)
    have ht := hsound (t, gap) (by simp)
    simp only [spell, List.map_cons, List.flatMap_cons]
    cases t with
    | annotationUse a =>
      simp only [standApart, Bool.and_eq_true, Bool.not_eq_true', List.isEmpty_eq_false_iff] at hapart
      obtain ⟨⟨hf, hne⟩, hrest⟩ := hapart
      obtain rfl := hfresh hf
      obtain ⟨c, gap', rfl⟩ := List.exists_cons_of_ne_nil hne
      -- the blank after the annotation ends its words
      have hc := hgap c (by simp)
      have hgap' : ∀ x ∈ gap', isBlank x = true := fun x hx => hgap x (by simp [hx])
      rw [List.append_assoc, List.cons_append, wordsFrom_append_blank hc,
        wordsFrom_blanks_append hgap', List.map_append, TypeToken.render, dropAnnotations_render ht]
      simpa [TypeToken.kept] using ih true [] hsound' hgaps' hplain' hrest (fun _ => rfl) (by simp)
    | word w =>
      have hw : ∀ x ∈ w, isBlank x = false := fun x hx => (ht x hx).1
      have hwacc : '@' ∉ w.reverse ++ acc := by
        simp only [List.mem_append, List.mem_reverse, not_or]
        exact ⟨fun h => (ht '@' h).2.1 rfl, hacc⟩
      rw [TypeToken.render, List.append_assoc, wordsFrom_append_of_not_blank hw]
      simp only [standApart] at hapart
      cases gap with
      | nil =>
        simpa [TypeToken.kept] using ih false (w.reverse ++ acc) hsound' hgaps' hplain' hapart
          (by simp) hwacc
      | cons c gap' =>
        -- a blank ends the word being read, which is kept
        have hc := hgap c (by simp)
        have hgap' : ∀ x ∈ gap', isBlank x = true := fun x hx => hgap x (by simp [hx])
        rw [List.cons_append, wordsFrom_cons_blank hc, wordsFrom_blanks_append hgap',
          wordsFrom_nil, List.map_append]
        have hrest := ih true [] hsound' hgaps' hplain' (by simpa using hapart) (fun _ => rfl)
          (by simp)
        split_ifs with hempty
        · have hnil : w.reverse ++ acc = [] := List.isEmpty_iff.mp hempty
          simp only [List.append_eq_nil_iff, List.reverse_eq_nil_iff] at hnil
          obtain ⟨rfl, rfl⟩ := hnil
          simpa [TypeToken.kept] using hrest
        · rw [List.map_singleton, List.singleton_append,
            dropAnnotations_cons_of_not_mem (by rwa [List.mem_reverse]), String.join_cons, hrest]
          simp [TypeToken.kept, ← String.ofList_append]
    | arguments inner => exact absurd rfl (hplain (.arguments inner, gap) (by simp) inner)

theorem erase_spell (lead : List Char) (spaced : List (TypeToken × List Char))
    (hlead : ∀ c ∈ lead, isBlank c = true) (hsound : ∀ p ∈ spaced, p.1.Sound)
    (hgaps : ∀ p ∈ spaced, ∀ c ∈ p.2, isBlank c = true) (hapart : standApart true spaced = true) :
    erase (String.ofList (lead ++ spell spaced)) =
      if (spaced.map Prod.fst).flatMap TypeToken.kept = [] then "?"
      else String.ofList ((spaced.map Prod.fst).flatMap TypeToken.kept) := by
  let stripped := spaced.map (Prod.map TypeToken.stripped id)
  have hstrip : stripFrom 0 (lead ++ spell spaced) = lead ++ spell stripped := by
    rw [stripFrom_append_of_no_lt (no_lt_of_blank hlead), stripFrom_spell hsound hgaps]
  have hkept : (stripped.map Prod.fst).flatMap TypeToken.kept =
      (spaced.map Prod.fst).flatMap TypeToken.kept := by
    simp only [stripped, List.map_map, List.flatMap_map]
    exact List.flatMap_congr fun p _ => TypeToken.kept_stripped p.1
  have hwords : String.join (dropAnnotations ((wordsFrom (spell stripped) []).map String.ofList)) =
      String.ofList ((spaced.map Prod.fst).flatMap TypeToken.kept) := by
    rw [← hkept]
    refine join_dropAnnotations_spell stripped true [] ?_ ?_ ?_ ?_ (fun _ => rfl) (by simp)
    · intro q hq
      obtain ⟨p, hp, rfl⟩ := List.mem_map.mp hq
      exact (hsound p hp).stripped
    · intro q hq
      obtain ⟨p, hp, rfl⟩ := List.mem_map.mp hq
      exact hgaps p hp
    · intro q hq inner
      obtain ⟨p, hp, rfl⟩ := List.mem_map.mp hq
      exact TypeToken.stripped_ne_arguments p.1 inner
    · rw [standApart_map_stripped]
      exact hapart
  unfold erase stripArguments wordsOf words
  dsimp only
  rw [String.toList_ofList, String.toList_ofList, hstrip, wordsFrom_blanks_append hlead, hwords]
  by_cases hk : (spaced.map Prod.fst).flatMap TypeToken.kept = [] <;> simp [hk]

structure Segment where
  annotations : List AnnotationUse
  name : List Char
  arguments : Option (List Char)
  deriving DecidableEq, Repr

def Segment.tokens (s : Segment) : List TypeToken :=
  s.annotations.map .annotationUse ++ .word s.name :: s.arguments.toList.map .arguments

/-- A type as written: annotations before it, the segments of its dotted name, and its array
dimensions, each with the annotations written before its brackets. -/
structure TypeText where
  annotations : List AnnotationUse
  segments : List Segment
  dimensions : List (List AnnotationUse)
  deriving DecidableEq, Repr

namespace TypeText

def tokens (T : TypeText) : List TypeToken :=
  T.annotations.map .annotationUse ++ List.intercalate [.word ['.']] (T.segments.map Segment.tokens) ++
    T.dimensions.flatMap fun annots => annots.map .annotationUse ++ [.word ['['], .word [']']]

def erasure (T : TypeText) : List Char :=
  List.intercalate ['.'] (T.segments.map Segment.name) ++ T.dimensions.flatMap fun _ => ['[', ']']

/-- A type whose tokens erasure reads as intended: flat annotations, names without blanks, `@`
or `<`, and balanced type arguments. -/
def WellFormed (T : TypeText) : Prop := ∀ t ∈ T.tokens, t.Sound

instance : DecidablePred WellFormed := fun T =>
  inferInstanceAs (Decidable (∀ t ∈ T.tokens, t.Sound))

lemma flatMap_kept_annotations (annots : List AnnotationUse) :
    (annots.map TypeToken.annotationUse).flatMap TypeToken.kept = [] := by
  simp [List.flatMap_map, TypeToken.kept]

lemma flatMap_kept_segment (s : Segment) : s.tokens.flatMap TypeToken.kept = s.name := by
  cases h : s.arguments <;> simp [Segment.tokens, h, flatMap_kept_annotations, TypeToken.kept]

lemma flatMap_kept_intercalate (ss : List Segment) :
    (List.intercalate [.word ['.']] (ss.map Segment.tokens)).flatMap TypeToken.kept =
      List.intercalate ['.'] (ss.map Segment.name) := by
  induction ss with
  | nil => rfl
  | cons s ss ih =>
    cases ss with
    | nil => simp [flatMap_kept_segment]
    | cons s' ss =>
      simp only [List.map_cons, List.intercalate_cons_cons, List.flatMap_append,
        flatMap_kept_segment] at ih ⊢
      rw [ih]
      rfl

lemma flatMap_kept_tokens (T : TypeText) : T.tokens.flatMap TypeToken.kept = T.erasure := by
  simp only [tokens, erasure, List.flatMap_append, flatMap_kept_annotations,
    flatMap_kept_intercalate, List.flatMap_assoc, List.nil_append]
  simp [TypeToken.kept]

end TypeText

/-- Erasing a well-formed type written with blanks before and between its tokens, each
annotation standing apart from its neighbours: the dotted name and one `[]` per dimension, or
`?` when that is empty. -/
theorem erase_eq_erasure_of_standApart (T : TypeText) (hT : T.WellFormed) (lead : List Char)
    (spaced : List (TypeToken × List Char)) (htokens : spaced.map Prod.fst = T.tokens)
    (hlead : ∀ c ∈ lead, isBlank c = true) (hgaps : ∀ p ∈ spaced, ∀ c ∈ p.2, isBlank c = true)
    (hapart : standApart true spaced = true) :
    erase (String.ofList (lead ++ spell spaced)) =
      if T.erasure = [] then "?" else String.ofList T.erasure := by
  have hsound : ∀ p ∈ spaced, p.1.Sound := fun p hp => hT p.1 (htokens ▸ List.mem_map_of_mem hp)
  rw [erase_spell lead spaced hlead hsound hgaps hapart, htokens, T.flatMap_kept_tokens]

theorem erase_annotated_generic_array :
    erase "@A(x = 1) java.util.List<String> []" = "java.util.List[]" :=
  erase_eq_erasure_of_standApart
    ⟨[⟨['A'], some ['x', ' ', '=', ' ', '1']⟩],
      [⟨[], ['j', 'a', 'v', 'a'], none⟩, ⟨[], ['u', 't', 'i', 'l'], none⟩,
        ⟨[], ['L', 'i', 's', 't'], some ['S', 't', 'r', 'i', 'n', 'g']⟩],
      [[]]⟩
    (by decide) []
    [(.annotationUse ⟨['A'], some ['x', ' ', '=', ' ', '1']⟩, [' ']), (.word ['j', 'a', 'v', 'a'], []),
      (.word ['.'], []), (.word ['u', 't', 'i', 'l'], []), (.word ['.'], []),
      (.word ['L', 'i', 's', 't'], []), (.arguments ['S', 't', 'r', 'i', 'n', 'g'], [' ']),
      (.word ['['], []), (.word [']'], [])]
    rfl (by simp) (by simp; decide) rfl

example : erase "java.lang.@Ann String" = "java.lang.@AnnString" := by decide

end CodeGraph.Java
