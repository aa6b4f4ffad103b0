import Mathlib
import CodeGraph.Java.SyntaxTree

/-! Where a file refused by its syntax tree is reported: under the parser's promise about error
flags, the search down the flagged children finds the first error or missing node in pre-order. -/

namespace CodeGraph.Java

namespace SyntaxTree

def isBroken (t : SyntaxTree) : Bool := t.isError || t.isMissing

mutual

def preorder : SyntaxTree → List SyntaxTree
  | t@(node _ _ _ _ cs) => t :: preorderIn cs

def preorderIn : List SyntaxTree → List SyntaxTree
  | [] => []
  | c :: cs => preorder c ++ preorderIn cs

end

def firstBroken (t : SyntaxTree) : Option SyntaxTree := t.preorder.find? isBroken

/-- The flags of a tree are those the parser promises: a node has an error exactly when it is an
error or missing node or a child of it has an error. -/
def Flagged (t : SyntaxTree) : Prop :=
  ∀ n ∈ t.preorder, n.hasError = (n.isBroken || n.children.any hasError)

instance (t : SyntaxTree) : Decidable t.Flagged :=
  inferInstanceAs (Decidable (∀ n ∈ t.preorder, _))

@[simp] lemma preorder_node (e m h : Bool) (row : Nat) (cs : List SyntaxTree) :
    (node e m h row cs).preorder = node e m h row cs :: preorderIn cs := by
  rw [preorder]

@[simp] lemma preorderIn_nil : preorderIn [] = [] := by
  rw [preorderIn]

@[simp] lemma preorderIn_cons (c : SyntaxTree) (cs : List SyntaxTree) :
    preorderIn (c :: cs) = c.preorder ++ preorderIn cs := by
  rw [preorderIn]

@[simp] lemma isBroken_node (e m h : Bool) (row : Nat) (cs : List SyntaxTree) :
    (node e m h row cs).isBroken = (e || m) := rfl

lemma firstErrorLineIn_eq_findSome? (cs : List SyntaxTree) :
    firstErrorLineIn cs = (cs.filter hasError).findSome? firstErrorLine := by
  induction cs with
  | nil => rw [firstErrorLineIn]; rfl
  | cons c cs ih =>
    rw [firstErrorLineIn, List.filter_cons]
    by_cases hc : c.hasError = true
    · cases hl : c.firstErrorLine <;> simp [hc, hl, ih]
    · simp [hc, ih]

lemma mem_preorderIn {n : SyntaxTree} {cs : List SyntaxTree} :
    n ∈ preorderIn cs ↔ ∃ c ∈ cs, n ∈ c.preorder := by
  induction cs with
  | nil => simp
  | cons c cs ih => simp [ih]

lemma Flagged.root {e m h : Bool} {row : Nat} {cs : List SyntaxTree}
    (hf : (node e m h row cs).Flagged) : h = (e || m || cs.any hasError) :=
  hf (node e m h row cs) (by simp)

lemma Flagged.child {e m h : Bool} {row : Nat} {cs : List SyntaxTree}
    (hf : (node e m h row cs).Flagged) : ∀ c ∈ cs, c.Flagged := by
  intro c hc n hn
  exact hf n (by simp only [preorder_node, List.mem_cons, mem_preorderIn]; exact .inr ⟨c, hc, hn⟩)

mutual

theorem hasError_iff : ∀ t : SyntaxTree, t.Flagged →
    (t.hasError = true ↔ ∃ n ∈ t.preorder, n.isBroken = true)
  | node e m h row cs, hf => by
    have hcs := any_hasError_iff cs hf.child
    rw [hasError, hf.root, preorder_node]
    simp only [Bool.or_eq_true, List.mem_cons, exists_eq_or_imp, isBroken_node, hcs]

theorem any_hasError_iff : ∀ cs : List SyntaxTree, (∀ c ∈ cs, c.Flagged) →
    (cs.any hasError = true ↔ ∃ n ∈ preorderIn cs, n.isBroken = true)
  | [], _ => by simp
  | c :: cs, hf => by
    have hc := hasError_iff c (hf c (by simp))
    have hcs := any_hasError_iff cs (fun c' hc' => hf c' (by simp [hc']))
    simp only [List.any_cons, Bool.or_eq_true, hc, hcs, preorderIn_cons, List.mem_append]
    constructor
    · rintro (⟨n, hn, hb⟩ | ⟨n, hn, hb⟩)
      · exact ⟨n, .inl hn, hb⟩
      · exact ⟨n, .inr hn, hb⟩
    · rintro ⟨n, hn | hn, hb⟩
      · exact .inl ⟨n, hn, hb⟩
      · exact .inr ⟨n, hn, hb⟩

end

lemma find?_preorder_eq_none {t : SyntaxTree} (hf : t.Flagged) (h : t.hasError = false) :
    t.preorder.find? isBroken = none := by
  rw [List.find?_eq_none]
  intro n hn hb
  have := (hasError_iff t hf).mpr ⟨n, hn, by simpa using hb⟩
  simp_all

lemma find?_preorder_isSome {t : SyntaxTree} (hf : t.Flagged) (h : t.hasError = true) :
    (t.preorder.find? isBroken).isSome := by
  obtain ⟨n, hn, hb⟩ := (hasError_iff t hf).mp h
  exact List.find?_isSome.mpr ⟨n, hn, hb⟩

mutual

theorem firstErrorLine_eq : ∀ t : SyntaxTree, t.Flagged →
    t.firstErrorLine = t.firstBroken.map (·.startRow + 1)
  | node e m h row cs, hf => by
    rw [firstErrorLine, firstBroken, preorder_node, List.find?_cons, isBroken_node]
    by_cases hb : (e || m) = true
    · simp [hb, startRow]
    · simp only [hb, if_false, Bool.false_eq_true]
      exact firstErrorLineIn_eq cs hf.child

theorem firstErrorLineIn_eq : ∀ cs : List SyntaxTree, (∀ c ∈ cs, c.Flagged) →
    firstErrorLineIn cs = ((preorderIn cs).find? isBroken).map (·.startRow + 1)
  | [], _ => by rw [firstErrorLineIn]; rfl
  | c :: cs, hf => by
    have hc := hf c (by simp)
    have hcs := firstErrorLineIn_eq cs (fun c' hc' => hf c' (by simp [hc']))
    rw [firstErrorLineIn, preorderIn_cons, List.find?_append]
    cases herr : c.hasError
    · -- a child without an error holds no error or missing node, and the search passes it by
      simp [find?_preorder_eq_none hc herr, hcs]
    · -- a child with an error holds one, and the search stops in it
      obtain ⟨n, hn⟩ := Option.isSome_iff_exists.mp (find?_preorder_isSome hc herr)
      have hline := firstErrorLine_eq c hc
      rw [firstBroken, hn] at hline
      simp [hline, hn]

end

lemma firstBroken_eq_none_iff {t : SyntaxTree} (hf : t.Flagged) :
    t.firstBroken = none ↔ t.hasError = false := by
  constructor
  · intro h
    cases herr : t.hasError
    · rfl
    · have hsome := find?_preorder_isSome hf herr
      rw [← firstBroken, h] at hsome
      cases hsome
  · exact find?_preorder_eq_none hf

end SyntaxTree

open SyntaxTree

lemma refusalMessage_eq (path : String) (line : Nat) :
    refusalMessage path line =
      "Failed to parse " ++ path ++ ": syntax error at line " ++ toString line := by
  have hmsg : refusalMessage path line =
      "Failed to parse " ++ path ++ ": " ++ ("syntax error at line " ++ toString line) := rfl
  have hlit : ": " ++ "syntax error at line " = ": syntax error at line " := by decide
  rw [hmsg, ← hlit]
  simp only [String.append_assoc]

lemma parseTree_eq {t : SyntaxTree} (hf : t.Flagged) (lower : SyntaxTree → Outline.Unit) :
    parseTree t lower = match t.firstBroken with
      | none => .ok (lower t)
      | some n => .error (n.startRow + 1) := by
  unfold parseTree
  cases hb : t.firstBroken with
  | none => rw [if_neg (by simp [(firstBroken_eq_none_iff hf).mp hb])]
  | some n =>
    have herr : t.hasError = true := by
      cases herr : t.hasError
      · rw [(firstBroken_eq_none_iff hf).mpr herr] at hb
        cases hb
      · rfl
    rw [if_pos herr, firstErrorLine_eq t hf, hb]
    rfl

/-- A file read through a tree with the promised flags: when no node is an error or missing node
the tree is lowered and nothing is refused; otherwise the file is salvaged, which recovers no
declarations, and refused at the line where the first error or missing node in pre-order starts.
The search for that line always finds one, so its default of line 1 is never used. -/
theorem readTree_reports_first_error (parse : String → SyntaxTree)
    (lower : SyntaxTree → Outline.Unit) (source path : String) (hflag : (parse source).Flagged) :
    let tree := parse source
    let r := readTree parse lower source path
    (r.reader = .grammar ∧ r.error = none ↔ ∀ n ∈ tree.preorder, n.isBroken = false) ∧
    (tree.firstBroken = none → r = ⟨lower tree, .grammar, none⟩) ∧
    (∀ n, tree.firstBroken = some n → r = ⟨Salvage.salvage source, .salvage,
      some ("Failed to parse " ++ path ++ ": syntax error at line " ++ toString (n.startRow + 1))⟩) ∧
    (Salvage.salvage source).nodes = [] ∧
    (tree.hasError = true → tree.firstErrorLine.isSome) := by
  dsimp only
  have hparse := parseTree_eq hflag lower
  have hok : (parse source).firstBroken = none →
      readTree parse lower source path = ⟨lower (parse source), .grammar, none⟩ := by
    intro h
    rw [readTree, hparse, h]
    rfl
  have hrefused : ∀ n, (parse source).firstBroken = some n →
      readTree parse lower source path = ⟨Salvage.salvage source, .salvage,
        some ("Failed to parse " ++ path ++ ": syntax error at line " ++
          toString (n.startRow + 1))⟩ := by
    intro n h
    rw [readTree, hparse, h, ← refusalMessage_eq]
    rfl
  -- no node is broken exactly when the search in pre-order finds none
  have hnone : (parse source).firstBroken = none ↔ ∀ n ∈ (parse source).preorder,
      n.isBroken = false := by
    simp [firstBroken, List.find?_eq_none]
  refine ⟨?_, hok, hrefused, rfl, fun h => ?_⟩
  · constructor
    · rintro ⟨hg, -⟩
      cases hb : (parse source).firstBroken with
      | none => exact hnone.mp hb
      | some n => rw [hrefused n hb] at hg; cases hg
    · intro hall
      rw [hok (hnone.mpr hall)]
      exact ⟨rfl, rfl⟩
  · rw [firstErrorLine_eq _ hflag, Option.isSome_map]
    exact find?_preorder_isSome hflag h

theorem readTree_refuses_at_missing_node :
    let tree := SyntaxTree.node false false true 0
      [.node false false false 0 [], .node false false true 3 [.node false true true 4 []],
        .node true false true 7 []]
    tree.Flagged ∧
      readTree (fun _ => tree) (fun _ => Outline.Unit.empty) "class A \x7b" "A.java" =
        ⟨Salvage.salvage "class A \x7b", .salvage,
          some ("Failed to parse " ++ "A.java" ++ ": syntax error at line " ++ toString (4 + 1))⟩ := by
  intro tree
  have hflag : tree.Flagged := by decide
  have hfirst : tree.firstBroken = some (.node false true true 4 []) := rfl
  have hread := readTree_reports_first_error (fun _ => tree) (fun _ => Outline.Unit.empty)
    "class A \x7b" "A.java" hflag
  -- the node found first fixes the line; elaborating it against the goal instead is slow
  have hrefused := hread.2.2.1 _ hfirst
  exact ⟨hflag, hrefused⟩

end CodeGraph.Java
