import Mathlib
import CodeGraph.Java.Grammar.Recovery

/-! What a grammar can answer: `Yields p P` says that every value `p` answers satisfies `P`, and it
follows the combinators. -/

namespace CodeGraph.Java

def Decl.isType : Decl → Bool
  | .type .. => true
  | _ => false

/-- Every declaration at the top of a file is a type declaration, as Java's grammar has it. -/
def TypesAtTop (items : List Item) : Prop := ∀ d, .decl d ∈ items → d.isType = true

namespace Grammar

def Yields {α : Type} (p : Grammar α) (P : α → Prop) : Prop :=
  ∀ inp pos far a next far', p inp pos far = .ok a next far' → P a

variable {α β : Type} {P : α → Prop}

lemma yields_pure {a : α} (h : P a) : Yields (pure a : Grammar α) P := by
  intro inp pos far a' next far' hp
  obtain ⟨rfl, -, -⟩ : a = a' ∧ pos = next ∧ far = far' := by
    simpa [pure] using hp
  exact h

lemma yields_refuse : Yields (refuse : Grammar α) P := by
  intro inp pos far a next far' h
  cases h

lemma yields_bind {p : Grammar α} {f : α → Grammar β} {Q : α → Prop} {P : β → Prop}
    (hp : Yields p Q) (hf : ∀ a, Q a → Yields (f a) P) : Yields (p >>= f) P := by
  intro inp pos far b next far' h
  change Grammar.bind p f inp pos far = _ at h
  unfold Grammar.bind at h
  split at h
  · next a n f' hpa => exact hf a (hp _ _ _ _ _ _ hpa) _ _ _ _ _ _ h
  · cases h

lemma yields_bind_of {p : Grammar α} {f : α → Grammar β} {P : β → Prop}
    (hf : ∀ a, Yields (f a) P) : Yields (p >>= f) P :=
  yields_bind (Q := fun _ => True) (fun _ _ _ _ _ _ _ => trivial) fun a _ => hf a

lemma yields_orElse {p : Grammar α} {q : Unit → Grammar α} (hp : Yields p P) (hq : Yields (q ()) P) :
    Yields (p.orElse q) P := by
  intro inp pos far a next far' h
  unfold Grammar.orElse at h
  split at h
  · next hpa =>
    cases h
    exact hp _ _ _ _ _ _ hpa
  · exact hq _ _ _ _ _ _ h

lemma yields_manyFrom {p : Grammar α} (hp : Yields p P) :
    ∀ (fuel : Nat) (acc : List α), (∀ x ∈ acc, P x) →
      Yields (manyFrom p fuel acc) fun xs => ∀ x ∈ xs, P x := by
  intro fuel
  induction fuel with
  | zero =>
    intro acc hacc
    exact yields_pure fun x hx => hacc x (List.mem_reverse.1 hx)
  | succ fuel ih =>
    intro acc hacc inp pos far xs next far' h
    unfold manyFrom at h
    split at h
    · next a n f hpa =>
      have hcons : ∀ x ∈ a :: acc, P x := by
        intro x hx
        rcases List.mem_cons.1 hx with rfl | hx
        · exact hp _ _ _ _ _ _ hpa
        · exact hacc x hx
      split at h
      · exact ih (a :: acc) hcons _ _ _ _ _ _ h
      · cases h
        exact fun x hx => hcons x (List.mem_reverse.1 hx)
    · cases h
      exact fun x hx => hacc x (List.mem_reverse.1 hx)

lemma yields_many {p : Grammar α} (hp : Yields p P) :
    Yields (many p) fun xs => ∀ x ∈ xs, P x :=
  fun inp pos far => yields_manyFrom hp _ [] (by simp) inp pos far

end Grammar

open Grammar

lemma typeDecl_isType (r : Rules) : Yields (Productions.typeDecl r) (·.isType = true) := by
  unfold Productions.typeDecl
  exact yields_bind_of fun _ => yields_bind_of fun _ => yields_bind_of fun _ =>
    yields_bind_of fun _ => yields_pure rfl

lemma upTo_typeDecl_isType (n : Nat) : Yields (Rules.upTo n).typeDecl (·.isType = true) := by
  cases n with
  | zero => exact yields_refuse
  | succ n => exact typeDecl_isType _

lemma topItem_declares_type (n : Nat) :
    Yields (topItem (Rules.upTo n)) fun item => ∀ d, item = some (.decl d) → d.isType = true := by
  unfold topItem
  refine yields_orElse (yields_bind_of fun _ => yields_pure (by simp)) ?_
  refine yields_orElse (yields_bind_of fun _ => yields_pure (by simp)) ?_
  refine yields_orElse (yields_bind (upTo_typeDecl_isType n) fun d hd => yields_pure ?_) ?_
  · intro d' h
    cases h
    exact hd
  refine yields_orElse (yields_bind_of fun _ => yields_pure (by simp)) ?_
  exact yields_bind_of fun _ => yields_pure (by simp)

theorem readSource_declares_types {source : String} {items : List Item}
    (h : readSource source = .ok items) : TypesAtTop items := by
  have hprogram : ∀ n, Yields (program (Rules.upTo n)) fun items =>
      ∀ d, .decl d ∈ items → d.isType = true := by
    intro n
    unfold program
    refine yields_bind (yields_many (topItem_declares_type n)) fun xs hxs => ?_
    refine yields_bind_of fun atEnd => ?_
    split
    · refine yields_pure fun d hd => ?_
      obtain ⟨item, hitem, hsome⟩ := List.mem_filterMap.1 hd
      exact hxs item hitem d hsome
    · exact yields_refuse
  unfold readSource at h
  dsimp only at h
  cases hread : readTokens (tokenize source) source.toList.toArray with
  | error i =>
    rw [hread] at h
    cases h
  | ok items' =>
    rw [hread] at h
    cases h
    unfold readTokens at hread
    split at hread
    · next _ _ _ hp =>
      cases hread
      exact hprogram _ _ _ _ _ _ _ hp
    · cases hread

end CodeGraph.Java
