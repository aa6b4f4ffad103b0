import Mathlib
import CodeGraph.Proofs.Java.Answers
import CodeGraph.Extraction
import CodeGraph.Java.Outline

/-! How a Java file's declarations are lowered to its outline. A type declaration lowers to the
same node wherever it stands; read off the outline, each constructor is named after the type that
holds it and each list of modifiers strictly increases, for any file whose top declarations are
type declarations. -/

namespace CodeGraph

namespace Outline

mutual

def Node.placed (owner : Option String) : Node → List (Option String × Node)
  | .type h ms => (owner, .type h ms) :: placedIn (some h.name) ms
  | .group cs => (owner, .group cs) :: placedIn owner cs
  | .method m => [(owner, .method m)]
  | .field f => [(owner, .field f)]

def placedIn (owner : Option String) : List Node → List (Option String × Node)
  | [] => []
  | n :: ns => n.placed owner ++ placedIn owner ns

end

def Unit.placed (u : Unit) : List (Option String × Node) := placedIn none u.nodes

def Node.modifiers : Node → List String
  | .type h _ => h.modifiers
  | .method m => m.modifiers
  | .field f => f.modifiers
  | .group _ => []

@[simp] lemma placedIn_nil (owner : Option String) : placedIn owner [] = [] := by
  rw [placedIn]

@[simp] lemma placedIn_cons (owner : Option String) (n : Node) (ns : List Node) :
    placedIn owner (n :: ns) = n.placed owner ++ placedIn owner ns := by
  rw [placedIn]

@[simp] lemma placedIn_append (owner : Option String) (ns ms : List Node) :
    placedIn owner (ns ++ ms) = placedIn owner ns ++ placedIn owner ms := by
  induction ns with
  | nil => simp
  | cons n ns ih => simp [ih]

@[simp] lemma placed_type (owner : Option String) (h : TypeHeader) (ms : List Node) :
    (Node.type h ms).placed owner = (owner, .type h ms) :: placedIn (some h.name) ms := by
  rw [Node.placed]

@[simp] lemma placed_group (owner : Option String) (cs : List Node) :
    (Node.group cs).placed owner = (owner, .group cs) :: placedIn owner cs := by
  rw [Node.placed]

@[simp] lemma placed_method (owner : Option String) (m : MethodDecl) :
    (Node.method m).placed owner = [(owner, .method m)] := by
  rw [Node.placed]

@[simp] lemma placed_field (owner : Option String) (f : FieldDecl) :
    (Node.field f).placed owner = [(owner, .field f)] := by
  rw [Node.placed]

@[simp] lemma placedIn_method (owner : Option String) (m : MethodDecl) :
    placedIn owner [.method m] = [(owner, .method m)] := by
  simp

@[simp] lemma placedIn_field (owner : Option String) (f : FieldDecl) :
    placedIn owner [.field f] = [(owner, .field f)] := by
  simp

lemma placedIn_flatMap {α : Type} (owner : Option String) (f : α → List Node) (l : List α) :
    placedIn owner (l.flatMap f) = l.flatMap fun a => placedIn owner (f a) := by
  induction l with
  | nil => simp
  | cons a l ih => simp [ih]

end Outline

namespace Java

lemma mem_dropRepeats {x : String} : ∀ {l : List String}, x ∈ dropRepeats l → x ∈ l
  | [] , h => h
  | [_], h => h
  | a :: b :: rest, h => by
    rw [dropRepeats] at h
    split at h
    · exact List.mem_cons_of_mem a (mem_dropRepeats h)
    · rcases List.mem_cons.1 h with rfl | h
      · exact List.mem_cons_self
      · exact List.mem_cons_of_mem a (mem_dropRepeats h)

lemma dropRepeats_pairwise_lt : ∀ {l : List String}, l.Pairwise (· ≤ ·) →
    (dropRepeats l).Pairwise (· < ·)
  | [], _ => by simp [dropRepeats]
  | [_], _ => by simp [dropRepeats]
  | a :: b :: rest, h => by
    rw [dropRepeats]
    have hrest : (b :: rest).Pairwise (· ≤ ·) := List.Pairwise.of_cons h
    split
    · exact dropRepeats_pairwise_lt hrest
    · next hab =>
      have hab : a ≠ b := by simpa using hab
      refine List.Pairwise.cons (fun x hx => ?_) (dropRepeats_pairwise_lt hrest)
      have hx := mem_dropRepeats hx
      have hax : a ≤ x := List.rel_of_pairwise_cons h hx
      refine lt_of_le_of_ne hax fun hxa => hab ?_
      -- `x` lies at or after `b`, so `a ≤ b ≤ x = a`.
      rcases List.mem_cons.1 hx with rfl | hx
      · exact hxa
      · exact le_antisymm (List.rel_of_pairwise_cons h List.mem_cons_self)
          (hxa ▸ List.rel_of_pairwise_cons hrest hx)

lemma sortModifiers_canonical (mods : List String) :
    (sortModifiers mods).Pairwise (· < ·) ∧ ∀ x ∈ sortModifiers mods, x ∈ modifierKeywords := by
  have hsorted := @List.pairwise_mergeSort _ (fun a b : String => decide (a ≤ b))
    (fun a b c hab hbc => by simp only [decide_eq_true_eq] at *; exact le_trans hab hbc)
    (fun a b => by simpa using le_total a b) (mods.filter modifierKeywords.contains)
  refine ⟨dropRepeats_pairwise_lt (by simpa using hsorted), fun x hx => ?_⟩
  have hx := List.mem_mergeSort.1 (mem_dropRepeats hx)
  simpa using (List.mem_filter.1 hx).2

lemma erase_ne_empty (s : String) : erase s ≠ "" := by
  unfold erase
  dsimp only
  split
  · simp
  · next h => simpa using h

lemma Param.outline_typeName_ne_empty (p : Param) : (Param.outline p).typeName ≠ "" := by
  unfold Param.outline
  split
  · simp
  · intro h
    exact erase_ne_empty p.type (String.append_eq_empty_iff.1 h).1

mutual

def Decl.subdecls : Decl → List Decl
  | .type k n mods sc ext impl comps members first last =>
    .type k n mods sc ext impl comps members first last :: Decl.subdeclsIn members
  | .initializer locals => .initializer locals :: Decl.subdeclsIn locals
  | .method name params result mods body first last =>
    [.method name params result mods body first last]
  | .constructor params mods body first last => [.constructor params mods body first last]
  | .compactConstructor mods body first last => [.compactConstructor mods body first last]
  | .field ty names mods => [.field ty names mods]

def Decl.subdeclsIn : List Decl → List Decl
  | [] => []
  | d :: ds => d.subdecls ++ Decl.subdeclsIn ds

end

def Item.decls : Item → List Decl
  | .decl d => d.subdecls
  | _ => []

def Item.nodes : Item → List Outline.Node
  | .decl d => d.outline "" []
  | _ => []

def declsOf (items : List Item) : List Decl := items.flatMap Item.decls

lemma nodes_outline (items : List Item) : (outline items).nodes = items.flatMap Item.nodes := by
  -- A fold whose step appends an item's nodes keeps the nodes gathered so far in front.
  have h : ∀ f : Outline.Unit → Item → Outline.Unit, (∀ u item, (f u item).nodes = u.nodes ++ item.nodes) →
      ∀ (u : Outline.Unit) (items : List Item),
        (items.foldl f u).nodes = u.nodes ++ items.flatMap Item.nodes := by
    intro f hf u items
    induction items generalizing u with
    | nil => simp
    | cons item items ih => rw [List.foldl_cons, ih, hf, List.flatMap_cons, List.append_assoc]
  unfold outline
  refine (h _ ?_ Outline.Unit.empty items).trans (by simp [Outline.Unit.empty])
  intro u item
  cases item <;> simp [Item.nodes]

lemma outline_type (owner : String) (comps : List Outline.Param) (k : Outline.TypeKind) (n : String)
    (mods : List String) (sc : Option String) (ext impl : List String)
    (cs : Option (List Param)) (members : List Decl) (first last : Nat) :
    (Decl.type k n mods sc ext impl cs members first last).outline owner comps =
      [.type ⟨n, k, (sc.map erase).toList ++ ext.map erase, impl.map erase, sortModifiers mods,
          first, last⟩
        (((cs.getD []).map Param.outline).map (fun p =>
            Outline.Node.field ⟨some p.typeName, [p.name], ["final", "private"]⟩) ++
          Decl.outlineAll n ((cs.getD []).map Param.outline) members)] := by
  rw [Decl.outline]

lemma outlineAll_cons (owner : String) (comps : List Outline.Param) (d : Decl) (ds : List Decl) :
    Decl.outlineAll owner comps (d :: ds) = d.outline owner comps ++ Decl.outlineAll owner comps ds := by
  rw [Decl.outlineAll]

lemma subset_outlineAll {owner : String} {comps : List Outline.Param} {d : Decl} :
    ∀ {ds : List Decl}, d ∈ ds → d.outline owner comps ⊆ Decl.outlineAll owner comps ds
  | [], h => absurd h List.not_mem_nil
  | d' :: ds, h => by
    rw [outlineAll_cons]
    rcases List.mem_cons.1 h with rfl | h
    · exact List.subset_append_left _ _
    · exact List.Subset.trans (subset_outlineAll h) (List.subset_append_right _ _)

/-- What the outline promises of a node `n` placed under the type `o`. -/
structure PlacedWell (o : Option String) (n : Outline.Node) : Prop where
  params : ∀ m, n = .method m → ∀ p ∈ m.params, p.typeName ≠ ""
  named : ∀ m, n = .method m → m.isConstructor = true → o = some m.name ∧ m.returnType = none
  sorted : n.modifiers.Pairwise (· < ·)
  keywords : ∀ x ∈ n.modifiers, x ∈ modifierKeywords

lemma placedWell_of_not_method {o : Option String} {n : Outline.Node} (hn : ∀ m, n ≠ .method m)
    (hmods : n.modifiers.Pairwise (· < ·) ∧ ∀ x ∈ n.modifiers, x ∈ modifierKeywords) :
    PlacedWell o n :=
  ⟨fun m h => absurd h (hn m), fun m h => absurd h (hn m), hmods.1, hmods.2⟩

lemma placedWell_method {o : Option String} {m : Outline.MethodDecl}
    (hparams : ∀ p ∈ m.params, p.typeName ≠ "")
    (hctor : m.isConstructor = true → o = some m.name ∧ m.returnType = none)
    (hmods : m.modifiers.Pairwise (· < ·) ∧ ∀ x ∈ m.modifiers, x ∈ modifierKeywords) :
    PlacedWell o (.method m) where
  params _ h := by cases h; exact hparams
  named _ h := by cases h; exact hctor
  sorted := hmods.1
  keywords := hmods.2

lemma final_private_canonical :
    ["final", "private"].Pairwise (· < ·) ∧ ∀ x ∈ ["final", "private"], x ∈ modifierKeywords := by
  decide

lemma params_outline_ne_empty (params : List Param) :
    ∀ p ∈ params.map Param.outline, p.typeName ≠ "" := by
  intro p hp
  obtain ⟨q, -, rfl⟩ := List.mem_map.1 hp
  exact Param.outline_typeName_ne_empty q

@[simp] lemma placedIn_map_field {α : Type} (o : Option String) (g : α → Outline.FieldDecl)
    (l : List α) : Outline.placedIn o (l.map fun a => .field (g a)) = l.map fun a => (o, .field (g a)) := by
  induction l with
  | nil => simp
  | cons a l ih => simp [ih]

mutual

theorem placed_outline_well : ∀ (d : Decl) (owner : String) (comps : List Outline.Param),
    (∀ p ∈ comps, p.typeName ≠ "") → ∀ o, (o = some owner ∨ d.isType = true) →
      ∀ x ∈ Outline.placedIn o (d.outline owner comps), PlacedWell x.1 x.2
  -- A type passes its own name and components down to its members, an initializer passes on
  -- what it was given; any place will do for a type declaration.
  | .type k n mods sc ext impl cs members first last, owner, comps, _, o, _ => by
    rw [outline_type]
    intro x hx
    simp only [Outline.placedIn_cons, Outline.placed_type, Outline.placedIn_nil, List.append_nil,
      Outline.placedIn_append, placedIn_map_field, List.mem_cons, List.mem_append,
      List.mem_map] at hx
    rcases hx with rfl | ⟨p, -, rfl⟩ | hx
    · exact placedWell_of_not_method (fun m h => by cases h) (sortModifiers_canonical mods)
    · exact placedWell_of_not_method (fun m h => by cases h) final_private_canonical
    · exact placed_outlineAll_well members n _ (params_outline_ne_empty _) x hx
  | .method name params result mods body first last, owner, comps, _, o, _ => by
    intro x hx
    rw [Decl.outline, Outline.placedIn_method, List.mem_singleton] at hx
    subst hx
    exact placedWell_method (params_outline_ne_empty params) (fun h => by cases h)
      (sortModifiers_canonical mods)
  | .constructor params mods body first last, owner, comps, _, o, ho => by
    intro x hx
    rw [Decl.outline, Outline.placedIn_method, List.mem_singleton] at hx
    subst hx
    have ho : o = some owner := by simpa [Decl.isType] using ho
    exact placedWell_method (params_outline_ne_empty params) (fun _ => ⟨ho, rfl⟩)
      (sortModifiers_canonical mods)
  | .compactConstructor mods body first last, owner, comps, hcomps, o, ho => by
    intro x hx
    rw [Decl.outline, Outline.placedIn_method, List.mem_singleton] at hx
    subst hx
    have ho : o = some owner := by simpa [Decl.isType] using ho
    exact placedWell_method hcomps (fun _ => ⟨ho, rfl⟩) (sortModifiers_canonical mods)
  | .field ty names mods, owner, comps, _, o, _ => by
    intro x hx
    rw [Decl.outline, Outline.placedIn_field, List.mem_singleton] at hx
    subst hx
    exact placedWell_of_not_method (fun m h => by cases h) (sortModifiers_canonical mods)
  | .initializer locals, owner, comps, hcomps, o, ho => by
    have ho : o = some owner := by simpa [Decl.isType] using ho
    subst ho
    intro x hx
    rw [Decl.outline] at hx
    split at hx
    · simp at hx
    · simp only [Outline.placedIn_cons, Outline.placed_group, Outline.placedIn_nil,
        List.append_nil, List.mem_cons] at hx
      rcases hx with rfl | hx
      · exact placedWell_of_not_method (fun m h => by cases h) (by simp [Outline.Node.modifiers])
      · exact placed_outlineAll_well locals owner comps hcomps x hx

theorem placed_outlineAll_well : ∀ (ds : List Decl) (owner : String) (comps : List Outline.Param),
    (∀ p ∈ comps, p.typeName ≠ "") →
      ∀ x ∈ Outline.placedIn (some owner) (Decl.outlineAll owner comps ds), PlacedWell x.1 x.2
  | [], owner, comps, _ => by simp [Decl.outlineAll]
  | d :: ds, owner, comps, hcomps => by
    intro x hx
    rw [outlineAll_cons, Outline.placedIn_append, List.mem_append] at hx
    rcases hx with hx | hx
    · exact placed_outline_well d owner comps hcomps _ (Or.inl rfl) x hx
    · exact placed_outlineAll_well ds owner comps hcomps x hx

end

lemma outline_type_eq {d : Decl} (hd : d.isType = true) (owner : String)
    (comps : List Outline.Param) : d.outline owner comps = d.outline "" [] := by
  cases d <;> simp_all [Decl.isType, outline_type]

lemma isType_of_mem_subdecls_self {d T : Decl} (hd : d.subdecls = [d]) (hT : T ∈ d.subdecls)
    (hTtype : T.isType = true) : d.isType = true := by
  rw [hd, List.mem_singleton] at hT
  exact hT ▸ hTtype

mutual

theorem mem_placed_of_subdecl : ∀ (d : Decl) (owner : String) (comps : List Outline.Param)
    (o : Option String), (o = some owner ∨ d.isType = true) →
      ∀ T ∈ d.subdecls, T.isType = true →
        ∃ o', ∀ n ∈ T.outline "" [], (o', n) ∈ Outline.placedIn o (d.outline owner comps)
  | .type k n mods sc ext impl cs members first last, owner, comps, o, _ => by
    intro T hT hTtype
    rw [Decl.subdecls, List.mem_cons] at hT
    rcases hT with rfl | hT
    · refine ⟨o, fun node hnode => ?_⟩
      rw [outline_type_eq hTtype owner comps]
      rw [outline_type] at hnode ⊢
      rw [List.mem_singleton.1 hnode]
      simp
    · obtain ⟨o', ho'⟩ := mem_placed_of_subdeclIn members n ((cs.getD []).map Param.outline)
        T hT hTtype
      refine ⟨o', fun node hnode => ?_⟩
      rw [outline_type]
      simp only [Outline.placedIn_cons, Outline.placed_type, Outline.placedIn_append,
        Outline.placedIn_nil, List.append_nil, List.mem_cons, List.mem_append]
      exact Or.inr (Or.inr (ho' node hnode))
  | .initializer locals, owner, comps, o, ho => by
    intro T hT hTtype
    rw [Decl.subdecls, List.mem_cons] at hT
    rcases hT with rfl | hT
    · simp [Decl.isType] at hTtype
    · have ho : o = some owner := by simpa [Decl.isType] using ho
      subst ho
      obtain ⟨o', ho'⟩ := mem_placed_of_subdeclIn locals owner comps T hT hTtype
      refine ⟨o', fun node hnode => ?_⟩
      have hin := ho' node hnode
      rw [Decl.outline]
      split
      · next hnil => rw [hnil] at hin; simp at hin
      · simp only [Outline.placedIn_cons, Outline.placed_group, Outline.placedIn_nil,
          List.append_nil, List.mem_cons]
        exact Or.inr hin
  -- The other declarations hold only themselves, and none is a type declaration.
  | .method .., _, _, _, _ => by
    intro T hT hTtype
    have h := isType_of_mem_subdecls_self (by rw [Decl.subdecls]) hT hTtype
    simp [Decl.isType] at h
  | .constructor .., _, _, _, _ => by
    intro T hT hTtype
    have h := isType_of_mem_subdecls_self (by rw [Decl.subdecls]) hT hTtype
    simp [Decl.isType] at h
  | .compactConstructor .., _, _, _, _ => by
    intro T hT hTtype
    have h := isType_of_mem_subdecls_self (by rw [Decl.subdecls]) hT hTtype
    simp [Decl.isType] at h
  | .field .., _, _, _, _ => by
    intro T hT hTtype
    have h := isType_of_mem_subdecls_self (by rw [Decl.subdecls]) hT hTtype
    simp [Decl.isType] at h

theorem mem_placed_of_subdeclIn : ∀ (ds : List Decl) (owner : String) (comps : List Outline.Param),
    ∀ T ∈ Decl.subdeclsIn ds, T.isType = true →
      ∃ o', ∀ n ∈ T.outline "" [], (o', n) ∈ Outline.placedIn (some owner) (Decl.outlineAll owner comps ds)
  | [], _, _ => by simp [Decl.subdeclsIn]
  | d :: ds, owner, comps => by
    intro T hT hTtype
    rw [Decl.subdeclsIn, List.mem_append] at hT
    rw [outlineAll_cons, Outline.placedIn_append]
    rcases hT with hT | hT
    · obtain ⟨o', ho'⟩ := mem_placed_of_subdecl d owner comps (some owner) (Or.inl rfl) T hT hTtype
      exact ⟨o', fun n hn => List.mem_append_left _ (ho' n hn)⟩
    · obtain ⟨o', ho'⟩ := mem_placed_of_subdeclIn ds owner comps T hT hTtype
      exact ⟨o', fun n hn => List.mem_append_right _ (ho' n hn)⟩

end

lemma signature_ofDecl {m : Outline.MethodDecl} (hm : ∀ p ∈ m.params, p.typeName ≠ "")
    (owner file : String) :
    (MethodRecord.ofDecl m owner file).signature = methodSignature m.name (m.params.map (·.typeName)) := by
  have hmap : (m.params.map fun p =>
      ({ name := p.name, typeName := if p.typeName.isEmpty then "?" else p.typeName } : ParamRecord)).map
        (·.typeName) = m.params.map (·.typeName) := by
    rw [List.map_map]
    exact List.map_congr_left fun p hp => by simp [hm p hp]
  simp only [MethodRecord.ofDecl, hmap]

def ConstructorsNamed (u : Outline.Unit) : Prop :=
  ∀ o m, (o, .method m) ∈ u.placed → m.isConstructor = true →
    o = some m.name ∧ m.returnType = none ∧ ∀ owner file,
      (MethodRecord.ofDecl m owner file).returnType = "void" ∧
      (MethodRecord.ofDecl m owner file).signature = methodSignature m.name (m.params.map (·.typeName))

def ModifiersCanonical (u : Outline.Unit) : Prop :=
  ∀ o n, (o, n) ∈ u.placed → n.modifiers.Pairwise (· < ·) ∧ ∀ x ∈ n.modifiers, x ∈ modifierKeywords

/-- How a type declaration stands in the outline `u`: as a node, with its name and kind, whose
members start with one private final field per record component, and which holds each of its
constructors named after it and returning nothing: an explicit one with its own parameters, a
compact one with the record's components. -/
def LoweredIn (u : Outline.Unit) : Decl → Prop
  | .type k n _ _ _ _ cs members _ _ =>
    ∃ o h ms, (o, .type h ms) ∈ u.placed ∧ h.name = n ∧ h.kind = k ∧
      (∃ rest, ms = ((cs.getD []).map Param.outline).map (fun p =>
          .field ⟨some p.typeName, [p.name], ["final", "private"]⟩) ++ rest) ∧
      (∀ params mods body first last, .constructor params mods body first last ∈ members →
        .method ⟨n, true, params.map Param.outline, none, sortModifiers mods, some body, first,
          last⟩ ∈ ms) ∧
      (∀ mods body first last, .compactConstructor mods body first last ∈ members →
        .method ⟨n, true, (cs.getD []).map Param.outline, none, sortModifiers mods, some body,
          first, last⟩ ∈ ms)
  | _ => True

lemma placed_outline (items : List Item) :
    (outline items).placed = items.flatMap fun item => Outline.placedIn none item.nodes := by
  rw [Outline.Unit.placed, nodes_outline, Outline.placedIn_flatMap]

lemma placedWell_of_typesAtTop {items : List Item} (h : TypesAtTop items) :
    ∀ x ∈ (outline items).placed, PlacedWell x.1 x.2 := by
  intro x hx
  rw [placed_outline] at hx
  obtain ⟨item, hitem, hx⟩ := List.mem_flatMap.1 hx
  cases item with
  | decl d =>
    exact placed_outline_well d "" [] (by simp) none (Or.inr (h d hitem)) x hx
  | _ => simp [Item.nodes] at hx

lemma mem_placed_of_declsOf {items : List Item} (h : TypesAtTop items) {T : Decl}
    (hT : T ∈ declsOf items)
    (hTtype : T.isType = true) : ∃ o, ∀ n ∈ T.outline "" [], (o, n) ∈ (outline items).placed := by
  obtain ⟨item, hitem, hT⟩ := List.mem_flatMap.1 hT
  cases item with
  | decl d =>
    obtain ⟨o, ho⟩ := mem_placed_of_subdecl d "" [] none (Or.inr (h d hitem)) T hT hTtype
    refine ⟨o, fun n hn => ?_⟩
    rw [placed_outline]
    exact List.mem_flatMap.2 ⟨.decl d, hitem, ho n hn⟩
  | _ => simp [Item.decls] at hT

/-- In the outline of a Java file whose top declarations are type declarations: every constructor is named after the type
declaration that immediately holds it and returns nothing, so its record returns `void` and its
signature is its name with its erased parameter types; every list of modifiers is a strictly
increasing list of keyword modifiers; and every type declaration of the file, at any depth, has
its node, whose members start with one private final field per record component and which holds
its constructors, a compact constructor taking the record's components. -/
theorem outline_lowers_types (items : List Item) (h : TypesAtTop items) :
    ConstructorsNamed (outline items) ∧ ModifiersCanonical (outline items) ∧
      ∀ d ∈ declsOf items, LoweredIn (outline items) d := by
  have hwell := placedWell_of_typesAtTop h
  refine ⟨?named, ?modifiers, ?lowered⟩
  case named =>
    intro o m hm hctor
    have hw := hwell _ hm
    obtain ⟨ho, hret⟩ := hw.named m rfl hctor
    refine ⟨ho, hret, fun owner file => ⟨?_, signature_ofDecl (hw.params m rfl) owner file⟩⟩
    simp [MethodRecord.ofDecl, hret]
  case modifiers =>
    intro o n hn
    exact ⟨(hwell _ hn).sorted, (hwell _ hn).keywords⟩
  case lowered =>
    intro d hd
    cases d with
    | type k n mods sc ext impl cs members first last =>
      obtain ⟨o, ho⟩ := mem_placed_of_declsOf h hd rfl
      refine ⟨o, _, _, ho _ (by rw [outline_type]; exact List.mem_singleton_self _), rfl, rfl,
        ⟨_, rfl⟩, ?_, ?_⟩
      · intro params cmods body cfirst clast hc
        exact List.mem_append_right _ (subset_outlineAll hc (by simp [Decl.outline]))
      · intro cmods body cfirst clast hc
        exact List.mem_append_right _ (subset_outlineAll hc (by simp [Decl.outline]))
    | _ => trivial

theorem outline_lowers_compact_record :
    TypesAtTop [.decl (.type .recordType "P" [] none [] [] (some [⟨"int", none, "x", false⟩])
        [.compactConstructor [] "{ }" 1 1] 1 1)] ∧
      ConstructorsNamed (outline [.decl (.type .recordType "P" [] none [] []
        (some [⟨"int", none, "x", false⟩]) [.compactConstructor [] "{ }" 1 1] 1 1)]) ∧
      ModifiersCanonical (outline [.decl (.type .recordType "P" [] none [] []
        (some [⟨"int", none, "x", false⟩]) [.compactConstructor [] "{ }" 1 1] 1 1)]) ∧
      ∀ d ∈ declsOf [.decl (.type .recordType "P" [] none [] [] (some [⟨"int", none, "x", false⟩])
          [.compactConstructor [] "{ }" 1 1] 1 1)],
        LoweredIn (outline [.decl (.type .recordType "P" [] none [] []
          (some [⟨"int", none, "x", false⟩]) [.compactConstructor [] "{ }" 1 1] 1 1)]) d := by
  have htop : TypesAtTop [.decl (.type .recordType "P" [] none [] []
      (some [⟨"int", none, "x", false⟩]) [.compactConstructor [] "{ }" 1 1] 1 1)] := by
    intro d hd
    rw [List.mem_singleton, Item.decl.injEq] at hd
    rw [hd]
    rfl
  exact ⟨htop, outline_lowers_types _ htop⟩

end Java

end CodeGraph
