import Mathlib
import CodeGraph.Proofs.Extraction

/-! The records of a file attribute every declaration to the nearest named type around it: one
walk carrying the enclosing type names each declaration's owner, and the two walks of the second
pass agree with it, so every named type, owned method and field name gives exactly one record. -/

namespace CodeGraph

/-- A declaration as one walk over a file's outline meets it: a named type, with its qualified
name and whether it sits at the top of the file; or a method or a field declaration, with the
qualified name of the nearest named type it is a member of. -/
inductive Declared where
  | type (t : FoundType)
  | method (m : Outline.MethodDecl) (owner : String)
  | field (f : Outline.FieldDecl) (owner : String)

namespace Declared

def type? : Declared → Option FoundType
  | .type t => some t
  | .method _ _ => none
  | .field _ _ => none

def method? : Declared → Option (Outline.MethodDecl × String)
  | .type _ => none
  | .method m owner => some (m, owner)
  | .field _ _ => none

def field? : Declared → Option (Outline.FieldDecl × String)
  | .type _ => none
  | .method _ _ => none
  | .field f owner => some (f, owner)

end Declared

def declared (package : String) (owner : Option String) : List Outline.Node → List Declared
  | [] => []
  | .type h ms :: rest =>
    (if h.name.isEmpty then []
     else
       let fqn := Java.qualify package owner h.name
       .type ⟨h, ms, fqn, owner.isNone⟩ :: declared package (some fqn) ms) ++
      declared package owner rest
  | .method m :: rest => (owner.map (Declared.method m)).toList ++ declared package owner rest
  | .field f :: rest => (owner.map (Declared.field f)).toList ++ declared package owner rest
  | .group cs :: rest => declared package owner cs ++ declared package owner rest

lemma typesIn_eq_declared (package : String) (owner : Option String) (ns : List Outline.Node) :
    typesIn package owner ns = (declared package owner ns).filterMap Declared.type? := by
  induction owner, ns using declared.induct package with
  | case1 owner => simp [typesIn, declared]
  | case2 owner h ms rest ihms ihrest =>
    by_cases hn : h.name.isEmpty
    · simp [typesIn, typesOf, declared, hn, ihrest]
    · simp [typesIn, typesOf, declared, hn, ihrest, ihms, Declared.type?]
  | case3 owner m rest ih =>
    cases owner <;> simp [typesIn, typesOf, declared, ih, Declared.type?, List.filterMap_cons]
  | case4 owner f rest ih =>
    cases owner <;> simp [typesIn, typesOf, declared, ih, Declared.type?, List.filterMap_cons]
  | case5 owner cs rest ihcs ihrest => simp [typesIn, typesOf, declared, ihcs, ihrest]

section Members

variable (h : Outline.TypeHeader) (ms rest cs : List Outline.Node) (m : Outline.MethodDecl)
  (f : Outline.FieldDecl)

@[simp] lemma directMembers_type : directMembers (.type h ms :: rest) = directMembers rest := by
  simp [directMembers]

@[simp] lemma directMembers_method :
    directMembers (.method m :: rest) = (m :: (directMembers rest).1, (directMembers rest).2) := by
  simp [directMembers]

@[simp] lemma directMembers_field :
    directMembers (.field f :: rest) = ((directMembers rest).1, f :: (directMembers rest).2) := by
  simp [directMembers]

@[simp] lemma directMembers_group :
    directMembers (.group cs :: rest) =
      ((directMembers cs).1 ++ (directMembers rest).1, (directMembers cs).2 ++ (directMembers rest).2) := by
  rw [directMembers]

end Members

def ownedBy {β : Type} (owner : Option String) (xs : List β) : List (β × String) :=
  match owner with
  | some o => xs.map (·, o)
  | none => []

@[simp] lemma ownedBy_append {β : Type} (owner : Option String) (xs ys : List β) :
    ownedBy owner (xs ++ ys) = ownedBy owner xs ++ ownedBy owner ys := by
  cases owner <;> simp [ownedBy]

section Shuffles

variable {γ : Type} {x y a b c d : List γ}

lemma perm_append_nested (hx : x.Perm (a ++ b)) (hy : y.Perm (c ++ d)) :
    (x ++ y).Perm (c ++ (a ++ (b ++ d))) := by
  refine (hx.append hy).trans ?_
  have h := List.perm_append_comm_assoc (a ++ b) c d
  simpa only [List.append_assoc] using h

lemma perm_append_group (hx : x.Perm (a ++ b)) (hy : y.Perm (c ++ d)) :
    (x ++ y).Perm (a ++ (c ++ (b ++ d))) := by
  refine (hx.append hy).trans ?_
  rw [List.append_assoc]
  exact (List.perm_append_comm_assoc b c d).append_left a

end Shuffles

lemma members_perm_declared (package : String) (owner : Option String) (ns : List Outline.Node) :
    ((declared package owner ns).filterMap Declared.method?).Perm
      (ownedBy owner (directMembers ns).1 ++
        (typesIn package owner ns).flatMap fun t => ownedBy (some t.fqn) (directMembers t.members).1) ∧
    ((declared package owner ns).filterMap Declared.field?).Perm
      (ownedBy owner (directMembers ns).2 ++
        (typesIn package owner ns).flatMap fun t => ownedBy (some t.fqn) (directMembers t.members).2) := by
  induction owner, ns using declared.induct package with
  | case1 owner => cases owner <;> simp [declared, ownedBy, typesIn, directMembers]
  | case2 owner h ms rest ihms ihrest =>
    by_cases hn : h.name.isEmpty
    · simpa [typesIn, typesOf, declared, hn] using ihrest
    · simp only [declared, typesIn, typesOf, hn, Bool.false_eq_true, if_false, List.filterMap_cons,
        List.filterMap_append, Declared.method?, Declared.field?, directMembers_type,
        List.flatMap_cons, List.flatMap_append, List.append_assoc]
      exact ⟨perm_append_nested ihms.1 ihrest.1, perm_append_nested ihms.2 ihrest.2⟩
  | case3 owner m rest ih =>
    cases owner <;> simpa [declared, typesIn, typesOf, ownedBy, Declared.method?, Declared.field?,
      List.filterMap_cons] using ih
  | case4 owner f rest ih =>
    cases owner <;> simpa [declared, typesIn, typesOf, ownedBy, Declared.method?, Declared.field?,
      List.filterMap_cons] using ih
  | case5 owner cs rest ihcs ihrest =>
    simp only [declared, typesIn, typesOf, List.filterMap_append, directMembers_group, ownedBy_append,
      List.flatMap_append]
    simp only [List.append_assoc]
    exact ⟨perm_append_group ihcs.1 ihrest.1, perm_append_group ihcs.2 ihrest.2⟩

namespace FileRecords

def fieldRecords (owner : String) (f : Outline.FieldDecl) : List FieldRecord :=
  f.names.map fun n => { owner, name := n, typeName := f.typeName.getD "?", modifiers := f.modifiers }

def fieldEdge (ix : TypeIndex) (path owner : String) (f : Outline.FieldDecl) : Option Dependency :=
  match ix.resolveFieldType (f.typeName.getD "?") with
  | .resolved target => if owner = target then none else some ⟨owner, target, .field, path⟩
  | .unresolved _ => none

def fieldResolves (ix : TypeIndex) (f : Outline.FieldDecl) : Bool :=
  (ix.resolveFieldType (f.typeName.getD "?")).fqn?.isSome

def fieldCounts (ix : TypeIndex) (fs : List Outline.FieldDecl) : ResolutionCounts :=
  ⟨0, 0, fs.countP (fieldResolves ix), fs.countP (!fieldResolves ix ·)⟩

def importEdges (path : String) (imported : List String) (t : FoundType) : List Dependency :=
  if t.topLevel then (imported.filter (t.fqn != ·)).map fun target => ⟨t.fqn, target, .imported, path⟩
  else []

lemma fieldCounts_total (ix : TypeIndex) (fs : List Outline.FieldDecl) :
    (fieldCounts ix fs).fieldTypesResolved + (fieldCounts ix fs).fieldTypesUnresolved = fs.length := by
  rw [List.length_eq_countP_add_countP (fieldResolves ix)]
  simp [fieldCounts]

lemma add_fieldCounts_nil (ix : TypeIndex) (c : ResolutionCounts) : c.add (fieldCounts ix []) = c := by
  simp [fieldCounts, ResolutionCounts.add]

lemma add_fieldCounts_append (ix : TypeIndex) (c : ResolutionCounts) (fs gs : List Outline.FieldDecl) :
    (c.add (fieldCounts ix fs)).add (fieldCounts ix gs) = c.add (fieldCounts ix (fs ++ gs)) := by
  simp [fieldCounts, ResolutionCounts.add, Nat.add_assoc]

lemma addField_update (ix : TypeIndex) (owner : String) (r : FileRecords) (f : Outline.FieldDecl) :
    r.addField ix owner f =
      { r with
        fields := r.fields ++ fieldRecords owner f
        dependencies := r.dependencies ++ (fieldEdge ix r.path owner f).toList
        resolution := r.resolution.add (fieldCounts ix [f]) } := by
  unfold addField fieldEdge fieldCounts fieldResolves
  split
  · next target hr =>
    by_cases h : owner = target
    · simp [depend, h, hr, fieldRecords, ResolutionCounts.add, Resolution.fqn?]
    · simp [depend, h, hr, fieldRecords, ResolutionCounts.add, Resolution.fqn?]
  · next reason hr => simp [hr, fieldRecords, ResolutionCounts.add, Resolution.fqn?]

lemma foldl_addField_update (ix : TypeIndex) (owner : String) (fs : List Outline.FieldDecl)
    (r : FileRecords) :
    fs.foldl (addField ix owner) r =
      { r with
        fields := r.fields ++ fs.flatMap (fieldRecords owner)
        dependencies := r.dependencies ++ fs.filterMap (fieldEdge ix r.path owner)
        resolution := r.resolution.add (fieldCounts ix fs) } := by
  induction fs generalizing r with
  | nil => simp [add_fieldCounts_nil]
  | cons f fs ih =>
    rw [List.foldl_cons, ih, addField_update]
    simp only [List.flatMap_cons, List.filterMap_cons, List.append_assoc, add_fieldCounts_append,
      List.singleton_append]
    cases fieldEdge ix r.path owner f <;> rfl

lemma foldl_depend_if (imported : List String) (t : FoundType) (r : FileRecords) :
    (if t.topLevel = true then imported.foldl (fun r target => r.depend t.fqn target .imported) r
      else r) = { r with dependencies := r.dependencies ++ importEdges r.path imported t } := by
  unfold importEdges
  cases t.topLevel
  · simp
  · rw [if_pos rfl, foldl_depend]
    simp

lemma addType_update (ix : TypeIndex) (file : ReadFile) (imported : List String) (r : FileRecords)
    (t : FoundType) :
    r.addType ix file imported t =
      { r with
        types := r.types ++ [⟨t.fqn, t.header.name, file.path, file.fileHash⟩]
        extended := r.extended ++ t.header.extended.map fun s => (t.fqn, s)
        implemented := r.implemented ++ t.header.implemented.map fun s => (t.fqn, s)
        methods := r.methods ++ (directMembers t.members).1.map (MethodRecord.ofDecl · t.fqn file.path)
        fields := r.fields ++ (directMembers t.members).2.flatMap (fieldRecords t.fqn)
        dependencies := r.dependencies ++ importEdges r.path imported t ++
          (directMembers t.members).2.filterMap (fieldEdge ix r.path t.fqn)
        resolution := r.resolution.add (fieldCounts ix (directMembers t.members).2) } := by
  unfold addType
  dsimp only
  rw [foldl_depend_if]
  generalize directMembers t.members = dm
  obtain ⟨ms, fs⟩ := dm
  rw [foldl_addField_update]

lemma foldl_addType_update (ix : TypeIndex) (file : ReadFile) (imported : List String)
    (ts : List FoundType) (r : FileRecords) :
    ts.foldl (addType ix file imported) r =
      { r with
        types := r.types ++ ts.map fun t => ⟨t.fqn, t.header.name, file.path, file.fileHash⟩
        extended := r.extended ++ ts.flatMap fun t => t.header.extended.map fun s => (t.fqn, s)
        implemented := r.implemented ++ ts.flatMap fun t => t.header.implemented.map fun s => (t.fqn, s)
        methods := r.methods ++ ts.flatMap fun t =>
          (directMembers t.members).1.map (MethodRecord.ofDecl · t.fqn file.path)
        fields := r.fields ++ ts.flatMap fun t => (directMembers t.members).2.flatMap (fieldRecords t.fqn)
        dependencies := r.dependencies ++ ts.flatMap fun t => importEdges r.path imported t ++
          (directMembers t.members).2.filterMap (fieldEdge ix r.path t.fqn)
        resolution := r.resolution.add (fieldCounts ix (ts.flatMap fun t => (directMembers t.members).2)) } := by
  induction ts generalizing r with
  | nil => simp [add_fieldCounts_nil]
  | cons t ts ih =>
    rw [List.foldl_cons, ih, addType_update]
    simp [List.append_assoc, add_fieldCounts_append]

end FileRecords

def importCounts (ix : TypeIndex) (imports : List Outline.Import) : ResolutionCounts :=
  ⟨imports.countP fun i => (ix.resolveImport i).fqn?.isSome,
    imports.countP fun i => !(ix.resolveImport i).fqn?.isSome, 0, 0⟩

lemma importCounts_total (ix : TypeIndex) (imports : List Outline.Import) :
    (importCounts ix imports).importsResolved + (importCounts ix imports).importsUnresolved =
      imports.length := by
  rw [List.length_eq_countP_add_countP fun i => (ix.resolveImport i).fqn?.isSome]
  simp only [importCounts]
  congr 1
  exact List.countP_congr fun i _ => by cases (ix.resolveImport i).fqn? <;> simp

lemma foldl_resolveImport (ix : TypeIndex)
    {step : List String × ResolutionCounts → Outline.Import → List String × ResolutionCounts}
    (hstep : ∀ acc i, step acc i =
      (acc.1 ++ (ix.resolveImport i).fqn?.toList, acc.2.add (importCounts ix [i])))
    (imports : List Outline.Import) (acc : List String × ResolutionCounts) :
    imports.foldl step acc =
      (acc.1 ++ imports.filterMap (fun i => (ix.resolveImport i).fqn?),
        acc.2.add (importCounts ix imports)) := by
  induction imports generalizing acc with
  | nil => simp [importCounts, ResolutionCounts.add]
  | cons i is ih =>
    rw [List.foldl_cons, ih, hstep]
    cases h : (ix.resolveImport i).fqn? <;> simp [h, importCounts, ResolutionCounts.add] <;> omega

lemma records_update (file : ReadFile) (ix : TypeIndex) :
    let ts := file.reading.unit.types
    let imported := file.reading.unit.imports.filterMap fun i => (ix.resolveImport i).fqn?
    file.records ix =
      { path := file.path
        reader := some file.reading.reader
        degraded := file.reading.degraded
        types := ts.map fun t => ⟨t.fqn, t.header.name, file.path, file.fileHash⟩
        extended := ts.flatMap fun t => t.header.extended.map fun s => (t.fqn, s)
        implemented := ts.flatMap fun t => t.header.implemented.map fun s => (t.fqn, s)
        methods := ts.flatMap fun t =>
          (directMembers t.members).1.map (MethodRecord.ofDecl · t.fqn file.path)
        fields := ts.flatMap fun t => (directMembers t.members).2.flatMap (FileRecords.fieldRecords t.fqn)
        dependencies := ts.flatMap fun t => FileRecords.importEdges file.path imported t ++
          (directMembers t.members).2.filterMap (FileRecords.fieldEdge ix file.path t.fqn)
        resolution := ((({} : ResolutionCounts).add (importCounts ix file.reading.unit.imports))).add
          (FileRecords.fieldCounts ix (ts.flatMap fun t => (directMembers t.members).2)) } := by
  intro ts imported
  unfold ReadFile.records
  dsimp only
  rw [foldl_resolveImport ix ?_, FileRecords.foldl_addType_update]
  · simp [ts, imported]
  · -- each import is kept when it resolves and counted either way
    intro acc i
    cases hr : ix.resolveImport i <;>
      simp [hr, importCounts, ResolutionCounts.add, Resolution.fqn?]

lemma flatMap_importEdges (path : String) (imported : List String) (ts : List FoundType) :
    ts.flatMap (FileRecords.importEdges path imported) =
      (ts.filter (·.topLevel)).flatMap fun t =>
        (imported.filter (t.fqn != ·)).map fun target => ⟨t.fqn, target, .imported, path⟩ := by
  induction ts with
  | nil => rfl
  | cons t ts ih =>
    unfold FileRecords.importEdges at ih ⊢
    cases ht : t.topLevel <;> simp [ht, ih]

/-- The records of a file, against any type index, follow one walk over its outline: a type
record for each named type met, in the order met; a method record for each method and a field
record for each name of each field declaration met inside a named type, owned by the nearest
one; every import and every such field declaration counted once, as resolved or not; and the
dependencies of the types at the top of the file on their resolved imports, with those of each
owner on the resolved type of its field declarations, none of a type on itself. -/
theorem records_attribute_declarations (file : ReadFile) (ix : TypeIndex) :
    let u := file.reading.unit
    let ds := declared (u.package.getD "") none u.nodes
    let types := ds.filterMap Declared.type?
    let fields := ds.filterMap Declared.field?
    let imported := u.imports.filterMap fun i => (ix.resolveImport i).fqn?
    let r := file.records ix
    r.types = types.map (fun t => ⟨t.fqn, t.header.name, file.path, file.fileHash⟩) ∧
    r.methods.Perm ((ds.filterMap Declared.method?).map fun d => MethodRecord.ofDecl d.1 d.2 file.path) ∧
    r.fields.Perm (fields.flatMap fun d => FileRecords.fieldRecords d.2 d.1) ∧
    r.resolution.importsResolved + r.resolution.importsUnresolved = u.imports.length ∧
    r.resolution.fieldTypesResolved + r.resolution.fieldTypesUnresolved = fields.length ∧
    r.dependencies.Perm
      ((types.filter (·.topLevel)).flatMap (fun t =>
          (imported.filter (t.fqn != ·)).map fun target =>
            (⟨t.fqn, target, .imported, file.path⟩ : Dependency)) ++
        fields.filterMap fun d => FileRecords.fieldEdge ix file.path d.2 d.1) := by
  intro u ds types fields imported r
  have hr : r = _ := records_update file ix
  -- the named types are those the walk meets
  have hts : typesIn (u.package.getD "") none u.nodes = types := typesIn_eq_declared _ _ _
  have hunit : file.reading.unit.types = types := hts
  -- the walk's members are the records' members, gathered type by type
  obtain ⟨hm, hf⟩ := members_perm_declared (u.package.getD "") none u.nodes
  simp only [ownedBy, List.nil_append] at hm hf
  rw [hts] at hm hf
  refine ⟨?_, ?_, ?_, ?_, ?_, ?_⟩
  · rw [hr, hunit]
  · rw [hr, hunit]
    have heq : types.flatMap (fun t => (directMembers t.members).1.map (MethodRecord.ofDecl · t.fqn file.path)) =
        (types.flatMap fun t => (directMembers t.members).1.map (·, t.fqn)).map
          fun d => MethodRecord.ofDecl d.1 d.2 file.path := by
      simp [List.map_flatMap, Function.comp_def]
    rw [heq]
    exact (hm.map _).symm
  · rw [hr, hunit]
    have heq : types.flatMap (fun t => (directMembers t.members).2.flatMap (FileRecords.fieldRecords t.fqn)) =
        (types.flatMap fun t => (directMembers t.members).2.map (·, t.fqn)).flatMap
          fun d => FileRecords.fieldRecords d.2 d.1 := by
      simp [List.flatMap_assoc, List.flatMap_map]
    rw [heq]
    exact (hf.flatMap_right _).symm
  · -- the field declarations add nothing to the import counts
    rw [hr]
    simp only [ResolutionCounts.add, FileRecords.fieldCounts, Nat.zero_add, Nat.add_zero]
    exact importCounts_total ix u.imports
  · -- and the imports nothing to the field counts
    rw [hr, hunit]
    simp only [ResolutionCounts.add, importCounts, Nat.zero_add]
    rw [FileRecords.fieldCounts_total, hf.length_eq]
    simp [List.length_flatMap]
  · rw [hr, hunit]
    refine (List.flatMap_append_perm _ _ _).symm.trans ?_
    rw [flatMap_importEdges]
    refine List.Perm.append_left _ ?_
    have heq : types.flatMap (fun t => (directMembers t.members).2.filterMap
          (FileRecords.fieldEdge ix file.path t.fqn)) =
        (types.flatMap fun t => (directMembers t.members).2.map (·, t.fqn)).filterMap
          fun d => FileRecords.fieldEdge ix file.path d.2 d.1 := by
      simp [List.filterMap_flatMap, List.filterMap_map]
    rw [heq]
    exact (hf.filterMap _).symm

end CodeGraph
