import CodeGraph.Java.Syntax
import CodeGraph.Java.TypeText
import CodeGraph.Outline

/-!
# The outline of a Java file

From the declarations as written to the outline: parameter types erased, field and return types
with blanks collapsed, keyword modifiers sorted once each, record components as private final
fields, and constructors named after the type that holds them.
-/

namespace CodeGraph.Java

def dropSpaceAfterComma : List Char → List Char
  | ',' :: ' ' :: rest => ',' :: dropSpaceAfterComma rest
  | c :: rest => c :: dropSpaceAfterComma rest
  | [] => []

def declaredType (text : String) : String :=
  String.ofList (dropSpaceAfterComma (Text.normalize text).toList)

def dropRepeats : List String → List String
  | a :: b :: rest => if a == b then dropRepeats (b :: rest) else a :: dropRepeats (b :: rest)
  | xs => xs

def modifierKeywords : List String :=
  ["public", "protected", "private", "abstract", "static", "final", "strictfp", "default",
   "synchronized", "native", "transient", "volatile", "sealed", "non-sealed"]

def sortModifiers (mods : List String) : List String :=
  dropRepeats ((mods.filter modifierKeywords.contains).mergeSort fun a b => decide (a ≤ b))

def Param.outline (p : Param) : Outline.Param :=
  if p.spread then ⟨p.name, erase p.type ++ "..."⟩
  else ⟨p.name, erase p.type ++ ((p.dims.map erase).getD "")⟩

mutual

def Decl.outline (owner : String) (components : List Outline.Param) : Decl → List Outline.Node
  | .type kind name mods superclass extended implemented comps members first last =>
    let header : Outline.TypeHeader :=
      { name, kind, extended := (superclass.map erase).toList ++ extended.map erase,
        implemented := implemented.map erase, modifiers := sortModifiers mods,
        startLine := first, endLine := last }
    let params := (comps.getD []).map Param.outline
    let fields := params.map fun p =>
      Outline.Node.field ⟨some p.typeName, [p.name], ["final", "private"]⟩
    [.type header (fields ++ Decl.outlineAll name params members)]
  | .method name params result mods body first last =>
    [.method ⟨name, false, params.map Param.outline, some (declaredType result),
      sortModifiers mods, body, first, last⟩]
  | .constructor params mods body first last =>
    [.method ⟨owner, true, params.map Param.outline, none, sortModifiers mods, some body, first,
      last⟩]
  | .compactConstructor mods body first last =>
    [.method ⟨owner, true, components, none, sortModifiers mods, some body, first, last⟩]
  | .field ty names mods => [.field ⟨some (declaredType ty), names, sortModifiers mods⟩]
  | .initializer locals =>
    match Decl.outlineAll owner components locals with
    | [] => []
    | nodes => [.group nodes]

def Decl.outlineAll (owner : String) (components : List Outline.Param) :
    List Decl → List Outline.Node
  | [] => []
  | d :: ds => d.outline owner components ++ Decl.outlineAll owner components ds

end

/-- The outline of a file's items: the last package declaration, the imports in order, the
type declarations in order. -/
def outline (items : List Item) : Outline.Unit :=
  items.foldl (fun u item =>
    match item with
    | .packageDecl n => { u with package := some n }
    | .importDecl n s w => { u with imports := u.imports ++ [⟨n, s, w⟩] }
    | .decl d => { u with nodes := u.nodes ++ d.outline "" [] }) Outline.Unit.empty

end CodeGraph.Java
