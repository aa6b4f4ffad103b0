import CodeGraph.Outline
import CodeGraph.Text.Blank

/-!
# Salvaging a file the grammar refuses

When a file cannot be read as Java, its package and imports can still be read line by line. A
package declaration is, at the start of a line and after blanks (which may span lines),
`package`, blanks, a name of ASCII letters, digits, `_` and `.`, optional blanks and `;`; the
first one counts. An import declaration is the same with `import`, an optional `static` and
blanks, and a name that may also hold `*`; every one counts, each search going on after the
`;` of the one before. A name ending in `.*` is an on-demand import of what comes before it.
-/

namespace CodeGraph.Java.Salvage

def isNameChar (c : Char) : Bool := c.isAlphanum || c == '_' || c == '.'

def isImportChar (c : Char) : Bool := isNameChar c || c == '*'

def afterKeyword (kw : String) (cs : List Char) : Option (List Char) :=
  let cs := cs.dropWhile Text.isBlank
  if kw.toList.isPrefixOf cs then
    let rest := cs.drop kw.length
    let rest' := rest.dropWhile Text.isBlank
    if rest'.length < rest.length then some rest' else none
  else none

def nameThenSemicolon (ok : Char → Bool) (cs : List Char) : Option (String × List Char) :=
  let name := cs.takeWhile ok
  if name.isEmpty then none
  else
    match (cs.drop name.length).dropWhile Text.isBlank with
    | ';' :: rest => some (String.ofList name, rest)
    | _ => none

def packageAt (cs : List Char) : Option String :=
  (afterKeyword "package" cs).bind fun rest => (nameThenSemicolon isNameChar rest).map (·.1)

def importAt (cs : List Char) : Option (Bool × String × List Char) :=
  (afterKeyword "import" cs).bind fun rest =>
    let asStatic := (afterKeyword "static" rest).bind fun more =>
      (nameThenSemicolon isImportChar more).map fun (n, after) => (true, n, after)
    asStatic.orElse fun _ =>
      (nameThenSemicolon isImportChar rest).map fun (n, after) => (false, n, after)

def nextLine (cs : List Char) : Option (List Char) :=
  match cs.dropWhile (· != '\n') with
  | _ :: rest => some rest
  | [] => none

def firstPackage : Nat → List Char → Option String
  | 0, _ => none
  | fuel + 1, cs =>
    match packageAt cs with
    | some n => some n
    | none =>
      match nextLine cs with
      | some rest => firstPackage fuel rest
      | none => none

def toImport (isStatic : Bool) (name : String) : Outline.Import :=
  let cs := name.toList
  if [ '.', '*' ].isSuffixOf cs then ⟨String.ofList (cs.take (cs.length - 2)), isStatic, true⟩
  else ⟨name, isStatic, false⟩

def importsFrom : Nat → List Char → Bool → List Outline.Import
  | 0, _, _ => []
  | fuel + 1, cs, fresh =>
    match (if fresh then importAt cs else none) with
    | some (s, n, rest) => toImport s n :: importsFrom fuel rest false
    | none =>
      match nextLine cs with
      | some rest => importsFrom fuel rest true
      | none => []

/-- The outline salvaged from a text: its first package and all its imports, no declarations. -/
def salvage (source : String) : Outline.Unit :=
  let cs := source.toList
  ⟨firstPackage (cs.length + 1) cs, importsFrom (cs.length + 1) cs true, []⟩

end CodeGraph.Java.Salvage
