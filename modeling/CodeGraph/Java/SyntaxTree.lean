import CodeGraph.Java.Read

/-!
# Reading a file through its syntax tree

The parser gives a file a syntax tree in which what it could not read stands as error nodes, for
text it skipped, and missing nodes, for tokens it supposed; every node also says whether it or a
node below it is one of these. A tree that has one refuses the file, at the line where the first
of them starts, found by going down through the children that have one; any other tree is
lowered to the file's outline. The parser and the lowering are given.
-/

namespace CodeGraph.Java

/-- A node of a syntax tree as reading sees it: whether it is an error node, whether it is a
missing node, whether it or a node below it is either, the row where it starts, counted from
zero, and its children in order. -/
inductive SyntaxTree where
  | node (isError isMissing hasError : Bool) (startRow : Nat) (children : List SyntaxTree)
  deriving Repr, Inhabited

namespace SyntaxTree

def isError : SyntaxTree → Bool
  | node e _ _ _ _ => e

def isMissing : SyntaxTree → Bool
  | node _ m _ _ _ => m

def hasError : SyntaxTree → Bool
  | node _ _ h _ _ => h

def startRow : SyntaxTree → Nat
  | node _ _ _ row _ => row

def children : SyntaxTree → List SyntaxTree
  | node _ _ _ _ cs => cs

mutual

def firstErrorLine : SyntaxTree → Option Nat
  | node e m _ row cs => if e || m then some (row + 1) else firstErrorLineIn cs

def firstErrorLineIn : List SyntaxTree → Option Nat
  | [] => none
  | c :: cs =>
    match (if c.hasError then firstErrorLine c else none) with
    | some line => some line
    | none => firstErrorLineIn cs

end

end SyntaxTree

def parseTree (tree : SyntaxTree) (lower : SyntaxTree → Outline.Unit) : Except Nat Outline.Unit :=
  if tree.hasError then .error (tree.firstErrorLine.getD 1) else .ok (lower tree)

/-- Read one file through the tree `parse` gives it, lowered by `lower`; salvaged when the tree
refuses it. -/
def readTree (parse : String → SyntaxTree) (lower : SyntaxTree → Outline.Unit)
    (source path : String) : Reading :=
  readParsed (parseTree (parse source) lower) source path

end CodeGraph.Java
