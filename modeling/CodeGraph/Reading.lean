import CodeGraph.Outline

/-!
# How a source file was read

A file is read by the whole-project semantic reader, by the grammar of its language, or, when the
grammar refuses it, by salvage, which only recovers its package and imports. A reading keeps the
outline, the reader that made it and, when the preferred reader refused the file, why.
-/

namespace CodeGraph

inductive Reader where
  | semantic
  | grammar
  | salvage
  deriving DecidableEq, Repr, Inhabited

def Reader.name : Reader → String
  | .semantic => "semantic"
  | .grammar => "tree-sitter"
  | .salvage => "regex"

/-- What reading one file gave. -/
structure Reading where
  unit : Outline.Unit
  reader : Reader
  error : Option String
  deriving Repr, Inhabited

def Reading.degraded (r : Reading) : Bool := r.reader == .salvage

def Reading.failed (error : String) : Reading := ⟨Outline.Unit.empty, .salvage, some error⟩

end CodeGraph
