import CodeGraph.Java.Grammar.Recovery
import CodeGraph.Java.Outline
import CodeGraph.Java.Salvage
import CodeGraph.Reading
import CodeGraph.Failure

/-!
# Reading one Java file

A file is read by the grammar; a file it refuses is salvaged instead, with the error
`Failed to parse <path>: syntax error at line <n>`.
-/

namespace CodeGraph.Java

def refusalMessage (path : String) (line : Nat) : String :=
  (Failure.fileParse path ("syntax error at line " ++ toString line)).message

def readParsed (parsed : Except Nat Outline.Unit) (source path : String) : Reading :=
  match parsed with
  | .ok unit => ⟨unit, .grammar, none⟩
  | .error line => ⟨Salvage.salvage source, .salvage, some (refusalMessage path line)⟩

/-- Read one file: its outline by the grammar, or what salvage recovers when the grammar
refuses it. -/
def read (source : String) (path : String) : Reading :=
  readParsed ((readSource source).map outline) source path

end CodeGraph.Java
