import CodeGraph.Semantic
import CodeGraph.Scan

/-!
# Finding a semantic reader in a project

A project may ship its semantic reader as a jar under `semantic-parser/target`: the regular
file `semantic-parser.jar`, else the regular file `semantic-parser-shaded.jar`, else the first
entry of that directory, by name, whose extension is `jar` and whose name mentions
`semantic-parser`. It is run as `java -jar <jar>`.
-/

namespace CodeGraph

def readerTarget : List String := ["semantic-parser", "target"]

def FileTree.isFile (t : FileTree) (cs : List String) : Bool :=
  match t.kindAt cs with
  | .ok (.file _) | .ok .unreadable => true
  | _ => false

/-- The semantic reader a project ships, if it ships one. -/
def SemanticCommand.discover (t : FileTree) (root : List String) : Option SemanticCommand :=
  let target := root ++ readerTarget
  let preferred := ["semantic-parser.jar", "semantic-parser-shaded.jar"].map (target ++ [·])
  let candidates :=
    if t.exists? target then
      (t.childNames target).filter fun n =>
        Scan.extension n == some "jar" && (n.splitOn "semantic-parser").length > 1
    else []
  let jar := match preferred.find? t.isFile with
    | some p => some p
    | none => candidates.head?.map (target ++ [·])
  jar.map fun p => { command := ["java", "-jar", FileTree.pathText p] }

end CodeGraph
