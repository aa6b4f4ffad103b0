import CodeGraph.Config
import CodeGraph.Failure

/-!
# Where commands run

A workspace is a file tree, a working directory, a way to start programs and a time stamp. A
failure is a chain of messages, shown on one line or as an error report with its causes.
-/

namespace CodeGraph.Cli

/-- The files, the working directory, the programs and the clock a command runs with. -/
structure Workspace where
  tree : FileTree
  cwd : List String
  hosts : FileTree → Launcher
  clock : String

structure CommandError where
  messages : List String
  deriving Inhabited, Repr, BEq

namespace CommandError

def single (m : String) : CommandError := ⟨[m]⟩

def within (context : String) (causes : List String) : CommandError := ⟨context :: causes⟩

def oneLine (e : CommandError) : String := ": ".intercalate e.messages

def indentLines (lead : String) (more : Nat) (m : String) : String :=
  lead ++ ("\n" ++ String.ofList (List.replicate more ' ')).intercalate (m.splitOn "\n")

def report (e : CommandError) : String :=
  match e.messages with
  | [] => "Error: \n"
  | [m] => "Error: " ++ m ++ "\n"
  | [m, c] => "Error: " ++ m ++ "\n\nCaused by:\n" ++ indentLines "    " 4 c ++ "\n"
  | m :: cs =>
    let numbered := cs.zipIdx.map fun (c, i) =>
      let n := toString i
      indentLines (String.ofList (List.replicate (5 - n.length) ' ') ++ n ++ ": ") 7 c
    "Error: " ++ m ++ "\n\nCaused by:\n" ++ "\n".intercalate numbered ++ "\n"

end CommandError

namespace Workspace

def locate (w : Workspace) (path : String) : List String :=
  if path.startsWith "/" then FileTree.components path else w.cwd ++ FileTree.components path

def locateText (w : Workspace) (path : String) : String := FileTree.pathText (w.locate path)

def config (w : Workspace) : Config := Config.load w.tree w.cwd

def writeText (w : Workspace) (path text : String) : Except CommandError Workspace :=
  match w.tree.write (w.locate path) text.toUTF8 with
  | .ok t => .ok { w with tree := t }
  | .error e => .error (.within ("Failed to write " ++ path) [e.message])

def readText (w : Workspace) (path : String) : Except String String :=
  match w.tree.read (w.locate path) with
  | .error e => .error e.message
  | .ok bytes =>
    match String.fromUTF8? bytes with
    | some s => .ok s
    | none => .error "stream did not contain valid UTF-8"

end Workspace

end CodeGraph.Cli
