import CodeGraph.Snapshot.Json
import CodeGraph.FileTree
import CodeGraph.Failure
import CodeGraph.Text.Utf8
import CodeGraph.Text.Blank
import CodeGraph.Reading

/-!
# The semantic reader

A whole-project reader run as its own program through a `Launcher`, which prints a snapshot as
JSON. A program that cannot start or ends with a failure status fails with what it wrote on its
error stream, cut to 2000 characters; a text that is not a snapshot fails as malformed.
-/

namespace CodeGraph

inductive ExitStatus where
  | code (n : Nat)
  | signal (n : Nat)
  deriving DecidableEq, Inhabited, Repr

namespace ExitStatus

def success : ExitStatus → Bool
  | .code 0 => true
  | _ => false

def signalName : Nat → Option String
  | 1 => some "SIGHUP" | 2 => some "SIGINT" | 3 => some "SIGQUIT" | 4 => some "SIGILL"
  | 5 => some "SIGTRAP" | 6 => some "SIGABRT" | 7 => some "SIGBUS" | 8 => some "SIGFPE"
  | 9 => some "SIGKILL" | 10 => some "SIGUSR1" | 11 => some "SIGSEGV" | 12 => some "SIGUSR2"
  | 13 => some "SIGPIPE" | 14 => some "SIGALRM" | 15 => some "SIGTERM"
  | _ => none

def text : ExitStatus → String
  | .code n => "exit status: " ++ toString n
  | .signal n =>
    match signalName n with
    | some name => "signal: " ++ toString n ++ " (" ++ name ++ ")"
    | none => "signal: " ++ toString n

end ExitStatus

structure Outcome where
  status : ExitStatus
  stdout : ByteArray
  stderr : ByteArray
  deriving Inhabited

/-- Start a program from the words of its command and run it to its end, or say why it could
not be started. -/
abbrev Launcher := List String → Except IoError Outcome

structure SemanticCommand where
  command : List String
  timeoutSecs : Nat := 600
  deriving Inhabited, Repr

def stderrLimit : Nat := 2000

def cutChars (s : String) (n : Nat) : String :=
  if s.length ≤ n then s else String.ofList (s.toList.take n) ++ "..."

def Snapshot.ofOutput (stdout : String) : Except Failure Snapshot :=
  match Snapshot.ofText stdout with
  | .ok g => .ok g
  | .error e => .error (.backendOutput e.text)

namespace SemanticCommand

def withTimeout (c : SemanticCommand) (secs : Nat) : SemanticCommand :=
  { c with timeoutSecs := max secs 1 }

/-- Run the reader on the project at `root` of a file tree. -/
def invoke (c : SemanticCommand) (run : Launcher) (t : FileTree) (root : List String)
    (project repo : String) : Except Failure Snapshot := do
  match c.command with
  | [] => .error (.backendInvocation "no command configured" "")
  | words =>
    let absRoot ← match t.resolve root with
      | .ok p => pure (FileTree.pathText p)
      | .error e => .error (.io e.message)
    match run (words ++ ["--root", absRoot, "--projectName", project, "--repoId", repo]) with
    | .error e => .error (.backendInvocation ("failed to start: " ++ e.message) "")
    | .ok o =>
      if !o.status.success then
        .error (.backendInvocation o.status.text
          (cutChars (Text.trim (Text.decodeLossy o.stderr)) stderrLimit))
      else
        let g ← Snapshot.ofOutput (Text.decodeLossy o.stdout)
        let g := if g.project.isEmpty then { g with project } else g
        let g := if g.repo.isEmpty then { g with repo } else g
        return { g with stats := { g.stats with backendUsed := Reader.semantic.name } }

end SemanticCommand

end CodeGraph
