/-!
# The command line's arguments

Three subcommands, `extract`, `superimpose` and `diff`, and `help`, over the options every
command takes. Help lists arguments by rank and then by key.
-/

namespace CodeGraph.Cli

structure Opt where
  id : String
  short : Option Char := none
  long : String
  value : Option String := none
  help : String
  longHelp : Option String := none
  default : Option String := none
  choices : List (String × String) := []
  rank : Nat
  deriving Inhabited, Repr

structure Positional where
  id : String
  name : String
  required : Bool
  help : String
  default : Option String := none
  deriving Inhabited, Repr

/-- A command: its name, other names, what it does, its options and positional arguments, and
the options it requires. -/
structure Scope where
  name : String
  aliases : List String := []
  about : String
  opts : List Opt
  positionals : List Positional := []
  required : List String := []
  deriving Inhabited, Repr

def programName : String := "supergraph"

def version : String := "0.1.0"

def formatChoices : List (String × String) :=
  [("table", "Human-readable table format (default)"),
   ("json", "JSON format for machine consumption")]

def commonOpts : List Opt :=
  [{ id := "verbose", short := some 'v', long := "verbose",
     help := "Enable verbose output (debug logging)", rank := 3 },
   { id := "quiet", short := some 'q', long := "quiet",
     help := "Suppress all output except errors", rank := 4 },
   { id := "format", long := "format", value := some "FORMAT",
     help := "Output format (overrides config default)", choices := formatChoices, rank := 5 }]

def helpOpts : List Opt :=
  [{ id := "help", short := some 'h', long := "help", help := "Print help (see more with '--help')",
     longHelp := some "Print help (see a summary with '-h')", rank := 999 },
   { id := "version", short := some 'V', long := "version", help := "Print version", rank := 999 }]

def extractScope : Scope :=
  { name := "extract", aliases := ["x"], about := "Build the structural graph of one source root"
    opts :=
      [{ id := "repo", short := some 'r', long := "repo", value := some "REPO",
         help := "Repository (snapshot) id recorded in the graph", rank := 0 },
       { id := "project", short := some 'p', long := "project", value := some "PROJECT",
         help := "Project name (overrides config)", rank := 1 },
       { id := "out", short := some 'o', long := "out", value := some "OUT",
         help := "Write the graph as JSON to this file", rank := 2 },
       { id := "no_semantic", long := "no-semantic",
         help := "Skip the external semantic backend even if configured", rank := 3 }]
    positionals :=
      [{ id := "path", name := "PATH", required := false, help := "Source root to analyze",
         default := some "." }]
    required := ["repo"] }

def superimposeScope : Scope :=
  { name := "superimpose", aliases := ["si"]
    about := "Ingest two source roots and classify every entity"
    opts :=
      [{ id := "left_repo", long := "left-repo", value := some "LEFT_REPO",
         help := "Repository id for the left root", default := some "left", rank := 0 },
       { id := "right_repo", long := "right-repo", value := some "RIGHT_REPO",
         help := "Repository id for the right root", default := some "right", rank := 1 },
       { id := "supergraph", long := "supergraph", value := some "SUPERGRAPH",
         help := "Supergraph id (default: <left-repo>..<right-repo>)", rank := 2 },
       { id := "project", short := some 'p', long := "project", value := some "PROJECT",
         help := "Project name (overrides config)", rank := 3 },
       { id := "no_patches", long := "no-patches",
         help := "Do not attach patch text to CHANGED markers", rank := 4 },
       { id := "no_semantic", long := "no-semantic",
         help := "Skip the external semantic backend even if configured", rank := 5 },
       { id := "markers_out", long := "markers-out", value := some "MARKERS_OUT",
         help := "Write summary and markers as JSON to this file", rank := 6 }]
    positionals :=
      [{ id := "left", name := "LEFT", required := true, help := "Left (baseline) source root" },
       { id := "right", name := "RIGHT", required := true, help := "Right (candidate) source root" }] }

def diffScope : Scope :=
  { name := "diff", about := "Superimpose two previously extracted graph files"
    opts :=
      [{ id := "supergraph", long := "supergraph", value := some "SUPERGRAPH",
         help := "Supergraph id recorded on every marker", default := some "diff", rank := 0 },
       { id := "left_root", long := "left-root", value := some "LEFT_ROOT",
         help := "Source root of the left graph (enables patches)", rank := 1 },
       { id := "right_root", long := "right-root", value := some "RIGHT_ROOT",
         help := "Source root of the right graph (enables patches)", rank := 2 },
       { id := "markers_out", long := "markers-out", value := some "MARKERS_OUT",
         help := "Write summary and markers as JSON to this file", rank := 3 }]
    positionals :=
      [{ id := "left", name := "LEFT", required := true, help := "Left graph JSON" },
       { id := "right", name := "RIGHT", required := true, help := "Right graph JSON" }] }

def subScopes : List Scope := [extractScope, superimposeScope, diffScope]

def helpScope : Scope :=
  { name := "help", about := "Print this message or the help of the given subcommand(s)", opts := [] }

def topScope : Scope :=
  { name := programName
    about := "Structural graph extraction and superimposition for Java codebases"
    opts := [] }

def examples : List String :=
  ["Examples:",
   "  supergraph extract src/ --repo v1 --out v1.json",
   "  supergraph superimpose old/ new/ --left-repo v1 --right-repo v2",
   "  supergraph diff v1.json v2.json --supergraph release --markers-out markers.json"]

namespace Scope

def allOpts (s : Scope) : List Opt :=
  let common := if s.name == programName then commonOpts.map fun o => { o with rank := o.rank - 3 }
    else commonOpts
  s.opts ++ common ++ helpOpts

def sub? (name : String) : Option Scope :=
  subScopes.find? fun s => s.name == name || s.aliases.contains name

def binName (s : Scope) : String :=
  if s.name == programName then programName else programName ++ " " ++ s.name

def displayName (s : Scope) : String :=
  if s.name == programName then programName else programName ++ "-" ++ s.name

end Scope

namespace Opt

def sortKey (o : Opt) : String :=
  match o.short with
  | some c => String.ofList [c.toLower, if c.isLower then '0' else '1']
  | none => o.long

def usageText (o : Opt) : String :=
  "--" ++ o.long ++ match o.value with
    | some v => " <" ++ v ++ ">"
    | none => ""

end Opt

def Positional.usageText (p : Positional) (required : Bool) : String :=
  if required then "<" ++ p.name ++ ">" else "[" ++ p.name ++ "]"

end CodeGraph.Cli
