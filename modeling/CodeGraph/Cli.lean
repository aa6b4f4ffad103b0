import CodeGraph.Cli.Args
import CodeGraph.Cli.Command

/-!
# The program

A run reads its command line, then answers with help, its version or a refusal (status 0, 0 and
2), or runs the subcommand with the settings of the working directory; a failed command reports
its chain of causes with status 1. Options common to every level take the subcommand's value.
-/

namespace CodeGraph.Cli

open CodeGraph.Report

structure Exit where
  code : Nat
  stdout : String := ""
  stderr : String := ""
  workspace : Workspace

def helpOfHelpText : String :=
  helpScope.about ++ "\n\nUsage: " ++ helpScope.usage ++ "\n\nArguments:\n" ++
    "  [COMMAND]...  Print help for the subcommand(s)\n"

def helpTarget : Scope → List String → Halt
  | s, [] => .help s true
  | s, name :: rest =>
    if s.name == programName then
      if name == helpScope.name then
        if rest.isEmpty then .helpOfHelp else .refused helpScope (.unknownCommand rest.head! [])
      else
        match Scope.sub? name with
        | some sc => helpTarget sc rest
        | none => .refused s (.unknownCommand name [])
    else .refused s (.unknownCommand name [])

def missingArgs (s : Scope) (g : Given) : List (String × String) :=
  ((s.allOpts.filter fun o => s.required.contains o.id && !g.has o.id).map fun o =>
    (o.id, o.usageText)) ++
  ((s.positionals.filter fun p => p.required && !g.has p.id).map fun p => (p.id, p.usageText true))

def commandOf (s : Scope) (g : Given) : Command :=
  let text (id : String) := (g.value? id).getD ""
  if s.name == extractScope.name then
    .extract
      { path := (g.value? "path").getD "."
        repo := text "repo"
        project := g.value? "project"
        out := g.value? "out"
        noSemantic := g.has "no_semantic" }
  else if s.name == superimposeScope.name then
    .superimpose
      { left := text "left"
        right := text "right"
        leftRepo := (g.value? "left_repo").getD "left"
        rightRepo := (g.value? "right_repo").getD "right"
        overlay := g.value? "supergraph"
        project := g.value? "project"
        noPatches := g.has "no_patches"
        noSemantic := g.has "no_semantic"
        markersOut := g.value? "markers_out" }
  else
    .diff
      { left := text "left"
        right := text "right"
        overlay := (g.value? "supergraph").getD "diff"
        leftRoot := g.value? "left_root"
        rightRoot := g.value? "right_root"
        markersOut := g.value? "markers_out" }

inductive Request where
  | halt (h : Halt)
  | bare
  | run (c : Command) (format : Option OutputFormat)

def readLine (args : List String) : Request :=
  match readLevel topScope (args.length + 1) [] 0 false none args with
  | .error h => .halt h
  | .ok ⟨_, none⟩ => .bare
  | .ok ⟨top, some (s, rest)⟩ =>
    if s.name == helpScope.name then .halt (helpTarget topScope rest)
    else
      match readLevel s (rest.length + 1) [] 0 false none rest with
      | .error h => .halt h
      | .ok ⟨g, _⟩ =>
        match missingArgs s g with
        | [] =>
          let format := ((g.value? "format").orElse fun _ => top.value? "format").bind fun f =>
            (OutputFormat.ofName f).toOption
          .run (commandOf s g) format
        | missing => .halt (.refused s (.missingRequired (missing.map (·.2)) (g.ids ++ missing.map (·.1))))

/-- Run the program with a command line in a workspace. -/
def invoke (w : Workspace) (args : List String) : Exit :=
  match readLine args with
  | .halt (.help s long) => { code := 0, stdout := s.helpText long, workspace := w }
  | .halt (.version s) => { code := 0, stdout := s.displayName ++ " " ++ version ++ "\n", workspace := w }
  | .halt .helpOfHelp => { code := 0, stdout := helpOfHelpText, workspace := w }
  | .halt (.refused s e) => { code := 2, stderr := e.message s, workspace := w }
  | .bare => { code := 0, stdout := topScope.helpText false ++ "\n", workspace := w }
  | .run cmd format =>
    let c := w.config
    let fmt := format.getD ((c.format.bind fun f => (OutputFormat.ofName f).toOption).getD .table)
    match cmd.run w c fmt with
    | .ok o => { code := 0, stdout := o.stdout, workspace := o.workspace }
    | .error e => { code := 1, stderr := e.report, workspace := w }

end CodeGraph.Cli
