import CodeGraph.Cli.Spec

/-!
# Help text

The help of a command for a hundred-column terminal: short help gives each entry on one line,
wrapped in a shared column; long help gives each entry's help indented on the lines below it.
-/

namespace CodeGraph.Cli

def termWidth : Nat := 100

def nextLineIndent : Nat := 10

def wrapParagraph (width : Nat) (para : String) : List String :=
  let (lines, last) := (para.splitOn " ").foldl (fun (acc : List String × String) w =>
    let (lines, cur) := acc
    if cur.isEmpty then (lines, w)
    else if cur.length + 1 + w.length ≤ width then (lines, cur ++ " " ++ w)
    else (lines ++ [cur], w)) ([], "")
  lines ++ [last]

def wrapText (width : Nat) (text : String) : List String :=
  (text.splitOn "\n").flatMap (wrapParagraph width)

def blanks (n : Nat) : String := String.ofList (List.replicate n ' ')

def padTo (width : Nat) (s : String) : String := s ++ blanks (width - s.length)

def shortEntry (column : Nat) (head help : String) : List String :=
  match wrapText (termWidth - column) help with
  | [] => [head]
  | first :: rest => (padTo column head ++ first) :: rest.map (blanks column ++ ·)

def longEntry (head help : String) : List String :=
  head :: (wrapText (termWidth - nextLineIndent) help).map (blanks nextLineIndent ++ ·)

def withSpec (long : Bool) (help : String) (spec : Option String) : String :=
  match spec with
  | none => help
  | some s => if help.isEmpty then s else help ++ (if long then "\n\n" else " ") ++ s

namespace Opt

def head (o : Opt) : String :=
  "  " ++ (match o.short with
    | some c => "-" ++ String.ofList [c] ++ ", "
    | none => "    ") ++ o.usageText

def spec (o : Opt) (long : Bool) : Option String :=
  match o.default with
  | some d => some ("[default: " ++ d ++ "]")
  | none =>
    if o.choices.isEmpty || long then none
    else some ("[possible values: " ++ ", ".intercalate (o.choices.map (·.1)) ++ "]")

def choiceLines (o : Opt) : List String :=
  if o.choices.isEmpty then []
  else
    let longest := o.choices.foldl (fun n (v, _) => max n v.length) 0
    ["", blanks nextLineIndent ++ "Possible values:"] ++
      o.choices.map fun (v, h) =>
        blanks nextLineIndent ++ "- " ++ v ++ ": " ++ blanks (longest - v.length) ++ h

def entry (o : Opt) (long : Bool) (column : Nat) : List String :=
  if long then
    longEntry o.head (withSpec true (o.longHelp.getD o.help) (o.spec true)) ++ o.choiceLines
  else shortEntry column o.head (withSpec false o.help (o.spec false))

end Opt

def Positional.entry (p : Positional) (long : Bool) (column : Nat) : List String :=
  let head := "  " ++ p.usageText p.required
  let spec := p.default.map fun d => "[default: " ++ d ++ "]"
  if long then longEntry head (withSpec true p.help spec)
  else shortEntry column head (withSpec false p.help spec)

def joinEntries (long : Bool) (entries : List (List String)) : List String :=
  if long then (entries.intersperse [""]).flatten else entries.flatten

namespace Scope

def usage (s : Scope) : String :=
  if s.name == programName then programName ++ " [OPTIONS] [COMMAND]"
  else if s.name == helpScope.name then s.binName ++ " [COMMAND]..."
  else
    let required := s.allOpts.filter fun o => s.required.contains o.id
    " ".intercalate ([s.binName, "[OPTIONS]"] ++ required.map Opt.usageText ++
      s.positionals.map fun p => p.usageText p.required)

def listedOpts (s : Scope) : List Opt :=
  s.allOpts.mergeSort fun a b => a.rank < b.rank || (a.rank == b.rank && a.sortKey ≤ b.sortKey)

def commandLines : List String :=
  let entries := (subScopes ++ [helpScope]).map fun s =>
    (s.name, s.about ++ match s.aliases with
      | [] => ""
      | [a] => " [alias: " ++ a ++ "]"
      | as => " [aliases: " ++ ", ".intercalate as ++ "]")
  let longest := entries.foldl (fun n (name, _) => max n name.length) 0
  entries.map fun (name, about) => "  " ++ padTo longest name ++ "  " ++ about

/-- The help of a command, in the long form when `long`. -/
def helpText (s : Scope) (long : Bool) : String :=
  let opts := s.listedOpts
  let optColumn := opts.foldl (fun n o => max n (o.usageText.length + 4)) 2 + 4
  let posColumn := s.positionals.foldl (fun n p => max n (p.usageText p.required).length) 2 + 4
  let middle :=
    if s.name == programName then ["Commands:"] ++ commandLines ++ [""]
    else if s.positionals.isEmpty then []
    else ["Arguments:"] ++ joinEntries long (s.positionals.map (·.entry long posColumn)) ++ [""]
  let lines := [s.about, "", "Usage: " ++ s.usage, ""] ++ middle ++ ["Options:"] ++
    joinEntries long (opts.map (·.entry long optColumn)) ++
    (if s.name == programName then [""] ++ examples else [])
  "\n".intercalate lines ++ "\n"

end Scope

end CodeGraph.Cli
