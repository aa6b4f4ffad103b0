import CodeGraph.Text.Case

/-!
# Painted text and output formats

Text on a terminal may be painted: it is then wrapped in the escape sequence of its tone and the
reset sequence `ESC[0m`, and every reset inside it is followed by its tone again, so that the tone
holds to its end. Unpainted text is left as it is.

A report is printed as a table or as JSON; a format is named case-insensitively.
-/

namespace CodeGraph.Report

inductive Tone where
  | bold
  | dim
  | green
  | yellow
  | cyanBold
  | yellowBold
  | redBold
  deriving DecidableEq, Inhabited, Repr

def Tone.codes : Tone → String
  | .bold => "1"
  | .dim => "2"
  | .green => "32"
  | .yellow => "33"
  | .cyanBold => "1;36"
  | .yellowBold => "1;33"
  | .redBold => "1;31"

def Tone.start (t : Tone) : String := "\x1b[" ++ t.codes ++ "m"

def reset : String := "\x1b[0m"

/-- Text in a tone when `on`, else the text itself. -/
def paint (on : Bool) (t : Tone) (s : String) : String :=
  if on then t.start ++ (reset ++ t.start).intercalate (s.splitOn reset) ++ reset else s

def truncate (s : String) (width : Nat) : String :=
  if s.length ≤ width then s
  else if width ≤ 3 then String.ofList (s.toList.take width)
  else String.ofList (s.toList.take (width - 3)) ++ "..."

def padEnd (s : String) (width : Nat) : String :=
  s ++ String.ofList (List.replicate (width - s.length) ' ')

inductive OutputFormat where
  | table
  | json
  deriving DecidableEq, Inhabited, Repr

def OutputFormat.name : OutputFormat → String
  | .table => "table"
  | .json => "json"

def OutputFormat.ofName (s : String) : Except String OutputFormat :=
  match Text.toLower s with
  | "table" => .ok .table
  | "json" => .ok .json
  | _ => .error ("Unknown output format: " ++ "'" ++ s ++ "'")

end CodeGraph.Report
