import CodeGraph.Cli.Help
import CodeGraph.Text.Similarity

/-!
# Reading the command line

Words are read from the left as long options, clusters of short ones, `--` and positional words;
a positional word on the program's level names the subcommand. A command line is refused, with a
message pointing to `--help`, for an unknown option, a misplaced or repeated value, a missing
value or required argument, or an unknown subcommand.
-/

namespace CodeGraph.Cli

abbrev Given := List (String × List String)

inductive ArgError where
  | unknownArgument (arg : String) (similar : Option String) (inSub : Option String)
      (valueTip : Bool) (used : List String)
  | unexpectedValue (value arg : String) (used : List String)
  | repeated (arg : String)
  | missingValue (arg : String) (choices : List String)
  | invalidValue (value arg : String) (choices : List String)
  | unknownCommand (name : String) (similar : List String)
  | doubleDash (name : String)
  | missingRequired (missing : List String) (used : List String)
  deriving Inhabited, Repr

/-- Where reading a command line ends. -/
inductive Halt where
  | help (s : Scope) (long : Bool)
  | version (s : Scope)
  | refused (s : Scope) (e : ArgError)
  | helpOfHelp

structure LevelRead where
  given : Given
  next : Option (Scope × List String) := none

namespace Given

def has (g : Given) (id : String) : Bool := g.any (·.1 == id)

def value? (g : Given) (id : String) : Option String :=
  (g.find? (·.1 == id)).bind (·.2.head?)

def ids (g : Given) : List String := g.map (·.1)

end Given

def looksLikeOption (w : String) : Bool := w.startsWith "-" && w != "-"

namespace Scope

def longOpt? (s : Scope) (name : String) : Option Opt := s.allOpts.find? (·.long == name)

def shortOpt? (s : Scope) (c : Char) : Option Opt := s.allOpts.find? (·.short == some c)

def usedUsage (s : Scope) (used : List String) : String :=
  if used.isEmpty then s.usage
  else
    let named := (s.required ++ used).foldl (fun acc id => if acc.contains id then acc else acc ++ [id]) []
    let opts := named.filterMap fun id => (s.allOpts.find? (·.id == id)).map Opt.usageText
    let pos := s.positionals.map fun p => p.usageText (p.required || named.contains p.id)
    " ".intercalate ([s.binName] ++ opts ++ pos)

end Scope

def tryHelp : String := "\n\nFor more information, try '--help'.\n"

def quoted (w : String) : String := "'" ++ w ++ "'"

def ArgError.message (s : Scope) : ArgError → String
  | .unknownArgument arg similar inSub valueTip used =>
    let similarTip := match similar with
      | some o => "\n\n  tip: a similar argument exists: " ++ quoted o
      | none => ""
    let tips := (match inSub with
        | some t => ["'" ++ t ++ "' exists"]
        | none => []) ++
      (if valueTip then ["to pass " ++ quoted arg ++ " as a value, use " ++ quoted ("-- " ++ arg)] else [])
    let tipText := if tips.isEmpty then ""
      else (if similar.isNone then "\n" else "") ++ String.join (tips.map ("\n  tip: " ++ ·))
    "error: unexpected argument " ++ quoted arg ++ " found" ++ similarTip ++ tipText ++
      "\n\nUsage: " ++ s.usedUsage used ++ tryHelp
  | .unexpectedValue value arg used =>
    "error: unexpected value " ++ quoted value ++ " for " ++ quoted arg ++
      " found; no more were expected\n\nUsage: " ++ s.usedUsage used ++ tryHelp
  | .repeated arg =>
    "error: the argument " ++ quoted arg ++ " cannot be used multiple times\n\nUsage: " ++
      s.usage ++ tryHelp
  | .missingValue arg choices =>
    "error: a value is required for " ++ quoted arg ++ " but none was supplied" ++
      (if choices.isEmpty then "" else "\n  [possible values: " ++ ", ".intercalate choices ++ "]") ++
      tryHelp
  | .invalidValue value arg choices =>
    "error: invalid value " ++ quoted value ++ " for " ++ quoted arg ++
      "\n  [possible values: " ++ ", ".intercalate choices ++ "]" ++
      (match (Text.similarTo value choices).getLast? with
        | some c => "\n\n  tip: a similar value exists: " ++ quoted c
        | none => "") ++ tryHelp
  | .unknownCommand name similar =>
    "error: unrecognized subcommand " ++ quoted name ++
      (match similar with
        | [] => ""
        | [c] => "\n\n  tip: a similar subcommand exists: " ++ quoted c
        | cs => "\n\n  tip: some similar subcommands exist: " ++ ", ".intercalate (cs.map quoted)) ++
      "\n\nUsage: " ++ s.usage ++ tryHelp
  | .doubleDash name =>
    "error: unexpected argument " ++ quoted name ++ " found\n\n  tip: subcommand " ++ quoted name ++
      " exists; to use it, remove the " ++ quoted "--" ++ " before it\n\nUsage: " ++ s.usage ++ tryHelp
  | .missingRequired missing used =>
    "error: the following required arguments were not provided:" ++
      String.join (missing.map ("\n  " ++ ·)) ++ "\n\nUsage: " ++ s.usedUsage used ++ tryHelp

def commandNames : List String :=
  (subScopes ++ [helpScope]).flatMap fun s => s.name :: s.aliases

def giveArg (s : Scope) (g : Given) (o : Opt) (values : List String) : Except Halt Given :=
  if g.has o.id then .error (.refused s (.repeated o.usageText))
  else
    match values, o.choices with
    | v :: _, _ :: _ =>
      if o.choices.any (·.1 == v) then .ok (g ++ [(o.id, values)])
      else .error (.refused s (.invalidValue v o.usageText (o.choices.map (·.1))))
    | _, _ => .ok (g ++ [(o.id, values)])

def subcommandWith (name : String) (rest : List String) : Option String :=
  let found := subScopes.filterMap fun sc =>
    match (Text.similarTo name (sc.allOpts.map (·.long))).getLast?, rest.idxOf? sc.name with
    | some o, some i => some (i, sc.name ++ " --" ++ o)
    | _, _ => none
  (found.foldl (fun (best : Option (Nat × String)) x =>
    match best with
    | some b => if x.1 < b.1 then some x else some b
    | none => some x) none).map (·.2)

def Opt.noValue (o : Opt) : ArgError := .missingValue o.usageText (o.choices.map (·.1))

def strayWord (w : String) (trailing : Bool) : ArgError :=
  if trailing && commandNames.contains w then .doubleDash w
  else .unknownCommand w (Text.similarTo w commandNames)

def readShorts (s : Scope) (g : Given) (pending : Option Opt) :
    List Char → Except Halt (Given × Option Opt)
  | [] => .ok (g, pending)
  | c :: cs =>
    match s.shortOpt? c with
    | none =>
      .error (.refused s (.unknownArgument ("-" ++ String.ofList [c]) none none
        (!s.positionals.isEmpty) []))
    | some o =>
      match pending with
      | some p => .error (.refused s p.noValue)
      | none =>
        if o.id == "help" then .error (.help s false)
        else if o.id == "version" then .error (.version s)
        else
          match o.value, cs with
          | none, _ => do readShorts s (← giveArg s g o []) none cs
          | some _, [] => .ok (g, some o)
          | some _, '=' :: more => do pure (← giveArg s g o [String.ofList more], none)
          | some _, more => do pure (← giveArg s g o [String.ofList more], none)

/-- Read the words of one level; `pos` positional arguments are taken, `trailing` once `--` was
read, and `pending` is the option that waits for the next word as its value. An option that
waits is refused for want of its value when a known option or a positional argument comes
first, or the words end. -/
def readLevel (s : Scope) :
    Nat → Given → Nat → Bool → Option Opt → List String → Except Halt LevelRead
  | 0, g, _, _, _, _ => .ok ⟨g, none⟩
  | _, g, _, _, pending, [] =>
    match pending with
    | some p => .error (.refused s p.noValue)
    | none => .ok ⟨g, none⟩
  | fuel + 1, g, pos, trailing, pending, w :: rest =>
    let top := s.name == programName
    let positional : Except Halt LevelRead :=
      if top then .error (.refused s (strayWord w trailing))
      else
        match s.positionals[pos]?, pending with
        | some _, some o => .error (.refused s o.noValue)
        | some p, none => readLevel s fuel (g ++ [(p.id, [w])]) (pos + 1) trailing none rest
        | none, _ => .error (.refused s (.unknownArgument w none none false []))
    if trailing then positional
    else if top && pending.isNone && w == helpScope.name then .ok ⟨g, some (helpScope, rest)⟩
    else if top && pending.isNone && (Scope.sub? w).isSome then
      .ok ⟨g, (Scope.sub? w).map fun sc => (sc, rest)⟩
    else if w == "--" then readLevel s fuel g pos true pending rest
    else if w.startsWith "--" then
      let body := w.toList.drop 2
      let name := String.ofList (body.takeWhile (· != '='))
      let attached := if body.contains '=' then some (String.ofList ((body.dropWhile (· != '=')).drop 1))
        else none
      match s.longOpt? name with
      | none =>
        let similar := (Text.similarTo name (s.allOpts.map (·.long))).getLast?
        let inSub := if similar.isNone && top then subcommandWith name rest else none
        let used := match similar.bind s.longOpt? with
          | some o => if g.has o.id then g.ids else g.ids ++ [o.id]
          | none => g.ids
        .error (.refused s (.unknownArgument ("--" ++ name) (similar.map ("--" ++ ·)) inSub
          (similar.isNone && inSub.isNone && !s.positionals.isEmpty) used))
      | some o =>
        match o.value, attached, pending with
        | none, some v, _ =>
          .error (.refused s (.unexpectedValue v ("--" ++ o.long)
            ((g.ids.filter fun id => !s.required.contains id) ++ [o.id])))
        | _, _, some p => .error (.refused s p.noValue)
        | none, none, none =>
          if o.id == "help" then .error (.help s true)
          else if o.id == "version" then .error (.version s)
          else do readLevel s fuel (← giveArg s g o []) pos trailing none rest
        | some _, some v, none => do readLevel s fuel (← giveArg s g o [v]) pos trailing none rest
        | some _, none, none => readLevel s fuel g pos trailing (some o) rest
    else if looksLikeOption w then do
      let (g, pending) ← readShorts s g pending (w.toList.drop 1)
      readLevel s fuel g pos trailing pending rest
    else
      match pending with
      | some o => do readLevel s fuel (← giveArg s g o [w]) pos trailing none rest
      | none => positional

end CodeGraph.Cli
