import CodeGraph.Script.Syntax
import CodeGraph.Script.Format
import CodeGraph.Semantic

/-!
# Shell scripts: running them

A script runs in a shell with its name, arguments, variables and last status; words expand piece
by piece, and the first field names a command of the shell or a program of the host.
-/

namespace CodeGraph.Script

/-- A running shell. -/
structure Shell where
  name : String
  args : List String
  vars : List (String × String) := []
  status : Nat := 0
  files : List (String × Bytes) := []
  tree : FileTree
  pid : Nat := 4242
  deriving Inhabited

structure Ran where
  shell : Shell
  out : Bytes := []
  err : Bytes := []
  ended : Option ExitStatus := none
  deriving Inhabited

structure Fields where
  done : List String := []
  cur : Option String := none
  deriving Inhabited

namespace Fields

def add (f : Fields) (s : String) : Fields := { f with cur := some (f.cur.getD "" ++ s) }

def close (f : Fields) : Fields :=
  match f.cur with
  | some c => { done := f.done ++ [c], cur := none }
  | none => f

def isBlank (c : Char) : Bool := c == ' ' || c == '\t' || c == '\n'

def split (f : Fields) (v : String) : Fields :=
  let parts := (v.splitOn " ").flatMap (·.splitOn "\t") |>.flatMap (·.splitOn "\n")
  let words := parts.filter (!·.isEmpty)
  match words with
  | [] => if v.isEmpty then f else f.close
  | first :: rest =>
    let f := if v.toList.head?.map isBlank == some true then f.close.add first else f.add first
    let f := rest.foldl (fun f w => f.close.add w) f
    if v.toList.getLast?.map isBlank == some true then f.close else f

def finish (f : Fields) : List String := f.close.done

end Fields

namespace Shell

def param (sh : Shell) (name : String) : String :=
  match name with
  | "0" => sh.name
  | "#" => toString sh.args.length
  | "?" => toString sh.status
  | "$" => toString sh.pid
  | "@" | "*" => " ".intercalate sh.args
  | "!" | "-" => ""
  | _ =>
    match name.toNat? with
    | some 0 => sh.name
    | some n => sh.args.getD (n - 1) ""
    | none => ((sh.vars.find? (·.1 == name)).map (·.2)).getD ""

def warn (sh : Shell) (line : Nat) (msg : String) : Bytes :=
  utf8 (sh.name ++ ": " ++ toString line ++ ": " ++ msg ++ "\n")

def readFile (sh : Shell) (path : String) : Option Bytes :=
  match sh.files.find? (·.1 == path) with
  | some (_, bs) => some bs
  | none =>
    match sh.tree.read (FileTree.components path) with
    | .ok bytes => some bytes.toList
    | .error _ => none

def writeFile (sh : Shell) (path : String) (append : Bool) (bs : Bytes) : Shell :=
  let old := if append then (sh.readFile path).getD [] else []
  { sh with files := (sh.files.filter (·.1 != path)) ++ [(path, old ++ bs)] }

end Shell

def textOf (bs : Bytes) : String := Text.decodeLossy ⟨bs.toArray⟩

def dropNewlines (s : String) : String :=
  String.ofList (s.toList.reverse.dropWhile (· == '\n')).reverse

inductive Dest where
  | out
  | err
  | null
  | file (path : String) (append : Bool)
  deriving Inhabited, BEq

def signalNumber (s : String) : Option Nat :=
  let s := if s.startsWith "SIG" then s.drop 3 |>.toString else s
  match s.toNat? with
  | some n => some n
  | none =>
    match s with
    | "HUP" => some 1 | "INT" => some 2 | "QUIT" => some 3 | "ILL" => some 4 | "TRAP" => some 5
    | "ABRT" => some 6 | "BUS" => some 7 | "FPE" => some 8 | "KILL" => some 9 | "USR1" => some 10
    | "SEGV" => some 11 | "USR2" => some 12 | "PIPE" => some 13 | "ALRM" => some 14
    | "TERM" => some 15
    | _ => none

def seqOutput (args : List String) : Except String Bytes :=
  let num (a : String) : Except String Int :=
    match a.toInt? with
    | some v => .ok v
    | none => .error ("seq: invalid floating point argument: " ++ "'" ++ a ++ "'" ++
        "\nTry 'seq --help' for more information.\n")
  let run (first step last : Int) : Bytes :=
    if step == 0 then []
    else
      let count := if step > 0 then (if last < first then 0 else ((last - first) / step).toNat + 1)
        else (if first < last then 0 else ((first - last) / (-step)).toNat + 1)
      utf8 (String.join ((List.range count).map fun (i : Nat) => toString (first + step * (i : Int)) ++ "\n"))
  match args with
  | [l] => do return run 1 1 (← num l)
  | [f, l] => do return run (← num f) 1 (← num l)
  | [f, s, l] => do return run (← num f) (← num s) (← num l)
  | [] => .error "seq: missing operand\nTry 'seq --help' for more information.\n"
  | _ :: _ :: _ :: extra :: _ => .error ("seq: extra operand " ++ "'" ++ extra ++ "'" ++
      "\nTry 'seq --help' for more information.\n")

def catOutput (sh : Shell) (args : List String) (stdin : Bytes) : Bytes × Bytes × Nat :=
  let args := if args.isEmpty then ["-"] else args
  args.foldl (fun (acc : Bytes × Bytes × Nat) a =>
    if a == "-" then (acc.1 ++ stdin, acc.2.1, acc.2.2)
    else
      match sh.readFile a with
      | some bs => (acc.1 ++ bs, acc.2.1, acc.2.2)
      | none => (acc.1, acc.2.1 ++ utf8 ("cat: " ++ a ++ ": No such file or directory\n"), 1))
    ([], [], 0)

def command (sh : Shell) (line : Nat) (name : String) (args : List String) (stdin : Bytes) : Ran :=
  match name with
  | "echo" => { shell := { sh with status := 0 }, out := echo args }
  | "printf" =>
    match args with
    | [] => { shell := { sh with status := 2 },
              err := sh.warn line "printf: usage: printf format [arg ...]" }
    | fmt :: rest =>
      let (out, status, warnings) := printf fmt rest
      { shell := { sh with status }, out,
        err := warnings.flatMap fun w => sh.warn line ("printf: " ++ w) }
  | "true" | ":" | "sleep" | "cd" | "set" | "unset" => { shell := { sh with status := 0 } }
  | "false" => { shell := { sh with status := 1 } }
  | "exit" =>
    match args with
    | [] => { shell := sh, ended := some (.code sh.status) }
    | a :: _ =>
      match a.toNat? with
      | some n => { shell := sh, ended := some (.code (n % 256)) }
      | none => { shell := sh, err := sh.warn line ("exit: Illegal number: " ++ a), ended := some (.code 2) }
  | "shift" =>
    let n := ((args.head?.bind String.toNat?)).getD 1
    if n > sh.args.length then
      { shell := { sh with status := 2 }, err := sh.warn line ("shift: can't shift that many") }
    else { shell := { sh with args := sh.args.drop n, status := 0 } }
  | "export" =>
    let sh := args.foldl (fun sh a =>
      match a.splitOn "=" with
      | n :: v :: more => { sh with vars := (sh.vars.filter (·.1 != n)) ++ [(n, "=".intercalate (v :: more))] }
      | _ => sh) sh
    { shell := { sh with status := 0 } }
  | "kill" =>
    let (signal, targets) : Option Nat × List String := match args with
      | "-s" :: s :: rest => (signalNumber s, rest)
      | a :: rest => if a.startsWith "-" then (signalNumber (a.drop 1).toString, rest) else (some 15, a :: rest)
      | [] => (some 15, [])
    match signal with
    | none => { shell := { sh with status := 2 }, err := sh.warn line "kill: invalid signal number or name" }
    | some s =>
      if targets.isEmpty then
        { shell := { sh with status := 2 }, err := sh.warn line "kill: usage: kill [-s sigspec | -signum | -sigspec] [pid | job]... or\nkill -l [exitstatus]" }
      else if targets.any (· == toString sh.pid) then
        if s == 0 then { shell := { sh with status := 0 } } else { shell := sh, ended := some (.signal s) }
      else { shell := { sh with status := 1 }, err := sh.warn line "kill: No such process" }
  | "cat" =>
    let (out, err, status) := catOutput sh args stdin
    { shell := { sh with status }, out, err }
  | "seq" =>
    match seqOutput args with
    | .ok out => { shell := { sh with status := 0 }, out }
    | .error e => { shell := { sh with status := 1 }, err := utf8 e }
  | _ => { shell := { sh with status := 127 }, err := sh.warn line (name ++ ": not found") }

def isAssignment (w : Word) : Bool :=
  match w with
  | .text s false :: _ =>
    match s.splitOn "=" with
    | n :: _ :: _ => !n.isEmpty && n.toList.all isNameChar && !(n.toList.head?.map Char.isDigit == some true)
    | _ => false
  | _ => false

def route (r : Ran) (d : Dest) (bs : Bytes) : Ran :=
  if bs.isEmpty then r
  else
    match d with
    | .out => { r with out := r.out ++ bs }
    | .err => { r with err := r.err ++ bs }
    | .null => r
    | .file path append => { r with shell := r.shell.writeFile path append bs }

mutual

def runProgram : Nat → Program → Shell → Bytes → Ran
  | 0, _, sh, _ => { shell := sh }
  | fuel + 1, prog, sh, stdin =>
    prog.foldl (fun (r : Ran) step =>
      if r.ended.isSome then r
      else
        let go := match step.link with
          | .always => true
          | .onSuccess => r.shell.status == 0
          | .onFailure => r.shell.status != 0
        if !go then r
        else
          let next := runPipeline fuel step.pipeline r.shell stdin
          { next with out := r.out ++ next.out, err := r.err ++ next.err }) { shell := sh }

def runPipeline : Nat → List Simple → Shell → Bytes → Ran
  | 0, _, sh, _ => { shell := sh }
  | fuel + 1, cmds, sh, stdin =>
    match cmds with
    | [c] => runSimple fuel c sh stdin
    | _ =>
      let (input, err, status, ended) := cmds.foldl
        (fun (acc : Bytes × Bytes × Nat × Option ExitStatus) c =>
          let r := runSimple fuel c sh acc.1
          let status := match r.ended with
            | some (.code n) => n
            | _ => r.shell.status
          let ended := match r.ended with
            | some (.signal s) => some (.signal s)
            | _ => acc.2.2.2
          (r.out, acc.2.1 ++ r.err, status, ended)) (stdin, [], 0, none)
      { shell := { sh with status }, out := input, err, ended }

def runSimple : Nat → Simple → Shell → Bytes → Ran
  | 0, _, sh, _ => { shell := sh }
  | fuel + 1, cmd, sh, stdin =>
    let (assigns, words) := (cmd.words.takeWhile isAssignment, cmd.words.dropWhile isAssignment)
    let (values, sh, err0) := assigns.foldl (fun (acc : List String × Shell × Bytes) w =>
      let (v, sh, e) := expandPlain fuel w acc.2.1
      (acc.1 ++ [v], sh, acc.2.2 ++ e)) ([], sh, [])
    let (fields, sh, err1) := words.foldl (fun (acc : List String × Shell × Bytes) w =>
      let (fs, sh, e) := expandWord fuel w acc.2.1
      (acc.1 ++ fs, sh, acc.2.2 ++ e)) ([], sh, [])
    let setVar (sh : Shell) (v : String) : Shell :=
      match v.splitOn "=" with
      | n :: rest => { sh with vars := (sh.vars.filter (·.1 != n)) ++ [(n, "=".intercalate rest)] }
      | [] => sh
    let start : Ran := { shell := sh, err := err0 ++ err1 }
    -- redirections, in order
    let (r, dests, input, failed) := cmd.redirects.foldl
      (fun (acc : Ran × (Dest × Dest) × Bytes × Bool) red =>
        let (r, (d1, d2), input, failed) := acc
        if failed then acc
        else
          match red with
          | .send fd (.output m) =>
            let d := if m == 1 then d1 else if m == 2 then d2 else .null
            if fd == 1 then (r, (d, d2), input, false)
            else if fd == 2 then (r, (d1, d), input, false)
            else acc
          | .send fd (.file w append) =>
            let (path, sh, e) := expandPlain fuel w r.shell
            let r := { r with shell := sh, err := r.err ++ e }
            let d : Dest := if path == "/dev/null" then .null else .file path append
            let r := if append || path == "/dev/null" then r else { r with shell := r.shell.writeFile path false [] }
            if fd == 1 then (r, (d, d2), input, false)
            else if fd == 2 then (r, (d1, d), input, false)
            else (r, (d1, d2), input, false)
          | .read w =>
            let (path, sh, e) := expandPlain fuel w r.shell
            let r := { r with shell := sh, err := r.err ++ e }
            match r.shell.readFile path with
            | some bs => (r, (d1, d2), bs, false)
            | none =>
              ({ r with err := r.err ++ r.shell.warn cmd.line ("cannot open " ++ path ++ ": No such file"),
                        shell := { r.shell with status := 2 } }, (d1, d2), input, true)
          | .here body expand =>
            if expand then
              let (text, sh, e) := expandPlain fuel (hereWord body) r.shell
              ({ r with shell := sh, err := r.err ++ e }, (d1, d2), utf8 text, false)
            else (r, (d1, d2), utf8 body, false))
      (start, (.out, .err), stdin, false)
    if failed then r
    else
      match fields with
      | [] =>
        let sh := values.foldl setVar r.shell
        { r with shell := sh }
      | name :: args =>
        let ran := command r.shell cmd.line name args input
        let res : Ran := { shell := ran.shell, out := r.out, err := r.err, ended := ran.ended }
        let res := route res dests.1 ran.out
        route res dests.2 ran.err

def expandWord : Nat → Word → Shell → List String × Shell × Bytes
  | 0, _, sh => ([], sh, [])
  | fuel + 1, w, sh =>
    let (f, sh, err) := w.foldl (fun (acc : Fields × Shell × Bytes) p =>
      let (f, sh, err) := acc
      match p with
      | .text s _ => (f.add s, sh, err)
      | .param name quoted =>
        let v := sh.param name
        (if quoted then f.add v else f.split v, sh, err)
      | .command src quoted =>
        let r := runProgram fuel (parse src) sh []
        let v := dropNewlines (textOf r.out)
        let sh := { sh with status := match r.ended with
          | some (.code n) => n
          | some (.signal s) => 128 + s
          | none => r.shell.status }
        (if quoted then f.add v else f.split v, sh, err ++ r.err)) ({}, sh, [])
    (f.finish, sh, err)

def expandPlain : Nat → Word → Shell → String × Shell × Bytes
  | 0, _, sh => ("", sh, [])
  | fuel + 1, w, sh =>
    w.foldl (fun (acc : String × Shell × Bytes) p =>
      let (s, sh, err) := acc
      match p with
      | .text t _ => (s ++ t, sh, err)
      | .param name _ => (s ++ sh.param name, sh, err)
      | .command src _ =>
        let r := runProgram fuel (parse src) sh []
        (s ++ dropNewlines (textOf r.out), sh, err ++ r.err)) ("", sh, [])

end

def scriptFuel : Nat := 100000

/-- Run `sh -c` on a script with its name and arguments. -/
def runShell (t : FileTree) (script name : String) (args : List String) : Outcome :=
  let sh : Shell := { name, args, tree := t }
  let r := runProgram scriptFuel (parse script) sh []
  { status := r.ended.getD (.code r.shell.status), stdout := ⟨r.out.toArray⟩, stderr := ⟨r.err.toArray⟩ }

def host (t : FileTree) : Launcher := fun argv =>
  match argv with
  | [] => .error .notFound
  | prog :: args =>
    let name :=
      if prog.startsWith "/bin/" then (prog.drop 5).toString
      else if prog.startsWith "/usr/bin/" then (prog.drop 9).toString
      else prog
    let ok (code : Nat) (out err : Bytes) : Except IoError Outcome :=
      .ok { status := .code code, stdout := ⟨out.toArray⟩, stderr := ⟨err.toArray⟩ }
    let sh : Shell := { name, args := [], tree := t }
    match name with
    | "sh" | "dash" | "bash" =>
      match args with
      | "-c" :: script :: rest =>
        match rest with
        | n :: more => .ok (runShell t script n more)
        | [] => .ok (runShell t script name [])
      | ["-c"] => ok 2 [] (utf8 (name ++ ": 0: -c requires an argument\n"))
      | _ => ok 0 [] []
    | "true" => ok 0 [] []
    | "false" => ok 1 [] []
    | "echo" =>
      let (args, newline) := match args with
        | "-n" :: rest => (rest, false)
        | _ => (args, true)
      ok 0 (utf8 (" ".intercalate args ++ if newline then "\n" else "")) []
    | "printf" =>
      match args with
      | [] => ok 1 [] (utf8 "printf: missing operand\nTry 'printf --help' for more information.\n")
      | fmt :: rest =>
        let (out, status, warnings) := printf fmt rest
        ok status out (warnings.flatMap fun w => utf8 ("printf: " ++ w ++ "\n"))
    | "cat" =>
      let (out, err, status) := catOutput sh args []
      ok status out err
    | "seq" =>
      match seqOutput args with
      | .ok out => ok 0 out []
      | .error e => ok 1 [] (utf8 e)
    | _ => .error .notFound

end CodeGraph.Script
