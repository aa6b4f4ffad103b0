import CodeGraph.Toml.Read
import CodeGraph.Semantic.Discover

/-!
# Settings of a working directory

The TOML file `.sgrc.toml` may hold the tables `project`, `scanner`, `backend`, `diff` and
`output`; every setting may be left out and unknown keys are passed over. Settings that cannot
be used as a whole (a file missing, unreadable, not UTF-8 or not TOML, a setting of the wrong
type, a negative count) fall back to the defaults as a whole.
-/

namespace CodeGraph

/-- The settings of a working directory. -/
structure Config where
  projectName : Option String := none
  ignore : List String := []
  respectGitignore : Bool := true
  threads : Option Nat := none
  semanticCommand : Option (List String) := none
  timeoutSecs : Option Nat := none
  autoDiscover : Bool := false
  attachPatches : Bool := true
  maxPatchChars : Option Nat := none
  format : Option String := none
  color : Option Bool := none
  deriving Inhabited, Repr

namespace Config

def fileName : String := ".sgrc.toml"

def defaultProject : String := "java-project"

def defaultPatchLimit : Nat := 50000

inductive Mismatch where
  | wrongType (key expected : String)
  deriving Inhabited, Repr

def text (key : String) : Toml.Value → Except Mismatch String
  | .string s => .ok s
  | _ => .error (.wrongType key "a string")

def flag (key : String) : Toml.Value → Except Mismatch Bool
  | .boolean b => .ok b
  | _ => .error (.wrongType key "a boolean")

def count (key : String) : Toml.Value → Except Mismatch Nat
  | .integer n => if n < 0 then .error (.wrongType key "a count") else .ok n.toNat
  | _ => .error (.wrongType key "a count")

def texts (key : String) : Toml.Value → Except Mismatch (List String)
  | .array items => items.mapM (text key)
  | _ => .error (.wrongType key "a sequence")

abbrev Setting := String × (Toml.Value → Config → Except Mismatch Config)

def setting (key : String) (get : String → Toml.Value → Except Mismatch α)
    (put : α → Config → Config) : Setting :=
  (key, fun v c => (get key v).map (put · c))

def tables : List (String × List Setting) :=
  [("project", [setting "name" text fun v c => { c with projectName := some v }]),
   ("scanner",
    [setting "ignore" texts fun v c => { c with ignore := v },
     setting "respect_gitignore" flag fun v c => { c with respectGitignore := v },
     setting "threads" count fun v c => { c with threads := some v }]),
   ("backend",
    [setting "semantic_command" texts fun v c => { c with semanticCommand := some v },
     setting "timeout_secs" count fun v c => { c with timeoutSecs := some v },
     setting "auto_discover" flag fun v c => { c with autoDiscover := v }]),
   ("diff",
    [setting "attach_patches" flag fun v c => { c with attachPatches := v },
     setting "max_patch_chars" count fun v c => { c with maxPatchChars := some v }]),
   ("output",
    [setting "format" text fun v c => { c with format := some v },
     setting "color" flag fun v c => { c with color := some v }])]

def applyTable (name : String) (settings : List Setting) (v : Toml.Value) (c : Config) :
    Except Mismatch Config :=
  match v with
  | .table entries =>
    entries.foldlM (fun c (k, v) =>
      match settings.find? (·.1 == k) with
      | some (_, put) => put v c
      | none => .ok c) c
  | .array items =>
    (settings.zip items).foldlM (fun c ((_, put), v) => put v c) c
  | _ => .error (.wrongType name "a table")

def ofToml (doc : List (String × Toml.Value)) : Except Mismatch Config :=
  doc.foldlM (fun c (k, v) =>
    match tables.find? (·.1 == k) with
    | some (name, settings) => applyTable name settings v c
    | none => .ok c) {}

def ofText (s : String) : Option Config :=
  match Toml.read s with
  | .error _ => none
  | .ok doc =>
    match ofToml doc with
    | .ok c => some c
    | .error _ => none

/-- The settings of a directory of a file tree: those of its settings file when it can be used,
else the defaults. -/
def load (t : FileTree) (dir : List String) : Config :=
  match t.read (dir ++ [fileName]) with
  | .error _ => {}
  | .ok bytes =>
    match String.fromUTF8? bytes with
    | none => {}
    | some s => (ofText s).getD {}

def project (c : Config) : String := c.projectName.getD defaultProject

def scanOptions (c : Config) : ScanOptions :=
  { ignorePatterns := c.ignore, respectGitignore := c.respectGitignore }

def workers (c : Config) : Option Nat := c.threads.filter (· > 0)

def semantic (c : Config) (t : FileTree) (cwd : List String) : Option SemanticCommand :=
  let found := match c.semanticCommand with
    | some cmd => if cmd.isEmpty then none else some { command := cmd }
    | none => none
  let found := match found with
    | some s => some s
    | none => if c.autoDiscover then SemanticCommand.discover t cwd else none
  found.map fun s => match c.timeoutSecs with
    | some secs => s.withTimeout secs
    | none => s

def patchLimit (c : Config) : Nat := c.maxPatchChars.getD defaultPatchLimit

end Config

end CodeGraph
