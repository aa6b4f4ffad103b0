import CodeGraph.FileTree
import CodeGraph.IgnoreFile
import CodeGraph.Failure
import CodeGraph.Hash.Xxh3
import CodeGraph.Text.Case
import CodeGraph.Json.Decode

/-!
# Scanning a source tree

A scan walks a root and lists its source files, sorted by path relative to the root, with size,
hash and line count; other extensions are counted as skipped and unreadable files as errors. The
walk leaves out what the scan's patterns and the ignore files of each directory name, and follows
symbolic links only when asked.
-/

namespace CodeGraph

structure ScanOptions where
  extensions : List String := ["java"]
  ignorePatterns : List String := []
  followLinks : Bool := false
  respectGitignore : Bool := true
  computeHashes : Bool := true
  countLines : Bool := false
  deriving Inhabited, Repr

/-- A listed file: its path relative to the root, its size in bytes, its hash when asked for and
its number of line feeds when asked for, as a 32-bit count that wraps around. -/
structure ScannedFile where
  path : String
  size : Nat
  hash : Option String
  lines : UInt32
  deriving Inhabited, Repr

structure ScanResult where
  files : List ScannedFile
  skipped : Nat
  errors : Nat
  deriving Inhabited, Repr

structure DirRules where
  custom : IgnoreRules
  plain : IgnoreRules
  git : IgnoreRules
  exclude : IgnoreRules
  deriving Inhabited

namespace DirRules

def load (t : FileTree) (dir : List String) (name : List String) : IgnoreRules :=
  match t.read (dir ++ name) with
  | .ok bytes => IgnoreRules.ofBytes dir bytes
  | .error _ => ⟨dir, []⟩

def read (t : FileTree) (opts : ScanOptions) (dir : List String) : DirRules :=
  ⟨load t dir [".sgignore"], load t dir [".ignore"],
   if opts.respectGitignore then load t dir [".gitignore"] else ⟨dir, []⟩,
   if opts.respectGitignore then load t dir [".git", "info", "exclude"] else ⟨dir, []⟩⟩

end DirRules

structure WalkRules where
  overrides : IgnoreRules
  dirs : List DirRules
  deriving Inhabited

namespace WalkRules

def firstOf (dirs : List DirRules) (kind : DirRules → IgnoreRules) (path : List String)
    (isDir : Bool) : Verdict :=
  dirs.foldl (fun acc d => acc.orElse ((kind d).verdict path isDir)) .unmatched

def leavesOut (w : WalkRules) (path : List String) (isDir : Bool) : Bool :=
  if w.overrides.verdict path isDir != .unmatched then true
  else
    let v := (firstOf w.dirs DirRules.custom path isDir).orElse
      ((firstOf w.dirs DirRules.plain path isDir).orElse
      ((firstOf w.dirs DirRules.git path isDir).orElse
      (firstOf w.dirs DirRules.exclude path isDir)))
    v == .ignored

def enter (w : WalkRules) (t : FileTree) (opts : ScanOptions) (dir : List String) : WalkRules :=
  { w with dirs := DirRules.read t opts dir :: w.dirs }

end WalkRules

namespace Scan

def reach (t : FileTree) (opts : ScanOptions) : Nat → WalkRules → List (List String) →
    List String → List (List String)
  | 0, _, _, _ => []
  | depth + 1, w, opened, dir =>
    (t.childNames dir).flatMap fun name =>
      let path := dir ++ [name]
      let intoDir (target : List String) : List (List String) :=
        if w.leavesOut path true then []
        else reach t opts depth (w.enter t opts path) (target :: opened) path
      let asFile : List (List String) := if w.leavesOut path false then [] else [path]
      match t.nodeAt path with
      | some (.link _) =>
        if !opts.followLinks then []
        else
          match t.resolve path with
          | .error _ => []
          | .ok target =>
            match t.nodeAt target with
            | some .dir => if opened.contains target then [] else intoDir target
            | some (.file _) | some .unreadable => asFile
            | _ => []
      | some .dir => intoDir path
      | some _ => asFile
      | none => []

def extension (name : String) : Option String :=
  match (name.toList.splitOn '.').reverse with
  | after :: before :: more =>
    if more.isEmpty && before.isEmpty then none else some (String.ofList after)
  | _ => none

def lineCount (bytes : ByteArray) : Nat :=
  bytes.foldl (fun n b => if b == 10 then n + 1 else n) 0

def above (path : List String) : List (List String) :=
  (List.range path.length).reverse.map fun k => path.take k

def wanted (opts : ScanOptions) : List String :=
  opts.extensions.map fun e => Text.toLower (String.ofList (e.toList.dropWhile (· == '.')))

def keeps (wanted : List String) (name : String) : Bool :=
  match extension name with
  | some ext => wanted.isEmpty || wanted.contains (Text.toLower ext)
  | none => false

inductive Outcome where
  | listed (file : ScannedFile)
  | skipped
  | failed

namespace Outcome

def file? : Outcome → Option ScannedFile
  | listed f => some f
  | _ => none

def isSkipped : Outcome → Bool
  | skipped => true
  | _ => false

def isFailed : Outcome → Bool
  | failed => true
  | _ => false

end Outcome

/-- Look at one path the walk reached below `start`. The file is read for its hash when hashes
are asked for, and read again for its line feeds when those are; a file that cannot be read
then has none. -/
def visit (t : FileTree) (start : List String) (opts : ScanOptions) (path : List String) :
    Outcome :=
  if !keeps (wanted opts) (path.getLast?.getD "") then .skipped
  else
    match t.size path with
    | .error _ => .failed
    | .ok size =>
      let hash : Option (Option String) :=
        if opts.computeHashes then
          match t.read path with
          | .ok bytes => some (some (Hash.contentHash bytes))
          | .error _ => none
        else some none
      match hash with
      | none => .failed
      | some h =>
        let lines := if opts.countLines then
            match t.read path with
            | .ok bytes => (lineCount bytes).toUInt32
            | .error _ => 0
          else 0
        .listed ⟨FileTree.pathText (path.drop start.length), size, h, lines⟩

def collect (t : FileTree) (start : List String) (opts : ScanOptions)
    (paths : List (List String)) : ScanResult :=
  let outcomes := paths.map (visit t start opts)
  ⟨(outcomes.filterMap Outcome.file?).mergeSort (fun a b => decide (a.path ≤ b.path)),
    outcomes.countP Outcome.isSkipped, outcomes.countP Outcome.isFailed⟩

end Scan

/-- Scan the tree below `root`. -/
def scan (t : FileTree) (root : List String) (opts : ScanOptions) : Except Failure ScanResult := do
  let start ← match t.resolve root with
    | .ok p => if t.exists? p then pure p else .error (Failure.rootNotFound (FileTree.pathText root))
    | .error _ => .error (Failure.rootNotFound (FileTree.pathText root))
  let overrides : IgnoreRules :=
    ⟨start, opts.ignorePatterns.filterMap fun p => IgnoreRule.ofLine false ("!" ++ p)⟩
  let parents := (Scan.above start).map (DirRules.read t opts)
  let rules : WalkRules := ⟨overrides, DirRules.read t opts start :: parents⟩
  let depth := t.nodes.keys.foldl (fun n k => n + (FileTree.components k).length) 0 + 1
  return Scan.collect t start opts (Scan.reach t opts depth rules [start] start)

def ScanOptions.decoder : Json.Decoder ScanOptions :=
  Json.Decoder.record "ScanOptions" {}
    [Json.Field.mk' ["extensions"] .defaulted (Json.Decoder.list Json.Decoder.string)
       fun v o => { o with extensions := v },
     Json.Field.mk' ["ignore_patterns"] .defaulted (Json.Decoder.list Json.Decoder.string)
       fun v o => { o with ignorePatterns := v },
     Json.Field.mk' ["follow_symlinks"] .defaulted Json.Decoder.bool
       fun v o => { o with followLinks := v },
     Json.Field.mk' ["respect_gitignore"] .defaulted Json.Decoder.bool
       fun v o => { o with respectGitignore := v },
     Json.Field.mk' ["compute_hashes"] .defaulted Json.Decoder.bool
       fun v o => { o with computeHashes := v },
     Json.Field.mk' ["count_lines"] .defaulted Json.Decoder.bool
       fun v o => { o with countLines := v }]

def ScanOptions.toJson (o : ScanOptions) : Json.Value :=
  .obj [("extensions", .arr (o.extensions.map .str)),
    ("ignore_patterns", .arr (o.ignorePatterns.map .str)), ("follow_symlinks", .bool o.followLinks),
    ("respect_gitignore", .bool o.respectGitignore), ("compute_hashes", .bool o.computeHashes),
    ("count_lines", .bool o.countLines)]

end CodeGraph
