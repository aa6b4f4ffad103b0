import CodeGraph.KeyMap

/-!
# File trees

The files a project is read from, as a value: nodes at `/`-separated paths, each a file with its
bytes, an unreadable file, a symbolic link or a directory. Looking a path up follows links on the
way, and on the last component when asked; after forty links it gives up.
-/

namespace CodeGraph

inductive FileNode where
  | file (bytes : ByteArray)
  | unreadable
  | link (target : String)
  | dir
  deriving Inhabited

inductive IoError where
  | notFound
  | readFailure
  | tooManyLinks
  | isDirectory
  | notDirectory
  deriving DecidableEq, Inhabited, Repr

def IoError.message : IoError → String
  | .notFound => "No such file or directory (os error 2)"
  | .readFailure => "Input/output error (os error 5)"
  | .tooManyLinks => "Too many levels of symbolic links (os error 40)"
  | .isDirectory => "Is a directory (os error 21)"
  | .notDirectory => "Not a directory (os error 20)"

/-- A tree of files: nodes by the text of their path. -/
structure FileTree where
  nodes : KeyMap FileNode := KeyMap.empty
  deriving Inhabited

inductive FileKind where
  | file (bytes : ByteArray)
  | unreadable
  | dir
  deriving Inhabited

namespace FileTree

def components (path : String) : List String := (path.toList.splitOn '/').map String.ofList

def pathText (cs : List String) : String := "/".intercalate cs

def put (t : FileTree) (path : String) (n : FileNode) : FileTree :=
  ⟨t.nodes.insert path n⟩

def below (pre cs : List String) : Bool :=
  pre.length < cs.length && pre.isPrefixOf cs

def nodeAt (t : FileTree) (cs : List String) : Option FileNode :=
  match t.nodes.get? (pathText cs) with
  | some n => some n
  | none =>
    if t.nodes.keys.any fun k => below cs (components k) then some .dir else none

def childNames (t : FileTree) (cs : List String) : List String :=
  let names := t.nodes.keys.filterMap fun k =>
    let kc := components k
    if below cs kc then kc[cs.length]? else none
  names.foldl (fun acc n => if acc.contains n then acc else acc ++ [n]) []
    |>.mergeSort (fun a b => decide (a ≤ b))

def linkLimit : Nat := 40

/-- Walk the components `rest` from the directory `here`, following links, the last one only when
`followLast`; `hops` links may still be followed. Gives the path reached, links resolved. -/
def walk (t : FileTree) (followLast : Bool) :
    Nat → List String → List String → Except IoError (List String)
  | _, here, [] => .ok here
  | hops, here, c :: rest =>
    if c == "." || (c == "" && !here.isEmpty) then walk t followLast hops here rest
    else if c == ".." then walk t followLast hops here.dropLast rest
    else
      let next := here ++ [c]
      match t.nodeAt next with
      | none => .error .notFound
      | some (.link target) =>
        if rest.isEmpty && !followLast then .ok next
        else
          match hops with
          | 0 => .error .tooManyLinks
          | h + 1 =>
            let start := if target.startsWith "/" then [] else here
            walk t followLast h start (components target ++ rest)
      | some .dir => walk t followLast hops next rest
      | some _ => if rest.isEmpty then .ok next else .error .notDirectory
termination_by hops _ rest => (hops, rest.length)

def resolve (t : FileTree) (cs : List String) : Except IoError (List String) :=
  walk t true linkLimit [] cs

def kindAt (t : FileTree) (cs : List String) : Except IoError FileKind := do
  let p ← t.resolve cs
  match t.nodeAt p with
  | some (.file bytes) => pure (.file bytes)
  | some .unreadable => pure .unreadable
  | some .dir => pure .dir
  | some (.link _) => .error .tooManyLinks
  | none => .error .notFound

def exists? (t : FileTree) (cs : List String) : Bool :=
  match t.kindAt cs with
  | .ok _ => true
  | .error _ => false

/-- The bytes of a file. -/
def read (t : FileTree) (cs : List String) : Except IoError ByteArray := do
  match ← t.kindAt cs with
  | .file bytes => pure bytes
  | .unreadable => .error .readFailure
  | .dir => .error .isDirectory

def size (t : FileTree) (cs : List String) : Except IoError Nat := do
  match ← t.kindAt cs with
  | .file bytes => pure bytes.size
  | .unreadable => pure 0
  | .dir => pure 4096

def writeWithin (t : FileTree) (bytes : ByteArray) : Nat → List String → Except IoError FileTree
  | 0, _ => .error .tooManyLinks
  | hops + 1, cs => do
    let dir ← t.resolve cs.dropLast
    match t.nodeAt dir with
    | some .dir => pure ()
    | some _ => throw .notDirectory
    | none => throw .notFound
    match cs.getLast? with
    | none => throw .isDirectory
    | some name =>
      if name == "" || name == "." || name == ".." then throw .isDirectory
      else
        let path := dir ++ [name]
        match t.nodeAt path with
        | some .dir => throw .isDirectory
        | some (.link target) =>
          let next := if target.startsWith "/" then components target else dir ++ components target
          writeWithin t bytes hops next
        | _ => pure (t.put (pathText path) (.file bytes))

def write (t : FileTree) (cs : List String) (bytes : ByteArray) : Except IoError FileTree :=
  writeWithin t bytes (linkLimit + 1) cs

end FileTree

end CodeGraph
