import CodeGraph.Cli

/-!
# The program's entry point

`main` runs a command line in a workspace read from the disk: the settings file of the working
directory and every path that an argument names, each read as it stands. A path that holds a
directory reads as a directory without entries, since a run lists no directories; a path that
cannot be read is left out. The run prints what the command printed, writes back every file the
command wrote, and exits with the command's status. It starts no program, so a semantic backend
never starts, and the records it writes carry the epoch as their time stamp.
-/

namespace CodeGraph.Cli

def namedPaths (arg : String) : List String :=
  if arg.startsWith "--" then
    match arg.splitOn "=" with
    | _ :: value :: more => ["=".intercalate (value :: more)]
    | _ => []
  else if arg.startsWith "-" then []
  else [arg]

def onDisk (cwd : List String) (path : String) : String :=
  if path.startsWith "/" then path else FileTree.pathText (cwd ++ FileTree.components path)

def written (before after : FileTree) : List (String × ByteArray) :=
  after.nodes.entries.filterMap fun (path, n) =>
    match n with
    | .file bytes =>
      match before.nodes.get? path with
      | some (.file old) => if old.data == bytes.data then none else some (path, bytes)
      | _ => some (path, bytes)
    | _ => none

def parentOf (path : String) : String :=
  FileTree.pathText (FileTree.components path).dropLast

def noPrograms : FileTree → Launcher := fun _ _ => .error .notFound

def epoch : String := "1970-01-01T00:00:00+00:00"

end CodeGraph.Cli

open CodeGraph CodeGraph.Cli

def readInto (t : FileTree) (path : String) : IO FileTree := do
  try
    let bytes ← IO.FS.readBinFile path
    return t.put path (.file bytes)
  catch
    | .inappropriateType _ 21 _ => return t.put path .dir
    | _ => return t

/-- Run the command line. -/
def main (args : List String) : IO UInt32 := do
  let cwdText := (← IO.getEnv "PWD").getD "/"
  let cwd := FileTree.components (if cwdText.endsWith "/" then cwdText.dropEnd 1 |>.toString else cwdText)
  let paths := (Config.fileName :: args.flatMap namedPaths).map (onDisk cwd)
  let mut tree : FileTree := {}
  for p in paths do
    tree ← readInto tree p
  let w : Workspace := { tree, cwd, hosts := noPrograms, clock := epoch }
  let e := invoke w args
  IO.print e.stdout
  IO.eprint e.stderr
  for (path, bytes) in written tree e.workspace.tree do
    IO.FS.createDirAll (parentOf path)
    IO.FS.writeBinFile path bytes
  return e.code.toUInt32
