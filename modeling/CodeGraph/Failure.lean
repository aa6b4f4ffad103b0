/-!
# Why an operation on a code base fails

Reading a project, calling the semantic reader, writing patches and looking up stored snapshots
fail for the causes below; each has one message. A file the grammar refuses never stops a
project from being read: it is salvaged and counted instead.
-/

namespace CodeGraph

/-- The causes of failure. -/
inductive Failure where
  | rootNotFound (path : String)
  | fileParse (path message : String)
  | backendInvocation (status stderr : String)
  | backendOutput (message : String)
  | backendTimeout (seconds : Nat)
  | patchGeneration (path message : String)
  | repoNotFound (project repo : String)
  | cancelled
  | io (message : String)
  | json (message : String)
  deriving DecidableEq, Inhabited, Repr

namespace Failure

def message : Failure → String
  | .rootNotFound path => "Path does not exist: " ++ path
  | .fileParse path message => "Failed to parse " ++ path ++ ": " ++ message
  | .backendInvocation status stderr => "Semantic backend failed (" ++ status ++ "): " ++ stderr
  | .backendOutput message => "Semantic backend returned malformed output: " ++ message
  | .backendTimeout seconds => "Semantic backend timed out after " ++ toString seconds ++ "s"
  | .patchGeneration path message => "Patch generation failed for " ++ path ++ ": " ++ message
  | .repoNotFound project repo =>
    "No graph stored for project " ++ "'" ++ project ++ "', repo '" ++ repo ++ "'"
  | .cancelled => "Extraction cancelled"
  | .io message => "IO error: " ++ message
  | .json message => "JSON error: " ++ message

def chain : Failure → List String
  | f@(.io m) => [f.message, m]
  | f@(.json m) => [f.message, m]
  | f => [f.message]

def isBackendFailure : Failure → Bool
  | .backendInvocation _ _ | .backendOutput _ | .backendTimeout _ => true
  | _ => false

end Failure

end CodeGraph
