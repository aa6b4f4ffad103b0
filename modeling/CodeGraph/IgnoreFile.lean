import CodeGraph.Glob
import CodeGraph.Text.Blank

/-!
# Ignore files

One glob per line names paths below the file's directory to leave out; `#` starts a comment,
`!` re-includes, a leading `/` anchors and a trailing `/` names only directories. Of the lines
that match a path the last decides, and nothing below a left-out directory is re-included.
-/

namespace CodeGraph

structure IgnoreRule where
  tokens : List Glob.Token
  includes : Bool
  dirOnly : Bool
  deriving Inhabited, Repr

inductive Verdict where
  | unmatched
  | ignored
  | included
  deriving DecidableEq, Inhabited, Repr

def Verdict.orElse : Verdict → Verdict → Verdict
  | .unmatched, v => v
  | v, _ => v

namespace IgnoreRule

def anyDepth (glob : String) : Bool := glob.startsWith "**/" || glob == "**"

def ofLine (openClass : Bool) (line : String) : Option IgnoreRule := do
  if line.startsWith "#" then none
  let line := if line.endsWith "\\ " then line else Text.trimEnd line
  if line.isEmpty then none
  let (includes, anchored, body) :=
    match line.toList with
    | '\\' :: '!' :: rest => (false, false, '!' :: rest)
    | '\\' :: '#' :: rest => (false, false, '#' :: rest)
    | '!' :: '/' :: rest => (true, true, rest)
    | '!' :: rest => (true, false, rest)
    | '/' :: rest => (false, true, rest)
    | cs => (false, false, cs)
  let (dirOnly, body) :=
    match body.reverse with
    | '/' :: '\\' :: rest => (true, rest.reverse)
    | '/' :: rest => (true, rest.reverse)
    | _ => (false, body)
  let glob := String.ofList body
  let glob := if !anchored && !body.contains '/' && !anyDepth glob then "**/" ++ glob else glob
  let glob := if glob.endsWith "/**" then glob ++ "/*" else glob
  match Glob.parse openClass glob with
  | .ok tokens => some ⟨tokens, includes, dirOnly⟩
  | .error _ => none

end IgnoreRule

/-- The rules of one ignore file, and the directory whose paths they are read against. -/
structure IgnoreRules where
  base : List String
  rules : List IgnoreRule
  deriving Inhabited, Repr

namespace IgnoreRules

def lines (bytes : ByteArray) : List String :=
  let raw := bytes.toList.splitOn 10
  let raw := if bytes.toList.getLast? == some 10 then raw.dropLast else raw
  let rec go : List (List UInt8) → List String
    | [] => []
    | l :: rest =>
      let l := if l.getLast? == some 13 then l.dropLast else l
      match String.fromUTF8? ⟨l.toArray⟩ with
      | some s => s :: go rest
      | none => []
  match go raw with
  | first :: rest => String.ofList (first.toList.dropWhile (· == '\uFEFF')) :: rest
  | [] => []

def ofBytes (base : List String) (bytes : ByteArray) : IgnoreRules :=
  ⟨base, (lines bytes).filterMap (IgnoreRule.ofLine true)⟩

/-- What the rules say of a path below their directory: the last matching line decides, a line
for directories only passing over anything else. -/
def verdict (rs : IgnoreRules) (path : List String) (isDir : Bool) : Verdict :=
  let rel := "/".intercalate (path.drop rs.base.length)
  let hit := rs.rules.reverse.find? fun r => (!r.dirOnly || isDir) && Glob.accepts r.tokens rel
  match hit with
  | some r => if r.includes then .included else .ignored
  | none => .unmatched

end IgnoreRules

end CodeGraph
