import CodeGraph.Text.Blank

/-!
# The text of Java types

Declared types are kept as written. `stripArguments` drops balanced `<...>` groups, `erase` is
the form a signature uses (arguments, annotations and blanks dropped) and `simpleName` is the
last dotted segment.
-/

namespace CodeGraph.Java

def stripFrom : Nat → List Char → List Char
  | _, [] => []
  | d, '<' :: cs => stripFrom (d + 1) cs
  | d + 1, '>' :: cs => stripFrom d cs
  | 0, c :: cs => c :: stripFrom 0 cs
  | d + 1, _ :: cs => stripFrom (d + 1) cs

def stripArguments (s : String) : String :=
  String.ofList (stripFrom 0 s.toList)

mutual

def dropAnnotations : List String → List String
  | [] => []
  | w :: ws =>
    match w.toList with
    | '@' :: rest =>
      if rest.contains '(' && !rest.contains ')' then dropArguments ws else dropAnnotations ws
    | _ => w :: dropAnnotations ws

def dropArguments : List String → List String
  | [] => []
  | w :: ws => if w.toList.contains ')' then dropAnnotations ws else dropArguments ws

end

/-- The erased form of a type text: type arguments and annotations dropped and the remaining
words run together; `?` when nothing is left. -/
def erase (s : String) : String :=
  let out := String.join (dropAnnotations (Text.wordsOf (stripArguments s)))
  if out.isEmpty then "?" else out

def dropSuffixes (suffix : List Char) (cs : List Char) : List Char :=
  let rec go : Nat → List Char → List Char
    | 0, xs => xs
    | n + 1, xs =>
      if !suffix.isEmpty && suffix.isSuffixOf xs then go n (xs.take (xs.length - suffix.length)) else xs
  go cs.length cs

def simpleName (s : String) : Option String :=
  let base := (Text.trim (stripArguments s)).toList
  let base := dropSuffixes ['.', '.', '.'] base
  let base := (base.reverse.dropWhile fun c => c == '[' || c == ']' || Text.isBlank c).reverse
  let last := (base.splitOn '.').getLast?.getD []
  let simple := Text.trim (String.ofList last)
  if simple.isEmpty || simple == "?" then none else some simple

def qualify (package : String) (outer : Option String) (name : String) : String :=
  match outer with
  | some o => o ++ "$" ++ name
  | none => if package.isEmpty then name else package ++ "." ++ name

def methodSignature (name : String) (params : List String) : String :=
  name ++ "(" ++ ",".intercalate params ++ ")"

end CodeGraph.Java
