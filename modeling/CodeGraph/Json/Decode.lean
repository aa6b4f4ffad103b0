import CodeGraph.Json.Node

/-!
# Decoding nodes into typed values

A `Decoder α` turns a node into an `α` or an error, placed in the document when the node came
from text. Records are read from an object, fields by name in any order, or from an array, fields
in order; a field is required, optional or defaulted.
-/

namespace CodeGraph.Json

/-- Where the nodes come from: the bytes of a document, or nothing for a value without text. -/
structure Source where
  text : Option ByteArray
  deriving Inhabited

def Source.bare : Source := ⟨none⟩

def Source.placeAt (src : Source) (i : Nat) : Option (Nat × Nat) :=
  src.text.map fun t => placeOf t i

def Source.fix (src : Source) (i : Nat) (e : Error) : Error :=
  match e.place with
  | some _ => e
  | none => { e with place := src.placeAt i }

def Source.at? (src : Source) (i : Nat) : Option UInt8 :=
  src.text.bind fun t => Read.at? t i

def Source.skipBlank (src : Source) (i : Nat) : Nat :=
  match src.text with
  | some t => Read.skipBlank t i
  | none => i

def Source.afterItem (src : Source) (stop : Nat) : Nat :=
  let j := src.skipBlank stop
  match src.at? j with
  | some 93 => j + 1
  | some 44 => src.skipBlank (j + 1)
  | _ => j

def Source.afterEntry (src : Source) (stop : Nat) : Nat :=
  let j := src.skipBlank stop
  match src.at? j with
  | some 125 => j + 1
  | _ => j

/-- A way to read one value from a node. -/
abbrev Decoder (α : Type) := Source → Node → Except Error α

namespace Node

def start : Node → Nat
  | .null s _ | .bool _ s _ | .num _ s _ | .str _ s _ | .arr s _ _ | .obj s _ _ => s
  | .broken _ => 0

def stop : Node → Nat
  | .null _ e | .bool _ _ e | .num _ _ e | .str _ _ e => e
  | .arr s _ t | .obj s _ t =>
    match t with
    | .ok c => c + 1
    | .error _ => s
  | .broken _ => 0

def unexpected : Node → Unexpected
  | .null _ _ => .null
  | .bool b _ _ => .bool b
  | .num (.ok (.unsigned n)) _ _ => .unsigned n
  | .num (.ok (.signed n)) _ _ => .signed n
  | .num (.ok (.float f)) _ _ => .float f
  | .str (.ok s) _ _ => .str s
  | .arr _ _ _ => .seq
  | _ => .map

mutual

def skip : Node → Except Error Unit
  | .broken b => .error b.skipped
  | .arr _ items tail => do skipItems items; match tail with | .ok _ => pure () | .error b => .error b.skipped
  | .obj _ entries tail => do skipEntries entries; match tail with | .ok _ => pure () | .error b => .error b.skipped
  | _ => pure ()

def skipItems : List Node → Except Error Unit
  | [] => pure ()
  | n :: rest => do skip n; skipItems rest

def skipEntries : List (Except Error String × Nat × Node) → Except Error Unit
  | [] => pure ()
  | (_, _, n) :: rest => do skip n; skipEntries rest

end

mutual

def content : Node → Except Error Value
  | .null _ _ => .ok .null
  | .bool b _ _ => .ok (.bool b)
  | .num n _ _ => n.map Value.num
  | .str s _ _ => s.map Value.str
  | .arr _ items tail => do
    let xs ← contentItems items
    match tail with
    | .ok _ => pure (.arr xs)
    | .error b => .error b.kept
  | .obj _ entries tail => do
    let fs ← contentEntries entries
    match tail with
    | .ok _ => pure (.obj fs)
    | .error b => .error b.kept
  | .broken b => .error b.kept

def contentItems : List Node → Except Error (List Value)
  | [] => pure []
  | n :: rest => do
    let v ← content n
    let vs ← contentItems rest
    pure (v :: vs)

def contentEntries : List (Except Error String × Nat × Node) → Except Error (List (String × Value))
  | [] => pure []
  | (k, _, n) :: rest => do
    let key ← k
    let v ← content n
    let vs ← contentEntries rest
    pure ((key, v) :: vs)

end

mutual

def ofValue : Value → Node
  | .null => .null 0 0
  | .bool b => .bool b 0 0
  | .num n => .num (.ok n) 0 0
  | .str s => .str (.ok s) 0 0
  | .arr xs => .arr 0 (ofValues xs) (.ok 0)
  | .obj fs => .obj 0 (ofFields fs) (.ok 0)

def ofValues : List Value → List Node
  | [] => []
  | v :: rest => ofValue v :: ofValues rest

def ofFields : List (String × Value) → List (Except Error String × Nat × Node)
  | [] => []
  | (k, v) :: rest => (.ok k, 0, ofValue v) :: ofFields rest

end

end Node

namespace Decoder

def mismatch (src : Source) (n : Node) (expected : String) : Error :=
  match n with
  | .broken b => b.kept
  | .num (.error e) _ _ => e
  | .str (.error e) _ _ => e
  | .arr s _ _ | .obj s _ _ => src.fix s (Error.invalidType n.unexpected expected)
  | _ => src.fix n.stop (Error.invalidType n.unexpected expected)

def string : Decoder String := fun src n =>
  match n with
  | .str (.ok s) _ _ => .ok s
  | _ => .error (mismatch src n "a string")

def bool : Decoder Bool := fun src n =>
  match n with
  | .bool b _ _ => .ok b
  | _ => .error (mismatch src n "a boolean")

def natBelow (bound : Nat) (expected : String) : Decoder Nat := fun src n =>
  match n with
  | .num (.ok (.unsigned v)) _ stop =>
    if v ≤ bound then .ok v else .error (src.fix stop (Error.invalidValue (.unsigned v) expected))
  | .num (.ok (.signed v)) _ stop => .error (src.fix stop (Error.invalidValue (.signed v) expected))
  | _ => .error (mismatch src n expected)

def u32 : Decoder Nat := natBelow 4294967295 "u32"

def u64 : Decoder Nat := natBelow 18446744073709551615 "u64"

def usize : Decoder Nat := natBelow 18446744073709551615 "usize"

def f64 : Decoder Float := fun src n =>
  match n with
  | .num (.ok (.unsigned v)) _ _ => .ok (UInt64.ofNat v).toFloat
  | .num (.ok (.signed v)) _ _ => .ok (-(UInt64.ofNat v.natAbs).toFloat)
  | .num (.ok (.float f)) _ _ => .ok f
  | _ => .error (mismatch src n "f64")

def number : Decoder Number := fun src n =>
  match n with
  | .num (.ok v) _ _ => .ok v
  | _ => .error (mismatch src n "a number")

def any : Decoder Value := fun _ n => n.content

def option (d : Decoder α) : Decoder (Option α) := fun src n =>
  match n with
  | .null _ _ => .ok none
  | _ => (d src n).map some

def itemsWith (d : Decoder α) (src : Source) : List Node → Except Error (List α)
  | [] => .ok []
  | n :: rest =>
    match d src n with
    | .error e => .error (src.fix (src.afterItem n.stop) e)
    | .ok x => (itemsWith d src rest).map (x :: ·)

def list (d : Decoder α) : Decoder (List α) := fun src n =>
  match n with
  | .arr _ items tail => do
    let xs ← itemsWith d src items
    match tail with
    | .ok _ => pure xs
    | .error b => .error b.kept
  | _ => .error (mismatch src n "a sequence")

def insertKey (k : String) (v : α) : List (String × α) → List (String × α)
  | [] => [(k, v)]
  | (k', v') :: rest =>
    if k == k' then (k, v) :: rest
    else if k < k' then (k, v) :: (k', v') :: rest
    else (k', v') :: insertKey k v rest

def entriesWith (d : Decoder α) (src : Source) (acc : List (String × α)) :
    List (Except Error String × Nat × Node) → Except Error (List (String × α))
  | [] => .ok acc
  | (k, _, n) :: rest =>
    match k with
    | .error e => .error e
    | .ok key =>
      match d src n with
      | .error e => .error (src.fix (src.afterEntry n.stop) e)
      | .ok x => entriesWith d src (insertKey key x acc) rest

def map (d : Decoder α) : Decoder (List (String × α)) := fun src n =>
  match n with
  | .obj _ entries tail => do
    let m ← entriesWith d src [] entries
    match tail with
    | .ok _ => pure m
    | .error b => .error b.kept
  | _ => .error (mismatch src n "a map")

def extraItems (src : Source) (count : Nat) (stop : Nat) : Error :=
  match src.text with
  | none => Error.invalidLength count "fewer elements in array"
  | some t =>
    let j := Read.skipBlank t stop
    let k := Read.skipBlank t (j + 1)
    match Read.at? t k with
    | some 93 => Read.faultAhead t .trailingComma k
    | _ => Read.faultAhead t .trailingCharacters k

def pair (d1 : Decoder α) (d2 : Decoder β) : Decoder (α × β) := fun src n =>
  let expected := "a tuple of size 2"
  match n with
  | .arr s items tail =>
    let close := match tail with | .ok c => c + 1 | .error _ => s
    match items with
    | [] =>
      match tail with
      | .ok _ => .error (src.fix close (Error.invalidLength 0 expected))
      | .error b => .error b.kept
    | [a] => do
      let _ ← (d1 src a).mapError (src.fix (src.afterItem a.stop))
      match tail with
      | .ok _ => .error (src.fix close (Error.invalidLength 1 expected))
      | .error b => .error b.kept
    | a :: b :: rest => do
      let x ← (d1 src a).mapError (src.fix (src.afterItem a.stop))
      let y ← (d2 src b).mapError (src.fix (src.afterItem b.stop))
      if rest.isEmpty then
        match tail with
        | .ok _ => pure (x, y)
        | .error br => .error br.kept
      else .error (extraItems src (rest.length + 2) b.stop)
  | _ => .error (mismatch src n expected)

def triple (d1 : Decoder α) (d2 : Decoder β) (d3 : Decoder γ) : Decoder (α × β × γ) := fun src n =>
  let expected := "a tuple of size 3"
  match n with
  | .arr s items tail =>
    let close := match tail with | .ok c => c + 1 | .error _ => s
    let short (count : Nat) : Except Error (α × β × γ) :=
      match tail with
      | .ok _ => .error (src.fix close (Error.invalidLength count expected))
      | .error b => .error b.kept
    match items with
    | [] => short 0
    | [a] => do
      let _ ← (d1 src a).mapError (src.fix (src.afterItem a.stop))
      short 1
    | [a, b] => do
      let _ ← (d1 src a).mapError (src.fix (src.afterItem a.stop))
      let _ ← (d2 src b).mapError (src.fix (src.afterItem b.stop))
      short 2
    | a :: b :: c :: rest => do
      let x ← (d1 src a).mapError (src.fix (src.afterItem a.stop))
      let y ← (d2 src b).mapError (src.fix (src.afterItem b.stop))
      let z ← (d3 src c).mapError (src.fix (src.afterItem c.stop))
      if rest.isEmpty then
        match tail with
        | .ok _ => pure (x, y, z)
        | .error br => .error br.kept
      else .error (extraItems src (rest.length + 3) c.stop)
  | _ => .error (mismatch src n expected)

def oneOf (variants : List (String × α)) : Decoder α := fun src n =>
  let names := variants.map (·.1)
  let pick (s : String) : Except Error α :=
    match variants.find? (·.1 == s) with
    | some (_, v) => .ok v
    | none => .error (Error.unknownVariant s names)
  match n with
  | .str (.ok s) _ stop => (pick s).mapError (src.fix stop)
  | .str (.error e) _ _ => .error e
  | .broken b => .error b.kept
  | .obj _ [(.ok k, keyStop, .null _ _)] (.ok _) => (pick k).mapError (src.fix keyStop)
  | .obj _ [(.error e, _, _)] _ => .error e
  | _ =>
    match src.text with
    | some t => .error (Read.faultAhead t .expectedValue n.start)
    | none =>
      match n with
      | .obj _ _ _ => .error (Error.invalidValue .map "map with a single key")
      | _ => .error (Error.invalidType n.unexpected "string or map")

def firstOf (enumName : String) (forms : List (Decoder α)) : Decoder α := fun _ n => do
  let v ← n.content
  let node := Node.ofValue v
  let rec go : List (Decoder α) → Except Error α
    | [] => .error (Error.noVariant enumName)
    | d :: ds =>
      match d Source.bare node with
      | .ok x => .ok x
      | .error _ => go ds
  go forms

def map' (f : α → β) (d : Decoder α) : Decoder β := fun src n => (d src n).map f

end Decoder

inductive Need where
  | required
  | optional
  | defaulted
  deriving BEq, Inhabited

structure Field (α : Type) where
  names : List String
  need : Need
  read : Decoder (α → α)

namespace Field

def name (f : Field α) : String := f.names.headD ""

def mk' (names : List String) (need : Need) (d : Decoder β) (set : β → α → α) : Field α :=
  ⟨names, need, fun src n => (d src n).map set⟩

end Field

namespace Decoder

def fieldIndex (fields : List (Field α)) (key : String) : Option Nat :=
  fields.findIdx? (fun f => f.names.contains key)

def recordEntries (src : Source) (fields : List (Field α)) (acc : α) (seen : List Nat) :
    List (Except Error String × Nat × Node) → Except Error (α × List Nat)
  | [] => .ok (acc, seen)
  | (k, keyStop, n) :: rest =>
    match k with
    | .error e => .error e
    | .ok key =>
      match fieldIndex fields key with
      | none =>
        match n.skip with
        | .error e => .error e
        | .ok () => recordEntries src fields acc seen rest
      | some i =>
        match fields[i]? with
        | none => recordEntries src fields acc seen rest
        | some f =>
          if seen.contains i then .error (src.fix (src.afterEntry keyStop) (Error.duplicateField f.name))
          else
            match f.read src n with
            | .error e => .error (src.fix (src.afterEntry n.stop) e)
            | .ok set => recordEntries src fields (set acc) (i :: seen) rest

def firstMissing (fields : List (Field α)) (seen : List Nat) : Option String :=
  ((fields.zipIdx).find? fun (f, i) => f.need == .required && !seen.contains i).map (·.1.name)

def recordItems (src : Source) (recordName : String) (count : Nat) (close : Nat)
    (tail : Except Break Nat) : List (Field α) → List Node → Nat → Nat → α → Except Error α
  | [], [], _, _, acc =>
    match tail with
    | .ok _ => .ok acc
    | .error b => .error b.kept
  | [], _ :: rest, _, lastStop, _ => .error (extraItems src (count + rest.length + 1) lastStop)
  | f :: fs, [], i, lastStop, acc =>
    match tail with
    | .error b => .error b.kept
    | .ok _ =>
      if f.need == .defaulted then recordItems src recordName count close tail fs [] (i + 1) lastStop acc
      else
        .error (src.fix close (Error.invalidLength i ("struct " ++ recordName ++ " with " ++
          toString count ++ " elements")))
  | f :: fs, n :: rest, i, _, acc =>
    match f.read src n with
    | .error e => .error (src.fix (src.afterItem n.stop) e)
    | .ok set => recordItems src recordName count close tail fs rest (i + 1) n.stop (set acc)

/-- A record named `recordName`, starting from `init` and read field by field. -/
def record (recordName : String) (init : α) (fields : List (Field α)) : Decoder α := fun src n =>
  match n with
  | .obj _ entries tail => do
    let (r, seen) ← recordEntries src fields init [] entries
    match tail with
    | .error b => .error b.kept
    | .ok c =>
      match firstMissing fields seen with
      | some name => .error (src.fix (c + 1) (Error.missingField name))
      | none => pure r
  | .arr s items tail =>
    let close := match tail with | .ok c => c + 1 | .error _ => s
    recordItems src recordName fields.length close tail fields items 0 (s + 1) init
  | _ => .error (mismatch src n ("struct " ++ recordName))

end Decoder

def decodeText (d : Decoder α) (text : ByteArray) : Except Error α := do
  let (node, trailing) := Node.read text
  let x ← d ⟨some text⟩ node
  match trailing with
  | some e => .error e
  | none => pure x

def decodeValue (d : Decoder α) (v : Value) : Except Error α :=
  d Source.bare (Node.ofValue v)

end CodeGraph.Json
