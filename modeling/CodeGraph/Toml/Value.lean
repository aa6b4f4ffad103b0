/-!
# TOML values and tables

A document is a table of named values. While it is read a table remembers whether it is
explicit, implicit or made by dotted keys, which decides what may still be added to it.
-/

namespace CodeGraph.Toml

/-- A finished TOML value. -/
inductive Value where
  | string (s : String)
  | integer (n : Int)
  | float (text : String)
  | boolean (b : Bool)
  | datetime (text : String)
  | array (items : List Value)
  | table (entries : List (String × Value))
  deriving Inhabited, Repr

def Value.kind : Value → String
  | .string _ => "string"
  | .integer _ => "integer"
  | .float _ => "float"
  | .boolean _ => "boolean"
  | .datetime _ => "datetime"
  | .array _ => "array"
  | .table _ => "table"

inductive Fault where
  | malformed (rest : String)
  | duplicateKey (key : String)
  | notATable (key : String)
  | outOfRange
  deriving Inhabited, Repr

inductive Item where
  | value (v : Value)
  | table (implicit dotted : Bool) (entries : List (String × Item))
  | tables (items : List (List (String × Item)))
  deriving Inhabited

abbrev Entries := List (String × Item)

mutual

def Item.toValue : Item → Value
  | .value v => v
  | .table _ _ es => .table (entriesValue es)
  | .tables ts => .array (tablesValue ts)

def entriesValue : Entries → List (String × Value)
  | [] => []
  | (k, i) :: rest => (k, i.toValue) :: entriesValue rest

def tablesValue : List Entries → List Value
  | [] => []
  | es :: rest => .table (entriesValue es) :: tablesValue rest

end

namespace Entries

def lookup (es : Entries) (k : String) : Option Item :=
  (List.find? (fun e => e.1 == k) es).map (·.2)

def set (es : Entries) (k : String) (i : Item) : Entries :=
  if List.any es (fun e => e.1 == k) then List.map (fun (e : String × Item) => if e.1 == k then (e.1, i) else e) es
  else es ++ [(k, i)]

def add (es : Entries) (k : String) (i : Item) : Except Fault Entries :=
  if List.any es (fun e => e.1 == k) then .error (.duplicateKey k) else .ok (es ++ [(k, i)])

def descend (dotted : Bool) (here : Bool) (f : Bool → Entries → Except Fault Entries) :
    Entries → List String → Except Fault Entries
  | es, [] => f here es
  | es, k :: rest =>
    match es.lookup k with
    | none => do
      let inner ← descend dotted dotted f [] rest
      pure (es ++ [(k, .table true dotted inner)])
    | some (.value _) => .error (.notATable k)
    | some (.tables ts) =>
      match ts.getLast? with
      | none => .error (.notATable k)
      | some last => do
        let inner ← descend dotted false f last rest
        pure (es.set k (.tables (ts.dropLast ++ [inner])))
    | some (.table implicit isDotted inner) =>
      if dotted && !implicit then .error (.duplicateKey k)
      else do
        let inner ← descend dotted isDotted f inner rest
        pure (es.set k (.table implicit isDotted inner))

def assign (es : Entries) (keys : List String) (v : Value) : Except Fault Entries :=
  match keys.getLast? with
  | none => .ok es
  | some k =>
    let path := keys.dropLast
    descend true false (fun isDotted inner =>
      if isDotted == path.isEmpty then .error (.duplicateKey k) else inner.add k (.value v)) es path

def defineTable (es : Entries) (path : List String) : Except Fault Entries :=
  match path.getLast? with
  | none => .ok es
  | some k =>
    descend false false (fun _ parent =>
      match parent.lookup k with
      | none => .ok (parent ++ [(k, .table false false [])])
      | some (.table true false inner) => .ok (parent.set k (.table false false inner))
      | some _ => .error (.duplicateKey k)) es path.dropLast

def defineArrayTable (es : Entries) (path : List String) : Except Fault Entries :=
  match path.getLast? with
  | none => .ok es
  | some k =>
    descend false false (fun _ parent =>
      match parent.lookup k with
      | none => .ok (parent ++ [(k, .tables [[]])])
      | some (.tables ts) => .ok (parent.set k (.tables (ts ++ [[]])))
      | some _ => .error (.duplicateKey k)) es path.dropLast

def assignUnder (es : Entries) (header keys : List String) (v : Value) : Except Fault Entries :=
  descend false false (fun _ inner => assign inner keys v) es header

end Entries

end CodeGraph.Toml
