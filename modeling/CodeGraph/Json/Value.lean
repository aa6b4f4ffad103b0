/-!
# JSON values

A JSON value as this library reads and writes it. Numbers keep the three forms a reader can
produce: a whole number below `2^64`, a negative whole number that fits in 64 signed bits, and
a binary64 float for everything else. Objects keep their fields in the order they were given,
repeated names included; `Value.normalize` turns an object into the sorted, repeat-free map a
reader of whole documents keeps (the last of two equal names wins).
-/

namespace CodeGraph.Json

inductive Number where
  | unsigned (n : Nat)
  | signed (n : Int)
  | float (f : Float)
  deriving Inhabited

/-- A JSON value; object fields stay in their given order. -/
inductive Value where
  | null
  | bool (b : Bool)
  | num (n : Number)
  | str (s : String)
  | arr (items : List Value)
  | obj (fields : List (String × Value))
  deriving Inhabited

namespace Value

def field? (v : Value) (name : String) : Option Value :=
  match v with
  | .obj fields => (fields.reverse.find? (·.1 == name)).map (·.2)
  | _ => none

def hasField (v : Value) (name : String) : Bool :=
  (v.field? name).isSome

def str? : Value → Option String
  | .str s => some s
  | _ => none

def arr? : Value → Option (List Value)
  | .arr xs => some xs
  | _ => none

def bool? : Value → Option Bool
  | .bool b => some b
  | _ => none

def nat? : Value → Option Nat
  | .num (.unsigned n) => some n
  | _ => none

def insertSorted (k : String) (v : Value) : List (String × Value) → List (String × Value)
  | [] => [(k, v)]
  | (k', v') :: rest =>
    if k == k' then (k, v) :: rest
    else if k < k' then (k, v) :: (k', v') :: rest
    else (k', v') :: insertSorted k v rest

mutual

/-- Every object turned into a map: fields sorted by name, and of two fields with one name the
later kept. -/
def normalize : Value → Value
  | .arr xs => .arr (normalizeList xs)
  | .obj fs => .obj ((normalizeFields fs).foldl (fun acc kv => insertSorted kv.1 kv.2 acc) [])
  | v => v

def normalizeList : List Value → List Value
  | [] => []
  | v :: rest => normalize v :: normalizeList rest

def normalizeFields : List (String × Value) → List (String × Value)
  | [] => []
  | (k, v) :: rest => (k, normalize v) :: normalizeFields rest

end

end Value

end CodeGraph.Json
