import CodeGraph.TypeGraph
import CodeGraph.Snapshot.Json

/-!
# Edge labels as JSON

A supertype label is its name, `extends` or `implements`; a dependency label is an object with
the one key `depends_on` holding how the dependency was found. A supertype label may also be an
object with its name as the one key and null as its value.
-/

namespace CodeGraph

open CodeGraph.Json

def EdgeKind.names : List String := ["depends_on", "extends", "implements"]

def EdgeKind.ofName (name : String) : Except Error EdgeKind :=
  match name with
  | "extends" => .ok .extendsType
  | "implements" => .ok .implementsType
  | "depends_on" => .error (Error.invalidType .unitVariant "newtype variant")
  | _ => .error (Error.unknownVariant name EdgeKind.names)

def EdgeKind.decoder : Decoder EdgeKind := fun src n =>
  match n with
  | .str (.ok s) _ stop => (EdgeKind.ofName s).mapError (src.fix stop)
  | .str (.error e) _ _ => .error e
  | .broken b => .error b.kept
  | .obj _ [(.ok k, keyStop, v)] (.ok _) =>
    match k with
    | "depends_on" => (Via.decoder src v).map .dependsOn
    | "extends" | "implements" =>
      match v with
      | .null _ _ => EdgeKind.ofName k
      | _ => .error (src.fix v.stop (Error.invalidType v.unexpected "unit"))
    | _ => .error (src.fix keyStop (Error.unknownVariant k EdgeKind.names))
  | .obj _ [(.error e, _, _)] _ => .error e
  | .obj _ _ _ => .error (Error.invalidValue .map "map with a single key")
  | _ => .error (Error.invalidType n.unexpected "string or map")

end CodeGraph
