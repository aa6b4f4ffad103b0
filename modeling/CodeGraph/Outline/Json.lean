import CodeGraph.Outline
import CodeGraph.Json.Value
import CodeGraph.Json.Decode

/-!
# Outlines as JSON

A node is an object with one key naming its class (`TypeDecl`, `MethodDecl`, `FieldDecl`,
`Generic`); absent optional texts are `null`.
-/

namespace CodeGraph.Outline

open CodeGraph.Json

def optText : Option String → Value
  | some s => .str s
  | none => .null

def texts (xs : List String) : Value :=
  .arr (xs.map .str)

def lineValue (n : Nat) : Value :=
  .num (.unsigned n)

def Import.toJson (i : Import) : Value :=
  .obj [("path", .str i.path), ("is_static", .bool i.isStatic), ("is_wildcard", .bool i.isWildcard)]

def Import.decoder : Decoder Import :=
  Decoder.record "ImportDecl" ⟨"", false, false⟩
    [Field.mk' ["path"] .required Decoder.string fun v i => { i with path := v },
     Field.mk' ["is_static"] .required Decoder.bool fun v i => { i with isStatic := v },
     Field.mk' ["is_wildcard"] .required Decoder.bool fun v i => { i with isWildcard := v }]

def Param.toJson (p : Param) : Value :=
  .obj [("name", .str p.name), ("type_name", .str p.typeName)]

def MethodDecl.toJson (m : MethodDecl) : Value :=
  .obj [("name", .str m.name), ("is_constructor", .bool m.isConstructor),
    ("params", .arr (m.params.map Param.toJson)), ("return_type", optText m.returnType),
    ("modifiers", texts m.modifiers), ("body", optText m.body),
    ("start_line", lineValue m.startLine), ("end_line", lineValue m.endLine)]

def FieldDecl.toJson (f : FieldDecl) : Value :=
  .obj [("type_name", optText f.typeName), ("names", texts f.names),
    ("modifiers", texts f.modifiers)]

mutual

def Node.toJson : Node → Value
  | .type h ms =>
    .obj [("TypeDecl", .obj [("name", .str h.name), ("kind", .str h.kind.name),
      ("extends", texts h.extended), ("implements", texts h.implemented),
      ("modifiers", texts h.modifiers), ("members", .arr (Node.listToJson ms)),
      ("start_line", lineValue h.startLine), ("end_line", lineValue h.endLine)])]
  | .method m => .obj [("MethodDecl", m.toJson)]
  | .field f => .obj [("FieldDecl", f.toJson)]
  | .group cs => .obj [("Generic", .obj [("children", .arr (Node.listToJson cs))])]

def Node.listToJson : List Node → List Value
  | [] => []
  | n :: rest => n.toJson :: Node.listToJson rest

end

/-- An outline as JSON. -/
def Unit.toJson (u : Unit) : Value :=
  .obj [("package", optText u.package), ("imports", .arr (u.imports.map Import.toJson)),
    ("nodes", .arr (Node.listToJson u.nodes))]

end CodeGraph.Outline
