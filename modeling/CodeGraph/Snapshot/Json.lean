import CodeGraph.Snapshot
import CodeGraph.Json.Decode

/-!
# Snapshots as JSON

A snapshot is written with its fields in a fixed order, and read back from that form and from the
older forms a semantic reader writes; every field may be absent.
-/

namespace CodeGraph

open CodeGraph.Json

def countValue (n : Nat) : Value := .num (.unsigned n)

def textsValue (xs : List String) : Value := .arr (xs.map .str)

def TypeRecord.toJson (t : TypeRecord) : Value :=
  .obj [("fqn", .str t.fqn), ("name", .str t.name), ("file", .str t.file),
    ("file_hash", .str t.fileHash)]

def ParamRecord.toJson (p : ParamRecord) : Value :=
  .obj [("name", .str p.name), ("type", .str p.typeName)]

def optionalField (name : String) : Option Value → List (String × Value)
  | some v => [(name, v)]
  | none => []

def MethodRecord.toJson (m : MethodRecord) : Value :=
  .obj ([("owner_fqn", .str m.owner), ("name", .str m.name), ("signature", .str m.signature),
    ("returnType", .str m.returnType), ("params", .arr (m.params.map ParamRecord.toJson)),
    ("modifiers", textsValue m.modifiers)] ++
    optionalField "file" (m.file.map .str) ++
    optionalField "beginLine" (m.beginLine.map countValue) ++
    optionalField "endLine" (m.endLine.map countValue) ++
    optionalField "body_hash" (m.bodyHash.map .str))

def FieldRecord.toJson (f : FieldRecord) : Value :=
  .obj [("owner_fqn", .str f.owner), ("name", .str f.name), ("type", .str f.typeName),
    ("modifiers", textsValue f.modifiers)]

def Dependency.toJson (d : Dependency) : Value :=
  .obj [("from_fqn", .str d.source), ("to_fqn", .str d.target), ("via", .str d.via.name),
    ("file", .str d.file)]

def CallEdge.toJson (c : CallEdge) : Value :=
  .obj [("from_owner_fqn", .str c.fromOwner), ("from_signature", .str c.fromSignature),
    ("to_owner_fqn", .str c.toOwner), ("to_signature", .str c.toSignature), ("file", .str c.file)]

def ResolutionCounts.toJson (r : ResolutionCounts) : Value :=
  .obj [("imports_resolved", countValue r.importsResolved),
    ("imports_unresolved", countValue r.importsUnresolved),
    ("field_types_resolved", countValue r.fieldTypesResolved),
    ("field_types_unresolved", countValue r.fieldTypesUnresolved)]

def Stats.toJson (s : Stats) : Value :=
  .obj [("file_count", countValue s.fileCount), ("parse_error_count", countValue s.parseErrorCount),
    ("backend_used", .str s.backendUsed),
    ("backend_files", .obj (s.backendFiles.entries.map fun (k, n) => (k, countValue n))),
    ("duplicate_count", countValue s.duplicateCount), ("resolution", s.resolution.toJson)]

def pairValue (p : String × String) : Value := .arr [.str p.1, .str p.2]

def Snapshot.toJson (g : Snapshot) : Value :=
  .obj [("project", .str g.project), ("repo", .str g.repo),
    ("types", .obj (g.types.entries.map fun (k, t) => (k, t.toJson))),
    ("methods", .arr (g.methods.map MethodRecord.toJson)),
    ("fields", .arr (g.fields.map FieldRecord.toJson)),
    ("dependencies", .arr (g.dependencies.map Dependency.toJson)),
    ("extends", .arr (g.extended.map pairValue)), ("implements", .arr (g.implemented.map pairValue)),
    ("calls", .arr (g.calls.map CallEdge.toJson)), ("stats", g.stats.toJson)]

def SnapshotCounts.toJson (c : SnapshotCounts) : Value :=
  .obj [("project", .str c.project), ("repo", .str c.repo), ("types", countValue c.types),
    ("methods", countValue c.methods), ("fields", countValue c.fields),
    ("dependencies", countValue c.dependencies), ("extends", countValue c.extended),
    ("implements", countValue c.implemented), ("calls", countValue c.calls)]

def textsDecoder : Decoder (List String) := Decoder.list Decoder.string

def TypeRecord.decoder : Decoder TypeRecord :=
  Decoder.record "TypeRecord" ⟨"", "", "", ""⟩
    [Field.mk' ["fqn"] .required Decoder.string fun v t => { t with fqn := v },
     Field.mk' ["name"] .required Decoder.string fun v t => { t with name := v },
     Field.mk' ["file"] .required Decoder.string fun v t => { t with file := v },
     Field.mk' ["file_hash"] .required Decoder.string fun v t => { t with fileHash := v }]

def ParamRecord.decoder : Decoder ParamRecord :=
  Decoder.record "ParamDef" ⟨"", ""⟩
    [Field.mk' ["name"] .required Decoder.string fun v p => { p with name := v },
     Field.mk' ["type"] .required Decoder.string fun v p => { p with typeName := v }]

def MethodRecord.decoder : Decoder MethodRecord :=
  Decoder.record "MethodRecord" { owner := "", name := "", signature := "" }
    [Field.mk' ["owner_fqn"] .required Decoder.string fun v m => { m with owner := v },
     Field.mk' ["name"] .required Decoder.string fun v m => { m with name := v },
     Field.mk' ["signature"] .required Decoder.string fun v m => { m with signature := v },
     Field.mk' ["returnType", "return_type"] .defaulted Decoder.string
       fun v m => { m with returnType := v },
     Field.mk' ["params"] .defaulted (Decoder.list ParamRecord.decoder)
       fun v m => { m with params := v },
     Field.mk' ["modifiers"] .defaulted textsDecoder fun v m => { m with modifiers := v },
     Field.mk' ["file"] .defaulted (Decoder.option Decoder.string) fun v m => { m with file := v },
     Field.mk' ["beginLine", "begin_line"] .defaulted (Decoder.option Decoder.u32)
       fun v m => { m with beginLine := v },
     Field.mk' ["endLine", "end_line"] .defaulted (Decoder.option Decoder.u32)
       fun v m => { m with endLine := v },
     Field.mk' ["body_hash"] .defaulted (Decoder.option Decoder.string)
       fun v m => { m with bodyHash := v }]

def FieldRecord.decoder : Decoder FieldRecord :=
  Decoder.record "FieldRecord" { owner := "", name := "", typeName := "" }
    [Field.mk' ["owner_fqn"] .required Decoder.string fun v f => { f with owner := v },
     Field.mk' ["name"] .required Decoder.string fun v f => { f with name := v },
     Field.mk' ["type"] .required Decoder.string fun v f => { f with typeName := v },
     Field.mk' ["modifiers"] .defaulted textsDecoder fun v f => { f with modifiers := v }]

def Via.decoder : Decoder Via :=
  Decoder.oneOf (Via.all.map fun v => (v.name, v))

def Dependency.decoder : Decoder Dependency :=
  Decoder.record "DependencyEdge" { source := "", target := "", via := .imported }
    [Field.mk' ["from_fqn"] .required Decoder.string fun v d => { d with source := v },
     Field.mk' ["to_fqn"] .required Decoder.string fun v d => { d with target := v },
     Field.mk' ["via"] .required Via.decoder fun v d => { d with via := v },
     Field.mk' ["file"] .defaulted Decoder.string fun v d => { d with file := v }]

def CallEdge.decoder : Decoder CallEdge :=
  Decoder.record "CallEdge" { fromOwner := "", fromSignature := "", toOwner := "", toSignature := "" }
    [Field.mk' ["from_owner_fqn"] .required Decoder.string fun v c => { c with fromOwner := v },
     Field.mk' ["from_signature"] .required Decoder.string fun v c => { c with fromSignature := v },
     Field.mk' ["to_owner_fqn"] .required Decoder.string fun v c => { c with toOwner := v },
     Field.mk' ["to_signature"] .required Decoder.string fun v c => { c with toSignature := v },
     Field.mk' ["file"] .defaulted Decoder.string fun v c => { c with file := v }]

def ResolutionCounts.decoder : Decoder ResolutionCounts :=
  Decoder.record "ResolutionStats" {}
    [Field.mk' ["imports_resolved"] .defaulted Decoder.usize
       fun v r => { r with importsResolved := v },
     Field.mk' ["imports_unresolved"] .defaulted Decoder.usize
       fun v r => { r with importsUnresolved := v },
     Field.mk' ["field_types_resolved"] .defaulted Decoder.usize
       fun v r => { r with fieldTypesResolved := v },
     Field.mk' ["field_types_unresolved"] .defaulted Decoder.usize
       fun v r => { r with fieldTypesUnresolved := v }]

def Stats.decoder : Decoder Stats :=
  Decoder.record "GraphStats" {}
    [Field.mk' ["file_count", "java_files"] .defaulted Decoder.usize
       fun v s => { s with fileCount := v },
     Field.mk' ["parse_error_count", "parse_errors"] .defaulted Decoder.usize
       fun v s => { s with parseErrorCount := v },
     Field.mk' ["backend_used", "parser"] .defaulted Decoder.string
       fun v s => { s with backendUsed := v },
     Field.mk' ["backend_files"] .defaulted (Decoder.map Decoder.usize)
       fun v s => { s with backendFiles := KeyMap.ofList v },
     Field.mk' ["duplicate_count"] .defaulted Decoder.usize
       fun v s => { s with duplicateCount := v },
     Field.mk' ["resolution"] .defaulted ResolutionCounts.decoder
       fun v s => { s with resolution := v }]

def typesDecoder : Decoder (KeyMap TypeRecord) :=
  Decoder.map' TypeRecord.tableOf <|
    Decoder.firstOf "TypesRepr"
      [Decoder.map' (fun m => m.map (·.2)) (Decoder.map TypeRecord.decoder),
       Decoder.list TypeRecord.decoder]

def relationRowDecoder : Decoder (String × String) :=
  Decoder.firstOf "RelationRow"
    [Decoder.pair Decoder.string Decoder.string,
     Decoder.record "RelationRow" ("", "")
       [Field.mk' ["child_fqn"] .required Decoder.string fun v p => (v, p.2),
        Field.mk' ["parent_ref", "iface_ref", "raw_ref", "reference"] .required Decoder.string
          fun v p => (p.1, v)]]

/-- A snapshot read from JSON. -/
def Snapshot.decoder : Decoder Snapshot :=
  Decoder.record "ProjectGraph" {}
    [Field.mk' ["project", "project_name"] .defaulted Decoder.string
       fun v g => { g with project := v },
     Field.mk' ["repo", "repo_id"] .defaulted Decoder.string fun v g => { g with repo := v },
     Field.mk' ["types"] .defaulted typesDecoder fun v g => { g with types := v },
     Field.mk' ["methods"] .defaulted (Decoder.list MethodRecord.decoder)
       fun v g => { g with methods := v },
     Field.mk' ["fields"] .defaulted (Decoder.list FieldRecord.decoder)
       fun v g => { g with fields := v },
     Field.mk' ["dependencies"] .defaulted (Decoder.list Dependency.decoder)
       fun v g => { g with dependencies := v },
     Field.mk' ["extends"] .defaulted (Decoder.list relationRowDecoder)
       fun v g => { g with extended := v },
     Field.mk' ["implements"] .defaulted (Decoder.list relationRowDecoder)
       fun v g => { g with implemented := v },
     Field.mk' ["calls"] .defaulted (Decoder.list CallEdge.decoder)
       fun v g => { g with calls := v },
     Field.mk' ["stats"] .defaulted Stats.decoder fun v g => { g with stats := v }]

def Snapshot.ofText (text : String) : Except Json.Error Snapshot :=
  decodeText Snapshot.decoder text.toUTF8

end CodeGraph
