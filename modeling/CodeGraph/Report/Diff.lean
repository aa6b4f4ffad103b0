import CodeGraph.Overlay.Json
import CodeGraph.Report.Table
import CodeGraph.Report.Paint

/-!
# Reports of a comparison

An overlay's summary, its time, the impacted types and the markers file, as a table or as JSON.
-/

namespace CodeGraph.Report

open CodeGraph.Json

/-- What a comparison reports. -/
structure DiffReport where
  summary : Summary
  elapsedMs : Float := 0
  impacted : List String := []
  markersOut : Option String := none
  deriving Inhabited

namespace DiffReport

def summaryJson (r : DiffReport) : Value :=
  .obj (r.summary.fields ++ [("duration_ms", .num (.float r.elapsedMs))])

def toJson (r : DiffReport) : Value :=
  .obj ([("summary", r.summaryJson), ("impacted", .arr (r.impacted.map .str))] ++
    optionalField "markers_out" (r.markersOut.map .str))

def countsTable (s : Summary) : String :=
  rowsTable .rounded ("KIND" :: Status.all.map Status.name)
    (EntityKind.all.map fun k => k.name :: Status.all.map fun st => toString (s.count k st))

def text (color : Bool) (r : DiffReport) : String :=
  let s := r.summary
  let head := paint color .cyanBold "SUPERGRAPH:" ++ " " ++ paint color .bold s.overlay ++ " " ++
    paint color .yellow s.leftRepo ++ " -> " ++ paint color .green s.rightRepo ++ "\n"
  let timing := s.text ++ " (" ++ wholeText r.elapsedMs ++ "ms)\n\n"
  let sample :=
    if s.sample.isEmpty then ""
    else "\n" ++ paint color .yellowBold "CHANGED:" ++ "\n" ++
      String.join (s.sample.map fun a => "  " ++ padEnd a.kind.name 7 ++ " " ++ truncate a.key 100 ++ "\n")
  let impacted :=
    if r.impacted.isEmpty then ""
    else "\n" ++ paint color .redBold "IMPACTED:" ++ " " ++ toString r.impacted.length ++ "\n" ++
      String.join (r.impacted.map fun t => "  " ++ t ++ "\n")
  let written := match r.markersOut with
    | some p => "\nMarkers written to " ++ paint color .dim p ++ "\n"
    | none => ""
  head ++ timing ++ countsTable s ++ "\n" ++ sample ++ impacted ++ written

def sampleDecoder : Decoder Alignment :=
  Decoder.record "SampleEntry" ⟨.type, ""⟩
    [Field.mk' ["kind"] .required EntityKind.decoder fun v a => { a with kind := v },
     Field.mk' ["key"] .required Decoder.string fun v a => { a with key := v }]

def countsDecoder : Decoder (KeyMap (KeyMap Nat)) :=
  Decoder.map' (fun m => KeyMap.ofList (m.map fun (k, byStatus) => (k, KeyMap.ofList byStatus)))
    (Decoder.map (Decoder.map Decoder.usize))

def summaryDecoder : Decoder DiffReport :=
  Decoder.record "DiffSummary" { summary := { overlay := "", project := "", leftRepo := "", rightRepo := "" } }
    [Field.mk' ["supergraph_id"] .required Decoder.string fun v r =>
       { r with summary := { r.summary with overlay := v } },
     Field.mk' ["project"] .required Decoder.string fun v r =>
       { r with summary := { r.summary with project := v } },
     Field.mk' ["left_repo"] .required Decoder.string fun v r =>
       { r with summary := { r.summary with leftRepo := v } },
     Field.mk' ["right_repo"] .required Decoder.string fun v r =>
       { r with summary := { r.summary with rightRepo := v } },
     Field.mk' ["counts"] .required countsDecoder fun v r =>
       { r with summary := { r.summary with counts := v } },
     Field.mk' ["sample_changed"] .required (Decoder.list sampleDecoder) fun v r =>
       { r with summary := { r.summary with sample := v } },
     Field.mk' ["duration_ms"] .required Decoder.f64 fun v r => { r with elapsedMs := v }]

def decoder : Decoder DiffReport :=
  Decoder.record "DiffReport" default
    [Field.mk' ["summary"] .required summaryDecoder fun v r =>
       { r with summary := v.summary, elapsedMs := v.elapsedMs },
     Field.mk' ["impacted"] .defaulted (Decoder.list Decoder.string) fun v r => { r with impacted := v },
     Field.mk' ["markers_out"] .optional (Decoder.option Decoder.string) fun v r =>
       { r with markersOut := v }]

end DiffReport

end CodeGraph.Report
