import CodeGraph.Text.Blank
import CodeGraph.Text.Escape
import CodeGraph.Json.Value
import CodeGraph.Json.FloatText
import CodeGraph.Json.Error
import CodeGraph.Json.Node
import CodeGraph.Json.Decode
import CodeGraph.Json.Render
import CodeGraph.Java.TypeText
import CodeGraph.Text.Xid
import CodeGraph.Java.Token
import CodeGraph.Outline
import CodeGraph.Outline.Json
import CodeGraph.Java.Syntax
import CodeGraph.Java.Grammar.Basic
import CodeGraph.Java.Grammar.Rules
import CodeGraph.Java.Grammar.Types
import CodeGraph.Java.Grammar.Expr
import CodeGraph.Java.Grammar.Stmt
import CodeGraph.Java.Grammar.Decl
import CodeGraph.Java.Grammar.Program
import CodeGraph.Java.Grammar.Recovery
import CodeGraph.Java.Outline
import CodeGraph.Java.Salvage
import CodeGraph.Reading
import CodeGraph.Java.Read
import CodeGraph.Java.SyntaxTree
import CodeGraph.Hash.Xxh3
import CodeGraph.Text.Utf8
import CodeGraph.Patch.Truncate
import CodeGraph.KeyMap
import CodeGraph.Snapshot
import CodeGraph.Snapshot.Json
import CodeGraph.Resolution
import CodeGraph.Failure
import CodeGraph.Glob
import CodeGraph.FileTree
import CodeGraph.IgnoreFile
import CodeGraph.Text.Case
import CodeGraph.Scan
import CodeGraph.Extraction
import CodeGraph.Assembly
import CodeGraph.Semantic
import CodeGraph.Ingest
import CodeGraph.LineDiff.Op
import CodeGraph.LineDiff.Myers
import CodeGraph.LineDiff.Compact
import CodeGraph.LineDiff.Unified
import CodeGraph.Overlay.Marker
import CodeGraph.Overlay.Summary
import CodeGraph.Search
import CodeGraph.Overlay
import CodeGraph.Overlay.Patch
import CodeGraph.Overlay.Align
import CodeGraph.Overlay.Json
import CodeGraph.TypeGraph
import CodeGraph.Store
import CodeGraph.TypeGraph.Json
import CodeGraph.Script.Syntax
import CodeGraph.Script.Format
import CodeGraph.Script.Run
import CodeGraph.Semantic.Discover
import CodeGraph.Text.Width
import CodeGraph.Report.Table
import CodeGraph.Report.Paint
import CodeGraph.Report.Diff
import CodeGraph.Report.Extract
import CodeGraph.Toml.Value
import CodeGraph.Toml.Read
import CodeGraph.Config
import CodeGraph.Cli.Workspace
import CodeGraph.Cli.Command
import CodeGraph.Text.Similarity
import CodeGraph.Cli.Spec
import CodeGraph.Cli.Help
import CodeGraph.Cli.Args
import CodeGraph.Cli
import CodeGraph.Main
import CodeGraph.Proofs.Assembly
import CodeGraph.Proofs.Extraction
import CodeGraph.Proofs.Overlay
import CodeGraph.Proofs.ByteOrder
import CodeGraph.Proofs.Overlay.Lookup
import CodeGraph.Proofs.Overlay.Placement
import CodeGraph.Proofs.Overlay.Mirror
import CodeGraph.Proofs.Overlay.Patching
import CodeGraph.Proofs.TypeIndex
import CodeGraph.Proofs.Attribution
import CodeGraph.Proofs.Store.Merge
import CodeGraph.Proofs.Store.Upsert
import CodeGraph.Proofs.Json.Decode
import CodeGraph.Proofs.Json.Snapshot
import CodeGraph.Proofs.Store.Overlays
import CodeGraph.Proofs.TypeGraph
import CodeGraph.Proofs.TypeGraph.Reach
import CodeGraph.Proofs.Overlay.Lines
import CodeGraph.Proofs.Overlay.Summary
import CodeGraph.Proofs.SyntaxTree
import CodeGraph.Proofs.Text.Words
import CodeGraph.Proofs.TypeText
import CodeGraph.Proofs.Text.Normalize
import CodeGraph.Proofs.Scan
import CodeGraph.Proofs.Java.Answers
import CodeGraph.Proofs.Java.Lowering
