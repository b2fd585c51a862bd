import RepoAtlas.Analysis.Basic
import RepoAtlas.Analysis.Batch
import RepoAtlas.Analysis.Config
import RepoAtlas.Analysis.Edges
import RepoAtlas.Analysis.Findings
import RepoAtlas.Classification.Kind
import RepoAtlas.Classification.Layer
import RepoAtlas.Document.Ini
import RepoAtlas.Document.Json
import RepoAtlas.Document.Toml
import RepoAtlas.Document.Value
import RepoAtlas.Files.Cache
import RepoAtlas.Files.Change
import RepoAtlas.Files.Encoding
import RepoAtlas.Files.Entry
import RepoAtlas.Files.Listing
import RepoAtlas.Files.Resolve
import RepoAtlas.Files.Session
import RepoAtlas.Files.Tree
import RepoAtlas.Files.TreeDocument
import RepoAtlas.Files.Walk
import RepoAtlas.Graph.Architecture
import RepoAtlas.Graph.Basic
import RepoAtlas.Graph.Component
import RepoAtlas.Graph.Cycles
import RepoAtlas.Graph.Document.Reader
import RepoAtlas.Graph.Document.Shape
import RepoAtlas.Graph.Document.Writer
import RepoAtlas.Graph.Ranking
import RepoAtlas.Graph.Summary
import RepoAtlas.Import.Basic
import RepoAtlas.Import.FileIndex
import RepoAtlas.Import.Resolve
import RepoAtlas.Language.Basic
import RepoAtlas.Language.Family
import RepoAtlas.Language.Form
import RepoAtlas.Language.Registry
import RepoAtlas.Language.Stock
import RepoAtlas.Manifest.Basic
import RepoAtlas.Manifest.Dependencies
import RepoAtlas.Manifest.Error
import RepoAtlas.Manifest.Framework
import RepoAtlas.Manifest.Listed
import RepoAtlas.Manifest.Marked
import RepoAtlas.Manifest.Package
import RepoAtlas.Manifest.Python
import RepoAtlas.Manifest.Recording
import RepoAtlas.Manifest.Requirement
import RepoAtlas.Manifest.Runtime
import RepoAtlas.Manifest.Version
import RepoAtlas.Metrics
import RepoAtlas.Number.Binary
import RepoAtlas.Number.Decimal
import RepoAtlas.Number.Rounding
import RepoAtlas.Number.Shortest
import RepoAtlas.Path
import RepoAtlas.Pattern.Basic
import RepoAtlas.Pattern.Build
import RepoAtlas.Proofs.Analysis.Basic
import RepoAtlas.Proofs.Analysis.Batch
import RepoAtlas.Proofs.Analysis.Consistency
import RepoAtlas.Proofs.Analysis.EdgeIds
import RepoAtlas.Proofs.Analysis.Edges
import RepoAtlas.Proofs.Analysis.Findings
import RepoAtlas.Proofs.Analysis.Isolation
import RepoAtlas.Proofs.Analysis.Returns
import RepoAtlas.Proofs.Analysis.Risk
import RepoAtlas.Proofs.Analysis.Runtimes
import RepoAtlas.Proofs.Analysis.Schedule
import RepoAtlas.Proofs.Analysis.Summary
import RepoAtlas.Proofs.Document.Ini
import RepoAtlas.Proofs.Document.Json
import RepoAtlas.Proofs.Document.Limits
import RepoAtlas.Proofs.Document.Toml
import RepoAtlas.Proofs.Files.Browsing
import RepoAtlas.Proofs.Files.Cache
import RepoAtlas.Proofs.Files.Change
import RepoAtlas.Proofs.Files.Encoding
import RepoAtlas.Proofs.Files.Entry
import RepoAtlas.Proofs.Files.Listing
import RepoAtlas.Proofs.Files.ListingOrder
import RepoAtlas.Proofs.Files.Place
import RepoAtlas.Proofs.Files.Rearranged
import RepoAtlas.Proofs.Files.Resolve
import RepoAtlas.Proofs.Files.Session
import RepoAtlas.Proofs.Files.Tree
import RepoAtlas.Proofs.Files.Walk
import RepoAtlas.Proofs.Graph.ClosedWalk
import RepoAtlas.Proofs.Graph.Component
import RepoAtlas.Proofs.Graph.CycleOrder
import RepoAtlas.Proofs.Graph.Cycles
import RepoAtlas.Proofs.Graph.Document
import RepoAtlas.Proofs.Graph.Ranking
import RepoAtlas.Proofs.Graph.Role
import RepoAtlas.Proofs.Graph.Summary
import RepoAtlas.Proofs.Grouping
import RepoAtlas.Proofs.Import.Block
import RepoAtlas.Proofs.Import.Dotted
import RepoAtlas.Proofs.Import.FileIndex
import RepoAtlas.Proofs.Import.GoBlock
import RepoAtlas.Proofs.Import.GroupLine
import RepoAtlas.Proofs.Import.Grouped
import RepoAtlas.Proofs.Import.Growth
import RepoAtlas.Proofs.Import.LineEnds
import RepoAtlas.Proofs.Import.ModuleList
import RepoAtlas.Proofs.Import.ModulePath
import RepoAtlas.Proofs.Import.Nested
import RepoAtlas.Proofs.Import.Relative
import RepoAtlas.Proofs.Import.Resolve
import RepoAtlas.Proofs.Import.ScriptCall
import RepoAtlas.Proofs.Import.ScriptClause
import RepoAtlas.Proofs.Import.ScriptImport
import RepoAtlas.Proofs.Import.Strict
import RepoAtlas.Proofs.Import.Walk
import RepoAtlas.Proofs.Language.Extension
import RepoAtlas.Proofs.Language.Line
import RepoAtlas.Proofs.Language.LineEnds
import RepoAtlas.Proofs.Language.Registry
import RepoAtlas.Proofs.Manifest.Agreement
import RepoAtlas.Proofs.Manifest.Dependencies
import RepoAtlas.Proofs.Manifest.Faults
import RepoAtlas.Proofs.Manifest.History
import RepoAtlas.Proofs.Manifest.ModuleFile
import RepoAtlas.Proofs.Manifest.Recording
import RepoAtlas.Proofs.Manifest.Requirement
import RepoAtlas.Proofs.Manifest.Requirements
import RepoAtlas.Proofs.Manifest.Runtime
import RepoAtlas.Proofs.Manifest.Specifier
import RepoAtlas.Proofs.Manifest.Unfilled
import RepoAtlas.Proofs.Manifest.Version
import RepoAtlas.Proofs.Metrics
import RepoAtlas.Proofs.Number.Binary
import RepoAtlas.Proofs.Path
import RepoAtlas.Proofs.Pattern.Captured
import RepoAtlas.Proofs.Pattern.LineEnds
import RepoAtlas.Proofs.Pattern.MidLine
import RepoAtlas.Proofs.Pattern.Packing
import RepoAtlas.Proofs.Pattern.Reads
import RepoAtlas.Proofs.Pattern.Run
import RepoAtlas.Proofs.Pattern.Search
import RepoAtlas.Proofs.Pattern.Split
import RepoAtlas.Proofs.Pattern.Start
import RepoAtlas.Proofs.Risk.Monotone
import RepoAtlas.Proofs.Risk.Score
import RepoAtlas.Proofs.Scan
import RepoAtlas.Proofs.Script.Depth
import RepoAtlas.Proofs.Security
import RepoAtlas.Proofs.Security.Lines
import RepoAtlas.Proofs.Text.Basic
import RepoAtlas.Proofs.Text.Blank
import RepoAtlas.Proofs.Text.Case
import RepoAtlas.Proofs.Text.Cut
import RepoAtlas.Proofs.Text.Lines
import RepoAtlas.Risk.Policy
import RepoAtlas.Risk.Quality
import RepoAtlas.Risk.Score
import RepoAtlas.Scan
import RepoAtlas.Script.Depth
import RepoAtlas.Script.Expression
import RepoAtlas.Script.Literal
import RepoAtlas.Script.Name
import RepoAtlas.Script.Statement
import RepoAtlas.Script.Token
import RepoAtlas.Script.Tree
import RepoAtlas.Security
import RepoAtlas.Text.Basic
import RepoAtlas.Text.Blank
import RepoAtlas.Text.Case
import RepoAtlas.Text.CharName
import RepoAtlas.Text.CharName.Abjads
import RepoAtlas.Text.CharName.Alphabets
import RepoAtlas.Text.CharName.Antiquity
import RepoAtlas.Text.CharName.EastAsia
import RepoAtlas.Text.CharName.Forms
import RepoAtlas.Text.CharName.Further
import RepoAtlas.Text.CharName.Hieroglyphs
import RepoAtlas.Text.CharName.Mathematics
import RepoAtlas.Text.CharName.Phrases
import RepoAtlas.Text.CharName.Pictographs
import RepoAtlas.Text.CharName.Punctuation
import RepoAtlas.Text.CharName.Shapes
import RepoAtlas.Text.CharName.Syllabaries
import RepoAtlas.Text.CharTable
import RepoAtlas.Text.Glob
import RepoAtlas.Text.Lines
import RepoAtlas.Text.Quoted
import RepoAtlas.Text.Word
import RepoAtlas.Proofs.Risk.Quality
