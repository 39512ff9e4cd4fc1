import CodeAtlas.Build
import CodeAtlas.Config
import CodeAtlas.Dict
import CodeAtlas.Digest
import CodeAtlas.Entity
import CodeAtlas.Fault
import CodeAtlas.FileTree
import CodeAtlas.Glob.Basic
import CodeAtlas.Glob.Brace
import CodeAtlas.Glob.Segment
import CodeAtlas.Graph.Basic
import CodeAtlas.Graph.Index
import CodeAtlas.Html.Body
import CodeAtlas.Html.Building
import CodeAtlas.Html.CharacterReference
import CodeAtlas.Html.Document
import CodeAtlas.Html.HtmlReader
import CodeAtlas.Html.Open
import CodeAtlas.Html.Rules
import CodeAtlas.Html.Table
import CodeAtlas.Html.Token
import CodeAtlas.Json.Basic
import CodeAtlas.Json.Parse
import CodeAtlas.Languages
import CodeAtlas.Link
import CodeAtlas.Log
import CodeAtlas.Markdown.Attention
import CodeAtlas.Markdown.Block
import CodeAtlas.Markdown.Cell
import CodeAtlas.Markdown.Inline
import CodeAtlas.Markdown.MarkdownReader
import CodeAtlas.Markdown.Markup
import CodeAtlas.Number.Binary
import CodeAtlas.Number.Shortest
import CodeAtlas.Path
import CodeAtlas.Reader
import CodeAtlas.Reference
import CodeAtlas.Registry
import CodeAtlas.Repository
import CodeAtlas.Response
import CodeAtlas.Scan
import CodeAtlas.Schema
import CodeAtlas.Score
import CodeAtlas.Search.Bm25
import CodeAtlas.Search.Document
import CodeAtlas.Search.Retriever
import CodeAtlas.Search.Terms
import CodeAtlas.Service
import CodeAtlas.Similarity
import CodeAtlas.Snapshot
import CodeAtlas.Style.Sheet
import CodeAtlas.Style.SheetReader
import CodeAtlas.Style.Token
import CodeAtlas.Syntax.Python.Expression
import CodeAtlas.Syntax.Python.Grammar
import CodeAtlas.Syntax.Python.Symbols
import CodeAtlas.Syntax.Python.Token
import CodeAtlas.Syntax.Reading
import CodeAtlas.Syntax.Script.Expression
import CodeAtlas.Syntax.Script.Grammar
import CodeAtlas.Syntax.Script.Markup
import CodeAtlas.Syntax.Script.Member
import CodeAtlas.Syntax.Script.Pattern
import CodeAtlas.Syntax.Script.Read
import CodeAtlas.Syntax.Script.Statement
import CodeAtlas.Syntax.Script.Symbols
import CodeAtlas.Syntax.Script.Token
import CodeAtlas.Syntax.Script.Types
import CodeAtlas.Syntax.Symbols
import CodeAtlas.Syntax.Tree
import CodeAtlas.Text.Blank
import CodeAtlas.Text.Units
import CodeAtlas.Text.Utf8
import CodeAtlas.Unicode.Identifier
import CodeAtlas.Unicode.LetterNumber
import CodeAtlas.Unicode.LowerCase
import CodeAtlas.Unicode.NamedCharacter
import CodeAtlas.Unicode.Punctuation
import CodeAtlas.Unicode.RangeTable
import CodeAtlas.Unicode.UpperCase
import CodeAtlas.Proofs.Dict
import CodeAtlas.Proofs.Graph.Valid
import CodeAtlas.Proofs.Graph.Removal
import CodeAtlas.Proofs.Graph.Run
import CodeAtlas.Proofs.FileTree
import CodeAtlas.Proofs.Scan
import CodeAtlas.Proofs.Build.Merge
import CodeAtlas.Proofs.Build.Inventory
import CodeAtlas.Proofs.Discovery
import CodeAtlas.Proofs.Build.Whole
import CodeAtlas.Proofs.Build.Attach
import CodeAtlas.Proofs.Build.Change
import CodeAtlas.Proofs.Build.Refresh
import CodeAtlas.Proofs.Build.RefreshRun
import CodeAtlas.Proofs.Build.RefreshLinks
import CodeAtlas.Proofs.Build.Containment
import CodeAtlas.Proofs.Order
import CodeAtlas.Proofs.Graph.Stored
import CodeAtlas.Proofs.Graph.ShortestPath
import CodeAtlas.Proofs.Graph.Answers
import CodeAtlas.Proofs.DiscoveryOrder
import CodeAtlas.Proofs.Build.Unchanged
import CodeAtlas.Proofs.Saving
import CodeAtlas.Proofs.Build.Inspection
import CodeAtlas.Proofs.Build.Failures
import CodeAtlas.Proofs.Ranking
import CodeAtlas.Proofs.Search.Entities
import CodeAtlas.Proofs.Search.Documents
import CodeAtlas.Proofs.Reindexing
import CodeAtlas.Proofs.Build.Isolation
import CodeAtlas.Proofs.Calls
import CodeAtlas.Proofs.Number
import CodeAtlas.Proofs.Graph.Identity
import CodeAtlas.Proofs.ScanTree
import CodeAtlas.Proofs.Json.Strings
import CodeAtlas.Proofs.Number.Rounding
import CodeAtlas.Proofs.Number.Shortest
import CodeAtlas.Proofs.Json.Numbers
import CodeAtlas.Proofs.Json.RoundTrip
import CodeAtlas.Proofs.Number.Doubles
import CodeAtlas.Proofs.Number.Arithmetic
import CodeAtlas.Proofs.Schema
import CodeAtlas.Proofs.Search.Corpus
import CodeAtlas.Proofs.Search.Snapshot
import CodeAtlas.Proofs.SymbolLinks
import CodeAtlas.Proofs.Config.Layers
import CodeAtlas.Proofs.Config.Stages
import CodeAtlas.Proofs.Graph.LeastChain
import CodeAtlas.Proofs.Graph.Restoration
import CodeAtlas.Proofs.Similarity.LongestBlock
import CodeAtlas.Proofs.ExactScore
import CodeAtlas.Proofs.Similarity.Matched
import CodeAtlas.Proofs.Graph.Tables
import CodeAtlas.Proofs.Graph.InFile
import CodeAtlas.Proofs.Graph.NameSearch
import CodeAtlas.Proofs.Graph.Neighbourhood
import CodeAtlas.Proofs.Graph.Subgraph
import CodeAtlas.Proofs.Search.Related
import CodeAtlas.Proofs.Search.Fusion
import CodeAtlas.Proofs.Number.Signs
import CodeAtlas.Proofs.Search.Statistics
import CodeAtlas.Proofs.Search.DocumentOrder
import CodeAtlas.Proofs.Checking
import CodeAtlas.Proofs.Syntax.Tree
import CodeAtlas.Proofs.Syntax.Finds
import CodeAtlas.Proofs.Syntax.Python
import CodeAtlas.Proofs.Syntax.Script
import CodeAtlas.Proofs.Syntax.Members
import CodeAtlas.Proofs.Syntax.Parameters
import CodeAtlas.Proofs.RelativePath
import CodeAtlas.Proofs.Candidates
import CodeAtlas.Proofs.ModulePath
import CodeAtlas.Proofs.ImportRule
import CodeAtlas.Proofs.IgnoreFile
import CodeAtlas.Proofs.Registration
import CodeAtlas.Proofs.RepositoryPath
import CodeAtlas.Proofs.Similarity.Ranges
import CodeAtlas.Proofs.Search.Humps
import CodeAtlas.Proofs.Search.NameSegments
import CodeAtlas.Proofs.LowerCase
import CodeAtlas.Proofs.Search.Terms
import CodeAtlas.Proofs.Syntax.Errors
