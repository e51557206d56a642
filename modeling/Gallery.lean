import Gallery.Bus.Basic
import Gallery.Bus.Run
import Gallery.Catalog.Basic
import Gallery.Catalog.Caches
import Gallery.Catalog.Stats
import Gallery.CommandLine.Arguments
import Gallery.CommandLine.Report
import Gallery.CommandLine.Run
import Gallery.Config.Basic
import Gallery.Config.Dotenv
import Gallery.Config.Load
import Gallery.Decimal.Binary
import Gallery.Decimal.Fixed
import Gallery.Decimal.Shortest
import Gallery.Directory
import Gallery.Distinct
import Gallery.Epoch
import Gallery.Item.Basic
import Gallery.Item.CategoryTags
import Gallery.Json.Basic
import Gallery.Json.Parser
import Gallery.Json.Printer
import Gallery.Main
import Gallery.Memo
import Gallery.Proofs.Archive.Accounting
import Gallery.Proofs.Archive.Basic
import Gallery.Proofs.Archive.Effects
import Gallery.Proofs.Archive.Family
import Gallery.Proofs.Archive.Generations
import Gallery.Proofs.Archive.Labels
import Gallery.Proofs.Archive.Narrowing
import Gallery.Proofs.Archive.Ordering
import Gallery.Proofs.Archive.OwnName
import Gallery.Proofs.Archive.Rarity
import Gallery.Proofs.Archive.Ratings
import Gallery.Proofs.Archive.ReferenceScan
import Gallery.Proofs.Archive.Related
import Gallery.Proofs.Archive.Representation
import Gallery.Proofs.Archive.Shuffling
import Gallery.Proofs.Archive.Soundness
import Gallery.Proofs.Archive.Statistics
import Gallery.Proofs.Archive.StructuralFilters
import Gallery.Proofs.Archive.Terms
import Gallery.Proofs.Archive.TextSearch
import Gallery.Proofs.Archive.Transparency
import Gallery.Proofs.Archive.Weights
import Gallery.Proofs.Bus.Isolation
import Gallery.Proofs.Catalog.Coherent
import Gallery.Proofs.Catalog.Dated
import Gallery.Proofs.Catalog.Reads
import Gallery.Proofs.Catalog.Related
import Gallery.Proofs.Catalog.Statistics
import Gallery.Proofs.Catalog.TagTable
import Gallery.Proofs.Config.Precedence
import Gallery.Proofs.Config.ReadBack
import Gallery.Proofs.Item.Tags
import Gallery.Proofs.Query.Compose
import Gallery.Proofs.Query.Phrase
import Gallery.Proofs.Query.Plain
import Gallery.Proofs.Query.WellFormed
import Gallery.Proofs.Search.Hybrid
import Gallery.Proofs.Search.Narrowing
import Gallery.Proofs.Search.Ordered
import Gallery.Proofs.Search.Pages
import Gallery.Proofs.Search.Quoting
import Gallery.Proofs.Search.Rearranged
import Gallery.Proofs.Search.Reference
import Gallery.Proofs.Search.Route
import Gallery.Proofs.Search.Scan
import Gallery.Proofs.Search.Selection
import Gallery.Proofs.Search.Shuffling
import Gallery.Proofs.Search.SingleTerm
import Gallery.Proofs.Search.Structural
import Gallery.Proofs.Search.Terms
import Gallery.Proofs.Search.UnknownTerms
import Gallery.Proofs.Store.Batches
import Gallery.Proofs.Store.Change
import Gallery.Proofs.Store.Consistent
import Gallery.Proofs.Store.Family
import Gallery.Proofs.Store.Frame
import Gallery.Proofs.Store.Healthy
import Gallery.Proofs.Store.Labels
import Gallery.Proofs.Store.Moves
import Gallery.Proofs.Store.Recording
import Gallery.Proofs.Store.Replay
import Gallery.Proofs.Store.Sound
import Gallery.Proofs.Store.Tags
import Gallery.Proofs.Store.Texts
import Gallery.Proofs.Text.Bytes
import Gallery.Proofs.Text.FinalSigma
import Gallery.Proofs.Text.Lowering
import Gallery.Proofs.Text.Pattern
import Gallery.Proofs.Text.Words
import Gallery.Proofs.TextIndex.Grammar
import Gallery.Proofs.TextIndex.Phrases
import Gallery.Proofs.Weight.Exact
import Gallery.Proofs.Weight.Measure
import Gallery.Proofs.Weight.Overlap
import Gallery.Proofs.Weight.Rarity
import Gallery.Query.Basic
import Gallery.Query.Parser
import Gallery.Query.Route
import Gallery.Query.Token
import Gallery.Record.Basic
import Gallery.Record.Decode
import Gallery.Search.Basic
import Gallery.Search.Candidates
import Gallery.Search.Filter
import Gallery.Search.Nesting
import Gallery.Search.Order
import Gallery.Search.Results
import Gallery.Session
import Gallery.Store.Basic
import Gallery.Store.Read
import Gallery.Store.Snapshot
import Gallery.Store.Write
import Gallery.Tag.Category
import Gallery.Text.Blank
import Gallery.Text.Lowercase
import Gallery.Text.Lowercase.Context
import Gallery.Text.Lowercase.Table
import Gallery.Text.Pattern
import Gallery.Text.Piece
import Gallery.Text.Quoted
import Gallery.Text.Quoted.Unassigned
import Gallery.Text.Quoted.Unseen
import Gallery.Text.Ranges
import Gallery.TextIndex.Alphabet
import Gallery.TextIndex.Expression
import Gallery.TextIndex.Layout
import Gallery.TextIndex.Match
import Gallery.TextIndex.Separator
import Gallery.TextIndex.Token
import Gallery.Total
import Gallery.Weight.Basic
import Gallery.Weight.Cache
import Gallery.Weight.Scalar
import Gallery.Weight.Similarity
import Gallery.Word
import Gallery.Workspace.Address
import Gallery.Workspace.Basic
import Gallery.Workspace.Path
import Gallery.Writer
