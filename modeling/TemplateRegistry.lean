import TemplateRegistry.Address.Host
import TemplateRegistry.Address.Label
import TemplateRegistry.Address.Punycode
import TemplateRegistry.Address.Url
import TemplateRegistry.Cache
import TemplateRegistry.Config
import TemplateRegistry.Database.Address
import TemplateRegistry.Database.Dialogue
import TemplateRegistry.Database.Document
import TemplateRegistry.Database.Engine
import TemplateRegistry.Database.Migration
import TemplateRegistry.Database.RowGroups
import TemplateRegistry.Database.Statement
import TemplateRegistry.Database.Store
import TemplateRegistry.Database.Wire
import TemplateRegistry.Diff.Comparison
import TemplateRegistry.Diff.Entry
import TemplateRegistry.Diff.Json
import TemplateRegistry.Error
import TemplateRegistry.Json.Basic
import TemplateRegistry.Json.Printer
import TemplateRegistry.Json.Reader
import TemplateRegistry.Json.Record
import TemplateRegistry.Json.Token
import TemplateRegistry.Main
import TemplateRegistry.Markup.Directive
import TemplateRegistry.Markup.Include
import TemplateRegistry.Markup.Json
import TemplateRegistry.Markup.Lookup
import TemplateRegistry.Markup.Piece
import TemplateRegistry.Markup.Render
import TemplateRegistry.Markup.Section
import TemplateRegistry.Number.Double
import TemplateRegistry.Number.Natural
import TemplateRegistry.Number.Numeral
import TemplateRegistry.Number.Shortest
import TemplateRegistry.Program
import TemplateRegistry.Proofs.Activations
import TemplateRegistry.Proofs.ActiveRenders
import TemplateRegistry.Proofs.ActiveVersions
import TemplateRegistry.Proofs.AcyclicComponents
import TemplateRegistry.Proofs.AlignedRows
import TemplateRegistry.Proofs.AppendedVersions
import TemplateRegistry.Proofs.BodyWidths
import TemplateRegistry.Proofs.CacheCoherence
import TemplateRegistry.Proofs.CacheEntries
import TemplateRegistry.Proofs.CacheHistories
import TemplateRegistry.Proofs.CacheTickets
import TemplateRegistry.Proofs.CachedInvariant
import TemplateRegistry.Proofs.CachedReads
import TemplateRegistry.Proofs.CachedRuns
import TemplateRegistry.Proofs.CanonicalTexts
import TemplateRegistry.Proofs.ComparisonDocuments
import TemplateRegistry.Proofs.CountedUses
import TemplateRegistry.Proofs.CycleSearch
import TemplateRegistry.Proofs.DatabaseAtomicity
import TemplateRegistry.Proofs.DatabaseComponents
import TemplateRegistry.Proofs.DatabaseReads
import TemplateRegistry.Proofs.DatabaseServer
import TemplateRegistry.Proofs.DatabaseSessions
import TemplateRegistry.Proofs.DatabaseStore
import TemplateRegistry.Proofs.DatabaseTemplates
import TemplateRegistry.Proofs.DatabaseTranscripts
import TemplateRegistry.Proofs.DatabaseWrites
import TemplateRegistry.Proofs.DeclarationPatches
import TemplateRegistry.Proofs.DeclaredRows
import TemplateRegistry.Proofs.DeletedFamilies
import TemplateRegistry.Proofs.Deletions
import TemplateRegistry.Proofs.Expansions
import TemplateRegistry.Proofs.FailedCalls
import TemplateRegistry.Proofs.FencedBlocks
import TemplateRegistry.Proofs.IncludeDepth
import TemplateRegistry.Proofs.IncludeGraph
import TemplateRegistry.Proofs.IncludeSites
import TemplateRegistry.Proofs.IntegerNumerals
import TemplateRegistry.Proofs.Interleaving
import TemplateRegistry.Proofs.JsonDocuments
import TemplateRegistry.Proofs.JsonTokens
import TemplateRegistry.Proofs.LengthLimits
import TemplateRegistry.Proofs.LoadedVersions
import TemplateRegistry.Proofs.LoadingQueue
import TemplateRegistry.Proofs.LogAccounts
import TemplateRegistry.Proofs.LogReplay
import TemplateRegistry.Proofs.ManagedStates
import TemplateRegistry.Proofs.ManagerRuns
import TemplateRegistry.Proofs.MemoryConsistency
import TemplateRegistry.Proofs.MemoryEffects
import TemplateRegistry.Proofs.MemoryFrames
import TemplateRegistry.Proofs.MirroredComparisons
import TemplateRegistry.Proofs.NormalFields
import TemplateRegistry.Proofs.NullParts
import TemplateRegistry.Proofs.PageSlots
import TemplateRegistry.Proofs.PositionalEntries
import TemplateRegistry.Proofs.PrefetchedComponents
import TemplateRegistry.Proofs.PrefetchedRender
import TemplateRegistry.Proofs.PrintableFiles
import TemplateRegistry.Proofs.PrintedPages
import TemplateRegistry.Proofs.ProgramRuns
import TemplateRegistry.Proofs.RenderedPlaceholders
import TemplateRegistry.Proofs.ReportedChanges
import TemplateRegistry.Proofs.Seams
import TemplateRegistry.Proofs.SectionTrees
import TemplateRegistry.Proofs.ServicePrograms
import TemplateRegistry.Proofs.StoredForms
import TemplateRegistry.Proofs.StoredHistory
import TemplateRegistry.Proofs.StoredRows
import TemplateRegistry.Proofs.StructuredExport
import TemplateRegistry.Proofs.SuppliedValues
import TemplateRegistry.Proofs.Tables
import TemplateRegistry.Proofs.TextLines
import TemplateRegistry.Proofs.TextParts
import TemplateRegistry.Proofs.UndisturbedServices
import TemplateRegistry.Proofs.ValueDocuments
import TemplateRegistry.Proofs.ValueEquality
import TemplateRegistry.Proofs.ValuesAsData
import TemplateRegistry.Proofs.VersionChronicles
import TemplateRegistry.Proofs.VersionSeries
import TemplateRegistry.Proofs.WholeNumbers
import TemplateRegistry.Record.Component
import TemplateRegistry.Record.Json
import TemplateRegistry.Record.Template
import TemplateRegistry.Report.Document
import TemplateRegistry.Report.Format
import TemplateRegistry.Report.Html
import TemplateRegistry.Report.Markdown
import TemplateRegistry.Report.Pdf
import TemplateRegistry.Report.Plain
import TemplateRegistry.Report.SideBySide
import TemplateRegistry.Service.Basic
import TemplateRegistry.Service.Comparing
import TemplateRegistry.Service.Lifecycle
import TemplateRegistry.Service.Rendering
import TemplateRegistry.Startup
import TemplateRegistry.Store.Cached
import TemplateRegistry.Store.Call
import TemplateRegistry.Store.Memory
import TemplateRegistry.Table
import TemplateRegistry.Template.Fields
import TemplateRegistry.Template.Json
import TemplateRegistry.Template.Parameter
import TemplateRegistry.Template.VersionLog
import TemplateRegistry.Text.Blank
import TemplateRegistry.Text.Bytes
import TemplateRegistry.Text.Composition
import TemplateRegistry.Text.Direction
import TemplateRegistry.Text.Joining
import TemplateRegistry.Text.Lines
import TemplateRegistry.Text.Mark
import TemplateRegistry.Text.Quoted
import TemplateRegistry.Text.Range
import TemplateRegistry.Text.Shape
import TemplateRegistry.Text.Variant
import TemplateRegistry.Time.Duration
import TemplateRegistry.Time.Timestamp
import TemplateRegistry.Value.Basic
import TemplateRegistry.Value.Reader
