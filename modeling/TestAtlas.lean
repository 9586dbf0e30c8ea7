import TestAtlas.Data.Json
import TestAtlas.Pdb.Session
import TestAtlas.Text.Casing
import TestAtlas.Text.Quoted
import TestAtlas.Trait
import TestAtlas.Signature
import TestAtlas.SymbolTable
import TestAtlas.Files.World
import TestAtlas.Pe.Imports
import TestAtlas.Pe.DebugInfo
import TestAtlas.Discovery
import TestAtlas.Files.Pattern
import TestAtlas.Resolver
import TestAtlas.Settings
import TestAtlas.Log.Context
import TestAtlas.Log.Policy
import TestAtlas.Log.Setup
import TestAtlas.Report.Location
import TestAtlas.Report.Listing
import TestAtlas.Report.Imports
import TestAtlas.CommandLine.Run
import TestAtlas.Main
import TestAtlas.Proofs.Pdb.History
import TestAtlas.Proofs.Scan.Growth
import TestAtlas.Proofs.Resolver.Tiers
import TestAtlas.Proofs.Resolver.Escalation
import TestAtlas.Proofs.Bytes.Reading
import TestAtlas.Proofs.Pdb.Paging
import TestAtlas.Proofs.Pdb.Layout
import TestAtlas.Proofs.Pdb.Writer
import TestAtlas.Proofs.Text.Utf8
import TestAtlas.Proofs.Pdb.Writer.Pages
import TestAtlas.Proofs.CodeView.LineTables
import TestAtlas.Proofs.CodeView.Procedures
import TestAtlas.Proofs.CodeView.Subsections
import TestAtlas.Proofs.Pdb.ModuleList
import TestAtlas.Proofs.Pdb.Writer.Strings
import TestAtlas.Proofs.Pdb.Writer.Modules
import TestAtlas.Proofs.Pdb.Writer.ModuleList
import TestAtlas.Proofs.Pdb.RoundTrip
import TestAtlas.Proofs.Scan.Ledger
import TestAtlas.Proofs.Scan.Watching
import TestAtlas.Proofs.Scan.Course
import TestAtlas.Proofs.Scan.Conservation
import TestAtlas.Proofs.Resolver.Ladder
import TestAtlas.Proofs.Resolver.Course
import TestAtlas.Proofs.Resolver.Containment
import TestAtlas.Proofs.Resolver.Stages
import TestAtlas.Proofs.Resolver.Repetition
import TestAtlas.Proofs.Pe.Headers
import TestAtlas.Proofs.Pe.Failures
import TestAtlas.Proofs.Pe.ImportTable
import TestAtlas.Proofs.CommandLine.Precedence
import TestAtlas.Proofs.CommandLine.Agreement
import TestAtlas.Proofs.Signature
import TestAtlas.Proofs.Pdb.Addressing
import TestAtlas.Proofs.Scan.Methods
import TestAtlas.Proofs.CommandLine.Findings
import TestAtlas.Proofs.CommandLine.Reading
import TestAtlas.Proofs.CommandLine.Substitution
import TestAtlas.Proofs.CommandLine.FormatOption
import TestAtlas.Proofs.CommandLine.ExitCodes
import TestAtlas.Proofs.Text.Split
import TestAtlas.Proofs.Symbol
import TestAtlas.Proofs.Trait.Decoding
import TestAtlas.Proofs.Trait.Inheritance
import TestAtlas.Proofs.CodeView.Accumulation
import TestAtlas.Proofs.CodeView.SymbolStream
import TestAtlas.Proofs.Bytes.Stretch
import TestAtlas.Proofs.CodeView.LinePlaces
import TestAtlas.Proofs.CodeView.ProcedurePlaces
import TestAtlas.Proofs.CodeView.Confinement
import TestAtlas.Proofs.Pdb.Modules
import TestAtlas.Proofs.Pdb.NamedStreams
import TestAtlas.Proofs.CodeView.ChecksumTables
import TestAtlas.Proofs.Pe.DebugEntries
import TestAtlas.Proofs.Files.Path
import TestAtlas.Proofs.Files.World
import TestAtlas.Proofs.Resolver.Imports
import TestAtlas.Proofs.Discovery
import TestAtlas.Proofs.Pe.Addresses
import TestAtlas.Proofs.Scan.Standard
import TestAtlas.Proofs.Files.Pattern
import TestAtlas.Proofs.CodeView.Rounds
import TestAtlas.Proofs.Pdb.Rounds
import TestAtlas.Proofs.CodeView.LineChoice
import TestAtlas.Proofs.CodeView.Rearrangement
import TestAtlas.Proofs.Pdb.LineOrder
import TestAtlas.Proofs.Trait.Unscoped
import TestAtlas.Proofs.Text.Replace
import TestAtlas.Proofs.Settings
import TestAtlas.Proofs.Data.Json
import TestAtlas.Proofs.Report.Selection
import TestAtlas.Proofs.Report.Listing
import TestAtlas.Proofs.CommandLine.SymbolList
