import Automation.Diagnostic.Queue
import Automation.Diagnostic.Terminal
import Automation.Guid.Text
import Automation.Text.Lowercase
import Automation.Source.SourceUnit
import Automation.Library.Descriptor
import Automation.Library.Builder
import Automation.Library.Standard
import Automation.Library.Draft
import Automation.Export.NameRegistry
import Automation.Export.Naming
import Automation.Export.Target
import Automation.Export.Describe
import Automation.Export.Function
import Automation.Export.Error
import Automation.Export.Inheritance
import Automation.Export.Exporter
import Automation.Library.Journal
import Automation.Proofs.Export.Ensures
import Automation.Proofs.Export.Commits
import Automation.Proofs.Export.DispatchIds
import Automation.Proofs.Walk
import Automation.Proofs.Export.Functions
import Automation.Proofs.Export.Scripts
import Automation.Proofs.Export.Filling
import Automation.Proofs.Export.Placing
import Automation.Proofs.Export.References
import Automation.Proofs.Export.Passes
import Automation.Proofs.Export.LayingOut
import Automation.Proofs.Export.Importing
import Automation.Proofs.Export.Building
import Automation.Proofs.Export.Libraries
import Automation.Proofs.Export.MemberIds
import Automation.Proofs.Export.Passing
import Automation.Proofs.Export.Inheriting
import Automation.Proofs.Export.Names
import Automation.Proofs.Export.Describing
import Automation.Proofs.Export.Implementing
import Automation.Proofs.Export.Units
import Automation.Proofs.Library.Crossings
import Automation.Proofs.Export.Ordering
import Automation.Proofs.Export.Tables
import Automation.Proofs.Export.VirtualTables
import Automation.Proofs.Export.Faults
import Automation.Proofs.Export.Rejections
import Automation.Proofs.Library.Journal
import Automation.Proofs.Export.Phases
import Automation.Proofs.Export.Saying
import Automation.Proofs.Export.Protocol
import Automation.Proofs.Export.Generating
import Automation.Proofs.Export.Scoping
import Automation.Proofs.Export.Accounting
import Automation.Proofs.Export.Supplying
import Automation.Proofs.Library.WellFormed
import Automation.Proofs.Export.Cores
import Automation.Proofs.Export.Sites
import Automation.Proofs.Export.Defaults
import Automation.Proofs.Export.Imported
import Automation.Proofs.Export.HandingOver
import Automation.Proofs.Library.Requests
import Automation.Proofs.Library.LayoutRules
import Automation.Proofs.Export.NameRequests
import Automation.Proofs.Export.Excluded
import Automation.Proofs.Export.Coupling
import Automation.Proofs.Export.Policies
import Automation.Proofs.Library.Likeness
import Automation.Proofs.Export.Widths
import Automation.Proofs.Export.Retargeting
import Automation.Proofs.Export.Abreast
import Automation.Proofs.Export.Twins
import Automation.Proofs.Export.Counterparts
import Automation.Proofs.Export.StatusCodes
import Automation.Proofs.Export.PointerWidths
import Automation.Proofs.Export.Losses
import Automation.Proofs.Export.Kinds
import Automation.Proofs.Export.Reasons
import Automation.Proofs.Export.DerivedGuids
import Automation.Proofs.Export.Scanning
import Automation.Proofs.Export.Numbering
import Automation.Proofs.Export.Continuing
import Automation.Proofs.Export.Reporting
import Automation.Proofs.Export.SiteReferences
import Automation.Proofs.Export.UsedImports
import Automation.Proofs.Export.Identities
import Automation.Proofs.Export.Overloads
import Automation.Proofs.Export.DeclaredIds
import Automation.Proofs.Export.Clearing
import Automation.Proofs.Export.ParameterNames
import Automation.Proofs.Export.AccessorNames
import Automation.Proofs.Export.ClassInterfaces
import Automation.Proofs.Utf16
import Automation.Proofs.Library.Blobs
import Automation.Proofs.Export.ParameterDefaults
import Automation.Proofs.Export.Variables
import Automation.Proofs.Export.SafeArrays
import Automation.Proofs.Export.NameOrder
import Automation.Proofs.Hex
import Automation.Proofs.Guids
import Automation.Proofs.Source.Loading
import Automation.Proofs.Diagnostic.Queue
import Automation.Proofs.Library.NameTable
import Automation.Proofs.Source.QualifiedNames
import Automation.Proofs.Export.Lookups
import Automation.Proofs.Tour
import Automation.Proofs.Export.BaseFirst
