import Preflight.Check.Basic
import Preflight.Check.Catalog
import Preflight.Check.Component
import Preflight.Check.Fault
import Preflight.Check.Operator
import Preflight.Check.Program
import Preflight.Check.Registry
import Preflight.Check.Release
import Preflight.Check.Script
import Preflight.Check.Upgrade
import Preflight.Check.Workload
import Preflight.Cluster.FieldPath
import Preflight.Cluster.Inventory
import Preflight.Cluster.Object
import Preflight.Cluster.ReadFailure
import Preflight.Cluster.ResourceType
import Preflight.Cluster.Selector
import Preflight.Cluster.Session
import Preflight.Cluster.Subscription
import Preflight.Entries
import Preflight.Finding.Basic
import Preflight.Finding.Condition
import Preflight.Json.Basic
import Preflight.Json.Decode
import Preflight.Json.Printer
import Preflight.Json.Reader
import Preflight.Proofs.Protocols
import Preflight.Proofs.Schedule
import Preflight.Proofs.Undisturbed
import Preflight.Report
import Preflight.Run.Cancellation
import Preflight.Run.Context
import Preflight.Run.Inspection
import Preflight.Run.Pool
import Preflight.Settings.Basic
import Preflight.Settings.File
import Preflight.Settings.SkipPattern
import Preflight.Standard.Catalog
import Preflight.Standard.ServingModes
import Preflight.Text.Blank
import Preflight.Text.Numeral
import Preflight.Text.Quoted
import Preflight.Text.Split
import Preflight.Text.Unseen
import Preflight.Timestamp
import Preflight.Toml.Document
import Preflight.Toml.Number
import Preflight.Toml.Quoted
import Preflight.Toml.Table
import Preflight.Version.Basic
import Preflight.Version.Text
import Preflight.Proofs.Evaluations
import Preflight.Proofs.CancelledRuns
import Preflight.Proofs.Answers
import Preflight.Proofs.Fields
import Preflight.Proofs.ServingModes
import Preflight.Proofs.Verdict
import Preflight.Proofs.Accounting
import Preflight.Proofs.Codecs
import Preflight.Proofs.TimestampText
import Preflight.Proofs.PrintedValues
import Preflight.Proofs.ReportText
import Preflight.Proofs.Isolation
import Preflight.Proofs.Absence
import Preflight.Proofs.MoreWorkers
import Preflight.Proofs.Occupancy
import Preflight.Proofs.ImpactOverrides
import Preflight.Proofs.SkipLists
import Preflight.Proofs.ProtocolChecks
import Preflight.Proofs.ReadAccounting
import Preflight.Proofs.TargetVersion
import Preflight.Proofs.Stamps
import Preflight.Proofs.ItemShapes
import Preflight.Proofs.Continuations
import Preflight.Proofs.ComponentCourses
import Preflight.Proofs.WorkloadCourses
import Preflight.Proofs.OperatorCourses
import Preflight.Proofs.TomlStrings
import Preflight.Proofs.VersionText
import Preflight.Proofs.TomlValues
import Preflight.Proofs.TomlDocuments
import Preflight.Proofs.SettingsFiles
import Preflight.Proofs.MetadataParts
import Preflight.Proofs.ObjectUpdates
import Preflight.Proofs.BuiltObjects
import Preflight.Proofs.ServingSections
import Preflight.Proofs.PathText
import Preflight.Proofs.JoinedPaths
import Preflight.Proofs.PathLookup
import Preflight.Proofs.SkipPatterns
import Preflight.Proofs.LenientVersions
import Preflight.Proofs.ReleaseVersions
import Preflight.Proofs.SelectorTerms
import Preflight.Proofs.FurtherStars
import Preflight.Proofs.Thresholds
import Preflight.Proofs.Registrations
import Preflight.Proofs.BuiltInventories
import Preflight.Proofs.RecordedReleases
